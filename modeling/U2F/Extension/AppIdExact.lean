/-
**Whether the app ids list the origin.**

Against the check stands what it is for: the origin of a url is that of the grammar of urls, and a
document lists the origins of all the urls among its entries.  The check differs from that in the entries that it
does not get to, in texts that spell an origin otherwise, and in `__proto__`.

Main definitions:

* `UrlOrigin` — the origin of an http(s) url;
* `Facets.Lists` — the origins that a document lists;
* `Facets.Obstructed` — a document in which the loops do not find an origin;
* `XhrAppIdChecker.Allowed` — the app ids that an origin can use;
* `XhrAppIdChecker.Hidden`, `XhrAppIdChecker.Stray`, `XhrAppIdChecker.Refused` — kinds of app ids.

Main results:

* `Facets.lists_iff_of_plain` — a document of plain urls lists what is found in it;
* `XhrAppIdChecker.exact_iff` — **the check is exact, exactly if no app id is hidden or stray, or some
  app id is refused, or one is hidden and one is stray**.
-/

import U2F.Extension.AppIdCheck
import U2F.Lib.Uri

set_option relaxedAutoImplicit false
set_option autoImplicit false

namespace U2F

/-! ### The origin of a url -/

/-- The web schemes, with their default ports. -/
def webSchemes : List (JSString × JSString) :=
  [(js "http://", js "80"), (js "https://", js "443")]

/-- **The origin of an http(s) url**: the scheme, which is in any case, the host and the port. -/
def UrlOrigin (url origin : JSString) : Prop :=
  ∃ scheme defaultPort written rest, (scheme, defaultPort) ∈ webSchemes ∧
    url = written ++ rest ∧ written.map Uri.toLower = scheme ∧
    Uri.host rest ≠ [] ∧ origin = Uri.origin scheme defaultPort rest

/-- Case, a userinfo, a default port, a path and a query are not in the origin. -/
example : UrlOrigin (js "HTTPS://me@Example.com:443?x") (js "https://example.com") :=
  ⟨_, _, js "HTTPS://", js "me@Example.com:443?x", List.mem_cons_of_mem _ List.mem_cons_self,
    rfl, by decide, by decide, by decide⟩

/-- Another port is. -/
example : UrlOrigin (js "http://example.com:443/") (js "http://example.com:443") :=
  ⟨_, _, js "http://", js "example.com:443/", List.mem_cons_self, rfl, by decide, by decide,
    by decide⟩

/-- The text is the origin, or goes on after it with a slash: `http://` or `https://`, and something
without a slash. -/
def Spells (text origin : JSString) : Prop :=
  ∃ scheme part rest, (scheme = js "http://" ∨ scheme = js "https://") ∧ part ≠ [] ∧ 47 ∉ part ∧
    (∀ c ∈ rest.head?, c = 47) ∧ origin = scheme ++ part ∧ text = origin ++ rest

theorem takeWhile_slash_append {part rest : JSString} (hpart : 47 ∉ part)
    (hrest : ∀ c ∈ rest.head?, c = 47) : (part ++ rest).takeWhile (· ≠ 47) = part := by
  cases rest with
  | nil => rw [List.append_nil, Uri.takeWhile_ne_self hpart]
  | cons c rest =>
      obtain rfl : c = 47 := hrest c rfl
      exact Uri.takeWhile_ne_append_cons hpart rest

/-- What the text spells is what is matched in it. -/
theorem getOriginFromUrl_eq_some_iff {text origin : JSString} :
    getOriginFromUrl text = some origin ↔ Spells text origin := by
  constructor
  · intro h
    by_cases hurl : ∃ rest, IsWebUrl text rest
    · obtain ⟨rest, hurl⟩ := hurl
      obtain ⟨scheme, hscheme, rfl⟩ := hurl.cases
      rw [getOriginFromUrl_append hscheme] at h
      split at h
      · cases h
      case isFalse hpart =>
        obtain rfl := Option.some.inj h
        refine ⟨scheme, _, rest.dropWhile (· ≠ 47), hscheme, hpart, ?_, ?_, rfl, ?_⟩
        · intro hmem
          simpa using List.mem_takeWhile_imp hmem
        · intro c hc
          have hhead := List.head?_dropWhile_not (· ≠ (47 : UInt16)) rest
          rw [Option.mem_def.1 hc] at hhead
          simpa using hhead
        · rw [List.append_assoc, List.takeWhile_append_dropWhile]
    · rw [getOriginFromUrl_eq_none fun rest hrest => hurl ⟨rest, hrest⟩] at h
      cases h
  · rintro ⟨scheme, part, rest, hscheme, hne, hslash, hrest, rfl, rfl⟩
    rw [List.append_assoc, getOriginFromUrl_append hscheme, takeWhile_slash_append hslash hrest,
      if_neg hne]

namespace Facets

/-! ### The origins that a document lists -/

section

variable (E : JSEngine)

/-- **The origins that a document lists**: those of the urls among its entries. -/
def Lists (document : JSONValue E.Num) (origin : JSString) : Prop :=
  ∃ url, JSONValue.string url ∈ entries E document ∧ UrlOrigin url origin

/-- **The loops do not find the origin in the document.** -/
inductive Obstructed (document : JSONValue E.Num) (origin : JSString) : Prop
  /-- A block that does not count as true, or cannot be compared, comes before the first one of
  version 1.0. -/
  | block (h : ¬ Reached E document)
  /-- One of the entries before the first one that does not count as true cannot be converted to a
  text. -/
  | text (e : JSONValue E.Num) (hmem : e ∈ leading E document) (h : e.toText E = none)
  /-- None of these entries spells the origin. -/
  | missing (h : ∀ e ∈ leading E document, ∀ text, e.toText E = some text → ¬ Spells text origin)

end

variable {E : JSEngine} {document : JSONValue E.Num} {origin : JSString}

theorem reads_iff : Reads E document origin ↔ ¬ Obstructed E document origin := by
  constructor
  · intro hreads hobstructed
    cases hobstructed with
    | block h => exact h hreads.reached
    | text e hmem h => exact hreads.texts e hmem h
    | missing h =>
        obtain ⟨e, hmem, text, htext, horigin⟩ := hreads.hasOrigin
        exact h e hmem text htext (getOriginFromUrl_eq_some_iff.1 horigin)
  · intro hclear
    refine ⟨?_, ?_, ?_⟩
    · by_contra h
      exact hclear (.block h)
    · intro e hmem h
      exact hclear (.text e hmem h)
    · by_contra h
      refine hclear (.missing ?_)
      intro e hmem text htext hspells
      exact h ⟨e, hmem, text, htext, getOriginFromUrl_eq_some_iff.2 hspells⟩

/-- A url of a scheme and a name in lower case, without a userinfo and a port, and after it nothing or a
path. -/
def IsPlain (url : JSString) : Prop :=
  ∃ scheme name path, (scheme = js "http://" ∨ scheme = js "https://") ∧ name ≠ [] ∧
    (∀ c ∈ name, c ∉ Uri.genDelims ∧ Uri.toLower c = c) ∧ (∀ c ∈ path.head?, c = 47) ∧
    url = scheme ++ (name ++ path)

/-- A url has one of the schemes only. -/
theorem scheme_unique {scheme scheme' written rest tail : JSString}
    (hscheme : scheme = js "http://" ∨ scheme = js "https://")
    (hscheme' : scheme' = js "http://" ∨ scheme' = js "https://")
    (happend : written ++ rest = scheme ++ tail) (hlower : written.map Uri.toLower = scheme') :
    scheme' = scheme ∧ rest = tail := by
  have hlength : written.length = scheme'.length := by rw [← hlower, List.length_map]
  have hlong : ∀ t : JSString, t = js "http://" ∨ t = js "https://" → 7 ≤ t.length := by
    rintro t (rfl | rfl)
    · decide
    · decide
  have htake : written.take 7 = scheme.take 7 := by
    have h := congrArg (List.take 7) happend
    rwa [List.take_append_of_le_length (hlength ▸ hlong _ hscheme'),
      List.take_append_of_le_length (hlong _ hscheme)] at h
  -- the first seven letters tell the schemes apart
  have hsame : scheme'.take 7 = (scheme.take 7).map Uri.toLower := by
    rw [← hlower, ← List.map_take, htake]
  obtain rfl : scheme' = scheme := by
    rcases hscheme with rfl | rfl
    · rcases hscheme' with rfl | rfl
      · rfl
      · exact absurd hsame (by decide)
    · rcases hscheme' with rfl | rfl
      · exact absurd hsame (by decide)
      · rfl
  exact ⟨rfl, (List.append_inj happend hlength).2⟩

/-- The origin of a plain url is its scheme and its name. -/
theorem urlOrigin_iff_of_plain {scheme name path : JSString}
    (hscheme : scheme = js "http://" ∨ scheme = js "https://") (hne : name ≠ [])
    (hplain : ∀ c ∈ name, c ∉ Uri.genDelims ∧ Uri.toLower c = c)
    (hpath : ∀ c ∈ path.head?, c = 47) :
    UrlOrigin (scheme ++ (name ++ path)) origin ↔ origin = scheme ++ name := by
  have hends : ∀ c ∈ path.head?, Uri.endsAuthority c = true := by
    intro c hc
    rw [hpath c hc]
    decide
  constructor
  · rintro ⟨scheme', defaultPort, written, rest, hmem, happend, hlower, -, rfl⟩
    have hscheme' : scheme' = js "http://" ∨ scheme' = js "https://" := by
      simp only [webSchemes, List.mem_cons, List.not_mem_nil, or_false, Prod.mk.injEq] at hmem
      exact hmem.imp And.left And.left
    obtain ⟨rfl, rfl⟩ := scheme_unique hscheme hscheme' happend.symm hlower
    exact (Uri.origin_of_plain _ defaultPort hplain hends).2
  · rintro rfl
    obtain ⟨defaultPort, hmem⟩ : ∃ defaultPort, (scheme, defaultPort) ∈ webSchemes := by
      rcases hscheme with rfl | rfl
      · exact ⟨_, List.mem_cons_self⟩
      · exact ⟨_, List.mem_cons_of_mem _ List.mem_cons_self⟩
    have hlower : scheme.map Uri.toLower = scheme := by
      rcases hscheme with rfl | rfl
      · decide
      · decide
    obtain ⟨hhost, horigin⟩ := Uri.origin_of_plain scheme defaultPort hplain hends
    exact ⟨scheme, defaultPort, scheme, name ++ path, hmem, rfl, hlower, hhost.symm ▸ hne,
      horigin.symm⟩

/-- A plain url spells its origin. -/
theorem spells_iff_of_plain {url : JSString} (h : IsPlain url) :
    Spells url origin ↔ UrlOrigin url origin := by
  obtain ⟨scheme, name, path, hscheme, hne, hplain, hpath, rfl⟩ := h
  have hslash : 47 ∉ name := fun hmem => (hplain 47 hmem).1 (by decide)
  rw [urlOrigin_iff_of_plain hscheme hne hplain hpath, ← getOriginFromUrl_eq_some_iff,
    getOriginFromUrl_append hscheme, takeWhile_slash_append hslash hpath, if_neg hne,
    Option.some_inj, eq_comm]

/-- **A document of plain urls lists what is found in it.** -/
theorem lists_iff_of_plain (hreached : Reached E document)
    (h : ∀ e ∈ entries E document, ∃ url, IsPlain url ∧ e = .string url) :
    Lists E document origin ↔ ¬ Obstructed E document origin := by
  have hleading : leading E document = entries E document := by
    refine List.takeWhile_eq_self_iff.2 ?_
    intro e he
    obtain ⟨url, ⟨scheme, name, path, hscheme, -, -, -, rfl⟩, rfl⟩ := h e he
    rcases hscheme with rfl | rfl
    · rfl
    · rfl
  have hurl : ∀ e ∈ leading E document, ∃ url, IsPlain url ∧ e = .string url := by
    rw [hleading]
    exact h
  constructor
  · rintro ⟨url, hmem, horigin⟩ hobstructed
    cases hobstructed with
    | block hblock => exact hblock hreached
    | text e hmem hnone =>
        obtain ⟨url, -, rfl⟩ := hurl e hmem
        cases hnone
    | missing hmissing =>
        obtain ⟨url', hplain, heq⟩ := h _ hmem
        cases heq
        exact hmissing _ (hleading ▸ hmem) url rfl ((spells_iff_of_plain hplain).2 horigin)
  · rw [← reads_iff]
    intro hreads
    obtain ⟨e, hmem, text, htext, horigin⟩ := hreads.hasOrigin
    obtain ⟨url, hplain, rfl⟩ := hurl e hmem
    cases htext
    exact ⟨_, hleading ▸ hmem,
      (spells_iff_of_plain hplain).1 (getOriginFromUrl_eq_some_iff.1 horigin)⟩

end Facets

namespace XhrAppIdChecker

open Facets

/-! ### The kinds of app ids -/

variable (E : JSEngine) (fetches : JSString → Fetches) (allowHttp : Bool) (origin : JSString)
  (appIds : List JSString) (appId : JSString)

/-- The app id is an http(s) url that is permitted by `allowHttp`. -/
def IsPermitted : Prop :=
  ∃ urlOrigin, UrlOrigin appId urlOrigin ∧ (js "http://" <+: urlOrigin → allowHttp = true)

/-- **The origin can use the app id**: it is the origin, or an http(s) url whose document lists the
origin. -/
def Allowed : Prop :=
  appId = origin ∨ IsPermitted allowHttp appId ∧ ∃ document,
    HasDocument E fetches appId document ∧ Lists E document origin

/-- **The app id is hidden.** -/
inductive Hidden : Prop
  /-- It is `__proto__`, and so is the origin, but there is no other app id. -/
  | alone (hproto : appId = PROTO) (horigin : appId = origin) (h : ∀ b ∈ appIds, b = PROTO)
  /-- Its document lists the origin, which is not found, as it is not fetched or obstructed. -/
  | buried (hproto : appId ≠ PROTO) (horigin : appId ≠ origin)
      (hpermitted : IsPermitted allowHttp appId) (document : JSONValue E.Num)
      (hdocument : HasDocument E fetches appId document) (hlists : Lists E document origin)
      (h : IsFetched allowHttp appId → Obstructed E document origin)

/-- **The app id is stray.** -/
inductive Stray : Prop
  /-- It is `__proto__`, and the origin is not, but there is another app id. -/
  | ignored (hproto : appId = PROTO) (horigin : appId ≠ origin) (b : JSString) (hmem : b ∈ appIds)
      (h : b ≠ PROTO)
  /-- The origin is found in its document, which does not list it, or it is not a url. -/
  | found (hproto : appId ≠ PROTO) (horigin : appId ≠ origin)
      (hfetched : IsFetched allowHttp appId) (document : JSONValue E.Num)
      (hdocument : HasDocument E fetches appId document) (hclear : ¬ Obstructed E document origin)
      (h : IsPermitted allowHttp appId → ¬ Lists E document origin)

/-- **The app id is refused, and it has to be.** -/
inductive Refused : Prop
  /-- It is `__proto__`, and neither is the origin, nor is there another app id. -/
  | alone (hproto : appId = PROTO) (horigin : appId ≠ origin) (h : ∀ b ∈ appIds, b = PROTO)
  /-- It has no document. -/
  | noDocument (hproto : appId ≠ PROTO) (horigin : appId ≠ origin)
      (h : ∀ document, ¬ HasDocument E fetches appId document)
  /-- Its document does not list the origin, or it is not a url, and the origin is not found. -/
  | unlisted (hproto : appId ≠ PROTO) (horigin : appId ≠ origin) (document : JSONValue E.Num)
      (hdocument : HasDocument E fetches appId document)
      (hlists : IsPermitted allowHttp appId → ¬ Lists E document origin)
      (h : IsFetched allowHttp appId → Obstructed E document origin)

variable {E fetches allowHttp origin appIds appId}

theorem HasDocument.unique {document document' : JSONValue E.Num}
    (h : HasDocument E fetches appId document) (h' : HasDocument E fetches appId document') :
    document' = document := by
  obtain ⟨text, hfinal, hparse⟩ := h
  obtain ⟨text', hfinal', hparse'⟩ := h'
  cases hfinal.symm.trans hfinal'
  exact Option.some.inj (hparse'.symm.trans hparse)

theorem HasDocument.exists_iff {document : JSONValue E.Num}
    (h : HasDocument E fetches appId document) {Q : JSONValue E.Num → Prop} :
    (∃ d, HasDocument E fetches appId d ∧ Q d) ↔ Q document := by
  constructor
  · rintro ⟨d, hd, hq⟩
    rwa [← h.unique hd]
  · intro hq
    exact ⟨document, h, hq⟩

theorem not_isPermitted_PROTO : ¬ IsPermitted allowHttp PROTO := by
  rintro ⟨-, ⟨scheme, defaultPort, written, rest, hmem, happend, hlower, -⟩, -⟩
  -- the first letter of a scheme is not an underscore
  have hhead : (written ++ rest).head? = some 95 := by
    rw [← happend]
    decide
  have hscheme : scheme.head? = some 104 := by
    simp only [webSchemes, List.mem_cons, List.not_mem_nil, or_false, Prod.mk.injEq] at hmem
    rcases hmem with ⟨rfl, -⟩ | ⟨rfl, -⟩
    · decide
    · decide
  rw [← hlower] at hscheme
  cases written with
  | nil => cases hscheme
  | cons c written =>
      obtain rfl : c = 95 := Option.some.inj hhead
      exact absurd hscheme (by simp [Uri.toLower])

theorem allowed_PROTO_iff : Allowed E fetches allowHttp origin PROTO ↔ PROTO = origin :=
  or_iff_left fun h => not_isPermitted_PROTO h.1

theorem passed_PROTO_iff :
    Passed E fetches allowHttp origin appIds PROTO ↔ ∃ b ∈ appIds, b ≠ PROTO := by
  rw [Passed, if_pos rfl]

section

variable (hproto : appId ≠ PROTO) (horigin : appId ≠ origin)

include horigin in
theorem allowed_iff {document : JSONValue E.Num} (h : HasDocument E fetches appId document) :
    Allowed E fetches allowHttp origin appId ↔
      IsPermitted allowHttp appId ∧ Lists E document origin := by
  rw [Allowed, or_iff_right horigin, h.exists_iff]

include hproto horigin in
theorem passed_iff {document : JSONValue E.Num} (h : HasDocument E fetches appId document) :
    Passed E fetches allowHttp origin appIds appId ↔
      IsFetched allowHttp appId ∧ ¬ Obstructed E document origin := by
  rw [Passed, if_neg hproto, or_iff_right horigin, h.exists_iff, reads_iff]

include hproto horigin in
/-- Without a document the app id is neither allowed nor does it pass. -/
theorem not_allowed_not_passed (h : ∀ document, ¬ HasDocument E fetches appId document) :
    ¬ Allowed E fetches allowHttp origin appId ∧
      ¬ Passed E fetches allowHttp origin appIds appId := by
  rw [Allowed, Passed, if_neg hproto, or_iff_right horigin, or_iff_right horigin]
  constructor
  · rintro ⟨-, document, hdocument, -⟩
    exact h document hdocument
  · rintro ⟨-, document, hdocument, -⟩
    exact h document hdocument

end

/-- An app id that is the origin passes, if it is not `__proto__`. -/
theorem ne_origin_of_not_passed (hproto : appId ≠ PROTO)
    (h : ¬ Passed E fetches allowHttp origin appIds appId) : appId ≠ origin := by
  intro horigin
  rw [Passed, if_neg hproto] at h
  exact h (.inl horigin)

/-- The hidden app ids are allowed and do not pass. -/
theorem hidden_iff : Hidden E fetches allowHttp origin appIds appId ↔
    Allowed E fetches allowHttp origin appId ∧
      ¬ Passed E fetches allowHttp origin appIds appId := by
  constructor
  · intro h
    cases h with
    | alone hproto horigin h =>
        subst hproto
        rw [allowed_PROTO_iff, passed_PROTO_iff]
        refine ⟨horigin, ?_⟩
        rintro ⟨b, hb, hne⟩
        exact hne (h b hb)
    | buried hproto horigin hpermitted document hdocument hlists h =>
        rw [allowed_iff horigin hdocument, passed_iff hproto horigin hdocument]
        refine ⟨⟨hpermitted, hlists⟩, ?_⟩
        rintro ⟨hfetched, hclear⟩
        exact hclear (h hfetched)
  · rintro ⟨hallowed, hpassed⟩
    by_cases hproto : appId = PROTO
    · subst hproto
      refine .alone rfl (allowed_PROTO_iff.1 hallowed) ?_
      intro b hb
      by_contra hne
      exact hpassed (passed_PROTO_iff.2 ⟨b, hb, hne⟩)
    · have horigin := ne_origin_of_not_passed hproto hpassed
      obtain ⟨hpermitted, document, hdocument, hlists⟩ := hallowed.resolve_left horigin
      rw [passed_iff hproto horigin hdocument] at hpassed
      refine .buried hproto horigin hpermitted document hdocument hlists ?_
      intro hfetched
      by_contra hclear
      exact hpassed ⟨hfetched, hclear⟩

/-- The stray app ids pass and are not allowed. -/
theorem stray_iff : Stray E fetches allowHttp origin appIds appId ↔
    Passed E fetches allowHttp origin appIds appId ∧
      ¬ Allowed E fetches allowHttp origin appId := by
  constructor
  · intro h
    cases h with
    | ignored hproto horigin b hmem h =>
        subst hproto
        rw [allowed_PROTO_iff, passed_PROTO_iff]
        exact ⟨⟨b, hmem, h⟩, horigin⟩
    | found hproto horigin hfetched document hdocument hclear h =>
        rw [allowed_iff horigin hdocument, passed_iff hproto horigin hdocument]
        refine ⟨⟨hfetched, hclear⟩, ?_⟩
        rintro ⟨hpermitted, hlists⟩
        exact h hpermitted hlists
  · rintro ⟨hpassed, hallowed⟩
    have horigin : appId ≠ origin := fun h => hallowed (.inl h)
    by_cases hproto : appId = PROTO
    · subst hproto
      obtain ⟨b, hb, hne⟩ := passed_PROTO_iff.1 hpassed
      exact .ignored rfl horigin b hb hne
    · by_cases hnone : ∀ document, ¬ HasDocument E fetches appId document
      · exact absurd hpassed (not_allowed_not_passed hproto horigin hnone).2
      · push Not at hnone
        obtain ⟨document, hdocument⟩ := hnone
        rw [allowed_iff horigin hdocument] at hallowed
        obtain ⟨hfetched, hclear⟩ := (passed_iff hproto horigin hdocument).1 hpassed
        exact .found hproto horigin hfetched document hdocument hclear
          fun hpermitted hlists => hallowed ⟨hpermitted, hlists⟩

/-- The refused app ids are not allowed and do not pass. -/
theorem refused_iff : Refused E fetches allowHttp origin appIds appId ↔
    ¬ Passed E fetches allowHttp origin appIds appId ∧
      ¬ Allowed E fetches allowHttp origin appId := by
  constructor
  · intro h
    cases h with
    | alone hproto horigin h =>
        subst hproto
        rw [allowed_PROTO_iff, passed_PROTO_iff]
        refine ⟨?_, horigin⟩
        rintro ⟨b, hb, hne⟩
        exact hne (h b hb)
    | noDocument hproto horigin h => exact (not_allowed_not_passed hproto horigin h).symm
    | unlisted hproto horigin document hdocument hlists h =>
        rw [allowed_iff horigin hdocument, passed_iff hproto horigin hdocument]
        constructor
        · rintro ⟨hfetched, hclear⟩
          exact hclear (h hfetched)
        · rintro ⟨hpermitted, hlists'⟩
          exact hlists hpermitted hlists'
  · rintro ⟨hpassed, hallowed⟩
    have horigin : appId ≠ origin := fun h => hallowed (.inl h)
    by_cases hproto : appId = PROTO
    · subst hproto
      refine .alone rfl horigin ?_
      intro b hb
      by_contra hne
      exact hpassed (passed_PROTO_iff.2 ⟨b, hb, hne⟩)
    · by_cases hnone : ∀ document, ¬ HasDocument E fetches appId document
      · exact .noDocument hproto horigin hnone
      · push Not at hnone
        obtain ⟨document, hdocument⟩ := hnone
        rw [allowed_iff horigin hdocument] at hallowed
        rw [passed_iff hproto horigin hdocument] at hpassed
        refine .unlisted hproto horigin document hdocument ?_ ?_
        · intro hpermitted hlists
          exact hallowed ⟨hpermitted, hlists⟩
        · intro hfetched
          by_contra hclear
          exact hpassed ⟨hfetched, hclear⟩

/-- **The check is exact, exactly if no app id is hidden or stray, or some app id is refused, or one is
hidden and one is stray.** -/
theorem exact_iff (E : JSEngine) (fetches : JSString → Fetches) (origin : JSString)
    (appIds : List JSString) (allowHttp : Bool) :
    (((fresh fetches).checkAppIds E origin appIds allowHttp).1 = some true ↔
      appIds ≠ [] ∧ ∀ appId ∈ appIds, Allowed E fetches allowHttp origin appId) ↔
    (∀ appId ∈ appIds, ¬ Stray E fetches allowHttp origin appIds appId ∧
        ¬ Hidden E fetches allowHttp origin appIds appId) ∨
      (∃ appId ∈ appIds, Refused E fetches allowHttp origin appIds appId) ∨
      (∃ appId ∈ appIds, Stray E fetches allowHttp origin appIds appId) ∧
      (∃ appId ∈ appIds, Hidden E fetches allowHttp origin appIds appId) := by
  rw [checkAppIds_eq_true_iff]
  exact Traverse.forall_iff_forall_iff (fun _ _ => stray_iff) (fun _ _ => hidden_iff)
    fun _ _ => refused_iff

/-! ### A list of facets that begins with an empty string -/

section Examples

/-- The text of a list of facets: an empty string and a url. -/
def facetList : JSString := js "[\"\",\"https://example.com\"]"

/-- `JSON.parse` of this text. -/
def facetEngine : JSEngine where
  Num := ℤ
  numberEquals n k := n = k
  stringEquals _ _ := false
  numberToString n := js (toString n)
  parse text :=
    if text = facetList then some (.array [.string [], .string (js "https://example.com")]) else none

/-- The text is fetched after a failure. -/
def facetFetches (_ : JSString) : Fetches where
  failures := [500]
  retried := by decide
  final := .ok facetList
  final_failure := by rintro rc ⟨⟩

/-- **A url that comes after an empty string is not found**: the origin can use the app id, but the
check does not allow it. -/
theorem not_checkAppIds_facetList :
    ((fresh facetFetches).checkAppIds facetEngine (js "https://example.com")
      [js "https://example.com/facets"] false).1 = some false ∧
    ∀ appId ∈ [js "https://example.com/facets"],
      Allowed facetEngine facetFetches false (js "https://example.com") appId := by
  constructor
  · decide
  · intro appId hmem
    rw [List.mem_singleton.1 hmem]
    have hparse : facetEngine.parse facetList =
        some (.array [.string [], .string (js "https://example.com")]) := by
      change (if facetList = facetList then _ else none) = _
      exact if_pos rfl
    have horigin : ∀ rest, Uri.host rest = js "example.com" → Uri.port rest = [] →
        UrlOrigin (js "https://" ++ rest) (js "https://example.com") := by
      intro rest hhost hport
      refine ⟨js "https://", js "443", js "https://", rest,
        List.mem_cons_of_mem _ List.mem_cons_self, rfl, by decide, ?_, ?_⟩
      · rw [hhost]
        decide
      · rw [Uri.origin, hhost, hport]
        decide
    refine .inr ⟨⟨js "https://example.com", ?_, ?_⟩, _, ⟨facetList, rfl, hparse⟩, ?_⟩
    · exact horigin (js "example.com/facets") (by decide) (by decide)
    · intro hpre
      exact absurd hpre (by decide)
    · exact ⟨_, List.mem_cons_of_mem _ List.mem_cons_self,
        horigin (js "example.com") (by decide) (by decide)⟩

end Examples

end XhrAppIdChecker

end U2F
