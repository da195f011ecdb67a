/-
**What is found in the documents of app ids.**

`appid.js`.  The facets of an app id are fetched, again and again until there is an answer, and the
origin has to be that of one of them.  A loop of the source ends at the first entry that does not count
as true, and not at the end of the list.

Main definitions:

* `getOriginsFromJson` — the origins of a document;
* `XhrAppIdChecker.checkAppIds` — the check of all app ids;
* `Facets.entries`, `Facets.leading` — the entries of a document, and those that are read;
* `XhrAppIdChecker.Passed` — the app ids that the check passes.

Main results:

* `mem_getOriginsFromJson` — **what is found in a document**;
* `fetchAllowedOriginsForAppId_of_fetched` — the last answer decides;
* `XhrAppIdChecker.checkAppIds_eq_true_iff` — **what is allowed by the check**.
-/

import U2F.Extension.EtldOriginCheck
import U2F.Extension.JSONValue

set_option relaxedAutoImplicit false
set_option autoImplicit false

namespace U2F

/-! ### The origins of a document -/

section Source

variable (E : JSEngine)

/-- The block is of version 1.0. -/
def isVersion10 (versionBlock : JSONValue E.Num) : Option Bool := do
  match ← versionBlock.get E (js "version") with
  | none => return false
  | some version =>
      if !version.isTruthy E then return false
      else
        let isMajor ← JSONValue.looselyEquals E (← version.get E (js "major")) 1
        if !isMajor then return false
        else JSONValue.looselyEquals E (← version.get E (js "minor")) 0

/-- The loop over the trusted facets; `some none` is `undefined`. -/
def findIds : List (JSONValue E.Num) → Option (Option (JSONValue E.Num))
  | [] => some none
  | versionBlock :: rest =>
      if !versionBlock.isTruthy E then some none
      else do
        if ← isVersion10 E versionBlock then versionBlock.get E (js "ids") else findIds rest

/-- The urls of parsed data. -/
def urlsOf (appIdData : JSONValue E.Num) : Option (Option (JSONValue E.Num)) :=
  match appIdData with
  | .array _ => some (some appIdData)
  | _ => do
      match ← appIdData.get E (js "trustedFacets") with
      | none => return none
      | some trustedFacets =>
          if trustedFacets.isTruthy E then findIds E (trustedFacets.items E) else return none

/-- The loop over the urls. -/
def originsFrom : List (JSONValue E.Num) → List JSString → Option (List JSString)
  | [], origins => some origins
  | url :: rest, origins =>
      if !url.isTruthy E then some origins
      else do
        let text ← url.toText E
        match getOriginFromUrl text with
        | some origin => originsFrom rest (JSObject.put origins origin)
        | none => originsFrom rest origins

/-- Parses the text as JSON; an exception is caught. -/
def getOriginsFromJson (text : JSString) : List JSString :=
  let origins := do
    let appIdData ← E.parse text
    match ← urlsOf E appIdData with
    | none => none
    | some .null => none
    | some urls => originsFrom E (urls.items E) []
  origins.getD []

end Source

/-! ### The check -/

/-- The answer to a fetch: a text, or a status together with whether the timer has expired by then. -/
inductive FetchResult
  | text (text : JSString)
  | failure (rc : ℤ) (expired : Bool)

/-- Fetches the allowed origins for an app id, from the answers to its fetches; `none` is a promise that
is still pending. -/
def fetchAllowedOriginsForAppId (E : JSEngine) (allowHttp : Bool) (appId : JSString)
    (results : List FetchResult) : Option (List JSString) :=
  if appId = [] then some []
  else if js "http://" <+: appId ∧ !allowHttp then some []
  else
    match getOriginFromUrl appId with
    | none => some []
    | some _ =>
        match results with
        | [] => none
        | .text text :: _ => some (getOriginsFromJson E text)
        | .failure rc expired :: rest =>
            if !(400 ≤ rc && rc < 500) && !expired then
              fetchAllowedOriginsForAppId E allowHttp appId rest
            else some []

structure XhrAppIdChecker where
  /-- The answers to the fetches of a url. -/
  fetcher : JSString → List FetchResult
  /-- The timer has been set. -/
  timerSet : Bool

namespace XhrAppIdChecker

variable (E : JSEngine)

/-- Checks if a single app id can be asserted by the given origin. -/
def checkAppId (checker : XhrAppIdChecker) (origin : JSString) (allowHttp : Bool)
    (appId : JSString) : Option Bool :=
  if appId = origin then some true
  else
    (fetchAllowedOriginsForAppId E allowHttp appId (checker.fetcher appId)).map
      fun allowedOrigins => decide (origin ∈ allowedOrigins)

/-- Checks whether all the app ids provided can be asserted by the given origin. -/
def checkAppIds (checker : XhrAppIdChecker) (origin : JSString) (appIds : List JSString)
    (allowHttp : Bool) : Option Bool × XhrAppIdChecker :=
  if checker.timerSet then (some false, checker)
  else
    let checker := { checker with timerSet := true }
    let distinctAppIds := appIds.foldl JSObject.put []
    if distinctAppIds.isEmpty then (some false, checker)
    else if distinctAppIds.all fun appId => appId = origin then (some true, checker)
    else
      let results := distinctAppIds.mapM (checker.checkAppId E origin allowHttp)
      (results.map fun results => results.all id, checker)

end XhrAppIdChecker

/-! ### What is found in a document -/

theorem getOriginFromUrl_ne_PROTO {url origin : JSString} (h : getOriginFromUrl url = some origin) :
    origin ≠ PROTO := by
  by_cases hurl : ∃ rest, IsWebUrl url rest
  · obtain ⟨rest, hurl⟩ := hurl
    obtain ⟨scheme, hscheme, rfl⟩ := hurl.cases
    rw [getOriginFromUrl_append hscheme] at h
    split at h
    · cases h
    · obtain rfl := Option.some.inj h
      rcases hscheme with rfl | rfl
      · rintro ⟨⟩
      · rintro ⟨⟩
  · rw [getOriginFromUrl_eq_none fun rest hrest => hurl ⟨rest, hrest⟩] at h
    cases h

namespace Facets

variable (E : JSEngine)

/-- The entry is of the origin, once it is converted to a text. -/
def HasOrigin (entry : JSONValue E.Num) (origin : JSString) : Prop :=
  ∃ text, entry.toText E = some text ∧ getOriginFromUrl text = some origin

/-- The blocks of an object. -/
def blocks (document : JSONValue E.Num) : List (JSONValue E.Num) :=
  match document.get E (js "trustedFacets") with
  | some (some trustedFacets) => trustedFacets.items E
  | _ => []

/-- The entries of a block. -/
def idsOf (versionBlock : JSONValue E.Num) : List (JSONValue E.Num) :=
  match versionBlock.get E (js "ids") with
  | some (some ids) => ids.items E
  | _ => []

/-- A block of version 1.0. -/
def IsCurrent (versionBlock : JSONValue E.Num) : Bool := isVersion10 E versionBlock = some true

/-- **The entries of a document**: those of an array, or of the first block of version 1.0. -/
def entries (document : JSONValue E.Num) : List (JSONValue E.Num) :=
  match document with
  | .array items => items
  | _ =>
      match (blocks E document).find? (IsCurrent E) with
      | some versionBlock => idsOf E versionBlock
      | none => []

/-- The loop over the blocks gets to the first block of version 1.0. -/
def Reached (document : JSONValue E.Num) : Prop :=
  match document with
  | .array _ => True
  | _ => ∀ versionBlock ∈ (blocks E document).takeWhile fun b => !IsCurrent E b,
      versionBlock.isTruthy E = true ∧ isVersion10 E versionBlock ≠ none

/-- The entries before the first one that does not count as true. -/
def leading (document : JSONValue E.Num) : List (JSONValue E.Num) :=
  (entries E document).takeWhile (JSONValue.isTruthy E)

variable {E}

/-- A block of version 1.0 counts as true. -/
theorem isTruthy_of_isCurrent {versionBlock : JSONValue E.Num} (h : IsCurrent E versionBlock = true) :
    versionBlock.isTruthy E = true := by
  cases versionBlock with
  | object properties => rfl
  | array items => rfl
  | null => simp [IsCurrent, isVersion10, JSONValue.get] at h
  | bool b => simp [IsCurrent, isVersion10, JSONValue.get] at h
  | number n => simp [IsCurrent, isVersion10, JSONValue.get] at h
  | string s => simp [IsCurrent, isVersion10, JSONValue.get] at h

/-- **What the loop over the blocks finds**: the ids of the first block of version 1.0, if it is
reached. -/
theorem findIds_eq_iff {versionBlocks : List (JSONValue E.Num)} {ids : JSONValue E.Num} :
    findIds E versionBlocks = some (some ids) ↔
      (∃ b, versionBlocks.find? (IsCurrent E) = some b ∧ b.get E (js "ids") = some (some ids)) ∧
        ∀ b ∈ versionBlocks.takeWhile fun b => !IsCurrent E b,
          b.isTruthy E = true ∧ isVersion10 E b ≠ none := by
  induction versionBlocks with
  | nil => simp [findIds]
  | cons versionBlock rest ih =>
      rw [findIds]
      by_cases hcurrent : IsCurrent E versionBlock = true
      · have htruthy := isTruthy_of_isCurrent hcurrent
        have hversion : isVersion10 E versionBlock = some true := of_decide_eq_true hcurrent
        rw [List.find?_cons_of_pos hcurrent, List.takeWhile_cons_of_neg (by simp [hcurrent])]
        simp [htruthy, hversion]
      · rw [List.find?_cons_of_neg hcurrent, List.takeWhile_cons_of_pos (by simp [hcurrent])]
        have hversion : isVersion10 E versionBlock ≠ some true := fun h => hcurrent (decide_eq_true h)
        rw [List.forall_mem_cons]
        by_cases htruthy : versionBlock.isTruthy E = true
        · rcases hresult : isVersion10 E versionBlock with _ | isCurrent
          · simp [htruthy]
          · cases isCurrent with
            | true => exact absurd hresult hversion
            | false => simp [htruthy, ih]
        · simp [htruthy]

/-- **What the loop over the urls finds**: the origins of the leading entries, if each can be
converted. -/
theorem originsFrom_iff {es : List (JSONValue E.Num)} {origins : List JSString} {origin : JSString} :
    (∃ found, originsFrom E es origins = some found ∧ origin ∈ found) ↔
      (∀ e ∈ es.takeWhile (JSONValue.isTruthy E), e.toText E ≠ none) ∧
        (origin ∈ origins ∨
          ∃ e ∈ es.takeWhile (JSONValue.isTruthy E), HasOrigin E e origin) := by
  induction es generalizing origins with
  | nil => simp [originsFrom]
  | cons e es ih =>
      rw [originsFrom]
      by_cases htruthy : e.isTruthy E = true
      · rw [List.takeWhile_cons_of_pos htruthy, List.forall_mem_cons]
        rcases htext : e.toText E with _ | text
        · simp [htruthy]
        · rcases hurl : getOriginFromUrl text with _ | o
          · have hno : ¬ HasOrigin E e origin := by
              rintro ⟨t, ht, ho⟩
              rw [htext] at ht
              obtain rfl := Option.some.inj ht
              rw [hurl] at ho
              cases ho
            simp [htruthy, hurl, ih, hno]
          · have hhas : HasOrigin E e origin ↔ origin = o := by
              constructor
              · rintro ⟨t, ht, ho⟩
                rw [htext] at ht
                obtain rfl := Option.some.inj ht
                exact Option.some.inj (ho.symm.trans hurl)
              · rintro rfl
                exact ⟨text, htext, hurl⟩
            have hne := getOriginFromUrl_ne_PROTO hurl
            simp [htruthy, hurl, ih, hhas, JSObject.mem_put, hne, or_assoc]
      · rw [List.takeWhile_cons_of_neg htruthy]
        simp [htruthy]

theorem items_of_not_isTruthy {value : JSONValue E.Num} (h : ¬ value.isTruthy E = true) :
    value.items E = [] := by
  cases value with
  | string s => rw [JSONValue.items, List.map_eq_nil_iff]; simpa [JSONValue.isTruthy] using h
  | array items => exact absurd rfl h
  | object properties => exact absurd rfl h
  | null => rfl
  | bool b => rfl
  | number n => rfl

/-- The urls of an object are the ids that the loop over its blocks finds. -/
theorem urlsOf_object {document : JSONValue E.Num} (h : ∀ items, document ≠ .array items)
    {urls : JSONValue E.Num} :
    urlsOf E document = some (some urls) ↔ findIds E (blocks E document) = some (some urls) := by
  have hdef : urlsOf E document = (do
      match ← document.get E (js "trustedFacets") with
      | none => return none
      | some trustedFacets =>
          if trustedFacets.isTruthy E then findIds E (trustedFacets.items E) else return none) := by
    cases document with
    | array items => exact absurd rfl (h items)
    | _ => rfl
  rw [hdef, blocks]
  rcases hget : document.get E (js "trustedFacets") with _ | _ | trustedFacets
  · simp [findIds]
  · simp [findIds]
  · by_cases htruthy : trustedFacets.isTruthy E = true
    · simp [htruthy]
    · simp [htruthy, items_of_not_isTruthy htruthy, findIds]

/-- **The urls that are read are the entries of the document**, if they are reached. -/
theorem exists_urls_iff {document : JSONValue E.Num} {Q : List (JSONValue E.Num) → Prop}
    (hQ : ¬ Q []) :
    (∃ urls, urlsOf E document = some (some urls) ∧ Q (urls.items E)) ↔
      Reached E document ∧ Q (entries E document) := by
  by_cases harray : ∃ items, document = .array items
  · obtain ⟨items, rfl⟩ := harray
    constructor
    · rintro ⟨urls, hurls, hq⟩
      cases hurls
      exact ⟨trivial, hq⟩
    · rintro ⟨-, hq⟩
      exact ⟨_, rfl, hq⟩
  · have hobject : ∀ items, document ≠ .array items := fun items h => harray ⟨items, h⟩
    have hreached : Reached E document ↔
        ∀ b ∈ (blocks E document).takeWhile fun b => !IsCurrent E b,
          b.isTruthy E = true ∧ isVersion10 E b ≠ none := by
      cases document with
      | array items => exact absurd rfl (hobject items)
      | _ => rfl
    have hentries : entries E document = match (blocks E document).find? (IsCurrent E) with
        | some versionBlock => idsOf E versionBlock
        | none => [] := by
      cases document with
      | array items => exact absurd rfl (hobject items)
      | _ => rfl
    simp only [urlsOf_object hobject, findIds_eq_iff]
    rw [hreached, hentries]
    constructor
    · rintro ⟨urls, ⟨⟨b, hfind, hids⟩, hall⟩, hq⟩
      refine ⟨hall, ?_⟩
      rw [hfind]
      simpa only [idsOf, hids] using hq
    · rintro ⟨hall, hq⟩
      rcases hfind : (blocks E document).find? (IsCurrent E) with _ | b
      · rw [hfind] at hq
        exact absurd hq hQ
      · rw [hfind] at hq
        rcases hids : b.get E (js "ids") with _ | _ | ids
        · simp only [idsOf, hids] at hq
          exact absurd hq hQ
        · simp only [idsOf, hids] at hq
          exact absurd hq hQ
        · simp only [idsOf, hids] at hq
          exact ⟨ids, ⟨⟨b, rfl, hids⟩, hall⟩, hq⟩

variable (E)

/-- The origins that are read of a document. -/
structure Reads (document : JSONValue E.Num) (origin : JSString) : Prop where
  reached : Reached E document
  texts : ∀ e ∈ leading E document, e.toText E ≠ none
  hasOrigin : ∃ e ∈ leading E document, HasOrigin E e origin

end Facets

/-- **What is found in a text**: the origins that are read of the document. -/
theorem mem_getOriginsFromJson {E : JSEngine} {text origin : JSString} :
    origin ∈ getOriginsFromJson E text ↔
      ∃ document, E.parse text = some document ∧ Facets.Reads E document origin := by
  rcases hparse : E.parse text with _ | document
  · simp [getOriginsFromJson, hparse]
  · have hreads : Facets.Reads E document origin ↔ Facets.Reached E document ∧
        ∃ found, originsFrom E (Facets.entries E document) [] = some found ∧ origin ∈ found := by
      rw [Facets.originsFrom_iff]
      constructor
      · intro h
        exact ⟨h.reached, h.texts, .inr h.hasOrigin⟩
      · rintro ⟨hreached, htexts, h | h⟩
        · cases h
        · exact ⟨hreached, htexts, h⟩
    have hempty : ¬ ∃ found, originsFrom E [] [] = some found ∧ origin ∈ found := by
      simp [originsFrom]
    have hexists : (∃ d, some document = some d ∧ Facets.Reads E d origin) ↔
        Facets.Reads E document origin := by simp
    rw [hexists, hreads]
    refine Iff.trans ?_ (Facets.exists_urls_iff
      (Q := fun es => ∃ found, originsFrom E es [] = some found ∧ origin ∈ found) hempty)
    rcases hurls : urlsOf E document with _ | _ | urls
    · simp [getOriginsFromJson, hparse, hurls]
    · simp [getOriginsFromJson, hparse, hurls]
    · have hurl : (∃ u, some (some urls) = some (some u) ∧
          ∃ found, originsFrom E (u.items E) [] = some found ∧ origin ∈ found) ↔
          ∃ found, originsFrom E (urls.items E) [] = some found ∧ origin ∈ found := by simp
      rw [hurl]
      by_cases hnull : urls = .null
      · -- `null` has no items
        subst hnull
        simp [getOriginsFromJson, hparse, hurls, JSONValue.items, originsFrom]
      · have hdef : getOriginsFromJson E text = (originsFrom E (urls.items E) []).getD [] := by
          cases urls with
          | null => exact absurd rfl hnull
          | _ => simp [getOriginsFromJson, hparse, hurls]
        rw [hdef]
        rcases originsFrom E (urls.items E) [] with _ | found
        · simp
        · simp

/-! ### What is fetched -/

/-- The answers to the fetches of a url: failures after which it is fetched again, before the timer has
expired, and then a text or a failure for good. -/
structure Fetches where
  failures : List ℤ
  retried : ∀ rc ∈ failures, ¬ (400 ≤ rc ∧ rc < 500)
  final : Except ℤ JSString
  final_failure : ∀ rc, final = .error rc → 400 ≤ rc ∧ rc < 500

namespace Fetches

/-- The last answer. -/
def last (fetches : Fetches) : FetchResult :=
  match fetches.final with
  | .ok text => .text text
  | .error rc => .failure rc false

def results (fetches : Fetches) : List FetchResult :=
  fetches.failures.map (fun rc => .failure rc false) ++ [fetches.last]

end Fetches

/-- The app id is fetched: there is something between its scheme and the next slash, and `allowHttp` does
not forbid it. -/
structure IsFetched (allowHttp : Bool) (appId : JSString) : Prop where
  url : ∃ rest, IsWebUrl appId rest ∧ rest.takeWhile (· ≠ 47) ≠ []
  http : js "http://" <+: appId → allowHttp = true

theorem getOriginFromUrl_isSome_iff {url : JSString} :
    (getOriginFromUrl url).isSome = true ↔
      ∃ rest, IsWebUrl url rest ∧ rest.takeWhile (· ≠ 47) ≠ [] := by
  by_cases hurl : ∃ rest, IsWebUrl url rest
  · obtain ⟨rest, hurl⟩ := hurl
    rw [hurl.exists_iff]
    obtain ⟨scheme, hscheme, rfl⟩ := hurl.cases
    rw [getOriginFromUrl_append hscheme]
    by_cases hpart : rest.takeWhile (· ≠ 47) = []
    · rw [if_pos hpart]
      constructor
      · intro h
        cases h
      · intro h
        exact absurd hpart h
    · rw [if_neg hpart]
      simpa using hpart
  · rw [getOriginFromUrl_eq_none fun rest hrest => hurl ⟨rest, hrest⟩]
    constructor
    · intro h
      cases h
    · rintro ⟨rest, hrest, -⟩
      exact absurd ⟨rest, hrest⟩ hurl

section

variable {E : JSEngine} {allowHttp : Bool} {appId : JSString}

/-- Nothing is fetched for an app id that is not one to fetch. -/
theorem fetchAllowedOriginsForAppId_of_not_fetched (h : ¬ IsFetched allowHttp appId)
    (results : List FetchResult) :
    fetchAllowedOriginsForAppId E allowHttp appId results = some [] := by
  unfold fetchAllowedOriginsForAppId
  by_cases hempty : appId = []
  · rw [if_pos hempty]
  rw [if_neg hempty]
  by_cases hhttp : js "http://" <+: appId ∧ (!allowHttp) = true
  · rw [if_pos hhttp]
  rw [if_neg hhttp]
  rcases horigin : getOriginFromUrl appId with _ | origin
  · rfl
  · refine absurd ⟨getOriginFromUrl_isSome_iff.1 (by rw [horigin]; rfl), ?_⟩ h
    intro hpre
    by_contra hallow
    exact hhttp ⟨hpre, by simpa using hallow⟩

/-- **After finitely many failures the last answer decides.** -/
theorem fetchAllowedOriginsForAppId_of_fetched (h : IsFetched allowHttp appId)
    (fetches : Fetches) :
    fetchAllowedOriginsForAppId E allowHttp appId fetches.results = some
      (match fetches.final with
        | .ok text => getOriginsFromJson E text
        | .error _ => []) := by
  obtain ⟨failures, hretried, final, hfinal⟩ := fetches
  have hempty : appId ≠ [] := by
    rintro rfl
    obtain ⟨rest, hurl, -⟩ := h.url
    rcases hurl with hurl | hurl
    · cases hurl
    · cases hurl
  have hhttp : ¬ (js "http://" <+: appId ∧ (!allowHttp) = true) := by
    rintro ⟨hpre, hallow⟩
    rw [h.http hpre] at hallow
    cases hallow
  obtain ⟨origin, horigin⟩ := Option.isSome_iff_exists.1 (getOriginFromUrl_isSome_iff.2 h.url)
  rw [Fetches.results]
  -- a failure that is retried leaves the rest of the answers
  induction failures with
  | nil =>
      rw [List.map_nil, List.nil_append, Fetches.last]
      cases final with
      | ok text =>
          rw [fetchAllowedOriginsForAppId, if_neg hempty, if_neg hhttp, horigin]
      | error rc =>
          rw [fetchAllowedOriginsForAppId, if_neg hempty, if_neg hhttp, horigin]
          simp [hfinal rc rfl]
  | cons rc failures ih =>
      have hrc : ¬ (400 ≤ rc ∧ rc < 500) := hretried rc List.mem_cons_self
      have hretry : (!(400 ≤ rc && rc < 500) && !false) = true := by
        simpa [imp_iff_not_or] using hrc
      rw [List.map_cons, List.cons_append, fetchAllowedOriginsForAppId, if_neg hempty,
        if_neg hhttp, horigin]
      dsimp only
      rw [if_pos hretry]
      exact ih fun rc' hrc' => hretried rc' (List.mem_cons_of_mem rc hrc')

end

namespace XhrAppIdChecker

/-! ### What is allowed by the check -/

variable (E : JSEngine) (fetches : JSString → Fetches) (allowHttp : Bool) (origin : JSString)
  (appIds : List JSString)

/-- A new checker. -/
def fresh : XhrAppIdChecker := ⟨fun appId => (fetches appId).results, false⟩

/-- The document of the app id: what it is fetched as in the end can be parsed. -/
def HasDocument (appId : JSString) (document : JSONValue E.Num) : Prop :=
  ∃ text, (fetches appId).final = .ok text ∧ E.parse text = some document

/-- The check passes the app id, where it is checked.  `__proto__` is never checked, and it is not
counted as an app id. -/
def Passed (appId : JSString) : Prop :=
  if appId = PROTO then ∃ b ∈ appIds, b ≠ PROTO
  else appId = origin ∨ IsFetched allowHttp appId ∧ ∃ document,
    HasDocument E fetches appId document ∧ Facets.Reads E document origin

variable {E fetches allowHttp origin appIds}

/-- The result for an app id that is checked. -/
theorem checkAppId_eq_true_iff {timerSet : Bool} {appId : JSString} :
    (checkAppId E ⟨fun appId => (fetches appId).results, timerSet⟩ origin allowHttp appId =
      some true) ↔
      appId = origin ∨ IsFetched allowHttp appId ∧ ∃ document,
        HasDocument E fetches appId document ∧ Facets.Reads E document origin := by
  rw [checkAppId]
  by_cases horigin : appId = origin
  · simp [horigin]
  rw [if_neg horigin, or_iff_right horigin]
  by_cases hfetched : IsFetched allowHttp appId
  · rw [fetchAllowedOriginsForAppId_of_fetched hfetched]
    cases hfinal : (fetches appId).final with
    | ok text => simp [hfetched, mem_getOriginsFromJson, HasDocument, hfinal]
    | error rc => simp [HasDocument, hfinal]
  · rw [fetchAllowedOriginsForAppId_of_not_fetched hfetched]
    simp [hfetched]

/-- The distinct app ids that the loop checks are those but `__proto__`, which passes if there are
others. -/
theorem forall_passed_iff : (appIds ≠ [] ∧ ∀ appId ∈ appIds,
      Passed E fetches allowHttp origin appIds appId) ↔
    appIds.foldl JSObject.put [] ≠ [] ∧ ∀ appId ∈ appIds.foldl JSObject.put [],
      checkAppId E ⟨fun appId => (fetches appId).results, true⟩ origin allowHttp appId =
        some true := by
  have hmem : ∀ a, a ∈ appIds.foldl JSObject.put [] ↔ a ∈ appIds ∧ a ≠ PROTO := by
    intro a
    simp [JSObject.mem_foldl_put]
  simp only [checkAppId_eq_true_iff, hmem]
  constructor
  · rintro ⟨hne, hall⟩
    refine ⟨?_, ?_⟩
    · -- an app id that is not `__proto__`: the first one, or one that it needs to pass
      obtain ⟨a, ha⟩ := List.exists_mem_of_ne_nil _ hne
      have hother : ∃ b ∈ appIds, b ≠ PROTO := by
        by_cases hproto : a = PROTO
        · have hpass := hall a ha
          rwa [Passed, if_pos hproto] at hpass
        · exact ⟨a, ha, hproto⟩
      obtain ⟨b, hb, hproto⟩ := hother
      exact List.ne_nil_of_mem ((hmem b).2 ⟨hb, hproto⟩)
    · rintro a ⟨ha, hproto⟩
      have hpass := hall a ha
      rwa [Passed, if_neg hproto] at hpass
  · rintro ⟨hne, hall⟩
    obtain ⟨b, hb⟩ := List.exists_mem_of_ne_nil _ hne
    obtain ⟨hb, hproto⟩ := (hmem b).1 hb
    refine ⟨List.ne_nil_of_mem hb, ?_⟩
    intro a ha
    rw [Passed]
    split
    case isTrue => exact ⟨b, hb, hproto⟩
    case isFalse ha' => exact hall a ⟨ha, ha'⟩

/-- **What is allowed by the check**: there is an app id, and all pass. -/
theorem checkAppIds_eq_true_iff :
    ((fresh fetches).checkAppIds E origin appIds allowHttp).1 = some true ↔
      appIds ≠ [] ∧ ∀ appId ∈ appIds, Passed E fetches allowHttp origin appIds appId := by
  rw [forall_passed_iff, checkAppIds, fresh]
  generalize appIds.foldl JSObject.put [] = distinct
  dsimp only
  rw [if_neg (by decide)]
  by_cases hempty : distinct = []
  · simp [hempty]
  · have hisEmpty : ¬ distinct.isEmpty = true := by simpa using hempty
    rw [if_neg hisEmpty]
    by_cases hall : (distinct.all fun appId => appId = origin) = true
    · rw [if_pos hall]
      rw [List.all_eq_true] at hall
      refine iff_of_true rfl ⟨hempty, ?_⟩
      intro a ha
      exact checkAppId_eq_true_iff.2 (.inl (of_decide_eq_true (hall a ha)))
    · rw [if_neg hall]
      simp only [hempty, ne_eq, not_false_iff, true_and]
      exact Traverse.mapM_all_iff

end XhrAppIdChecker

end U2F
