/-
**Which app ids an origin can claim.**

`etldorigincheck.js`.  An origin can claim its own origin as an app id, and the app ids of its own
registrable domain.  The host of an app id is cut out of it in two places: `getOriginFromUrl` cuts at the
first slash, and the eTLD+1 is that of the text before the first colon.  The host of a URI can end before
that text does, at a `?` or a `#`, and it can begin after it, if there is a userinfo.

Main definitions:

* `EtldOriginChecker.canClaimAppIds` — the function of the source;
* `WebOrigin` — an origin `scheme://host[:port]`;
* `EtldOriginChecker.MayClaim` — the app ids that an origin can claim;
* `EtldOriginChecker.SharesSite` — a text is of the site of an origin;
* `EtldOriginChecker.Disguised` — a url with a text before its first slash or colon that is of the site
  of an origin, although its host has not the eTLD+1 of the origin;
* `EtldOriginChecker.Refused` — an app id whose text is of another site.

Main results:

* `EtldOriginChecker.canClaimAppIds_iff` — what is allowed;
* `EtldOriginChecker.mayClaim_of_plain` — a list of urls without delimiters, of hosts that are not on the
  list, is checked as it should be;
* `EtldOriginChecker.mayClaim_iff` — **all that is allowed can be claimed, exactly if no app id is
  disguised or one of them is refused anyway**.
-/

import U2F.Extension.Etld
import U2F.Lib.Uri

set_option relaxedAutoImplicit false
set_option autoImplicit false

namespace U2F

open EffectiveTldFetcher

/-- Checks whether an origin is allowed to claim app ids. -/
structure EtldOriginChecker where
  etldFetcher : EffectiveTldFetcher

namespace EtldOriginChecker

/-! ### The functions of the source -/

/-- Checks if a single app id can be asserted by the given origin. -/
def checkAppId (checker : EtldOriginChecker) (origin originEtldPlusOne appId : JSString) : Bool :=
  if appId = origin then true
  else
    match getOriginFromUrl appId with
    | none => false
    | some appIdOrigin =>
        let appIdEtldPlusOne := checker.etldFetcher.getEffectiveTldPlusOne appIdOrigin
        if some originEtldPlusOne = appIdEtldPlusOne then true
        -- as an exception, google.com can use the app ids of gstatic.com
        else if originEtldPlusOne = js "google.com" then appIdEtldPlusOne = some (js "gstatic.com")
        else false

/-- Checks whether the origin is allowed to claim the app ids. -/
def canClaimAppIds (checker : EtldOriginChecker) (origin : JSString) (appIds : List JSString) : Bool :=
  let originEtldPlusOne := checker.etldFetcher.getEffectiveTldPlusOne origin
  if !truthy originEtldPlusOne then false
  else appIds.all (checker.checkAppId origin (originEtldPlusOne.getD []))

end EtldOriginChecker

/-! ### The origin of a web url -/

/-- A url with one of the two schemes, and what comes after `://`. -/
def IsWebUrl (url rest : JSString) : Prop := url = js "http://" ++ rest ∨ url = js "https://" ++ rest

theorem originAfter_append (scheme rest : JSString) :
    originAfter scheme (scheme ++ rest) = some (scheme ++ rest.takeWhile (· ≠ 47)) := by
  rw [originAfter, if_pos (List.prefix_append scheme rest), List.drop_left]

theorem originAfter_eq_none {scheme url : JSString} (h : ¬ scheme <+: url) :
    originAfter scheme url = none := if_neg h

/-- A url of which no origin is made. -/
theorem getOriginFromUrl_eq_none {url : JSString} (h : ∀ rest, ¬ IsWebUrl url rest) :
    getOriginFromUrl url = none := by
  have hhttp : ¬ js "http://" <+: url := fun ⟨rest, hrest⟩ => h rest (.inl hrest.symm)
  have hhttps : ¬ js "https://" <+: url := fun ⟨rest, hrest⟩ => h rest (.inr hrest.symm)
  rw [getOriginFromUrl, originAfter_eq_none hhttp, originAfter_eq_none hhttps]
  rfl

/-- The origin of a url is its scheme and what comes before the first slash, if there is anything. -/
theorem getOriginFromUrl_append {scheme rest : JSString}
    (hscheme : scheme = js "http://" ∨ scheme = js "https://") :
    getOriginFromUrl (scheme ++ rest) =
      if rest.takeWhile (· ≠ 47) = [] then none else some (scheme ++ rest.takeWhile (· ≠ 47)) := by
  have hmatched : (originAfter (js "http://") (scheme ++ rest) <|>
      originAfter (js "https://") (scheme ++ rest)) =
        some (scheme ++ rest.takeWhile (· ≠ 47)) := by
    rcases hscheme with rfl | rfl
    · rw [originAfter_append]
      rfl
    · rw [originAfter_eq_none (not_http_prefix_https rest), originAfter_append]
      rfl
  rw [getOriginFromUrl, hmatched]
  simp only [Option.bind_eq_bind, Option.bind_some]
  by_cases hpart : rest.takeWhile (· ≠ 47) = []
  · -- all that is left of the scheme is `http:`
    rw [hpart, if_pos rfl, List.append_nil]
    rcases hscheme with rfl | rfl
    · rfl
    · rfl
  · have hlast : (scheme ++ rest.takeWhile (· ≠ 47)).rdropWhile (fun c => decide (c = 47)) =
        scheme ++ rest.takeWhile (· ≠ 47) := by
      refine List.rdropWhile_eq_self_iff.2 ?_
      intro hne hslash
      rw [List.getLast_append_of_ne_nil hne hpart] at hslash
      have hmem := List.mem_takeWhile_imp (List.getLast_mem hpart)
      simp at hmem hslash
      exact hmem hslash
    have hlong : ∀ t ∈ [js "http:", js "https:"], scheme ++ rest.takeWhile (· ≠ 47) ≠ t := by
      intro t ht heq
      have hlength := congrArg List.length heq
      have hpos := List.length_pos_iff.2 hpart
      have ht : t.length ≤ 6 := by
        rcases List.mem_cons.1 ht with rfl | ht
        · decide
        · rw [List.mem_singleton.1 ht]
          decide
      have hscheme : 7 ≤ scheme.length := by
        rcases hscheme with rfl | rfl
        · decide
        · decide
      rw [List.length_append] at hlength
      omega
    change (if (scheme ++ _).rdropWhile (fun c => decide (c = 47)) = js "http:" ∨
      (scheme ++ _).rdropWhile (fun c => decide (c = 47)) = js "https:" then none
      else some ((scheme ++ _).rdropWhile fun c => decide (c = 47))) = _
    rw [hlast, if_neg hpart, if_neg]
    rintro (heq | heq)
    · exact hlong _ (by simp) heq
    · exact hlong _ (by simp) heq

/-- What comes after the scheme of a url. -/
theorem IsWebUrl.cases {url rest : JSString} (h : IsWebUrl url rest) :
    ∃ scheme, (scheme = js "http://" ∨ scheme = js "https://") ∧ url = scheme ++ rest := by
  rcases h with rfl | rfl
  · exact ⟨_, .inl rfl, rfl⟩
  · exact ⟨_, .inr rfl, rfl⟩

theorem IsWebUrl.unique {url rest rest' : JSString} (h : IsWebUrl url rest)
    (h' : IsWebUrl url rest') : rest = rest' := by
  rcases h with rfl | rfl
  · rcases h' with h' | h'
    · exact List.append_cancel_left h'
    · exact absurd ⟨rest, h'⟩ (not_http_prefix_https rest')
  · rcases h' with h' | h'
    · exact absurd ⟨rest', h'.symm⟩ (not_http_prefix_https rest)
    · exact List.append_cancel_left h'

/-- What holds of some rest of a url holds of its rest. -/
theorem IsWebUrl.exists_iff {url rest : JSString} (h : IsWebUrl url rest) {Q : JSString → Prop} :
    (∃ rest', IsWebUrl url rest' ∧ Q rest') ↔ Q rest := by
  constructor
  · rintro ⟨rest', h', hq⟩
    rwa [h.unique h']
  · intro hq
    exact ⟨rest, h, hq⟩

/-! ### The origin of a page -/

namespace EffectiveTldFetcher

theorem loop_of_notMem {eTlds : List JSString} {next : JSString} (h : 46 ∉ next) :
    loop eTlds next = none := by
  have hloop : loop eTlds ([46].intercalate [next]) = none := loop_singleton h
  rwa [List.intercalate_singleton] at hloop

/-- A host without a dot has no eTLD+1, except `localhost`. -/
theorem getEffectiveTldPlusOne_eq_none (fetcher : EffectiveTldFetcher) {origin : JSString}
    (hdot : 46 ∉ hostOf origin) (hne : hostOf origin ≠ js "localhost") :
    fetcher.getEffectiveTldPlusOne origin = none := by
  simp only [getEffectiveTldPlusOne, getEffectiveTldPlusOne_, if_neg hne, loop_of_notMem hdot,
    ite_self]

end EffectiveTldFetcher

/-- The host of a URI is a name, and not an IP literal, which begins with a bracket. -/
def Named (text : JSString) (host : Host) : Prop := text.head? ≠ some 91 ∧ host.text = text

/-- An origin of the web, `scheme://host[:port]`.  An IP literal in it is an IPv6 address, which has a
colon before any dot. -/
structure WebOrigin where
  secure : Bool
  authority : Uri.Authority
  userinfo_none : authority.userinfo = none
  ipv6 : ∀ address plain, authority.host = .ipLiteral address plain →
    46 ∉ address.takeWhile (· ≠ 58)

namespace WebOrigin

variable (origin : WebOrigin)

def scheme : JSString := if origin.secure then js "https://" else js "http://"

def text : JSString := origin.scheme ++ origin.authority.text

def host : JSString := origin.authority.host.text

theorem scheme_cases : origin.scheme = js "http://" ∨ origin.scheme = js "https://" := by
  unfold scheme
  cases origin.secure with
  | false => exact .inl rfl
  | true => exact .inr rfl

/-- The text before the first colon is the host, or the beginning of an IPv6 address. -/
theorem hostOf_text :
    hostOf origin.text = origin.host ∧ origin.host.head? ≠ some 91 ∧ 58 ∉ origin.host ∨
      (hostOf origin.text).head? = some 91 ∧ origin.host.head? = some 91 ∧
        46 ∉ hostOf origin.text := by
  have hport := origin.authority.portText_cases
  rw [text, hostOf_append origin.scheme_cases, Uri.Authority.text, Uri.Authority.userinfoText,
    origin.userinfo_none, host]
  change (origin.authority.host.text ++ origin.authority.portText).takeWhile (· ≠ 58) = _ ∧ _ ∨
    ((origin.authority.host.text ++ origin.authority.portText).takeWhile (· ≠ 58)).head? = _ ∧ _ ∧
      46 ∉ (origin.authority.host.text ++ origin.authority.portText).takeWhile (· ≠ 58)
  rcases hhost : origin.authority.host with ⟨name, plain⟩ | ⟨address, plain⟩
  · have hcolon : 58 ∉ name := fun hmem => plain 58 hmem (by decide)
    refine .inl ⟨?_, ?_, hcolon⟩
    · rcases hport with hnone | ⟨digits, hsome, -⟩
      · rw [hnone, List.append_nil]
        exact Uri.takeWhile_ne_self hcolon
      · rw [hsome]
        exact Uri.takeWhile_ne_append_cons hcolon digits
    · intro hhead
      exact plain 91 (List.mem_of_mem_head? hhead) (by decide)
  · have hdot := origin.ipv6 address plain hhost
    have hrest : (93 :: origin.authority.portText).takeWhile (· ≠ 58) = [93] := by
      rcases hport with hnone | ⟨digits, hsome, -⟩
      · rw [hnone]
        rfl
      · rw [hsome]
        rfl
    have happend : Uri.Host.text (.ipLiteral address plain) ++ origin.authority.portText =
        (91 :: address) ++ 93 :: origin.authority.portText := by simp [Uri.Host.text]
    refine .inr ⟨rfl, rfl, ?_⟩
    rw [happend, List.takeWhile_append, hrest]
    change 46 ∉ if _ then _ else 91 :: address.takeWhile (· ≠ 58)
    have hcut : 46 ∉ 91 :: address.takeWhile (· ≠ 58) := by
      rw [List.mem_cons]
      rintro (heq | hmem)
      · exact absurd heq (by decide)
      · exact hdot hmem
    split
    case isTrue hfull =>
      -- there is no colon in the address, and so no dot either
      have hself : (91 :: address).takeWhile (· ≠ 58) = 91 :: address :=
        (List.takeWhile_prefix _).eq_of_length hfull
      rw [← hself, List.mem_append, List.mem_singleton]
      rintro (hmem | heq)
      · exact hcut hmem
      · exact absurd heq (by decide)
    case isFalse => exact hcut

/-- **The code finds the site of the host of an origin.** -/
theorem getEffectiveTldPlusOne_text_iff (fetcher : EffectiveTldFetcher) {site : JSString} :
    fetcher.getEffectiveTldPlusOne origin.text = some site ↔
      ∃ host, Named origin.host host ∧ fetcher.Site host site := by
  rcases origin.hostOf_text with ⟨hhost, hhead, hcolon⟩ | ⟨hcut, hhead, hdot⟩
  · rw [fetcher.getEffectiveTldPlusOne_congr (hhost.trans (hostOf_eq_self hcolon).symm)]
    have hsite : fetcher.getEffectiveTldPlusOne (Host.ofText origin.host hcolon).text = some site ↔
        fetcher.Site (Host.ofText origin.host hcolon) site := getEffectiveTldPlusOne_eq_some_iff
    rw [Host.text_ofText] at hsite
    rw [hsite]
    constructor
    · exact fun h => ⟨_, ⟨hhead, Host.text_ofText _ hcolon⟩, h⟩
    · rintro ⟨host, ⟨-, htext⟩, h⟩
      obtain rfl : host = Host.ofText origin.host hcolon :=
        Host.text_injective (htext.trans (Host.text_ofText _ hcolon).symm)
      exact h
  · -- an IP literal has no site
    have hnone : fetcher.getEffectiveTldPlusOne origin.text = none := by
      refine fetcher.getEffectiveTldPlusOne_eq_none hdot ?_
      intro hlocal
      rw [hlocal] at hcut
      exact absurd hcut (by decide)
    rw [hnone]
    constructor
    · intro h
      cases h
    · rintro ⟨host, ⟨hname, -⟩, -⟩
      exact absurd hhead hname

end WebOrigin

namespace EtldOriginChecker

/-! ### What is allowed -/

/-- The domains are the same, or the ones of the exception. -/
def SameDomain (d d' : JSString) : Prop := d = d' ∨ d = js "google.com" ∧ d' = js "gstatic.com"

/-- The text that the check takes for the host of a url: what comes before the first slash or colon. -/
def cutHost (rest : JSString) : JSString := (rest.takeWhile (· ≠ 47)).takeWhile (· ≠ 58)

theorem colon_notMem_cutHost (rest : JSString) : 58 ∉ cutHost rest := by
  intro hmem
  have hne := List.mem_takeWhile_imp hmem
  simp at hne

theorem hostOf_cutHost (rest : JSString) : hostOf (cutHost rest) = cutHost rest :=
  hostOf_eq_self (colon_notMem_cutHost rest)

/-- The code finds the site of the text. -/
theorem getEffectiveTldPlusOne_cutHost_iff (fetcher : EffectiveTldFetcher) {rest site : JSString} :
    fetcher.getEffectiveTldPlusOne (cutHost rest) = some site ↔
      ∃ host : Host, host.text = cutHost rest ∧ fetcher.Site host site := by
  constructor
  · intro h
    have htext := Host.text_ofText _ (colon_notMem_cutHost rest)
    rw [← htext] at h
    exact ⟨_, htext, getEffectiveTldPlusOne_eq_some_iff.1 h⟩
  · rintro ⟨host, htext, h⟩
    rw [← htext]
    exact getEffectiveTldPlusOne_eq_some_iff.2 h

variable (checker : EtldOriginChecker)

/-- **What the check of a single app id allows.** -/
theorem checkAppId_iff {origin domain appId : JSString} :
    checker.checkAppId origin domain appId = true ↔ appId = origin ∨
      ∃ rest, IsWebUrl appId rest ∧ ∃ d,
        checker.etldFetcher.getEffectiveTldPlusOne (cutHost rest) = some d ∧ SameDomain domain d := by
  by_cases heq : appId = origin
  · simp [checkAppId, heq]
  by_cases hurl : ∃ rest, IsWebUrl appId rest
  · obtain ⟨rest, hurl⟩ := hurl
    rw [hurl.exists_iff, or_iff_right heq]
    obtain ⟨scheme, hscheme, rfl⟩ := hurl.cases
    rw [checkAppId, if_neg heq, getOriginFromUrl_append hscheme]
    by_cases hpart : rest.takeWhile (· ≠ 47) = []
    · -- no origin is made of a url without a host
      have hcut : cutHost rest = [] := by rw [cutHost, hpart, List.takeWhile_nil]
      have hnone : checker.etldFetcher.getEffectiveTldPlusOne (cutHost rest) = none := by
        refine getEffectiveTldPlusOne_eq_none _ ?_ ?_
        · rw [hcut]
          decide
        · rw [hcut]
          decide
      rw [if_pos hpart, hnone]
      simp
    · have hhost : hostOf (scheme ++ rest.takeWhile (· ≠ 47)) = hostOf (cutHost rest) := by
        rw [hostOf_append hscheme, hostOf_cutHost]
        rfl
      rw [if_neg hpart]
      simp only [checker.etldFetcher.getEffectiveTldPlusOne_congr hhost]
      cases checker.etldFetcher.getEffectiveTldPlusOne (cutHost rest) with
      | none => simp
      | some d =>
          by_cases hsame : domain = d
          · simp [SameDomain, hsame]
          · simp [SameDomain, hsame]
  · have hnone : getOriginFromUrl appId = none :=
      getOriginFromUrl_eq_none fun rest hrest => hurl ⟨rest, hrest⟩
    rw [checkAppId, if_neg heq, hnone]
    constructor
    · intro h
      cases h
    · rintro (h | ⟨rest, hrest, -⟩)
      · exact absurd h heq
      · exact absurd ⟨rest, hrest⟩ hurl

/-- **The app ids that an origin can claim**: its own origin, and urls whose host has the eTLD+1 of its
own host. -/
def MayClaim (origin : WebOrigin) (appId : JSString) : Prop :=
  appId = origin.text ∨ ∃ rest, IsWebUrl appId rest ∧
    ∃ host host', Named origin.host host ∧ Named (Uri.host rest) host' ∧
      ∃ d d', checker.etldFetcher.EtldPlusOne host d ∧ checker.etldFetcher.EtldPlusOne host' d' ∧
        SameDomain d d'

/-- **The text is of the site of the origin.** -/
def SharesSite (origin : WebOrigin) (text : JSString) : Prop :=
  ∃ host host' : Host, Named origin.host host ∧ host'.text = text ∧
    ∃ s s', checker.etldFetcher.Site host s ∧ checker.etldFetcher.Site host' s' ∧ SameDomain s s'

/-- The text is a host on the list that decides about it. -/
def OnList (text : JSString) : Prop := ∃ host : Host, host.text = text ∧ checker.etldFetcher.Listed host

/-- **A url is disguised**: the text before its first slash or colon is of the site of the origin, but
its host is not, or the host of one of them is on the list itself. -/
structure Disguised (origin : WebOrigin) (rest : JSString) : Prop where
  cut : checker.SharesSite origin (cutHost rest)
  host : checker.OnList origin.host ∨ checker.OnList (Uri.host rest) ∨
    (Uri.host rest).head? = some 91 ∨ ¬ checker.SharesSite origin (Uri.host rest)

/-- An app id that is not the origin, and whose text before the first slash or colon is of another
site. -/
def Refused (origin : WebOrigin) (appId : JSString) : Prop :=
  appId ≠ origin.text ∧ ∀ rest, IsWebUrl appId rest → ¬ checker.SharesSite origin (cutHost rest)

variable {checker}

theorem not_refused_iff {origin : WebOrigin} {appId : JSString} : ¬ checker.Refused origin appId ↔
    appId = origin.text ∨ ∃ rest, IsWebUrl appId rest ∧ checker.SharesSite origin (cutHost rest) := by
  unfold Refused
  by_cases heq : appId = origin.text
  · simp [heq]
  · simp [heq]

/-- **What the check allows**: an origin with a site, and no app id that is refused. -/
theorem canClaimAppIds_iff {origin : WebOrigin} {appIds : List JSString} :
    checker.canClaimAppIds origin.text appIds = true ↔
      (∃ host s, Named origin.host host ∧ checker.etldFetcher.Site host s) ∧
        ∀ appId ∈ appIds, ¬ checker.Refused origin appId := by
  simp only [not_refused_iff]
  rw [canClaimAppIds]
  rcases h : checker.etldFetcher.getEffectiveTldPlusOne origin.text with _ | domain
  · have hnone : ¬ ∃ host s, Named origin.host host ∧ checker.etldFetcher.Site host s := by
      rintro ⟨host, s, hhost⟩
      rw [(origin.getEffectiveTldPlusOne_text_iff _).2 ⟨host, hhost⟩] at h
      cases h
    exact iff_of_false (by simp [truthy]) fun hall => hnone hall.1
  · have htruthy : truthy (some domain) = true := by
      simpa [truthy] using checker.etldFetcher.ne_nil_of_getEffectiveTldPlusOne h
    obtain ⟨host, hhost, hsite⟩ := (origin.getEffectiveTldPlusOne_text_iff _).1 h
    -- the site that is found is the only one
    have hshares : ∀ rest, checker.SharesSite origin (cutHost rest) ↔ ∃ d,
        checker.etldFetcher.getEffectiveTldPlusOne (cutHost rest) = some d ∧ SameDomain domain d := by
      intro rest
      simp only [getEffectiveTldPlusOne_cutHost_iff]
      constructor
      · rintro ⟨host₁, host₂, hhost₁, htext, s, s', hs, hs', hsame⟩
        rw [(origin.getEffectiveTldPlusOne_text_iff _).2 ⟨host₁, hhost₁, hs⟩, Option.some_inj] at h
        exact ⟨s', ⟨host₂, htext, hs'⟩, h ▸ hsame⟩
      · rintro ⟨s', ⟨host₂, htext, hs'⟩, hsame⟩
        exact ⟨host, host₂, hhost, htext, domain, s', hsite, hs', hsame⟩
    have horigin : ∃ host s, Named origin.host host ∧ checker.etldFetcher.Site host s :=
      ⟨host, domain, hhost, hsite⟩
    simp only [htruthy, Bool.not_true, Bool.false_eq_true, if_false, Option.getD_some,
      List.all_eq_true, checkAppId_iff, hshares, horigin, true_and]

/-- **An app id that is allowed can be claimed, exactly if it is not disguised.** -/
theorem mayClaim_iff_not_disguised {origin : WebOrigin} {appId rest : JSString}
    (hne : appId ≠ origin.text) (hurl : IsWebUrl appId rest)
    (hcut : checker.SharesSite origin (cutHost rest)) :
    checker.MayClaim origin appId ↔ ¬ checker.Disguised origin rest := by
  unfold MayClaim
  rw [or_iff_right hne, hurl.exists_iff]
  constructor
  · rintro ⟨host, host', hhost, hhost', d, d', hd, hd', hsame⟩ ⟨-, hdisguised⟩
    rw [etldPlusOne_iff] at hd hd'
    rcases hdisguised with ⟨h, htext, hlisted⟩ | ⟨h, htext, hlisted⟩ | hliteral | hother
    · exact hd.1 (Host.text_injective (htext.trans hhost.2.symm) ▸ hlisted)
    · exact hd'.1 (Host.text_injective (htext.trans hhost'.2.symm) ▸ hlisted)
    · exact hhost'.1 hliteral
    · exact hother ⟨host, host', hhost, hhost'.2, d, d', hd.2, hd'.2, hsame⟩
  · intro hnot
    have hplain : ¬ checker.OnList origin.host ∧ ¬ checker.OnList (Uri.host rest) ∧
        (Uri.host rest).head? ≠ some 91 ∧ checker.SharesSite origin (Uri.host rest) := by
      by_contra hsome
      simp only [not_and_or, not_not] at hsome
      exact hnot ⟨hcut, hsome⟩
    obtain ⟨horigin, hlisted, hname, host, host', hhost, htext, d, d', hd, hd', hsame⟩ := hplain
    exact ⟨host, host', hhost, ⟨hname, htext⟩, d, d',
      etldPlusOne_iff.2 ⟨fun h => horigin ⟨host, hhost.2, h⟩, hd⟩,
      etldPlusOne_iff.2 ⟨fun h => hlisted ⟨host', htext, h⟩, hd'⟩, hsame⟩

/-- Where no app id is disguised, all that is allowed can be claimed. -/
theorem mayClaim_of_not_disguised {origin : WebOrigin} {appIds : List JSString}
    (hplain : ∀ appId ∈ appIds, appId = origin.text ∨
      ∀ rest, IsWebUrl appId rest → ¬ checker.Disguised origin rest)
    (hallowed : checker.canClaimAppIds origin.text appIds = true) :
    ∀ appId ∈ appIds, checker.MayClaim origin appId := by
  intro appId hmem
  rcases not_refused_iff.1 ((canClaimAppIds_iff.1 hallowed).2 appId hmem) with heq | ⟨rest, hurl, hcut⟩
  · exact .inl heq
  rcases hplain appId hmem with heq | hnot
  · exact .inl heq
  by_cases heq : appId = origin.text
  · exact .inl heq
  · exact (mayClaim_iff_not_disguised heq hurl hcut).2 (hnot rest hurl)

/-- **All that is allowed can be claimed, exactly if no app id is disguised or one of them is refused
anyway.** -/
theorem mayClaim_iff (origin : WebOrigin) (appIds : List JSString) :
    (checker.canClaimAppIds origin.text appIds = true →
      ∀ appId ∈ appIds, checker.MayClaim origin appId) ↔
    (∀ appId ∈ appIds, appId = origin.text ∨
      ∀ rest, IsWebUrl appId rest → ¬ checker.Disguised origin rest) ∨
      ∃ appId ∈ appIds, checker.Refused origin appId := by
  constructor
  · intro hsound
    by_cases hall : ∀ appId ∈ appIds, ¬ checker.Refused origin appId
    · refine .inl fun appId hmem => ?_
      by_cases heq : appId = origin.text
      · exact .inl heq
      refine .inr fun rest hurl hdisguised => ?_
      -- the origin has a site, which the text shares
      have hsite : ∃ host s, Named origin.host host ∧ checker.etldFetcher.Site host s := by
        obtain ⟨host, -, hhost, -, s, -, hs, -⟩ := hdisguised.cut
        exact ⟨host, s, hhost, hs⟩
      have hmay := hsound (canClaimAppIds_iff.2 ⟨hsite, hall⟩) appId hmem
      exact (mayClaim_iff_not_disguised heq hurl hdisguised.cut).1 hmay hdisguised
    · push Not at hall
      exact .inr hall
  · rintro (hplain | ⟨appId, hmem, hrefused⟩) hallowed
    · exact mayClaim_of_not_disguised hplain hallowed
    · exact absurd hrefused ((canClaimAppIds_iff.1 hallowed).2 appId hmem)

/-! ### Urls without delimiters -/

/-- **Without a delimiter the text before the first slash or colon is the host.** -/
theorem cutHost_eq_host {rest : JSString}
    (hplain : ∀ c ∈ ([64, 63, 35, 91] : JSString), c ∉ rest.takeWhile (· ≠ 47)) :
    cutHost rest = Uri.host rest := by
  have hends : ∀ c ∈ rest.takeWhile (· ≠ 47), Uri.endsAuthority c = false := by
    intro c hc
    have hslash : c ≠ 47 := by simpa using List.mem_takeWhile_imp hc
    have hquery : c ≠ 63 := fun heq => hplain 63 (by decide) (heq ▸ hc)
    have hfragment : c ≠ 35 := fun heq => hplain 35 (by decide) (heq ▸ hc)
    simp [Uri.endsAuthority, hslash, hquery, hfragment]
  have hrest : ∀ c ∈ (rest.dropWhile (· ≠ 47)).head?, Uri.endsAuthority c = true := by
    intro c hc
    have hslash := List.head?_dropWhile_not (fun c : UInt16 => decide (c ≠ 47)) rest
    rw [Option.mem_def.1 hc] at hslash
    have hslash : c = 47 := by simpa using hslash
    rw [hslash]
    rfl
  have hbracket : (rest.takeWhile (· ≠ 47)).head? ≠ some 91 :=
    fun hhead => hplain 91 (by decide) (List.mem_of_mem_head? hhead)
  have hhost := Uri.host_of_plain hends (hplain 64 (by decide)) hbracket hrest
  rw [List.takeWhile_append_dropWhile] at hhost
  exact hhost.symm

/-- **A list of urls without delimiters before the first slash is checked as it should be**, if the hosts
are not on the list themselves. -/
theorem mayClaim_of_plain {origin : WebOrigin} {appIds : List JSString}
    (horigin : ¬ checker.OnList origin.host)
    (hplain : ∀ appId ∈ appIds, ∀ rest, IsWebUrl appId rest →
      (∀ c ∈ ([64, 63, 35, 91] : JSString), c ∉ rest.takeWhile (· ≠ 47)) ∧
        ¬ checker.OnList (Uri.host rest))
    (hallowed : checker.canClaimAppIds origin.text appIds = true) :
    ∀ appId ∈ appIds, checker.MayClaim origin appId := by
  refine mayClaim_of_not_disguised (fun appId hmem => .inr fun rest hurl hdisguised => ?_) hallowed
  obtain ⟨hdelimiters, hlisted⟩ := hplain appId hmem rest hurl
  have heq := cutHost_eq_host hdelimiters
  rcases hdisguised.host with h | h | hliteral | hother
  · exact horigin h
  · exact hlisted h
  · -- a bracket is a delimiter
    rw [← heq] at hliteral
    have hmem := List.mem_of_mem_head? (Option.mem_def.2 hliteral)
    exact hdelimiters 91 (by decide) ((List.takeWhile_prefix _).subset hmem)
  · exact hother (heq ▸ hdisguised.cut)

/-! ### A disguised app id -/

section Examples

/-- A checker with one effective top-level domain, `com`. -/
def comChecker : EtldOriginChecker := ⟨⟨[], [js "com"]⟩⟩

theorem example_com_plain : ∀ c ∈ js "example.com", c ∉ Uri.genDelims := by
  have hall : (js "example.com").all (fun c => decide (c ∉ Uri.genDelims)) = true := by decide
  intro c hc
  exact of_decide_eq_true (List.all_eq_true.1 hall c hc)

/-- `https://example.com` -/
def exampleOrigin : WebOrigin where
  secure := true
  authority :=
    { userinfo := none
      host := .regName (js "example.com") example_com_plain
      port := none
      userinfo_plain := by rintro u ⟨⟩
      port_digits := by rintro p ⟨⟩ }
  userinfo_none := rfl
  ipv6 := by rintro address plain ⟨⟩

theorem comChecker_eq_some {host domain : JSString} (hcolon : 58 ∉ host)
    (hne : host ≠ js "localhost") (h : loop [js "com"] host = some domain) :
    comChecker.etldFetcher.getEffectiveTldPlusOne host = some domain := by
  rw [getEffectiveTldPlusOne_of_fixed_nil _ rfl, getEffectiveTldPlusOne_, hostOf_eq_self hcolon,
    if_neg hne]
  exact h

theorem comChecker_example : comChecker.etldFetcher.getEffectiveTldPlusOne (js "example.com") =
    some (js "example.com") := by
  refine comChecker_eq_some (by decide) (by decide) ?_
  change loop _ ([46].intercalate [js "example", js "com"]) = _
  rw [loop_cons_cons (by decide), if_pos (by decide)]
  rfl

theorem comChecker_evil : comChecker.etldFetcher.getEffectiveTldPlusOne (js "evil.com") =
    some (js "evil.com") := by
  refine comChecker_eq_some (by decide) (by decide) ?_
  change loop _ ([46].intercalate [js "evil", js "com"]) = _
  rw [loop_cons_cons (by decide), if_pos (by decide)]
  rfl

/-- **`https://example.com` can claim a url of `evil.com`**, whose query ends with its own domain. -/
theorem not_mayClaim_evil :
    comChecker.canClaimAppIds exampleOrigin.text [js "https://evil.com?.example.com/"] = true ∧
      ¬ comChecker.MayClaim exampleOrigin (js "https://evil.com?.example.com/") := by
  have hurl : IsWebUrl (js "https://evil.com?.example.com/") (js "evil.com?.example.com/") :=
    .inr rfl
  have hcut : comChecker.etldFetcher.getEffectiveTldPlusOne (cutHost (js "evil.com?.example.com/")) =
      some (js "example.com") := by
    refine comChecker_eq_some (by decide) (by decide) ?_
    change loop _ ([46].intercalate [js "evil", js "com?", js "example", js "com"]) = _
    rw [loop_cons_cons (by decide), if_neg (by decide), loop_cons_cons (by decide),
      if_neg (by decide), loop_cons_cons (by decide), if_pos (by decide)]
    rfl
  constructor
  · have horigin : comChecker.etldFetcher.getEffectiveTldPlusOne exampleOrigin.text =
        some (js "example.com") := by
      rw [← comChecker_example]
      exact getEffectiveTldPlusOne_congr _ (by decide)
    rw [canClaimAppIds, horigin]
    refine List.all_eq_true.2 fun appId hmem => ?_
    rw [List.mem_singleton.1 hmem]
    exact (checkAppId_iff comChecker).2 (.inr ⟨_, hurl, _, hcut, .inl rfl⟩)
  · rintro (heq | ⟨rest, hrest, host, host', hhost, hhost', d, d', hd, hd', hsame⟩)
    · exact absurd heq (by decide)
    · obtain rfl := hurl.unique hrest
      rw [etldPlusOne_iff, ← getEffectiveTldPlusOne_eq_some_iff] at hd hd'
      have htext : host.text = js "example.com" := hhost.2
      have htext' : host'.text = js "evil.com" := hhost'.2
      rw [htext, comChecker_example] at hd
      rw [htext', comChecker_evil] at hd'
      rw [← Option.some_inj.1 hd.2, ← Option.some_inj.1 hd'.2] at hsame
      exact absurd hsame (by unfold SameDomain; decide)

end Examples

end EtldOriginChecker

end U2F
