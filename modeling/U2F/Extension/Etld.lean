/-
**The registrable domain of an origin.**

`etld.js`.  The list of effective top-level domains is a list of strings, and the registrable domain of
a host is its longest suffix on the list together with one more label.  The loop drops one label at a
time and looks for what is left on the list, but it never looks for the host itself.

Main definitions:

* `EffectiveTldFetcher.getEffectiveTldPlusOne_`, `EffectiveTldFetcher.getEffectiveTldPlusOne` — the
  functions of the source;
* `EffectiveTldFetcher.Registrable` — the registrable domain;
* `EffectiveTldFetcher.EtldPlusOne` — the registrable domain by the list that decides;
* `EffectiveTldFetcher.Site` — what a host has in common with the hosts of the same site, which is the
  registrable domain except of a host that is on the list itself.

Main results:

* `EffectiveTldFetcher.loop_eq_some_iff` — what the loop finds;
* `EffectiveTldFetcher.registrable_iff` — **the loop finds the registrable domain, except of a host that
  is on the list together with a suffix of its own**;
* `EffectiveTldFetcher.getEffectiveTldPlusOne_eq_some_iff` — the code finds the site;
* `EffectiveTldFetcher.etldPlusOne_iff` — **the site is the eTLD+1, except of a host that is on the
  list**.
-/

import Mathlib.Data.List.TakeWhile
import U2F.Extension.WebRequest
import U2F.Lib.Labels

set_option relaxedAutoImplicit false
set_option autoImplicit false

namespace U2F

/-- The lists of a fetcher: the fixed one, and the canonical one. -/
structure EffectiveTldFetcher where
  fixed_tld_list : List JSString
  eTlds : List JSString

namespace EffectiveTldFetcher

/-! ### The functions of the source -/

theorem lt_length_of_idxOf? {next : JSString} {c : UInt16} {dot : ℕ}
    (h : next.idxOf? c = some dot) : dot < next.length := by
  rw [List.idxOf?, List.findIdx?_eq_some_iff_getElem] at h
  exact h.1

/-- The loop over each possible subdomain, from longest to shortest. -/
def loop (eTlds : List JSString) (next : JSString) : Option JSString :=
  match h : next.idxOf? 46 with
  | none => none
  | some dot =>
      let prev := next
      let next' := next.drop (dot + 1)
      if next' ∈ eTlds then some prev else loop eTlds next'
termination_by next.length
decreasing_by
  have hdot := lt_length_of_idxOf? h
  rw [List.length_drop]
  omega

/-- The host of an origin: what comes after the scheme, and before the first colon. -/
def hostOf (origin : JSString) : JSString :=
  let host :=
    if js "http://" <+: origin then origin.drop 7
    else if js "https://" <+: origin then origin.drop 8
    else origin
  host.takeWhile (· ≠ 58)

def getEffectiveTldPlusOne_ (origin : JSString) (eTlds : List JSString) : Option JSString :=
  let host := hostOf origin
  if host = js "localhost" then some host else loop eTlds host

/-- The eTLD+1 of an origin: by the fixed list, or else by the canonical one. -/
def getEffectiveTldPlusOne (fetcher : EffectiveTldFetcher) (origin : JSString) : Option JSString :=
  let etld := getEffectiveTldPlusOne_ origin fetcher.fixed_tld_list
  if truthy etld then etld else getEffectiveTldPlusOne_ origin fetcher.eTlds

/-! ### The host of an origin -/

theorem not_http_prefix_https (rest : JSString) : ¬ js "http://" <+: js "https://" ++ rest := by
  rintro ⟨t, ht⟩
  cases ht

theorem hostOf_append {scheme : JSString} (hscheme : scheme = js "http://" ∨ scheme = js "https://")
    (rest : JSString) : hostOf (scheme ++ rest) = rest.takeWhile (· ≠ 58) := by
  rcases hscheme with rfl | rfl
  · rw [hostOf, if_pos (List.prefix_append _ rest)]
    rfl
  · rw [hostOf, if_neg (not_http_prefix_https rest), if_pos (List.prefix_append _ rest)]
    rfl

theorem hostOf_eq_self {origin : JSString} (h : 58 ∉ origin) : hostOf origin = origin := by
  have hscheme : ∀ scheme : JSString, 58 ∈ scheme → ¬ scheme <+: origin :=
    fun scheme hmem hpre => h (hpre.subset hmem)
  rw [hostOf, if_neg (hscheme _ (by decide)), if_neg (hscheme _ (by decide))]
  refine List.takeWhile_eq_self_iff.2 ?_
  intro c hc
  have hne : c ≠ 58 := fun heq => h (heq ▸ hc)
  exact decide_eq_true hne

/-- The eTLD+1 depends on the host only. -/
theorem getEffectiveTldPlusOne_congr (fetcher : EffectiveTldFetcher) {origin origin' : JSString}
    (h : hostOf origin = hostOf origin') :
    fetcher.getEffectiveTldPlusOne origin = fetcher.getEffectiveTldPlusOne origin' := by
  unfold getEffectiveTldPlusOne getEffectiveTldPlusOne_
  rw [h]

/-! ### What the loop finds -/

theorem loop_singleton {eTlds : List JSString} {label : JSString} (h : 46 ∉ label) :
    loop eTlds ([46].intercalate [label]) = none := by
  rw [loop]
  split
  case h_1 => rfl
  case h_2 dot hdot =>
    rw [Labels.idxOf?_singleton h] at hdot
    cases hdot

theorem loop_cons_cons {eTlds : List JSString} {label next : JSString} {rest : List JSString}
    (h : 46 ∉ label) :
    loop eTlds ([46].intercalate (label :: next :: rest)) =
      if [46].intercalate (next :: rest) ∈ eTlds then some ([46].intercalate (label :: next :: rest))
      else loop eTlds ([46].intercalate (next :: rest)) := by
  rw [loop]
  split
  case h_1 hnone =>
    rw [Labels.idxOf?_cons_cons h] at hnone
    cases hnone
  case h_2 dot hdot =>
    rw [Labels.idxOf?_cons_cons h] at hdot
    obtain rfl := Option.some.inj hdot
    simp only [Labels.drop_idxOf]

/-- **The loop finds the longest suffix on the list among those that are shorter than the host**, and
puts the label before it in front. -/
theorem loop_eq_some_iff {eTlds : List JSString} {label : JSString} {labels : List JSString}
    (h : ∀ l ∈ label :: labels, 46 ∉ l) {r : JSString} :
    loop eTlds ([46].intercalate (label :: labels)) = some r ↔
      ∃ i, Labels.Longest 46 (· ∈ eTlds) labels i ∧ r = Labels.suffix 46 (label :: labels) i := by
  induction labels generalizing label with
  | nil =>
      rw [loop_singleton (h label List.mem_cons_self)]
      constructor
      · intro hr
        cases hr
      · rintro ⟨i, hi, -⟩
        exact absurd hi.lt_length (Nat.not_lt_zero i)
  | cons next rest ih =>
      rw [loop_cons_cons (h label List.mem_cons_self)]
      by_cases hmem : [46].intercalate (next :: rest) ∈ eTlds
      · have hzero := Labels.longest_zero (P := (· ∈ eTlds)) hmem
        rw [if_pos hmem, Option.some_inj]
        constructor
        · rintro rfl
          exact ⟨0, hzero, rfl⟩
        · rintro ⟨i, hi, rfl⟩
          rw [hi.unique hzero]
          rfl
      · rw [if_neg hmem, ih fun l hl => h l (List.mem_cons_of_mem label hl)]
        constructor
        · rintro ⟨i, hi, rfl⟩
          exact ⟨i + 1, (Labels.longest_succ_cons hmem).2 hi, rfl⟩
        · rintro ⟨i, hi, rfl⟩
          cases i with
          | zero => exact absurd hi.holds hmem
          | succ i => exact ⟨i, (Labels.longest_succ_cons hmem).1 hi, rfl⟩

theorem loop_ne_nil {eTlds : List JSString} {next domain : JSString}
    (h : loop eTlds next = some domain) : domain ≠ [] := by
  fun_induction loop eTlds next with
  | case1 => cases h
  | case2 next dot hdot =>
      obtain rfl := Option.some.inj h
      rintro rfl
      cases hdot
  | case3 next dot hdot next' hnext ih => exact ih h

/-- What is found is never the empty string, which would count as not found. -/
theorem getEffectiveTldPlusOne_ne_nil {origin : JSString} {eTlds : List JSString} {domain : JSString}
    (h : getEffectiveTldPlusOne_ origin eTlds = some domain) : domain ≠ [] := by
  rw [getEffectiveTldPlusOne_] at h
  split at h
  case isTrue hlocal =>
    obtain rfl := Option.some.inj h
    rw [hlocal]
    decide
  case isFalse => exact loop_ne_nil h

theorem ne_nil_of_getEffectiveTldPlusOne (fetcher : EffectiveTldFetcher) {origin domain : JSString}
    (h : fetcher.getEffectiveTldPlusOne origin = some domain) : domain ≠ [] := by
  rw [getEffectiveTldPlusOne] at h
  split at h
  case isTrue => exact getEffectiveTldPlusOne_ne_nil h
  case isFalse => exact getEffectiveTldPlusOne_ne_nil h

theorem loop_nil (next : JSString) : loop [] next = none := by
  fun_induction loop [] next with
  | case1 => rfl
  | case2 next dot hdot prev next' hmem => cases hmem
  | case3 next dot hdot next' hmem ih => exact ih

/-- With an empty fixed list, which is the default, the canonical one decides. -/
theorem getEffectiveTldPlusOne_of_fixed_nil (fetcher : EffectiveTldFetcher) {origin : JSString}
    (h : fetcher.fixed_tld_list = []) :
    fetcher.getEffectiveTldPlusOne origin = getEffectiveTldPlusOne_ origin fetcher.eTlds := by
  rw [getEffectiveTldPlusOne, getEffectiveTldPlusOne_, getEffectiveTldPlusOne_, h]
  by_cases hlocal : hostOf origin = js "localhost"
  · rw [if_pos hlocal, if_pos hlocal, ite_self]
  · rw [if_neg hlocal, if_neg hlocal, loop_nil]
    rfl

/-! ### The registrable domain of a host -/

/-- A host: labels with dots between them.  No label has a dot or a colon in it. -/
structure Host where
  labels : List JSString
  labels_ne_nil : labels ≠ []
  plain : ∀ label ∈ labels, 46 ∉ label ∧ 58 ∉ label

namespace Host

def text (host : Host) : JSString := [46].intercalate host.labels

theorem colon_notMem_text (host : Host) : 58 ∉ host.text :=
  Labels.notMem_intercalate (by decide) fun label hlabel => (host.plain label hlabel).2

end Host

theorem getEffectiveTldPlusOne_text {eTlds : List JSString} {host : Host}
    (h : host.text ≠ js "localhost") :
    getEffectiveTldPlusOne_ host.text eTlds = loop eTlds host.text := by
  rw [getEffectiveTldPlusOne_, hostOf_eq_self host.colon_notMem_text, if_neg h]

/-- **The registrable domain of a host**: its longest suffix on the list, and one more label. -/
def Registrable (eTlds : List JSString) (host : Host) (domain : JSString) : Prop :=
  ∃ i, Labels.Longest 46 (· ∈ eTlds) host.labels (i + 1) ∧ domain = Labels.suffix 46 host.labels i

/-- A host that is on the list has no registrable domain. -/
theorem not_registrable {eTlds : List JSString} {host : Host} (h : host.text ∈ eTlds)
    (domain : JSString) : ¬ Registrable eTlds host domain := by
  rintro ⟨i, hi, -⟩
  exact hi.first 0 (Nat.succ_pos i) h

/-- The host is on the list, and so is a suffix of it. -/
def DoublyListed (eTlds : List JSString) (host : Host) : Prop :=
  host.text ∈ eTlds ∧ ∃ i, i + 1 < host.labels.length ∧ Labels.suffix 46 host.labels (i + 1) ∈ eTlds

/-- **The code finds the registrable domain of a host, or that there is none, exactly if the host is
not on the list together with a suffix of its own.** -/
theorem registrable_iff (eTlds : List JSString) (host : Host) (h : host.text ≠ js "localhost") :
    (∀ domain, getEffectiveTldPlusOne_ host.text eTlds = some domain ↔
      Registrable eTlds host domain) ↔ ¬ DoublyListed eTlds host := by
  simp only [getEffectiveTldPlusOne_text h]
  obtain ⟨labels, hne, hplain⟩ := host
  cases labels with
  | nil => exact absurd rfl hne
  | cons label labels =>
      have hloop : ∀ r, loop eTlds ([46].intercalate (label :: labels)) = some r ↔ _ :=
        fun r => loop_eq_some_iff fun l hl => (hplain l hl).1
      constructor
      · rintro hall ⟨hmem, i, hi, hsuffix⟩
        -- the loop finds the longest of the shorter suffixes
        obtain ⟨j, -, hj⟩ := Labels.exists_longest (Nat.lt_of_succ_lt_succ hi) hsuffix
        exact not_registrable hmem _ ((hall _).1 ((hloop _).2 ⟨j, hj, rfl⟩))
      · intro hdoubly domain
        constructor
        · intro hr
          obtain ⟨i, hi, rfl⟩ := (hloop _).1 hr
          have hmem : [46].intercalate (label :: labels) ∉ eTlds := fun hmem =>
            hdoubly ⟨hmem, i, Nat.succ_lt_succ hi.lt_length, hi.holds⟩
          exact ⟨i, (Labels.longest_succ_cons hmem).2 hi, rfl⟩
        · rintro ⟨i, hi, rfl⟩
          have hmem : [46].intercalate (label :: labels) ∉ eTlds := hi.first 0 (Nat.succ_pos i)
          exact (hloop _).2 ⟨i, (Labels.longest_succ_cons hmem).1 hi, rfl⟩

/-! ### The eTLD+1 by the two lists -/

namespace Host

/-- The host with a given text. -/
def ofText (text : JSString) (h : 58 ∉ text) : Host where
  labels := text.splitOn 46
  labels_ne_nil := List.splitOn_ne_nil 46 text
  plain _ hlabel :=
    ⟨(Labels.of_mem_splitOn hlabel).1, fun hmem => h ((Labels.of_mem_splitOn hlabel).2 hmem)⟩

@[simp] theorem text_ofText (text : JSString) (h : 58 ∉ text) : (ofText text h).text = text :=
  List.intercalate_splitOn 46

/-- A host is its text. -/
theorem text_injective {host host' : Host} (h : host.text = host'.text) : host = host' := by
  have hlabels := congrArg (List.splitOn 46) h
  rw [text, text, List.splitOn_intercalate 46 (fun l hl => (host.plain l hl).1) host.labels_ne_nil,
    List.splitOn_intercalate 46 (fun l hl => (host'.plain l hl).1) host'.labels_ne_nil] at hlabels
  cases host
  cases host'
  congr

end Host

/-- A suffix of the host is on the list, or the host itself. -/
def Found (eTlds : List JSString) (host : Host) : Prop :=
  ∃ i, i < host.labels.length ∧ Labels.suffix 46 host.labels i ∈ eTlds

instance (eTlds : List JSString) (host : Host) : Decidable (Found eTlds host) :=
  inferInstanceAs (Decidable (∃ i, i < _ ∧ _))

/-- The list that decides about a host: the fixed list if the host is found in it, or else the canonical
one. -/
def decidingList (fetcher : EffectiveTldFetcher) (host : Host) : List JSString :=
  if Found fetcher.fixed_tld_list host then fetcher.fixed_tld_list else fetcher.eTlds

/-- **The eTLD+1 of a host**: its registrable domain by the list that decides.  `localhost` is its
own. -/
def EtldPlusOne (fetcher : EffectiveTldFetcher) (host : Host) (domain : JSString) : Prop :=
  if host.text = js "localhost" then domain = host.text
  else Registrable (fetcher.decidingList host) host domain

/-- The host is on the list that decides. -/
def Listed (fetcher : EffectiveTldFetcher) (host : Host) : Prop :=
  host.text ≠ js "localhost" ∧ host.text ∈ fetcher.decidingList host

/-- The longest suffix on the list among those that are shorter than the host, and one more label. -/
def SiteBy (eTlds : List JSString) (host : Host) (site : JSString) : Prop :=
  ∃ i, Labels.Longest 46 (· ∈ eTlds) host.labels.tail i ∧ site = Labels.suffix 46 host.labels i

/-- **The site of a host**: by the fixed list, or else by the canonical one. -/
def Site (fetcher : EffectiveTldFetcher) (host : Host) (site : JSString) : Prop :=
  if host.text = js "localhost" then site = host.text
  else SiteBy fetcher.fixed_tld_list host site ∨
    (∀ s, ¬ SiteBy fetcher.fixed_tld_list host s) ∧ SiteBy fetcher.eTlds host site

theorem loop_text_eq_some_iff {eTlds : List JSString} {host : Host} {site : JSString} :
    loop eTlds host.text = some site ↔ SiteBy eTlds host site := by
  obtain ⟨labels, hne, hplain⟩ := host
  cases labels with
  | nil => exact absurd rfl hne
  | cons label labels => exact loop_eq_some_iff fun l hl => (hplain l hl).1

/-- **The code finds the site of a host.** -/
theorem getEffectiveTldPlusOne_eq_some_iff {fetcher : EffectiveTldFetcher} {host : Host}
    {site : JSString} :
    fetcher.getEffectiveTldPlusOne host.text = some site ↔ fetcher.Site host site := by
  unfold Site getEffectiveTldPlusOne
  by_cases hlocal : host.text = js "localhost"
  · rw [if_pos hlocal, getEffectiveTldPlusOne_, hostOf_eq_self host.colon_notMem_text, if_pos hlocal,
      hlocal, if_pos (by decide)]
    exact Option.some_inj.trans eq_comm
  · rw [if_neg hlocal, getEffectiveTldPlusOne_text hlocal, getEffectiveTldPlusOne_text hlocal]
    cases hfixed : loop fetcher.fixed_tld_list host.text with
    | none =>
        have hnone : ∀ s, ¬ SiteBy fetcher.fixed_tld_list host s := by
          intro s hs
          rw [loop_text_eq_some_iff.2 hs] at hfixed
          cases hfixed
        rw [if_neg (by decide), loop_text_eq_some_iff]
        constructor
        · exact fun h => .inr ⟨hnone, h⟩
        · rintro (h | ⟨-, h⟩)
          · exact absurd h (hnone site)
          · exact h
    | some s =>
        have htruthy : truthy (some s) = true := by simpa [truthy] using loop_ne_nil hfixed
        rw [if_pos htruthy, ← hfixed, loop_text_eq_some_iff]
        constructor
        · exact .inl
        · rintro (h | ⟨hnone, -⟩)
          · exact h
          · exact absurd (loop_text_eq_some_iff.1 hfixed) (hnone s)

/-- A host that is not on the list has its site as its registrable domain. -/
theorem registrable_iff_siteBy {eTlds : List JSString} {host : Host} {domain : JSString} :
    Registrable eTlds host domain ↔ host.text ∉ eTlds ∧ SiteBy eTlds host domain := by
  obtain ⟨labels, hne, hplain⟩ := host
  cases labels with
  | nil => exact absurd rfl hne
  | cons label labels =>
      constructor
      · rintro ⟨i, hi, rfl⟩
        have hmem : [46].intercalate (label :: labels) ∉ eTlds := hi.first 0 (Nat.succ_pos i)
        exact ⟨hmem, i, (Labels.longest_succ_cons hmem).1 hi, rfl⟩
      · rintro ⟨hmem, i, hi, rfl⟩
        exact ⟨i, (Labels.longest_succ_cons hmem).2 hi, rfl⟩

/-- A host that is found in a list, but is not on it, has a site by it. -/
theorem exists_siteBy_iff {eTlds : List JSString} {host : Host} (h : host.text ∉ eTlds) :
    (∃ s, SiteBy eTlds host s) ↔ Found eTlds host := by
  obtain ⟨labels, hne, hplain⟩ := host
  cases labels with
  | nil => exact absurd rfl hne
  | cons label labels =>
      constructor
      · rintro ⟨-, i, hi, rfl⟩
        exact ⟨i + 1, Nat.succ_lt_succ hi.lt_length, hi.holds⟩
      · rintro ⟨i, hi, hmem⟩
        cases i with
        | zero => exact absurd hmem h
        | succ i =>
            obtain ⟨j, -, hj⟩ := Labels.exists_longest (P := (· ∈ eTlds))
              (Nat.lt_of_succ_lt_succ hi) hmem
            exact ⟨_, j, hj, rfl⟩

/-- **The eTLD+1 of a host is its site, unless the host is on the list.** -/
theorem etldPlusOne_iff {fetcher : EffectiveTldFetcher} {host : Host} {domain : JSString} :
    fetcher.EtldPlusOne host domain ↔ ¬ fetcher.Listed host ∧ fetcher.Site host domain := by
  unfold EtldPlusOne Listed Site
  by_cases hlocal : host.text = js "localhost"
  · simp [hlocal]
  · simp only [ne_eq, hlocal, if_false, not_false_eq_true, true_and]
    rw [registrable_iff_siteBy]
    refine and_congr_right fun hmem => ?_
    by_cases hfound : Found fetcher.fixed_tld_list host
    · -- the fixed list decides
      rw [decidingList, if_pos hfound] at hmem ⊢
      have hsome := (exists_siteBy_iff hmem).2 hfound
      constructor
      · exact .inl
      · rintro (h | ⟨hnone, -⟩)
        · exact h
        · exact absurd hsome (by simpa using hnone)
    · rw [decidingList, if_neg hfound]
      have hfixed : host.text ∉ fetcher.fixed_tld_list := fun hfixed =>
        hfound ⟨0, List.length_pos_iff.2 host.labels_ne_nil, hfixed⟩
      have hnone : ∀ s, ¬ SiteBy fetcher.fixed_tld_list host s := fun s hs =>
        hfound ((exists_siteBy_iff hfixed).1 ⟨s, hs⟩)
      constructor
      · exact fun h => .inr ⟨hnone, h⟩
      · rintro (h | ⟨-, h⟩)
        · exact absurd h (hnone domain)
        · exact h

/-! ### A host that is on the list -/

/-- `co.uk`, which is an effective top-level domain, as `uk` is. -/
def coUk : Host where
  labels := [js "co", js "uk"]
  labels_ne_nil := by decide
  plain := by
    intro label hlabel
    rcases List.mem_cons.1 hlabel with rfl | hlabel
    · decide
    · rw [List.mem_singleton.1 hlabel]
      decide

/-- With `co.uk` on the list, but not `uk`, it has no registrable domain, and none is found. -/
theorem registrable_coUk : coUk.text ≠ js "localhost" ∧
    ∀ domain, getEffectiveTldPlusOne_ coUk.text [js "com", js "co.uk"] = some domain ↔
      Registrable [js "com", js "co.uk"] coUk domain := by
  have hne : coUk.text ≠ js "localhost" := by decide
  refine ⟨hne, (registrable_iff _ coUk hne).2 ?_⟩
  rintro ⟨-, i, hi, hsuffix⟩
  obtain rfl : i = 0 := by
    simp only [coUk, List.length_cons, List.length_nil] at hi
    omega
  exact absurd hsuffix (by decide)

/-- With both on the list, `co.uk` is found to be its own registrable domain. -/
theorem not_registrable_coUk :
    getEffectiveTldPlusOne_ coUk.text [js "uk", js "co.uk"] = some (js "co.uk") ∧
      ∀ domain, ¬ Registrable [js "uk", js "co.uk"] coUk domain := by
  constructor
  · rw [getEffectiveTldPlusOne_text (by decide)]
    exact (loop_eq_some_iff (by decide)).2
      ⟨0, Labels.longest_zero (P := (· ∈ [js "uk", js "co.uk"])) (by decide), by decide⟩
  · exact not_registrable (by decide)

end EffectiveTldFetcher

end U2F
