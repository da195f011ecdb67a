/-
**The origins that the server recognizes.**

The configured origins and the origin of a response are brought to one form, which is a scheme and an
authority, or the whole string if it names an Android application.  A URI may have no scheme and no
authority; the form then has the text `null` in their place.  So two origins can have the same form
without having the same scheme and authority: every string without both has the form `null://null`.

Main definitions:

* `U2FServerReferenceImpl.Configured` — the server has been constructed with a set of origins;
* `U2FServerReferenceImpl.Recognized` — the origins that are meant by the configured ones;
* `U2FServerReferenceImpl.Unconfused` — what has the form of a configured origin has a scheme and an
  authority.

Main results:

* `U2FServerReferenceImpl.verifyOrigin_iff` — what is accepted;
* `U2FServerReferenceImpl.recognizes_iff_unconfused` — **all that is accepted is recognized, exactly
  if the configured origins are unconfused**;
* `U2FServerReferenceImpl.unconfused_iff_complete` — they are exactly if each has a scheme and an
  authority and neither of them is the text `null`.
-/

import U2F.Lib.Traverse
import U2F.Server.TestVectors

set_option relaxedAutoImplicit false
set_option autoImplicit false

namespace U2F

/-- The scheme of a URI, as documented: it has no colon. -/
def Platform.SchemesWithoutColon {Cert : Type} (P : Platform Cert) : Prop :=
  ∀ s uri scheme, P.newURI s = some uri → uri.scheme = some scheme → ':' ∉ scheme.toList

namespace U2FServerReferenceImpl

/-! ### The form of an origin -/

/-- The origin of an Android application. -/
def IsAndroid (origin : String) : Prop := origin.startsWith ANDROID_APK_KEY_HASH = true

theorem isAndroid_iff {origin : String} :
    IsAndroid origin ↔ ANDROID_APK_KEY_HASH.toList <+: origin.toList := by
  simp [IsAndroid]

instance (origin : String) : Decidable (IsAndroid origin) := decidable_of_iff' _ isAndroid_iff

/-- The form of a URI. -/
def originOf (uri : URI) : String := orNull uri.scheme ++ "://" ++ orNull uri.authority

theorem toList_originOf (uri : URI) :
    (originOf uri).toList = (orNull uri.scheme).toList ++ ':' :: ('/' :: '/' ::
      (orNull uri.authority).toList) := by
  simp [originOf]

theorem orNull_without_colon {scheme : Option String}
    (h : ∀ s, scheme = some s → ':' ∉ s.toList) : ':' ∉ (orNull scheme).toList := by
  cases scheme with
  | none => decide
  | some s => exact h s rfl

/-- **The form keeps the texts of the scheme and of the authority apart.** -/
theorem originOf_eq_iff {u v : URI} (hu : ∀ s, u.scheme = some s → ':' ∉ s.toList)
    (hv : ∀ s, v.scheme = some s → ':' ∉ s.toList) :
    originOf u = originOf v ↔
      orNull u.scheme = orNull v.scheme ∧ orNull u.authority = orNull v.authority := by
  constructor
  · intro h
    have hlist := congrArg String.toList h
    rw [toList_originOf, toList_originOf] at hlist
    obtain ⟨hscheme, hrest⟩ := FirstMatch.append_cons_inj (orNull_without_colon hu)
      (orNull_without_colon hv) hlist
    simp only [List.cons.injEq, true_and] at hrest
    exact ⟨String.toList_injective hscheme, String.toList_injective hrest⟩
  · rintro ⟨hscheme, hauthority⟩
    rw [originOf, originOf, hscheme, hauthority]

/-- The form of a URI names no Android application. -/
theorem not_isAndroid_originOf {uri : URI}
    (h : ∀ s, uri.scheme = some s → ':' ∉ s.toList) : ¬ IsAndroid (originOf uri) := by
  intro handroid
  obtain ⟨rest, hrest⟩ := isAndroid_iff.1 handroid
  rw [toList_originOf] at hrest
  -- what comes after the first colon is `apk-…` in the one and `//…` in the other
  have hsplit : ANDROID_APK_KEY_HASH.toList ++ rest = "android".toList ++ ':' ::
      ("apk-key-hash:".toList ++ rest) := by
    rfl
  obtain ⟨-, htail⟩ := FirstMatch.append_cons_inj (by decide) (orNull_without_colon h)
    (hsplit.symm.trans hrest)
  cases htail

variable {Cert PublicKey : Type} (server : U2FServerReferenceImpl Cert PublicKey)

/-- The form of an origin: the whole string, or the form of its URI. -/
theorem canonicalizeOrigin_eq_ok_iff {P : Platform Cert} {origin canonical : String} :
    canonicalizeOrigin P origin = .ok canonical ↔
      IsAndroid origin ∧ origin = canonical ∨
      ¬ IsAndroid origin ∧ ∃ uri, P.newURI origin = some uri ∧ originOf uri = canonical := by
  have hdef : IsAndroid origin ↔ origin.startsWith ANDROID_APK_KEY_HASH = true := Iff.rfl
  by_cases h : IsAndroid origin
  · rw [canonicalizeOrigin, if_pos (hdef.1 h)]
    simp [h]
  · rw [canonicalizeOrigin, if_neg (mt hdef.2 h)]
    cases P.newURI origin with
    | none => simp [h]
    | some uri => simp [h, originOf]

/-- The forms of the configured origins are the allowed ones. -/
theorem mem_canonicalizeOrigins {P : Platform Cert} {origins allowed : List String}
    (h : canonicalizeOrigins P origins = .ok allowed) {canonical : String} :
    canonical ∈ allowed ↔ ∃ origin ∈ origins, canonicalizeOrigin P origin = .ok canonical := by
  -- the constructor looks at the prefix, and so does the form
  have hform : (fun origin => if origin.startsWith ANDROID_APK_KEY_HASH then .ok origin
      else canonicalizeOrigin P origin) = canonicalizeOrigin P := by
    funext origin
    by_cases ha : origin.startsWith ANDROID_APK_KEY_HASH = true
    · rw [if_pos ha, canonicalizeOrigin, if_pos ha]
    · rw [if_neg ha]
  rw [canonicalizeOrigins, hform] at h
  obtain ⟨forms, hforms, hallowed⟩ := Except.bind_eq_ok_iff.1 h
  obtain rfl := Except.ok.inj hallowed
  have hall := Traverse.mapM_eq_ok_iff.1 hforms
  rw [List.mem_reverse, List.mem_eraseDups, List.mem_reverse]
  constructor
  · intro hmem
    exact Traverse.exists_of_forall₂_right hall hmem
  · rintro ⟨origin, horigin, hcanonical⟩
    obtain ⟨c, hc, hoc⟩ := Traverse.exists_of_forall₂_left hall horigin
    cases hcanonical.symm.trans hoc
    exact hc

/-! ### What is accepted -/

/-- The server has been constructed with these origins. -/
def Configured (origins : List String) : Prop :=
  canonicalizeOrigins server.platform origins = .ok server.allowedOrigins

/-- **The origins that are meant**: an Android application that is configured, or a scheme and an
authority that are those of a configured origin. -/
def Recognized (P : Platform Cert) (origins : List String) (origin : String) : Prop :=
  IsAndroid origin ∧ origin ∈ origins ∨
    ∃ configured ∈ origins, ∃ scheme authority,
      P.newURI configured = some ⟨some scheme, some authority⟩ ∧
      P.newURI origin = some ⟨some scheme, some authority⟩

/-- **No string without a scheme or without an authority has the form of a configured origin**, which
is not the origin of an Android application. -/
def Unconfused (P : Platform Cert) (origins : List String) : Prop :=
  ∀ configured ∈ origins, ¬ IsAndroid configured → ∀ u, P.newURI configured = some u →
    ∀ origin, ¬ IsAndroid origin → ∀ v, P.newURI origin = some v →
      v.scheme = none ∨ v.authority = none →
      ¬ (orNull v.scheme = orNull u.scheme ∧ orNull v.authority = orNull u.authority)

/-- A parser reads the scheme of a URI also where no authority comes after it, as in `mailto:x`, and its
authority also where no scheme comes before it, as in `//x`. -/
structure ParsesParts (P : Platform Cert) : Prop where
  schemeAlone : ∀ s u, P.newURI s = some u → ∀ scheme, u.scheme = some scheme →
    ∃ origin, ¬ IsAndroid origin ∧ P.newURI origin = some ⟨some scheme, none⟩
  authorityAlone : ∀ s u, P.newURI s = some u → ∀ authority, u.authority = some authority →
    ∃ origin, ¬ IsAndroid origin ∧ P.newURI origin = some ⟨none, some authority⟩

variable {server}

/-- **What the server accepts**: a configured application, or what has the texts of a configured
origin. -/
theorem verifyOrigin_iff (hP : server.platform.SchemesWithoutColon) {origins : List String}
    (h : server.Configured origins) {origin : String} :
    server.verifyOrigin origin = .ok () ↔
      IsAndroid origin ∧ origin ∈ origins ∨
      ¬ IsAndroid origin ∧ ∃ v, server.platform.newURI origin = some v ∧
        ∃ configured ∈ origins, ¬ IsAndroid configured ∧ ∃ u,
          server.platform.newURI configured = some u ∧
          orNull v.scheme = orNull u.scheme ∧ orNull v.authority = orNull u.authority := by
  rw [verifyOrigin_eq_ok_iff]
  simp only [mem_canonicalizeOrigins h, canonicalizeOrigin_eq_ok_iff]
  constructor
  · rintro ⟨canonical, ⟨ha, rfl⟩ | ⟨ha, v, hv, rfl⟩, configured, hmem, ⟨hc, rfl⟩ | ⟨hc, u, hu, heq⟩⟩
    · exact .inl ⟨ha, hmem⟩
    · exact absurd (heq ▸ ha) (not_isAndroid_originOf fun s hs => hP _ _ s hu hs)
    · exact absurd hc (not_isAndroid_originOf fun s hs => hP _ _ s hv hs)
    · refine .inr ⟨ha, v, hv, configured, hmem, hc, u, hu, ?_⟩
      exact (originOf_eq_iff (fun s hs => hP _ _ s hv hs) fun s hs => hP _ _ s hu hs).1 heq.symm
  · rintro (⟨ha, hmem⟩ | ⟨ha, v, hv, configured, hmem, hc, u, hu, heq⟩)
    · exact ⟨origin, .inl ⟨ha, rfl⟩, origin, hmem, .inl ⟨ha, rfl⟩⟩
    · refine ⟨originOf v, .inr ⟨ha, v, hv, rfl⟩, configured, hmem, .inr ⟨hc, u, hu, ?_⟩⟩
      exact ((originOf_eq_iff (fun s hs => hP _ _ s hv hs) fun s hs => hP _ _ s hu hs).2 heq).symm

/-- Configured origins that have a scheme and an authority, neither of which is the text `null`, are
unconfused. -/
theorem unconfused_of_complete {P : Platform Cert} {origins : List String}
    (h : ∀ configured ∈ origins, ¬ IsAndroid configured → ∀ u, P.newURI configured = some u →
      orNull u.scheme ≠ "null" ∧ orNull u.authority ≠ "null") : Unconfused P origins := by
  rintro configured hmem hc u hu origin - v - hnone ⟨hscheme, hauthority⟩
  obtain ⟨hs, ha⟩ := h configured hmem hc u hu
  rcases hnone with hnone | hnone
  · rw [hnone] at hscheme
    exact hs hscheme.symm
  · rw [hnone] at hauthority
    exact ha hauthority.symm

/-- **The condition on the configured origins alone**, for a parser that reads a part without the other
one: each has a scheme and an authority, neither of which is the text `null`. -/
theorem unconfused_iff_complete {P : Platform Cert} (hparts : ParsesParts P) {origins : List String} :
    Unconfused P origins ↔
      ∀ configured ∈ origins, ¬ IsAndroid configured → ∀ u, P.newURI configured = some u →
        orNull u.scheme ≠ "null" ∧ orNull u.authority ≠ "null" := by
  refine ⟨fun hunconfused configured hmem hc u hu => ?_, unconfused_of_complete⟩
  have hconfuses := hunconfused configured hmem hc u hu
  -- an origin that lacks a part has its own form
  have hboth : ¬ (u.scheme = none ∨ u.authority = none) := fun hnone =>
    hconfuses configured hc u hu hnone ⟨rfl, rfl⟩
  obtain ⟨scheme, hscheme⟩ := Option.ne_none_iff_exists'.1 fun hnone => hboth (.inl hnone)
  obtain ⟨authority, hauthority⟩ := Option.ne_none_iff_exists'.1 fun hnone => hboth (.inr hnone)
  constructor
  · intro hnull
    obtain ⟨origin, ha, horigin⟩ := hparts.authorityAlone configured u hu authority hauthority
    exact hconfuses origin ha _ horigin (.inl rfl) ⟨hnull.symm, congrArg orNull hauthority.symm⟩
  · intro hnull
    obtain ⟨origin, ha, horigin⟩ := hparts.schemeAlone configured u hu scheme hscheme
    exact hconfuses origin ha _ horigin (.inr rfl) ⟨congrArg orNull hscheme.symm, hnull.symm⟩

/-- A part that is there, from its text. -/
theorem eq_of_orNull_eq {s t : Option String} {a : String} (hs : s = some a) (ht : t ≠ none)
    (h : orNull s = orNull t) : t = some a := by
  subst hs
  cases t with
  | none => exact absurd rfl ht
  | some b => exact congrArg some h.symm

/-- **All that the server accepts is recognized, exactly if no string without a scheme or without an
authority has the form of a configured origin.** -/
theorem recognizes_iff_unconfused (hP : server.platform.SchemesWithoutColon) {origins : List String}
    (h : server.Configured origins) :
    (∀ origin, server.verifyOrigin origin = .ok () → Recognized server.platform origins origin) ↔
      Unconfused server.platform origins := by
  constructor
  · rintro hrecognized configured hmem hc u hu origin ha v hv hnone heq
    have haccepts := (verifyOrigin_iff hP h).2
      (.inr ⟨ha, v, hv, configured, hmem, hc, u, hu, heq⟩)
    rcases hrecognized origin haccepts with ⟨ha', -⟩ | ⟨_, -, scheme, authority, -, hv'⟩
    · exact ha ha'
    · cases hv.symm.trans hv'
      rcases hnone with hnone | hnone
      · cases hnone
      · cases hnone
  · intro hunconfused origin haccepts
    rcases (verifyOrigin_iff hP h).1 haccepts with ⟨ha, hmem⟩ | ⟨ha, v, hv, configured, hmem, hc, u, hu,
      hscheme, hauthority⟩
    · exact .inl ⟨ha, hmem⟩
    · -- both origins have both parts, and so the texts are the parts
      have hv' : ¬ (v.scheme = none ∨ v.authority = none) := fun hnone =>
        hunconfused configured hmem hc u hu origin ha v hv hnone ⟨hscheme, hauthority⟩
      have hu' : ¬ (u.scheme = none ∨ u.authority = none) := fun hnone =>
        hunconfused configured hmem hc u hu configured hc u hu hnone ⟨rfl, rfl⟩
      obtain ⟨scheme, hs⟩ := Option.ne_none_iff_exists'.1 fun hnone => hv' (.inl hnone)
      obtain ⟨authority, hau⟩ := Option.ne_none_iff_exists'.1 fun hnone => hv' (.inr hnone)
      have hus := eq_of_orNull_eq hs (fun hnone => hu' (.inl hnone)) hscheme
      have hua := eq_of_orNull_eq hau (fun hnone => hu' (.inr hnone)) hauthority
      refine .inr ⟨configured, hmem, scheme, authority, ?_, ?_⟩
      · rw [hu, ← hus, ← hua]
      · rw [hv, ← hs, ← hau]

/-! ### A configured origin without a scheme -/

section Examples

open TestVectors

/-- `new URI` on three strings: one with a scheme and an authority, and two that are only a path. -/
def newURI (s : String) : Option URI :=
  if s = ORIGIN then some ⟨some "http", some "example.com"⟩
  else if s = "some-other-domain.com" ∨ s = "example.com" then some ⟨none, none⟩
  else none

/-- The server of the tests, with some allowed origins. -/
def originServer (allowed : List String) : U2FServerReferenceImpl Certificate Bytes where
  platform := { TestVectors.platform [] [] with newURI := newURI }
  crypto := TestVectors.crypto
  sessionIdGenerator := httpSessionIdGenerator
  allowedOrigins := allowed

/-- `new URI` on an origin, and on each of its parts without the other one. -/
example : ParsesParts { TestVectors.platform [] [] with
    newURI := fun s =>
      if s = ORIGIN then some ⟨some "http", some "example.com"⟩
      else if s = "http:x" then some ⟨some "http", none⟩
      else if s = "//example.com" then some ⟨none, some "example.com"⟩
      else none } where
  schemeAlone := by
    intro s u hu scheme hscheme
    refine ⟨"http:x", by decide, ?_⟩
    dsimp only at hu ⊢
    split at hu
    · cases hu
      cases hscheme
      rfl
    · split at hu
      · cases hu
        cases hscheme
        rfl
      · split at hu
        · cases hu
          cases hscheme
        · cases hu
  authorityAlone := by
    intro s u hu authority hauthority
    refine ⟨"//example.com", by decide, ?_⟩
    dsimp only at hu ⊢
    split at hu
    · cases hu
      cases hauthority
      rfl
    · split at hu
      · cases hu
        cases hauthority
      · split at hu
        · cases hu
          cases hauthority
          rfl
        · cases hu

theorem newURI_cases {s : String} {uri : URI} (h : newURI s = some uri) :
    s = ORIGIN ∧ uri = ⟨some "http", some "example.com"⟩ ∨ uri = ⟨none, none⟩ := by
  unfold newURI at h
  split at h
  case isTrue hs => exact .inl ⟨hs, (Option.some.inj h).symm⟩
  case isFalse =>
    split at h
    · exact .inr (Option.some.inj h).symm
    · cases h

theorem schemesWithoutColon_originServer (allowed : List String) :
    (originServer allowed).platform.SchemesWithoutColon := by
  intro s uri scheme h hscheme
  rcases newURI_cases h with ⟨-, rfl⟩ | rfl
  · cases hscheme
    decide
  · cases hscheme

theorem canonicalizeOrigins_singleton {P : Platform Certificate} {origin : String} {uri : URI}
    (ha : ¬ IsAndroid origin) (h : P.newURI origin = some uri) :
    canonicalizeOrigins P [origin] = .ok [originOf uri] := by
  have hform : canonicalizeOrigin P origin = .ok (originOf uri) :=
    canonicalizeOrigin_eq_ok_iff.2 (.inr ⟨ha, uri, h, rfl⟩)
  have ha' : ¬ origin.startsWith ANDROID_APK_KEY_HASH = true := ha
  rw [canonicalizeOrigins, List.mapM_cons, List.mapM_nil, if_neg ha', hform]
  rfl

/-- A configured origin with both parts is unconfused, and what the server accepts is recognized. -/
theorem recognizes_ORIGIN :
    ((∀ origin, (originServer [ORIGIN]).verifyOrigin origin = .ok () →
        Recognized (originServer [ORIGIN]).platform [ORIGIN] origin) ↔
      Unconfused (originServer [ORIGIN]).platform [ORIGIN]) ∧
      Unconfused (originServer [ORIGIN]).platform [ORIGIN] := by
  have hORIGIN : (originServer [ORIGIN]).platform.newURI ORIGIN =
      some ⟨some "http", some "example.com"⟩ := by
    change newURI ORIGIN = _
    rw [newURI, if_pos rfl]
  refine ⟨recognizes_iff_unconfused (schemesWithoutColon_originServer [ORIGIN])
    (canonicalizeOrigins_singleton (by decide) hORIGIN), ?_⟩
  refine unconfused_of_complete ?_
  intro configured hmem _ u hu
  obtain rfl := List.mem_singleton.1 hmem
  obtain rfl := Option.some.inj (hORIGIN.symm.trans hu)
  decide

/-- A configured origin without a scheme: `example.com` is accepted for `some-other-domain.com`. -/
theorem not_recognized_example_com :
    let server := originServer ["null://null"]
    server.Configured ["some-other-domain.com"] ∧
      server.verifyOrigin "example.com" = .ok () ∧
      ¬ Recognized server.platform ["some-other-domain.com"] "example.com" := by
  intro server
  have hother : server.platform.newURI "some-other-domain.com" = some ⟨none, none⟩ := by decide
  have hexample : server.platform.newURI "example.com" = some ⟨none, none⟩ := by decide
  have hconf : server.Configured ["some-other-domain.com"] :=
    canonicalizeOrigins_singleton (by decide) hother
  refine ⟨hconf, ?_, ?_⟩
  · refine (verifyOrigin_iff (schemesWithoutColon_originServer _) hconf).2 (.inr ⟨by decide, _,
      hexample, _, List.mem_singleton_self _, by decide, _, hother, rfl, rfl⟩)
  · rintro (⟨ha, -⟩ | ⟨_, -, scheme, authority, -, hv⟩)
    · exact absurd ha (by decide)
    · cases hexample.symm.trans hv

end Examples

end U2FServerReferenceImpl

end U2F
