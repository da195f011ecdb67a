/-
**The app ids that reach a security key.**

A signer and an enroller ask whether the origin of the page may use a list of app ids, and then have
a helper work with hashes of app ids.  The list and the hashes are computed by different loops: the
list leaves out what cannot be a key of an object and, for sign challenges, what is empty, while a
hash is taken of whatever an entry has of its own, or of the app id of the request.

Main definitions:

* `HelperRequest.Within` — each app id hash of a helper request is that of a listed app id;
* `Approved` — each request whose handler was run is within a list that both checks have approved;
* `SignListed`, `EnrollListed` — the app ids that a request is hashed with are listed.

Main results:

* `approved_of_listed` — **no unapproved app id reaches a security key**, in every run on a request
  whose app ids are listed.
-/

import U2F.Extension.Finished
import U2F.Extension.QueuedSignRequest

set_option relaxedAutoImplicit false
set_option autoImplicit false

namespace U2F

/-! ### Approved requests -/

/-- Each app id hash of the request is that of a listed app id. -/
structure HelperRequest.Within (P : Primitives) (request : HelperRequest) (appIds : List JSString) :
    Prop where
  signData : ∀ c ∈ request.signData, ∃ a ∈ appIds, c.appIdHash = P.hash a
  enrollChallenges : ∀ c ∈ request.enrollChallenges, ∃ a ∈ appIds, c.appIdHash = P.hash a

/-- Each request whose handler was run is within a list of app ids that the origin may claim and
that `checkAppIds` has approved. -/
def Approved (P : Primitives) (claimed checked : List (List JSString))
    (ran : List HelperRequest) : Prop :=
  ∀ request ∈ ran, ∃ appIds, appIds ∈ claimed ∧ appIds ∈ checked ∧ request.Within P appIds

namespace Approved

variable {P : Primitives} {claimed checked : List (List JSString)} {ran : List HelperRequest}

theorem claim (h : Approved P claimed checked ran) (appIds : List JSString) :
    Approved P (claimed ++ [appIds]) checked ran := by
  intro request hrequest
  obtain ⟨approved, hclaimed, hchecked, hwithin⟩ := h request hrequest
  exact ⟨approved, List.mem_append_left _ hclaimed, hchecked, hwithin⟩

theorem check (h : Approved P claimed checked ran) (appIds : List JSString) :
    Approved P claimed (checked ++ [appIds]) ran := by
  intro request hrequest
  obtain ⟨approved, hclaimed, hchecked, hwithin⟩ := h request hrequest
  exact ⟨approved, hclaimed, List.mem_append_left _ hchecked, hwithin⟩

theorem run (h : Approved P claimed checked ran) {appIds : List JSString}
    (hclaimed : appIds ∈ claimed) (hchecked : appIds ∈ checked) {request : HelperRequest}
    (hwithin : request.Within P appIds) : Approved P claimed checked (ran ++ [request]) := by
  intro other hother
  rcases List.mem_append.1 hother with hother | hother
  · exact h other hother
  · obtain rfl := List.mem_singleton.1 hother
    exact ⟨appIds, hclaimed, hchecked, hwithin⟩

end Approved

/-! ### Sign requests -/

/-- The sign challenges of a request. -/
def signChallengesOf (request : U2fRequest) : List SignChallenge :=
  (getSignChallenges request).getD []

/-- The app id of the entire request, as the signer is given it. -/
def signAppIdOf (request : U2fRequest) : Option JSString :=
  signAppId request (signChallengesOf request)

/-- The app ids that the challenges of a sign request are hashed with are neither empty nor
`__proto__`. -/
def SignListed (request : U2fRequest) : Prop :=
  ∀ c ∈ signChallengesOf request, ∀ a, c.appIdOr (signAppIdOf request) = some a →
    a ≠ [] ∧ a ≠ PROTO

/-- The request is not signed: a challenge has no value, or no app id can be listed. -/
def SignRefused (request : U2fRequest) : Prop :=
  (∃ c ∈ signChallengesOf request, truthy (c.challengeOr request.challenge) = false) ∨
    ∀ a, (signAppIdOf request = some a ∨ ∃ c ∈ signChallengesOf request, c.appId = some a) →
      a = [] ∨ a = PROTO

namespace Signer

theorem mem_appIdsToCheck {signChallenges : List SignChallenge} {appId : Option JSString}
    {a : JSString} : a ∈ appIdsToCheck signChallenges appId ↔
      (appId = some a ∨ ∃ c ∈ signChallenges, c.appId = some a) ∧ a ≠ [] ∧ a ≠ PROTO := by
  unfold appIdsToCheck
  dsimp only
  split
  case isTrue h =>
    cases appId with
    | none => simp [truthy] at h
    | some d =>
        have hd : d ≠ [] := by simpa [truthy] using h
        rw [mem_unionArrays, mem_getDistinctAppIds]
        simp only [Option.getD_some, List.mem_singleton, Option.some_inj]
        constructor
        · rintro ⟨rfl | ⟨hc, hne, hproto⟩, hproto'⟩
          · exact ⟨.inl rfl, hd, hproto'⟩
          · exact ⟨.inr hc, hne, hproto⟩
        · rintro ⟨rfl | hc, hne, hproto⟩
          · exact ⟨.inl rfl, hproto⟩
          · exact ⟨.inr ⟨hc, hne, hproto⟩, hproto⟩
  case isFalse h =>
    rw [mem_getDistinctAppIds]
    simp only [Option.getD_some]
    constructor
    · rintro ⟨hc, hne, hproto⟩
      exact ⟨.inr hc, hne, hproto⟩
    · rintro ⟨rfl | hc, hne, hproto⟩
      · exact absurd hne (by simpa [truthy] using h)
      · exact ⟨hc, hne, hproto⟩

/-- A signer that has been given the challenges of a request. -/
def start (timer : CountdownTimer) (sender : WebRequestSender) (request : U2fRequest) : Signer :=
  ((new timer sender request.logMsgUrl).setChallenges (signChallengesOf request) request.challenge
    (signAppIdOf request)).2.1

variable (P : Primitives) (request : U2fRequest)

/-- What holds of a signer at every point of a run on a request: what it waits for is the check of
the app ids of its challenges, and what it has run was approved. -/
structure Bound (s : Signer) : Prop where
  set : s.challengesSet = true ∨ s.done = true
  fields : s.awaiting ≠ .nothing → s.signChallenges = signChallengesOf request ∧
    s.defaultChallenge = request.challenge ∧ s.appId = signAppIdOf request
  awaited : ∀ appIds, s.awaiting = .originCheck appIds ∨ s.awaiting = .appIdCheck appIds →
    appIds = appIdsToCheck (signChallengesOf request) (signAppIdOf request) ∧ appIds ≠ []
  claimed : ∀ appIds, s.awaiting = .appIdCheck appIds → appIds ∈ s.claimed
  approved : Approved P s.claimed s.checked s.ran

variable {P request}

theorem Bound.notify (call : SignerCall) {s : Signer} (hs : s.Bound P request) :
    (s.notify call).1.Bound P request := by
  unfold Signer.notify
  split
  · exact hs
  · exact ⟨.inr rfl, hs.fields, hs.awaited, hs.claimed, hs.approved⟩

/-- A signer that waits for nothing. -/
theorem Bound.of_nothing {s : Signer} (hset : s.challengesSet = true ∨ s.done = true)
    (hawaiting : s.awaiting = .nothing) (happroved : Approved P s.claimed s.checked s.ran) :
    s.Bound P request :=
  ⟨hset, fun h => absurd hawaiting h, fun _ h => by simp [hawaiting] at h,
    fun _ h => by simp [hawaiting] at h, happroved⟩

/-- The request to the helper is within the list, if the app ids are listed. -/
theorem within_signRequest (hlisted : SignListed request ∨ SignRefused request) {s : Signer}
    {helperRequest : HelperRequest} (h : s.signRequest P = some helperRequest) (hsign : s.Signable)
    (hchallenges : s.signChallenges = signChallengesOf request)
    (hdefault : s.defaultChallenge = request.challenge) (happId : s.appId = signAppIdOf request)
    (hne : appIdsToCheck (signChallengesOf request) (signAppIdOf request) ≠ []) :
    helperRequest.Within P (appIdsToCheck (signChallengesOf request) (signAppIdOf request)) := by
  obtain ⟨hencodes, henroll⟩ := signRequest_encodes P h
  refine ⟨fun encoded hencoded => ?_, by simp [henroll]⟩
  obtain ⟨c, hc, a, ha, hhash⟩ := Traverse.exists_of_forall₂_right hencodes hencoded
  rw [hchallenges] at hc
  rw [happId] at ha
  refine ⟨a, mem_appIdsToCheck.2 ⟨?_, ?_⟩, hhash⟩
  · -- the app id is the challenge's own, or that of the request
    unfold SignChallenge.appIdOr at ha
    split at ha
    · exact .inr ⟨c, hc, by rwa [← ha]⟩
    · exact .inl ha
  · rcases hlisted with hlisted | ⟨c', hc', hvalue⟩ | hnone
    · exact hlisted c hc a ha
    · rw [← hchallenges] at hc'
      rw [← hdefault] at hvalue
      exact absurd (hvalue.symm.trans (hsign c' hc').1) (by simp)
    · obtain ⟨b, hb⟩ := List.exists_mem_of_ne_nil _ hne
      obtain ⟨hnamed, hb, hb'⟩ := mem_appIdsToCheck.1 hb
      exact absurd (hnone b hnamed) (by simp [hb, hb'])

/-- Signing keeps to the list that has been approved. -/
theorem Bound.doSign (hlisted : SignListed request ∨ SignRefused request) {s : Signer}
    (hs : s.Bound P request) {appIds : List JSString} (hawaiting : s.awaiting = .appIdCheck appIds)
    (helper : Option (HandlerRun SignHelperReply)) :
    ({ s with awaiting := .nothing, checked := s.checked ++ [appIds] }.doSign P helper).1.Bound P
      request := by
  obtain ⟨hchallenges, hdefault, happId⟩ := hs.fields (by simp [hawaiting])
  obtain ⟨rfl, hne⟩ := hs.awaited _ (.inr hawaiting)
  have happroved := hs.approved.check
    (appIdsToCheck (signChallengesOf request) (signAppIdOf request))
  have hclaimed := hs.claimed _ hawaiting
  obtain ⟨_, _, hsigns⟩ := signs_doSign P helper { s with
    awaiting := .nothing
    checked := s.checked ++ [appIdsToCheck (signChallengesOf request) (signAppIdOf request)] }
  generalize (Signer.doSign P helper _).1 = t at hsigns ⊢
  cases hsigns with
  | threw => exact .of_nothing hs.set rfl happroved
  | failed handler => exact .notify _ (.of_nothing hs.set rfl happroved)
  | ran helperRequest run hrun hsign hrequest =>
      refine helperReplies_keeps Bound.notify _ (.of_nothing hs.set rfl ?_)
      exact happroved.run hclaimed (by simp)
        (within_signRequest hlisted hrequest hsign hchallenges hdefault happId hne)
  | refused helperRequest run hrun hsign hrequest =>
      refine .notify _ (helperReplies_keeps Bound.notify _ (.of_nothing hs.set rfl ?_))
      exact happroved.run hclaimed (by simp)
        (within_signRequest hlisted hrequest hsign hchallenges hdefault happId hne)

theorem Bound.next (hlisted : SignListed request ∨ SignRefused request) {s : Signer} (e : Event)
    (hs : s.Bound P request) : ((machine P).next s e).Bound P request := by
  change (s.handle P e).1.Bound P request
  cases e with
  | setChallenges signChallenges defaultChallenge appId =>
      simp only [handle, setChallenges, hs.set, if_true]
      exact hs
  | timerTick => exact ⟨hs.set, hs.fields, hs.awaited, hs.claimed, hs.approved⟩
  | originChecked result =>
      simp only [handle, Signer.originChecked]
      split
      case h_1 appIds hawaiting =>
        split
        · have happIds := hs.awaited appIds (.inl hawaiting)
          refine ⟨hs.set, fun _ => hs.fields (by simp [hawaiting]), ?_, ?_, hs.approved.claim appIds⟩
          -- the app ids that are claimed are the ones that will be checked
          · rintro L (h | h)
            · cases h
            · cases h
              exact happIds
          · rintro L h
            cases h
            simp
        · exact .notify _ (.of_nothing hs.set rfl hs.approved)
      case h_2 => exact hs
  | appIdChecked result helper =>
      simp only [handle, Signer.appIdChecked]
      split
      case h_1 appIds hawaiting =>
        split
        -- only here is a handler run
        · exact hs.doSign hlisted hawaiting helper
        · exact .notify _ (.of_nothing hs.set rfl hs.approved)
      case h_2 => exact hs
  | checkRejected => exact .of_nothing hs.set rfl hs.approved
  | helperComplete reply =>
      simp only [handle]
      split
      · exact hs
      · exact helperComplete_keeps Bound.notify reply hs
  | close => exact .notify _ ⟨hs.set, hs.fields, hs.awaited, hs.claimed, hs.approved⟩

/-- A signer that has just been given the challenges of the request. -/
theorem bound_start (timer : CountdownTimer) (sender : WebRequestSender) :
    (start timer sender request).Bound P request := by
  have hnone : Approved P [] [] [] := by simp [Approved]
  unfold start setChallenges
  rw [if_neg (by simp [new])]
  split
  · have hstart : ∀ s : Signer, s.done = false → s.awaiting = .nothing →
        Approved P s.claimed s.checked s.ran →
        (s.notifyError (.ofCode .TIMEOUT)).1.Bound P request := by
      intro s hdone hawaiting happroved
      simp only [notifyError, Signer.notify, hdone]
      exact .of_nothing (.inr rfl) hawaiting happroved
    exact hstart _ rfl rfl hnone
  · unfold checkAppIds
    dsimp only
    split
    · exact .notify _ (.of_nothing (.inl rfl) rfl hnone)
    · rename_i hne
      refine ⟨.inl rfl, fun _ => ⟨rfl, rfl, rfl⟩, ?_, nofun, hnone⟩
      rintro L (h | h)
      · cases h
        exact ⟨rfl, hne⟩
      · cases h

end Signer

/-! ### Register requests -/

/-- The entries of `registerRequests`. -/
def enrollChallengesOf (request : U2fRequest) : List EnrollChallenge :=
  request.registerRequests.getD []

/-- The sign challenges of a register request. -/
def enrollSignChallengesOf (request : U2fRequest) : List SignChallenge :=
  (getSignRequestsFromEnrollRequest request).getD []

/-- What is read of an enroll challenge when it is encoded: a V2 challenge is copied first. -/
def EnrollChallenge.asEncoded (enrollChallenge : EnrollChallenge) : EnrollChallenge :=
  if enrollChallenge.versionOrV1 = js "U2F_V2" then Enroller.copy enrollChallenge else enrollChallenge

/-- The entries of a register request are hashed with this app id. -/
def EnrollUses (request : U2fRequest) (appId : Option JSString) : Prop :=
  (∃ c ∈ enrollSignChallengesOf request, c.appIdOr request.appId = appId) ∨
    ∃ c ∈ enrollChallengesOf request, c.asEncoded.appIdOr request.appId = appId

/-- An `appId` of the request or of an entry. -/
def EnrollNames (request : U2fRequest) (appId : JSString) : Prop :=
  request.appId = some appId ∨ (∃ c ∈ enrollChallengesOf request, c.appId = some appId) ∨
    ∃ c ∈ enrollSignChallengesOf request, c.appId = some appId

/-- The app ids that the entries of a register request are hashed with are listed: they are given as
an `appId`, are not `__proto__`, and are empty only if an entry of `registerRequests` has an empty one
of its own. -/
def EnrollListed (request : U2fRequest) : Prop :=
  ∀ a, EnrollUses request (some a) → EnrollNames request a ∧ a ≠ PROTO ∧
    (a = [] → ∃ c ∈ enrollChallengesOf request, c.appId = some [])

/-- The request is not enrolled: an entry has no app id to be hashed with, or there is none at all
for the entries of `registerRequests`. -/
def EnrollRefused (request : U2fRequest) : Prop :=
  EnrollUses request none ∨
    truthy request.appId = false ∧ ∀ c ∈ enrollChallengesOf request, c.appId = none

namespace Enroller

theorem mem_enrollAppIds {s : Enroller} {a : JSString} : a ∈ s.enrollAppIds ↔
    s.appId = some a ∧ a ≠ [] ∨ ∃ c ∈ s.enrollChallenges, c.appId = some a := by
  unfold enrollAppIds
  cases happId : s.appId with
  | none => simp [truthy]
  | some d =>
      by_cases hd : d = []
      · simp only [hd, truthy, Option.getD_some, ne_eq, not_true_eq_false, decide_false,
          Bool.false_eq_true, if_false, List.nil_append, List.mem_filterMap, Option.some_inj]
        constructor
        · exact .inr
        · rintro (⟨rfl, hne⟩ | hc)
          · exact absurd rfl hne
          · exact hc
      · simp only [truthy, Option.getD_some, ne_eq, hd, not_false_eq_true, decide_true, if_true,
          List.cons_append, List.nil_append, List.mem_cons, List.mem_filterMap, Option.some_inj]
        constructor
        · rintro (rfl | hc)
          · exact .inl ⟨rfl, hd⟩
          · exact .inr hc
        · rintro (⟨rfl, -⟩ | hc)
          · exact .inl rfl
          · exact .inr hc

theorem mem_appIdsToCheck {s : Enroller} {a : JSString} : a ∈ s.appIdsToCheck ↔
    (s.appId = some a ∧ a ≠ [] ∨ (∃ c ∈ s.enrollChallenges, c.appId = some a) ∨
      (∃ c ∈ s.signChallenges.getD [], c.appId = some a) ∧ a ≠ []) ∧ a ≠ PROTO := by
  unfold appIdsToCheck
  rw [mem_unionArrays, mem_enrollAppIds, mem_getDistinctAppIds]
  constructor
  · rintro ⟨(hd | hc) | ⟨hc, hne, -⟩, hproto⟩
    · exact ⟨.inl hd, hproto⟩
    · exact ⟨.inr (.inl hc), hproto⟩
    · exact ⟨.inr (.inr ⟨hc, hne⟩), hproto⟩
  · rintro ⟨hd | hc | ⟨hc, hne⟩, hproto⟩
    · exact ⟨.inl (.inl hd), hproto⟩
    · exact ⟨.inl (.inr hc), hproto⟩
    · exact ⟨.inr ⟨hc, hne, hproto⟩, hproto⟩

variable (P : Primitives) (request : U2fRequest)

/-- An encoded enroll challenge has the app id that is read of it when it is encoded. -/
theorem encodeEnrollChallenge_appIdHash {P : Primitives} {s : Enroller} {c : EnrollChallenge}
    {encoded : EnrollHelperChallenge} (h : s.encodeEnrollChallenge P c = some encoded) :
    ∃ a, c.asEncoded.appIdOr s.appId = some a ∧ encoded.appIdHash = P.hash a := by
  unfold encodeEnrollChallenge at h
  unfold EnrollChallenge.asEncoded
  split at h
  case isTrue hversion =>
    -- the copy has a challenge of its own, but the app id is read from it as it is
    rw [if_pos hversion]
    obtain ⟨a, ha, hhash⟩ := U2F.encodeEnrollChallenge_appIdHash h
    exact ⟨a, ha, hhash⟩
  case isFalse hversion =>
    rw [if_neg hversion]
    exact U2F.encodeEnrollChallenge_appIdHash h

/-- What holds of an enroller at every point of a run on a request. -/
structure Bound (s : Enroller) : Prop where
  enrollChallenges : s.enrollChallenges = enrollChallengesOf request
  signChallenges : s.signChallenges = getSignRequestsFromEnrollRequest request
  appId : s.appId = request.appId
  awaited : ∀ appIds helperRequest, s.awaiting = .originCheck appIds helperRequest ∨
    s.awaiting = .appIdCheck appIds helperRequest → helperRequest.Within P appIds
  claimed : ∀ appIds helperRequest, s.awaiting = .appIdCheck appIds helperRequest →
    appIds ∈ s.claimed
  approved : Approved P s.claimed s.checked s.ran

variable {P request}

theorem Bound.notify (call : EnrollerCall) {s : Enroller} (hs : s.Bound P request) :
    (s.notify call).1.Bound P request := by
  unfold Enroller.notify
  split
  · exact hs
  · exact ⟨hs.enrollChallenges, hs.signChallenges, hs.appId, hs.awaited, hs.claimed, hs.approved⟩

/-- The enroller waits for something that needs no check. -/
theorem Bound.wait {s : Enroller} (hs : s.Bound P request) (awaiting : EnrollAwaiting)
    (h : awaiting = .nothing ∨ awaiting = .tabId ∨ awaiting = .approval) :
    { s with awaiting := awaiting }.Bound P request := by
  refine ⟨hs.enrollChallenges, hs.signChallenges, hs.appId, ?_, ?_, hs.approved⟩
  · rintro appIds helperRequest (hawaiting | hawaiting)
    · rcases h with rfl | rfl | rfl <;> cases hawaiting
    · rcases h with rfl | rfl | rfl <;> cases hawaiting
  · rintro appIds helperRequest hawaiting
    rcases h with rfl | rfl | rfl <;> cases hawaiting

/-- The request to the helper is within the list that is checked, if the app ids are listed. -/
theorem within_enrollRequest (hlisted : EnrollListed request ∨ EnrollRefused request) {s : Enroller}
    (hs : s.Bound P request) {helperRequest : HelperRequest}
    (h : s.enrollRequest P = some helperRequest) (hne : s.enrollAppIds ≠ []) :
    helperRequest.Within P s.appIdsToCheck := by
  simp only [enrollRequest, Option.bind_eq_bind, Option.bind_eq_some_iff, Option.pure_def,
    Option.some_inj] at h
  obtain ⟨encodedEnrollChallenges, henroll, encodedSignChallenges, hsign, rfl⟩ := h
  have henroll := Traverse.mapM_eq_some_iff.1 henroll
  have hsign := Traverse.mapM_eq_some_iff.1 hsign
  have hsignChallenges : s.signChallenges.getD [] = enrollSignChallengesOf request := by
    rw [hs.signChallenges]
    rfl
  rw [hs.enrollChallenges] at henroll
  rw [hsignChallenges] at hsign
  -- every entry has an app id to be hashed with
  have huses : ¬ EnrollUses request none := by
    rintro (⟨c, hc, hnone⟩ | ⟨c, hc, hnone⟩)
    · obtain ⟨_, -, hencoded⟩ := Traverse.exists_of_forall₂_left hsign hc
      obtain ⟨a, ha, -⟩ := encodeSignChallenge_appIdHash hencoded
      rw [hs.appId, hnone] at ha
      cases ha
    · obtain ⟨_, -, hencoded⟩ := Traverse.exists_of_forall₂_left henroll hc
      obtain ⟨a, ha, -⟩ := encodeEnrollChallenge_appIdHash hencoded
      rw [hs.appId, hnone] at ha
      cases ha
  have hlisted : EnrollListed request := by
    rcases hlisted with hlisted | hnone | ⟨hempty, hnone⟩
    · exact hlisted
    · exact absurd hnone huses
    · obtain ⟨b, hb⟩ := List.exists_mem_of_ne_nil _ hne
      rcases mem_enrollAppIds.1 hb with ⟨hd, hb⟩ | ⟨c, hc, hown⟩
      · rw [hs.appId] at hd
        exact absurd hempty (by simp [truthy, hd, hb])
      · rw [hs.enrollChallenges] at hc
        exact absurd (hown.symm.trans (hnone c hc)) (by simp)
  have hmem : ∀ a, EnrollUses request (some a) → a ∈ s.appIdsToCheck := by
    intro a ha
    obtain ⟨hnamed, hproto, hempty⟩ := hlisted a ha
    rw [mem_appIdsToCheck, hs.appId, hs.enrollChallenges, hsignChallenges]
    refine ⟨?_, hproto⟩
    by_cases ha : a = []
    · exact .inr (.inl (ha ▸ hempty ha))
    · rcases hnamed with hd | hc | hc
      · exact .inl ⟨hd, ha⟩
      · exact .inr (.inl hc)
      · exact .inr (.inr ⟨hc, ha⟩)
  constructor
  · intro encoded hencoded
    obtain ⟨c, hc, hencoded⟩ := Traverse.exists_of_forall₂_right hsign hencoded
    obtain ⟨a, ha, hhash⟩ := encodeSignChallenge_appIdHash hencoded
    exact ⟨a, hmem a (.inl ⟨c, hc, by rw [← hs.appId, ha]⟩), hhash⟩
  · intro encoded hencoded
    obtain ⟨c, hc, hencoded⟩ := Traverse.exists_of_forall₂_right henroll hencoded
    obtain ⟨a, ha, hhash⟩ := encodeEnrollChallenge_appIdHash hencoded
    exact ⟨a, hmem a (.inr ⟨c, hc, by rw [← hs.appId, ha]⟩), hhash⟩

theorem Bound.sendEnrollRequestToHelper (hlisted : EnrollListed request ∨ EnrollRefused request)
    {s : Enroller} (hs : s.Bound P request) :
    (s.sendEnrollRequestToHelper P).1.Bound P request := by
  unfold Enroller.sendEnrollRequestToHelper
  split
  · exact hs
  · rename_i helperRequest hrequest
    have hdata : ∀ browserData, { s with browserData := browserData }.Bound P request :=
      fun _ => ⟨hs.enrollChallenges, hs.signChallenges, hs.appId, hs.awaited, hs.claimed,
        hs.approved⟩
    dsimp only
    split
    · exact .notify _ (hdata _)
    · rename_i hne
      refine ⟨hs.enrollChallenges, hs.signChallenges, hs.appId, ?_, nofun, hs.approved⟩
      rintro appIds other (h | h)
      · cases h
        exact within_enrollRequest hlisted hs hrequest hne
      · cases h

theorem Bound.next (hlisted : EnrollListed request ∨ EnrollRefused request) {s : Enroller}
    (e : Event) (hs : s.Bound P request) : ((machine P).next s e).Bound P request := by
  change (s.handle P e).1.Bound P request
  have hnothing : { s with awaiting := .nothing }.Bound P request := hs.wait _ (.inl rfl)
  cases e with
  | tabIdResolved =>
      simp only [handle, tabIdResolved]
      split
      · split
        · exact hnothing
        · exact hs.wait _ (.inr (.inr rfl))
      · exact hs
  | approvalResolved result =>
      simp only [handle, approvalResolved]
      split
      · split
        · exact hnothing
        · split
          · exact hnothing.sendEnrollRequestToHelper hlisted
          · split
            · exact hnothing.notify _
            · exact ⟨hs.enrollChallenges, hs.signChallenges, hs.appId, hnothing.awaited,
                hnothing.claimed, hs.approved⟩
      · exact hs
  | originChecked result =>
      simp only [handle, originChecked]
      split
      case h_1 appIds helperRequest hawaiting =>
        split
        -- the app ids that are claimed are the ones that will be checked
        · refine ⟨hs.enrollChallenges, hs.signChallenges, hs.appId, ?_, ?_,
            hs.approved.claim appIds⟩
          · rintro L r (h | h)
            · cases h
            · cases h
              exact hs.awaited _ _ (.inl hawaiting)
          · rintro L r h
            cases h
            simp
        · exact hnothing.notify _
      case h_2 => exact hs
  | appIdChecked result helper =>
      simp only [handle, appIdChecked]
      split
      case h_1 appIds helperRequest hawaiting =>
        split
        · exact hnothing
        · split
          · have happroved := hs.approved.check appIds
            split
            · exact .notify _ ⟨hs.enrollChallenges, hs.signChallenges, hs.appId, hnothing.awaited,
                hnothing.claimed, happroved⟩
            -- a handler is run with the request that was waiting, which is within its app ids
            · refine helperReplies_keeps Bound.notify _ ⟨hs.enrollChallenges, hs.signChallenges,
                hs.appId, hnothing.awaited, hnothing.claimed, ?_⟩
              exact happroved.run (hs.claimed _ _ hawaiting) (by simp)
                (hs.awaited _ _ (.inr hawaiting))
          · exact hnothing.notify _
      case h_2 => exact hs
  | rejected =>
      simp only [handle, rejected]
      split
      · exact .notify _ ⟨hs.enrollChallenges, hs.signChallenges, hs.appId, hnothing.awaited,
          hnothing.claimed, hs.approved⟩
      · exact hnothing
  | timerTick =>
      have htimer : ∀ timer, { s with timer := timer }.Bound P request :=
        fun _ => ⟨hs.enrollChallenges, hs.signChallenges, hs.appId, hs.awaited, hs.claimed,
          hs.approved⟩
      simp only [handle, timerTick]
      split
      · exact (htimer _).notify _
      · exact htimer _
  | helperComplete reply =>
      simp only [handle]
      split
      · exact hs
      · exact helperComplete_keeps Bound.notify reply hs
  | close =>
      exact ⟨hs.enrollChallenges, hs.signChallenges, hs.appId, hs.awaited, hs.claimed, hs.approved⟩

/-- An enroller that has just been given the challenges of the request. -/
theorem bound_start (timer : CountdownTimer) (sender : WebRequestSender) :
    (start timer sender request).Bound P request := by
  have hnone : Approved P [] [] [] := by simp [Approved]
  exact ⟨rfl, rfl, rfl, nofun, nofun, hnone⟩

end Enroller

/-- **No unapproved app id reaches a security key**, in any run of a signer or an enroller on a
request whose app ids are listed. -/
theorem approved_of_listed (P : Primitives) (timer : CountdownTimer) (sender : WebRequestSender)
    (request : U2fRequest) :
    (SignListed request ∨ SignRefused request → ∀ es, (Signer.machine P).Always
      (fun s => Approved P s.claimed s.checked s.ran) (Signer.start timer sender request) es) ∧
    (EnrollListed request ∨ EnrollRefused request → ∀ es, (Enroller.machine P).Always
      (fun s => Approved P s.claimed s.checked s.ran) (Enroller.start timer sender request) es) := by
  constructor
  · intro hlisted es pre _
    have hbound := Machine.exec_invariant' (M := Signer.machine P) (fun _ e hs => hs.next hlisted e)
      pre (show (Signer.start timer sender request).Bound P request from
        Signer.bound_start timer sender)
    exact hbound.approved
  · intro hlisted es pre _
    have hbound := Machine.exec_invariant' (M := Enroller.machine P)
      (fun _ e hs => hs.next hlisted e) pre (Enroller.bound_start (P := P) timer sender)
    exact hbound.approved

/-- The app id of a page. -/
def exampleAppId : JSString := js "https://example.com"

/-- A sign request for one key, with the given app id of its own, and a register request for it. -/
def exampleRequest (appId : Option JSString) : U2fRequest :=
  { type := js "u2f_sign_request", requestId := some 1, challenge := some (js "challenge")
    appId := some exampleAppId, timeoutSeconds := none, timeout := none, logMsgUrl := none
    signRequests := some [⟨none, some (js "key"), appId, none⟩], registeredKeys := none
    registerRequests := some [⟨some (js "U2F_V2"), some (js "challenge"), none, .none⟩] }

/-- The app ids are checked, and the handler of the helper is run. -/
def Signer.signingRun : List Signer.Event :=
  [.originChecked true, .appIdChecked true (some ⟨[], true⟩)]

theorem approved_exampleRequest :
    (Signer.machine examplePrimitives).Always
      (fun s => Approved examplePrimitives s.claimed s.checked s.ran)
      (Signer.start (.new 30000) exampleSender (exampleRequest none)) Signer.signingRun ∧
    (Enroller.machine examplePrimitives).Always
      (fun s => Approved examplePrimitives s.claimed s.checked s.ran)
      (Enroller.start (.new 30000) exampleSender (exampleRequest none))
      [.tabIdResolved, .approvalResolved true, .originChecked true,
        .appIdChecked true (some ⟨[], true⟩)] := by
  have happroved :=
    approved_of_listed examplePrimitives (.new 30000) exampleSender (exampleRequest none)
  have hne : exampleAppId ≠ [] ∧ exampleAppId ≠ PROTO := by decide
  constructor
  · refine happroved.1 (.inl fun c hc a ha => ?_) _
    obtain rfl : c = ⟨none, some (js "key"), none, none⟩ := by
      simpa [signChallengesOf, exampleRequest, getSignChallenges] using hc
    obtain rfl : exampleAppId = a := Option.some_inj.1 ha
    exact hne
  · refine happroved.2 (.inl fun a ha => ?_) _
    have ha : a = exampleAppId := by
      rcases ha with ⟨c, hc, ha⟩ | ⟨c, hc, ha⟩
      · obtain rfl : c = ⟨some [], some (js "key"), none, none⟩ := by
          simpa [enrollSignChallengesOf, exampleRequest, getSignRequestsFromEnrollRequest] using hc
        exact (Option.some_inj.1 ha).symm
      · obtain rfl : c = ⟨some (js "U2F_V2"), some (js "challenge"), none, .none⟩ := by
          simpa [enrollChallengesOf, exampleRequest] using hc
        exact (Option.some_inj.1 ha).symm
    subst ha
    exact ⟨.inl rfl, hne.2, fun h => absurd h hne.1⟩

/-- With an empty app id of its own a key is signed for under a hash that was not approved, unless it
is the hash of the app id that was. -/
theorem not_approved_of_hash_ne {P : Primitives} (hhash : P.hash [] ≠ P.hash exampleAppId) :
    ¬ (Signer.machine P).Always (fun s => Approved P s.claimed s.checked s.ran)
      (Signer.start (.new 30000) exampleSender (exampleRequest (some []))) Signer.signingRun := by
  intro h
  have happroved := h _ List.prefix_rfl
  obtain ⟨request, hran, encoded, hdata, hempty⟩ : ∃ request, ((Signer.machine P).exec (Signer.start
      (.new 30000) exampleSender (exampleRequest (some []))) Signer.signingRun).ran = [request] ∧
      ∃ encoded, request.signData = [encoded] ∧ encoded.appIdHash = P.hash [] :=
    ⟨_, rfl, _, rfl, rfl⟩
  obtain ⟨appIds, hclaimed, -, hwithin⟩ := happroved request (by rw [hran]; simp)
  obtain ⟨a, ha, heq⟩ := hwithin.signData encoded (by rw [hdata]; simp)
  have hlist : appIds = [exampleAppId] := List.mem_singleton.1 hclaimed
  rw [hlist, List.mem_singleton] at ha
  exact hhash (by rw [← hempty, heq, ha])

/-- **A key of the request with an empty app id of its own is signed for without a check.** -/
theorem not_approved_emptyAppId : isValidSignRequest (exampleRequest (some [])) = true ∧
    ¬ (Signer.machine examplePrimitives).Always
      (fun s => Approved examplePrimitives s.claimed s.checked s.ran)
      (Signer.start (.new 30000) exampleSender (exampleRequest (some []))) Signer.signingRun :=
  ⟨by decide, not_approved_of_hash_ne (by decide)⟩

end U2F
