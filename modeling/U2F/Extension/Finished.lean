/-
**Requests that are done.**

A signer or an enroller that has notified its owner, or has been closed, is done.  An enroller asks
whether it is done in each of the callbacks that a promise calls; a signer does not ask when the
result of the check of its app ids arrives.

Main definitions:

* `QuietOnceDone` — no handler is run once the request is done, and none is kept;
* `Signer.OnTime` — a step that does not have a signer sign when it is done;

Main results:

* `quietOnceDone_of_onTime` — **a finished request starts nothing**: a signer in every run of steps
  that are on time, an enroller in every run.
-/

import U2F.Extension.Enroller
import U2F.Lib.Base64

set_option relaxedAutoImplicit false
set_option autoImplicit false

namespace U2F

/-- No handler is run by a step of a request that is done, and a request that is done keeps none. -/
structure QuietOnceDone {σ ε ρ : Type} (M : Machine σ ε ρ) (done : σ → Bool)
    (handler : σ → Option HelperRequest) (ran : σ → List HelperRequest) (s : σ) (es : List ε) :
    Prop where
  noRun : M.AllSteps (fun s e => done s = true → ran (M.next s e) = ran s) s es
  noHandler : M.Always (fun s => done s = true → handler s = none) s es

/-- What holds of every state, and of every step from it, holds of a run. -/
theorem quietOnceDone_of_inv {σ ε ρ : Type} {M : Machine σ ε ρ} {done : σ → Bool}
    {handler : σ → Option HelperRequest} {ran : σ → List HelperRequest} {G : σ → ε → Prop}
    (hinv : ∀ s e, (done s = true → handler s = none) → G s e →
      done (M.next s e) = true → handler (M.next s e) = none)
    (hran : ∀ s e, G s e → done s = true → ran (M.next s e) = ran s)
    {s : σ} {es : List ε} (hs : done s = true → handler s = none) (hG : M.AllSteps G s es) :
    QuietOnceDone M done handler ran s es where
  noRun := by
    rw [Machine.allSteps_iff] at hG ⊢
    intro pre e post hes
    exact hran _ e (hG pre e post hes)
  noHandler := Machine.always_of_invariant hinv (fun _ h => h) hG hs

/-- The sender of a page. -/
def exampleSender : WebRequestSender := ⟨js "https://example.com", none, some 1⟩

/-- SHA-256 of the app ids of the examples, any other text being its own hash; base64 with the
alphabet for URLs; and browser data whose parts need no escapes. -/
def examplePrimitives : Primitives where
  sha256HashOfString s :=
    if s = [] then
      [0xe3, 0xb0, 0xc4, 0x42, 0x98, 0xfc, 0x1c, 0x14, 0x9a, 0xfb, 0xf4, 0xc8, 0x99,
        0x6f, 0xb9, 0x24, 0x27, 0xae, 0x41, 0xe4, 0x64, 0x9b, 0x93, 0x4c, 0xa4, 0x95,
        0x99, 0x1b, 0x78, 0x52, 0xb8, 0x55]
    else if s = js "https://example.com" then
      [0x10, 0x06, 0x80, 0xad, 0x54, 0x6c, 0xe6, 0xa5, 0x77, 0xf4, 0x2f, 0x52, 0xdf,
        0x33, 0xb4, 0xcf, 0xdc, 0xa7, 0x56, 0x85, 0x9e, 0x66, 0x4b, 0x8d, 0x7d, 0xe3,
        0x29, 0xb1, 0x50, 0xd0, 0x9c, 0xe9]
    else UTIL_StringToBytes s
  B64_encode bytes := (Base64.sextets (bytes.map UInt8.ofNat)).map fun n =>
    UInt16.ofNat (Base64.char n).toNat
  makeBrowserData typ serverChallenge origin _ :=
    js "\x7b\"typ\":\"" ++ typ ++ js "\",\"challenge\":\"" ++ serverChallenge ++
      js "\",\"origin\":\"" ++ origin ++ js "\",\"cid_pubkey\":\"unused\"\x7d"

/-! ### Signers -/

namespace Signer

/-- No handler is kept once the signer is done. -/
def Closed (s : Signer) : Prop := s.done = true → s.handler = none

theorem closed_notify (call : SignerCall) {s : Signer} (hs : s.Closed) :
    (s.notify call).1.Closed := by
  unfold notify
  split
  case isTrue => exact hs
  case isFalse => exact fun _ => rfl

@[simp] theorem ran_notify (call : SignerCall) (s : Signer) : (s.notify call).1.ran = s.ran := by
  unfold notify
  split <;> rfl

@[simp] theorem ran_helperComplete (reply : SignHelperReply) (s : Signer) :
    (s.helperComplete reply).1.ran = s.ran := by
  exact helperComplete_keeps (I := fun t => t.ran = s.ran)
    (fun call t ht => (ran_notify call t).trans ht) reply rfl

theorem closed_checkAppIds {s : Signer} (hs : s.Closed) : s.checkAppIds.1.Closed := by
  unfold checkAppIds
  dsimp only
  split
  · exact closed_notify _ hs
  · exact hs

/-! ### When a signer signs -/

/-- The signer is done, and is about to have its challenges signed all the same: the check of its
app ids succeeds, and the helper has a handler for it. -/
def SignsLate (s : Signer) (e : Event) : Prop :=
  s.done = true ∧ (∃ appIds, s.awaiting = .appIdCheck appIds) ∧ s.Signable ∧
    ∃ run, e = .appIdChecked true (some run)

/-- The step does not have a signer sign when it is done. -/
def OnTime (s : Signer) (e : Event) : Prop := ¬ s.SignsLate e

variable (P : Primitives)

/-- A signer that runs a handler has something to sign, and otherwise keeps what it had. -/
theorem doSign_spec (helper : Option (HandlerRun SignHelperReply)) (s : Signer) :
    (s.Signable ∧ ∃ run, helper = some run) ∨
      (s.doSign P helper).1.ran = s.ran ∧ (s.Closed → (s.doSign P helper).1.Closed) := by
  obtain ⟨_, _, hsigns⟩ := s.signs_doSign P helper
  generalize (s.doSign P helper).1 = t at hsigns ⊢
  cases hsigns with
  | threw => exact .inr ⟨rfl, id⟩
  | failed handler hhandler =>
      refine .inr ⟨ran_notify _ _, fun hs => closed_notify _ fun hdone => ?_⟩
      rcases hhandler with rfl | rfl
      · exact hs hdone
      · rfl
  | ran request run hrun hsign => exact .inl ⟨hsign, run, hrun⟩
  | refused request run hrun hsign => exact .inl ⟨hsign, run, hrun⟩

/-- A signer that was not done has no handler left if it is done after signing. -/
theorem closed_doSign (helper : Option (HandlerRun SignHelperReply)) {s : Signer}
    (hs : s.done = false) : (s.doSign P helper).1.Closed := by
  obtain ⟨browserData, serverChallenges, hsigns⟩ := s.signs_doSign P helper
  have ht : ∀ t : Signer, t.done = s.done → t.Closed :=
    fun t ht hdone => absurd (ht.symm.trans hdone) (by simp [hs])
  generalize (s.doSign P helper).1 = u at hsigns ⊢
  cases hsigns with
  | threw => exact ht _ rfl
  | failed handler => exact closed_notify _ (ht _ rfl)
  | ran request run => exact helperReplies_keeps closed_notify _ (ht _ rfl)
  | refused request run => exact closed_notify _ (helperReplies_keeps closed_notify _ (ht _ rfl))

/-! ### Runs of a signer -/

/-- A step that is on time keeps no handler for a signer that is done. -/
theorem closed_next {s : Signer} {e : Event} (hs : s.Closed) (he : s.OnTime e) :
    ((machine P).next s e).Closed := by
  change (s.handle P e).1.Closed
  cases e with
  | setChallenges signChallenges defaultChallenge appId =>
      simp only [handle, setChallenges]
      split
      · exact hs
      · split
        · exact closed_notify _ hs
        · exact closed_checkAppIds hs
  | timerTick => exact hs
  | originChecked result =>
      simp only [handle, originChecked]
      split
      · split
        · exact hs
        · exact closed_notify _ hs
      · exact hs
  | appIdChecked result helper =>
      simp only [handle, appIdChecked]
      split
      case h_1 appIds hawaiting =>
        split
        case isTrue hresult =>
          rcases Bool.eq_false_or_eq_true s.done with hdone | hdone
          · -- the signer is done, so the step is on time only if there is nothing to run
            rcases doSign_spec P helper { s with
              awaiting := .nothing, checked := s.checked ++ [appIds] } with ⟨hsign, run, hrun⟩ | h
            · exact absurd ⟨hdone, ⟨appIds, hawaiting⟩, hsign, run, by rw [hresult, hrun]⟩ he
            · exact h.2 hs
          · exact closed_doSign P helper hdone
        case isFalse => exact closed_notify _ hs
      case h_2 => exact hs
  | checkRejected => exact hs
  | helperComplete reply =>
      simp only [handle]
      split
      · exact hs
      · exact helperComplete_keeps closed_notify reply hs
  | close => exact closed_notify _ fun _ => rfl

/-- A step that is on time runs no handler for a signer that is done. -/
theorem ran_next {s : Signer} {e : Event} (hdone : s.done = true) (he : s.OnTime e) :
    ((machine P).next s e).ran = s.ran := by
  change (s.handle P e).1.ran = s.ran
  cases e with
  | setChallenges signChallenges defaultChallenge appId =>
      simp only [handle, setChallenges, hdone, or_true, if_true]
  | timerTick => rfl
  | originChecked result =>
      simp only [handle, originChecked]
      split
      · split
        · rfl
        · exact ran_notify _ _
      · rfl
  | appIdChecked result helper =>
      simp only [handle, appIdChecked]
      split
      case h_1 appIds hawaiting =>
        split
        case isTrue hresult =>
          rcases doSign_spec P helper { s with
            awaiting := .nothing, checked := s.checked ++ [appIds] } with ⟨hsign, run, hrun⟩ | h
          · exact absurd ⟨hdone, ⟨appIds, hawaiting⟩, hsign, run, by rw [hresult, hrun]⟩ he
          · exact h.1
        case isFalse => exact ran_notify _ _
      case h_2 => rfl
  | checkRejected => rfl
  | helperComplete reply =>
      simp only [handle]
      split
      · rfl
      · exact ran_helperComplete reply s
  | close => exact ran_notify _ _

theorem quietOnceDone {timer : CountdownTimer} {sender : WebRequestSender}
    {logMsgUrl : Option JSString} {es : List Event}
    (hes : (machine P).AllSteps OnTime (new timer sender logMsgUrl) es) :
    QuietOnceDone (machine P) done handler ran (new timer sender logMsgUrl) es :=
  quietOnceDone_of_inv (fun _ _ hs he => closed_next P hs he)
    (fun _ _ he hdone => ran_next P hdone he) (fun _ => rfl) hes

end Signer

/-! ### Enrollers -/

namespace Enroller

/-- No handler is kept once the enroller is done. -/
def Closed (s : Enroller) : Prop := s.done = true → s.handler = none

theorem closed_notify (call : EnrollerCall) {s : Enroller} (hs : s.Closed) :
    (s.notify call).1.Closed := by
  unfold notify
  split
  case isTrue => exact hs
  case isFalse => exact fun _ => rfl

@[simp] theorem ran_notify (call : EnrollerCall) (s : Enroller) : (s.notify call).1.ran = s.ran := by
  unfold notify
  split <;> rfl

@[simp] theorem ran_helperComplete (reply : EnrollHelperReply) (s : Enroller) :
    (s.helperComplete reply).1.ran = s.ran := by
  exact helperComplete_keeps (I := fun t => t.ran = s.ran)
    (fun call t ht => (ran_notify call t).trans ht) reply rfl

variable (P : Primitives)

theorem closed_sendEnrollRequestToHelper {s : Enroller} (hs : s.Closed) :
    (s.sendEnrollRequestToHelper P).1.Closed := by
  unfold sendEnrollRequestToHelper
  split
  · exact hs
  · dsimp only
    split
    · exact closed_notify _ hs
    · exact hs

theorem closed_next {s : Enroller} (e : Event) (hs : s.Closed) : ((machine P).next s e).Closed := by
  change (s.handle P e).1.Closed
  cases e with
  | tabIdResolved =>
      simp only [handle, tabIdResolved]
      split
      · split <;> exact hs
      · exact hs
  | approvalResolved result =>
      simp only [handle, approvalResolved]
      split
      · split
        · exact hs
        · split
          · exact closed_sendEnrollRequestToHelper P hs
          · split
            · exact closed_notify _ hs
            · exact hs
      · exact hs
  | originChecked result =>
      simp only [handle, originChecked]
      split
      · split
        · exact hs
        · exact closed_notify _ hs
      · exact hs
  | appIdChecked result helper =>
      simp only [handle, appIdChecked]
      split
      · split
        · exact hs
        · -- the enroller is not done, so a handler that is run may be kept
          rename_i hdone
          split
          · split
            · exact closed_notify _ fun _ => rfl
            · exact helperReplies_keeps closed_notify _ fun h => absurd h hdone
          · exact closed_notify _ hs
      · exact hs
  | rejected =>
      simp only [handle, rejected]
      split
      · exact closed_notify _ fun _ => rfl
      · exact hs
  | timerTick =>
      simp only [handle, timerTick]
      split
      · exact closed_notify _ hs
      · exact hs
  | helperComplete reply =>
      simp only [handle]
      split
      · exact hs
      · exact helperComplete_keeps closed_notify reply hs
  | close => exact fun _ => rfl

theorem ran_next {s : Enroller} (e : Event) (hdone : s.done = true) :
    ((machine P).next s e).ran = s.ran := by
  change (s.handle P e).1.ran = s.ran
  cases e with
  | tabIdResolved =>
      simp only [handle, tabIdResolved]
      split
      · split <;> rfl
      · rfl
  | approvalResolved result =>
      simp only [handle, approvalResolved, hdone, if_true]
      split <;> rfl
  | originChecked result =>
      simp only [handle, originChecked]
      split
      · split
        · rfl
        · exact ran_notify _ _
      · rfl
  | appIdChecked result helper =>
      simp only [handle, appIdChecked, hdone, if_true]
      split <;> rfl
  | rejected =>
      simp only [handle, rejected]
      split
      · exact ran_notify _ _
      · rfl
  | timerTick =>
      simp only [handle, timerTick]
      split
      · exact ran_notify _ _
      · rfl
  | helperComplete reply =>
      simp only [handle]
      split
      · rfl
      · exact ran_helperComplete reply s
  | close => rfl

theorem quietOnceDone {s : Enroller} (hs : s.Closed) (es : List Event) :
    QuietOnceDone (machine P) done handler ran s es :=
  quietOnceDone_of_inv (G := fun _ _ => True) (fun _ e hs _ => closed_next P e hs)
    (fun _ e _ hdone => ran_next P e hdone) hs
    (Machine.allSteps_of_forall_mem (fun _ _ _ => trivial) s)

end Enroller

/-! ### Quiet requests -/

/-- **A finished request starts nothing**: neither a signer, in a run whose steps are on time, nor an
enroller runs a handler once it is done. -/
theorem quietOnceDone_of_onTime (P : Primitives) (timer : CountdownTimer) (sender : WebRequestSender)
    (logMsgUrl : Option JSString) :
    (∀ es, (Signer.machine P).AllSteps Signer.OnTime (.new timer sender logMsgUrl) es →
      QuietOnceDone (Signer.machine P) Signer.done Signer.handler Signer.ran
        (.new timer sender logMsgUrl) es) ∧
    ∀ enrollChallenges signChallenges appId es,
      QuietOnceDone (Enroller.machine P) Enroller.done Enroller.handler Enroller.ran
        ((Enroller.new timer sender logMsgUrl).doEnroll enrollChallenges signChallenges appId) es :=
  ⟨fun _ hes => Signer.quietOnceDone P hes,
    fun _ _ _ es => Enroller.quietOnceDone P (fun _ => rfl) es⟩

/-- The challenges are set, and the origin may claim the app id. -/
def Signer.originCheckedRun : List Signer.Event :=
  [.setChallenges [] none (some (js "https://example.com")), .originChecked true]

theorem quietOnceDone_signedRun : QuietOnceDone (Signer.machine examplePrimitives) Signer.done
    Signer.handler Signer.ran (.new (.new 30000) exampleSender none)
    (Signer.originCheckedRun ++ [.appIdChecked true (some ⟨[], true⟩), .close]) := by
  refine (quietOnceDone_of_onTime examplePrimitives (.new 30000) exampleSender none).1 _ ?_
  have hrunning : ∀ s e, s.done = false → Signer.OnTime s e :=
    fun s e hs hlate => absurd (hs.symm.trans hlate.1) (by simp)
  exact ⟨hrunning _ _ rfl, hrunning _ _ rfl, hrunning _ _ rfl, hrunning _ _ rfl, trivial⟩

/-- **The signer is closed while its app ids are checked, and signs all the same.** -/
theorem not_quietOnceDone_closedRun : ¬ QuietOnceDone (Signer.machine examplePrimitives)
    Signer.done Signer.handler Signer.ran (.new (.new 30000) exampleSender none)
    (Signer.originCheckedRun ++ [.close, .appIdChecked true (some ⟨[], true⟩)]) := by
  intro h
  have hhandler := h.noHandler _ (List.prefix_rfl) rfl
  exact Option.some_ne_none _ hhandler

end U2F
