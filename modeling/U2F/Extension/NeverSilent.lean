/-
**Enrollers that do not finish silently.**

The owner of an enroller learns of every end of its request but its own `close()`: the enroller is
done when it has called back, and an outcome that ends no request leaves it to a timer.  But an
enroller whose promise for the tab id is rejected closes itself before it notifies its owner, and
nothing handles the rejection of the other promises.

Main definitions:

* `Enroller.NeverSilent` — the owner is called once if the enroller is done, and a negative outcome
  ends in a call or in a timer that will call;
* `Enroller.NotRejected` — the promise that is waited for is not rejected.

Main results:

* `Enroller.neverSilent_of_notRejected` — **an enroller never finishes silently**, in every run in
  which its owner does not close it and no promise is rejected.
-/

import U2F.Extension.Finished

set_option relaxedAutoImplicit false
set_option autoImplicit false

namespace U2F

namespace Enroller

/-- The timer is set, and notifies the caller when it expires. -/
def Armed (s : Enroller) : Prop := s.notifiesTimeout = true ∧ s.timer.ticking = true

/-- The outcome of the step that is waited for is negative, or its promise is rejected. -/
def Negative (s : Enroller) (e : Event) : Prop :=
  match s.awaiting, e with
  | .approval, .approvalResolved false => True
  | .originCheck .., .originChecked false => True
  | .appIdCheck .., .appIdChecked false _ => True
  | .nothing, _ => False
  | _, .rejected => True
  | _, _ => False

/-- **An enroller never finishes silently.** -/
structure NeverSilent (P : Primitives) (s : Enroller) (es : List Event) : Prop where
  /-- The owner is called once if the enroller is done, and is not called otherwise. -/
  calledOnce : ∀ pre, pre <+: es →
    ((machine P).replies s pre).flatten.length = if ((machine P).exec s pre).done then 1 else 0
  /-- A negative outcome ends the request, or leaves it to the timer. -/
  negative : (machine P).AllSteps
    (fun s e => Negative s e → ((machine P).next s e).done = true ∨ ((machine P).next s e).Armed) s es
  /-- A timer to which a request is left stays set until the request is done. -/
  armed : (machine P).Always (fun s => s.notifiesTimeout = true → s.done = true ∨ s.Armed) s es
  /-- When it expires, it calls the owner. -/
  expires : (machine P).AllSteps
    (fun s e => e = .timerTick → s.timer.timerTick.2 = true → s.Armed → s.done = false →
      (machine P).reply s e = [.error (.ofCode .TIMEOUT)]) s es

/-- The promise that is waited for is not rejected. -/
def NotRejected (s : Enroller) (e : Event) : Prop := e = .rejected → s.awaiting = .nothing

/-- The timer of `t` is that of `s`, with its callback. -/
def KeepsTimer (s t : Enroller) : Prop :=
  t.notifiesTimeout = s.notifiesTimeout ∧ t.timer = s.timer

theorem KeepsTimer.refl (s : Enroller) : KeepsTimer s s := ⟨rfl, rfl⟩

theorem keepsTimer_notify {s : Enroller} (call : EnrollerCall) {t : Enroller} (h : KeepsTimer s t) :
    KeepsTimer s (t.notify call).1 := by
  unfold notify
  split
  · exact h
  · exact ⟨h.1, h.2⟩

theorem keepsTimer_sendEnrollRequestToHelper (P : Primitives) {s t : Enroller}
    (h : KeepsTimer s t) : KeepsTimer s (t.sendEnrollRequestToHelper P).1 := by
  unfold sendEnrollRequestToHelper
  split
  · exact h
  · dsimp only
    split
    · exact keepsTimer_notify _ ⟨h.1, h.2⟩
    · exact ⟨h.1, h.2⟩

theorem keepsTimer_appIdChecked (result : Bool) (helper : Option (HandlerRun EnrollHelperReply))
    (s : Enroller) : KeepsTimer s (s.appIdChecked result helper).1 := by
  unfold appIdChecked
  split
  · dsimp only
    split
    · exact ⟨rfl, rfl⟩
    · split
      · split
        · exact keepsTimer_notify _ ⟨rfl, rfl⟩
        · exact helperReplies_keeps keepsTimer_notify _ ⟨rfl, rfl⟩
      · exact keepsTimer_notify _ ⟨rfl, rfl⟩
  · exact .refl s

/-- A timer that is left a request stays set until the request is done. -/
def TimerSet (s : Enroller) : Prop := s.notifiesTimeout = true → s.done = true ∨ s.Armed

theorem TimerSet.keepsTimer {s t : Enroller} (hs : s.TimerSet) (hst : KeepsTimer s t)
    (hdone : s.done = true → t.done = true) : t.TimerSet := by
  intro ht
  rcases hs (hst.1.symm.trans ht) with h | ⟨hnotifies, hticking⟩
  · exact .inl (hdone h)
  · exact .inr ⟨hst.1.trans hnotifies, (congrArg CountdownTimer.ticking hst.2).trans hticking⟩

variable (P : Primitives)

theorem done_next {s : Enroller} (e : Event) (hs : s.done = true) :
    ((machine P).next s e).done = true := by
  rcases handle_calls P s e with ⟨-, h⟩ | ⟨-, h⟩ | ⟨h, -⟩
  · exact h hs
  · exact h.trans hs
  · exact absurd (h.symm.trans hs) (by simp)

/-- A timer that is cloned before it has expired ticks. -/
theorem ticking_clone {t : CountdownTimer} (ht : ¬ t.expired = true) : t.clone.ticking = true := by
  have hremaining : ¬ t.remainingMillis ≤ 0 := by simpa [CountdownTimer.expired] using ht
  simp [CountdownTimer.clone, CountdownTimer.new, hremaining]

/-- A tick that does not call the callback leaves a timer ticking. -/
theorem ticking_timerTick {t : CountdownTimer} (ht : t.timerTick.2 = false) :
    t.timerTick.1.ticking = t.ticking := by
  unfold CountdownTimer.timerTick at ht ⊢
  split
  case isTrue hticking =>
    simp only [hticking, if_true] at ht
    dsimp only at ht ⊢
    split at ht
    case isTrue => cases ht
    case isFalse h => simp [h, hticking]
  case isFalse => rfl

/-- The approval of the origin leaves the timer alone, or sets it again if there is none. -/
theorem timerSet_approvalResolved {s : Enroller} (result : Bool) (hs : s.TimerSet) :
    (s.approvalResolved P result).1.TimerSet := by
  have hdone : ∀ t : Enroller, t.done = true → t.TimerSet := fun t ht _ => .inl ht
  unfold approvalResolved
  split
  · dsimp only
    split
    case isTrue h => exact hdone _ h
    case isFalse h =>
      split
      · refine TimerSet.keepsTimer (s := { s with awaiting := .nothing }) hs
          (keepsTimer_sendEnrollRequestToHelper P (.refl _)) fun h' => absurd h' h
      · split
        · refine hdone _ ?_
          simp [notifyTimeout, notifyError, notify, h, close]
        · rename_i hexpired
          exact fun _ => .inr ⟨rfl, ticking_clone hexpired⟩
  · exact hs

theorem timerSet_next {s : Enroller} (e : Event) (hs : s.TimerSet) :
    ((machine P).next s e).TimerSet := by
  have hkept : KeepsTimer s (s.handle P e).1 → ((machine P).next s e).TimerSet :=
    fun h => hs.keepsTimer h (done_next P e)
  cases e with
  | tabIdResolved =>
      -- all events but the tick and the approval of the origin keep the timer
      refine hkept ?_
      simp only [handle, tabIdResolved]
      split
      · split <;> exact ⟨rfl, rfl⟩
      · exact .refl s
  | approvalResolved result => exact timerSet_approvalResolved P result hs
  | originChecked result =>
      refine hkept ?_
      simp only [handle, originChecked]
      split
      · split
        · exact ⟨rfl, rfl⟩
        · exact keepsTimer_notify _ ⟨rfl, rfl⟩
      · exact .refl s
  | appIdChecked result helper => exact hkept (keepsTimer_appIdChecked result helper s)
  | rejected =>
      refine hkept ?_
      simp only [handle, rejected]
      split
      · exact keepsTimer_notify _ ⟨rfl, rfl⟩
      · exact ⟨rfl, rfl⟩
  | timerTick =>
      change (s.timerTick).1.TimerSet
      intro hnotifies
      simp only [timerTick] at hnotifies ⊢
      split
      case isTrue h =>
        -- the timer has expired, and its callback ends the request
        refine .inl ?_
        simp only [notifyTimeout, notifyError, notify]
        split
        · assumption
        · rfl
      case isFalse h =>
        -- the timer goes on ticking
        have hnotifies' : s.notifiesTimeout = true := by simpa [h] using hnotifies
        have hquiet : s.timer.timerTick.2 = false := by simpa [hnotifies'] using h
        exact (hs hnotifies').imp id fun harmed =>
          ⟨hnotifies', (ticking_timerTick hquiet).trans harmed.2⟩
  | helperComplete reply =>
      refine hkept ?_
      simp only [handle]
      split
      · exact .refl s
      · exact helperComplete_keeps keepsTimer_notify reply (.refl s)
  | close => exact hkept ⟨rfl, rfl⟩

/-- Every negative outcome ends the request, or leaves it to the timer. -/
theorem next_of_negative {s : Enroller} {e : Event} (he : s.NotRejected e) (h : s.Negative e) :
    ((machine P).next s e).done = true ∨ ((machine P).next s e).Armed := by
  have hnotify : ∀ (call : EnrollerCall) (t : Enroller), (t.notify call).1.done = true := by
    intro call t
    unfold notify
    split
    · assumption
    · rfl
  unfold Negative at h
  split at h
  case h_1 hawaiting =>
    change (s.approvalResolved P false).1.done = true ∨ (s.approvalResolved P false).1.Armed
    simp only [approvalResolved, hawaiting]
    split
    · exact .inl ‹_›
    · rw [if_neg (by simp)]
      split
      · exact .inl (hnotify _ _)
      · exact .inr ⟨rfl, ticking_clone ‹_›⟩
  case h_2 hawaiting =>
    change (s.originChecked false).1.done = true ∨ _
    simp only [originChecked, hawaiting]
    exact .inl (hnotify _ _)
  case h_3 hawaiting =>
    change (s.appIdChecked false _).1.done = true ∨ _
    simp only [appIdChecked, hawaiting]
    split
    · exact .inl ‹_›
    · exact .inl (hnotify _ _)
  case h_4 => exact h.elim
  case h_5 hawaiting => exact absurd (he rfl) (by simpa using hawaiting)
  case h_6 => exact h.elim

/-- The calls of a run in which the owner does not close the enroller and no promise is rejected. -/
theorem calls_exec {s : Enroller} {es : List Event} (hclose : ∀ e ∈ es, e ≠ .close)
    (hes : (machine P).AllSteps NotRejected s es) :
    Calls s.done ((machine P).exec s es).done ((machine P).replies s es).flatten := by
  induction es generalizing s with
  | nil => exact .none
  | cons e es ih =>
      have hstep : Calls s.done ((machine P).next s e).done ((machine P).reply s e) :=
        calls_handle P (hclose e (by simp)) fun he hawaiting => by
          simpa [hawaiting] using hes.1 he
      exact hstep.append (ih (fun e he => hclose e (by simp [he])) hes.2)

/-- **An enroller never finishes silently**, in a run in which its owner does not close it and no
promise that it waits for is rejected. -/
theorem neverSilent_of_notRejected (timer : CountdownTimer) (sender : WebRequestSender)
    (logMsgUrl : Option JSString) (enrollChallenges : List EnrollChallenge)
    (signChallenges : Option (List SignChallenge)) (appId : Option JSString) (es : List Event)
    (hclose : ∀ e ∈ es, e ≠ .close)
    (hes : (machine P).AllSteps NotRejected
      ((new timer sender logMsgUrl).doEnroll enrollChallenges signChallenges appId) es) :
    NeverSilent P ((new timer sender logMsgUrl).doEnroll enrollChallenges signChallenges appId) es
    where
  calledOnce := by
    rintro pre hpre
    have hcalls := calls_exec P (fun e he => hclose e (hpre.subset he))
      (Machine.allSteps_initial hes hpre)
    rcases hcalls with ⟨hcalls, hdone⟩ | ⟨-, hdone, call, hcall⟩
    · rw [hcalls, hdone]
      rfl
    · rw [hcall, hdone]
      rfl
  negative := by
    rw [Machine.allSteps_iff] at hes ⊢
    intro pre e post h
    exact next_of_negative P (hes pre e post h)
  armed := Machine.always_of_invariant (fun _ e hs _ => timerSet_next P e hs) (fun _ h => h) hes
    (fun h => absurd h (by simp [new, doEnroll]))
  expires := by
    refine Machine.allSteps_of_forall_mem (fun e _ s he hfires harmed hdone => ?_) _
    subst he
    simp [Machine.reply, machine, handle, timerTick, hfires, harmed.1, notifyTimeout, notifyError,
      notify, hdone]

/-- An enroller for one challenge of a page. -/
def exampleEnroller : Enroller :=
  (new (.new 30000) exampleSender none).doEnroll
    [⟨some (js "U2F_V2"), some (js "challenge"), none, .none⟩] none
    (some (js "https://example.com"))

/-- An origin that is not approved is left to the timer. -/
theorem neverSilent_notApproved : NeverSilent examplePrimitives exampleEnroller
    [.tabIdResolved, .approvalResolved false, .timerTick] :=
  neverSilent_of_notRejected examplePrimitives (.new 30000) exampleSender none _ none _ _
    (by simp) ⟨nofun, nofun, nofun, trivial⟩

/-- **An enroller whose page has no tab finishes silently.** -/
theorem not_neverSilent_noTab : ¬ NeverSilent examplePrimitives exampleEnroller [.rejected] := by
  intro h
  exact Nat.zero_ne_one (h.calledOnce _ List.prefix_rfl)

end Enroller

end U2F
