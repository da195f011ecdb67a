/-
**A sign handler answers.**

When its signer has told a sign handler that all is complete, and nothing is outstanding, the handler
should have answered.  It waits for the touch of a gnubby that knows none of the key handles by sending
it the bogus enroll command; if this fails in another way, nothing is reported.

Main definitions:

* `UsbSignHandler.Quiescent` — nothing is outstanding;
* `UsbSignHandler.Continues` — the steps at which a handler that has not answered waits for something
  after all is complete.

Main results:

* `UsbSignHandler.answers_of_continues` — **in a run of such steps, a handler that its owner does not
  close has answered once when nothing is outstanding**.
-/

import U2F.Extension.SingleSignerResults
import U2F.Extension.UsbSignHandler

set_option relaxedAutoImplicit false
set_option autoImplicit false

namespace U2F.UsbSignHandler

open MultipleGnubbySigner (Call Reaction Owner)

/-! ### What is expected -/

/-- The signer has called the callback for all complete, and nothing is outstanding. -/
structure Quiescent (s : MultipleGnubbySigner × UsbSignHandler) : Prop where
  allComplete : s.1.allCompleteCalls ≠ []
  deferred : s.1.deferred = []
  enumerations : s.1.enumerations = 0
  intervalTimer : s.1.intervalTimer = false
  otherIntervalTimers : s.1.otherIntervalTimers = 0
  timedOut : s.1.timedOut = true
  signers : ∀ t ∈ s.1.gnubbies, t.signer.awaiting = .nothing
  versions : s.2.versions = []
  enrolls : s.2.enrolls = []

/-- The callback was called exactly once, if nothing is outstanding. -/
def AnsweredOnce (s : MultipleGnubbySigner × UsbSignHandler) : Prop :=
  Quiescent s → s.2.replies.length = 1

/-- Whether the event is a call of a method by the owner. -/
def Event.IsClose : Event → Prop
  | .close _ => True
  | _ => False

/-- Whether a command is outstanding. -/
def Waits (s : UsbSignHandler) : Prop := s.versions ≠ [] ∨ s.enrolls ≠ []

/-- An answer after which a handler that has not answered waits for something: the bogus enroll command
does not fail, or another command is outstanding. -/
def Answer.Continues (s : UsbSignHandler) : Answer → Prop
  | .version _ _ _ => True
  | .enroll i code =>
      s.notified = false → i < s.enrolls.length →
        code = OK_STATUS ∨ code = WAIT_TOUCH_STATUS ∨ s.versions ≠ [] ∨ s.enrolls.eraseIdx i ≠ []

/-- Such answers, one after the other. -/
def AnswersContinue (idle : List GnubbyDeviceId) : List Answer → UsbSignHandler → Prop
  | [], _ => True
  | a :: as, s => a.Continues s ∧ AnswersContinue idle as (s.answered idle a).owner

/-- The steps after which a handler that has not answered waits for something, if all is complete. -/
def Continues (s : MultipleGnubbySigner × UsbSignHandler) : Event → Prop
  | .signer e _ _ =>
      s.2.notified = false →
        -- a gnubby that is told to be unknown can be asked to enroll
        (∀ index, e ≠ .signer index (.opened WRONG_DATA_STATUS)) ∧
        -- all is complete, some gnubby was found and there is no error to report
        (e = .allComplete → s.1.deferred.head? = some false → s.2.anyGnubbiesFound = true →
          s.2.signerError = none → s.2.Waits)
  | .answers idle as => s.1.allCompleteCalls ≠ [] → AnswersContinue idle as s.2
  | .close _ => True

/-! ### What a handler does before it has answered -/

/-- A handler that has not answered, and can. -/
structure Able (s : UsbSignHandler) : Prop where
  notNotified : s.notified = false
  replies : s.replies = []
  notEnrolled : ∀ gnubby ∈ s.notEnrolledGnubbies, gnubby.isSome = true

/-- A handler that has answered once. -/
structure Answered (s : UsbSignHandler) : Prop where
  notified : s.notified = true
  replies : s.replies.length = 1

/-- What a handler has done in a reaction: it has answered once, or it can still do so and has called
no method of its signer and not thrown. -/
def Proceeds (reaction : Reaction UsbSignHandler) : Prop :=
  reaction.owner.Answered ∨
    reaction.owner.Able ∧ reaction.calls = [] ∧ reaction.throws = false

section Reactions

variable {s : UsbSignHandler} {idle : List GnubbyDeviceId}

theorem proceeds_done (h : s.Able) : Proceeds (.done s) := .inr ⟨h, rfl, rfl⟩

/-- One thing after another. -/
theorem proceeds_andThen {reaction : Reaction UsbSignHandler}
    {f : UsbSignHandler → Reaction UsbSignHandler} (h : Proceeds reaction)
    (hsilent : reaction.owner.Silent (f reaction.owner).owner)
    (hf : reaction.owner.Able → Proceeds (f reaction.owner)) : Proceeds (reaction.andThen f) := by
  rcases h with hanswered | ⟨hable, hcalls, hthrows⟩
  · refine .inl ?_
    refine Reaction.andThen_keeps (P := Answered) hanswered fun _ => ?_
    obtain ⟨hnotified, hreplies⟩ := hsilent hanswered.notified
    exact ⟨hnotified, by rw [hreplies]; exact hanswered.replies⟩
  · unfold Reaction.andThen
    rw [if_neg (by simp [hthrows])]
    rcases hf hable with hanswered | ⟨hable', hcalls', hthrows'⟩
    · exact .inl hanswered
    · exact .inr ⟨hable', by simp [hcalls, hcalls'], hthrows'⟩

/-- All gnubbies that are not enrolled are closed. -/
theorem closeGnubbies_of_some {gnubbies : List (Option OpenGnubby)}
    (h : ∀ gnubby ∈ gnubbies, gnubby.isSome = true) : closeGnubbies gnubbies = ([], false) := by
  induction gnubbies with
  | nil => rfl
  | cons gnubby gnubbies ih =>
      rw [List.forall_mem_cons] at h
      cases gnubby with
      | none => simp at h
      | some gnubby => exact ih h.2

/-- A handler that can answer does not throw when it closes. -/
theorem close_spec (idle : List GnubbyDeviceId)
    (h : ∀ gnubby ∈ s.notEnrolledGnubbies, gnubby.isSome = true) :
    (s.close idle).throws = false ∧ (s.close idle).owner.notified = s.notified ∧
      (s.close idle).owner.replies = s.replies := by
  unfold close
  rw [closeGnubbies_of_some h]
  dsimp only
  rw [if_neg (by simp)]
  split
  · exact ⟨rfl, rfl, rfl⟩
  · exact ⟨rfl, rfl, rfl⟩

/-- An error is reported. -/
theorem Able.notifyError (h : s.Able) (idle : List GnubbyDeviceId) (code : ℤ) :
    (s.notifyError_ idle code).owner.Answered := by
  obtain ⟨hthrows, hnotified, hreplies⟩ :=
    close_spec (s := { s with notified := true }) idle h.notEnrolled
  have hnone : ({ s with notified := true } : UsbSignHandler).replies = [] := h.replies
  unfold notifyError_
  rw [if_neg (by simp [h.notNotified]), Reaction.andThen, if_neg (by simp [hthrows])]
  refine ⟨hnotified, ?_⟩
  show (SignHandlerReply.mk code none :: (close idle { s with notified := true }).owner.replies).length
    = 1
  rw [hreplies, hnone]
  rfl

/-- A signature is reported. -/
theorem Able.notifySuccess (h : s.Able) {gnubby : Option OpenGnubby}
    {challenge : Option DecodedChallenge} (hgnubby : gnubby.isSome = true)
    (hchallenge : challenge.isSome = true) (info : List UInt8) :
    (s.notifySuccess_ idle gnubby challenge info).owner.Answered := by
  obtain ⟨gnubby, rfl⟩ := Option.isSome_iff_exists.1 hgnubby
  obtain ⟨challenge, rfl⟩ := Option.isSome_iff_exists.1 hchallenge
  obtain ⟨hthrows, hnotified, hreplies⟩ :=
    close_spec (s := { s with notified := true }) idle h.notEnrolled
  have hnone : ({ s with notified := true } : UsbSignHandler).replies = [] := h.replies
  unfold notifySuccess_
  rw [if_neg (by simp [h.notNotified])]
  dsimp only
  rw [Reaction.andThen, if_neg (by simp [hthrows])]
  refine ⟨hnotified, ?_⟩
  show (successReply challenge info :: (close idle { s with notified := true }).owner.replies).length
    = 1
  rw [hreplies, hnone]
  rfl

/-- A gnubby answers: the handler answers, or it can still do so; and it waits for something, if the
bogus enroll command does not fail or another command is outstanding. -/
theorem Able.answered (h : s.Able) (idle : List GnubbyDeviceId) (a : Answer) :
    Proceeds (s.answered idle a) ∧
      (s.Waits → a.Continues s → (s.answered idle a).owner.notified = false →
        (s.answered idle a).owner.Waits) := by
  cases a with
  | version i rc data =>
      simp only [UsbSignHandler.answered]
      split
      · exact ⟨proceeds_done h, fun hwaits _ _ => hwaits⟩
      · rename_i gnubby hgnubby
        have hable : Able { s with versions := s.versions.eraseIdx i } :=
          ⟨h.notNotified, h.replies, h.notEnrolled⟩
        unfold versionCallback_
        split
        · have hanswered := hable.notifyError idle rc
          refine ⟨.inl hanswered, fun _ _ hnotified => ?_⟩
          rw [hanswered.notified] at hnotified
          simp at hnotified
        · dsimp only
          split
          · exact ⟨.inr ⟨⟨h.notNotified, h.replies, h.notEnrolled⟩, rfl, rfl⟩,
              fun _ _ _ => .inr (by simp [enroll, Reaction.done])⟩
          · split
            · exact ⟨.inr ⟨⟨h.notNotified, h.replies, h.notEnrolled⟩, rfl, rfl⟩,
                fun _ _ _ => .inr (by simp [enroll, Reaction.done])⟩
            · have hanswered := hable.notifyError idle INVALID_DATA_STATUS
              have hthrown : ((notifyError_ idle INVALID_DATA_STATUS
                  { s with versions := s.versions.eraseIdx i }).andThen .throw).owner.Answered :=
                Reaction.andThen_keeps (P := Answered) hanswered id
              refine ⟨.inl hthrown, fun _ _ hnotified => ?_⟩
              rw [hthrown.notified] at hnotified
              simp at hnotified
  | enroll i code =>
      simp only [UsbSignHandler.answered]
      split
      · exact ⟨proceeds_done h, fun hwaits _ _ => hwaits⟩
      · rename_i command hcommand
        obtain ⟨hi, -⟩ := List.getElem?_eq_some_iff.1 hcommand
        split
        · rename_i hok
          have hable : Able ({ s with enrolls := s.enrolls.eraseIdx i }.did (.touched command.gnubby)) :=
            ⟨h.notNotified, h.replies, h.notEnrolled⟩
          have hanswered := hable.notifyError idle WRONG_DATA_STATUS
          have heq : enrollCallback_ idle command.gnubby code
              ({ s with enrolls := s.enrolls.eraseIdx i }.did (.touched command.gnubby)) =
                notifyError_ idle WRONG_DATA_STATUS
                  ({ s with enrolls := s.enrolls.eraseIdx i }.did (.touched command.gnubby)) := by
            rw [enrollCallback_, if_neg (by simp [hable.notNotified]),
              if_neg (by rw [hok]; decide), if_pos hok]
          rw [heq]
          refine ⟨.inl hanswered, fun _ _ hnotified => ?_⟩
          rw [hanswered.notified] at hnotified
          simp at hnotified
        · rename_i hok
          have hable : Able { s with enrolls := s.enrolls.eraseIdx i } :=
            ⟨h.notNotified, h.replies, h.notEnrolled⟩
          rw [enrollCallback_, if_neg (by simp [h.notNotified])]
          split
          · exact ⟨.inr ⟨⟨h.notNotified, h.replies, h.notEnrolled⟩, rfl, rfl⟩,
              fun _ _ _ => .inl (by simp [sendBogusEnroll_, Reaction.done])⟩
          · rename_i htouch
            refine ⟨proceeds_done hable, fun _ hcontinues _ => ?_⟩
            exact ((hcontinues h.notNotified hi).resolve_left hok).resolve_left htouch

/-- Answers, one after the other. -/
theorem Able.answers (h : s.Able) (idle : List GnubbyDeviceId) (as : List Answer) :
    Proceeds (answers idle as s) ∧
      (s.Waits → AnswersContinue idle as s → (answers idle as s).owner.notified = false →
        (answers idle as s).owner.Waits) := by
  induction as generalizing s with
  | nil => exact ⟨proceeds_done h, fun hwaits _ _ => hwaits⟩
  | cons a as ih =>
      obtain ⟨hfirst, hwaits⟩ := h.answered idle a
      refine ⟨proceeds_andThen hfirst (silent_answers as) fun hable => (ih hable).1, ?_⟩
      intro hw hcontinues hnotified
      rcases hfirst with hanswered | ⟨hable, -, hthrows⟩
      · -- an answer is final
        have hsilent : (UsbSignHandler.answers idle (a :: as) s).owner.notified = true :=
          Reaction.andThen_keeps (P := fun s' : UsbSignHandler => s'.notified = true) hanswered.notified
            fun _ => (silent_answers as hanswered.notified).1
        rw [hsilent] at hnotified
        simp at hnotified
      · have heq : (UsbSignHandler.answers idle (a :: as) s).owner =
            (UsbSignHandler.answers idle as (s.answered idle a).owner).owner := by
          rw [UsbSignHandler.answers, Reaction.andThen, if_neg (by simp [hthrows])]
        rw [heq] at hnotified ⊢
        exact (ih hable).2 (hwaits hw hcontinues.1 hable.notNotified) hcontinues.2 hnotified

/-- A signer has found a gnubby, with a complete result. -/
theorem Able.signerFoundGnubby (h : s.Able) (idle : List GnubbyDeviceId)
    (signResult : MultipleSignerResult) (moreExpected : Bool)
    (hok : signResult.code = OK_STATUS →
      signResult.gnubby.isSome = true ∧ signResult.challenge.isSome = true)
    (hwrong : signResult.code = WRONG_DATA_STATUS → signResult.gnubby.isSome = true) :
    Proceeds (s.signerFoundGnubby_ idle signResult moreExpected) := by
  have hable : Able { s with anyGnubbiesFound := true } := ⟨h.notNotified, h.replies, h.notEnrolled⟩
  unfold signerFoundGnubby_
  dsimp only
  split
  · rename_i hcode
    exact .inl (hable.notifySuccess (hok hcode).1 (hok hcode).2 _)
  · split
    · rename_i hcode
      obtain ⟨gnubby, hgnubby⟩ := Option.isSome_iff_exists.1 (hwrong hcode)
      rw [hgnubby]
      refine .inr ⟨⟨h.notNotified, h.replies, ?_⟩, rfl, rfl⟩
      intro gnubby' hmem
      rcases List.mem_append.1 hmem with hmem | hmem
      · exact h.notEnrolled gnubby' hmem
      · obtain rfl := List.mem_singleton.1 hmem
        rfl
    · split
      · exact .inl (hable.notifyError idle _)
      · exact proceeds_done ⟨h.notNotified, h.replies, h.notEnrolled⟩

/-- The signer has completed. -/
theorem Able.signerCompleted (h : s.Able) (idle : List GnubbyDeviceId) (anyPending : Bool) :
    Proceeds (s.signerCompleted_ idle anyPending) ∧
      ((s.signerCompleted_ idle anyPending).owner.notified = false →
        anyPending = false ∧ s.anyGnubbiesFound = true ∧ s.signerError = none ∧
          (s.signerCompleted_ idle anyPending).owner = s) := by
  have hanswered : ∀ code, Proceeds (s.notifyError_ idle code) ∧
      ((s.notifyError_ idle code).owner.notified = false →
        anyPending = false ∧ s.anyGnubbiesFound = true ∧ s.signerError = none ∧
          (s.notifyError_ idle code).owner = s) := by
    intro code
    have hanswered := h.notifyError idle code
    refine ⟨.inl hanswered, fun hnotified => ?_⟩
    rw [hanswered.notified] at hnotified
    simp at hnotified
  unfold signerCompleted_
  split
  · exact hanswered _
  · rename_i hfound
    split
    · exact hanswered _
    · rename_i herror
      rw [Bool.or_eq_true, not_or, Bool.not_eq_true', Bool.not_eq_false, Bool.not_eq_true] at hfound
      exact ⟨proceeds_done h, fun _ => ⟨hfound.2, hfound.1, herror, rfl⟩⟩

end Reactions

/-! ### Runs -/

/-- A signer that has completed at most once, and is fit. -/
def FitOnce (s : SingleGnubbySigner) : Prop := s.AtMostOnce ∧ s.Fit

theorem kept_fitOnce : MultipleGnubbySigner.Kept FitOnce where
  callback _ e h := ⟨h.1.callback e, h.2.callback h.1 e⟩
  returned _ h := ⟨SingleGnubbySigner.atMostOnce_handle .returned h.1, h.2.returned⟩
  called _ h := ⟨h.1.called, h.2.called⟩

/-- A handler that has not answered, its signer, and what it waits for when all is complete. -/
structure Pending (s : MultipleGnubbySigner × UsbSignHandler) : Prop where
  able : s.2.Able
  forSign : s.1.forEnroll = false
  signers : s.1.AllSigners FitOnce
  waits : s.1.allCompleteCalls ≠ [] → s.2.Waits

/-- The invariant. -/
structure Inv (s : MultipleGnubbySigner × UsbSignHandler) : Prop where
  signer : s.1.Inv
  answers : s.2.Answered ∨ Pending s

section Runs

variable {m : MultipleGnubbySigner} {s : UsbSignHandler} {request : HelperRequest}

/-- A signer that is told to be new is fit. -/
theorem fitOnce_newSigner (h : m.forEnroll = false) : FitOnce (m.newSigner.doSign m.challenges).2 := by
  refine ⟨MultipleGnubbySigner.newSigner_atMostOnce m, fun _ => ?_⟩
  refine ⟨h, ?_, ?_, ?_, ?_, ?_⟩
  all_goals simp [MultipleGnubbySigner.newSigner, SingleGnubbySigner.new, SingleGnubbySigner.doSign,
    SingleGnubbySigner.open_, SingleGnubbySigner.usesGnubby]

/-- What the signer tells the handler is complete. -/
theorem complete_told (hinv : m.Inv) (hsigners : m.AllSigners FitOnce)
    {e : MultipleGnubbySigner.Event}
    (he : ∀ index, e ≠ .signer index (.opened WRONG_DATA_STATUS)) {result : MultipleSignerResult}
    {moreExpected : Bool} (htold : m.told e = some (result, moreExpected)) :
    (result.code = OK_STATUS → result.gnubby.isSome = true ∧ result.challenge.isSome = true) ∧
      (result.code = WRONG_DATA_STATUS → result.gnubby.isSome = true) := by
  cases e with
  | signer index e =>
      simp only [MultipleGnubbySigner.told] at htold
      split at htold
      · simp at htold
      · rename_i t htracker
        obtain ⟨-, l, r, hgnubbies, -⟩ := MultipleGnubbySigner.tracker_eq_some.1 htracker
        have ht : t ∈ m.gnubbies := by simp [hgnubbies]
        split at htold
        · simp at htold
        · rename_i result' hreports
          split at htold
          · obtain ⟨rfl, -⟩ := Prod.mk.inj (Option.some.inj htold)
            have hcomplete := (hsigners t ht).2.reports (hsigners t ht).1 (hinv.settled t ht).notReporting
              (fun heq => he index (heq ▸ rfl)) hreports
            refine ⟨fun hok => ?_, fun hwrong => ?_⟩
            · simpa [MultipleGnubbySigner.signResult] using hcomplete.ok hok
            · simpa [MultipleGnubbySigner.signResult] using hcomplete.wrongData hwrong
          · simp at htold
  | _ => simp [MultipleGnubbySigner.told] at htold

/-- A handler that has answered, and is not closed, has the same replies after a step. -/
theorem Answered.handle (h : s.Answered) (hinv : m.Inv) (e : Event) (hclose : ¬ e.IsClose) :
    (UsbSignHandler.handle (m, s) e).2.Answered := by
  have hsilent : s.Silent (UsbSignHandler.handle (m, s) e).2 := by
    rw [handle_handler hinv e]
    cases e with
    | close idle => exact absurd trivial hclose
    | answers idle as => exact silent_answers as
    | signer e idle as =>
        dsimp only
        split
        · refine Reaction.andThen_keeps (P := s.Silent) (silent_signerFoundGnubby _ _) fun h => ?_
          exact h.trans (silent_answers as)
        · split
          · exact silent_signerCompleted _
          · exact Silent.refl s
  obtain ⟨hnotified, hreplies⟩ := hsilent h.notified
  exact ⟨hnotified, by rw [hreplies]; exact h.replies⟩

/-- The signer of a handler that waits, after a step in which it is told nothing. -/
theorem Pending.step (h : Pending (m, s)) (hinv : m.Inv) (O : Owner UsbSignHandler)
    (e : MultipleGnubbySigner.Event)
    (hfound : ∀ result moreExpected, m.told e = some (result, moreExpected) →
      (O.gnubbyCompleteCb result moreExpected s).calls = [])
    (hcomplete : ∀ anyPending deferred, e = .allComplete → m.deferred = anyPending :: deferred →
      (O.allCompleteCb anyPending s).calls = []) :
    (MultipleGnubbySigner.step O (m, s) e).1.forEnroll = false ∧
      (MultipleGnubbySigner.step O (m, s) e).1.AllSigners FitOnce :=
  ⟨(MultipleGnubbySigner.same_step O e s hinv).1.trans h.forSign,
    h.signers.step kept_fitOnce O e s hinv (fitOnce_newSigner h.forSign)
      (fun result moreExpected htold => by
        rw [hfound result moreExpected htold]
        exact MultipleGnubbySigner.harmless_nil _)
      fun anyPending deferred heq hdeferred => by
        rw [hcomplete anyPending deferred heq hdeferred]
        exact MultipleGnubbySigner.harmless_nil _⟩

/-- **A step after which a handler that has not answered waits for something.** -/
theorem Pending.signer (h : Pending (m, s)) (hinv : m.Inv) (e : MultipleGnubbySigner.Event)
    (idle : List GnubbyDeviceId) (as : List Answer) (hcontinues : Continues (m, s) (.signer e idle as)) :
    (handle (m, s) (.signer e idle as)).2.Answered ∨ Pending (handle (m, s) (.signer e idle as)) := by
  obtain ⟨hopened, hlast⟩ := hcontinues h.able.notNotified
  have howner := handle_handler (s := s) hinv (.signer e idle as)
  dsimp only at howner
  cases htold : m.told e with
  | some told =>
      -- a result is told
      obtain ⟨result, moreExpected⟩ := told
      rw [htold] at howner
      dsimp only at howner
      obtain ⟨hok, hwrong⟩ := complete_told hinv h.signers hopened htold
      have hfound := h.able.signerFoundGnubby idle result moreExpected hok hwrong
      rcases proceeds_andThen hfound (silent_answers as) fun hable => (hable.answers idle as).1 with
        hanswered | ⟨hable, hcalls, -⟩
      · exact .inl (by rw [howner]; exact hanswered)
      · have hstep := h.step hinv (owner idle as) e (by
          intro result' moreExpected' heq
          rw [htold] at heq
          obtain ⟨rfl, rfl⟩ := Prod.mk.inj (Option.some.inj heq)
          exact hcalls) (by
          rintro anyPending deferred rfl
          simp [MultipleGnubbySigner.told] at htold)
        refine .inr ⟨by rw [howner]; exact hable, hstep.1, hstep.2, ?_⟩
        -- the owner is told results only before all is complete
        intro hcomplete
        have hne : e ≠ .allComplete := by
          rintro rfl
          simp [MultipleGnubbySigner.told] at htold
        have hsame := (MultipleGnubbySigner.same_step (owner idle as) e s hinv).2 hne
        have hcalls' : m.allCompleteCalls ≠ [] := by
          rw [← hsame]
          exact hcomplete
        have hdone : m.complete = true := by
          have hscheduled := hinv.scheduled
          by_contra hnot
          rw [MultipleGnubbySigner.Scheduled, if_neg hnot] at hscheduled
          exact hcalls' (List.length_eq_zero_iff.1 (by omega))
        rw [MultipleGnubbySigner.told_of_complete hinv hdone] at htold
        simp at htold
  | none =>
      rw [htold] at howner
      by_cases hcase : ∃ anyPending deferred, e = .allComplete ∧ m.deferred = anyPending :: deferred
      · obtain ⟨anyPending, deferred, rfl, hdeferred⟩ := hcase
        rw [hdeferred] at howner
        dsimp only at howner
        obtain ⟨hproceeds, hsame⟩ := h.able.signerCompleted idle anyPending
        rcases hproceeds with hanswered | ⟨hable, hcalls, -⟩
        · exact .inl (by rw [howner]; exact hanswered)
        · obtain ⟨rfl, hfound, herror, heq⟩ := hsame hable.notNotified
          have hstep := h.step hinv (owner idle as) .allComplete (by
            intro result' moreExpected' heq
            rw [htold] at heq
            simp at heq) (by
            intro anyPending' deferred' _ hdeferred'
            rw [hdeferred] at hdeferred'
            obtain ⟨rfl, -⟩ := List.cons.inj hdeferred'
            exact hcalls)
          refine .inr ⟨by rw [howner]; exact hable, hstep.1, hstep.2, fun _ => ?_⟩
          rw [howner, heq]
          exact hlast rfl (by simp [hdeferred]) hfound herror
      · have hnothing : (handle (m, s) (.signer e idle as)).2 = s := by
          rw [howner]
          dsimp only
          split
          · rename_i anyPending deferred hdeferred
            exact absurd ⟨anyPending, deferred, rfl, hdeferred⟩ hcase
          · rfl
        have hstep := h.step hinv (owner idle as) e (by
          intro result' moreExpected' heq
          rw [htold] at heq
          simp at heq) fun anyPending deferred heq hdeferred =>
            absurd ⟨anyPending, deferred, heq, hdeferred⟩ hcase
        refine .inr ⟨by rw [hnothing]; exact h.able, hstep.1, hstep.2, ?_⟩
        intro hcomplete
        rw [hnothing]
        refine h.waits ?_
        by_cases hne : e = .allComplete
        · subst hne
          cases hdeferred : m.deferred with
          | nil => simpa [handle, MultipleGnubbySigner.step, hdeferred] using hcomplete
          | cons anyPending deferred => exact absurd ⟨anyPending, deferred, rfl, hdeferred⟩ hcase
        · rw [← (MultipleGnubbySigner.same_step (owner idle as) e s hinv).2 hne]
          exact hcomplete

/-- **The invariant is kept** by such a step. -/
theorem inv_step (h : Inv (m, s)) (e : Event) (hclose : ¬ e.IsClose) (hcontinues : Continues (m, s) e) :
    Inv (handle (m, s) e) := by
  refine ⟨inv_handle h.signer e, ?_⟩
  rcases h.answers with hanswered | hpending
  · exact .inl (hanswered.handle h.signer e hclose)
  cases e with
  | close idle => exact absurd trivial hclose
  | signer e idle as => exact hpending.signer h.signer e idle as hcontinues
  | answers idle as =>
      obtain ⟨hproceeds, hwaits⟩ := hpending.able.answers idle as
      rcases hproceeds with hanswered | ⟨hable, hcalls, -⟩
      · exact .inl hanswered
      · have hsigner : (handle (m, s) (.answers idle as)).1 = m := by
          simp only [handle, react, hcalls]
          rfl
        refine .inr ⟨hable, by rw [hsigner]; exact hpending.forSign,
          by rw [hsigner]; exact hpending.signers, ?_⟩
        intro hcomplete
        rw [hsigner] at hcomplete
        exact hwaits (hpending.waits hcomplete) (hcontinues hcomplete) hable.notNotified

/-- **A handler that its owner does not close has answered once when nothing is outstanding**, in a run
whose steps continue. -/
theorem answers_of_continues {start : MultipleGnubbySigner × UsbSignHandler}
    (haccepts : Accepts request start) (es : List Event) (hclose : ∀ e ∈ es, ¬ e.IsClose)
    (h : machine.AllSteps Continues start es) : machine.Always AnsweredOnce start es := by
  have hsteps : machine.AllSteps (fun s e => ¬ e.IsClose ∧ Continues s e) start es := by
    rw [Machine.allSteps_iff] at h ⊢
    rintro pre e post rfl
    exact ⟨hclose e (by simp), h pre e post rfl⟩
  refine Machine.always_of_invariant (M := machine) (I := Inv) ?_ ?_ hsteps ?_
  · rintro ⟨m, s⟩ e hinv ⟨hnot, hcontinues⟩
    exact inv_step hinv e hnot hcontinues
  · rintro ⟨m, s⟩ hinv hquiescent
    rcases hinv.answers with hanswered | hpending
    · exact hanswered.replies
    · rcases hpending.waits hquiescent.allComplete with hversions | henrolls
      · exact absurd hquiescent.versions hversions
      · exact absurd hquiescent.enrolls henrolls
  · obtain ⟨m, s⟩ := start
    obtain ⟨hinv, rfl, hcalls, hgnubbies, hforSign⟩ := haccepts.inv
    refine ⟨hinv, .inr ⟨⟨rfl, rfl, by simp [new]⟩, hforSign, ?_, fun hne => absurd hcalls hne⟩⟩
    intro t ht
    rw [hgnubbies] at ht
    exact absurd ht List.not_mem_nil

end Runs

/-! ### Runs with one gnubby -/

/-- A gnubby does not know the key handle.  The time is over while it waits for the touch, and then it is
touched. -/
def touchedAtLast : List Event :=
  signedWith WRONG_DATA_STATUS ++
    [.answers [] [.version 0 OK_STATUS (some [85, 50, 70, 95, 86, 50])],
      .signer .intervalTimer [] [], .signer .timerExpires [] [],
      .signer .reenumerateTimerExpires [] [], .signer (.enumerated 0 none) [] [],
      .signer .allComplete [] [], .answers [] [.enroll 0 WAIT_TOUCH_STATUS],
      .answers [] [.version 0 OK_STATUS (some [85, 50, 70, 95, 86, 50])],
      .answers [] [.enroll 0 OK_STATUS]]

theorem answers_touchedAtLast :
    Accepts exampleRequest (run exampleRequest start).2 ∧
      (∀ e ∈ touchedAtLast, ¬ e.IsClose) ∧
      machine.AllSteps Continues (run exampleRequest start).2 touchedAtLast ∧
      machine.Always AnsweredOnce (run exampleRequest start).2 touchedAtLast ∧
      Quiescent (machine.exec (run exampleRequest start).2 touchedAtLast) := by
  have haccepts : Accepts exampleRequest (run exampleRequest start).2 := rfl
  have hclose : ∀ e ∈ touchedAtLast, ¬ e.IsClose := by
    simp [touchedAtLast, signedWith, Event.IsClose]
  have hcontinues : machine.AllSteps Continues (run exampleRequest start).2 touchedAtLast := by
    have hnone : ∀ (s : MultipleGnubbySigner × UsbSignHandler) (e : MultipleGnubbySigner.Event),
        (∀ index, e ≠ .signer index (.opened WRONG_DATA_STATUS)) → e ≠ .allComplete →
          Continues s (.signer e [] []) :=
      fun s e hopened hne _ => ⟨hopened, fun heq => absurd heq hne⟩
    refine ⟨hnone _ _ (by simp) (by simp), hnone _ _ (by simp; decide) (by simp),
      hnone _ _ (by simp) (by simp), hnone _ _ (by simp) (by simp), fun hne => absurd rfl hne,
      hnone _ _ (by simp) (by simp), hnone _ _ (by simp) (by simp), hnone _ _ (by simp) (by simp),
      hnone _ _ (by simp) (by simp), ?_, fun _ => ⟨fun _ _ => .inr (.inl rfl), trivial⟩,
      fun _ => ⟨trivial, trivial⟩, fun _ => ⟨fun _ _ => .inl rfl, trivial⟩, trivial⟩
    -- all is complete while the gnubby waits for the touch
    exact fun _ => ⟨by simp, fun _ _ _ _ => .inr (by decide)⟩
  exact ⟨haccepts, hclose, hcontinues, answers_of_continues haccepts _ hclose hcontinues,
    by decide, rfl, rfl, rfl, rfl, rfl, by decide, rfl, rfl⟩

/-- A gnubby that does not know the key handle answers the bogus enroll command with a code.  Then the
time is over. -/
def bogusEnroll (code : ℤ) : List Event :=
  signedWith WRONG_DATA_STATUS ++
    [.answers [] [.version 0 OK_STATUS (some [85, 50, 70, 95, 86, 50])], .answers [] [.enroll 0 code],
      .signer .intervalTimer [] [], .signer .timerExpires [] [],
      .signer .reenumerateTimerExpires [] [], .signer (.enumerated 0 none) [] [],
      .signer .allComplete [] []]

/-- A gnubby is removed while it waits for the touch: nothing is outstanding in the end, and there was no
answer. -/
theorem not_answers_gone :
    ¬ machine.Always AnsweredOnce (run exampleRequest start).2 (bogusEnroll GONE_STATUS) := by
  intro h
  have hone := h _ (List.prefix_refl _) ⟨by decide, rfl, rfl, rfl, rfl, rfl, by decide, rfl, rfl⟩
  exact absurd hone (by decide)

end U2F.UsbSignHandler
