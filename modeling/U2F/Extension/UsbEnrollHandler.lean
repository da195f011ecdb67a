/-
**The enroll handler.**

`usbenrollhandler.js`: a `UsbEnrollHandler` answers an enroll request.  It owns a
`MultipleGnubbySigner`, which looks for gnubbies that know none of the key handles.  Each of these
gnubbies is checked for prerequisites, then asked for its version, and then asked to enroll, until it is
touched or the time is over.

As for the sign handler, what the handler waits for is part of its state: checks, commands of gnubbies,
and delays.  Their ends come at any time and in any order, also while the handler does something else.
A gnubby has at most one of them outstanding, so that one that was asked to close is closed when the
handler sends it the next command, and nothing is sent then.

Main definitions:

* `UsbEnrollHandler` — the handler;
* `UsbEnrollHandler.tryEnroll_`, `UsbEnrollHandler.enrollCallback_` — its attempts to enroll;
* `UsbEnrollHandler.machine` — the handler and its signer as a reactive machine.

Main results:

* `UsbEnrollHandler.handle_handler` — **what a step is to the handler**;
* `UsbEnrollHandler.passed_exec_iff` — the gnubbies that a handler has been passed in a run are those
  its signer has told it of.
-/

import U2F.Extension.UsbSignHandler

set_option relaxedAutoImplicit false
set_option autoImplicit false

namespace U2F

open MultipleGnubbySigner (Call Reaction Owner)

/-! ### The handler -/

/-- A reply of type `enroll_helper_reply`. -/
structure EnrollHandlerReply where
  code : ℤ
  version : Option JSString
  enrollData : Option JSString
  deriving DecidableEq

/-- A gnubby that is asked to enroll with the challenge of a version. -/
structure EnrollAttempt where
  gnubby : OpenGnubby
  version : JSString
  deriving DecidableEq

/-- What the record of a handler holds. -/
inductive UsbEnrollHandler.Deed
  /-- The signer has passed a gnubby to `signerFoundGnubby_`. -/
  | passed (gnubby : OpenGnubby)
  | closeWhenIdle (gnubby : OpenGnubby)
  /-- An enroll command was sent to a gnubby that is not closed. -/
  | enroll (command : EnrollCommand)
  /-- `close()` was called. -/
  | closed
  /-- The callback was called. -/
  | replied (reply : EnrollHandlerReply)
  deriving DecidableEq

structure UsbEnrollHandler where
  enrollChallenges : List EnrollHelperChallenge
  waitingForTouchGnubbies : List (Option OpenGnubby)
  closed : Bool
  notified : Bool
  timerExpired : Bool
  anyGnubbiesFound : Bool
  anyTimeout : Bool
  /-- Whether the signer is held. -/
  signer : Bool
  /-- The prerequisite checks that are under way, the last one first. -/
  checks : List (Option OpenGnubby)
  /-- The gnubbies whose version command is outstanding, the last one first. -/
  versions : List OpenGnubby
  /-- The enroll commands that are outstanding, the last one first. -/
  enrolls : List EnrollAttempt
  /-- The delays before a gnubby is asked again, the last one first. -/
  delays : List EnrollAttempt
  /-- The record, the last deed first. -/
  deeds : List UsbEnrollHandler.Deed

namespace UsbEnrollHandler

/-- The constructor, and the challenges that `run` keeps. -/
def new (request : HelperRequest) : UsbEnrollHandler :=
  { enrollChallenges := request.enrollChallenges, waitingForTouchGnubbies := [], closed := false
    notified := false, timerExpired := false, anyGnubbiesFound := false, anyTimeout := false
    signer := false, checks := [], versions := [], enrolls := [], delays := [], deeds := [] }

def did (deed : Deed) (s : UsbEnrollHandler) : UsbEnrollHandler := { s with deeds := deed :: s.deeds }

/-! ### Replies -/

/-- Closes gnubbies, which throws at one that is undefined. -/
def closeGnubbies : List (Option OpenGnubby) → UsbEnrollHandler → Reaction UsbEnrollHandler
  | [], s => .done s
  | none :: _, s => .throw s
  | some gnubby :: gnubbies, s => closeGnubbies gnubbies (s.did (.closeWhenIdle gnubby))

/-- Closes this helper.  The gnubbies with the given ids are idle. -/
def close (idle : List GnubbyDeviceId) (s : UsbEnrollHandler) : Reaction UsbEnrollHandler :=
  (closeGnubbies s.waitingForTouchGnubbies ({ s with closed := true }.did .closed)).andThen fun s =>
    let s := { s with waitingForTouchGnubbies := [] }
    if s.signer then ⟨[.close idle], { s with signer := false }, false⟩ else .done s

/-- `this.notified_ = true`, `this.close()` and `this.cb_(reply)`, unless there was an answer or the
handler is closed. -/
def notify (idle : List GnubbyDeviceId) (reply : EnrollHandlerReply) (s : UsbEnrollHandler) :
    Reaction UsbEnrollHandler :=
  if s.notified || s.closed then .done s
  else ({ s with notified := true }.close idle).andThen fun s => .done (s.did (.replied reply))

/-- Notifies the callback with an error code. -/
def notifyError_ (idle : List GnubbyDeviceId) (code : ℤ) : UsbEnrollHandler → Reaction UsbEnrollHandler :=
  notify idle ⟨code, none, none⟩

/-- Notifies the callback with the data of an enrollment. -/
def notifySuccess_ (idle : List GnubbyDeviceId) (version info : JSString) :
    UsbEnrollHandler → Reaction UsbEnrollHandler :=
  notify idle ⟨OK_STATUS, some version, some info⟩

/-! ### Gnubbies that wait for a touch -/

/-- Drops the gnubby from the list of eligible gnubbies. -/
def removeWaitingGnubby_ (gnubby : OpenGnubby) (s : UsbEnrollHandler) : UsbEnrollHandler :=
  { s.did (.closeWhenIdle gnubby) with
    waitingForTouchGnubbies := s.waitingForTouchGnubbies.erase (some gnubby) }

/-- The last gnubby was dropped: time is over, or the signer looks for others. -/
def lastDropped (idle : List GnubbyDeviceId) (s : UsbEnrollHandler) : Reaction UsbEnrollHandler :=
  let s := { s with anyGnubbiesFound := false }
  if s.timerExpired then s.notifyError_ idle TIMEOUT_STATUS
  else if s.signer then ⟨[.reScanDevices], s, false⟩
  else .done s

/-- Drops the gnubby from the list of eligible gnubbies, as it has the wrong version. -/
def removeWrongVersionGnubby_ (idle : List GnubbyDeviceId) (gnubby : OpenGnubby)
    (s : UsbEnrollHandler) : Reaction UsbEnrollHandler :=
  let s := s.removeWaitingGnubby_ gnubby
  if s.waitingForTouchGnubbies = [] then s.lastDropped idle else .done s

/-- Finds the (first) challenge of the given version in this helper's challenges. -/
def getChallengeOfVersion_ (version : JSString) (s : UsbEnrollHandler) :
    Option EnrollHelperChallenge :=
  s.enrollChallenges.find? fun challenge => challenge.version = version

/-- `gnubby.enroll(challengeValue, B64_decode(appIdHash), …)`: nothing is sent to a gnubby that was asked
to close. -/
def enroll (command : EnrollCommand) (version : JSString) (s : UsbEnrollHandler) :
    Reaction UsbEnrollHandler :=
  let s := { s with enrolls := ⟨command.gnubby, version⟩ :: s.enrolls }
  .done (if .closeWhenIdle command.gnubby ∈ s.deeds then s else s.did (.enroll command))

/-- Attempts enrolling a particular gnubby with a challenge of the appropriate version, which throws if
this has no challenge value.  (No individual attestation is requested.) -/
def tryEnroll_ (idle : List GnubbyDeviceId) (gnubby : OpenGnubby) (version : JSString)
    (s : UsbEnrollHandler) : Reaction UsbEnrollHandler :=
  match s.getChallengeOfVersion_ version with
  | none => s.removeWrongVersionGnubby_ idle gnubby
  | some challenge =>
      match challenge.challengeHash with
      | none => .throw s
      | some challengeHash =>
          s.enroll ⟨gnubby, B64_decode challengeHash, B64_decode challenge.appIdHash⟩ version

/-- Called with the result of a version command. -/
def gnubbyVersioned_ (idle : List GnubbyDeviceId) (gnubby : OpenGnubby) (rc : ℤ)
    (data : Option (List UInt8)) (s : UsbEnrollHandler) : Reaction UsbEnrollHandler :=
  if rc ≠ OK_STATUS then s.removeWrongVersionGnubby_ idle gnubby
  else s.tryEnroll_ idle gnubby (UTIL_BytesToString (data.getD []))

/-- Attempts to match the gnubby's U2F version with an appropriate enroll challenge. -/
def matchEnrollVersionToGnubby_ (gnubby : Option OpenGnubby) (s : UsbEnrollHandler) :
    UsbEnrollHandler :=
  match gnubby with
  | none => s
  | some gnubby => { s with versions := gnubby :: s.versions }

/-- Called with the result of a gnubby prerequisite check. -/
def gnubbyPrerequisitesChecked_ (rc : ℤ) (gnubby : Option OpenGnubby) (s : UsbEnrollHandler) :
    UsbEnrollHandler :=
  if rc ≠ OK_STATUS ∨ s.timerExpired then s
  else
    { s with
      anyGnubbiesFound := true
      waitingForTouchGnubbies := s.waitingForTouchGnubbies ++ [gnubby] }.matchEnrollVersionToGnubby_
        gnubby

/-- Called with the result of an enroll request to a gnubby. -/
def enrollCallback_ (idle : List GnubbyDeviceId) (attempt : EnrollAttempt) (code : ℤ)
    (info : Option (List UInt8)) (s : UsbEnrollHandler) : Reaction UsbEnrollHandler :=
  if s.notified then .done s
  else if code = GONE_STATUS then
    let s := s.removeWaitingGnubby_ attempt.gnubby
    if s.waitingForTouchGnubbies = [] then s.lastDropped idle else .done s
  else if code = WAIT_TOUCH_STATUS ∨ code = BUSY_STATUS ∨ code = TIMEOUT_STATUS then
    if s.timerExpired then
      let s := { s with anyTimeout := true }.removeWaitingGnubby_ attempt.gnubby
      if s.waitingForTouchGnubbies = [] then s.notifyError_ idle TIMEOUT_STATUS else .done s
    else .done { s with delays := attempt :: s.delays }
  else if code = OK_STATUS then
    s.notifySuccess_ idle attempt.version (B64_encode ((info.getD []).map UInt8.toNat))
  else s.notifyError_ idle code

/-- The end of what is under way at a position. -/
inductive Answer
  /-- A prerequisite check is done, and hands over the gnubby that was checked. -/
  | checked (i : ℕ) (rc : ℤ)
  | versioned (i : ℕ) (rc : ℤ) (data : Option (List UInt8))
  | enrolled (i : ℕ) (code : ℤ) (info : Option (List UInt8))
  | delayOver (i : ℕ)
  deriving DecidableEq

/-- The handler is called back.  What is not under way cannot end. -/
def answered (idle : List GnubbyDeviceId) (s : UsbEnrollHandler) : Answer → Reaction UsbEnrollHandler
  | .checked i rc =>
      match s.checks[i]? with
      | none => .done s
      | some gnubby =>
          .done ({ s with checks := s.checks.eraseIdx i }.gnubbyPrerequisitesChecked_ rc gnubby)
  | .versioned i rc data =>
      match s.versions[i]? with
      | none => .done s
      | some gnubby => { s with versions := s.versions.eraseIdx i }.gnubbyVersioned_ idle gnubby rc data
  | .enrolled i code info =>
      match s.enrolls[i]? with
      | none => .done s
      | some attempt => { s with enrolls := s.enrolls.eraseIdx i }.enrollCallback_ idle attempt code info
  | .delayOver i =>
      match s.delays[i]? with
      | none => .done s
      | some attempt =>
          { s with delays := s.delays.eraseIdx i }.tryEnroll_ idle attempt.gnubby attempt.version

/-- One after the other, each but the first while the one before it is dealt with. -/
def answers (idle : List GnubbyDeviceId) : List Answer → UsbEnrollHandler → Reaction UsbEnrollHandler
  | [], s => .done s
  | a :: as, s => (s.answered idle a).andThen (answers idle as)

/-! ### The signer -/

/-- Called when a `MultipleGnubbySigner` completes its sign request. -/
def signerCompleted_ (idle : List GnubbyDeviceId) (anyPending : Bool) (s : UsbEnrollHandler) :
    Reaction UsbEnrollHandler :=
  if !s.anyGnubbiesFound || s.anyTimeout || anyPending || s.timerExpired then
    s.notifyError_ idle TIMEOUT_STATUS
  -- `signerFoundGnubby_` will have been called with each succeeding gnubby
  else .done s

/-- Called when a `MultipleGnubbySigner` finds a gnubby that can enroll.  The app id hash of the
prerequisite check is that of the first challenge, without which this throws. -/
def signerFoundGnubby_ (idle : List GnubbyDeviceId) (signResult : MultipleSignerResult)
    (s : UsbEnrollHandler) : Reaction UsbEnrollHandler :=
  let s :=
    match signResult.gnubby with
    | none => s
    | some gnubby => s.did (.passed gnubby)
  if signResult.code = OK_STATUS then s.notifyError_ idle WRONG_DATA_STATUS
  else if signErrorIndicatesInvalidKeyHandle signResult.code then
    match s.enrollChallenges with
    | [] => .throw s
    | _ :: _ => .done { s with checks := signResult.gnubby :: s.checks }
  else s.notifyError_ idle signResult.code

/-- The handler as the owner of its signer.  It may be called back while it is told a result. -/
def owner (idle : List GnubbyDeviceId) (as : List Answer) : Owner UsbEnrollHandler where
  gnubbyCompleteCb signResult _moreExpected s :=
    (s.signerFoundGnubby_ idle signResult).andThen (answers idle as)
  allCompleteCb anyPending s := s.signerCompleted_ idle anyPending

/-- Runs the handler of a request, and returns whether it could be run.  No answer is an exception. -/
def run (request : HelperRequest) : Option Bool × (MultipleGnubbySigner × UsbEnrollHandler) :=
  let (accepted, signer) := (MultipleGnubbySigner.new true).doSign (some request.signData)
  (accepted, signer, { new request with signer := true })

/-! ### The handler and its signer as a machine -/

/-- What can happen to a handler.  The gnubbies with the ids `idle` are idle if they are closed. -/
inductive Event
  /-- Something happens to the signer; the handler is called back if it is told a result. -/
  | signer (e : MultipleGnubbySigner.Event) (idle : List GnubbyDeviceId) (as : List Answer)
  /-- The handler is called back. -/
  | answers (idle : List GnubbyDeviceId) (as : List Answer)
  | timerExpires
  /-- The owner closes the handler. -/
  | close (idle : List GnubbyDeviceId)

/-- The handler reacts. -/
def react (m : MultipleGnubbySigner) (reaction : Reaction UsbEnrollHandler) :
    MultipleGnubbySigner × UsbEnrollHandler :=
  (m.calls reaction.calls, reaction.owner)

def handle (s : MultipleGnubbySigner × UsbEnrollHandler) :
    Event → MultipleGnubbySigner × UsbEnrollHandler
  | .signer e idle as => MultipleGnubbySigner.step (owner idle as) s e
  | .answers idle as => react s.1 (s.2.answers idle as)
  | .timerExpires => (s.1, { s.2 with timerExpired := true })
  | .close idle => react s.1 (s.2.close idle)

/-- **A handler as a reactive machine.** -/
def machine : Machine (MultipleGnubbySigner × UsbEnrollHandler) Event Unit :=
  ⟨fun s e => ((), handle s e)⟩

/-! ### What a step is to the handler -/

section Steps

variable {m : MultipleGnubbySigner} {s : UsbEnrollHandler}

/-- The invariant of the signer. -/
theorem inv_handle (h : m.Inv) (e : Event) : (handle (m, s) e).1.Inv := by
  cases e with
  | signer e idle as => exact MultipleGnubbySigner.inv_step (owner idle as) e s h
  | answers idle as => exact MultipleGnubbySigner.inv_calls _ h
  | timerExpires => exact h
  | close idle => exact MultipleGnubbySigner.inv_calls _ h

/-- **What a step is to the handler.** -/
theorem handle_handler (h : m.Inv) (e : Event) :
    (handle (m, s) e).2 =
      match e with
      | .signer e idle as =>
          match m.told e with
          | some (result, _) => ((s.signerFoundGnubby_ idle result).andThen (answers idle as)).owner
          | none =>
              match e, m.deferred with
              | .allComplete, anyPending :: _ => (s.signerCompleted_ idle anyPending).owner
              | _, _ => s
      | .answers idle as => (s.answers idle as).owner
      | .timerExpires => { s with timerExpired := true }
      | .close idle => (s.close idle).owner := by
  cases e with
  | signer e idle as => exact MultipleGnubbySigner.step_owner (owner idle as) e s h
  | answers idle as => rfl
  | timerExpires => rfl
  | close idle => rfl

end Steps

/-! ### The gnubbies that a handler is passed -/

/-- The gnubby that was passed. -/
def Deed.passedGnubby : Deed → Option OpenGnubby
  | .passed gnubby => some gnubby
  | _ => none

/-- The gnubbies that were passed, the last one first. -/
def passedGnubbies (s : UsbEnrollHandler) : List OpenGnubby := s.deeds.filterMap Deed.passedGnubby

/-- The gnubby that the signer tells its owner of in a step. -/
def Event.toldGnubby (m : MultipleGnubbySigner) : Event → Option OpenGnubby
  | .signer e _ _ => (m.told e).bind fun told => told.1.gnubby
  | _ => none

/-- The gnubbies that the signer tells its owner of in a run, in order. -/
def toldGnubbies : MultipleGnubbySigner × UsbEnrollHandler → List Event → List OpenGnubby
  | _, [] => []
  | s, e :: es => (e.toldGnubby s.1).toList ++ toldGnubbies (handle s e) es

section Passed

variable {m : MultipleGnubbySigner} {s : UsbEnrollHandler}

theorem mem_passedGnubbies {gnubby : OpenGnubby} :
    gnubby ∈ s.passedGnubbies ↔ .passed gnubby ∈ s.deeds := by
  rw [passedGnubbies, List.mem_filterMap]
  constructor
  · rintro ⟨deed, hdeed, hgnubby⟩
    cases deed with
    | passed gnubby' => exact Option.some.inj hgnubby ▸ hdeed
    | closeWhenIdle _ | enroll _ | closed | replied _ => simp [Deed.passedGnubby] at hgnubby
  · intro hdeed
    exact ⟨_, hdeed, rfl⟩

theorem passedGnubbies_closeGnubbies (gnubbies : List (Option OpenGnubby)) (s : UsbEnrollHandler) :
    (closeGnubbies gnubbies s).owner.passedGnubbies = s.passedGnubbies := by
  induction gnubbies generalizing s with
  | nil => rfl
  | cons gnubby gnubbies ih =>
      cases gnubby with
      | none => rfl
      | some gnubby => exact ih (s.did (.closeWhenIdle gnubby))

theorem passedGnubbies_close (idle : List GnubbyDeviceId) (s : UsbEnrollHandler) :
    (s.close idle).owner.passedGnubbies = s.passedGnubbies := by
  refine Reaction.andThen_keeps (P := fun t : UsbEnrollHandler => t.passedGnubbies = s.passedGnubbies)
    (passedGnubbies_closeGnubbies _ _) fun h => ?_
  dsimp only
  split
  · exact h
  · exact h

theorem passedGnubbies_notify (idle : List GnubbyDeviceId) (reply : EnrollHandlerReply)
    (s : UsbEnrollHandler) : (s.notify idle reply).owner.passedGnubbies = s.passedGnubbies := by
  unfold notify
  split
  · rfl
  · exact Reaction.andThen_keeps (P := fun t : UsbEnrollHandler => t.passedGnubbies = s.passedGnubbies)
      (passedGnubbies_close idle _) id

theorem passedGnubbies_lastDropped (idle : List GnubbyDeviceId) (s : UsbEnrollHandler) :
    (s.lastDropped idle).owner.passedGnubbies = s.passedGnubbies := by
  unfold lastDropped
  dsimp only
  split
  · exact passedGnubbies_notify idle _ _
  · split
    · rfl
    · rfl

theorem passedGnubbies_removeWrongVersionGnubby (idle : List GnubbyDeviceId) (gnubby : OpenGnubby)
    (s : UsbEnrollHandler) :
    (s.removeWrongVersionGnubby_ idle gnubby).owner.passedGnubbies = s.passedGnubbies := by
  unfold removeWrongVersionGnubby_
  dsimp only
  split
  · exact passedGnubbies_lastDropped idle _
  · rfl

theorem passedGnubbies_tryEnroll (idle : List GnubbyDeviceId) (gnubby : OpenGnubby)
    (version : JSString) (s : UsbEnrollHandler) :
    (s.tryEnroll_ idle gnubby version).owner.passedGnubbies = s.passedGnubbies := by
  unfold tryEnroll_
  split
  · exact passedGnubbies_removeWrongVersionGnubby idle gnubby s
  · split
    · rfl
    · unfold enroll
      dsimp only [Reaction.done]
      split
      · rfl
      · rfl

theorem passedGnubbies_enrollCallback (idle : List GnubbyDeviceId) (attempt : EnrollAttempt) (code : ℤ)
    (info : Option (List UInt8)) (s : UsbEnrollHandler) :
    (s.enrollCallback_ idle attempt code info).owner.passedGnubbies = s.passedGnubbies := by
  unfold enrollCallback_
  split
  · rfl
  · split
    · dsimp only
      split
      · exact passedGnubbies_lastDropped idle _
      · rfl
    · split
      · split
        · dsimp only
          split
          · exact passedGnubbies_notify idle _ _
          · rfl
        · rfl
      · split
        · exact passedGnubbies_notify idle _ s
        · exact passedGnubbies_notify idle _ s

theorem passedGnubbies_answered (idle : List GnubbyDeviceId) (s : UsbEnrollHandler) (a : Answer) :
    (s.answered idle a).owner.passedGnubbies = s.passedGnubbies := by
  cases a with
  | checked i rc =>
      simp only [answered]
      split
      · rfl
      · rename_i gnubby _
        unfold gnubbyPrerequisitesChecked_
        split
        · rfl
        · cases gnubby with
          | none => rfl
          | some gnubby => rfl
  | versioned i rc data =>
      simp only [answered, gnubbyVersioned_]
      split
      · rfl
      · split
        · exact passedGnubbies_removeWrongVersionGnubby idle _ _
        · exact passedGnubbies_tryEnroll idle _ _ _
  | enrolled i code info =>
      simp only [answered]
      split
      · rfl
      · exact passedGnubbies_enrollCallback idle _ code info _
  | delayOver i =>
      simp only [answered]
      split
      · rfl
      · exact passedGnubbies_tryEnroll idle _ _ _

theorem passedGnubbies_answers (idle : List GnubbyDeviceId) (as : List Answer) (s : UsbEnrollHandler) :
    (answers idle as s).owner.passedGnubbies = s.passedGnubbies := by
  induction as generalizing s with
  | nil => rfl
  | cons a as ih =>
      exact Reaction.andThen_keeps (P := fun t : UsbEnrollHandler => t.passedGnubbies = s.passedGnubbies)
        (passedGnubbies_answered idle s a) fun h => (ih _).trans h

theorem passedGnubbies_signerCompleted (idle : List GnubbyDeviceId) (anyPending : Bool)
    (s : UsbEnrollHandler) :
    (s.signerCompleted_ idle anyPending).owner.passedGnubbies = s.passedGnubbies := by
  unfold signerCompleted_
  split
  · exact passedGnubbies_notify idle _ s
  · rfl

theorem passedGnubbies_signerFoundGnubby (idle : List GnubbyDeviceId)
    (signResult : MultipleSignerResult) (s : UsbEnrollHandler) :
    (s.signerFoundGnubby_ idle signResult).owner.passedGnubbies =
      signResult.gnubby.toList ++ s.passedGnubbies := by
  have hdid : (match signResult.gnubby with
      | none => s
      | some gnubby => s.did (.passed gnubby)).passedGnubbies =
        signResult.gnubby.toList ++ s.passedGnubbies := by
    cases signResult.gnubby with
    | none => rfl
    | some gnubby => rfl
  unfold signerFoundGnubby_
  dsimp only
  split
  · exact (passedGnubbies_notify idle _ _).trans hdid
  · split
    · split
      · exact hdid
      · exact hdid
    · exact (passedGnubbies_notify idle _ _).trans hdid

/-- **In a step the handler is passed the gnubby that its signer tells it of**, and no other. -/
theorem passedGnubbies_handle (h : m.Inv) (e : Event) :
    (handle (m, s) e).2.passedGnubbies = (e.toldGnubby m).toList ++ s.passedGnubbies := by
  rw [handle_handler h e]
  cases e with
  | signer e idle as =>
      simp only [Event.toldGnubby]
      cases htold : m.told e with
      | some told =>
          refine Reaction.andThen_keeps
            (P := fun t : UsbEnrollHandler =>
              t.passedGnubbies = told.1.gnubby.toList ++ s.passedGnubbies)
            (passedGnubbies_signerFoundGnubby idle told.1 s) fun hfound => ?_
          exact (passedGnubbies_answers idle as _).trans hfound
      | none =>
          dsimp only
          split
          · exact passedGnubbies_signerCompleted idle _ s
          · rfl
  | answers idle as => exact passedGnubbies_answers idle as s
  | timerExpires => rfl
  | close idle => exact passedGnubbies_close idle s

/-- **The gnubbies that a handler has been passed are those its signer has told it of.** -/
theorem passedGnubbies_exec {s : MultipleGnubbySigner × UsbEnrollHandler} (h : s.1.Inv)
    (es : List Event) :
    (machine.exec s es).2.passedGnubbies = (toldGnubbies s es).reverse ++ s.2.passedGnubbies := by
  induction es generalizing s with
  | nil => rfl
  | cons e es ih =>
      have hstep : (machine.next s e).2.passedGnubbies =
          (e.toldGnubby s.1).toList ++ s.2.passedGnubbies := passedGnubbies_handle h e
      have hinv : (machine.next s e).1.Inv := inv_handle h e
      have htold : (e.toldGnubby s.1).toList.reverse = (e.toldGnubby s.1).toList := by
        cases e.toldGnubby s.1 with
        | none => rfl
        | some gnubby => rfl
      calc (machine.exec (machine.next s e) es).2.passedGnubbies
        _ = (toldGnubbies (handle s e) es).reverse ++ (machine.next s e).2.passedGnubbies := ih hinv
        _ = (toldGnubbies (handle s e) es).reverse ++ ((e.toldGnubby s.1).toList ++
              s.2.passedGnubbies) := by rw [hstep]
        _ = (toldGnubbies s (e :: es)).reverse ++ s.2.passedGnubbies := by
              rw [toldGnubbies, List.reverse_append, htold, List.append_assoc]

theorem passed_exec_iff (request : HelperRequest) (es : List Event) (gnubby : OpenGnubby) :
    .passed gnubby ∈ (machine.exec (run request).2 es).2.deeds ↔
      gnubby ∈ toldGnubbies (run request).2 es := by
  have hinv : (run request).2.1.Inv :=
    MultipleGnubbySigner.inv_doSign _ (MultipleGnubbySigner.inv_new true)
  rw [← mem_passedGnubbies, passedGnubbies_exec hinv, List.mem_append, List.mem_reverse]
  exact or_iff_left List.not_mem_nil

end Passed

end UsbEnrollHandler

end U2F
