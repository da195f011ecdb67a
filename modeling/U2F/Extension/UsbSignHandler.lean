/-
**The sign handler.**

`usbsignhandler.js`: a `UsbSignHandler` answers a sign request.  It owns a `MultipleGnubbySigner`, and
reports the first signature or error.  A gnubby that knows none of the key handles is sent a bogus
enroll command, so that it is touched before this is revealed.

The commands that the handler has sent to gnubbies are part of its state; their answers come at any
time, in any order, and also while the command is being sent, as for a version that is known already.
An exception ends what the handler was doing.

Main definitions:

* `UsbSignHandler` — the handler;
* `UsbSignHandler.signerFoundGnubby_`, `UsbSignHandler.enrollCallback_` — its callbacks;
* `UsbSignHandler.machine` — the handler and its signer as a reactive machine.

Main results:

* `UsbSignHandler.handle_handler` — **what a step is to the handler**: a result, the news that all is
  complete, or answers of gnubbies.
-/

import U2F.Extension.MultipleSigner
import U2F.Lib.Machine

set_option relaxedAutoImplicit false
set_option autoImplicit false

namespace U2F

open MultipleGnubbySigner (Call Reaction Owner)

/-! ### The handler -/

structure SignResponseData where
  appIdHash : JSString
  challengeHash : JSString
  keyHandle : JSString
  signatureData : JSString
  deriving DecidableEq

/-- A reply of type `sign_helper_reply`. -/
structure SignHandlerReply where
  code : ℤ
  responseData : Option SignResponseData
  deriving DecidableEq

/-- An enroll command that was sent to a gnubby. -/
structure EnrollCommand where
  gnubby : OpenGnubby
  enrollChallenge : List UInt8
  appIdHash : List UInt8
  deriving DecidableEq

/-- What the record of a handler holds. -/
inductive UsbSignHandler.Deed
  /-- A gnubby has answered the bogus enroll command with OK. -/
  | touched (gnubby : OpenGnubby)
  /-- The callback was called. -/
  | replied (reply : SignHandlerReply)
  deriving DecidableEq

structure UsbSignHandler where
  notified : Bool
  anyGnubbiesFound : Bool
  notEnrolledGnubbies : List (Option OpenGnubby)
  signerError : Option ℤ
  /-- Whether there is a callback already. -/
  cb : Bool
  /-- Whether the signer is held. -/
  signer : Bool
  /-- The gnubbies whose version command is outstanding, the last one first. -/
  versions : List OpenGnubby
  /-- The enroll commands that are outstanding, the last one first. -/
  enrolls : List EnrollCommand
  /-- The record, the last deed first. -/
  deeds : List UsbSignHandler.Deed

namespace UsbSignHandler

/-- The constructor. -/
def new : UsbSignHandler :=
  { notified := false, anyGnubbiesFound := false, notEnrolledGnubbies := [], signerError := none
    cb := false, signer := false, versions := [], enrolls := [], deeds := [] }

def did (deed : Deed) (s : UsbSignHandler) : UsbSignHandler := { s with deeds := deed :: s.deeds }

def Deed.reply? : Deed → Option SignHandlerReply
  | .touched _ => none
  | .replied reply => some reply

/-- The replies with which the callback was called, the last one first. -/
def replies (s : UsbSignHandler) : List SignHandlerReply := s.deeds.filterMap Deed.reply?

/-! ### Replies -/

/-- Closes the gnubbies that are not enrolled, which throws at one that is undefined. -/
def closeGnubbies : List (Option OpenGnubby) → List (Option OpenGnubby) × Bool
  | [] => ([], false)
  | none :: gnubbies => (gnubbies, true)
  | some _ :: gnubbies => closeGnubbies gnubbies

/-- Closes the `MultipleGnubbySigner`, if any.  The gnubbies with the given ids are idle. -/
def close (idle : List GnubbyDeviceId) (s : UsbSignHandler) : Reaction UsbSignHandler :=
  let (notEnrolledGnubbies, throws) := closeGnubbies s.notEnrolledGnubbies
  let s := { s with notEnrolledGnubbies := notEnrolledGnubbies }
  if throws then .throw s
  else if s.signer then ⟨[.close idle], { s with signer := false }, false⟩
  else .done s

/-- `this.cb_(reply)` -/
def reply (reply : SignHandlerReply) (s : UsbSignHandler) : Reaction UsbSignHandler :=
  .done (s.did (.replied reply))

/-- Reports error to the caller. -/
def notifyError_ (idle : List GnubbyDeviceId) (code : ℤ) (s : UsbSignHandler) :
    Reaction UsbSignHandler :=
  if s.notified then .done s
  else ({ s with notified := true }.close idle).andThen (·.reply ⟨code, none⟩)

/-- The reply for a challenge that was signed. -/
def successReply (challenge : DecodedChallenge) (info : List UInt8) : SignHandlerReply :=
  { code := OK_STATUS
    responseData := some
      { appIdHash := B64_encode (challenge.appIdHash.map UInt8.toNat)
        challengeHash := B64_encode (challenge.challengeHash.map UInt8.toNat)
        keyHandle := B64_encode (challenge.keyHandle.map UInt8.toNat)
        signatureData := B64_encode (info.map UInt8.toNat) } }

/-- Reports the result of a successful sign operation.  It throws without a gnubby, and without a
challenge. -/
def notifySuccess_ (idle : List GnubbyDeviceId) (gnubby : Option OpenGnubby)
    (challenge : Option DecodedChallenge) (info : List UInt8) (s : UsbSignHandler) :
    Reaction UsbSignHandler :=
  if s.notified then .done s
  else
    let s := { s with notified := true }
    match gnubby with
    | none => .throw s
    | some _ =>
        (s.close idle).andThen fun s =>
          match challenge with
          | none => .throw s
          | some challenge => s.reply (successReply challenge info)

/-! ### The bogus enroll -/

def BOGUS_APP_ID_HASH : List UInt8 := List.replicate 32 0x41

def BOGUS_CHALLENGE_V1 : List UInt8 :=
  [0x04, 0xA2, 0x24, 0x7D, 0x5C, 0x0B, 0x76, 0xF1, 0xDC, 0xCD, 0x44, 0xAF, 0x91, 0x9A, 0xA2, 0x3F,
    0x3F, 0xBA, 0x65, 0x9F, 0x06, 0x78, 0x82, 0xFB, 0x93, 0x4B, 0xBF, 0x86, 0x55, 0x95, 0x66, 0x46,
    0x76, 0x90, 0xDC, 0xE1, 0xE8, 0x6C, 0x86, 0x86, 0xC3, 0x03, 0x4E, 0x65, 0x52, 0x4C, 0x32, 0x6F,
    0xB6, 0x44, 0x0D, 0x50, 0xF9, 0x16, 0xC0, 0xA3, 0xDA, 0x31, 0x4B, 0xD3, 0x3F, 0x94, 0xA5, 0xF1,
    0xD3]

def BOGUS_CHALLENGE_V2 : List UInt8 := List.replicate 32 0x42

/-- Sends a bogus enroll command to the not-enrolled gnubby, after it has told its version. -/
def sendBogusEnroll_ (gnubby : Option OpenGnubby) (s : UsbSignHandler) : Reaction UsbSignHandler :=
  match gnubby with
  | none => .throw s
  | some gnubby => .done { s with versions := gnubby :: s.versions }

/-- `gnubby.enroll(enrollChallenge, UsbSignHandler.BOGUS_APP_ID_HASH, …)` -/
def enroll (gnubby : OpenGnubby) (enrollChallenge : List UInt8) (s : UsbSignHandler) :
    Reaction UsbSignHandler :=
  .done { s with enrolls := ⟨gnubby, enrollChallenge, BOGUS_APP_ID_HASH⟩ :: s.enrolls }

/-- Called with the version of a gnubby.  An unknown version is reported, and then `enroll` throws
without a challenge. -/
def versionCallback_ (idle : List GnubbyDeviceId) (gnubby : OpenGnubby) (rc : ℤ)
    (data : Option (List UInt8)) (s : UsbSignHandler) : Reaction UsbSignHandler :=
  if rc ≠ OK_STATUS then s.notifyError_ idle rc
  else
    let version := UTIL_BytesToString (data.getD [])
    if version = js "U2F_V1" then s.enroll gnubby BOGUS_CHALLENGE_V1
    else if version = js "U2F_V2" then s.enroll gnubby BOGUS_CHALLENGE_V2
    else (s.notifyError_ idle INVALID_DATA_STATUS).andThen .throw

/-- Called with the result of the (bogus, tap capturing) enroll command. -/
def enrollCallback_ (idle : List GnubbyDeviceId) (gnubby : OpenGnubby) (code : ℤ)
    (s : UsbSignHandler) : Reaction UsbSignHandler :=
  if s.notified then .done s
  else if code = WAIT_TOUCH_STATUS then s.sendBogusEnroll_ (some gnubby)
  else if code = OK_STATUS then s.notifyError_ idle WRONG_DATA_STATUS
  else .done s

/-- An answer of a gnubby to the command at a position. -/
inductive Answer
  | version (i : ℕ) (rc : ℤ) (data : Option (List UInt8))
  | enroll (i : ℕ) (code : ℤ)
  deriving DecidableEq

/-- An answer is given.  One to no command changes nothing. -/
def answered (idle : List GnubbyDeviceId) (s : UsbSignHandler) : Answer → Reaction UsbSignHandler
  | .version i rc data =>
      match s.versions[i]? with
      | none => .done s
      | some gnubby => { s with versions := s.versions.eraseIdx i }.versionCallback_ idle gnubby rc data
  | .enroll i code =>
      match s.enrolls[i]? with
      | none => .done s
      | some command =>
          let s := { s with enrolls := s.enrolls.eraseIdx i }
          let s := if code = OK_STATUS then s.did (.touched command.gnubby) else s
          s.enrollCallback_ idle command.gnubby code

/-- Answers that are given one after the other, each but the first while its command is sent. -/
def answers (idle : List GnubbyDeviceId) : List Answer → UsbSignHandler → Reaction UsbSignHandler
  | [], s => .done s
  | a :: as, s => (s.answered idle a).andThen (answers idle as)

/-! ### The signer -/

/-- Called when a `MultipleGnubbySigner` completes. -/
def signerCompleted_ (idle : List GnubbyDeviceId) (anyPending : Bool) (s : UsbSignHandler) :
    Reaction UsbSignHandler :=
  if !s.anyGnubbiesFound || anyPending then s.notifyError_ idle TIMEOUT_STATUS
  else
    match s.signerError with
    | some signerError => s.notifyError_ idle signerError
    -- `signerFoundGnubby_` will have returned results from other gnubbies
    | none => .done s

/-- Called when a `MultipleGnubbySigner` finds a gnubby that has completed signing its challenges. -/
def signerFoundGnubby_ (idle : List GnubbyDeviceId) (signResult : MultipleSignerResult)
    (moreExpected : Bool) (s : UsbSignHandler) : Reaction UsbSignHandler :=
  let s := { s with anyGnubbiesFound := true }
  if signResult.code = OK_STATUS then
    s.notifySuccess_ idle signResult.gnubby signResult.challenge (signResult.info.getD [])
  else if signResult.code = WRONG_DATA_STATUS then
    { s with notEnrolledGnubbies := s.notEnrolledGnubbies ++ [signResult.gnubby] }.sendBogusEnroll_
      signResult.gnubby
  else if !moreExpected then s.notifyError_ idle signResult.code
  else .done { s with signerError := some signResult.code }

/-- The handler as the owner of its signer.  Answers may be given while it is told a result. -/
def owner (idle : List GnubbyDeviceId) (as : List Answer) : Owner UsbSignHandler where
  gnubbyCompleteCb signResult moreExpected s :=
    (s.signerFoundGnubby_ idle signResult moreExpected).andThen (answers idle as)
  allCompleteCb anyPending s := s.signerCompleted_ idle anyPending

/-- Attempts to run this handler's request, and returns whether this set of challenges was accepted.
No answer is an exception. -/
def run (request : HelperRequest) (s : MultipleGnubbySigner × UsbSignHandler) :
    Option Bool × (MultipleGnubbySigner × UsbSignHandler) :=
  if s.2.cb then (some false, s)
  else
    let s := (s.1, { s.2 with cb := true })
    if request.signData = [] then (some false, s)
    else
      let (accepted, signer) := (MultipleGnubbySigner.new false).doSign (some request.signData)
      (accepted, signer, { s.2 with signer := true })

/-! ### The handler and its signer as a machine -/

/-- What can happen to a handler.  The gnubbies with the ids `idle` are idle if they are closed. -/
inductive Event
  /-- Something happens to the signer; answers are given if the handler sends a command. -/
  | signer (e : MultipleGnubbySigner.Event) (idle : List GnubbyDeviceId) (as : List Answer)
  /-- A gnubby answers, and others while the handler sends another command. -/
  | answers (idle : List GnubbyDeviceId) (as : List Answer)
  /-- The owner closes the handler. -/
  | close (idle : List GnubbyDeviceId)

/-- The handler reacts. -/
def react (m : MultipleGnubbySigner) (reaction : Reaction UsbSignHandler) :
    MultipleGnubbySigner × UsbSignHandler :=
  (m.calls reaction.calls, reaction.owner)

def handle (s : MultipleGnubbySigner × UsbSignHandler) :
    Event → MultipleGnubbySigner × UsbSignHandler
  | .signer e idle as => MultipleGnubbySigner.step (owner idle as) s e
  | .answers idle as => react s.1 (s.2.answers idle as)
  | .close idle => react s.1 (s.2.close idle)

/-- **A handler as a reactive machine.** -/
def machine : Machine (MultipleGnubbySigner × UsbSignHandler) Event Unit :=
  ⟨fun s e => ((), handle s e)⟩

/-- A handler that has not been run. -/
def start : MultipleGnubbySigner × UsbSignHandler := (MultipleGnubbySigner.new false, new)

/-! ### Examples -/

/-- A request with one key handle, for gnubbies of any version. -/
def exampleRequest : HelperRequest :=
  { type := js "sign_helper_request", enrollChallenges := []
    signData := [⟨js "Y2hhbGxlbmdl", js "YXBw", some (js "a2V5"), js ""⟩]
    timeoutSeconds := none, logMsgUrl := none }

def exampleId : GnubbyDeviceId := ⟨js "usb", 1⟩

/-- A gnubby of version 2 answers the sign command with a code. -/
def signedWith (code : ℤ) : List Event :=
  [.signer (.enumerated 0 (some [(exampleId, [])])) [] [],
    .signer (.signer exampleId (.opened OK_STATUS)) [] [],
    .signer (.signer exampleId (.versioned OK_STATUS (some [85, 50, 70, 95, 86, 50]))) [] [],
    .signer (.signer exampleId (.signed code none)) [] []]

/-! ### Accepted requests -/

/-- A request is accepted, and the handler runs from a state. -/
def Accepts (request : HelperRequest) (s : MultipleGnubbySigner × UsbSignHandler) : Prop :=
  run request start = (some true, s)

/-! ### What a reaction keeps -/

section Keeps

variable {s : UsbSignHandler} {idle : List GnubbyDeviceId}

/-- A handler that has answered has the same replies. -/
def Silent (s s' : UsbSignHandler) : Prop :=
  s.notified = true → s'.notified = true ∧ s'.replies = s.replies

theorem Silent.refl (s : UsbSignHandler) : s.Silent s := fun h => ⟨h, rfl⟩

theorem Silent.trans {s s' s'' : UsbSignHandler} (h : s.Silent s') (h' : s'.Silent s'') :
    s.Silent s'' := by
  intro hnotified
  obtain ⟨hnotified', hreplies⟩ := h hnotified
  obtain ⟨hnotified'', hreplies'⟩ := h' hnotified'
  exact ⟨hnotified'', hreplies'.trans hreplies⟩

theorem notified_of_silent {s' : UsbSignHandler} (h : s.Silent s') (hnotified : s'.notified = false) :
    s.notified = false := by
  cases hs : s.notified with
  | false => rfl
  | true =>
      rw [(h hs).1] at hnotified
      exact absurd hnotified (by simp)

theorem silent_notifyError (code : ℤ) : s.Silent (s.notifyError_ idle code).owner := by
  intro hnotified
  rw [notifyError_, if_pos hnotified]
  exact ⟨hnotified, rfl⟩

theorem silent_notifySuccess (gnubby : Option OpenGnubby) (challenge : Option DecodedChallenge)
    (info : List UInt8) : s.Silent (s.notifySuccess_ idle gnubby challenge info).owner := by
  intro hnotified
  rw [notifySuccess_, if_pos hnotified]
  exact ⟨hnotified, rfl⟩

theorem silent_enrollCallback (gnubby : OpenGnubby) (code : ℤ) :
    s.Silent (s.enrollCallback_ idle gnubby code).owner := by
  intro hnotified
  rw [enrollCallback_, if_pos hnotified]
  exact ⟨hnotified, rfl⟩

theorem silent_answered (a : Answer) : s.Silent (s.answered idle a).owner := by
  intro hnotified
  cases a with
  | version i rc data =>
      simp only [answered]
      split
      · exact ⟨hnotified, rfl⟩
      · unfold versionCallback_
        split
        · exact silent_notifyError (s := { s with versions := s.versions.eraseIdx i }) rc hnotified
        · dsimp only
          split
          · exact ⟨hnotified, rfl⟩
          · split
            · exact ⟨hnotified, rfl⟩
            · exact Reaction.andThen_keeps
                (P := fun s' : UsbSignHandler => s'.notified = true ∧ s'.replies = s.replies)
                (silent_notifyError (s := { s with versions := s.versions.eraseIdx i }) _ hnotified) id
  | enroll i code =>
      simp only [answered]
      split
      · exact ⟨hnotified, rfl⟩
      · rename_i command _
        split
        · exact silent_enrollCallback
            (s := { s with enrolls := s.enrolls.eraseIdx i }.did (.touched command.gnubby))
            _ _ hnotified
        · exact silent_enrollCallback (s := { s with enrolls := s.enrolls.eraseIdx i })
            _ _ hnotified

theorem silent_answers (as : List Answer) : s.Silent (answers idle as s).owner := by
  induction as generalizing s with
  | nil => exact Silent.refl s
  | cons a as ih =>
      exact Reaction.andThen_keeps (P := s.Silent) (silent_answered a) fun h => h.trans ih

theorem silent_signerFoundGnubby (signResult : MultipleSignerResult) (moreExpected : Bool) :
    s.Silent (s.signerFoundGnubby_ idle signResult moreExpected).owner := by
  intro hnotified
  unfold signerFoundGnubby_
  dsimp only
  split
  · exact silent_notifySuccess (s := { s with anyGnubbiesFound := true }) _ _ _ hnotified
  · split
    · unfold sendBogusEnroll_
      split
      · exact ⟨hnotified, rfl⟩
      · exact ⟨hnotified, rfl⟩
    · split
      · exact silent_notifyError (s := { s with anyGnubbiesFound := true }) _ hnotified
      · exact ⟨hnotified, rfl⟩

theorem silent_signerCompleted (anyPending : Bool) :
    s.Silent (s.signerCompleted_ idle anyPending).owner := by
  unfold signerCompleted_
  split
  · exact silent_notifyError _
  · split
    · exact silent_notifyError _
    · exact Silent.refl s

end Keeps

/-! ### What a step is to the handler -/

section Steps

variable {m : MultipleGnubbySigner} {s : UsbSignHandler} {request : HelperRequest}

/-- The invariant of the signer. -/
theorem inv_handle (h : m.Inv) (e : Event) : (handle (m, s) e).1.Inv := by
  cases e with
  | signer e idle as => exact MultipleGnubbySigner.inv_step (owner idle as) e s h
  | answers idle as => exact MultipleGnubbySigner.inv_calls _ h
  | close idle => exact MultipleGnubbySigner.inv_calls _ h

theorem Accepts.inv (h : Accepts request (m, s)) :
    m.Inv ∧ s = { new with cb := true, signer := true } ∧ m.allCompleteCalls = [] ∧
      m.gnubbies = [] ∧ m.forEnroll = false := by
  unfold Accepts run at h
  simp only [start, new, Bool.false_eq_true, if_false] at h
  split at h
  · simp at h
  · obtain ⟨-, hm⟩ := Prod.mk.inj h
    obtain ⟨rfl, rfl⟩ := Prod.mk.inj hm
    refine ⟨MultipleGnubbySigner.inv_doSign _ (MultipleGnubbySigner.inv_new false), rfl, ?_⟩
    simp only [MultipleGnubbySigner.doSign, MultipleGnubbySigner.new, Bool.false_eq_true, if_false]
    split
    · exact ⟨rfl, rfl, rfl⟩
    · exact ⟨rfl, rfl, rfl⟩

/-- **What a step is to the handler.** -/
theorem handle_handler (h : m.Inv) (e : Event) :
    (handle (m, s) e).2 =
      match e with
      | .signer e idle as =>
          match m.told e with
          | some (result, moreExpected) =>
              ((s.signerFoundGnubby_ idle result moreExpected).andThen (answers idle as)).owner
          | none =>
              match e, m.deferred with
              | .allComplete, anyPending :: _ => (s.signerCompleted_ idle anyPending).owner
              | _, _ => s
      | .answers idle as => (s.answers idle as).owner
      | .close idle => (s.close idle).owner := by
  cases e with
  | signer e idle as => exact MultipleGnubbySigner.step_owner (owner idle as) e s h
  | answers idle as => rfl
  | close idle => rfl

end Steps

end UsbSignHandler

end U2F
