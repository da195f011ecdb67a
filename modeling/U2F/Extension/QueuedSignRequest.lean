/-
**Sign requests of a page.**

The rest of `signer.js`: a sign request of a page is validated and queued behind the other requests
for its origin, and is given to a `Signer` when its turn comes.

The callbacks of a request call each other: an error response closes the watchdog, which closes the
queued request, which closes its signer, which calls the error callback.  The callback that is
called from inside is that of a closed watchdog, so one level of it is enough, and the definitions
count the levels.

Main definitions:

* `QueuedSignRequest` — a queued request;
* `SignPage` — the request with its watchdog and the responses sent;
* `handleU2fSignRequest` — the request as it is handed in;
* `SignPage.machine` — the steps that come after it.

Main results:

* `SignPage.wrappedErrorCb_succ` — more levels than one change nothing;
* `SignPage.wrappedErrorCb_eq` — the error callback satisfies the recursion of the source.
-/

import U2F.Extension.Signer

set_option relaxedAutoImplicit false
set_option autoImplicit false

namespace U2F

structure QueuedSignRequest where
  signChallenges : List SignChallenge
  timer : CountdownTimer
  sender : WebRequestSender
  defaultChallenge : Option JSString
  appId : Option JSString
  logMsgUrl : Option JSString
  begun : Bool
  closed : Bool
  signer : Option Signer
  /-- Whether the request's token in the queue is completed. -/
  tokenCompleted : Bool
  /-- The timer that completes the token. -/
  tokenTimer : CountdownTimer
  /-- Whether the zero-delay timeout that begins the request is set. -/
  startPending : Bool

/-- A sign request with its watchdog and the responses sent. -/
abbrev SignPage := PageRequest QueuedSignRequest

namespace SignPage

variable (request : U2fRequest)

/-! ### The callbacks of the signer, and closing -/

def setSigner (signer : Signer) (s : SignPage) : SignPage :=
  { s with work := { s.work with signer := some signer } }

def setBegun (s : SignPage) : SignPage := { s with work := { s.work with begun := true } }

def setClosed (s : SignPage) : SignPage := { s with work := { s.work with closed := true } }

def setTimer (timer : CountdownTimer) (s : SignPage) : SignPage :=
  { s with work := { s.work with timer := timer } }

def setTokenTimer (timer : CountdownTimer) (s : SignPage) : SignPage :=
  { s with work := { s.work with tokenTimer := timer } }

def clearStart (s : SignPage) : SignPage :=
  { s with work := { s.work with startPending := false } }

/-- The token's `complete()`.  The request behind it in the queue is begun, which is another one. -/
def tokenComplete (s : SignPage) : SignPage :=
  { s with work := { s.work with tokenCompleted := true } }

/-- The page's `sendErrorResponse`, given what closes the queued request. -/
def sendErrorResponse (closeWork : SignPage → SignPage) (error : U2fError) : SignPage → SignPage :=
  PageRequest.sendResponseOnce closeWork (makeU2fErrorResponse request error)

section

variable (errorCb : U2fError → SignPage → SignPage)

/-- Called when this request's signer fails. -/
def signerFailed (error : U2fError) (s : SignPage) : SignPage := errorCb error s.tokenComplete

/-- The calls that a signer makes when it is closed. -/
def closeCalls : List SignerCall → SignPage → SignPage
  | [], s => s
  | .error error :: rest, s => closeCalls rest (signerFailed errorCb error s)
  | .success .. :: rest, s => closeCalls rest s

/-- Closes this sign request. -/
def closeQueued (s : SignPage) : SignPage :=
  if s.work.closed then s
  else
    let s :=
      match s.work.begun, s.work.signer with
      | true, some signer => closeCalls errorCb signer.close.2 (s.setSigner signer.close.1)
      | _, _ => s
    s.tokenComplete.setClosed

end

/-- `errorCb` as the watchdog has wrapped it, for a number of levels of calls from inside. -/
def wrappedErrorCb : ℕ → U2fError → SignPage → SignPage
  | 0, _, s => s
  | level + 1, error, s =>
      s.wrapCallback (sendErrorResponse request (closeQueued (wrappedErrorCb level)) error)

/-- `errorCb` as the watchdog has wrapped it. -/
def errorCb : U2fError → SignPage → SignPage := wrappedErrorCb request 1

/-- The close method of the request, which its watchdog calls. -/
def closeWork : SignPage → SignPage := closeQueued (errorCb request)

/-- The page's `sendSuccessResponse`.  Browser data that has no bytes to read throws. -/
def sendSuccessResponse (P : Primitives) (challenge : Option SignChallenge) (info : JSString)
    (browserData : Option JSString) (s : SignPage) : SignPage :=
  match browserData with
  | none => s
  | some browserData =>
      s.sendResponseOnce (closeWork request)
        (makeU2fSuccessResponse request
          (.sign (challenge.bind SignChallenge.keyHandle)
            (P.B64_encode (UTIL_StringToBytes browserData)) info))

/-- A call that a signer makes. -/
def signerCalls (P : Primitives) (call : SignerCall) (s : SignPage) : SignPage :=
  match call with
  | .error error => signerFailed (errorCb request) error s
  | .success challenge info browserData =>
      s.tokenComplete.wrapCallback (sendSuccessResponse request P challenge info browserData)

/-- The signer changes, and calls its callbacks. -/
def runSigner (P : Primitives) (f : Signer → Signer × List SignerCall) (s : SignPage) : SignPage :=
  match s.work.signer with
  | none => s
  | some signer => (f signer).2.foldl (fun s call => signerCalls request P call s)
      (s.setSigner (f signer).1)

/-! ### The steps of a request -/

/-- Called when this sign request may begin work. -/
def begin (P : Primitives) (s : SignPage) : SignPage :=
  if s.work.timer.expired then errorCb request (.ofCode .TIMEOUT) (closeWork request s)
  else
    let signer := Signer.new s.work.timer s.work.sender s.work.logMsgUrl
    let set := signer.setChallenges s.work.signChallenges s.work.defaultChallenge s.work.appId
    let s := runSigner request P (fun _ => set.2) (s.setBegun.setSigner signer)
    let s := if set.1 then s else errorCb request (.ofCode .BAD_REQUEST) s.tokenComplete
    s.setTimer s.work.timer.clearTimeout

/-- The zero-delay timeout of `queueRequest`. -/
def queueStart (P : Primitives) (s : SignPage) : SignPage :=
  if s.work.startPending then
    if s.work.tokenCompleted then s.clearStart else begin request P s.clearStart
  else s

/-- A tick of the request's timer, which closes the request when it expires. -/
def queuedTick (s : SignPage) : SignPage :=
  let tick := s.work.timer.timerTick
  if tick.2 then closeWork request (s.setTimer tick.1) else s.setTimer tick.1

/-- A tick of the timer that completes the token. -/
def tokenTick (s : SignPage) : SignPage :=
  let tick := s.work.tokenTimer.timerTick
  if tick.2 then (s.setTokenTimer tick.1).tokenComplete else s.setTokenTimer tick.1

end SignPage

/-! ### The request -/

/-- The app id that is used for the entire request. -/
def signAppId (request : U2fRequest) (signChallenges : List SignChallenge) : Option JSString :=
  if truthy request.appId then request.appId
  else signChallenges.head?.bind SignChallenge.appId

/-- The queued request and its watchdog; `startNow` says whether the queue is empty. -/
def enqueueSignRequest (sender : WebRequestSender) (request : U2fRequest)
    (signChallenges : List SignChallenge) (appId : Option JSString) (startNow : Bool) : SignPage :=
  let timeoutValueSeconds :=
    attenuateTimeoutInSeconds (getTimeoutValueFromRequest request)
      (MINIMUM_TIMEOUT_ATTENUATION_SECONDS / 2)
  let timer := createAttenuatedTimer timeoutValueSeconds
  { watchdog := { WatchdogRequestHandler.new timeoutValueSeconds with closeable := true }
    work :=
      { signChallenges := signChallenges
        timer := timer.clone
        sender := sender
        defaultChallenge := request.challenge
        appId := appId
        logMsgUrl := request.logMsgUrl
        begun := false
        closed := false
        signer := none
        tokenCompleted := false
        tokenTimer := timer.clone
        startPending := startNow }
    sent := [] }

/-- Validates a sign request and, if valid, enqueues it for eventual processing. -/
def validateAndEnqueueSignRequest (sender : WebRequestSender) (request : U2fRequest)
    (startNow : Bool) : Except U2fError SignPage :=
  if !isValidSignRequest request then .error (.ofCode .BAD_REQUEST)
  else
    let signChallenges := (getSignChallenges request).getD []
    let appId := signAppId request signChallenges
    if !truthy appId then .error (.ofCode .BAD_REQUEST)
    else .ok (enqueueSignRequest sender request signChallenges appId startNow)

/-- Handles a U2F sign request.  Without a handler, the one response sent is returned. -/
def handleU2fSignRequest (messageSender : MessageSender) (request : U2fRequest)
    (startNow : Bool) : Except Response SignPage :=
  match createSenderFromMessageSender messageSender with
  | none => .error (makeU2fErrorResponse request (.ofCode .BAD_REQUEST))
  | some sender =>
      if sender.isHttp ∧ ¬ HTTP_ORIGINS_ALLOWED then
        .error (makeU2fErrorResponse request (.ofCode .BAD_REQUEST))
      else
        (validateAndEnqueueSignRequest sender request startNow).mapError
          (makeU2fErrorResponse request)

/-- Whether an event of a signer comes from outside the request, which sets the challenges and
closes the signer itself. -/
def Signer.Event.isExternal : Signer.Event → Bool
  | .setChallenges .. => false
  | .close => false
  | _ => true

namespace SignPage

variable (request : U2fRequest)

/-- What can happen after a sign request. -/
inductive Event
  /-- The zero-delay timeout of the queue fires. -/
  | queueStart
  /-- The request before this one in the queue is completed. -/
  | begin
  | watchdogTick
  | queuedTick
  | tokenTick
  /-- Something happens to the signer. -/
  | signer (event : Signer.Event)
  /-- The page closes the handler. -/
  | close

/-- The request after an event. -/
def handle (P : Primitives) (s : SignPage) : Event → SignPage
  | .queueStart => s.queueStart request P
  | .begin => s.begin request P
  | .watchdogTick => s.watchdogTick (sendErrorResponse request (closeWork request) (.ofCode .TIMEOUT))
  | .queuedTick => s.queuedTick request
  | .tokenTick => s.tokenTick
  | .signer event =>
      if event.isExternal then runSigner request P (fun signer => signer.handle P event) s else s
  | .close => PageRequest.close (closeWork request) s

/-- **A sign request as a machine**; `handleU2fSignRequest` gives its state at the start. -/
def machine (P : Primitives) : Machine (Except Response SignPage) Event Unit :=
  PageRequest.machine (handle request P)

/-! ### The recursion of the callbacks -/

/-- The error callback does nothing once the watchdog is closed. -/
theorem wrappedErrorCb_of_closed (level : ℕ) (error : U2fError) {s : SignPage}
    (hs : s.watchdog.closed = true) : wrappedErrorCb request level error s = s := by
  cases level with
  | zero => rfl
  | succ level => exact PageRequest.wrapCallback_of_closed hs

variable {request} {errorCb errorCb' : U2fError → SignPage → SignPage}

theorem closeCalls_of_closed (hcb : ∀ error s, s.watchdog.closed = true → errorCb error s = s)
    (calls : List SignerCall) {s : SignPage} (hs : s.watchdog.closed = true) :
    closeCalls errorCb calls s = closeCalls (fun _ s => s) calls s := by
  induction calls generalizing s with
  | nil => rfl
  | cons call rest ih =>
      cases call with
      | error error =>
          have hcall : signerFailed errorCb error s = s.tokenComplete := hcb error _ hs
          rw [closeCalls, hcall]
          exact ih hs
      | success => exact ih hs

/-- Closing a queued request whose watchdog is closed does not depend on the error callback. -/
theorem closeQueued_of_closed (hcb : ∀ error s, s.watchdog.closed = true → errorCb error s = s)
    {s : SignPage} (hs : s.watchdog.closed = true) :
    closeQueued errorCb s = closeQueued (fun _ s => s) s := by
  unfold closeQueued
  split
  · rfl
  · dsimp only
    split
    · rw [closeCalls_of_closed hcb _ (s := setSigner _ s) hs]
    · rfl

variable (request)

/-- More levels than one change nothing. -/
theorem wrappedErrorCb_succ (level : ℕ) (error : U2fError) (s : SignPage) :
    wrappedErrorCb request (level + 1) error s = wrappedErrorCb request 1 error s := by
  have hwork : ∀ (s : SignPage), s.watchdog.closed = true →
      closeQueued (wrappedErrorCb request level) s = closeQueued (wrappedErrorCb request 0) s := by
    intro s hs
    rw [closeQueued_of_closed (fun error s => wrappedErrorCb_of_closed request level error) hs,
      closeQueued_of_closed (fun error s => wrappedErrorCb_of_closed request 0 error) hs]
  simp only [wrappedErrorCb, PageRequest.wrapCallback, sendErrorResponse,
    PageRequest.sendResponseOnce, PageRequest.close_congr hwork]

/-- **The error callback satisfies the recursion of the source**: it is the wrapped
`sendErrorResponse`, which closes a request that has this callback. -/
theorem wrappedErrorCb_eq (error : U2fError) (s : SignPage) :
    SignPage.errorCb request error s =
      s.wrapCallback (sendErrorResponse request (closeWork request) error) :=
  (wrappedErrorCb_succ request 1 error s).symm

end SignPage

end U2F
