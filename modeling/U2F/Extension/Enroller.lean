/-
**Register requests of a page.**

`enroller.js`: a register request of a page is validated, and an `Enroller` waits for the tab of the
page, for the approval of its origin and for the check of its app ids, and has a helper enroll.

As a signer, an enroller calls its owner back as the last thing a method does with the enroller, so
a method returns the calls of its callbacks next to the new enroller.

Main definitions:

* `Enroller` — the enroller, with the promise that it waits for;
* `Enroller.machine` — an enroller as a reactive machine, whose replies are the calls of its
  callbacks;
* `EnrollPage`, `handleU2fEnrollRequest` — the request with its watchdog and the responses sent;
* `EnrollPage.machine` — the steps that come after a request is handed in.
-/

import U2F.Extension.Signer

set_option relaxedAutoImplicit false
set_option autoImplicit false

namespace U2F

/-! ### The enroller -/

/-- A call of the `errorCb` or the `successCb` of an enroller. -/
inductive EnrollerCall
  | error (error : U2fError)
  | success (u2fVersion info browserData : Option JSString)

/-- What a reply of a helper to an enroll request holds besides its code. -/
structure EnrollReplyContent where
  version : Option JSString
  enrollData : Option JSString

abbrev EnrollHelperReply := HelperReply EnrollReplyContent

/-- The promise that an enroller waits for. -/
inductive EnrollAwaiting
  | nothing
  /-- `getTabIdWhenPossible` -/
  | tabId
  /-- `isApprovedOrigin` -/
  | approval
  /-- `canClaimAppIds` for these app ids, before the helper is given the request. -/
  | originCheck (appIds : List JSString) (request : HelperRequest)
  /-- `checkAppIds` for these app ids, before the helper is given the request. -/
  | appIdCheck (appIds : List JSString) (request : HelperRequest)

structure Enroller where
  timer : CountdownTimer
  /-- Whether the timer has `notifyTimeout_` as its callback. -/
  notifiesTimeout : Bool
  sender : WebRequestSender
  logMsgUrl : Option JSString
  done : Bool
  /-- The browser data of the U2F_V2 challenge, in base64. -/
  browserData : Option JSString
  /-- The handler, which is known by the request it was given. -/
  handler : Option HelperRequest
  enrollChallenges : List EnrollChallenge
  signChallenges : Option (List SignChallenge)
  appId : Option JSString
  awaiting : EnrollAwaiting
  /-- The lists of app ids that the origin may claim, as `canClaimAppIds` has found. -/
  claimed : List (List JSString)
  /-- The lists of app ids that `checkAppIds` has approved. -/
  checked : List (List JSString)
  /-- The requests whose handlers have been run. -/
  ran : List HelperRequest

namespace Enroller

/-- The constructor. -/
def new (timer : CountdownTimer) (sender : WebRequestSender) (logMsgUrl : Option JSString) :
    Enroller :=
  { timer := timer, notifiesTimeout := false, sender := sender, logMsgUrl := logMsgUrl
    done := false, browserData := none, handler := none, enrollChallenges := []
    signChallenges := none, appId := none, awaiting := .nothing, claimed := [], checked := []
    ran := [] }

/-- `this.allowHttp_` -/
def allowHttp (s : Enroller) : Bool := s.sender.isHttp

/-- Closes this enroller. -/
def close (s : Enroller) : Enroller := { s with handler := none, done := true }

/-- The caller is notified once, with the first result. -/
def notify (call : EnrollerCall) (s : Enroller) : Enroller × List EnrollerCall :=
  if s.done then (s, []) else (s.close, [call])

/-- Notifies the caller with the error. -/
def notifyError (errorCode : ErrorCodes) : Enroller → Enroller × List EnrollerCall :=
  notify (.error (.ofCode errorCode))

/-- Notifies the caller of success. -/
def notifySuccess (u2fVersion info browserData : Option JSString) :
    Enroller → Enroller × List EnrollerCall :=
  notify (.success u2fVersion info browserData)

/-- Notifies the caller of a timeout error. -/
def notifyTimeout : Enroller → Enroller × List EnrollerCall := notifyError .TIMEOUT

/-- Performs an enroll request with the given enroll and sign challenges. -/
def doEnroll (enrollChallenges : List EnrollChallenge)
    (signChallenges : Option (List SignChallenge)) (appId : Option JSString) (s : Enroller) :
    Enroller :=
  { s with
    enrollChallenges := enrollChallenges
    signChallenges := signChallenges
    appId := appId
    awaiting := .tabId }

/-- Ensures the user has approved this origin. -/
def approveOrigin (s : Enroller) : Enroller := { s with awaiting := .approval }

/-- The tab id is there. -/
def tabIdResolved (s : Enroller) : Enroller × List EnrollerCall :=
  match s.awaiting with
  | .tabId =>
      let s := { s with awaiting := .nothing }
      if s.done then (s, []) else (s.approveOrigin, [])
  | _ => (s, [])

/-- The promise that is waited for is rejected, which only the one for the tab id handles. -/
def rejected (s : Enroller) : Enroller × List EnrollerCall :=
  let t := { s with awaiting := .nothing }
  match s.awaiting with
  | .tabId => t.close.notifyError .BAD_REQUEST
  | _ => (t, [])

variable (P : Primitives)

/-- What reading a copy of an enroll challenge gives, to which its properties have been assigned one
by one: the value of `__proto__` has become the prototype of the copy. -/
def copy (enrollChallenge : EnrollChallenge) : EnrollChallenge :=
  { enrollChallenge with
    appId := enrollChallenge.appId.or enrollChallenge.protoAppId
    others := enrollChallenge.others.without PROTO }

/-- The browser data of an enroll challenge. -/
def enrollBrowserData (s : Enroller) (enrollChallenge : EnrollChallenge) : JSString :=
  P.makeEnrollBrowserData (enrollChallenge.challenge.getD []) s.sender

/-- Encodes an enroll challenge using this enroller's state.  A V2 challenge is modified first. -/
def encodeEnrollChallenge (s : Enroller) (enrollChallenge : EnrollChallenge) :
    Option EnrollHelperChallenge :=
  if enrollChallenge.versionOrV1 = js "U2F_V2" then
    U2F.encodeEnrollChallenge P
      { copy enrollChallenge with challenge := some (P.hash (s.enrollBrowserData P enrollChallenge)) }
      s.appId
  else U2F.encodeEnrollChallenge P enrollChallenge s.appId

/-- The browser data that encoding the enroll challenges stores: that of the last V2 challenge. -/
def storedBrowserData (s : Enroller) : Option JSString :=
  (s.enrollChallenges.filter fun c => c.versionOrV1 = js "U2F_V2").getLast?.map fun c =>
    P.B64_encode (UTIL_StringToBytes (s.enrollBrowserData P c))

/-- The app ids in the enroll challenge portion of the request. -/
def enrollAppIds (s : Enroller) : List JSString :=
  (if truthy s.appId then [s.appId.getD []] else []) ++
    s.enrollChallenges.filterMap EnrollChallenge.appId

/-- The app ids that are checked. -/
def appIdsToCheck (s : Enroller) : List JSString :=
  UTIL_unionArrays s.enrollAppIds (getDistinctAppIds s.signChallenges)

/-- The helper request; `none` is an exception. -/
def enrollRequest (s : Enroller) : Option HelperRequest := do
  let encodedEnrollChallenges ← s.enrollChallenges.mapM (s.encodeEnrollChallenge P)
  let encodedSignChallenges ←
    encodeSignChallenges P s.signChallenges (some []) s.appId P.encodedSha256
  return {
    type := js "enroll_helper_request"
    enrollChallenges := encodedEnrollChallenges
    signData := encodedSignChallenges
    timeoutSeconds :=
      if s.timer.expired then none else some (s.timer.millisecondsUntilExpired / 1000)
    logMsgUrl := s.logMsgUrl }

/-- Encodes the challenges into a helper request and begins to check the app ids. -/
def sendEnrollRequestToHelper (s : Enroller) : Enroller × List EnrollerCall :=
  match s.enrollRequest P with
  | none => (s, [])
  | some request =>
      let s := { s with browserData := (s.storedBrowserData P).or s.browserData }
      if s.enrollAppIds = [] then s.notifyError .BAD_REQUEST
      else ({ s with awaiting := .originCheck s.appIdsToCheck request }, [])

/-- The user has approved the origin or has not.  Without approval, a timeout occurs. -/
def approvalResolved (result : Bool) (s : Enroller) : Enroller × List EnrollerCall :=
  match s.awaiting with
  | .approval =>
      let s := { s with awaiting := .nothing }
      if s.done then (s, [])
      else if result then s.sendEnrollRequestToHelper P
      else if s.timer.expired then s.notifyTimeout
      else ({ s with timer := s.timer.clone, notifiesTimeout := true }, [])
  | _ => (s, [])

/-- Called with the result of checking the origin. -/
def originChecked (result : Bool) (s : Enroller) : Enroller × List EnrollerCall :=
  match s.awaiting with
  | .originCheck appIds request =>
      if result then
        ({ s with claimed := s.claimed ++ [appIds], awaiting := .appIdCheck appIds request }, [])
      else { s with awaiting := .nothing }.notifyError .BAD_REQUEST
  | _ => (s, [])

/-- Called by the helper upon completion. -/
def helperComplete (reply : EnrollHelperReply) (s : Enroller) : Enroller × List EnrollerCall :=
  if reply.failed then
    s.notify (.error (mapDeviceStatusCodeToU2fError (reply.code.getD 0)))
  else
    let browserData :=
      if reply.content.version = some (js "U2F_V2") then s.browserData else none
    s.notifySuccess reply.content.version reply.content.enrollData browserData

/-- The replies that a handler gives in its `run()`. -/
def helperReplies : List EnrollHelperReply → Enroller → Enroller × List EnrollerCall
  | [], s => (s, [])
  | reply :: rest, s =>
      let first := s.helperComplete reply
      let others := first.1.helperReplies rest
      (others.1, first.2 ++ others.2)

/-- The handler of the helper is given the request, and is run. -/
def runHandler (request : HelperRequest) (run : HandlerRun EnrollHelperReply) (s : Enroller) :
    Enroller × List EnrollerCall :=
  { s with handler := some request, ran := s.ran ++ [request] }.helperReplies run.replies

/-- Called with the result of checking app ids.  The helper gives a handler, or it does not. -/
def appIdChecked (result : Bool) (helper : Option (HandlerRun EnrollHelperReply)) (s : Enroller) :
    Enroller × List EnrollerCall :=
  match s.awaiting with
  | .appIdCheck appIds request =>
      let s := { s with awaiting := .nothing }
      if s.done then (s, [])
      else if result then
        let s := { s with checked := s.checked ++ [appIds] }
        match helper with
        | none => { s with handler := none }.notifyError .OTHER_ERROR
        | some run => s.runHandler request run
      else s.notifyError .BAD_REQUEST
  | _ => (s, [])

/-- A tick of the timer. -/
def timerTick (s : Enroller) : Enroller × List EnrollerCall :=
  let tick := s.timer.timerTick
  let s := { s with timer := tick.1 }
  if tick.2 ∧ s.notifiesTimeout then s.notifyTimeout else (s, [])

/-! ### The enroller as a machine -/

/-- What can happen to an enroller. -/
inductive Event
  | tabIdResolved
  | approvalResolved (result : Bool)
  /-- `canClaimAppIds` is resolved. -/
  | originChecked (result : Bool)
  /-- `checkAppIds` is resolved, and the helper does as given. -/
  | appIdChecked (result : Bool) (helper : Option (HandlerRun EnrollHelperReply))
  /-- The promise that is waited for is rejected. -/
  | rejected
  | timerTick
  /-- The helper replies, after a handler has been run. -/
  | helperComplete (reply : EnrollHelperReply)
  /-- The owner closes the enroller. -/
  | close

/-- The enroller after an event, and the calls of its callbacks. -/
def handle (s : Enroller) : Event → Enroller × List EnrollerCall
  | .tabIdResolved => s.tabIdResolved
  | .approvalResolved result => s.approvalResolved P result
  | .originChecked result => s.originChecked result
  | .appIdChecked result helper => s.appIdChecked result helper
  | .rejected => s.rejected
  | .timerTick => s.timerTick
  | .helperComplete reply => if s.ran = [] then (s, []) else s.helperComplete reply
  | .close => (s.close, [])

/-- **An enroller as a reactive machine.** -/
def machine : Machine Enroller Event (List EnrollerCall) :=
  ⟨fun s e => ((s.handle P e).2, (s.handle P e).1)⟩

/-! ### What the replies of a handler keep -/

section Keeps

variable {I : Enroller → Prop} (hnotify : ∀ call {s : Enroller}, I s → I (s.notify call).1)
include hnotify

/-- Each reply has the enroller notify its caller. -/
theorem helperComplete_keeps (reply : EnrollHelperReply) {s : Enroller} (hs : I s) :
    I (s.helperComplete reply).1 := by
  unfold helperComplete
  split <;> exact hnotify _ hs

theorem helperReplies_keeps (replies : List EnrollHelperReply) {s : Enroller} (hs : I s) :
    I (s.helperReplies replies).1 := by
  induction replies generalizing s with
  | nil => exact hs
  | cons reply rest ih => exact ih (helperComplete_keeps hnotify reply hs)

end Keeps

/-! ### The calls of a step -/

theorem calls_notify (call : EnrollerCall) {s : Enroller} {done : Bool} (h : s.done = done) :
    Calls done (s.notify call).1.done (s.notify call).2 := by
  subst h
  unfold notify
  split
  case isTrue => exact .none
  case isFalse h => exact .inr ⟨by simpa using h, rfl, call, rfl⟩

theorem calls_helperComplete (reply : EnrollHelperReply) {s : Enroller} {done : Bool}
    (h : s.done = done) :
    Calls done (s.helperComplete reply).1.done (s.helperComplete reply).2 := by
  unfold helperComplete
  split <;> exact calls_notify _ h

theorem calls_helperReplies (replies : List EnrollHelperReply) {s : Enroller} {done : Bool}
    (h : s.done = done) :
    Calls done (s.helperReplies replies).1.done (s.helperReplies replies).2 := by
  induction replies generalizing s done with
  | nil => exact .inl ⟨rfl, h⟩
  | cons reply rest ih => exact (calls_helperComplete reply h).append (ih rfl)

theorem calls_sendEnrollRequestToHelper {s : Enroller} {done : Bool} (h : s.done = done) :
    Calls done (s.sendEnrollRequestToHelper P).1.done (s.sendEnrollRequestToHelper P).2 := by
  unfold sendEnrollRequestToHelper
  split
  · exact .inl ⟨rfl, h⟩
  · dsimp only
    split
    · exact calls_notify _ h
    · exact .inl ⟨rfl, h⟩

theorem calls_approvalResolved (result : Bool) (s : Enroller) :
    Calls s.done (s.approvalResolved P result).1.done (s.approvalResolved P result).2 := by
  unfold approvalResolved
  split
  · dsimp only
    split
    · exact .none
    · split
      · exact calls_sendEnrollRequestToHelper P rfl
      · split
        · exact calls_notify _ rfl
        · exact .none
  · exact .none

theorem calls_originChecked (result : Bool) (s : Enroller) :
    Calls s.done (s.originChecked result).1.done (s.originChecked result).2 := by
  unfold originChecked
  split
  · split
    · exact .none
    · exact calls_notify _ rfl
  · exact .none

theorem calls_appIdChecked (result : Bool) (helper : Option (HandlerRun EnrollHelperReply))
    (s : Enroller) :
    Calls s.done (s.appIdChecked result helper).1.done (s.appIdChecked result helper).2 := by
  unfold appIdChecked
  split
  · dsimp only
    split
    · exact .none
    · split
      · split
        · exact calls_notify _ rfl
        · exact calls_helperReplies _ rfl
      · exact calls_notify _ rfl
  · exact .none

/-- Every step calls back once if it ends the request, and not at all otherwise; but closing, and the
rejection of the tab id, end the request silently. -/
theorem calls_handle {s : Enroller} {e : Event} (hclose : e ≠ .close)
    (hrejected : e = .rejected → s.awaiting ≠ .tabId) :
    Calls s.done (s.handle P e).1.done (s.handle P e).2 := by
  cases e with
  | tabIdResolved =>
      simp only [handle, tabIdResolved]
      split
      · split
        · exact .none
        · exact .none
      · exact .none
  | approvalResolved result => exact calls_approvalResolved P result s
  | originChecked result => exact calls_originChecked result s
  | appIdChecked result helper => exact calls_appIdChecked result helper s
  | rejected =>
      simp only [handle, rejected]
      split
      case h_1 hawaiting => exact absurd hawaiting (hrejected rfl)
      case h_2 => exact .none
  | timerTick =>
      simp only [handle, timerTick]
      split
      · exact calls_notify _ rfl
      · exact .none
  | helperComplete reply =>
      simp only [handle]
      split
      · exact .none
      · exact calls_helperComplete reply rfl
  | close => exact absurd rfl hclose

/-- A step that ends the request silently, or calls back once. -/
theorem handle_calls (s : Enroller) (e : Event) :
    (s.handle P e).2 = [] ∧ (s.done = true → (s.handle P e).1.done = true) ∨
      Calls s.done (s.handle P e).1.done (s.handle P e).2 := by
  cases e with
  | rejected =>
      refine .inl ?_
      simp only [handle, rejected]
      split
      · exact ⟨by simp [notifyError, notify, close], by simp [notifyError, notify, close]⟩
      · exact ⟨rfl, id⟩
  | close => exact .inl ⟨rfl, fun _ => rfl⟩
  | _ => exact .inr (calls_handle P (by simp) (by simp))

end Enroller

/-! ### The request -/

/-- A register request with its watchdog and the responses sent. -/
abbrev EnrollPage := PageRequest Enroller

namespace EnrollPage

variable (request : U2fRequest)

/-- The close method of the enroller, which the watchdog calls. -/
def closeWork (s : EnrollPage) : EnrollPage := { s with work := s.work.close }

/-- The page's `sendErrorResponse`. -/
def sendErrorResponse (error : U2fError) : EnrollPage → EnrollPage :=
  PageRequest.sendResponseOnce closeWork (makeU2fErrorResponse request error)

/-- Makes a responseData object: the registration data, over which the properties of the enroll
challenge are echoed, and for a key of version U2F_V2 the client data over these. -/
def makeEnrollResponseData (enrollChallenge : EnrollChallenge)
    (u2fVersion registrationData clientData : Option JSString) : JSProperties :=
  let responseData :=
    (JSProperties.assign ∅ (js "registrationData") (.ofOption registrationData)).assignAll
      enrollChallenge.properties
  if u2fVersion = some (js "U2F_V2") then
    responseData.assign (js "clientData") (.ofOption clientData)
  else responseData

/-- The page's `sendSuccessResponse`. -/
def sendSuccessResponse (u2fVersion info clientData : Option JSString) (s : EnrollPage) :
    EnrollPage :=
  match findEnrollChallengeOfVersion (request.registerRequests.getD []) u2fVersion with
  | none => sendErrorResponse request (.ofCode .OTHER_ERROR) s
  | some enrollChallenge =>
      s.sendResponseOnce closeWork
        (makeU2fSuccessResponse request
          (.enroll (makeEnrollResponseData enrollChallenge u2fVersion info clientData)))

/-- A call that an enroller makes.  The callbacks it is given are not wrapped by the watchdog. -/
def enrollerCalls (call : EnrollerCall) (s : EnrollPage) : EnrollPage :=
  match call with
  | .error error => sendErrorResponse request error s
  | .success u2fVersion info browserData =>
      sendSuccessResponse request u2fVersion info browserData s

/-- The enroller changes, and calls its callbacks. -/
def runEnroller (f : Enroller → Enroller × List EnrollerCall) (s : EnrollPage) : EnrollPage :=
  (f s.work).2.foldl (fun s call => enrollerCalls request call s) { s with work := (f s.work).1 }

end EnrollPage

/-- An enroller that has been given the challenges of a request. -/
def Enroller.start (timer : CountdownTimer) (sender : WebRequestSender) (request : U2fRequest) :
    Enroller :=
  (new timer sender request.logMsgUrl).doEnroll (request.registerRequests.getD [])
    (getSignRequestsFromEnrollRequest request) request.appId

/-- The enroller that a request starts, and its watchdog. -/
def startEnroller (sender : WebRequestSender) (request : U2fRequest) : EnrollPage :=
  let timeoutValueSeconds := getTimeoutValueFromRequest request
  let watchdogTimeoutValueSeconds :=
    attenuateTimeoutInSeconds timeoutValueSeconds (MINIMUM_TIMEOUT_ATTENUATION_SECONDS / 2)
  { watchdog := { WatchdogRequestHandler.new watchdogTimeoutValueSeconds with closeable := true }
    work := .start (createAttenuatedTimer timeoutValueSeconds) sender request
    sent := [] }

/-- Handles a U2F enroll request.  Without a handler, the one response sent is returned. -/
def handleU2fEnrollRequest (messageSender : MessageSender) (request : U2fRequest) :
    Except Response EnrollPage :=
  match createSenderFromMessageSender messageSender with
  | none => .error (makeU2fErrorResponse request (.ofCode .BAD_REQUEST))
  | some sender =>
      if sender.isHttp ∧ ¬ HTTP_ORIGINS_ALLOWED then
        .error (makeU2fErrorResponse request (.ofCode .BAD_REQUEST))
      else if !isValidEnrollRequest request then
        .error (makeU2fErrorResponse request (.ofCode .BAD_REQUEST))
      else .ok (startEnroller sender request)

namespace EnrollPage

variable (request : U2fRequest)

/-- What can happen after a register request. -/
inductive Event
  | watchdogTick
  /-- Something happens to the enroller. -/
  | enroller (event : Enroller.Event)
  /-- The page closes the handler. -/
  | close

end EnrollPage

/-- Whether an event of an enroller comes from outside the request, which closes it itself. -/
def Enroller.Event.isExternal : Enroller.Event → Bool
  | .close => false
  | _ => true

namespace EnrollPage

variable (request : U2fRequest)

/-- The request after an event. -/
def handle (P : Primitives) (s : EnrollPage) : Event → EnrollPage
  | .watchdogTick => s.watchdogTick (sendErrorResponse request (.ofCode .TIMEOUT))
  | .enroller event =>
      if event.isExternal then runEnroller request (fun enroller => enroller.handle P event) s
      else s
  | .close => PageRequest.close closeWork s

/-- **A register request as a machine**; `handleU2fEnrollRequest` gives its state at the start. -/
def machine (P : Primitives) : Machine (Except Response EnrollPage) Event Unit :=
  PageRequest.machine (handle request P)

end EnrollPage

end U2F
