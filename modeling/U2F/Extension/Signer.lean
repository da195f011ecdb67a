/-
**Signers.**

The `Signer` of `signer.js` checks the app ids of a sign request and has a helper sign its
challenges.

A signer calls its owner back as the last thing a method does with the signer, so a method returns
the calls of its callbacks next to the new signer.  What the owner, the promises, the helper and the
timer do are the events of a run.

Main definitions:

* `Signer` — the signer, with the step of its request that it waits for;
* `Signer.machine` — a signer as a reactive machine, whose replies are the calls of its callbacks.
-/

import U2F.Extension.DelegatingHelper
import U2F.Extension.Watchdog

set_option relaxedAutoImplicit false
set_option autoImplicit false

namespace U2F

/-! ### The signer -/

/-- A call of the `errorCb` or the `successCb` of a signer.  The challenge is the one found under
the key handle of the reply, and the browser data its text. -/
inductive SignerCall
  | error (error : U2fError)
  | success (challenge : Option SignChallenge) (info : JSString) (browserData : Option JSString)

/-- What a reply of a helper to a sign request holds besides its code. -/
structure SignReplyContent where
  type : JSString
  /-- The key handle and the signature data of `responseData`. -/
  responseData : Option (JSString × JSString)

abbrev SignHelperReply := HelperReply SignReplyContent

/-- What a handler does in its `run()`: the replies that it gives before it returns, and whether it
has accepted the request. -/
structure HandlerRun (ρ : Type) where
  replies : List ρ
  accepted : Bool

/-- The promise that a signer or an enroller has asked for the check of its app ids. -/
inductive Awaiting
  | nothing
  /-- `canClaimAppIds` for these app ids. -/
  | originCheck (appIds : List JSString)
  /-- `checkAppIds` for these app ids. -/
  | appIdCheck (appIds : List JSString)

/-- The calls of a piece of work that calls back when it is done: one if the piece makes it done,
none if it leaves it as it was. -/
def Calls {γ : Type} (done done' : Bool) (calls : List γ) : Prop :=
  calls = [] ∧ done' = done ∨ done = false ∧ done' = true ∧ ∃ call, calls = [call]

theorem Calls.none {γ : Type} {done : Bool} : Calls done done ([] : List γ) := .inl ⟨rfl, rfl⟩

theorem Calls.append {γ : Type} {done done' done'' : Bool} {calls calls' : List γ}
    (h : Calls done done' calls) (h' : Calls done' done'' calls') :
    Calls done done'' (calls ++ calls') := by
  rcases h with ⟨rfl, rfl⟩ | ⟨hdone, rfl, call, rfl⟩
  · exact h'
  · rcases h' with ⟨rfl, rfl⟩ | ⟨hfalse, -⟩
    · exact .inr ⟨hdone, rfl, call, rfl⟩
    · cases hfalse

structure Signer where
  timer : CountdownTimer
  sender : WebRequestSender
  logMsgUrl : Option JSString
  challengesSet : Bool
  done : Bool
  /-- The browser data by key handle, the last one first. -/
  browserData : List (JSString × JSString)
  /-- The challenges by key handle.  One whose key handle is `__proto__` is the prototype of the
  object, which is what the object has under that name. -/
  serverChallenges : List (JSString × SignChallenge)
  /-- The handler, which is known by the request it was given. -/
  handler : Option HelperRequest
  signChallenges : List SignChallenge
  defaultChallenge : Option JSString
  appId : Option JSString
  awaiting : Awaiting
  /-- The lists of app ids that the origin may claim, as `canClaimAppIds` has found. -/
  claimed : List (List JSString)
  /-- The lists of app ids that `checkAppIds` has approved. -/
  checked : List (List JSString)
  /-- The requests whose handlers have been run. -/
  ran : List HelperRequest

namespace Signer

/-- The constructor. -/
def new (timer : CountdownTimer) (sender : WebRequestSender) (logMsgUrl : Option JSString) :
    Signer :=
  ⟨timer.clone, sender, logMsgUrl, false, false, [], [], none, [], none, none, .nothing, [], [], []⟩

/-- `this.allowHttp_` -/
def allowHttp (s : Signer) : Bool := s.sender.isHttp

/-- `close_(true)` -/
def closeNotifying (s : Signer) : Signer :=
  { s with handler := none, timer := s.timer.clearTimeout }

/-- The caller is notified once, with the first result. -/
def notify (call : SignerCall) (s : Signer) : Signer × List SignerCall :=
  if s.done then (s, []) else ({ s with done := true }.closeNotifying, [call])

/-- Notifies the caller of error. -/
def notifyError (error : U2fError) : Signer → Signer × List SignerCall := notify (.error error)

/-- Notifies the caller of success. -/
def notifySuccess (challenge : Option SignChallenge) (info : JSString)
    (browserData : Option JSString) : Signer → Signer × List SignerCall :=
  notify (.success challenge info browserData)

/-- Closes this signer. -/
def close (s : Signer) : Signer × List SignerCall :=
  s.closeNotifying.notifyError (.ofCode .TIMEOUT)

/-- The app ids that are checked for a list of challenges. -/
def appIdsToCheck (signChallenges : List SignChallenge) (appId : Option JSString) :
    List JSString :=
  let appIds := getDistinctAppIds (some signChallenges)
  if truthy appId then UTIL_unionArrays [appId.getD []] appIds else appIds

/-- Checks the app ids of incoming requests. -/
def checkAppIds (s : Signer) : Signer × List SignerCall :=
  let appIds := appIdsToCheck s.signChallenges s.appId
  if appIds = [] then s.notifyError ⟨.BAD_REQUEST, some (js "missing appId")⟩
  else ({ s with awaiting := .originCheck appIds }, [])

/-- Sets the challenges to be signed, and returns whether they could be set. -/
def setChallenges (signChallenges : List SignChallenge) (defaultChallenge appId : Option JSString)
    (s : Signer) : Bool × Signer × List SignerCall :=
  if s.challengesSet ∨ s.done then (false, s, [])
  else if s.timer.expired then (true, s.notifyError (.ofCode .TIMEOUT))
  else
    (true, { s with
      signChallenges := signChallenges
      defaultChallenge := defaultChallenge
      appId := appId
      challengesSet := true }.checkAppIds)

def badAppId : U2fError := ⟨.BAD_REQUEST, some (js "bad appId")⟩

/-- Called with the result of checking the origin. -/
def originChecked (result : Bool) (s : Signer) : Signer × List SignerCall :=
  match s.awaiting with
  | .originCheck appIds =>
      if result then
        ({ s with claimed := s.claimed ++ [appIds], awaiting := .appIdCheck appIds }, [])
      else { s with awaiting := .nothing }.notifyError badAppId
  | _ => (s, [])

/-- The name of the property that a value names. -/
def propertyName (name : Option JSString) : JSString := name.getD (js "undefined")

/-- The bytes that `UTIL_StringToBytes` reads from `this.browserData_[key]`, as a string; `none` is
the exception that it throws.  Under `__proto__` there is `Object.prototype`, from which it reads one
byte that counts as zero, and the members of `Object.prototype` without parameters read as empty. -/
def browserDataAt (key : JSString) (s : Signer) : Option JSString :=
  match s.browserData.lookup key with
  | some browserData => some browserData
  | none =>
      if key = PROTO then some [0]
      else if key = js "toString" ∨ key = js "toLocaleString" ∨ key = js "valueOf" then some []
      else none

/-- Stores the browser data of a challenge and the challenge under its key handle. -/
def putBrowserData (challenge : SignChallenge) (browserData : JSString) (s : Signer) : Signer :=
  let key := propertyName challenge.keyHandle
  { s with
    browserData := if key = PROTO then s.browserData else (key, browserData) :: s.browserData
    serverChallenges := (key, challenge) :: s.serverChallenges }

variable (P : Primitives)

/-- The loop of `doSign_` that creates the browser data; it ends early if a challenge is missing. -/
def createBrowserData : List SignChallenge → Signer → Bool × Signer
  | [], s => (true, s)
  | challenge :: rest, s =>
      let serverChallenge := challenge.challengeOr s.defaultChallenge
      if truthy serverChallenge then
        createBrowserData rest
          (s.putBrowserData challenge (P.makeSignBrowserData (serverChallenge.getD []) s.sender))
      else (false, s)

def getChallengeHash (s : Signer) (keyHandle _challenge : Option JSString) : Option JSString :=
  (s.browserDataAt (propertyName keyHandle)).map P.hash

/-- Called by the helper upon completion.  A success that holds no response data throws. -/
def helperComplete (reply : SignHelperReply) (s : Signer) : Signer × List SignerCall :=
  if reply.content.type ≠ js "sign_helper_reply" then s.notifyError (.ofCode .OTHER_ERROR)
  else if reply.failed then s.notifyError (mapDeviceStatusCodeToU2fError (reply.code.getD 0))
  else
    match reply.content.responseData with
    | none => (s, [])
    | some (key, signatureData) =>
        s.notifySuccess (s.serverChallenges.lookup key) signatureData (s.browserDataAt key)

/-- The replies that a handler gives in its `run()`. -/
def helperReplies : List SignHelperReply → Signer → Signer × List SignerCall
  | [], s => (s, [])
  | reply :: rest, s =>
      let first := s.helperComplete reply
      let others := first.1.helperReplies rest
      (others.1, first.2 ++ others.2)

/-- The handler of the helper is given the request, and is run. -/
def runHandler (request : HelperRequest) (run : HandlerRun SignHelperReply) (s : Signer) :
    Signer × List SignerCall :=
  { s with handler := some request, ran := s.ran ++ [request] }.helperReplies run.replies

/-- The helper request for the challenges; `none` is an exception. -/
def signRequest (s : Signer) : Option HelperRequest :=
  (encodeSignChallenges P (some s.signChallenges) s.defaultChallenge s.appId
    (s.getChallengeHash P)).map fun encodedChallenges =>
      makeSignHelperRequest encodedChallenges (s.timer.millisecondsUntilExpired / 1000) s.logMsgUrl

/-- Begins signing this signer's challenges, and notifies the caller if they cannot be signed.  The
helper gives a handler, or it does not. -/
def doSign (helper : Option (HandlerRun SignHelperReply)) (s : Signer) :
    Signer × List SignerCall :=
  match s.createBrowserData P s.signChallenges with
  | (false, s) => s.notifyError (.ofCode .BAD_REQUEST)
  | (true, s) =>
      match s.signRequest P, helper with
      | none, _ => (s, [])
      | some _, none => { s with handler := none }.notifyError (.ofCode .BAD_REQUEST)
      | some request, some run =>
          let ran := s.runHandler request run
          if run.accepted then ran
          else
            let refused := ran.1.notifyError (.ofCode .BAD_REQUEST)
            (refused.1, ran.2 ++ refused.2)

/-- Called with the result of checking app ids. -/
def appIdChecked (result : Bool) (helper : Option (HandlerRun SignHelperReply)) (s : Signer) :
    Signer × List SignerCall :=
  match s.awaiting with
  | .appIdCheck appIds =>
      let s := { s with awaiting := .nothing }
      if result then { s with checked := s.checked ++ [appIds] }.doSign P helper
      else s.notifyError badAppId
  | _ => (s, [])

/-- A promise that is rejected calls nothing. -/
def checkRejected (s : Signer) : Signer := { s with awaiting := .nothing }

/-! ### The signer as a machine -/

/-- What can happen to a signer. -/
inductive Event
  | setChallenges (signChallenges : List SignChallenge) (defaultChallenge appId : Option JSString)
  | timerTick
  /-- `canClaimAppIds` is resolved. -/
  | originChecked (result : Bool)
  /-- `checkAppIds` is resolved, and the helper does as given. -/
  | appIdChecked (result : Bool) (helper : Option (HandlerRun SignHelperReply))
  /-- The promise that is waited for is rejected. -/
  | checkRejected
  /-- The helper replies, after a handler has been run. -/
  | helperComplete (reply : SignHelperReply)
  /-- The owner closes the signer. -/
  | close

/-- The signer after an event, and the calls of its callbacks. -/
def handle (s : Signer) : Event → Signer × List SignerCall
  | .setChallenges signChallenges defaultChallenge appId =>
      (s.setChallenges signChallenges defaultChallenge appId).2
  | .timerTick => ({ s with timer := s.timer.timerTick.1 }, [])
  | .originChecked result => s.originChecked result
  | .appIdChecked result helper => s.appIdChecked P result helper
  | .checkRejected => (s.checkRejected, [])
  | .helperComplete reply => if s.ran = [] then (s, []) else s.helperComplete reply
  | .close => s.close

/-- **A signer as a reactive machine.** -/
def machine : Machine Signer Event (List SignerCall) :=
  ⟨fun s e => ((s.handle P e).2, (s.handle P e).1)⟩

/-! ### What the replies of a handler keep -/

section Keeps

variable {I : Signer → Prop} (hnotify : ∀ call {s : Signer}, I s → I (s.notify call).1)
include hnotify

/-- A reply does nothing, or has the signer notify its caller. -/
theorem helperComplete_keeps (reply : SignHelperReply) {s : Signer} (hs : I s) :
    I (s.helperComplete reply).1 := by
  unfold helperComplete
  split
  · exact hnotify _ hs
  · split
    · exact hnotify _ hs
    · split
      · exact hs
      · exact hnotify _ hs

theorem helperReplies_keeps (replies : List SignHelperReply) {s : Signer} (hs : I s) :
    I (s.helperReplies replies).1 := by
  induction replies generalizing s with
  | nil => exact hs
  | cons reply rest ih => exact ih (helperComplete_keeps hnotify reply hs)

end Keeps

/-! ### What signing does -/

/-- Every challenge has a value, and an app id to be signed for. -/
def Signable (s : Signer) : Prop :=
  ∀ c ∈ s.signChallenges,
    truthy (c.challengeOr s.defaultChallenge) = true ∧ (c.appIdOr s.appId).isSome = true

/-- Creating the browser data changes nothing else. -/
theorem createBrowserData_eq (challenges : List SignChallenge) (s : Signer) :
    ∃ browserData serverChallenges, (s.createBrowserData P challenges).2 =
      { s with browserData := browserData, serverChallenges := serverChallenges } := by
  induction challenges generalizing s with
  | nil => exact ⟨_, _, rfl⟩
  | cons c rest ih =>
      simp only [createBrowserData]
      split
      · exact ih (s.putBrowserData c _)
      · exact ⟨_, _, rfl⟩

theorem createBrowserData_eq_true {challenges : List SignChallenge} {s : Signer}
    (h : (s.createBrowserData P challenges).1 = true) :
    ∀ c ∈ challenges, truthy (c.challengeOr s.defaultChallenge) = true := by
  induction challenges generalizing s with
  | nil => simp
  | cons c rest ih =>
      simp only [createBrowserData] at h
      split at h
      case isTrue hc => exact List.forall_mem_cons.2 ⟨hc, ih (s := s.putBrowserData c _) h⟩
      case isFalse => cases h

/-- A request that can be made encodes each challenge with its app id. -/
theorem signRequest_encodes {s : Signer} {request : HelperRequest}
    (h : s.signRequest P = some request) :
    List.Forall₂ (fun c encoded => ∃ appId, c.appIdOr s.appId = some appId ∧
      encoded.appIdHash = P.hash appId) s.signChallenges request.signData ∧
    request.enrollChallenges = [] := by
  obtain ⟨encodedChallenges, hencoded, rfl⟩ := Option.map_eq_some_iff.1 h
  refine ⟨(Traverse.mapM_eq_some_iff.1 hencoded).imp ?_, rfl⟩
  intro c encoded hc
  exact encodeSignChallenge_appIdHash hc

/-- What signing can make of a signer that has created its browser data. -/
inductive Signs (helper : Option (HandlerRun SignHelperReply)) (t : Signer) : Signer → Prop
  | threw : Signs helper t t
  | failed (handler : Option HelperRequest) (hhandler : handler = t.handler ∨ handler = none) :
      Signs helper t ({ t with handler := handler }.notifyError (.ofCode .BAD_REQUEST)).1
  | ran (request : HelperRequest) (run : HandlerRun SignHelperReply) (hrun : helper = some run)
      (hsign : t.Signable) (hrequest : t.signRequest P = some request) :
      Signs helper t (t.runHandler request run).1
  | refused (request : HelperRequest) (run : HandlerRun SignHelperReply) (hrun : helper = some run)
      (hsign : t.Signable) (hrequest : t.signRequest P = some request) :
      Signs helper t ((t.runHandler request run).1.notifyError (.ofCode .BAD_REQUEST)).1

/-- **What signing does to a signer.** -/
theorem signs_doSign (helper : Option (HandlerRun SignHelperReply)) (s : Signer) :
    ∃ browserData serverChallenges,
      Signs P helper { s with browserData := browserData, serverChallenges := serverChallenges }
        (s.doSign P helper).1 := by
  obtain ⟨browserData, serverChallenges, hdata⟩ := s.createBrowserData_eq P s.signChallenges
  refine ⟨browserData, serverChallenges, ?_⟩
  have hvalues : (s.createBrowserData P s.signChallenges).1 = true →
      ∀ c ∈ s.signChallenges, truthy (c.challengeOr s.defaultChallenge) = true :=
    createBrowserData_eq_true P
  unfold doSign
  generalize s.createBrowserData P s.signChallenges = result at *
  obtain ⟨created, t⟩ := result
  dsimp only at hdata hvalues
  rw [← hdata]
  cases created with
  | false => exact .failed t.handler (.inl rfl)
  | true =>
      dsimp only
      split
      · exact .threw
      · exact .failed none (.inr rfl)
      · rename_i request run hrequest
        have hsign : t.Signable := by
          intro c hc
          obtain ⟨_, -, appId, happId, -⟩ :=
            Traverse.exists_of_forall₂_left (signRequest_encodes P hrequest).1 hc
          refine ⟨?_, by simp [happId]⟩
          subst hdata
          exact hvalues rfl c hc
        split
        · exact .ran request run rfl hsign hrequest
        · exact .refused request run rfl hsign hrequest

end Signer

end U2F
