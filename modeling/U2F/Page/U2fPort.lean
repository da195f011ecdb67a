/-
**The port of a page.**

The calls `u2f.sendSignRequest`, `u2f.sendRegisterRequest` and `u2f.getApiVersion` share one port.  A call
that is made before the port is there waits in a list, which is drained when the port becomes ready;
a call that is posted draws a number, under which its callback is kept until a response with this
number arrives.

The calls of a run are numbered in the order in which they are made, and a callback is the number of its
call.  What the code of the page does inside a callback is in the event that runs it.

Main definitions:

* `PageApi.PagePort`, `PageApi.PagePort.machine` — the state, with what has been posted and called;
* `PageApi.PagePort.Inv` — the invariant: the call with number `n` has the request id `n + 1`.

Main results:

* `PageApi.PagePort.inv_exec` — the invariant holds after every run;
* `PageApi.PagePort.routed` — **every response goes to its own caller**.
-/

import Mathlib.Data.List.Nodup
import U2F.Lib.Machine
import U2F.Page.U2fApi

set_option relaxedAutoImplicit false
set_option autoImplicit false

namespace U2F

namespace PageApi

/-! ### Calls and messages -/

/-- A call of the page, with its arguments but the callback. -/
inductive ApiCall
  | sendSignRequest (appId challenge : Option JSString) (registeredKeys : List RegisteredKey)
      (opt_timeoutSeconds : Option ℚ)
  | sendRegisterRequest (appId : Option JSString) (registerRequests : List EnrollChallenge)
      (registeredKeys : List RegisteredKey) (opt_timeoutSeconds : Option ℚ)
  | getApiVersion (opt_timeoutSeconds : Option ℚ)

/-- A message that is posted. -/
inductive Message
  | request (request : U2fRequest)
  | getApiVersion (timeoutSeconds : ℚ) (requestId : ℤ)

def Message.requestId : Message → Option ℤ
  | .request r => r.requestId
  | .getApiVersion _ requestId => some requestId

/-- Default extension response timeout in seconds. -/
def EXTENSION_TIMEOUT_SEC : ℚ := 30

/-- The message of a call, once it has a request id. -/
def ApiCall.message (js_api_version : Option ℚ) (reqId : ℕ) : ApiCall → Message
  | sendSignRequest appId challenge registeredKeys opt_timeoutSeconds =>
      .request (formatSignRequest js_api_version appId challenge registeredKeys
        (opt_timeoutSeconds.getD EXTENSION_TIMEOUT_SEC) reqId)
  | sendRegisterRequest appId registerRequests registeredKeys opt_timeoutSeconds =>
      .request (formatRegisterRequest js_api_version appId registeredKeys registerRequests
        (opt_timeoutSeconds.getD EXTENSION_TIMEOUT_SEC) reqId)
  | getApiVersion opt_timeoutSeconds =>
      .getApiVersion (opt_timeoutSeconds.getD EXTENSION_TIMEOUT_SEC) reqId

/-- A property name: the notation of a natural number, or something else. -/
inductive PropertyName
  | number (n : ℕ)
  | name (s : JSString)
  deriving DecidableEq

/-- A response of the extension.  The request id is a property name, and `none` if it is missing or does
not count as true. -/
structure IncomingResponse (Data : Type) where
  requestId : Option PropertyName
  responseData : Data

/-! ### The port -/

/-- The state of the api, and what has happened. -/
structure PagePort (Data : Type) where
  /-- `u2f.port_` is set. -/
  port : Bool
  /-- `u2f.getMessagePort` has been called this many times without an answer so far. -/
  gettingPort : ℕ
  /-- The calls that wait, with their numbers. -/
  waitingForPort : List (ℕ × ApiCall)
  reqCounter : ℕ
  /-- The calls whose callbacks are kept, by their request ids. -/
  callbackMap : List (ℕ × ℕ)
  js_api_version : Option ℚ
  /-- All calls that have been made. -/
  calls : List ApiCall
  /-- The messages that have been posted, with the numbers of their calls. -/
  posted : List (ℕ × Message)
  /-- The callbacks that have been called, with what they were called with. -/
  called : List (ℕ × Data)
  /-- The responses that have arrived at the port. -/
  received : List (IncomingResponse Data)

namespace PagePort

variable {Data : Type}

def start (js_api_version : Option ℚ) : PagePort Data :=
  ⟨false, 0, [], 0, [], js_api_version, [], [], [], []⟩

/-- What a call does with the port: it keeps its callback, and posts its message. -/
def send (s : PagePort Data) (n : ℕ) (call : ApiCall) : PagePort Data :=
  let reqId := s.reqCounter + 1
  { s with
    reqCounter := reqId
    callbackMap := (reqId, n) :: s.callbackMap.filter (·.1 ≠ reqId)
    posted := s.posted ++ [(n, call.message s.js_api_version reqId)] }

/-- Creates or retrieves the port. -/
def getPortSingleton (s : PagePort Data) (n : ℕ) (call : ApiCall) : PagePort Data :=
  if s.port then s.send n call
  else
    { s with
      gettingPort := if s.waitingForPort.isEmpty then s.gettingPort + 1 else s.gettingPort
      waitingForPort := s.waitingForPort ++ [(n, call)] }

/-- The page makes a call. -/
def call (s : PagePort Data) (call : ApiCall) : PagePort Data :=
  { s with calls := s.calls ++ [call] }.getPortSingleton s.calls.length call

/-- The loop over the calls that wait. -/
def drain (s : PagePort Data) : List (ℕ × ApiCall) → PagePort Data
  | [] => { s with waitingForPort := [] }
  | (n, call) :: rest => ({ s with waitingForPort := rest }.send n call).drain rest

/-- `u2f.getMessagePort` answers, if it has been called. -/
def portReady (s : PagePort Data) : PagePort Data :=
  if s.gettingPort = 0 then s
  else
    let s := { s with gettingPort := s.gettingPort - 1, port := true }
    s.drain s.waitingForPort

/-- Handles a response; `inside` is what the page calls inside the callback, if it is called.  A name
that every object inherits is no callback. -/
def responseHandler (s : PagePort Data) (response : IncomingResponse Data) (inside : List ApiCall) :
    PagePort Data :=
  match response.requestId with
  | none | some (.name _) => s
  | some (.number reqId) =>
      match s.callbackMap.lookup reqId with
      | none => s
      | some n =>
          inside.foldl call
            { s with
              callbackMap := s.callbackMap.filter (·.1 ≠ reqId)
              called := s.called ++ [(n, response.responseData)] }

/-- An event of a run. -/
inductive Event (Data : Type)
  | call (call : ApiCall)
  | portReady
  | response (response : IncomingResponse Data) (inside : List ApiCall)
  /-- The version of the extension is learnt. -/
  | versionKnown (js_api_version : ℚ)

/-- A response arrives only where the port is listened to. -/
def handle (s : PagePort Data) : Event Data → PagePort Data
  | .call call => s.call call
  | .portReady => s.portReady
  | .response response inside =>
      if s.port then
        { s with received := s.received ++ [response] }.responseHandler response inside
      else s
  | .versionKnown js_api_version => { s with js_api_version := some js_api_version }

def machine : Machine (PagePort Data) (Event Data) Unit where
  step s e := ((), s.handle e)

/-! ### The invariant -/

/-- **The call with number `n` has the request id `n + 1`**: calls are posted in the order in which they
are made. -/
structure Numbered (s : PagePort Data) : Prop where
  /-- The first calls are posted, the others wait. -/
  posted_calls : s.posted.map (·.1) = List.range s.reqCounter
  waiting_calls : s.waitingForPort.map (·.1) = List.range' s.reqCounter s.waitingForPort.length
  calls_length : s.calls.length = s.reqCounter + s.waitingForPort.length
  waiting_mem : ∀ w ∈ s.waitingForPort, s.calls[w.1]? = some w.2
  posted_mem : ∀ p ∈ s.posted, ∃ call js_api_version,
    s.calls[p.1]? = some call ∧ p.2 = call.message js_api_version (p.1 + 1)
  /-- A callback that is kept has not been called. -/
  kept : ∀ k ∈ s.callbackMap, k.1 = k.2 + 1 ∧ k.2 < s.reqCounter ∧ k.2 ∉ s.called.map (·.1)
  called_once : (s.called.map (·.1)).Nodup
  called_lt : ∀ c ∈ s.called, c.1 < s.reqCounter
  called_mem : ∀ c ∈ s.called, ⟨some (.number (c.1 + 1)), c.2⟩ ∈ s.received

/-- Without a port nothing is posted, and with it nothing waits.  The port is asked for once. -/
structure Inv (s : PagePort Data) : Prop extends Numbered s where
  ready : s.port = true → s.waitingForPort = [] ∧ s.gettingPort = 0
  getting : s.port = false →
    s.reqCounter = 0 ∧ s.gettingPort = if s.waitingForPort.isEmpty then 0 else 1

theorem inv_start (js_api_version : Option ℚ) : (start js_api_version : PagePort Data).Inv := by
  refine ⟨⟨rfl, rfl, rfl, ?_, ?_, ?_, List.nodup_nil, ?_, ?_⟩, ?_, fun _ => ⟨rfl, rfl⟩⟩
  case refine_6 =>
    intro hport
    cases hport
  all_goals
    intro x hx
    cases hx

/-- A call that is made waits, after all others. -/
theorem Numbered.enqueue {s : PagePort Data} (h : s.Numbered) (call : ApiCall) (gettingPort : ℕ) :
    { s with
      calls := s.calls ++ [call]
      gettingPort := gettingPort
      waitingForPort := s.waitingForPort ++ [(s.calls.length, call)] }.Numbered := by
  have hkeep : ∀ {n : ℕ} {c : ApiCall}, s.calls[n]? = some c →
      (s.calls ++ [call])[n]? = some c := by
    intro n c hn
    obtain ⟨hlt, -⟩ := List.getElem?_eq_some_iff.1 hn
    rw [List.getElem?_append_left hlt, hn]
  refine ⟨h.posted_calls, ?_, ?_, ?_, ?_, h.kept, h.called_once, h.called_lt, h.called_mem⟩
  · rw [List.map_append, h.waiting_calls, List.length_append, List.length_singleton,
      List.range'_concat]
    simp [h.calls_length]
  · simp only [List.length_append, List.length_singleton, h.calls_length]
    omega
  · intro w hw
    rcases List.mem_append.1 hw with hw | hw
    · exact hkeep (h.waiting_mem w hw)
    · obtain rfl := List.mem_singleton.1 hw
      simp
  · intro p hp
    obtain ⟨c, v, hc, hmessage⟩ := h.posted_mem p hp
    exact ⟨c, v, hkeep hc, hmessage⟩

/-- **The first call that waits is sent with the next request id.** -/
theorem Numbered.send {s : PagePort Data} (h : s.Numbered) {n : ℕ} {call : ApiCall}
    {rest : List (ℕ × ApiCall)} (hwaiting : s.waitingForPort = (n, call) :: rest) :
    ({ s with waitingForPort := rest }.send n call).Numbered := by
  have hcalls := h.waiting_calls
  rw [hwaiting, List.map_cons, List.length_cons, List.range'_succ] at hcalls
  obtain ⟨hn, hrest⟩ := List.cons.inj hcalls
  have hn : n = s.reqCounter := hn
  have hlength := h.calls_length
  rw [hwaiting, List.length_cons] at hlength
  refine ⟨?_, hrest, ?_, ?_, ?_, ?_, h.called_once, ?_, h.called_mem⟩
  · change (s.posted ++ [(n, _)]).map Prod.fst = List.range (s.reqCounter + 1)
    rw [List.map_append, h.posted_calls, List.range_succ, hn]
    rfl
  · change s.calls.length = s.reqCounter + 1 + rest.length
    omega
  · intro w hw
    refine h.waiting_mem w ?_
    rw [hwaiting]
    exact List.mem_cons_of_mem _ hw
  · intro p hp
    rcases List.mem_append.1 hp with hp | hp
    · exact h.posted_mem p hp
    · obtain rfl := List.mem_singleton.1 hp
      refine ⟨call, s.js_api_version, ?_, ?_⟩
      · exact h.waiting_mem (n, call) (by rw [hwaiting]; exact List.mem_cons_self)
      · rw [hn]
  · intro k hk
    rcases List.mem_cons.1 hk with rfl | hk
    · refine ⟨by rw [hn], by rw [hn]; exact Nat.lt_succ_self _, ?_⟩
      intro hmem
      obtain ⟨c, hc, heq⟩ := List.mem_map.1 hmem
      have hlt := h.called_lt c hc
      rw [heq, hn] at hlt
      exact Nat.lt_irrefl _ hlt
    · obtain ⟨hid, hlt, hmem⟩ := h.kept k (List.mem_of_mem_filter hk)
      exact ⟨hid, Nat.lt_succ_of_lt hlt, hmem⟩
  · intro c hc
    exact Nat.lt_succ_of_lt (h.called_lt c hc)

/-- **The loop sends all calls that wait.** -/
theorem Numbered.drain {s : PagePort Data} (h : s.Numbered) {waiting : List (ℕ × ApiCall)}
    (hwaiting : s.waitingForPort = waiting) :
    (s.drain waiting).Numbered ∧ (s.drain waiting).waitingForPort = [] ∧
      (s.drain waiting).port = s.port ∧ (s.drain waiting).gettingPort = s.gettingPort := by
  induction waiting generalizing s with
  | nil =>
      have hs : s.drain [] = s := by
        rw [PagePort.drain, ← hwaiting]
      rw [hs]
      exact ⟨h, hwaiting, rfl, rfl⟩
  | cons w rest ih => exact ih (h.send hwaiting) rfl

theorem Inv.call {s : PagePort Data} (h : s.Inv) (call : ApiCall) : (s.call call).Inv := by
  have henqueue := h.toNumbered.enqueue call
  unfold PagePort.call getPortSingleton
  by_cases hport : s.port = true
  · obtain ⟨hwaiting, hgetting⟩ := h.ready hport
    rw [if_pos hport]
    -- a call that is sent at once is one that waits, and is then sent
    have hwaits : s.waitingForPort ++ [(s.calls.length, call)] = (s.calls.length, call) :: [] := by
      rw [hwaiting]
      rfl
    have hsent := (henqueue s.gettingPort).send hwaits
    refine ⟨?_, fun _ => ⟨hwaiting, hgetting⟩, fun hnot => ?_⟩
    · rw [← hwaiting] at hsent
      exact hsent
    · exact absurd hport (by rw [show s.port = false from hnot]; exact Bool.false_ne_true)
  · rw [if_neg hport]
    obtain ⟨hcounter, hgetting⟩ := h.getting (by simpa using hport)
    refine ⟨henqueue _, fun hnot => absurd hnot hport, fun _ => ⟨hcounter, ?_⟩⟩
    dsimp only
    rw [hgetting]
    cases s.waitingForPort with
    | nil => rfl
    | cons w rest => rfl

theorem Inv.foldl_call {s : PagePort Data} (h : s.Inv) (inside : List ApiCall) :
    (inside.foldl PagePort.call s).Inv := by
  induction inside generalizing s with
  | nil => exact h
  | cons call inside ih => exact ih (h.call call)

theorem Inv.portReady {s : PagePort Data} (h : s.Inv) : s.portReady.Inv := by
  unfold PagePort.portReady
  split
  case isTrue => exact h
  case isFalse hgetting =>
    have hport : s.port = false := by
      by_contra hport
      exact hgetting (h.ready (by simpa using hport)).2
    obtain ⟨hcounter, hone⟩ := h.getting hport
    have hle : s.gettingPort = 1 := by
      rw [hone] at hgetting ⊢
      split at hgetting
      · exact absurd rfl hgetting
      · rename_i hempty
        rw [if_neg hempty]
    have hs : { s with gettingPort := s.gettingPort - 1, port := true }.Numbered :=
      ⟨h.posted_calls, h.waiting_calls, h.calls_length, h.waiting_mem, h.posted_mem, h.kept,
        h.called_once, h.called_lt, h.called_mem⟩
    obtain ⟨hdrain, hwaiting, hport', hgetting'⟩ := hs.drain rfl
    refine ⟨hdrain, fun _ => ⟨hwaiting, hgetting'.trans ?_⟩, fun hnot => ?_⟩
    · rw [hle]
    · rw [hport'] at hnot
      cases hnot

theorem Inv.responseHandler {s : PagePort Data} (h : s.Inv) {response : IncomingResponse Data}
    (hreceived : response ∈ s.received) (inside : List ApiCall) :
    (s.responseHandler response inside).Inv := by
  obtain ⟨requestId, responseData⟩ := response
  rcases requestId with _ | ⟨reqId⟩ | ⟨name⟩
  · exact h
  · rcases hlookup : s.callbackMap.lookup reqId with _ | n
    · simp only [PagePort.responseHandler, hlookup]
      exact h
    · simp only [PagePort.responseHandler, hlookup]
      obtain ⟨before, after, hmap, -⟩ := List.lookup_eq_some_iff.1 hlookup
      obtain ⟨hid, hlt, hnew⟩ := h.kept (reqId, n) (by rw [hmap]; simp)
      have hid : reqId = n + 1 := hid
      refine Inv.foldl_call ?_ inside
      refine ⟨⟨h.posted_calls, h.waiting_calls, h.calls_length, h.waiting_mem, h.posted_mem, ?_, ?_,
        ?_, ?_⟩, h.ready, h.getting⟩
      · intro k hk
        obtain ⟨hk, hother⟩ := List.mem_filter.1 hk
        obtain ⟨hkid, hklt, hknew⟩ := h.kept k hk
        refine ⟨hkid, hklt, ?_⟩
        rw [List.map_append, List.mem_append]
        rintro (hmem | hmem)
        · exact hknew hmem
        · -- the other callbacks have other request ids
          have hsame : k.2 = n := List.mem_singleton.1 hmem
          exact of_decide_eq_true hother (by rw [hkid, hsame, hid])
      · rw [List.map_append, List.nodup_append]
        refine ⟨h.called_once, List.nodup_singleton n, ?_⟩
        rintro a ha b hb rfl
        obtain rfl := List.mem_singleton.1 hb
        exact hnew ha
      · intro c hc
        rcases List.mem_append.1 hc with hc | hc
        · exact h.called_lt c hc
        · rw [List.mem_singleton.1 hc]
          exact hlt
      · intro c hc
        rcases List.mem_append.1 hc with hc | hc
        · exact h.called_mem c hc
        · rw [List.mem_singleton.1 hc]
          rwa [hid] at hreceived
  · exact h

/-- **The invariant is kept by every event.** -/
theorem Inv.next {s : PagePort Data} (h : s.Inv) (e : Event Data) : (machine.next s e).Inv := by
  change (s.handle e).Inv
  cases e with
  | call call => exact h.call call
  | portReady => exact h.portReady
  | response response inside =>
      rw [handle]
      split
      case isTrue =>
        refine Inv.responseHandler (s := { s with received := s.received ++ [response] }) ?_ (by simp)
          inside
        refine ⟨⟨h.posted_calls, h.waiting_calls, h.calls_length, h.waiting_mem, h.posted_mem, h.kept,
          h.called_once, h.called_lt, ?_⟩, h.ready, h.getting⟩
        intro c hc
        exact List.mem_append_left _ (h.called_mem c hc)
      case isFalse => exact h
  | versionKnown js_api_version =>
      exact ⟨⟨h.posted_calls, h.waiting_calls, h.calls_length, h.waiting_mem, h.posted_mem, h.kept,
        h.called_once, h.called_lt, h.called_mem⟩, h.ready, h.getting⟩

theorem inv_exec (js_api_version : Option ℚ) (es : List (Event Data)) :
    (machine.exec (start js_api_version) es).Inv :=
  Machine.exec_invariant' (fun _ e hs => hs.next e) es (inv_start js_api_version)

/-! ### What a run posts and calls -/

theorem requestId_message (call : ApiCall) (js_api_version : Option ℚ) (reqId : ℕ) :
    (call.message js_api_version reqId).requestId = some (reqId : ℤ) := by
  cases call with
  | sendSignRequest appId challenge registeredKeys opt_timeoutSeconds =>
      simp only [ApiCall.message, Message.requestId, formatSignRequest]
      split
      · rfl
      · rfl
  | sendRegisterRequest appId registerRequests registeredKeys opt_timeoutSeconds =>
      simp only [ApiCall.message, Message.requestId, formatRegisterRequest]
      split
      · rfl
      · rfl
  | getApiVersion opt_timeoutSeconds => rfl

/-- **Every response goes to its own caller**, after every run.  Once there is a port, every call has
posted one message, in the order of the calls; before that, none has.  The message is that of the
call, with a request id that no other message has.  A callback is called at most once, and then with the
data of a response that carries the request id of its call. -/
theorem routed (js_api_version : Option ℚ) (es : List (Event Data)) :
    let s := machine.exec (start js_api_version) es
    (s.port = true → s.posted.map (·.1) = List.range s.calls.length) ∧
    (s.port = false → s.posted = []) ∧
    (∀ p ∈ s.posted, ∃ call version reqId, s.calls[p.1]? = some call ∧
      p.2 = call.message version reqId) ∧
    (s.posted.map (·.2.requestId)).Nodup ∧
    (s.called.map (·.1)).Nodup ∧
    ∀ c ∈ s.called, ∃ (message : Message) (reqId : ℕ), (c.1, message) ∈ s.posted ∧
      message.requestId = some (reqId : ℤ) ∧ ⟨some (.number reqId), c.2⟩ ∈ s.received := by
  intro s
  have h : s.Inv := inv_exec js_api_version es
  have hid : ∀ p ∈ s.posted, p.2.requestId = some ((p.1 + 1 : ℕ) : ℤ) := by
    intro p hp
    obtain ⟨call, version, -, hmessage⟩ := h.posted_mem p hp
    rw [hmessage, requestId_message]
  refine ⟨?_, ?_, ?_, ?_, h.called_once, ?_⟩
  · intro hport
    rw [h.posted_calls, h.calls_length, (h.ready hport).1, List.length_nil, Nat.add_zero]
  · intro hport
    have hposted := h.posted_calls
    rw [(h.getting hport).1] at hposted
    exact List.map_eq_nil_iff.1 hposted
  · intro p hp
    obtain ⟨call, version, hcall, hmessage⟩ := h.posted_mem p hp
    exact ⟨call, version, _, hcall, hmessage⟩
  · have hids : s.posted.map (·.2.requestId) =
        (List.range s.reqCounter).map fun n => some ((n + 1 : ℕ) : ℤ) := by
      rw [← h.posted_calls, List.map_map]
      exact List.map_congr_left hid
    rw [hids]
    refine List.Nodup.map ?_ List.nodup_range
    intro n m heq
    have heq := Option.some.inj heq
    omega
  · intro c hc
    have hmem : c.1 ∈ s.posted.map (·.1) := by
      rw [h.posted_calls]
      exact List.mem_range.2 (h.called_lt c hc)
    obtain ⟨p, hp, heq⟩ := List.mem_map.1 hmem
    refine ⟨p.2, c.1 + 1, ?_, ?_, h.called_mem c hc⟩
    · rw [← heq]
      exact hp
    · rw [hid p hp, heq]

end PagePort

end PageApi

end U2F
