/-
**Pages and the background of the extension.**

A page posts its messages at a port that connects it to the background of the extension, and the
background gives each message to a request handler, together with a callback that posts the response
at the same port, under the request id of the message.  The response to a register request is posted
only if the tab of the page is in the foreground, which is found out later.  The messages of a port
arrive in the order in which they are posted; otherwise the pages, their ports and the handlers take
their steps in any order, and a handler may call its callback at any time and any number of times.

Main definitions:

* `PageApi.Background`, `PageApi.Background.machine` — the pages, the messages under way, and the
  background, with what the handlers have responded;
* `PageApi.Background.Sent` — a response carries what a handler has responded to a message of the page;
* `PageApi.Background.Handled` — the invariant.

Main results:

* `PageApi.Background.Handled.next`, `PageApi.Background.NoneLost.next` — the step lemmas;
* `PageApi.Background.answers_routed` — **every answer gets to the call that it is for**, once.
-/

import U2F.Page.U2fPort

set_option relaxedAutoImplicit false
set_option autoImplicit false

namespace U2F

namespace PageApi

/-! ### The code -/

/-- `isRegisterRequest` -/
def Message.isRegisterRequest : Message → Bool
  | .request r => r.type = js "u2f_register_request"
  | .getApiVersion _ _ => false

/-- The request id of a response, as the page looks at it. -/
def propertyName : Option ℤ → Option PropertyName
  | none | some (.ofNat 0) => none
  | some (.ofNat (n + 1)) => some (.number (n + 1))
  | some (.negSucc n) => some (.name (js (toString (Int.negSucc n))))

/-- Pages with their ports, by names, and the background of the extension. -/
structure Background (ι Data : Type) where
  page : ι → PagePort Data
  /-- The port is connected. -/
  connected : ι → Bool
  /-- The messages under way to the background, and to the pages. -/
  toBackground : ι → List Message
  toPage : ι → List (IncomingResponse Data)
  /-- The requests that handlers have been made for, with the ports that they came from. -/
  requests : List (ι × Message)
  /-- The responses that wait for `tabInForeground`, with the numbers of their requests. -/
  checking : List (ℕ × Data)
  /-- The calls of the response callbacks, by the numbers of their requests. -/
  responded : List (ℕ × Data)
  /-- The responses that are not posted: the tab is in the background, or the port is disconnected. -/
  dropped : List (ℕ × Data)

namespace Background

variable {ι Data : Type}

def start (js_api_version : Option ℚ) : Background ι Data where
  page _ := .start js_api_version
  connected _ := true
  toBackground _ := []
  toPage _ := []
  requests := []
  checking := []
  responded := []
  dropped := []

variable [DecidableEq ι]

/-- The page does something; what it posts is on its way. -/
def pageDoes (s : Background ι Data) (i : ι) (page : PagePort Data) : Background ι Data :=
  { s with
    page := Function.update s.page i page
    toBackground := Function.update s.toBackground i
      (s.toBackground i ++ (page.posted.drop (s.page i).posted.length).map (·.2)) }

/-- `messageHandler` is called with the next message of a port. -/
def messageHandler (s : Background ι Data) (i : ι) : Background ι Data :=
  match s.toBackground i with
  | [] => s
  | message :: rest =>
      { s with
        toBackground := Function.update s.toBackground i rest
        requests := s.requests ++ [(i, message)] }

/-- `defaultResponseCallback`; posting at a port that is disconnected throws. -/
def defaultResponseCallback (s : Background ι Data) (k : ℕ) (i : ι) (request : Message)
    (responseData : Data) : Background ι Data :=
  if s.connected i then
    { s with
      toPage := Function.update s.toPage i
        (s.toPage i ++ [⟨propertyName request.requestId, responseData⟩]) }
  else { s with dropped := s.dropped ++ [(k, responseData)] }

/-- The handler of a request calls its response callback. -/
def respond (s : Background ι Data) (k : ℕ) (responseData : Data) : Background ι Data :=
  match s.requests[k]? with
  | none => s
  | some (i, request) =>
      let s := { s with responded := s.responded ++ [(k, responseData)] }
      if request.isRegisterRequest then { s with checking := s.checking ++ [(k, responseData)] }
      else s.defaultResponseCallback k i request responseData

/-- The promise of a `tabInForeground` is resolved. -/
def tabChecked (s : Background ι Data) (j : ℕ) (inForeground : Bool) : Background ι Data :=
  match s.checking[j]? with
  | none => s
  | some (k, responseData) =>
      let s := { s with checking := s.checking.eraseIdx j }
      match s.requests[k]? with
      | none => s
      | some (i, request) =>
          if inForeground then s.defaultResponseCallback k i request responseData
          else { s with dropped := s.dropped ++ [(k, responseData)] }

/-- The next response arrives at a page; `inside` is what the page calls inside the callback. -/
def deliver (s : Background ι Data) (i : ι) (inside : List ApiCall) : Background ι Data :=
  match s.toPage i with
  | [] => s
  | response :: rest =>
      { s with toPage := Function.update s.toPage i rest }.pageDoes i
        ((s.page i).handle (.response response inside))

/-- An event of a run. -/
inductive Event (ι Data : Type)
  | call (i : ι) (call : ApiCall)
  | portReady (i : ι)
  | versionKnown (i : ι) (js_api_version : ℚ)
  | message (i : ι)
  | respond (k : ℕ) (responseData : Data)
  | tabChecked (j : ℕ) (inForeground : Bool)
  | deliver (i : ι) (inside : List ApiCall)
  | disconnect (i : ι)

def handle (s : Background ι Data) : Event ι Data → Background ι Data
  | .call i call => s.pageDoes i ((s.page i).handle (.call call))
  | .portReady i => s.pageDoes i ((s.page i).handle .portReady)
  | .versionKnown i version => s.pageDoes i ((s.page i).handle (.versionKnown version))
  | .message i => s.messageHandler i
  | .respond k responseData => s.respond k responseData
  | .tabChecked j inForeground => s.tabChecked j inForeground
  | .deliver i inside => s.deliver i inside
  | .disconnect i => { s with connected := Function.update s.connected i false }

def machine : Machine (Background ι Data) (Event ι Data) Unit where
  step s e := ((), s.handle e)

end Background

/-! ### What a page keeps -/

namespace PagePort

variable {Data : Type}

/-- The callback of a call that is posted is kept, or has been called. -/
def Keeps (s : PagePort Data) : Prop :=
  ∀ n < s.reqCounter, (n + 1, n) ∈ s.callbackMap ∨ n ∈ s.called.map (·.1)

/-- More has been posted and called, and nothing has arrived. -/
structure Continues (s t : PagePort Data) : Prop where
  keeps : t.Keeps
  posted : s.posted <+: t.posted
  called : s.called <+: t.called
  received : t.received = s.received

theorem Continues.trans {s t u : PagePort Data} (h : s.Continues t) (h' : t.Continues u) :
    s.Continues u :=
  ⟨h'.keeps, h.posted.trans h'.posted, h.called.trans h'.called, h'.received.trans h.received⟩

theorem Keeps.continues {s : PagePort Data} (h : s.Keeps) : s.Continues s :=
  ⟨h, List.prefix_refl _, List.prefix_refl _, rfl⟩

theorem Keeps.send {s : PagePort Data} (h : s.Keeps) (call : ApiCall) :
    s.Continues (s.send s.reqCounter call) := by
  refine ⟨fun n hn => ?_, List.prefix_append _ _, List.prefix_refl _, rfl⟩
  rcases Nat.lt_succ_iff_lt_or_eq.1 hn with hlt | rfl
  · refine (h n hlt).imp (fun hmem => List.mem_cons_of_mem _ (List.mem_filter.2 ⟨hmem, ?_⟩)) id
    exact decide_eq_true (by dsimp only; omega)
  · exact .inl List.mem_cons_self

theorem Keeps.drain {s : PagePort Data} (h : s.Keeps) (hs : s.Numbered)
    {waiting : List (ℕ × ApiCall)} (hwaiting : s.waitingForPort = waiting) :
    s.Continues (s.drain waiting) := by
  induction waiting generalizing s with
  | nil => exact ⟨h, List.prefix_refl _, List.prefix_refl _, rfl⟩
  | cons w rest ih =>
      obtain ⟨n, call⟩ := w
      have hcalls := hs.waiting_calls
      rw [hwaiting, List.map_cons, List.length_cons, List.range'_succ] at hcalls
      obtain rfl : n = s.reqCounter := (List.cons.inj hcalls).1
      let t : PagePort Data := { s with waitingForPort := rest }
      have ht : t.Keeps := h
      obtain ⟨hkeeps, hposted, hcalled, hreceived⟩ := ht.send call
      exact Continues.trans ⟨hkeeps, hposted, hcalled, hreceived⟩
        (ih hkeeps (hs.send hwaiting) rfl)

theorem Keeps.call {s : PagePort Data} (h : s.Keeps) (hs : s.Inv) (call : ApiCall) :
    s.Continues (s.call call) := by
  rw [PagePort.call, getPortSingleton]
  split
  case isTrue hport =>
    let t : PagePort Data := { s with calls := s.calls ++ [call] }
    have ht : t.Keeps := h
    have hlength : s.calls.length = t.reqCounter := by
      rw [hs.calls_length, (hs.ready hport).1, List.length_nil, Nat.add_zero]
    rw [hlength]
    obtain ⟨hkeeps, hposted, hcalled, hreceived⟩ := ht.send call
    exact ⟨hkeeps, hposted, hcalled, hreceived⟩
  case isFalse => exact ⟨h, List.prefix_refl _, List.prefix_refl _, rfl⟩

theorem Keeps.foldl_call {s : PagePort Data} (h : s.Keeps) (hs : s.Inv) (inside : List ApiCall) :
    s.Continues (inside.foldl PagePort.call s) := by
  induction inside generalizing s with
  | nil => exact h.continues
  | cons call inside ih => exact (h.call hs call).trans (ih (h.call hs call).keeps (hs.call call))

theorem Keeps.portReady {s : PagePort Data} (h : s.Keeps) (hs : s.Inv) :
    s.Continues s.portReady := by
  rw [PagePort.portReady]
  split
  case isTrue => exact h.continues
  case isFalse =>
    let t : PagePort Data := { s with gettingPort := s.gettingPort - 1, port := true }
    have ht : t.Keeps := h
    have hnumbered : t.Numbered :=
      ⟨hs.posted_calls, hs.waiting_calls, hs.calls_length, hs.waiting_mem, hs.posted_mem, hs.kept,
        hs.called_once, hs.called_lt, hs.called_mem⟩
    obtain ⟨hkeeps, hposted, hcalled, hreceived⟩ := ht.drain hnumbered rfl
    exact ⟨hkeeps, hposted, hcalled, hreceived⟩

/-- The callback that a response is for is called, unless it has been called before. -/
theorem Keeps.responseHandler {s : PagePort Data} (h : s.Keeps) (hs : s.Inv)
    {response : IncomingResponse Data} (hreceived : response ∈ s.received)
    (inside : List ApiCall) :
    s.Continues (s.responseHandler response inside) ∧
      ∀ n < s.reqCounter, response.requestId = some (.number (n + 1)) →
        n ∈ (s.responseHandler response inside).called.map (·.1) := by
  obtain ⟨requestId, responseData⟩ := response
  rcases requestId with _ | ⟨reqId⟩ | ⟨name⟩
  · refine ⟨h.continues, fun n _ hid => ?_⟩
    cases hid
  · rcases hlookup : s.callbackMap.lookup reqId with _ | m
    · simp only [PagePort.responseHandler, hlookup]
      refine ⟨h.continues, fun n hn hid => ?_⟩
      obtain rfl := PropertyName.number.inj (Option.some.inj hid)
      refine (h n hn).resolve_left fun hmem => ?_
      have hnone := List.lookup_eq_none_iff.1 hlookup (n + 1, n) hmem
      simp at hnone
    · -- the call that is looked up is the one with the request id
      obtain ⟨before, after, hmap, -⟩ := List.lookup_eq_some_iff.1 hlookup
      obtain ⟨hid, -⟩ := hs.kept (reqId, m) (by rw [hmap]; simp)
      obtain rfl : reqId = m + 1 := hid
      let t : PagePort Data := { s with
        callbackMap := s.callbackMap.filter (·.1 ≠ m + 1)
        called := s.called ++ [(m, responseData)] }
      have hinv : t.Inv := by
        have hall := hs.responseHandler hreceived []
        simp only [PagePort.responseHandler, hlookup] at hall
        exact hall
      have hkeeps : t.Keeps := by
        intro n hn
        by_cases hnm : n = m
        · subst hnm
          exact .inr (by simp [t])
        · refine (h n hn).imp (fun hmem => List.mem_filter.2 ⟨hmem, ?_⟩) fun hmem => ?_
          · exact decide_eq_true (by dsimp only; omega)
          · rw [List.map_append]
            exact List.mem_append_left _ hmem
      obtain ⟨hkeeps', hposted, hcalled, hsame⟩ := hkeeps.foldl_call hinv inside
      simp only [PagePort.responseHandler, hlookup]
      refine ⟨⟨hkeeps', hposted, (List.prefix_append _ _).trans hcalled, hsame⟩, fun n hn hid => ?_⟩
      obtain rfl : n = m := Nat.succ_injective (PropertyName.number.inj (Option.some.inj hid)).symm
      exact List.map_subset _ hcalled.subset (by simp [t])
  · refine ⟨h.continues, fun n _ hid => ?_⟩
    cases hid

/-- A response arrives. -/
theorem Keeps.response {s : PagePort Data} (h : s.Keeps) (hs : s.Inv)
    (response : IncomingResponse Data) (inside : List ApiCall) :
    (s.handle (.response response inside)).Keeps ∧
      s.posted <+: (s.handle (.response response inside)).posted ∧
      s.called <+: (s.handle (.response response inside)).called ∧
      (∀ r ∈ (s.handle (.response response inside)).received, r ∈ s.received ∨ r = response) ∧
      (s.port = true → ∀ n < s.reqCounter, response.requestId = some (.number (n + 1)) →
        n ∈ (s.handle (.response response inside)).called.map (·.1)) := by
  rw [handle]
  split
  case isTrue hport =>
    let t : PagePort Data := { s with received := s.received ++ [response] }
    have hinv : t.Inv :=
      ⟨⟨hs.posted_calls, hs.waiting_calls, hs.calls_length, hs.waiting_mem, hs.posted_mem, hs.kept,
        hs.called_once, hs.called_lt, fun c hc => List.mem_append_left _ (hs.called_mem c hc)⟩,
        hs.ready, hs.getting⟩
    have hkeeps : t.Keeps := h
    obtain ⟨⟨hkeeps', hposted, hcalled, hreceived⟩, hcalls⟩ :=
      hkeeps.responseHandler hinv (List.mem_append_right _ (List.mem_singleton_self response)) inside
    refine ⟨hkeeps', hposted, hcalled, fun r hr => ?_, fun _ => hcalls⟩
    rw [hreceived] at hr
    exact (List.mem_append.1 hr).imp id List.mem_singleton.1
  case isFalse hport =>
    exact ⟨h, List.prefix_refl _, List.prefix_refl _, fun r hr => .inl hr,
      fun hport' => absurd hport' hport⟩

/-- The message of a call has the number of the call in its request id. -/
theorem Inv.posted_spec {s : PagePort Data} (h : s.Inv) {n : ℕ} {message : Message}
    (hmem : (n, message) ∈ s.posted) :
    n < s.reqCounter ∧ propertyName message.requestId = some (.number (n + 1)) ∧
      s.port = true := by
  have hlt : n < s.reqCounter := by
    have hn : n ∈ s.posted.map (·.1) := List.mem_map_of_mem hmem
    rw [h.posted_calls] at hn
    exact List.mem_range.1 hn
  refine ⟨hlt, ?_, ?_⟩
  · obtain ⟨call, version, -, hmessage⟩ := h.posted_mem _ hmem
    rw [show message = call.message version (n + 1) from hmessage, requestId_message]
    rfl
  · by_contra hport
    rw [(h.getting (by simpa using hport)).1] at hlt
    exact Nat.not_lt_zero n hlt

/-- Different messages are of different calls. -/
theorem Inv.posted_inj {s : PagePort Data} (h : s.Inv) {n m : ℕ} {message : Message}
    (hn : (n, message) ∈ s.posted) (hm : (m, message) ∈ s.posted) : n = m := by
  have hid := (h.posted_spec hn).2.1.symm.trans (h.posted_spec hm).2.1
  exact Nat.succ_injective (PropertyName.number.inj (Option.some.inj hid))

end PagePort

/-! ### The invariant -/

namespace Background

variable {ι Data : Type} [DecidableEq ι]

/-- The messages that the page `i` has posted and that have arrived. -/
def arrived (s : Background ι Data) (i : ι) : List Message :=
  s.requests.filterMap fun r => if r.1 = i then some r.2 else none

/-- **The response carries what a handler has responded to a message of the page.** -/
def Sent (s : Background ι Data) (i : ι) (response : IncomingResponse Data) : Prop :=
  ∃ k message, s.requests[k]? = some (i, message) ∧ (k, response.responseData) ∈ s.responded ∧
    response.requestId = propertyName message.requestId

/-- **The invariant.** -/
structure Handled (s : Background ι Data) : Prop where
  page : ∀ i, (s.page i).Inv
  keeps : ∀ i, (s.page i).Keeps
  /-- The messages arrive in the order in which they are posted, and none is lost. -/
  posted : ∀ i, (s.page i).posted.map (·.2) = s.arrived i ++ s.toBackground i
  responded : ∀ c ∈ s.responded, c.1 < s.requests.length
  checking : ∀ c ∈ s.checking, c ∈ s.responded ∧
    ∃ r, s.requests[c.1]? = some r ∧ r.2.isRegisterRequest
  dropped : ∀ c ∈ s.dropped, ∃ r, s.requests[c.1]? = some r ∧
    (r.2.isRegisterRequest ∨ s.connected r.1 = false)
  underWay : ∀ i, ∀ response ∈ s.toPage i, s.Sent i response
  received : ∀ i, ∀ response ∈ (s.page i).received, s.Sent i response

theorem handled_start (js_api_version : Option ℚ) :
    (start js_api_version : Background ι Data).Handled where
  page _ := PagePort.inv_start js_api_version
  keeps _ n hn := absurd hn (Nat.not_lt_zero n)
  posted _ := rfl
  responded := nofun
  checking := nofun
  dropped := nofun
  underWay _ := nofun
  received _ := nofun

theorem getElem?_of_extends {α : Type} {xs ys : List α} (h : xs <+: ys) {k : ℕ} {x : α}
    (hk : xs[k]? = some x) : ys[k]? = some x := by
  obtain ⟨zs, rfl⟩ := h
  rw [List.getElem?_append_left (List.getElem?_eq_some_iff.1 hk).1, hk]

omit [DecidableEq ι] in
/-- What has been responded stays so. -/
theorem Sent.mono {s t : Background ι Data} {i : ι} {response : IncomingResponse Data}
    (h : s.Sent i response) (hrequests : s.requests <+: t.requests)
    (hresponded : s.responded ⊆ t.responded) : t.Sent i response := by
  obtain ⟨k, message, hk, hd, hid⟩ := h
  exact ⟨k, message, getElem?_of_extends hrequests hk, hresponded hd, hid⟩

/-- The page does something. -/
theorem Handled.pageDoes {s : Background ι Data} (h : s.Handled) {i : ι} {page : PagePort Data}
    (hinv : page.Inv) (hkeeps : page.Keeps) (hposted : (s.page i).posted <+: page.posted)
    (hreceived : ∀ response ∈ page.received, s.Sent i response) : (s.pageDoes i page).Handled := by
  refine ⟨fun j => ?_, fun j => ?_, fun j => ?_, h.responded, h.checking, h.dropped, h.underWay,
    fun j => ?_⟩
  all_goals
    dsimp only [Background.pageDoes]
    by_cases hj : j = i
  · subst hj
    rwa [Function.update_self]
  · rw [Function.update_of_ne hj]
    exact h.page j
  · subst hj
    rwa [Function.update_self]
  · rw [Function.update_of_ne hj]
    exact h.keeps j
  · subst hj
    obtain ⟨more, hmore⟩ := hposted
    rw [Function.update_self, Function.update_self, ← hmore, List.drop_left, List.map_append,
      h.posted, List.append_assoc]
    rfl
  · rw [Function.update_of_ne hj, Function.update_of_ne hj]
    exact h.posted j
  · subst hj
    rwa [Function.update_self]
  · rw [Function.update_of_ne hj]
    exact h.received j

/-- A response is posted for a request. -/
theorem Handled.defaultResponseCallback {s : Background ι Data} (h : s.Handled) {k : ℕ} {i : ι}
    {request : Message} {responseData : Data} (hk : s.requests[k]? = some (i, request))
    (hresponded : (k, responseData) ∈ s.responded) :
    (s.defaultResponseCallback k i request responseData).Handled := by
  rw [Background.defaultResponseCallback]
  split
  · refine ⟨h.page, h.keeps, h.posted, h.responded, h.checking, h.dropped, fun j => ?_, h.received⟩
    dsimp only
    by_cases hj : j = i
    · subst hj
      rw [Function.update_self]
      intro response hresponse
      rcases List.mem_append.1 hresponse with hresponse | hresponse
      · exact h.underWay j response hresponse
      · rw [List.mem_singleton.1 hresponse]
        exact ⟨k, request, hk, hresponded, rfl⟩
    · rw [Function.update_of_ne hj]
      exact h.underWay j
  · rename_i hconnected
    refine ⟨h.page, h.keeps, h.posted, h.responded, h.checking, fun c hc => ?_, h.underWay,
      h.received⟩
    rcases List.mem_append.1 hc with hc | hc
    · exact h.dropped c hc
    · rw [List.mem_singleton.1 hc]
      exact ⟨_, hk, .inr (by simpa using hconnected)⟩

theorem Handled.messageHandler {s : Background ι Data} (h : s.Handled) (i : ι) :
    (s.messageHandler i).Handled := by
  rw [Background.messageHandler]
  split
  · exact h
  · rename_i message rest hqueue
    have hmono : ∀ j response, s.Sent j response →
        Sent { s with
          toBackground := Function.update s.toBackground i rest
          requests := s.requests ++ [(i, message)] } j response := fun j response hsent =>
      hsent.mono (List.prefix_append _ _) (List.Subset.refl _)
    have hprefix : s.requests <+: s.requests ++ [(i, message)] := List.prefix_append _ _
    refine ⟨h.page, h.keeps, fun j => ?_, fun c hc => ?_,
      fun c hc => ⟨(h.checking c hc).1, (h.checking c hc).2.imp fun r hr =>
        ⟨getElem?_of_extends hprefix hr.1, hr.2⟩⟩,
      fun c hc => (h.dropped c hc).imp fun r hr => ⟨getElem?_of_extends hprefix hr.1, hr.2⟩,
      fun j response hr => hmono j response (h.underWay j response hr),
      fun j response hr => hmono j response (h.received j response hr)⟩
    · rw [h.posted]
      dsimp only [arrived]
      rw [List.filterMap_append, List.append_assoc]
      by_cases hj : j = i
      · subst hj
        rw [Function.update_self, hqueue]
        simp
      · rw [Function.update_of_ne hj]
        simp [Ne.symm hj]
    · have hlt := h.responded c hc
      simp only [List.length_append, List.length_singleton]
      omega

theorem Handled.respond {s : Background ι Data} (h : s.Handled) (k : ℕ) (responseData : Data) :
    (s.respond k responseData).Handled := by
  rw [Background.respond]
  split
  · exact h
  · rename_i i request hk
    have hrest : Handled { s with responded := s.responded ++ [(k, responseData)] } := by
      refine ⟨h.page, h.keeps, h.posted, fun c hc => ?_,
        fun c hc => ⟨List.mem_append_left _ (h.checking c hc).1, (h.checking c hc).2⟩, h.dropped,
        fun j response hr => (h.underWay j response hr).mono (List.prefix_refl _)
          (List.subset_append_left _ _),
        fun j response hr => (h.received j response hr).mono (List.prefix_refl _)
          (List.subset_append_left _ _)⟩
      rcases List.mem_append.1 hc with hc | hc
      · exact h.responded c hc
      · rw [List.mem_singleton.1 hc]
        exact (List.getElem?_eq_some_iff.1 hk).1
    dsimp only
    split
    · rename_i hregister
      refine ⟨hrest.page, hrest.keeps, hrest.posted, hrest.responded, fun c hc => ?_, hrest.dropped,
        hrest.underWay, hrest.received⟩
      rcases List.mem_append.1 hc with hc | hc
      · exact hrest.checking c hc
      · rw [List.mem_singleton.1 hc]
        exact ⟨List.mem_append_right _ (List.mem_singleton_self _), _, hk, hregister⟩
    · exact hrest.defaultResponseCallback hk (List.mem_append_right _ (List.mem_singleton_self _))

theorem Handled.tabChecked {s : Background ι Data} (h : s.Handled) (j : ℕ) (inForeground : Bool) :
    (s.tabChecked j inForeground).Handled := by
  rw [Background.tabChecked]
  split
  · exact h
  · rename_i k responseData hj
    have hrest : Handled { s with checking := s.checking.eraseIdx j } :=
      ⟨h.page, h.keeps, h.posted, h.responded,
        fun c hc => h.checking c (List.mem_of_mem_eraseIdx hc), h.dropped, h.underWay, h.received⟩
    obtain ⟨hresponded, r, hr, hregister⟩ := h.checking _ (List.mem_of_getElem? hj)
    dsimp only
    split
    · exact hrest
    · rename_i i request hk
      split
      · exact hrest.defaultResponseCallback hk hresponded
      · refine ⟨hrest.page, hrest.keeps, hrest.posted, hrest.responded, hrest.checking,
          fun c hc => ?_, hrest.underWay, hrest.received⟩
        rcases List.mem_append.1 hc with hc | hc
        · exact hrest.dropped c hc
        · rw [List.mem_singleton.1 hc]
          exact ⟨r, hr, .inl hregister⟩

theorem Handled.deliver {s : Background ι Data} (h : s.Handled) (i : ι) (inside : List ApiCall) :
    (s.deliver i inside).Handled := by
  rw [Background.deliver]
  split
  · exact h
  · rename_i response rest hqueue
    let t : Background ι Data := { s with toPage := Function.update s.toPage i rest }
    have ht : t.Handled := by
      refine ⟨h.page, h.keeps, h.posted, h.responded, h.checking, h.dropped, fun j => ?_, h.received⟩
      dsimp only [t]
      by_cases hj : j = i
      · subst hj
        rw [Function.update_self]
        exact fun r hr => h.underWay j r (by rw [hqueue]; exact List.mem_cons_of_mem _ hr)
      · rw [Function.update_of_ne hj]
        exact h.underWay j
    obtain ⟨hkeeps, hposted, -, hreceived, -⟩ := (h.keeps i).response (h.page i) response inside
    refine ht.pageDoes ((h.page i).next (.response response inside)) hkeeps hposted fun r hr => ?_
    rcases hreceived r hr with hr | rfl
    · exact h.received i r hr
    · exact h.underWay i r (by rw [hqueue]; exact List.mem_cons_self)

/-- **The step lemma.** -/
theorem Handled.next {s : Background ι Data} (h : s.Handled) (e : Event ι Data) :
    (machine.next s e).Handled := by
  cases e with
  | call i call =>
      have hcont := (h.keeps i).call (h.page i) call
      refine h.pageDoes ((h.page i).next (.call call)) hcont.keeps hcont.posted fun r hr => ?_
      rw [PagePort.handle, hcont.received] at hr
      exact h.received i r hr
  | portReady i =>
      have hcont := (h.keeps i).portReady (h.page i)
      refine h.pageDoes ((h.page i).next .portReady) hcont.keeps hcont.posted fun r hr => ?_
      rw [PagePort.handle, hcont.received] at hr
      exact h.received i r hr
  | versionKnown i version =>
      exact h.pageDoes ((h.page i).next (.versionKnown version)) (h.keeps i) (List.prefix_refl _)
        (h.received i)
  | message i => exact h.messageHandler i
  | respond k responseData => exact h.respond k responseData
  | tabChecked j inForeground => exact h.tabChecked j inForeground
  | deliver i inside => exact h.deliver i inside
  | disconnect i =>
      refine ⟨h.page, h.keeps, h.posted, h.responded, h.checking, fun c hc => ?_, h.underWay,
        h.received⟩
      obtain ⟨r, hr, hwhy⟩ := h.dropped c hc
      refine ⟨r, hr, hwhy.imp id fun hconnected => ?_⟩
      dsimp only [machine, Machine.next, handle]
      by_cases hi : r.1 = i
      · rw [hi, Function.update_self]
      · rwa [Function.update_of_ne hi]

/-- A request is a message that the page has posted. -/
theorem Handled.exists_posted {s : Background ι Data} (h : s.Handled) {k : ℕ} {i : ι}
    {message : Message} (hk : s.requests[k]? = some (i, message)) :
    ∃ n, (n, message) ∈ (s.page i).posted := by
  have hmem : message ∈ (s.page i).posted.map (·.2) := by
    rw [h.posted, List.mem_append]
    exact .inl (List.mem_filterMap.2 ⟨_, List.mem_of_getElem? hk, by simp⟩)
  obtain ⟨⟨n, _⟩, hn, rfl⟩ := List.mem_map.1 hmem
  exact ⟨n, hn⟩

/-! ### No answer is lost -/

/-- Where a response to a message of the page `i` has got to. -/
inductive Reached (s : Background ι Data) (k : ℕ) (d : Data) (i : ι) (message : Message) : Prop
  | checking (h : (k, d) ∈ s.checking)
  | dropped (h : (k, d) ∈ s.dropped)
  | underWay (h : ⟨propertyName message.requestId, d⟩ ∈ s.toPage i)
  | called (n : ℕ) (hposted : (n, message) ∈ (s.page i).posted)
      (h : n ∈ (s.page i).called.map (·.1))

/-- What has been responded is on its way to the call that it is for, or has got there. -/
def NoneLost (s : Background ι Data) : Prop :=
  ∀ c ∈ s.responded, ∀ i message, s.requests[c.1]? = some (i, message) →
    s.Reached c.1 c.2 i message

/-- More has been posted and called at the pages, and more is under way. -/
structure Goes (s t : Background ι Data) : Prop where
  dropped : s.dropped ⊆ t.dropped
  toPage : ∀ i, s.toPage i ⊆ t.toPage i
  posted : ∀ i, (s.page i).posted ⊆ (t.page i).posted
  called : ∀ i, (s.page i).called ⊆ (t.page i).called

omit [DecidableEq ι] in
theorem Reached.mono {s t : Background ι Data} {k : ℕ} {d : Data} {i : ι} {message : Message}
    (h : s.Reached k d i message) (hgoes : s.Goes t)
    (hchecking : (k, d) ∈ s.checking → t.Reached k d i message) : t.Reached k d i message := by
  cases h with
  | checking h => exact hchecking h
  | dropped h => exact .dropped (hgoes.dropped h)
  | underWay h => exact .underWay (hgoes.toPage i h)
  | called n hposted h =>
      exact .called n (hgoes.posted i hposted) (List.map_subset _ (hgoes.called i) h)

theorem goes_pageDoes {s : Background ι Data} {i : ι} {page : PagePort Data}
    (hposted : (s.page i).posted <+: page.posted) (hcalled : (s.page i).called <+: page.called) :
    s.Goes (s.pageDoes i page) := by
  refine ⟨List.Subset.refl _, fun _ => List.Subset.refl _, fun j => ?_, fun j => ?_⟩
  all_goals
    dsimp only [pageDoes]
    by_cases hj : j = i
  · subst hj
    rw [Function.update_self]
    exact hposted.subset
  · rw [Function.update_of_ne hj]
    exact List.Subset.refl _
  · subst hj
    rw [Function.update_self]
    exact hcalled.subset
  · rw [Function.update_of_ne hj]
    exact List.Subset.refl _

/-- The page does something other than taking a response. -/
theorem NoneLost.pageDoes {s : Background ι Data} (h : s.NoneLost) {i : ι} {page : PagePort Data}
    (hposted : (s.page i).posted <+: page.posted) (hcalled : (s.page i).called <+: page.called) :
    (s.pageDoes i page).NoneLost := fun c hc j message hk =>
  (h c hc j message hk).mono (goes_pageDoes hposted hcalled) fun hmem => .checking hmem

/-- A response that is posted, or cannot be, has reached what it says. -/
theorem reached_defaultResponseCallback (s : Background ι Data) (k : ℕ) (i : ι) (request : Message)
    (responseData : Data) :
    (s.defaultResponseCallback k i request responseData).Reached k responseData i request ∧
      s.Goes (s.defaultResponseCallback k i request responseData) ∧
      (s.defaultResponseCallback k i request responseData).checking = s.checking ∧
      (s.defaultResponseCallback k i request responseData).responded = s.responded ∧
      (s.defaultResponseCallback k i request responseData).requests = s.requests := by
  rw [defaultResponseCallback]
  split
  · refine ⟨.underWay ?_, ⟨List.Subset.refl _, fun j => ?_, fun _ => List.Subset.refl _,
      fun _ => List.Subset.refl _⟩, rfl, rfl, rfl⟩
    · dsimp only
      rw [Function.update_self]
      exact List.mem_append_right _ (List.mem_singleton_self _)
    · dsimp only
      by_cases hj : j = i
      · subst hj
        rw [Function.update_self]
        exact List.subset_append_left _ _
      · rw [Function.update_of_ne hj]
        exact List.Subset.refl _
  · exact ⟨.dropped (List.mem_append_right _ (List.mem_singleton_self _)),
      ⟨List.subset_append_left _ _, fun _ => List.Subset.refl _, fun _ => List.Subset.refl _,
        fun _ => List.Subset.refl _⟩, rfl, rfl, rfl⟩

theorem NoneLost.messageHandler {s : Background ι Data} (h : s.NoneLost) (hs : s.Handled) (i : ι) :
    (s.messageHandler i).NoneLost := by
  rw [Background.messageHandler]
  split
  · exact h
  · intro c hc j request hk
    have hold : s.requests[c.1]? = some (j, request) := by
      rw [List.getElem?_append_left (hs.responded c hc)] at hk
      exact hk
    exact (h c hc j request hold).mono ⟨List.Subset.refl _, fun _ => List.Subset.refl _,
      fun _ => List.Subset.refl _, fun _ => List.Subset.refl _⟩ fun hmem => .checking hmem

theorem NoneLost.respond {s : Background ι Data} (h : s.NoneLost) (k : ℕ) (responseData : Data) :
    (s.respond k responseData).NoneLost := by
  rw [Background.respond]
  split
  · exact h
  · rename_i i request hk
    dsimp only
    split
    · intro c hc j message hreq
      rcases List.mem_append.1 hc with hc | hc
      · exact (h c hc j message hreq).mono ⟨List.Subset.refl _, fun _ => List.Subset.refl _,
          fun _ => List.Subset.refl _, fun _ => List.Subset.refl _⟩
          fun hmem => .checking (List.mem_append_left _ hmem)
      · rw [List.mem_singleton.1 hc]
        exact .checking (List.mem_append_right _ (List.mem_singleton_self _))
    · obtain ⟨hreached, hgoes, hchecking, hresponded, hrequests⟩ := reached_defaultResponseCallback
        { s with responded := s.responded ++ [(k, responseData)] } k i request responseData
      intro c hc j message hreq
      rw [hresponded] at hc
      rw [hrequests] at hreq
      rcases List.mem_append.1 hc with hc | hc
      · exact (h c hc j message hreq).mono ⟨hgoes.dropped, hgoes.toPage, hgoes.posted, hgoes.called⟩
          fun hmem => .checking (by rw [hchecking]; exact hmem)
      · obtain rfl := List.mem_singleton.1 hc
        obtain ⟨rfl, rfl⟩ := Prod.mk.inj (Option.some.inj (hk.symm.trans hreq))
        exact hreached

theorem NoneLost.tabChecked {s : Background ι Data} (h : s.NoneLost) (hs : s.Handled) (j : ℕ)
    (inForeground : Bool) : (s.tabChecked j inForeground).NoneLost := by
  rw [Background.tabChecked]
  split
  · exact h
  · rename_i k responseData hj
    obtain ⟨hresponded, r, hr, -⟩ := hs.checking _ (List.mem_of_getElem? hj)
    -- the other responses that wait go on waiting
    have hother : ∀ c ∈ s.checking, c = (k, responseData) ∨ c ∈ s.checking.eraseIdx j := by
      intro c hc
      obtain ⟨m, hm⟩ := List.mem_iff_getElem?.1 hc
      by_cases hmj : m = j
      · rw [hmj, hj] at hm
        exact .inl (Option.some.inj hm).symm
      · exact .inr (List.mem_eraseIdx_iff_getElem?.2 ⟨m, hmj, hm⟩)
    dsimp only
    split
    · rename_i hnone
      cases hr.symm.trans hnone
    · rename_i i request hk
      split
      · obtain ⟨hreached, hgoes, hchecking, hsame, hrequests⟩ := reached_defaultResponseCallback
          { s with checking := s.checking.eraseIdx j } k i request responseData
        intro c hc i' message hreq
        rw [hsame] at hc
        rw [hrequests] at hreq
        refine (h c hc i' message hreq).mono
          ⟨hgoes.dropped, hgoes.toPage, hgoes.posted, hgoes.called⟩ fun hmem => ?_
        rcases hother c hmem with rfl | hmem
        · obtain ⟨rfl, rfl⟩ := Prod.mk.inj (Option.some.inj (hk.symm.trans hreq))
          exact hreached
        · exact .checking (by rw [hchecking]; exact hmem)
      · intro c hc i' message hreq
        refine (h c hc i' message hreq).mono ⟨List.subset_append_left _ _,
          fun _ => List.Subset.refl _, fun _ => List.Subset.refl _,
          fun _ => List.Subset.refl _⟩ fun hmem => ?_
        rcases hother c hmem with rfl | hmem
        · exact .dropped (List.mem_append_right _ (List.mem_singleton_self _))
        · exact .checking hmem

theorem NoneLost.deliver {s : Background ι Data} (h : s.NoneLost) (hs : s.Handled) (i : ι)
    (inside : List ApiCall) : (s.deliver i inside).NoneLost := by
  rw [Background.deliver]
  split
  · exact h
  · rename_i response rest hqueue
    obtain ⟨-, hposted, hcalled, -, hcalls⟩ := (hs.keeps i).response (hs.page i) response inside
    let t : Background ι Data := { s with toPage := Function.update s.toPage i rest }
    have hgoes : t.Goes (t.pageDoes i ((s.page i).handle (.response response inside))) :=
      goes_pageDoes hposted hcalled
    intro c hc j message hreq
    cases h c hc j message hreq with
    | checking h => exact .checking h
    | dropped h => exact .dropped h
    | called n hmem h => exact .called n (hgoes.posted j hmem) (List.map_subset _ (hgoes.called j) h)
    | underWay h =>
        by_cases hj : j = i
        · subst hj
          rw [hqueue] at h
          rcases List.mem_cons.1 h with rfl | h
          -- the callback is called now, or has been called
          · obtain ⟨n, hn⟩ := hs.exists_posted hreq
            obtain ⟨hlt, hid, hport⟩ := (hs.page j).posted_spec hn
            refine .called n (hgoes.posted j hn) ?_
            dsimp only [Background.pageDoes]
            rw [Function.update_self]
            exact hcalls hport n hlt hid
          · refine .underWay ?_
            dsimp only [Background.pageDoes]
            rw [Function.update_self]
            exact h
        · refine .underWay ?_
          dsimp only [Background.pageDoes]
          rw [Function.update_of_ne hj]
          exact h

/-- **The step lemma for the responses.** -/
theorem NoneLost.next {s : Background ι Data} (h : s.NoneLost) (hs : s.Handled)
    (e : Event ι Data) : (machine.next s e).NoneLost := by
  cases e with
  | call i call =>
      have hcont := (hs.keeps i).call (hs.page i) call
      exact h.pageDoes hcont.posted hcont.called
  | portReady i =>
      have hcont := (hs.keeps i).portReady (hs.page i)
      exact h.pageDoes hcont.posted hcont.called
  | versionKnown i version => exact h.pageDoes (List.prefix_refl _) (List.prefix_refl _)
  | message i => exact h.messageHandler hs i
  | respond k responseData => exact h.respond k responseData
  | tabChecked j inForeground => exact h.tabChecked hs j inForeground
  | deliver i inside => exact h.deliver hs i inside
  | disconnect i =>
      intro c hc j message hk
      exact (h c hc j message hk).mono ⟨List.Subset.refl _, fun _ => List.Subset.refl _,
        fun _ => List.Subset.refl _, fun _ => List.Subset.refl _⟩ fun hmem => .checking hmem

/-! ### Every answer gets to its call -/

/-- **Every answer gets to the call that it is for**, in every run.  The messages that have arrived
from a page are the first of those that it has posted.  The callback of a call is called at most once,
and then with what the handler of the message of this call has responded.  Whatever a handler has
responded waits for its tab to be looked at, is under way to the page, or has been dropped because the
tab was in the background or the port disconnected; otherwise the callback of the call has been
called. -/
theorem answers_routed (js_api_version : Option ℚ) (es : List (Event ι Data)) :
    let s := machine.exec (start js_api_version) es
    (∀ i, s.arrived i <+: (s.page i).posted.map (·.2)) ∧
    (∀ i, ((s.page i).called.map (·.1)).Nodup) ∧
    (∀ i, ∀ c ∈ (s.page i).called, ∃ k message, s.requests[k]? = some (i, message) ∧
      (c.1, message) ∈ (s.page i).posted ∧ (k, c.2) ∈ s.responded) ∧
    (∀ c ∈ s.responded, ∃ i message n, s.requests[c.1]? = some (i, message) ∧
      (n, message) ∈ (s.page i).posted ∧
      (c ∈ s.checking ∨ c ∈ s.dropped ∨ ⟨propertyName message.requestId, c.2⟩ ∈ s.toPage i ∨
        n ∈ (s.page i).called.map (·.1))) ∧
    (∀ c ∈ s.checking ++ s.dropped, ∃ i message, s.requests[c.1]? = some (i, message) ∧
      (message.isRegisterRequest ∨ c ∈ s.dropped ∧ s.connected i = false)) := by
  intro s
  let I (s : Background ι Data) := s.Handled ∧ s.NoneLost
  have hstep : ∀ s e, I s → I (machine.next s e) := fun _ e h => ⟨h.1.next e, h.2.next h.1 e⟩
  have hstart : I (start js_api_version) := ⟨handled_start js_api_version, nofun⟩
  obtain ⟨h, hlost⟩ := Machine.exec_invariant' hstep es hstart
  refine ⟨fun i => ?_, fun i => (h.page i).called_once, fun i c hc => ?_, fun c hc => ?_,
    fun c hc => ?_⟩
  · rw [h.posted]
    exact List.prefix_append _ _
  · obtain ⟨k, message, hk, hresponded, hid⟩ := h.received i _ ((h.page i).called_mem c hc)
    obtain ⟨n, hn⟩ := h.exists_posted hk
    have hid' := hid.trans ((h.page i).posted_spec hn).2.1
    obtain rfl : c.1 = n := Nat.succ_injective (PropertyName.number.inj (Option.some.inj hid'))
    exact ⟨k, message, hk, hn, hresponded⟩
  · obtain ⟨⟨i, message⟩, hk⟩ : ∃ r, s.requests[c.1]? = some r :=
      ⟨_, List.getElem?_eq_getElem (h.responded c hc)⟩
    obtain ⟨n, hn⟩ := h.exists_posted hk
    refine ⟨i, message, n, hk, hn, ?_⟩
    cases hlost c hc i message hk with
    | checking h => exact .inl h
    | dropped h => exact .inr (.inl h)
    | underWay h => exact .inr (.inr (.inl h))
    | called m hm hcalled => exact .inr (.inr (.inr ((h.page i).posted_inj hn hm ▸ hcalled)))
  · rcases List.mem_append.1 hc with hc | hc
    · obtain ⟨-, r, hr, hregister⟩ := h.checking c hc
      exact ⟨r.1, r.2, hr, .inl hregister⟩
    · obtain ⟨r, hr, hwhy⟩ := h.dropped c hc
      exact ⟨r.1, r.2, hr, hwhy.imp id fun hconnected => ⟨hc, hconnected⟩⟩

end Background

end PageApi

end U2F
