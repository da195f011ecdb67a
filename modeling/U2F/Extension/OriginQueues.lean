/-
**The queues of all origins.**

The rest of `requestqueue.js`: an `OriginKeyedRequestQueue` keeps a queue for each pair of an app id
and an origin, which is made when the first request for the pair comes.  The key of a pair is the
two strings with a space between them.

A token knows the queue that it is in, so that what happens to a token after its request has been
queued happens to that queue alone.

Main definitions:

* `OriginKeyedRequestQueue.queueRequest` — the code;
* `OriginKeyedRequestQueue.machine` — all queues as one reactive machine;
* `OriginKeyedRequestQueue.ownEvents` — what happens to the requests of one pair.

Main results:

* `OriginKeyedRequestQueue.key_inj` — two pairs whose origins have no space have two keys;
* `OriginKeyedRequestQueue.simulates_family` — the queues are a family of single ones;
* `OriginKeyedRequestQueue.queues_apart` — **the queue of a pair is as if there were no other pairs**,
  in every run, and is orderly if its own requests complete at its ends.
-/

import Mathlib.Data.List.Lemmas
import U2F.Extension.RequestQueue
import U2F.Extension.WebRequest
import U2F.Lib.Family

set_option relaxedAutoImplicit false
set_option autoImplicit false

namespace U2F

/-- An `OriginKeyedRequestQueue`: the queues by their keys, where there are any. -/
structure OriginKeyedRequestQueue where
  requests : JSString → Option RequestQueue

/-- What can happen to the requests for an app id and an origin: another one is queued, or something
happens to a token that has been returned for one. -/
structure OriginEvent where
  appId : JSString
  origin : JSString
  event : RequestQueue.Event

namespace OriginKeyedRequestQueue

/-- The constructor. -/
def new : OriginKeyedRequestQueue := ⟨fun _ => none⟩

/-! ### The code -/

/-- `appId + ' ' + origin` -/
def key (appId origin : JSString) : JSString := appId ++ js " " ++ origin

/-- An event of a queue; the reply says whether the event was handled without an exception. -/
def onQueue (q : OriginKeyedRequestQueue) (key : JSString) (queue : RequestQueue)
    (event : RequestQueue.Event) : Bool × OriginKeyedRequestQueue :=
  let (reply, queue) := RequestQueue.machine.step queue event
  (reply, ⟨Function.update q.requests key (some queue)⟩)

/-- Queues a request, and makes the queue if it is the first one. -/
def queueRequest (q : OriginKeyedRequestQueue) (appId origin : JSString) :
    Bool × OriginKeyedRequestQueue :=
  let key := key appId origin
  let queue := (q.requests key).getD RequestQueue.new
  q.onQueue key queue .queueRequest

/-- Something happens to a token: there is none if nothing has been queued. -/
def onToken (q : OriginKeyedRequestQueue) (appId origin : JSString)
    (event : RequestQueue.Event) : Bool × OriginKeyedRequestQueue :=
  match q.requests (key appId origin) with
  | none => (true, q)
  | some queue => q.onQueue (key appId origin) queue event

/-- **All queues as a machine.** -/
def machine : Machine OriginKeyedRequestQueue OriginEvent Bool where
  step q e :=
    match e.event with
    | .queueRequest => q.queueRequest e.appId e.origin
    | event => q.onToken e.appId e.origin event

/-- The queue under a key, which is empty before it is made. -/
def queue (q : OriginKeyedRequestQueue) (key : JSString) : RequestQueue :=
  (q.requests key).getD RequestQueue.new

/-- What happens to the requests for an app id and an origin. -/
def ownEvents (appId origin : JSString) (es : List OriginEvent) : List RequestQueue.Event :=
  (es.filter fun e => e.appId = appId ∧ e.origin = origin).map OriginEvent.event

/-! ### The keys -/

/-- What stands behind the last space of a list is read off its end. -/
theorem append_space_inj {xs ys os os' : JSString} (hos : 0x20 ∉ os) (hos' : 0x20 ∉ os')
    (h : xs ++ 0x20 :: os = ys ++ 0x20 :: os') : xs = ys ∧ os = os' := by
  have hrest : os = os' := by
    have hreverse := congrArg (fun s => s.reverse.takeWhile (· ≠ 0x20)) h
    have hread : ∀ (zs os : JSString), 0x20 ∉ os →
        (zs ++ 0x20 :: os).reverse.takeWhile (· ≠ 0x20) = os.reverse := by
      intro zs os hos
      rw [List.reverse_append, List.reverse_cons, List.append_assoc, List.takeWhile_append_of_pos]
      · simp
      · intro c hc
        have hne : c ≠ 0x20 := fun heq => hos (List.mem_reverse.1 (heq ▸ hc))
        simpa using hne
    simp only [hread _ _ hos, hread _ _ hos'] at hreverse
    exact List.reverse_injective hreverse
  subst hrest
  exact ⟨List.append_cancel_right h, rfl⟩

/-- **Two pairs whose origins have no space have two keys.** -/
theorem key_inj {appId appId' origin origin' : JSString} (h : 0x20 ∉ origin)
    (h' : 0x20 ∉ origin') :
    key appId origin = key appId' origin' ↔ appId = appId' ∧ origin = origin' := by
  have hspace : js " " = [0x20] := rfl
  constructor
  · intro hkey
    rw [key, key, hspace, List.append_assoc, List.append_assoc] at hkey
    exact append_space_inj h h' hkey
  · rintro ⟨rfl, rfl⟩
    rfl

/-- The space is what tells where the app id ends. -/
example : key (js "a b") (js "c") = key (js "a") (js "b c") := rfl

/-! ### The queues one by one -/

/-- A token of a queue that has not been made is none. -/
theorem step_new_token {event : RequestQueue.Event} (hevent : event ≠ .queueRequest) :
    RequestQueue.machine.step RequestQueue.new event = (true, RequestQueue.new) := by
  have hqueued : ∀ t, ¬ RequestQueue.new.Queued t := by
    rintro t ⟨hpos, hle⟩
    exact absurd (hle.trans_eq rfl) (Nat.not_le.2 hpos)
  cases event with
  | queueRequest => exact absurd rfl hevent
  | complete t | timerExpired t => simp [RequestQueue.machine, RequestQueue.handle, hqueued t]
  | startTimeout t => simp [RequestQueue.machine, RequestQueue.handle, RequestQueue.new]

theorem queue_onQueue (q : OriginKeyedRequestQueue) (key : JSString) (queue : RequestQueue)
    (event : RequestQueue.Event) :
    (q.onQueue key queue event).2.queue =
      Function.update q.queue key (RequestQueue.machine.next queue event) := by
  funext k
  by_cases h : k = key
  · subst h
    rw [Function.update_self]
    simp [OriginKeyedRequestQueue.queue, onQueue, Machine.next]
  · rw [Function.update_of_ne h]
    simp [OriginKeyedRequestQueue.queue, onQueue, h]

/-- **The step lemma**: a step is one of the queue under its key. -/
theorem queue_next (q : OriginKeyedRequestQueue) (e : OriginEvent) :
    (machine.next q e).queue =
      RequestQueue.machine.family.next q.queue (key e.appId e.origin, e.event) := by
  obtain ⟨appId, origin, event⟩ := e
  have hqueueRequest : (q.queueRequest appId origin).2.queue =
      RequestQueue.machine.family.next q.queue (key appId origin, .queueRequest) :=
    queue_onQueue q _ _ _
  have htoken : ∀ event ≠ .queueRequest, (q.onToken appId origin event).2.queue =
      RequestQueue.machine.family.next q.queue (key appId origin, event) := by
    intro event hevent
    rw [onToken]
    cases hqueue : q.requests (key appId origin) with
    | none =>
        have hnew : q.queue (key appId origin) = RequestQueue.new := by
          rw [OriginKeyedRequestQueue.queue, hqueue]
          rfl
        refine (Function.update_eq_self _ _).symm.trans (congrArg _ ?_)
        rw [hnew, step_new_token hevent]
    | some queue =>
        have hsome : q.queue (key appId origin) = queue := by
          rw [OriginKeyedRequestQueue.queue, hqueue]
          rfl
        refine (queue_onQueue q _ _ _).trans (congrArg _ ?_)
        rw [← hsome]
        rfl
  cases event with
  | queueRequest => exact hqueueRequest
  | complete t => exact htoken _ nofun
  | timerExpired t => exact htoken _ nofun
  | startTimeout t => exact htoken _ nofun

/-- **The queues are a family of single ones.** -/
theorem simulates_family (q : OriginKeyedRequestQueue) (es : List OriginEvent) :
    (machine.exec q es).queue = RequestQueue.machine.family.exec q.queue
      (es.map fun e => (key e.appId e.origin, e.event)) := by
  induction es generalizing q with
  | nil => rfl
  | cons e es ih =>
      rw [Machine.exec_cons, ih, queue_next]
      rfl

/-- The events for the key of a pair are those of its own requests. -/
theorem eventsFor_key {es : List OriginEvent} (horigins : ∀ e ∈ es, 0x20 ∉ e.origin)
    {appId origin : JSString} (horigin : 0x20 ∉ origin) :
    Machine.eventsFor (key appId origin) (es.map fun e => (key e.appId e.origin, e.event)) =
      ownEvents appId origin es := by
  induction es with
  | nil => rfl
  | cons e es ih =>
      obtain ⟨he, hes⟩ := List.forall_mem_cons.1 horigins
      rw [List.map_cons, Machine.eventsFor_cons, ih hes, ownEvents, ownEvents, List.filter_cons]
      by_cases hkey : key e.appId e.origin = key appId origin
      · rw [if_pos hkey, if_pos (decide_eq_true ((key_inj he horigin).1 hkey))]
        rfl
      · rw [if_neg hkey, if_neg (by simpa using mt (key_inj he horigin).2 hkey)]

/-- **The queue of a pair is as if there were no other pairs**: in every run of requests from origins
without spaces it is what its own requests make of it.  In particular it is orderly at every point if
its own requests complete at its ends, whatever becomes of the others. -/
theorem queues_apart {es : List OriginEvent} (horigins : ∀ e ∈ es, 0x20 ∉ e.origin)
    {appId origin : JSString} (horigin : 0x20 ∉ origin) :
    (machine.exec new es).queue (key appId origin) =
        RequestQueue.machine.exec RequestQueue.new (ownEvents appId origin es) ∧
      (RequestQueue.machine.AllSteps RequestQueue.CompletesAtEnd RequestQueue.new
          (ownEvents appId origin es) →
        machine.Always (fun q => (q.queue (key appId origin)).Orderly) new es) := by
  have hexec : ∀ pre, pre <+: es → (machine.exec new pre).queue (key appId origin) =
      RequestQueue.machine.exec RequestQueue.new (ownEvents appId origin pre) := by
    intro pre hpre
    rw [simulates_family, Machine.exec_family,
      eventsFor_key (fun e he => horigins e (hpre.subset he)) horigin]
    rfl
  refine ⟨hexec es List.prefix_rfl, fun hcompletes pre hpre => ?_⟩
  have hown : ownEvents appId origin pre <+: ownEvents appId origin es := by
    obtain ⟨post, rfl⟩ := hpre
    rw [ownEvents, ownEvents, List.filter_append, List.map_append]
    exact List.prefix_append _ _
  change ((machine.exec new pre).queue (key appId origin)).Orderly
  rw [hexec pre hpre]
  obtain ⟨xs, hxs⟩ := Machine.exec_invariant (I := fun q : RequestQueue => ∃ xs, q.InOrder xs)
    (fun q e ⟨xs, h⟩ he => by
      obtain ⟨q', xs', hq', h'⟩ := h.handle he
      exact ⟨xs', RequestQueue.next_eq_of_handle hq' ▸ h'⟩)
    (Machine.allSteps_initial hcompletes hown) ⟨[], RequestQueue.inOrder_new⟩
  exact hxs.orderly

/-- Two requests of one page, with one of another page between them. -/
theorem queues_apart_two_pages :
    machine.Always (fun q => (q.queue (key (js "id") (js "https://a.com"))).Orderly) new
      [⟨js "id", js "https://a.com", .queueRequest⟩, ⟨js "id", js "https://b.com", .queueRequest⟩,
        ⟨js "id", js "https://a.com", .queueRequest⟩, ⟨js "id", js "https://a.com", .startTimeout 1⟩,
        ⟨js "id", js "https://b.com", .complete 1⟩, ⟨js "id", js "https://a.com", .complete 1⟩] :=
  (queues_apart (by decide) (by decide)).2 (by
    refine ⟨?_, ?_, ?_, ?_, trivial⟩ <;> simp only [RequestQueue.CompletesAtEnd] <;> decide)

end OriginKeyedRequestQueue

end U2F
