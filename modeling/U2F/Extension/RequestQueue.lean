/-
**The queue of pending requests of an origin.**

`requestqueue.js` keeps the requests of one origin in a doubly linked list of tokens and calls the
`beginCb` of a token when work may begin on it.  A token leaves the list when its `complete()` is
called, by the request or by the clone of the request's timer, and the completion of a token begins
the token behind it.

A token is referred to by its id, which is the order of its insertion.  The events of a run are the
calls from outside and the expiries of timers; a `beginCb` is the last thing its caller does, so
the calls that a `beginCb` makes are events that come after.

Main definitions:

* `RequestQueue.insertToken`, `RequestQueue.removeToken`, `RequestQueue.complete`,
  `RequestQueue.tokenComplete`, `RequestQueue.queueRequest` — the code;
* `RequestQueue.machine` — the queue as a reactive machine;
* `RequestQueue.Orderly` — what the queue is for: one request at a time, in order, each once;
* `RequestQueue.CompletesAtEnd` — the completing token is at the head of the queue, or at its end.

Main results:

* `RequestQueue.sound_exec` — **the list is sound in every run**: it holds exactly the tokens that
  are not completed, in the order of their insertion, and no call throws;
* `RequestQueue.queued_exec` — the queued tokens are those of the calls of `queueRequest`;
* `RequestQueue.never_loses_place` — **the head of the list has begun or will begin**, in every run;
* `RequestQueue.orderly_of_completesAtEnd` — the queue is orderly at every point of a run whose
  completions are all at an end of the queue;
* `RequestQueue.not_orderly_of_waiting_completes` — it is not in general.
-/

import Mathlib.Logic.Function.Basic
import Mathlib.Tactic.Simps.Basic
import U2F.Lib.Linked
import U2F.Lib.Machine

set_option relaxedAutoImplicit false
set_option autoImplicit false

namespace U2F

/-- The fields of a `RequestToken` that its queue works on. -/
structure RequestToken where
  prev : Option ℕ
  next : Option ℕ
  completed : Bool

/-- A new token. -/
def RequestToken.new : RequestToken := ⟨none, none, false⟩

/-- A `RequestQueue`, with the tokens it has handed out. -/
structure RequestQueue where
  /-- The tokens, by their id. -/
  token : ℕ → RequestToken
  head : Option ℕ
  tail : Option ℕ
  id : ℕ
  /-- The zero-delay timeouts of `queueRequest` that have not fired. -/
  starts : List ℕ
  /-- The tokens whose `beginCb` has been called, in the order of the calls. -/
  begun : List ℕ

namespace RequestQueue

/-- The constructor. -/
def new : RequestQueue := ⟨fun _ => RequestToken.new, none, none, 0, [], []⟩

/-! ### The code -/

def prev (q : RequestQueue) (t : ℕ) : Option ℕ := (q.token t).prev

def next (q : RequestQueue) (t : ℕ) : Option ℕ := (q.token t).next

def completed (q : RequestQueue) (t : ℕ) : Bool := (q.token t).completed

@[simps] def setPrev (q : RequestQueue) (t : ℕ) (p : Option ℕ) : RequestQueue :=
  { q with token := Function.update q.token t { q.token t with prev := p } }

@[simps] def setNext (q : RequestQueue) (t : ℕ) (n : Option ℕ) : RequestQueue :=
  { q with token := Function.update q.token t { q.token t with next := n } }

@[simps] def setHead (q : RequestQueue) (h : Option ℕ) : RequestQueue := { q with head := h }

@[simps] def setTail (q : RequestQueue) (t : Option ℕ) : RequestQueue := { q with tail := t }

@[simps] def setCompleted (q : RequestQueue) (t : ℕ) : RequestQueue :=
  { q with token := Function.update q.token t { q.token t with completed := true } }

/-- A call of the token's `beginCb`. -/
@[simps] def beginCb (q : RequestQueue) (t : ℕ) : RequestQueue := { q with begun := q.begun ++ [t] }

/-- Inserts a token into the queue; `none` is the exception `Non-empty list missing tail`. -/
def insertToken (q : RequestQueue) (token : ℕ) : Option RequestQueue :=
  match q.head, q.tail with
  | none, _ => some ((q.setHead (some token)).setTail (some token))
  | some _, none => none
  | some _, some tail =>
      some (((q.setNext tail (some token)).setPrev token (some tail)).setTail (some token))

/-- `this.head_ = token.next; this.head_.prev = null`, which throws if there is no next token. -/
def dropHead (q : RequestQueue) (token : ℕ) : Option RequestQueue :=
  (q.next token).map fun n => (q.setHead (some n)).setPrev n none

/-- `this.tail_ = token.prev; this.tail_.next = null`, which throws if there is no previous
token. -/
def dropTail (q : RequestQueue) (token : ℕ) : Option RequestQueue :=
  (q.prev token).map fun p => (q.setTail (some p)).setNext p none

/-- The pointers of the neighbours of a token that is taken out. -/
def bypass (q : RequestQueue) (token : ℕ) : RequestQueue :=
  let q := match q.next token with
    | some n => q.setPrev n (q.prev token)
    | none => q
  match q.prev token with
  | some p => q.setNext p (q.next token)
  | none => q

/-- Removes a token from the queue. -/
def removeToken (q : RequestQueue) (token : ℕ) : Option RequestQueue := do
  let q := q.bypass token
  let q ←
    if q.head = some token ∧ q.tail = some token then
      some ((q.setHead none).setTail none)
    else do
      let q ← if q.head = some token then q.dropHead token else some q
      if q.tail = some token then q.dropTail token else some q
  return (q.setPrev token none).setNext token none

/-- Completes this token's request, and begins the next queued request, if one exists. -/
def complete (q : RequestQueue) (token : ℕ) : Option RequestQueue := do
  let next := q.next token
  let q ← q.removeToken token
  return match next with
    | some n => q.beginCb n
    | none => q

/-- `RequestToken.prototype.complete`: the second call for a token does nothing. -/
def tokenComplete (q : RequestQueue) (token : ℕ) : Option RequestQueue :=
  if q.completed token then some q else (q.setCompleted token).complete token

/-- Whether this queue is empty. -/
def empty (q : RequestQueue) : Bool := q.head.isNone

/-- Queues a request, and, if it is the first request, schedules the beginning of work on it. -/
def queueRequest (q : RequestQueue) : Option RequestQueue := do
  let startNow := q.empty
  let token := q.id + 1
  let q := { q with id := token, token := Function.update q.token token RequestToken.new }
  let q ← q.insertToken token
  return if startNow then { q with starts := q.starts ++ [token] } else q

/-- The zero-delay timeout that `queueRequest` has set for a token. -/
def startTimeout (q : RequestQueue) (token : ℕ) : RequestQueue :=
  let q := { q with starts := q.starts.erase token }
  if q.completed token then q else q.beginCb token

/-! ### The queue as a machine -/

/-- What can happen to a queue. -/
inductive Event where
  /-- A call of `queueRequest`. -/
  | queueRequest
  /-- A call of a token's `complete()` by its request. -/
  | complete (token : ℕ)
  /-- The expiry of the clone of the timer that `queueRequest` made for a token. -/
  | timerExpired (token : ℕ)
  /-- The firing of a token's start timeout. -/
  | startTimeout (token : ℕ)

/-- A token that `queueRequest` has returned. -/
def Queued (q : RequestQueue) (t : ℕ) : Prop := 0 < t ∧ t ≤ q.id

instance (q : RequestQueue) (t : ℕ) : Decidable (q.Queued t) := by
  unfold Queued; infer_instance

/-- The queue after an event, `none` if the event makes the code throw.  Events of tokens that do
not exist, and of timeouts that are not pending, do nothing. -/
def handle (q : RequestQueue) : Event → Option RequestQueue
  | .queueRequest => q.queueRequest
  | .complete t => if q.Queued t then q.tokenComplete t else some q
  | .timerExpired t => if q.Queued t then q.tokenComplete t else some q
  | .startTimeout t => if t ∈ q.starts then some (q.startTimeout t) else some q

/-- **The queue as a machine.**  The reply says whether the event was handled without an
exception. -/
def machine : Machine RequestQueue Event Bool where
  step q e :=
    match q.handle e with
    | some q' => (true, q')
    | none => (false, q)

/-- **What the queue is for**: at most one request is being worked on, the requests begin in the
order in which they were queued, and each begins at most once. -/
structure Orderly (q : RequestQueue) : Prop where
  exclusive : ∀ i ∈ q.begun, ∀ j ∈ q.begun,
    q.completed i = false → q.completed j = false → i = j
  inOrder : q.begun.Pairwise (· ≤ ·)
  once : q.begun.Nodup

/-- The token that an event completes, if the event completes one. -/
def completing (q : RequestQueue) : Event → Option ℕ
  | .complete t | .timerExpired t =>
      if q.Queued t ∧ q.completed t = false then some t else none
  | .queueRequest | .startTimeout _ => none

/-- The token that an event completes is at the head of the queue or has no token behind it. -/
def CompletesAtEnd (q : RequestQueue) (e : Event) : Prop :=
  ∀ t ∈ q.completing e, q.head = some t ∨ q.next t = none

/-! ### The pointers after an update -/

section
variable (q : RequestQueue) (t u : ℕ) (p : Option ℕ)

@[simp] theorem prev_setPrev :
    (q.setPrev t p).prev u = if u = t then p else q.prev u := by
  by_cases h : u = t <;> simp [prev, h]

@[simp] theorem next_setPrev : (q.setPrev t p).next u = q.next u := by
  by_cases h : u = t <;> simp [next, h]

@[simp] theorem prev_setNext : (q.setNext t p).prev u = q.prev u := by
  by_cases h : u = t <;> simp [prev, h]

@[simp] theorem next_setNext :
    (q.setNext t p).next u = if u = t then p else q.next u := by
  by_cases h : u = t <;> simp [next, h]

@[simp] theorem completed_setPrev : (q.setPrev t p).completed u = q.completed u := by
  by_cases h : u = t <;> simp [completed, h]

@[simp] theorem completed_setNext : (q.setNext t p).completed u = q.completed u := by
  by_cases h : u = t <;> simp [completed, h]

@[simp] theorem prev_setCompleted : (q.setCompleted t).prev u = q.prev u := by
  by_cases h : u = t <;> simp [prev, h]

@[simp] theorem next_setCompleted : (q.setCompleted t).next u = q.next u := by
  by_cases h : u = t <;> simp [next, h]

@[simp] theorem completed_setCompleted :
    (q.setCompleted t).completed u = (decide (u = t) || q.completed u) := by
  by_cases h : u = t <;> simp [completed, h]

@[simp] theorem prev_setHead : (q.setHead p).prev u = q.prev u := rfl
@[simp] theorem next_setHead : (q.setHead p).next u = q.next u := rfl
@[simp] theorem completed_setHead : (q.setHead p).completed u = q.completed u := rfl
@[simp] theorem prev_setTail : (q.setTail p).prev u = q.prev u := rfl
@[simp] theorem next_setTail : (q.setTail p).next u = q.next u := rfl
@[simp] theorem completed_setTail : (q.setTail p).completed u = q.completed u := rfl
@[simp] theorem completed_beginCb : (q.beginCb t).completed u = q.completed u := rfl

end

/-! ### The list that the pointers hold -/

/-- The pointers of the queue hold the list `xs`. -/
def Holds (q : RequestQueue) (xs : List ℕ) : Prop := Linked q.prev q.next q.head q.tail xs

theorem Holds.congr {q q' : RequestQueue} {xs : List ℕ} (h : q.Holds xs)
    (hprev : ∀ u ∈ xs, q'.prev u = q.prev u) (hnext : ∀ u ∈ xs, q'.next u = q.next u)
    (hhead : q'.head = q.head) (htail : q'.tail = q.tail) : q'.Holds xs := by
  obtain ⟨h₁, h₂, h₃, h₄, h₅⟩ := h
  refine ⟨h₁, hhead.trans h₂, htail.trans h₃, ?_, ?_⟩
  · intro l x r hxs
    rw [hprev x (by simp [hxs]), h₄ l x r hxs]
  · intro l x r hxs
    rw [hnext x (by simp [hxs]), h₅ l x r hxs]

/-- Nothing but the pointers differs. -/
structure SameRest (q q' : RequestQueue) : Prop where
  completed : ∀ u, q'.completed u = q.completed u
  id : q'.id = q.id
  starts : q'.starts = q.starts
  begun : q'.begun = q.begun

/-- **A token taken out of the list**, wherever it stands. -/
theorem removeToken_spec {q : RequestQueue} {l r : List ℕ} {t : ℕ} (h : q.Holds (l ++ t :: r)) :
    ∃ q', q.removeToken t = some q' ∧ q'.Holds (l ++ r) ∧ SameRest q q' := by
  have hnd := h.nodup
  have hne : ∀ u ∈ l ++ r, u ≠ t := by
    rintro u hu rfl
    exact (List.nodup_cons.1 (List.nodup_middle.1 hnd)).1 hu
  have hp : q.prev t = l.getLast? := h.prev_eq l t r rfl
  have hn : q.next t = r.head? := h.next_eq l t r rfl
  have hh : q.head = some t ↔ l = [] := by
    rw [h.head_eq]
    cases l with
    | nil => simp
    | cons a l => simpa using hne a (by simp)
  have ht : q.tail = some t ↔ r = [] := by
    rw [h.tail_eq]
    rcases List.eq_nil_or_concat' r with rfl | ⟨r, z, rfl⟩
    · simp
    · rw [← List.cons_append, ← List.append_assoc, List.getLast?_concat]
      simpa using hne z (by simp)
  obtain ⟨q', hq', hrest, hprev, hnext, hhead, htail⟩ :
      ∃ q', q.removeToken t = some q' ∧ SameRest q q' ∧
        (∀ u ∈ l ++ r, q'.prev u = if q.next t = some u then q.prev t else q.prev u) ∧
        (∀ u ∈ l ++ r, q'.next u = if q.prev t = some u then q.next t else q.next u) ∧
        (q'.head = if q.head = some t then q.next t else q.head) ∧
        q'.tail = if q.tail = some t then q.prev t else q.tail := by
    -- the four positions: alone, at the head, at the tail, between two tokens
    rcases List.eq_nil_or_concat' l with rfl | ⟨l, p, rfl⟩ <;> cases r with
    | nil => ?_
    | cons n r => ?_
    · simp [removeToken, bypass, hp, hn, hh, ht]
      exact ⟨fun u => by simp, rfl, rfl, rfl⟩
    · have hnt : n ≠ t := hne n (by simp)
      simp [removeToken, bypass, dropHead, hp, hn, hh, ht, hnt]
      refine ⟨⟨fun u => by simp, rfl, rfl, rfl⟩, ?_, ?_⟩
      · intro u hu
        rw [if_neg (hne u (by simp [hu]))]
        by_cases hun : u = n
        · rw [if_pos hun, if_pos hun.symm]
        · rw [if_neg hun, if_neg hun, if_neg (Ne.symm hun)]
      · intro u hu hut
        exact absurd hut (hne u (by simp [hu]))
    · simp [removeToken, bypass, dropTail, hp, hn, hh, ht]
      refine ⟨⟨fun u => by simp, rfl, rfl, rfl⟩, ?_, ?_⟩
      · intro u hu hut
        exact absurd hut (hne u (by simpa using hu))
      · intro u hu
        rw [if_neg (hne u (by simpa using hu))]
        by_cases hup : u = p
        · rw [if_pos hup, if_pos hup.symm]
        · rw [if_neg hup, if_neg hup, if_neg (Ne.symm hup)]
    · simp [removeToken, bypass, hp, hn, hh, ht]
      refine ⟨⟨fun u => by simp, rfl, rfl, rfl⟩, ?_, ?_⟩
      · intro u hu
        simp [hne u (by simpa [or_assoc] using hu), eq_comm]
      · intro u hu
        simp [hne u (by simpa [or_assoc] using hu), eq_comm]
  exact ⟨q', hq', h.remove hprev hnext hhead htail, hrest⟩

/-- A token that is not in the list, put at its end. -/
theorem insertToken_spec {q : RequestQueue} {xs : List ℕ} {t : ℕ} (h : q.Holds xs) (ht : t ∉ xs)
    (hp : q.prev t = none) (hn : q.next t = none) :
    ∃ q', q.insertToken t = some q' ∧ q'.Holds (xs ++ [t]) ∧ SameRest q q' := by
  cases hhead : q.head with
  | none =>
      -- the token is alone in the list
      obtain rfl : xs = [] := h.head_eq_none_iff.1 hhead
      refine ⟨(q.setHead (some t)).setTail (some t), by simp [insertToken, hhead], ?_,
        fun u => by simp, rfl, rfl, rfl⟩
      have htail : q.tail = none := h.tail_eq_none_iff.2 rfl
      exact h.concat ht (by simp) (by simp) (by simp [hp, htail]) (by simp [hn])
        (by simp [hhead]) rfl
  | some a =>
      -- the old tail points to the token, and the token back to it
      have hne : xs ≠ [] := fun hxs => by simp [h.head_eq_none_iff.2 hxs] at hhead
      obtain ⟨b, hb⟩ : ∃ b, q.tail = some b :=
        Option.ne_none_iff_exists'.1 fun hb => hne (h.tail_eq_none_iff.1 hb)
      have hbt : b ≠ t := by
        rintro rfl
        exact ht (List.mem_of_getLast? (h.tail_eq.symm.trans hb))
      refine ⟨((q.setNext b (some t)).setPrev t (some b)).setTail (some t),
        by simp [insertToken, hhead, hb], ?_, fun u => by simp, rfl, rfl, rfl⟩
      have hxt : ∀ u ∈ xs, u ≠ t := fun u hu => ne_of_mem_of_not_mem hu ht
      refine h.concat ht ?_ ?_ ?_ ?_ ?_ rfl
      · intro u hu
        simp [hxt u hu]
      · intro u hu
        simp [hb, eq_comm]
      · simp [hb]
      · simp [hn, hbt.symm]
      · simp [hhead]

/-! ### The list is sound -/

/-- **The soundness of the list**: it holds exactly the tokens that are not completed, in the
order of their insertion. -/
structure Sound (q : RequestQueue) (xs : List ℕ) : Prop where
  holds : q.Holds xs
  mem_iff : ∀ t, t ∈ xs ↔ q.Queued t ∧ q.completed t = false
  sorted : xs.Pairwise (· < ·)

theorem sound_new : Sound new [] where
  holds := Linked.nil
  mem_iff := by
    intro t
    simp only [List.not_mem_nil, Queued, new, false_iff, not_and]
    omega
  sorted := List.Pairwise.nil

/-- **The completion of a token of the list**: the token leaves the list and the one behind it, if
there is one, begins. -/
theorem tokenComplete_spec {q : RequestQueue} {l r : List ℕ} {t : ℕ} (h : q.Sound (l ++ t :: r)) :
    ∃ q', q.tokenComplete t = some q' ∧ q'.Sound (l ++ r) ∧
      (∀ u, q'.completed u = (decide (u = t) || q.completed u)) ∧ q'.id = q.id ∧
      q'.starts = q.starts ∧ q'.begun = q.begun ++ r.head?.toList := by
  obtain ⟨-, htc⟩ := (h.mem_iff t).1 (by simp)
  have hnext : (q.setCompleted t).next t = r.head? := by
    rw [next_setCompleted, h.holds.next_eq l t r rfl]
  have hholds : (q.setCompleted t).Holds (l ++ t :: r) :=
    h.holds.congr (by simp) (by simp) rfl rfl
  obtain ⟨q', hq', hholds', hc, hid, hs, hb⟩ := removeToken_spec hholds
  have hc' : ∀ u, q'.completed u = (decide (u = t) || q.completed u) := by simp [hc]
  have hsound : q'.Sound (l ++ r) := by
    refine ⟨hholds', ?_, ?_⟩
    · intro u
      have hnd := List.nodup_cons.1 (List.nodup_middle.1 h.holds.nodup)
      have hu := h.mem_iff u
      rw [hc' u, Queued, hid]
      by_cases hut : u = t
      · subst hut
        simp [hnd.1]
      · simpa [hut, Queued] using hu
    · exact h.sorted.sublist (List.Sublist.append_left (List.sublist_cons_self t r) l)
  have hcomplete : q.tokenComplete t =
      some (match r.head? with
        | some n => q'.beginCb n
        | none => q') := by
    simp [tokenComplete, htc, complete, hq', hnext]
  cases r with
  | nil => exact ⟨q', hcomplete, hsound, hc', hid, hs, by simp [hb]⟩
  | cons n r =>
      refine ⟨q'.beginCb n, hcomplete, ⟨hsound.holds.congr ?_ ?_ rfl rfl, hsound.mem_iff,
        hsound.sorted⟩, hc', hid, hs, by simp [hb]⟩
      · exact fun u _ => rfl
      · exact fun u _ => rfl

/-- A completion of a token that has left the list changes nothing. -/
theorem tokenComplete_of_completed {q : RequestQueue} {t : ℕ} (h : q.completed t = true) :
    q.tokenComplete t = some q := by
  rw [tokenComplete, if_pos h]

/-- **A new request**: its token goes to the end of the list, and a start is scheduled if the list
was empty. -/
theorem queueRequest_spec {q : RequestQueue} {xs : List ℕ} (h : q.Sound xs) :
    ∃ q', q.queueRequest = some q' ∧ q'.Sound (xs ++ [q.id + 1]) ∧
      (∀ u ≤ q.id, q'.completed u = q.completed u) ∧ q'.id = q.id + 1 ∧
      q'.starts = (if xs = [] then q.starts ++ [q.id + 1] else q.starts) ∧
      q'.begun = q.begun := by
  have hle : ∀ u ∈ xs, u ≤ q.id := fun u hu => ((h.mem_iff u).1 hu).1.2
  have hmem : q.id + 1 ∉ xs := fun hx => absurd (hle _ hx) (by omega)
  -- the queue with the new token, before it is linked
  set q₁ : RequestQueue :=
    { q with id := q.id + 1, token := Function.update q.token (q.id + 1) RequestToken.new } with hq₁
  have htok : ∀ u ≤ q.id, q₁.token u = q.token u := fun u hu => by
    simp [hq₁, show u ≠ q.id + 1 by omega]
  have hnew : q₁.token (q.id + 1) = RequestToken.new := by simp [hq₁]
  have hholds : q₁.Holds xs :=
    h.holds.congr (fun u hu => by rw [prev, htok u (hle u hu), prev])
      (fun u hu => by rw [next, htok u (hle u hu), next]) rfl rfl
  obtain ⟨q₂, hq₂, hholds₂, hc, hid, hs, hb⟩ := insertToken_spec hholds hmem
    (by rw [prev, hnew]; rfl) (by rw [next, hnew]; rfl)
  have hid₂ : q₂.id = q.id + 1 := hid
  have hcold : ∀ u ≤ q.id, q₂.completed u = q.completed u := fun u hu => by
    rw [hc, completed, htok u hu, completed]
  have hcnew : q₂.completed (q.id + 1) = false := by
    rw [hc, completed, hnew]; rfl
  -- the new token has the greatest number, so that the list stays sorted
  have hsound : q₂.Sound (xs ++ [q.id + 1]) := by
    refine ⟨hholds₂, ?_, ?_⟩
    · intro u
      rw [List.mem_append, h.mem_iff u, List.mem_singleton, Queued, Queued, hid₂]
      by_cases hu : u ≤ q.id
      · rw [hcold u hu]
        have : u ≠ q.id + 1 := by omega
        simp only [this, or_false]
        constructor
        · rintro ⟨hq, hcu⟩
          exact ⟨⟨hq.1, by omega⟩, hcu⟩
        · rintro ⟨hq, hcu⟩
          exact ⟨⟨hq.1, hu⟩, hcu⟩
      · constructor
        · rintro (⟨hq, -⟩ | rfl)
          · exact absurd hq.2 hu
          · exact ⟨⟨by omega, le_rfl⟩, hcnew⟩
        · rintro ⟨hq, -⟩
          exact Or.inr (by omega)
    · refine List.pairwise_append.2 ⟨h.sorted, List.pairwise_singleton _ _, ?_⟩
      intro u hu v hv
      have := hle u hu
      rw [List.mem_singleton.1 hv]
      omega
  have hempty : q.empty = decide (xs = []) := by
    rw [empty, h.holds.head_eq]
    cases xs <;> simp
  have hqueue : q.queueRequest = some (if q.empty then
      { q₂ with starts := q₂.starts ++ [q.id + 1] } else q₂) := by
    simp [queueRequest, ← hq₁, hq₂]
  rw [hqueue, hempty]
  by_cases hxs : xs = []
  · refine ⟨{ q₂ with starts := q₂.starts ++ [q.id + 1] }, by simp [hxs], ?_, hcold, hid₂,
      by simp [hxs, hs, hq₁], hb⟩
    exact ⟨hsound.holds.congr (fun u _ => rfl) (fun u _ => rfl) rfl rfl, hsound.mem_iff,
      hsound.sorted⟩
  · exact ⟨q₂, by simp [hxs], hsound, hcold, hid₂, by simp [hxs, hs, hq₁], hb⟩

/-- The start timeout of a token: the token begins unless it has been completed. -/
theorem startTimeout_spec {q : RequestQueue} {xs : List ℕ} (h : q.Sound xs) (t : ℕ) :
    (q.startTimeout t).Sound xs ∧ (∀ u, (q.startTimeout t).completed u = q.completed u) ∧
      (q.startTimeout t).id = q.id ∧ (q.startTimeout t).starts = q.starts.erase t ∧
      (q.startTimeout t).begun = if q.completed t then q.begun else q.begun ++ [t] := by
  have hc : ({ q with starts := q.starts.erase t } : RequestQueue).completed t = q.completed t :=
    rfl
  cases ht : q.completed t <;> simp only [startTimeout, hc, ht] <;>
    exact ⟨⟨h.holds.congr (fun u _ => rfl) (fun u _ => rfl) rfl rfl, h.mem_iff, h.sorted⟩,
      fun u => rfl, rfl, rfl, rfl⟩

/-- **What an event does**: a token of the list is completed, a request is queued, a start timeout fires,
or nothing happens. -/
theorem handle_cases {q : RequestQueue} {xs : List ℕ} (h : q.Sound xs) (e : Event) :
    (∃ l t r, xs = l ++ t :: r ∧ q.completing e = some t ∧ q.handle e = q.tokenComplete t) ∨
    e = .queueRequest ∨ (∃ t ∈ q.starts, q.handle e = some (q.startTimeout t)) ∨
    q.handle e = some q := by
  have hcomplete : ∀ t, q.handle e = (if q.Queued t then q.tokenComplete t else some q) →
      q.completing e = (if q.Queued t ∧ q.completed t = false then some t else none) →
      (∃ l t r, xs = l ++ t :: r ∧ q.completing e = some t ∧ q.handle e = q.tokenComplete t) ∨
        q.handle e = some q := by
    intro t hhandle hcompleting
    by_cases ht : q.Queued t
    · rw [if_pos ht] at hhandle
      cases hc : q.completed t with
      | true => exact .inr (hhandle.trans (tokenComplete_of_completed hc))
      | false =>
          obtain ⟨l, r, hxs⟩ := List.append_of_mem ((h.mem_iff t).2 ⟨ht, hc⟩)
          exact .inl ⟨l, t, r, hxs, hcompleting.trans (if_pos ⟨ht, hc⟩), hhandle⟩
    · exact .inr (hhandle.trans (if_neg ht))
  cases e with
  | queueRequest => exact .inr (.inl rfl)
  | complete t | timerExpired t =>
      exact (hcomplete t rfl rfl).imp_right fun hsame => .inr (.inr hsame)
  | startTimeout t =>
      by_cases ht : t ∈ q.starts
      · exact .inr (.inr (.inl ⟨t, ht, if_pos ht⟩))
      · exact .inr (.inr (.inr (if_neg ht)))

/-- **No event makes the code throw, and every event keeps the list sound.** -/
theorem handle_sound {q : RequestQueue} {xs : List ℕ} (h : q.Sound xs) (e : Event) :
    ∃ q' xs', q.handle e = some q' ∧ q'.Sound xs' := by
  rcases handle_cases h e with ⟨l, t, r, rfl, -, hhandle⟩ | rfl | ⟨t, -, hhandle⟩ | hhandle
  · obtain ⟨q', hq', hs, -⟩ := tokenComplete_spec h
    exact ⟨q', l ++ r, hhandle.trans hq', hs⟩
  · obtain ⟨q', hq', hs, -⟩ := queueRequest_spec h
    exact ⟨q', _, hq', hs⟩
  · exact ⟨_, xs, hhandle, (startTimeout_spec h t).1⟩
  · exact ⟨q, xs, hhandle, h⟩

theorem next_eq_of_handle {q q' : RequestQueue} {e : Event} (h : q.handle e = some q') :
    machine.next q e = q' := by
  simp [Machine.next, machine, h]

/-- **The list is sound in every run.** -/
theorem sound_exec (es : List Event) : ∃ xs, (machine.exec new es).Sound xs := by
  refine Machine.exec_invariant' (I := fun q : RequestQueue => ∃ xs, q.Sound xs) ?_ es ⟨[], sound_new⟩
  rintro q e ⟨xs, h⟩
  obtain ⟨q', xs', hq', hs⟩ := handle_sound h e
  exact ⟨xs', next_eq_of_handle hq' ▸ hs⟩

/-- Whether the event is a call of `queueRequest`. -/
def Event.queues : Event → Bool
  | .queueRequest => true
  | _ => false

/-- A token is made by a call of `queueRequest`, and by nothing else. -/
theorem id_next {q : RequestQueue} {xs : List ℕ} (h : q.Sound xs) (e : Event) :
    (machine.next q e).id = q.id + if e.queues then 1 else 0 := by
  by_cases he : e = .queueRequest
  · subst he
    obtain ⟨q', hq', -, -, hid, -⟩ := queueRequest_spec h
    have hhandle : q.handle .queueRequest = some q' := hq'
    rw [next_eq_of_handle hhandle, hid]
    rfl
  · have hqueues : e.queues = false := by
      cases e with
      | queueRequest => exact absurd rfl he
      | complete t | timerExpired t | startTimeout t => rfl
    rw [hqueues]
    rcases handle_cases h e with ⟨l, t, r, rfl, -, hhandle⟩ | heq | ⟨t, -, hhandle⟩ | hhandle
    · obtain ⟨q', hq', -, -, hid, -⟩ := tokenComplete_spec h
      rw [next_eq_of_handle (hhandle.trans hq')]
      exact hid
    · exact absurd heq he
    · rw [next_eq_of_handle hhandle]
      exact (startTimeout_spec h t).2.2.1
    · rw [next_eq_of_handle hhandle]
      rfl

/-- **The queued tokens are those of the calls of `queueRequest`**, in their order. -/
theorem queued_exec (es : List Event) (t : ℕ) :
    (machine.exec new es).Queued t ↔ 0 < t ∧ t ≤ es.countP Event.queues := by
  have hid : (∃ xs, (machine.exec new es).Sound xs) ∧
      (machine.exec new es).id = es.countP Event.queues := by
    refine Machine.exec_invariant_past (M := machine)
      (I := fun past q => (∃ xs, q.Sound xs) ∧ q.id = past.countP Event.queues) ?_
      ⟨⟨[], sound_new⟩, rfl⟩ es
    rintro past q e ⟨⟨xs, h⟩, hid⟩
    obtain ⟨q', xs', hq', h'⟩ := handle_sound h e
    refine ⟨⟨xs', next_eq_of_handle hq' ▸ h'⟩, ?_⟩
    rw [id_next h e, hid, List.countP_append, List.countP_singleton]
  rw [Queued, hid.2]

/-! ### The head of the list has begun, or will begin -/

/-- **The queue keeps its place**: its pointers hold exactly the tokens that are not completed, in the
order of their insertion, `empty` agrees with them, and the head of the list has begun or its start
timeout is pending. -/
def KeepsPlace (q : RequestQueue) : Prop :=
  ∃ xs, q.Sound xs ∧ (q.empty = true ↔ xs = []) ∧ ∀ t ∈ q.head, t ∈ q.begun ∨ t ∈ q.starts

/-- The invariant that carries it. -/
structure HeadBegins (q : RequestQueue) (xs : List ℕ) : Prop extends Sound q xs where
  head : ∀ t ∈ xs.head?, t ∈ q.begun ∨ t ∈ q.starts

theorem headBegins_new : HeadBegins new [] := ⟨sound_new, nofun⟩

theorem HeadBegins.keepsPlace {q : RequestQueue} {xs : List ℕ} (h : q.HeadBegins xs) :
    q.KeepsPlace := by
  refine ⟨xs, h.toSound, ?_, h.holds.head_eq ▸ h.head⟩
  rw [empty, Option.isNone_iff_eq_none, h.holds.head_eq_none_iff]

/-- A token that is completed gives its place to the token behind it, which begins. -/
theorem HeadBegins.tokenComplete {q : RequestQueue} {l r : List ℕ} {t : ℕ}
    (h : q.HeadBegins (l ++ t :: r)) : ∃ q', q.tokenComplete t = some q' ∧ q'.HeadBegins (l ++ r) := by
  obtain ⟨q', hq', hsound, -, -, hs, hb⟩ := tokenComplete_spec h.toSound
  refine ⟨q', hq', hsound, fun u hu => ?_⟩
  rw [hb, hs]
  cases l with
  | nil => exact .inl (List.mem_append_right _ (by simpa using hu))
  | cons a l => exact (h.head u hu).imp_left (List.mem_append_left _)

/-- A token that joins an empty list will begin; another one leaves the head as it is. -/
theorem HeadBegins.queueRequest {q : RequestQueue} {xs : List ℕ} (h : q.HeadBegins xs) :
    ∃ q', q.queueRequest = some q' ∧ q'.HeadBegins (xs ++ [q.id + 1]) := by
  obtain ⟨q', hq', hsound, -, -, hs, hb⟩ := queueRequest_spec h.toSound
  refine ⟨q', hq', hsound, fun u hu => ?_⟩
  rw [hb, hs]
  cases xs with
  | nil => exact .inr (by simp [show u = q.id + 1 by simpa using hu.symm])
  | cons a xs => exact h.head u hu

/-- A start timeout that fires begins its token, if the token is still in the list. -/
theorem HeadBegins.startTimeout {q : RequestQueue} {xs : List ℕ} (h : q.HeadBegins xs) (t : ℕ) :
    (q.startTimeout t).HeadBegins xs := by
  obtain ⟨hsound, -, -, hs, hb⟩ := startTimeout_spec h.toSound t
  refine ⟨hsound, fun u hu => ?_⟩
  have hmem : u ∈ xs := List.mem_of_head? hu
  have hopen : q.completed u = false := ((h.mem_iff u).1 hmem).2
  rw [hb, hs]
  by_cases hut : u = t
  · subst hut
    rw [hopen]
    exact .inl (by simp)
  · refine (h.head u hu).imp (fun hbegun => ?_) fun hstart => (List.mem_erase_of_ne hut).2 hstart
    split
    · exact hbegun
    · exact List.mem_append_left _ hbegun

/-- **No event makes the code throw, and every event keeps the place of the queue.** -/
theorem HeadBegins.handle {q : RequestQueue} {xs : List ℕ} (h : q.HeadBegins xs) (e : Event) :
    ∃ q' xs', q.handle e = some q' ∧ q'.HeadBegins xs' := by
  rcases handle_cases h.toSound e with ⟨l, t, r, rfl, -, hhandle⟩ | rfl | ⟨t, -, hhandle⟩ | hhandle
  · obtain ⟨q', hq', h'⟩ := HeadBegins.tokenComplete h
    exact ⟨q', _, hhandle.trans hq', h'⟩
  · obtain ⟨q', hq', h'⟩ := h.queueRequest
    exact ⟨q', _, hq', h'⟩
  · exact ⟨_, xs, hhandle, h.startTimeout t⟩
  · exact ⟨q, xs, hhandle, h⟩

/-- **The queue never loses its place**: at every point of every run it keeps its place, and no call
throws. -/
theorem never_loses_place (es : List Event) :
    machine.Always KeepsPlace new es ∧ ∀ reply ∈ machine.replies new es, reply = true := by
  have hstep : ∀ (q : RequestQueue) (e : Event), (∃ xs, q.HeadBegins xs) →
      ∃ xs, (machine.next q e).HeadBegins xs := by
    rintro q e ⟨xs, h⟩
    obtain ⟨q', xs', hq', h'⟩ := h.handle e
    exact ⟨xs', next_eq_of_handle hq' ▸ h'⟩
  constructor
  · intro pre _
    obtain ⟨xs, h⟩ := Machine.exec_invariant' (M := machine) hstep pre ⟨[], headBegins_new⟩
    exact h.keepsPlace
  · have hreplies : ∀ (es : List Event) (q : RequestQueue), (∃ xs, q.HeadBegins xs) →
        ∀ reply ∈ machine.replies q es, reply = true := by
      intro es
      induction es with
      | nil => exact fun _ _ => nofun
      | cons e es ih =>
          rintro q ⟨xs, h⟩ reply hreply
          rcases List.mem_cons.1 hreply with rfl | hreply
          · obtain ⟨q', xs', hq', -⟩ := h.handle e
            simp [Machine.reply, machine, hq']
          · exact ih _ (hstep q e ⟨xs, h⟩) reply hreply
    exact hreplies es new ⟨[], headBegins_new⟩

/-! ### The queue is orderly as long as the completions are at its ends -/

/-- The invariant that carries the order of the queue: the tokens that have begun stand at the
head of the list or have left it, and a start that is pending is the start of the head. -/
structure InOrder (q : RequestQueue) (xs : List ℕ) : Prop extends Sound q xs where
  begun_lt : q.begun.Pairwise (· < ·)
  begun_le : ∀ b ∈ q.begun, ∀ x ∈ xs, b ≤ x
  begun_queued : ∀ b ∈ q.begun, q.Queued b
  starts_nodup : q.starts.Nodup
  starts_le : ∀ t ∈ q.starts, t ≤ q.id
  starts_head : ∀ t ∈ q.starts, q.completed t = false → xs.head? = some t ∧ t ∉ q.begun

theorem inOrder_new : InOrder new [] where
  toSound := sound_new
  begun_lt := List.Pairwise.nil
  begun_le := by simp [new]
  begun_queued := by simp [new]
  starts_nodup := List.nodup_nil
  starts_le := by simp [new]
  starts_head := by simp [new]

theorem InOrder.orderly {q : RequestQueue} {xs : List ℕ} (h : q.InOrder xs) : q.Orderly where
  exclusive := by
    intro i hi j hj hci hcj
    -- both are still in the list, so each stands at or before the other
    have hix : i ∈ xs := (h.mem_iff i).2 ⟨h.begun_queued i hi, hci⟩
    have hjx : j ∈ xs := (h.mem_iff j).2 ⟨h.begun_queued j hj, hcj⟩
    exact le_antisymm (h.begun_le i hi j hjx) (h.begun_le j hj i hix)
  inOrder := h.begun_lt.imp le_of_lt
  once := h.begun_lt.imp ne_of_lt

theorem InOrder.queueRequest {q : RequestQueue} {xs : List ℕ} (h : q.InOrder xs) :
    ∃ q' xs', q.queueRequest = some q' ∧ q'.InOrder xs' := by
  obtain ⟨q', hq', hsound, hc, hid, hs, hb⟩ := queueRequest_spec h.toSound
  have hbid : ∀ b ∈ q.begun, b ≤ q.id := fun b hb => (h.begun_queued b hb).2
  have hstarts : ∀ t ∈ q'.starts, t ∈ q.starts ∨ t = q.id + 1 ∧ xs = [] := by
    intro t ht
    rw [hs] at ht
    split at ht
    · rename_i hxs
      simpa [hxs] using ht
    · exact Or.inl ht
  refine ⟨q', _, hq', hsound, ?_, ?_, ?_, ?_, ?_, ?_⟩
  · rw [hb]; exact h.begun_lt
  · rw [hb]
    intro b hbm x hx
    rcases List.mem_append.1 hx with hx | hx
    · exact h.begun_le b hbm x hx
    · have := hbid b hbm
      rw [List.mem_singleton.1 hx]
      omega
  · rw [hb]
    intro b hbm
    exact ⟨(h.begun_queued b hbm).1, by have := hbid b hbm; omega⟩
  · rw [hs]
    split
    · refine List.nodup_append.2 ⟨h.starts_nodup, List.nodup_singleton _, ?_⟩
      intro t ht u hu
      have := h.starts_le t ht
      rw [List.mem_singleton.1 hu]
      omega
    · exact h.starts_nodup
  · intro t ht
    rcases hstarts t ht with ht | ⟨rfl, -⟩
    · have := h.starts_le t ht
      omega
    · omega
  · rw [hb]
    intro t ht htc
    rcases hstarts t ht with ht | ⟨rfl, rfl⟩
    · obtain ⟨hhead, hnb⟩ := h.starts_head t ht (by rwa [hc t (h.starts_le t ht)] at htc)
      exact ⟨by simp [hhead], hnb⟩
    · refine ⟨rfl, fun hbm => ?_⟩
      have := hbid _ hbm
      omega

/-- A completion at an end of the queue: of the head, which begins the next token, or of the last
token, which begins none. -/
theorem InOrder.tokenComplete {q : RequestQueue} {l r : List ℕ} {t : ℕ}
    (h : q.InOrder (l ++ t :: r)) (hend : l = [] ∨ r = []) :
    ∃ q' xs', q.tokenComplete t = some q' ∧ q'.InOrder xs' := by
  obtain ⟨q', hq', hsound, hc, hid, hs, hb⟩ := tokenComplete_spec h.toSound
  have hcf : ∀ u, q'.completed u = false → u ≠ t ∧ q.completed u = false := by
    intro u hu
    simpa [hc u] using hu
  have hqueued : ∀ u, q'.Queued u ↔ q.Queued u := fun u => by rw [Queued, Queued, hid]
  have hstarts : ∀ u ∈ q'.starts, q'.completed u = false →
      u ≠ t ∧ (l ++ t :: r).head? = some u ∧ u ∉ q.begun := by
    intro u hu huc
    exact ⟨(hcf u huc).1, h.starts_head u (hs ▸ hu) (hcf u huc).2⟩
  have hstarts_le : ∀ u ∈ q'.starts, u ≤ q'.id := fun u hu => hid ▸ h.starts_le u (hs ▸ hu)
  cases r with
  | nil =>
      -- the last token leaves: nothing begins
      have hb' : q'.begun = q.begun := by simpa using hb
      refine ⟨q', l ++ [], hq', hsound, hb' ▸ h.begun_lt, ?_, ?_, hs ▸ h.starts_nodup,
        hstarts_le, ?_⟩
      · intro b hbm x hx
        exact h.begun_le b (hb' ▸ hbm) x (by simp at hx; simp [hx])
      · intro b hbm
        exact (hqueued b).2 (h.begun_queued b (hb' ▸ hbm))
      · intro u hu huc
        obtain ⟨hut, hhead, hnb⟩ := hstarts u hu huc
        refine ⟨?_, hb'.symm ▸ hnb⟩
        cases l with
        | nil => exact absurd (by simpa using hhead.symm) hut
        | cons a l => simpa using hhead
  | cons n r =>
      -- the head leaves: the token behind it begins, after all that have begun
      obtain rfl : l = [] := by simpa using hend
      have hb' : q'.begun = q.begun ++ [n] := by simpa using hb
      have hsorted : ∀ x ∈ n :: r, t < x := (List.pairwise_cons.1 h.sorted).1
      have hbt : ∀ b ∈ q.begun, b ≤ t := fun b hbm => h.begun_le b hbm t (by simp)
      refine ⟨q', n :: r, hq', hsound, ?_, ?_, ?_, hs ▸ h.starts_nodup, hstarts_le, ?_⟩
      · rw [hb']
        refine List.pairwise_append.2 ⟨h.begun_lt, List.pairwise_singleton _ _, ?_⟩
        intro b hbm m hm
        rw [List.mem_singleton.1 hm]
        exact lt_of_le_of_lt (hbt b hbm) (hsorted n (by simp))
      · rw [hb']
        intro b hbm x hx
        rcases List.mem_append.1 hbm with hbm | hbm
        · exact le_of_lt (lt_of_le_of_lt (hbt b hbm) (hsorted x hx))
        · rw [List.mem_singleton.1 hbm]
          rcases List.mem_cons.1 hx with rfl | hx
          · exact le_rfl
          · exact le_of_lt ((List.pairwise_cons.1 hsound.sorted).1 x hx)
      · rw [hb']
        intro b hbm
        rcases List.mem_append.1 hbm with hbm | hbm
        · exact (hqueued b).2 (h.begun_queued b hbm)
        · rw [List.mem_singleton.1 hbm]
          exact ((hsound.mem_iff n).1 (by simp)).1
      · intro u hu huc
        obtain ⟨hut, hhead, -⟩ := hstarts u hu huc
        exact absurd (by simpa using hhead.symm) hut

theorem InOrder.startTimeout {q : RequestQueue} {xs : List ℕ} {t : ℕ} (h : q.InOrder xs)
    (ht : t ∈ q.starts) : (q.startTimeout t).InOrder xs := by
  obtain ⟨hsound, hc, hid, hs, hb⟩ := startTimeout_spec h.toSound t
  have hsub : ∀ u ∈ (q.startTimeout t).starts, u ∈ q.starts := fun u hu =>
    List.mem_of_mem_erase (hs ▸ hu)
  have hqueued : ∀ u, (q.startTimeout t).Queued u ↔ q.Queued u := fun u => by
    rw [Queued, Queued, hid]
  have hnodup : (q.startTimeout t).starts.Nodup := hs ▸ h.starts_nodup.erase t
  have hle : ∀ u ∈ (q.startTimeout t).starts, u ≤ (q.startTimeout t).id := fun u hu =>
    hid ▸ h.starts_le u (hsub u hu)
  cases htc : q.completed t with
  | true =>
      rw [htc, if_pos rfl] at hb
      refine ⟨hsound, hb ▸ h.begun_lt, hb ▸ h.begun_le, ?_, hnodup, hle, ?_⟩
      · exact fun b hbm => (hqueued b).2 (h.begun_queued b (hb ▸ hbm))
      · exact fun u hu huc => hb.symm ▸ h.starts_head u (hsub u hu) (by rwa [hc] at huc)
  | false =>
      rw [htc, if_neg (by simp)] at hb
      -- the token is the head and has not begun: every token that has begun is before it
      obtain ⟨hhead, hnb⟩ := h.starts_head t ht htc
      obtain ⟨xs, rfl⟩ : ∃ ys, xs = t :: ys := by
        cases xs with
        | nil => simp at hhead
        | cons a ys => exact ⟨ys, by simpa using hhead⟩
      refine ⟨hsound, ?_, ?_, ?_, hnodup, hle, ?_⟩
      · rw [hb]
        refine List.pairwise_append.2 ⟨h.begun_lt, List.pairwise_singleton _ _, ?_⟩
        intro b hbm m hm
        rw [List.mem_singleton.1 hm]
        exact lt_of_le_of_ne (h.begun_le b hbm t (by simp)) fun hbt => hnb (hbt ▸ hbm)
      · rw [hb]
        intro b hbm x hx
        rcases List.mem_append.1 hbm with hbm | hbm
        · exact h.begun_le b hbm x hx
        · rw [List.mem_singleton.1 hbm]
          rcases List.mem_cons.1 hx with rfl | hx
          · exact le_rfl
          · exact le_of_lt ((List.pairwise_cons.1 h.sorted).1 x hx)
      · rw [hb]
        intro b hbm
        rcases List.mem_append.1 hbm with hbm | hbm
        · exact (hqueued b).2 (h.begun_queued b hbm)
        · rw [List.mem_singleton.1 hbm]
          exact (hqueued t).2 ((h.mem_iff t).1 (by simp)).1
      · intro u hu huc
        -- a second pending start would be a start of the same head
        obtain ⟨hhead', -⟩ := h.starts_head u (hsub u hu) (by rwa [hc] at huc)
        have hut : u = t := by simpa using hhead'.symm
        subst hut
        exact absurd (hs ▸ hu) h.starts_nodup.not_mem_erase

/-- **The step lemma**: an event that completes, if it completes a token, one at an end of the
queue keeps the order of the queue. -/
theorem InOrder.handle {q : RequestQueue} {xs : List ℕ} (h : q.InOrder xs) {e : Event}
    (he : q.CompletesAtEnd e) : ∃ q' xs', q.handle e = some q' ∧ q'.InOrder xs' := by
  rcases handle_cases h.toSound e with
    ⟨l, t, r, rfl, hcompleting, hhandle⟩ | rfl | ⟨t, ht, hhandle⟩ | hhandle
  · -- the condition says at which end of the list the token is
    have hend : l = [] ∨ r = [] := by
      rcases he t hcompleting with hhead | hnext
      · obtain ⟨r', hr'⟩ := h.holds.head_eq_some_iff.1 hhead
        cases l with
        | nil => exact .inl rfl
        | cons a l =>
            obtain ⟨rfl, -⟩ := List.cons.inj hr'
            exact absurd h.holds.nodup (by simp)
      · rw [h.holds.next_eq l t r rfl, List.head?_eq_none_iff] at hnext
        exact .inr hnext
    obtain ⟨q', xs', hq', h'⟩ := InOrder.tokenComplete h hend
    exact ⟨q', xs', hhandle.trans hq', h'⟩
  · obtain ⟨q', xs', hq', h'⟩ := h.queueRequest
    exact ⟨q', xs', hq', h'⟩
  · exact ⟨_, xs, hhandle, h.startTimeout ht⟩
  · exact ⟨q, xs, hhandle, h⟩

/-- **The queue is orderly at every point of every run whose completions are at its ends.** -/
theorem orderly_of_completesAtEnd {es : List Event}
    (hes : machine.AllSteps CompletesAtEnd new es) : machine.Always Orderly new es := by
  refine Machine.always_of_invariant (I := fun q : RequestQueue => ∃ xs, q.InOrder xs) ?_ ?_ hes
    ⟨[], inOrder_new⟩
  · rintro q e ⟨xs, h⟩ he
    obtain ⟨q', xs', hq', h'⟩ := h.handle he
    exact ⟨xs', next_eq_of_handle hq' ▸ h'⟩
  · rintro q ⟨xs, h⟩
    exact h.orderly

/-- Two requests that run one after the other. -/
theorem orderly_of_two_requests :
    machine.Always Orderly new
      [.queueRequest, .queueRequest, .startTimeout 1, .complete 1, .timerExpired 2] :=
  orderly_of_completesAtEnd (by
    refine ⟨?_, ?_, ?_, ?_, ?_, trivial⟩ <;> simp only [CompletesAtEnd] <;> decide)

/-- A waiting token with a token behind it that completes begins the token behind it while the
head is at work. -/
theorem not_orderly_of_waiting_completes :
    ¬ machine.Always Orderly new
      [.queueRequest, .queueRequest, .queueRequest, .startTimeout 1, .timerExpired 2] := by
  intro h
  have horderly := h _ (List.prefix_refl _)
  have h₁₃ : 1 = 3 := horderly.exclusive 1 (by decide) 3 (by decide) (by decide) (by decide)
  omega

/-- **The condition is exact.**  A completion inside the queue begins a token out of its turn: if
the head completes next, the queue is not orderly any more. -/
theorem not_orderly_of_not_completesAtEnd {q : RequestQueue} {xs : List ℕ} (h : q.InOrder xs)
    {e : Event} (he : ¬ q.CompletesAtEnd e) :
    ∃ a, (machine.next q e).head = some a ∧
      ¬ (machine.next (machine.next q e) (.complete a)).Orderly := by
  obtain ⟨t, hte, hhead, hnext⟩ :
      ∃ t, q.completing e = some t ∧ q.head ≠ some t ∧ q.next t ≠ none := by
    simpa [CompletesAtEnd, not_or] using he
  obtain ⟨ht, hc, hq⟩ : q.Queued t ∧ q.completed t = false ∧
      q.handle e = q.tokenComplete t := by
    cases e with
    | queueRequest => simp [completing] at hte
    | startTimeout u => simp [completing] at hte
    | complete u | timerExpired u =>
        by_cases hu : q.Queued u ∧ q.completed u = false
        · obtain rfl : u = t := by simpa [completing, hu] using hte
          exact ⟨hu.1, hu.2, if_pos hu.1⟩
        · simp [completing, hu] at hte
  obtain ⟨l, r, rfl⟩ := List.append_of_mem ((h.mem_iff t).2 ⟨ht, hc⟩)
  rw [h.holds.next_eq l t r rfl] at hnext
  obtain ⟨n, r, rfl⟩ : ∃ n r', r = n :: r' := List.ne_nil_iff_exists_cons.1 (by simpa using hnext)
  obtain ⟨a, l, rfl⟩ : ∃ a l', l = a :: l' := by
    refine List.ne_nil_iff_exists_cons.1 ?_
    rintro rfl
    exact hhead (by rw [h.holds.head_eq]; rfl)
  obtain ⟨q₁, hq₁, hsound₁, -, -, -, hb₁⟩ := tokenComplete_spec h.toSound
  have hnext₁ : machine.next q e = q₁ := next_eq_of_handle (hq.trans hq₁)
  obtain ⟨q₂, hq₂, -, -, -, -, hb₂⟩ := tokenComplete_spec (l := []) hsound₁
  have ha : q₁.Queued a := ((hsound₁.mem_iff a).1 (by simp)).1
  have hnext₂ : machine.next q₁ (.complete a) = q₂ := next_eq_of_handle ((if_pos ha).trans hq₂)
  refine ⟨a, by rw [hnext₁, hsound₁.holds.head_eq]; rfl, ?_⟩
  rw [hnext₁, hnext₂]
  intro hord
  -- the token behind the head is `n`, which has begun, or a token before it
  obtain ⟨m, hm, hmn⟩ : ∃ m, (l ++ n :: r).head? = some m ∧ m ≤ n := by
    cases l with
    | nil => exact ⟨n, rfl, le_rfl⟩
    | cons m l =>
        have hs : (a :: m :: (l ++ n :: r)).Pairwise (· < ·) := hsound₁.sorted
        exact ⟨m, rfl, le_of_lt ((List.pairwise_cons.1 (List.pairwise_cons.1 hs).2).1 n (by simp))⟩
  have hb₂' : q₂.begun = q₁.begun ++ (l ++ n :: r).head?.toList := hb₂
  have hb : q₂.begun = q.begun ++ [n] ++ [m] := by
    rw [hb₂', hb₁, hm]
    rfl
  have hlt : n ≤ m ∧ n ≠ m := by
    have h₁ := hord.inOrder
    have h₂ := hord.once
    rw [hb] at h₁ h₂
    exact ⟨(List.pairwise_append.1 h₁).2.2 n (by simp) m (by simp),
      (List.nodup_append.1 h₂).2.2 n (by simp) m (by simp)⟩
  exact hlt.2 (le_antisymm hlt.1 hmn)

end RequestQueue

end U2F
