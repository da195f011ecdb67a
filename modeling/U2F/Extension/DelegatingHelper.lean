/-
**One result from several helpers.**

`delegatinghelper.js` runs a list of helpers for one request and passes on the first success, or the
error of the last helper that is still running.  A helper can complete at any time after it has been
started, also before its `run()` has returned, and more than once.

Main definitions:

* `DelegatingRequestHandler` — the handler, with the point that its `run()` has reached;
* `DelegatingRequestHandler.helperComplete`, `DelegatingRequestHandler.close` — the code;
* `DelegatingRequestHandler.machine` — the handler as a machine, whose events are what the helpers
  and the caller do;
* `DelegatingRequestHandler.OneResult` — one result, neither early nor lost;
* `DelegatingRequestHandler.Counted` — the condition on a step under which the count of running
  helpers is right when it is used.

Main results:

* `DelegatingRequestHandler.oneResult_of_counted` — **one result in every run of such steps**.
-/

import Mathlib.Data.List.Nodup
import Mathlib.Logic.Function.Basic
import U2F.Lib.Machine

set_option relaxedAutoImplicit false
set_option autoImplicit false

namespace U2F

/-- The reply of a helper; a code that is absent or zero means success. -/
structure HelperReply (α : Type) where
  code : Option ℤ
  content : α

/-- `if (reply.code)` -/
def HelperReply.failed {α : Type} (reply : HelperReply α) : Bool := reply.code.getD 0 ≠ 0

/-- The handler of a helper, and whether its `close()` has been called. -/
structure DelegatedHandler where
  closed : Bool

structure DelegatedHandlerTracker where
  /-- Null until the helper has given a handler, which is run at once. -/
  handler : Option DelegatedHandler
  complete : Bool

/-- The point that `run()` has reached. -/
inductive RunPhase
  /-- `run()` has not been called. -/
  | unused
  /-- The loop asks the `i`-th helper for a handler. -/
  | asking (i : ℕ)
  /-- `run()` of the `i`-th helper's handler is on the stack. -/
  | running (i : ℕ)
  /-- `run()` has returned. -/
  | returned
  deriving DecidableEq

/-- The handler, and a record of what has happened. -/
structure DelegatingRequestHandler (α : Type) where
  trackers : ℕ → DelegatedHandlerTracker
  done : Bool
  stillRunningHelpers : ℕ
  phase : RunPhase
  /-- The calls of the callback. -/
  called : List (HelperReply α × Option String)
  /-- Whether the caller has called `close()`. -/
  closeCalled : Bool
  /-- The helpers that have accepted the request; `run()` returns whether there are any. -/
  accepted : List ℕ
  /-- The helpers that have completed before the result was given or the handler closed. -/
  completed : List ℕ

namespace DelegatingRequestHandler

variable {α : Type}

/-- The constructor. -/
def new : DelegatingRequestHandler α :=
  ⟨fun _ => ⟨none, false⟩, false, 0, .unused, [], false, [], []⟩

/-! ### The code -/

def close (s : DelegatingRequestHandler α) : DelegatingRequestHandler α :=
  { s with
    done := true
    trackers := fun i =>
      { s.trackers i with handler := (s.trackers i).handler.map fun _ => ⟨true⟩ } }

/-- A call of the callback. -/
def cb (reply : HelperReply α) (source : Option String) (s : DelegatingRequestHandler α) :
    DelegatingRequestHandler α :=
  { s with called := s.called ++ [(reply, source)] }

def setComplete (i : ℕ) (s : DelegatingRequestHandler α) : DelegatingRequestHandler α :=
  { s with trackers := Function.update s.trackers i { s.trackers i with complete := true } }

def setCount (count : ℕ) (s : DelegatingRequestHandler α) : DelegatingRequestHandler α :=
  { s with stillRunningHelpers := count }

def helperComplete (index : ℕ) (reply : HelperReply α) (source : Option String)
    (s : DelegatingRequestHandler α) : DelegatingRequestHandler α :=
  if s.done then s
  else if (s.trackers index).complete then s
  else
    let s := s.setComplete index
    if reply.failed then
      if s.stillRunningHelpers = 0 then s
      else
        let s := s.setCount (s.stillRunningHelpers - 1)
        if s.stillRunningHelpers = 0 then s.close.cb reply source else s
    else s.close.cb reply source

/-- The head of the loop over `n` helpers. -/
def enter (n i : ℕ) (s : DelegatingRequestHandler α) : DelegatingRequestHandler α :=
  { s with phase := if i < n then .asking i else .returned }

/-- The call of `run()`; it returns at once if it has been called before. -/
def run (n : ℕ) (s : DelegatingRequestHandler α) : DelegatingRequestHandler α :=
  match s.phase with
  | .unused => s.enter n 0
  | _ => s

/-- The handler of a helper is stored and run. -/
def runHandler (i : ℕ) (s : DelegatingRequestHandler α) : DelegatingRequestHandler α :=
  { s with
    trackers := Function.update s.trackers i { s.trackers i with handler := some ⟨false⟩ }
    phase := .running i }

/-- `getHandler` of a helper returns, and the handler, if there is one, is run. -/
def callHelper (n : ℕ) (hasHandler : Bool) (s : DelegatingRequestHandler α) :
    DelegatingRequestHandler α :=
  match s.phase with
  | .asking i =>
      if hasHandler then s.runHandler i else s.enter n (i + 1)
  | _ => s

/-- `run()` of a helper's handler returns.  A helper that has completed accepts the request. -/
def helperReturns (n : ℕ) (accepts : Bool) (s : DelegatingRequestHandler α) :
    DelegatingRequestHandler α :=
  match s.phase with
  | .running i =>
      if accepts then
        { s with
          stillRunningHelpers := s.stillRunningHelpers + 1
          accepted := s.accepted ++ [i] }.enter n (i + 1)
      else if i ∈ s.completed then s
      else s.enter n (i + 1)
  | _ => s

/-! ### The handler as a machine -/

/-- What the caller and the helpers can do. -/
inductive Event (α : Type)
  | run
  /-- `getHandler` of the helper that is asked returns. -/
  | callHelper (hasHandler : Bool)
  /-- `run()` of the helper's handler that is on the stack returns. -/
  | helperReturns (accepts : Bool)
  /-- A helper calls its completion. -/
  | complete (i : ℕ) (reply : HelperReply α) (source : Option String)
  /-- The caller calls `close()`. -/
  | close

/-- The result has been given, or the caller has closed the handler. -/
def Finished (s : DelegatingRequestHandler α) : Prop := s.called ≠ [] ∨ s.closeCalled = true

/-- A helper can complete when it has accepted, or from inside its `run()`. -/
def CanComplete (s : DelegatingRequestHandler α) (i : ℕ) : Prop :=
  s.phase = .running i ∨ i ∈ s.accepted

instance (s : DelegatingRequestHandler α) (i : ℕ) : Decidable (s.CanComplete i) := by
  unfold CanComplete; infer_instance

instance (s : DelegatingRequestHandler α) : Decidable s.Finished := by
  unfold Finished; infer_instance

/-- A first completion, for the record. -/
def record (i : ℕ) (s : DelegatingRequestHandler α) : DelegatingRequestHandler α :=
  if s.Finished ∨ i ∈ s.completed then s else { s with completed := s.completed ++ [i] }

/-- The handler after an event.  An event that cannot happen changes nothing. -/
def handle (n : ℕ) (s : DelegatingRequestHandler α) : Event α → DelegatingRequestHandler α
  | .run => s.run n
  | .callHelper hasHandler => s.callHelper n hasHandler
  | .helperReturns accepts => s.helperReturns n accepts
  | .complete i reply source =>
      if s.CanComplete i then (s.record i).helperComplete i reply source else s
  | .close => { s.close with closeCalled := true }

/-- **The handler as a machine**, for `n` helpers. -/
def machine (n : ℕ) : Machine (DelegatingRequestHandler α) (Event α) Unit :=
  ⟨fun s e => ((), s.handle n e)⟩

/-! ### One result -/

/-- The helper's handler has been run. -/
def Ran (s : DelegatingRequestHandler α) (i : ℕ) : Prop := (s.trackers i).handler ≠ none

/-- What holds at every point: at most one result; all handlers closed once it has been given or
`close()` has been called; no error while an accepted helper has not completed; no error lost, once
all accepted helpers have completed. -/
structure Sound (s : DelegatingRequestHandler α) : Prop where
  once : s.called.length ≤ 1
  allClosed : s.Finished → ∀ i, s.Ran i → (s.trackers i).handler = some ⟨true⟩
  notEarly : ∀ reply source, s.called = [(reply, source)] → reply.failed = true →
    ∀ i ∈ s.accepted, i ∈ s.completed
  notLost : s.phase = .returned → ¬ s.Finished → s.accepted ≠ [] → ∃ i ∈ s.accepted, i ∉ s.completed

/-- What holds of every step: nothing is run or called after the end; the first success is the
result; and a result is given only when a helper completes with it. -/
structure SoundStep (n : ℕ) (s : DelegatingRequestHandler α) (e : Event α) : Prop where
  noFurther : s.Finished → ((machine n).next s e).called = s.called ∧
    ∀ i, ((machine n).next s e).Ran i → s.Ran i
  success : ∀ i reply source, e = .complete i reply source → s.CanComplete i → ¬ s.Finished →
    i ∉ s.completed → reply.failed = false → ((machine n).next s e).called = [(reply, source)]
  calls : ((machine n).next s e).called = s.called ∨ ∃ i reply source, e = .complete i reply source ∧
    s.CanComplete i ∧ i ∉ s.completed ∧ ((machine n).next s e).called = [(reply, source)]

/-- **What the handler is for.** -/
structure OneResult (n : ℕ) (events : List (Event α)) : Prop where
  always : (machine n).Always Sound new events
  steps : (machine n).AllSteps (SoundStep n) new events

/-! ### The condition on a step -/

/-- The handler whose `run()` is on the stack has completed. -/
def SelfCompleted (s : DelegatingRequestHandler α) (i : ℕ) : Prop :=
  s.phase = .running i ∧ i ∈ s.completed

/-- No helper is run after the end; an error that arrives while a helper that has completed is still
in its `run()` finds two helpers counted; and a helper that accepts has completed, if an error has
been given as the result. -/
def Counted (s : DelegatingRequestHandler α) : Event α → Prop
  | .callHelper hasHandler => hasHandler = true → s.done = false
  | .complete i reply _ => s.CanComplete i → s.done = false → i ∉ s.completed →
      reply.failed = true →
      (∃ j, s.phase = .running j ∧ (j = i ∨ j ∈ s.completed)) → 2 ≤ s.stillRunningHelpers
  | .helperReturns accepts => accepts = true → ∀ i, s.phase = .running i →
      i ∈ s.completed ∨ ∀ call ∈ s.called, call.1.failed = false
  | _ => True

/-! ### The invariant -/

/-- The helper has not been reached by the loop. -/
def Ahead (i : ℕ) : RunPhase → Prop
  | .unused => True
  | .asking j => j ≤ i
  | .running j => j < i
  | .returned => False

/-- **The count.**  Of the helpers that have accepted and not completed, a helper that completes in
its own `run()` is not one; until it returns, the count is one too small. -/
structure Count (s : DelegatingRequestHandler α) (running : List ℕ) : Prop where
  nodup : running.Nodup
  mem_iff : ∀ i, i ∈ running ↔ i ∈ s.accepted ∧ i ∉ s.completed
  ne_nil : s.accepted ≠ [] → running ≠ []
  exact : (∀ i, ¬ s.SelfCompleted i) → s.stillRunningHelpers = running.length
  oneLess : ∀ i, s.SelfCompleted i → s.stillRunningHelpers + 1 = running.length ∧ 2 ≤ running.length

/-- **The invariant.** -/
structure Inv (s : DelegatingRequestHandler α) : Prop where
  done_iff : s.done = true ↔ s.Finished
  once : s.called.length ≤ 1
  complete_iff : s.done = false → ∀ i, (s.trackers i).complete = true ↔ i ∈ s.completed
  ahead : ∀ i, Ahead i s.phase → ¬ s.Ran i
  ran : ∀ i, s.CanComplete i ∨ i ∈ s.completed → s.Ran i
  notYet : ∀ i, s.phase = .running i → i ∉ s.accepted
  allClosed : s.done = true → ∀ i, s.Ran i → (s.trackers i).handler = some ⟨true⟩
  notEarly : ∀ call ∈ s.called, call.1.failed = true → ∀ i ∈ s.accepted, i ∈ s.completed
  count : s.done = false → ∃ running, s.Count running

theorem Inv.sound {s : DelegatingRequestHandler α} (h : s.Inv) : s.Sound where
  once := h.once
  allClosed hfinished := h.allClosed (h.done_iff.2 hfinished)
  notEarly reply source hcalled hfailed :=
    h.notEarly (reply, source) (hcalled ▸ List.mem_singleton_self _) hfailed
  notLost _ hfinished haccepted := by
    have hdone : s.done = false := by
      rw [Bool.eq_false_iff, ne_eq, h.done_iff]
      exact hfinished
    obtain ⟨running, hcount⟩ := h.count hdone
    obtain ⟨i, hi⟩ := List.exists_mem_of_ne_nil running (hcount.ne_nil haccepted)
    exact ⟨i, (hcount.mem_iff i).1 hi⟩

theorem inv_new : (new : DelegatingRequestHandler α).Inv where
  done_iff := by simp [new, Finished]
  once := Nat.zero_le _
  complete_iff _ i := by simp [new]
  ahead _ _ h := h rfl
  ran i h := by simp [CanComplete, new] at h
  notYet i h := by cases h
  allClosed h := by cases h
  notEarly _ h := by cases h
  count _ := ⟨[], List.nodup_nil, fun i => by simp [new], fun h => absurd rfl h, fun _ => rfl,
    fun i h => by cases h.1⟩

/-! ### The loop of `run()` -/

theorem phase_enter (n i : ℕ) (s : DelegatingRequestHandler α) :
    (∀ j, (s.enter n i).phase ≠ .running j) ∧ ∀ j, Ahead j (s.enter n i).phase → i ≤ j := by
  by_cases hi : i < n <;> simp [enter, hi, Ahead]

/-- The loop goes on to the next helper. -/
theorem Inv.enter {s : DelegatingRequestHandler α} (h : s.Inv) {i : ℕ} (n : ℕ)
    (hahead : ∀ j, i ≤ j → ¬ s.Ran j) (hself : ∀ j, ¬ s.SelfCompleted j) : (s.enter n i).Inv := by
  obtain ⟨hphase, hle⟩ := phase_enter n i s
  refine ⟨h.done_iff, h.once, h.complete_iff, fun j hj => hahead j (hle j hj), ?_,
    fun j hj => absurd hj (hphase j), h.allClosed, h.notEarly, ?_⟩
  · rintro j ((hj | hj) | hj)
    · exact absurd hj (hphase j)
    · exact h.ran j (.inl (.inr hj))
    · exact h.ran j (.inr hj)
  · intro hdone
    obtain ⟨running, hcount⟩ := h.count hdone
    exact ⟨running, hcount.nodup, hcount.mem_iff, hcount.ne_nil, fun _ => hcount.exact hself,
      fun j hj => absurd hj.1 (hphase j)⟩

theorem Inv.run {s : DelegatingRequestHandler α} (h : s.Inv) (n : ℕ) : (s.run n).Inv := by
  unfold DelegatingRequestHandler.run
  cases hphase : s.phase with
  | unused =>
      refine h.enter n (fun j _ => h.ahead j ?_) fun j hj => ?_
      · rw [hphase]
        trivial
      · cases hphase.symm.trans hj.1
  | _ => exact h

theorem ran_runHandler (s : DelegatingRequestHandler α) (i j : ℕ) :
    (s.runHandler i).Ran j ↔ j = i ∨ s.Ran j := by
  by_cases hj : j = i
  · simp [Ran, runHandler, hj]
  · simp [Ran, runHandler, hj]

theorem complete_runHandler (s : DelegatingRequestHandler α) (i j : ℕ) :
    ((s.runHandler i).trackers j).complete = (s.trackers j).complete := by
  by_cases hj : j = i
  · simp [runHandler, hj]
  · simp [runHandler, hj]

/-- A handler is run, if the end has not come. -/
theorem Inv.runHandler {s : DelegatingRequestHandler α} (h : s.Inv) {i : ℕ}
    (hphase : s.phase = .asking i) (hdone : s.done = false) : (s.runHandler i).Inv := by
  have hself : ∀ j, ¬ s.SelfCompleted j := fun j hj => by cases hphase.symm.trans hj.1
  have hahead : ∀ j, i ≤ j → ¬ s.Ran j := fun j hj => h.ahead j (by rw [hphase]; exact hj)
  have hnew : i ∉ s.accepted ∧ i ∉ s.completed :=
    ⟨fun hi => hahead i (Nat.le_refl i) (h.ran i (.inl (.inr hi))),
      fun hi => hahead i (Nat.le_refl i) (h.ran i (.inr hi))⟩
  refine ⟨h.done_iff, h.once, fun _ j => ?_, fun j hj => ?_, fun j hj => ?_, fun j hj => ?_,
    fun hd => absurd (hdone.symm.trans hd) (by simp), h.notEarly, fun _ => ?_⟩
  · rw [complete_runHandler]
    exact h.complete_iff hdone j
  · have hlt : i < j := hj
    rw [ran_runHandler]
    rintro (rfl | hran)
    · omega
    · exact hahead j (by omega) hran
  · rw [ran_runHandler]
    rcases hj with (hj | hj) | hj
    · exact .inl (RunPhase.running.inj hj).symm
    · exact .inr (h.ran j (.inl (.inr hj)))
    · exact .inr (h.ran j (.inr hj))
  · obtain rfl := RunPhase.running.inj hj
    exact hnew.1
  · obtain ⟨running, hcount⟩ := h.count hdone
    refine ⟨running, hcount.nodup, hcount.mem_iff, hcount.ne_nil, fun _ => hcount.exact hself, ?_⟩
    rintro j ⟨hj, hcompleted⟩
    obtain rfl := RunPhase.running.inj hj
    exact absurd hcompleted hnew.2

theorem Inv.callHelper {s : DelegatingRequestHandler α} (h : s.Inv) (n : ℕ) {hasHandler : Bool}
    (hcounted : s.Counted (.callHelper hasHandler)) : (s.callHelper n hasHandler).Inv := by
  unfold DelegatingRequestHandler.callHelper
  cases hphase : s.phase with
  | asking i =>
      cases hasHandler with
      | true => exact h.runHandler hphase (hcounted rfl)
      | false =>
          refine h.enter n (fun j hj => h.ahead j ?_) fun j hj => ?_
          · rw [hphase]
            exact Nat.le_of_succ_le hj
          · cases hphase.symm.trans hj.1
  | _ => exact h

/-- The loop after a helper has accepted the request. -/
theorem Inv.accept {s : DelegatingRequestHandler α} (h : s.Inv) {i : ℕ} (n : ℕ)
    (hphase : s.phase = .running i)
    (hcounted : i ∈ s.completed ∨ ∀ call ∈ s.called, call.1.failed = false) :
    ({ s with
      stillRunningHelpers := s.stillRunningHelpers + 1
      accepted := s.accepted ++ [i] }.enter n (i + 1)).Inv := by
  have hran : s.Ran i := h.ran i (.inl (.inl hphase))
  have hnew : i ∉ s.accepted := h.notYet i hphase
  obtain ⟨hphase', hle⟩ := phase_enter n (i + 1) { s with
      stillRunningHelpers := s.stillRunningHelpers + 1
      accepted := s.accepted ++ [i] }
  refine ⟨h.done_iff, h.once, h.complete_iff, fun j hj => h.ahead j ?_, ?_,
    fun j hj => absurd hj (hphase' j), h.allClosed, ?_, fun hdone => ?_⟩
  · have hlt := hle j hj
    rw [hphase]
    exact hlt
  · rintro j ((hj | hj) | hj)
    · exact absurd hj (hphase' j)
    · rcases List.mem_append.1 hj with hj | hj
      · exact h.ran j (.inl (.inr hj))
      · rw [List.mem_singleton.1 hj]
        exact hran
    · exact h.ran j (.inr hj)
  · intro call hcall hfailed j hj
    rcases List.mem_append.1 hj with hj | hj
    · exact h.notEarly call hcall hfailed j hj
    · rw [List.mem_singleton.1 hj]
      refine hcounted.resolve_right fun hall => ?_
      rw [hall call hcall] at hfailed
      cases hfailed
  · obtain ⟨running, hcount⟩ := h.count hdone
    by_cases hself : i ∈ s.completed
    · -- it has completed in its own run, and the count is right again
      obtain ⟨hlength, htwo⟩ := hcount.oneLess i ⟨hphase, hself⟩
      refine ⟨running, hcount.nodup, fun j => ?_, fun _ hnil => ?_, fun _ => hlength,
        fun j hj => absurd hj.1 (hphase' j)⟩
      · rw [hcount.mem_iff]
        change _ ↔ j ∈ s.accepted ++ [i] ∧ j ∉ s.completed
        rw [List.mem_append, List.mem_singleton]
        constructor
        · exact fun hj => ⟨.inl hj.1, hj.2⟩
        · rintro ⟨hj | rfl, hnot⟩
          · exact ⟨hj, hnot⟩
          · exact absurd hself hnot
      · rw [hnil] at htwo
        cases htwo
    · -- it is one more helper that is running
      have hexact := hcount.exact fun j hj => hself (by
        obtain rfl := RunPhase.running.inj (hphase.symm.trans hj.1)
        exact hj.2)
      refine ⟨running ++ [i], ?_, fun j => ?_, fun _ => by simp, fun _ => ?_,
        fun j hj => absurd hj.1 (hphase' j)⟩
      · rw [List.nodup_append]
        refine ⟨hcount.nodup, List.nodup_singleton i, fun a ha b hb => ?_⟩
        rw [List.mem_singleton.1 hb]
        rintro rfl
        exact hnew ((hcount.mem_iff a).1 ha).1
      · change _ ↔ j ∈ s.accepted ++ [i] ∧ j ∉ s.completed
        rw [List.mem_append, List.mem_append, hcount.mem_iff, List.mem_singleton]
        constructor
        · rintro (hj | rfl)
          · exact ⟨.inl hj.1, hj.2⟩
          · exact ⟨.inr rfl, hself⟩
        · rintro ⟨hj | rfl, hnot⟩
          · exact .inl ⟨hj, hnot⟩
          · exact .inr rfl
      · rw [List.length_append, List.length_singleton, ← hexact]
        rfl

theorem Inv.helperReturns {s : DelegatingRequestHandler α} (h : s.Inv) (n : ℕ) {accepts : Bool}
    (hcounted : s.Counted (.helperReturns accepts)) : (s.helperReturns n accepts).Inv := by
  unfold DelegatingRequestHandler.helperReturns
  cases hphase : s.phase with
  | running i =>
      cases accepts with
      | true => exact h.accept n hphase (hcounted rfl i hphase)
      | false =>
          by_cases hself : i ∈ s.completed
          · simp only [Bool.false_eq_true, if_false, if_pos hself]
            exact h
          · simp only [Bool.false_eq_true, if_false, if_neg hself]
            refine h.enter n (fun j hj => h.ahead j ?_) fun j hj => hself ?_
            · rw [hphase]
              exact hj
            · obtain rfl := RunPhase.running.inj (hphase.symm.trans hj.1)
              exact hj.2
  | _ => exact h

/-! ### The end -/

theorem ran_close (s : DelegatingRequestHandler α) (i : ℕ) : s.close.Ran i ↔ s.Ran i := by
  simp [Ran, close]

/-- `close()` closes every handler that has been run. -/
theorem handler_close {s : DelegatingRequestHandler α} {i : ℕ} (h : s.Ran i) :
    (s.close.trackers i).handler = some ⟨true⟩ := by
  obtain ⟨handler, hhandler⟩ := Option.ne_none_iff_exists'.1 h
  simp [close, hhandler]

/-- The caller closes the handler. -/
theorem Inv.close {s : DelegatingRequestHandler α} (h : s.Inv) :
    ({ s.close with closeCalled := true } : DelegatingRequestHandler α).Inv where
  done_iff := iff_of_true rfl (.inr rfl)
  once := h.once
  complete_iff hd := by cases hd
  ahead j hj hran := h.ahead j hj ((ran_close s j).1 hran)
  ran j hj := (ran_close s j).2 (h.ran j hj)
  notYet := h.notYet
  allClosed _ j hran := handler_close ((ran_close s j).1 hran)
  notEarly := h.notEarly
  count hd := by cases hd

theorem ran_setComplete (s : DelegatingRequestHandler α) (i j : ℕ) :
    (s.setComplete i).Ran j ↔ s.Ran j := by
  by_cases hj : j = i
  · simp [Ran, setComplete, hj]
  · simp [Ran, setComplete, hj]

theorem complete_setComplete (s : DelegatingRequestHandler α) (i j : ℕ) :
    ((s.setComplete i).trackers j).complete = true ↔ j = i ∨ (s.trackers j).complete = true := by
  by_cases hj : j = i
  · simp [setComplete, hj]
  · simp [setComplete, hj]

/-- A first completion. -/
def completeFirst (i : ℕ) (s : DelegatingRequestHandler α) : DelegatingRequestHandler α :=
  { s with completed := s.completed ++ [i] }.setComplete i

theorem mem_completed_completeFirst (s : DelegatingRequestHandler α) (i j : ℕ) :
    j ∈ (s.completeFirst i).completed ↔ j ∈ s.completed ∨ j = i := by
  simp [completeFirst, setComplete]

theorem ran_completeFirst (s : DelegatingRequestHandler α) (i j : ℕ) :
    (s.completeFirst i).Ran j ↔ s.Ran j :=
  ran_setComplete _ i j

/-- The result is given; if it is an error, all accepted helpers have completed. -/
theorem Inv.result {s : DelegatingRequestHandler α} (h : s.Inv) (hdone : s.done = false) {i : ℕ}
    (hi : s.CanComplete i) {reply : HelperReply α} (source : Option String)
    (hlast : reply.failed = true → ∀ j ∈ s.accepted, j ∈ s.completed ∨ j = i) (count : ℕ) :
    ((s.completeFirst i).setCount count |>.close.cb reply source).Inv where
  done_iff := iff_of_true rfl (.inl (by simp [cb]))
  once := by
    have hnil : s.called = [] := by
      by_contra hne
      simp [h.done_iff.2 (.inl hne)] at hdone
    simp [cb, DelegatingRequestHandler.close, setCount, completeFirst, setComplete, hnil]
  complete_iff hd := by cases hd
  ahead j hj hran := h.ahead j hj ((ran_completeFirst s i j).1 ((ran_close _ j).1 hran))
  ran j hj := by
    refine (ran_close _ j).2 ((ran_completeFirst s i j).2 ?_)
    rcases hj with hj | hj
    · exact h.ran j (.inl hj)
    · rcases (mem_completed_completeFirst s i j).1 hj with hj | rfl
      · exact h.ran j (.inr hj)
      · exact h.ran j (.inl hi)
  notYet := h.notYet
  allClosed _ j hran := handler_close ((ran_close _ j).1 hran)
  notEarly call hcall hfailed j hj := by
    refine (mem_completed_completeFirst s i j).2 ?_
    rcases List.mem_append.1 hcall with hcall | hcall
    · exact .inl (h.notEarly call hcall hfailed j hj)
    · rw [List.mem_singleton.1 hcall] at hfailed
      exact hlast hfailed j hj
  count hd := by cases hd

/-- An error of a helper that is not the last one. -/
theorem Inv.decrement {s : DelegatingRequestHandler α} (h : s.Inv) (hdone : s.done = false) {i : ℕ}
    (hi : s.CanComplete i) {running : List ℕ}
    (hcount : ((s.completeFirst i).setCount (s.stillRunningHelpers - 1)).Count running) :
    ((s.completeFirst i).setCount (s.stillRunningHelpers - 1)).Inv where
  done_iff := h.done_iff
  once := h.once
  complete_iff _ j := by
    refine (complete_setComplete _ i j).trans (Or.comm.trans ?_)
    exact (or_congr_left (h.complete_iff hdone j)).trans (mem_completed_completeFirst s i j).symm
  ahead j hj hran := h.ahead j hj ((ran_completeFirst s i j).1 hran)
  ran j hj := by
    refine (ran_completeFirst s i j).2 ?_
    rcases hj with hj | hj
    · exact h.ran j (.inl hj)
    · rcases (mem_completed_completeFirst s i j).1 hj with hj | rfl
      · exact h.ran j (.inr hj)
      · exact h.ran j (.inl hi)
  notYet := h.notYet
  allClosed hd := absurd (hdone.symm.trans hd) (by simp)
  notEarly call hcall hfailed j hj :=
    (mem_completed_completeFirst s i j).2 (.inl (h.notEarly call hcall hfailed j hj))
  count _ := ⟨running, hcount⟩

/-- What a first completion does. -/
theorem helperComplete_record {s : DelegatingRequestHandler α} (h : s.Inv) (hdone : s.done = false)
    {i : ℕ} (hi : i ∉ s.completed) (reply : HelperReply α) (source : Option String) :
    (s.record i).helperComplete i reply source =
      if reply.failed = true then
        if s.stillRunningHelpers = 0 then s.completeFirst i
        else if s.stillRunningHelpers - 1 = 0 then
          ((s.completeFirst i).setCount (s.stillRunningHelpers - 1)).close.cb reply source
        else (s.completeFirst i).setCount (s.stillRunningHelpers - 1)
      else (s.completeFirst i).close.cb reply source := by
  have hfinished : ¬ (s.Finished ∨ i ∈ s.completed) := by
    rw [← h.done_iff, hdone]
    simpa using hi
  have hcomplete : ¬ (s.trackers i).complete = true := by
    rwa [h.complete_iff hdone]
  have hrecord : s.record i = { s with completed := s.completed ++ [i] } := by
    rw [record, if_neg hfinished]
  rw [hrecord, helperComplete, if_neg (by simp [hdone]), if_neg hcomplete]
  rfl

/-- A completion that comes too late, or again. -/
theorem helperComplete_eq_self {s : DelegatingRequestHandler α} (h : s.Inv) {i : ℕ}
    (hi : s.done = true ∨ i ∈ s.completed) (reply : HelperReply α) (source : Option String) :
    (s.record i).helperComplete i reply source = s := by
  rw [record, if_pos (by rwa [h.done_iff] at hi), helperComplete]
  cases hdone : s.done with
  | true => rfl
  | false =>
      have hmem : i ∈ s.completed := hi.resolve_left (by simp [hdone])
      rw [if_neg (by simp), if_pos ((h.complete_iff hdone i).2 hmem)]

/-- The helpers that are still running when one of them has completed. -/
theorem Count.erase {s : DelegatingRequestHandler α} {running : List ℕ} (hcount : s.Count running)
    (i j : ℕ) :
    j ∈ running.erase i ↔ j ∈ s.accepted ∧ j ∉ (s.completeFirst i).completed := by
  rw [hcount.nodup.mem_erase_iff, hcount.mem_iff, mem_completed_completeFirst, not_or]
  exact ⟨fun ⟨hne, ha, hc⟩ => ⟨ha, hc, hne⟩, fun ⟨ha, hc, hne⟩ => ⟨hne, ha, hc⟩⟩

/-- An error of a helper in its own `run()`: the helpers that are running are the same, and the count
is one too small until it returns. -/
theorem Count.ownError {s : DelegatingRequestHandler α} {running : List ℕ} (hcount : s.Count running)
    {i : ℕ} (hphase : s.phase = .running i) (haccepted : i ∉ s.accepted) (hnew : i ∉ s.completed)
    (htwo : 2 ≤ s.stillRunningHelpers) :
    ((s.completeFirst i).setCount (s.stillRunningHelpers - 1)).Count running := by
  have hexact := hcount.exact fun j hj => hnew (by
    obtain rfl := RunPhase.running.inj (hphase.symm.trans hj.1)
    exact hj.2)
  refine ⟨hcount.nodup, fun j => ?_, hcount.ne_nil, fun hself => ?_, fun j _ => ?_⟩
  · refine (hcount.mem_iff j).trans (and_congr_right fun hj => not_congr ?_)
    refine Iff.trans ?_ (mem_completed_completeFirst s i j).symm
    have hne : j ≠ i := fun he => haccepted (he ▸ hj)
    simp [hne]
  · exact absurd ⟨hphase, (mem_completed_completeFirst s i i).2 (.inr rfl)⟩ (hself i)
  · have hlength : s.stillRunningHelpers - 1 + 1 = running.length := by omega
    exact ⟨hlength, by omega⟩

/-- An error of a helper that has accepted, when others are still counted. -/
theorem Count.error {s : DelegatingRequestHandler α} {running : List ℕ} (hcount : s.Count running)
    {i : ℕ} (hi : i ∈ running) (hother : s.phase ≠ .running i)
    (htwo : 2 ≤ s.stillRunningHelpers) :
    ((s.completeFirst i).setCount (s.stillRunningHelpers - 1)).Count (running.erase i) := by
  have hlength := List.length_erase_of_mem hi
  have hself : ∀ j, ((s.completeFirst i).setCount (s.stillRunningHelpers - 1)).SelfCompleted j ↔
      s.SelfCompleted j := by
    intro j
    refine and_congr_right fun hj => (mem_completed_completeFirst s i j).trans ?_
    have hne : j ≠ i := by
      rintro rfl
      exact hother hj
    simp [hne]
  refine ⟨hcount.nodup.erase i, hcount.erase i, fun _ hnil => ?_, fun hnot => ?_, fun j hj => ?_⟩
  · have hle : running.length ≤ 1 := by
      rw [hnil, List.length_nil] at hlength
      omega
    by_cases hex : ∃ j, s.SelfCompleted j
    · obtain ⟨j, hj⟩ := hex
      have := (hcount.oneLess j hj).2
      omega
    · have := hcount.exact (not_exists.1 hex)
      omega
  · have hexact := hcount.exact fun j hj => hnot j ((hself j).2 hj)
    change s.stillRunningHelpers - 1 = _
    omega
  · obtain ⟨hone, -⟩ := hcount.oneLess j ((hself j).1 hj)
    change s.stillRunningHelpers - 1 + 1 = _ ∧ _
    omega

/-- The helpers that are still running, after a first completion with an error. -/
theorem Inv.error {s : DelegatingRequestHandler α} (h : s.Inv) (hdone : s.done = false) {i : ℕ}
    {reply : HelperReply α} {source : Option String}
    (hcounted : s.Counted (.complete i reply source)) (hi : s.CanComplete i)
    (hnew : i ∉ s.completed) (hfailed : reply.failed = true) :
    s.stillRunningHelpers ≠ 0 ∧
      (s.stillRunningHelpers - 1 = 0 → ∀ j ∈ s.accepted, j ∈ s.completed ∨ j = i) ∧
      (s.stillRunningHelpers - 1 ≠ 0 → ∃ running,
        ((s.completeFirst i).setCount (s.stillRunningHelpers - 1)).Count running) := by
  obtain ⟨running, hcount⟩ := h.count hdone
  have htwo := hcounted hi hdone hnew hfailed
  by_cases hphase : s.phase = .running i
  · have htwo' := htwo ⟨i, hphase, .inl rfl⟩
    exact ⟨by omega, fun _ => by omega,
      fun _ => ⟨running, hcount.ownError hphase (h.notYet i hphase) hnew htwo'⟩⟩
  · have hmem : i ∈ running := (hcount.mem_iff i).2 ⟨hi.resolve_left hphase, hnew⟩
    have hpos := List.length_pos_of_mem hmem
    by_cases hself : ∃ j, s.SelfCompleted j
    · obtain ⟨j, hj⟩ := hself
      have htwo' := htwo ⟨j, hj.1, .inr hj.2⟩
      exact ⟨by omega, fun _ => by omega, fun _ => ⟨_, hcount.error hmem hphase htwo'⟩⟩
    · have hexact := hcount.exact (not_exists.1 hself)
      refine ⟨by omega, fun hone j hj => ?_, fun hne => ⟨_, hcount.error hmem hphase (by omega)⟩⟩
      -- it is the only one that is running
      by_contra hnot
      rw [not_or] at hnot
      have hjmem : j ∈ running.erase i := by
        rw [hcount.nodup.mem_erase_iff]
        exact ⟨hnot.2, (hcount.mem_iff j).2 ⟨hj, hnot.1⟩⟩
      have hlength := List.length_erase_of_mem hmem
      have := List.length_pos_of_mem hjmem
      omega

theorem Inv.helperCompletes {s : DelegatingRequestHandler α} (h : s.Inv) {i : ℕ}
    {reply : HelperReply α} {source : Option String} (hcounted : s.Counted (.complete i reply source))
    (hi : s.CanComplete i) : ((s.record i).helperComplete i reply source).Inv := by
  by_cases hold : s.done = true ∨ i ∈ s.completed
  · rw [helperComplete_eq_self h hold]
    exact h
  · rw [not_or, Bool.not_eq_true] at hold
    obtain ⟨hdone, hnew⟩ := hold
    rw [helperComplete_record h hdone hnew]
    by_cases hfailed : reply.failed = true
    · obtain ⟨hne, hlast, hnext⟩ := h.error hdone hcounted hi hnew hfailed
      rw [if_pos hfailed, if_neg hne]
      by_cases hone : s.stillRunningHelpers - 1 = 0
      · rw [if_pos hone]
        exact h.result hdone hi source (fun _ => hlast hone) _
      · rw [if_neg hone]
        obtain ⟨running, hcount⟩ := hnext hone
        exact h.decrement hdone hi hcount
    · rw [if_neg hfailed]
      exact h.result hdone hi source (fun hf => absurd hf hfailed) s.stillRunningHelpers

/-- **The step lemma.** -/
theorem Inv.step {s : DelegatingRequestHandler α} (h : s.Inv) (n : ℕ) {e : Event α}
    (hcounted : s.Counted e) : ((machine n).next s e).Inv := by
  cases e with
  | run => exact h.run n
  | callHelper hasHandler => exact h.callHelper n hcounted
  | helperReturns accepts => exact h.helperReturns n hcounted
  | complete i reply source =>
      by_cases hi : s.CanComplete i
      · have hnext : (machine n).next s (.complete i reply source) =
            (s.record i).helperComplete i reply source := if_pos hi
        rw [hnext]
        exact h.helperCompletes hcounted hi
      · have hnext : (machine n).next s (.complete i reply source) = s := if_neg hi
        rw [hnext]
        exact h
  | close => exact h.close

/-! ### Runs -/

/-- Only a completion calls the callback, and only `callHelper` runs a handler. -/
theorem next_of_not_complete (n : ℕ) (s : DelegatingRequestHandler α) {e : Event α}
    (he : ∀ i reply source, e ≠ .complete i reply source) :
    ((machine n).next s e).called = s.called ∧
      (e ≠ .callHelper true → ∀ i, ((machine n).next s e).Ran i → s.Ran i) := by
  cases e with
  | run =>
      change (s.run n).called = _ ∧ (_ → ∀ i, (s.run n).Ran i → _)
      unfold DelegatingRequestHandler.run
      cases s.phase <;> exact ⟨rfl, fun _ _ h => h⟩
  | callHelper hasHandler =>
      change (s.callHelper n hasHandler).called = _ ∧
        (_ → ∀ i, (s.callHelper n hasHandler).Ran i → _)
      unfold DelegatingRequestHandler.callHelper
      cases hasHandler with
      | true => cases s.phase <;> exact ⟨rfl, fun h => absurd rfl h⟩
      | false => cases s.phase <;> exact ⟨rfl, fun _ _ h => h⟩
  | helperReturns accepts =>
      change (s.helperReturns n accepts).called = _ ∧
        (_ → ∀ i, (s.helperReturns n accepts).Ran i → _)
      unfold DelegatingRequestHandler.helperReturns
      cases s.phase with
      | running i =>
          by_cases hi : i ∈ s.completed <;> cases accepts <;>
            simp only [hi, if_true, if_false, Bool.false_eq_true] <;>
            exact ⟨by trivial, fun _ _ h => h⟩
      | _ => exact ⟨rfl, fun _ _ h => h⟩
  | complete i reply source => exact absurd rfl (he i reply source)
  | close => exact ⟨rfl, fun _ j hran => (ran_close s j).1 hran⟩

theorem next_complete (n : ℕ) (s : DelegatingRequestHandler α) {i : ℕ} (hi : s.CanComplete i)
    (reply : HelperReply α) (source : Option String) :
    (machine n).next s (.complete i reply source) = (s.record i).helperComplete i reply source :=
  if_pos hi

/-- What a first completion calls. -/
theorem Inv.called_first {s : DelegatingRequestHandler α} (h : s.Inv) (hdone : s.done = false)
    {i : ℕ} (hi : i ∉ s.completed) (reply : HelperReply α) (source : Option String) :
    s.called = [] ∧ (((s.record i).helperComplete i reply source).called = [] ∨
      ((s.record i).helperComplete i reply source).called = [(reply, source)]) ∧
      (reply.failed = false →
        ((s.record i).helperComplete i reply source).called = [(reply, source)]) := by
  have hnil : s.called = [] := by
    by_contra hne
    simp [h.done_iff.2 (.inl hne)] at hdone
  have hresult : ∀ t : DelegatingRequestHandler α, t.called = s.called →
      (t.close.cb reply source).called = [(reply, source)] := by
    intro t ht
    change t.called ++ [(reply, source)] = _
    rw [ht, hnil]
    rfl
  rw [helperComplete_record h hdone hi]
  refine ⟨hnil, ?_, fun hfailed => ?_⟩
  · split_ifs
    · exact .inl hnil
    · exact .inr (hresult _ rfl)
    · exact .inl hnil
    · exact .inr (hresult _ rfl)
  · rw [if_neg (by simp [hfailed])]
    exact hresult _ rfl

theorem Inv.soundStep_complete {s : DelegatingRequestHandler α} (h : s.Inv) (n i : ℕ)
    (reply : HelperReply α) (source : Option String) :
    s.SoundStep n (.complete i reply source) := by
  -- a completion that cannot happen, comes too late or again changes nothing
  by_cases hsame : (machine n).next s (.complete i reply source) = s ∧
      (s.CanComplete i → s.done = true ∨ i ∈ s.completed)
  · obtain ⟨hnext, hold⟩ := hsame
    refine ⟨fun _ => ?_, fun i' reply' source' he hi hfinished hnew => ?_, .inl (by rw [hnext])⟩
    · rw [hnext]
      exact ⟨rfl, fun _ hran => hran⟩
    · cases he
      rw [h.done_iff] at hold
      exact absurd (hold hi) (not_or.2 ⟨hfinished, hnew⟩)
  · have hi : s.CanComplete i := by
      by_contra hnot
      exact hsame ⟨if_neg hnot, fun hc => absurd hc hnot⟩
    have hnext := next_complete n s hi reply source
    have hnot : ¬ (s.done = true ∨ i ∈ s.completed) := fun hold =>
      hsame ⟨hnext.trans (helperComplete_eq_self h hold reply source), fun _ => hold⟩
    rw [not_or, Bool.not_eq_true] at hnot
    obtain ⟨hnil, hcalled, hsuccess⟩ := h.called_first hnot.1 hnot.2 reply source
    rw [← hnext] at hcalled hsuccess
    refine ⟨fun hfinished => ?_, fun i' reply' source' he _ _ _ hok => ?_, ?_⟩
    · exact absurd ((h.done_iff.2 hfinished).symm.trans hnot.1) (by simp)
    · cases he
      exact hsuccess hok
    · rcases hcalled with hcalled | hcalled
      · exact .inl (hcalled.trans hnil.symm)
      · exact .inr ⟨i, reply, source, rfl, hi, hnot.2, hcalled⟩

theorem Inv.soundStep {s : DelegatingRequestHandler α} (h : s.Inv) (n : ℕ) {e : Event α}
    (hcounted : s.Counted e) : s.SoundStep n e := by
  by_cases he : ∃ i reply source, e = .complete i reply source
  · obtain ⟨i, reply, source, rfl⟩ := he
    exact h.soundStep_complete n i reply source
  · have hne : ∀ i reply source, e ≠ .complete i reply source :=
      fun i reply source hc => he ⟨i, reply, source, hc⟩
    obtain ⟨hcalled, hran⟩ := next_of_not_complete n s hne
    refine ⟨fun hfinished => ⟨hcalled, hran ?_⟩,
      fun i reply source hc => absurd hc (hne i reply source), .inl hcalled⟩
    rintro rfl
    have hdone := hcounted rfl
    rw [h.done_iff.2 hfinished] at hdone
    cases hdone

/-- **One result, neither early nor lost**, in every run whose steps find the count right. -/
theorem oneResult_of_counted (n : ℕ) {events : List (Event α)}
    (h : (machine n).AllSteps Counted new events) : OneResult n events where
  always := Machine.always_of_invariant (fun _ _ hs he => hs.step n he) (fun _ hs => hs.sound) h inv_new
  steps := by
    rw [Machine.allSteps_iff] at h ⊢
    intro before e after heq
    have hbefore : (machine n).AllSteps Counted new before :=
      Machine.allSteps_iff.2 fun pre e' post hpre =>
        h pre e' (post ++ e :: after) (by rw [heq, hpre]; simp)
    have hinv : ((machine n).exec new before).Inv :=
      Machine.exec_invariant (fun _ _ hs he => hs.step n he) hbefore inv_new
    exact hinv.soundStep n (h before e after heq)

/-- The reply of a security key that does not have the keys of the request. -/
def WRONG_DATA_REPLY : HelperReply String := ⟨some 0x6a80, "sign_helper_reply"⟩

/-- Two helpers that complete after `run()` has returned. -/
def twoHelpers : List (Event String) :=
  [.run, .callHelper true, .helperReturns true, .callHelper true, .helperReturns true,
    .complete 0 WRONG_DATA_REPLY none, .complete 1 WRONG_DATA_REPLY none]

/-- The error of the second one is the result. -/
theorem oneResult_twoHelpers : OneResult 2 twoHelpers := by
  refine oneResult_of_counted 2 ⟨trivial, fun _ => rfl, fun _ _ _ => .inr nofun, fun _ => rfl,
    fun _ _ _ => .inr nofun, ?_, ?_, trivial⟩
  · rintro - - - - ⟨j, hj, -⟩
    cases hj
  · rintro - - - - ⟨j, hj, -⟩
    cases hj

/-- One helper that completes with an error in its own `run()`. -/
def errorInRun : List (Event String) :=
  [.run, .callHelper true, .complete 0 WRONG_DATA_REPLY none, .helperReturns true]

/-- A second helper that does so while the first one is running. -/
def errorInSecondRun : List (Event String) :=
  [.run, .callHelper true, .helperReturns true, .callHelper true,
    .complete 1 WRONG_DATA_REPLY none, .helperReturns true]

/-- A second helper that is run after the first one has completed with success in its own `run()`. -/
def successInRun : List (Event String) :=
  [.run, .callHelper true, .complete 0 ⟨some 0, "sign_helper_reply"⟩ none, .helperReturns true,
    .callHelper true]

/-- The error is lost; it is given early; and a helper is run after the result. -/
theorem not_oneResult_of_completion_in_run :
    ¬ OneResult 1 errorInRun ∧ ¬ OneResult 2 errorInSecondRun ∧ ¬ OneResult 2 successInRun := by
  refine ⟨fun h => ?_, fun h => ?_, fun h => ?_⟩
  · obtain ⟨i, hi, hnot⟩ := (h.always _ (List.prefix_refl _)).notLost rfl (by decide) (by decide)
    exact hnot hi
  · have hearly := (h.always _ (List.prefix_refl _)).notEarly WRONG_DATA_REPLY none rfl (by decide)
    exact absurd (hearly 0 (by decide)) (by decide)
  · have hclosed := (h.always _ (List.prefix_refl _)).allClosed (by decide) 1
      (Option.some_ne_none _)
    cases hclosed

end DelegatingRequestHandler

end U2F
