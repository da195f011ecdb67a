/-
**Tickets that wait in queues.**

Whoever asks for something draws a ticket; the tickets are numbered in the order in which they are
drawn.  A ticket is answered at once, or it waits in one of several queues and is answered when it
comes to the front.  What has to be shown of a program is that no ticket is lost and none is answered
twice, and this is one invariant of the answers and the queues.

Main definitions:

* `Tickets.Accounted` — every ticket has been answered or waits in exactly one queue, once.

Main results:

* `Tickets.Accounted.answer`, `Tickets.Accounted.enqueue` — a new ticket is answered at once, or waits;
* `Tickets.Accounted.dequeue` — the first ticket of a queue is answered;
* `Tickets.Accounted.mem_of_empty` — **where all queues are empty, every ticket has been answered.**
-/

import Mathlib.Data.List.Nodup
import Mathlib.Logic.Function.Basic

set_option relaxedAutoImplicit false
set_option autoImplicit false

namespace Tickets

variable {ι : Type*}

/-- Of the first `n` tickets, every one has been answered, or waits in exactly one of the queues. -/
structure Accounted (n : ℕ) (answered : List ℕ) (queue : ι → List ℕ) : Prop where
  once : answered.Nodup
  waitsOnce : ∀ i, (queue i).Nodup
  apart : ∀ i j, i ≠ j → ∀ t ∈ queue i, t ∉ queue j
  waits : ∀ i, ∀ t ∈ queue i, t ∉ answered
  all : ∀ t, t < n ↔ t ∈ answered ∨ ∃ i, t ∈ queue i

namespace Accounted

variable {n : ℕ} {answered : List ℕ} {queue : ι → List ℕ}

/-- No ticket has been drawn. -/
theorem zero : Accounted 0 [] fun _ : ι => [] :=
  ⟨List.nodup_nil, fun _ => List.nodup_nil, nofun, nofun, by simp⟩

theorem not_mem_answered (h : Accounted n answered queue) : n ∉ answered := by
  intro hmem
  exact Nat.lt_irrefl n ((h.all n).2 (.inl hmem))

theorem not_mem_queue (h : Accounted n answered queue) (i : ι) : n ∉ queue i := by
  intro hmem
  exact Nat.lt_irrefl n ((h.all n).2 (.inr ⟨i, hmem⟩))

/-- A new ticket is answered at once. -/
theorem answer (h : Accounted n answered queue) : Accounted (n + 1) (answered ++ [n]) queue := by
  refine ⟨?_, h.waitsOnce, h.apart, fun i t ht => ?_, fun t => ?_⟩
  · rw [List.nodup_append]
    refine ⟨h.once, List.nodup_singleton n, ?_⟩
    rintro t ht u hu rfl
    rw [List.mem_singleton.1 hu] at ht
    exact h.not_mem_answered ht
  · rw [List.mem_append, List.mem_singleton]
    rintro (hmem | rfl)
    · exact h.waits i t ht hmem
    · exact h.not_mem_queue i ht
  · have hall := h.all t
    rw [List.mem_append, List.mem_singleton, Nat.lt_succ_iff_lt_or_eq, hall]
    tauto

/-- **Where all queues are empty, every ticket has been answered.** -/
theorem mem_of_empty (h : Accounted n answered queue) (hempty : ∀ i, queue i = []) {t : ℕ}
    (ht : t < n) : t ∈ answered := by
  rcases (h.all t).1 ht with hmem | ⟨i, hi⟩
  · exact hmem
  · rw [hempty i] at hi
    cases hi

variable [DecidableEq ι]

/-- A new ticket waits in a queue. -/
theorem enqueue (h : Accounted n answered queue) (i : ι) :
    Accounted (n + 1) answered (Function.update queue i (queue i ++ [n])) := by
  have hmem : ∀ j t, t ∈ Function.update queue i (queue i ++ [n]) j ↔ t ∈ queue j ∨ j = i ∧ t = n := by
    intro j t
    by_cases hj : j = i
    · subst hj
      simp
    · simp [hj]
  refine ⟨h.once, fun j => ?_, fun j k hjk t ht => ?_, fun j t ht => ?_, fun t => ?_⟩
  · by_cases hj : j = i
    · subst hj
      rw [Function.update_self, List.nodup_append]
      refine ⟨h.waitsOnce j, List.nodup_singleton n, ?_⟩
      rintro t ht u hu rfl
      rw [List.mem_singleton.1 hu] at ht
      exact h.not_mem_queue j ht
    · rw [Function.update_of_ne hj]
      exact h.waitsOnce j
  · rw [hmem] at ht ⊢
    rintro (hk | ⟨rfl, rfl⟩)
    · rcases ht with hj | ⟨rfl, rfl⟩
      · exact h.apart j k hjk t hj hk
      · exact h.not_mem_queue k hk
    · rcases ht with hj | ⟨rfl, -⟩
      · exact h.not_mem_queue j hj
      · exact hjk rfl
  · rw [hmem] at ht
    rcases ht with hj | ⟨rfl, rfl⟩
    · exact h.waits j t hj
    · exact h.not_mem_answered
  · have hall := h.all t
    rw [Nat.lt_succ_iff_lt_or_eq, hall]
    simp only [hmem]
    constructor
    · rintro ((ha | ⟨j, hj⟩) | rfl)
      · exact .inl ha
      · exact .inr ⟨j, .inl hj⟩
      · exact .inr ⟨i, .inr ⟨rfl, rfl⟩⟩
    · rintro (ha | ⟨j, hj | ⟨-, rfl⟩⟩)
      · exact .inl (.inl ha)
      · exact .inl (.inr ⟨j, hj⟩)
      · exact .inr rfl

/-- The first ticket of a queue is answered. -/
theorem dequeue (h : Accounted n answered queue) {i : ι} {t : ℕ} {rest : List ℕ}
    (hi : queue i = t :: rest) :
    Accounted n (answered ++ [t]) (Function.update queue i rest) := by
  have hti : t ∈ queue i := by
    rw [hi]
    exact List.mem_cons_self
  have hrest : t ∉ rest ∧ rest.Nodup := by
    have hnodup := h.waitsOnce i
    rwa [hi, List.nodup_cons] at hnodup
  have hmem : ∀ j u, u ∈ Function.update queue i rest j → u ∈ queue j := by
    intro j u hu
    by_cases hj : j = i
    · subst hj
      rw [Function.update_self] at hu
      rw [hi]
      exact List.mem_cons_of_mem t hu
    · rwa [Function.update_of_ne hj] at hu
  have hleft : ∀ j u, u ∈ queue j → u = t ∨ u ∈ Function.update queue i rest j := by
    intro j u hu
    by_cases hj : j = i
    · subst hj
      rw [Function.update_self]
      rw [hi] at hu
      exact List.mem_cons.1 hu
    · rw [Function.update_of_ne hj]
      exact .inr hu
  refine ⟨?_, fun j => ?_, fun j k hjk u hu hk => h.apart j k hjk u (hmem j u hu) (hmem k u hk),
    fun j u hu => ?_, fun u => ?_⟩
  · rw [List.nodup_append]
    refine ⟨h.once, List.nodup_singleton t, ?_⟩
    rintro u hu v hv rfl
    rw [List.mem_singleton.1 hv] at hu
    exact h.waits i t hti hu
  · by_cases hj : j = i
    · subst hj
      rw [Function.update_self]
      exact hrest.2
    · rw [Function.update_of_ne hj]
      exact h.waitsOnce j
  · rw [List.mem_append, List.mem_singleton]
    rintro (ha | rfl)
    · exact h.waits j u (hmem j u hu) ha
    · by_cases hj : j = i
      · subst hj
        rw [Function.update_self] at hu
        exact hrest.1 hu
      · exact h.apart i j (Ne.symm hj) u hti (hmem j u hu)
  · rw [h.all u, List.mem_append, List.mem_singleton]
    constructor
    · rintro (ha | ⟨j, hj⟩)
      · exact .inl (.inl ha)
      · rcases hleft j u hj with rfl | hu
        · exact .inl (.inr rfl)
        · exact .inr ⟨j, hu⟩
    · rintro ((ha | rfl) | ⟨j, hj⟩)
      · exact .inl ha
      · exact .inr ⟨i, hti⟩
      · exact .inr ⟨j, hmem j u hj⟩

end Accounted

end Tickets
