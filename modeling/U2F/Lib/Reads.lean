/-
**Computations that read bytes of memory.**

A function that is handed a pointer and a length may read what lies behind the length, which is
undefined behaviour.  A computation here records the indices that it reads, in their order, so that
it can be said which bytes it reads as well as what it returns.

Main definitions:

* `Reads` — the computations; `Reads.value` and `Reads.indices` — what they return, and read;
* `Reads.read` — one read;
* `Reads.Within` — all reads are below a bound.

Main results:

* `Reads.value_bind`, `Reads.within_bind_iff` — the rules for computations one after the other;
* `Reads.value_ite_iff`, `Reads.within_ite` — the rules for a test that is made under a condition.
-/

import Mathlib.Control.Monad.Writer

set_option relaxedAutoImplicit false
set_option autoImplicit false

/-- A computation with the indices that it reads. -/
abbrev Reads (α : Type) : Type := Writer (List ℕ) α

namespace Reads

variable {α β : Type}

def value (x : Reads α) : α := (WriterT.run x).1

def indices (x : Reads α) : List ℕ := (WriterT.run x).2

/-- The byte at an index of the memory. -/
def read (memory : ℕ → UInt8) (i : ℕ) : Reads UInt8 := do
  tell [i]
  return memory i

/-- All reads are below a bound. -/
def Within (n : ℕ) (x : Reads α) : Prop := ∀ i ∈ x.indices, i < n

@[simp] theorem value_pure (a : α) : (pure a : Reads α).value = a := rfl

@[simp] theorem value_bind (x : Reads α) (f : α → Reads β) :
    (x >>= f).value = (f x.value).value := rfl

@[simp] theorem value_read (memory : ℕ → UInt8) (i : ℕ) : (read memory i).value = memory i := rfl

@[simp] theorem within_pure (n : ℕ) (a : α) : (pure a : Reads α).Within n := fun _ h => nomatch h

theorem within_bind_iff {n : ℕ} {x : Reads α} {f : α → Reads β} :
    (x >>= f).Within n ↔ x.Within n ∧ (f x.value).Within n := by
  have hindices : (x >>= f).indices = x.indices ++ (f x.value).indices := rfl
  rw [Within, hindices, List.forall_mem_append]
  exact Iff.rfl

theorem within_read_iff {n : ℕ} {memory : ℕ → UInt8} {i : ℕ} :
    (read memory i).Within n ↔ i < n := by
  have hindices : (read memory i).indices = [i] := rfl
  rw [Within, hindices, List.forall_mem_singleton]

theorem value_ite_iff {p : Prop} [Decidable p] {x : Reads Bool} :
    (if p then x else pure false).value = true ↔ p ∧ x.value = true := by
  by_cases h : p
  · rw [if_pos h, and_iff_right h]
  · rw [if_neg h]
    exact iff_of_false Bool.false_ne_true fun hp => h hp.1

theorem within_ite {n : ℕ} {p : Prop} [Decidable p] {x : Reads Bool} (h : x.Within n) :
    (if p then x else pure false).Within n := by
  split
  · exact h
  · exact within_pure n false

end Reads
