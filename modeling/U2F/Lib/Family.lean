/-
**Families of machines.**

Several copies of one machine stand side by side, each under a key, and an event is for one of them.
The others do not see it, so that each copy is always in the state in which it would be if nothing had
happened but the events that are for it.

Main definitions:

* `Machine.family` — the copies as one machine;
* `Machine.eventsFor` — the events of a run that are for one copy.

Main results:

* `Machine.exec_family` — **each copy runs as if it were alone**.
-/

import Mathlib.Logic.Function.Basic
import U2F.Lib.Machine

set_option relaxedAutoImplicit false
set_option autoImplicit false

namespace Machine

variable {σ ε ρ κ : Type*} [DecidableEq κ] (M : Machine σ ε ρ)

/-- One copy of the machine for each key.  An event says whose it is. -/
def family : Machine (κ → σ) (κ × ε) ρ where
  step s e := ((M.step (s e.1) e.2).1, Function.update s e.1 (M.step (s e.1) e.2).2)

/-- The events for a key. -/
def eventsFor (k : κ) (es : List (κ × ε)) : List ε :=
  (es.filter fun e => e.1 = k).map Prod.snd

variable {M}

theorem eventsFor_cons (k : κ) (e : κ × ε) (es : List (κ × ε)) :
    eventsFor k (e :: es) = if e.1 = k then e.2 :: eventsFor k es else eventsFor k es := by
  rw [eventsFor, List.filter_cons]
  split <;> rename_i h <;> simp_all [eventsFor]

/-- The copy that an event is for takes the step. -/
theorem next_family_self (s : κ → σ) (e : κ × ε) : M.family.next s e e.1 = M.next (s e.1) e.2 :=
  Function.update_self _ _ _

/-- The others stay. -/
theorem next_family_of_ne {s : κ → σ} {e : κ × ε} {k : κ} (h : e.1 ≠ k) :
    M.family.next s e k = s k :=
  Function.update_of_ne (Ne.symm h) _ _

/-- **Each copy runs as if it were alone.** -/
theorem exec_family (s : κ → σ) (es : List (κ × ε)) (k : κ) :
    M.family.exec s es k = M.exec (s k) (eventsFor k es) := by
  induction es generalizing s with
  | nil => rfl
  | cons e es ih =>
      rw [exec_cons, ih, eventsFor_cons]
      by_cases h : e.1 = k
      · subst h
        rw [if_pos rfl, exec_cons, next_family_self]
      · rw [if_neg h, next_family_of_ne h]

end Machine
