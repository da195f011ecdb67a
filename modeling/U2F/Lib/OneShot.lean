/-
**Cells that are answered at most once.**

A one-shot cell waits until it is answered or dismissed, and nothing changes it after that.  A
program that owes one answer to a request refines such a cell: what the program has sent is what the
cell holds, and a flag of the program says whether the cell still waits.

Main definitions:

* `OneShot`, `OneShot.Leads` — the cell, and what can become of it;
* `OneShot.View` — how a state of a program shows a cell;
* `OneShot.View.Refines` — a step, or a piece of a step, that the cell can follow.

Main results:

* `OneShot.View.Refines.trans` — pieces that the cell can follow compose;
* `OneShot.View.length_answers_exec_le_one` — **at most one answer in every run** of a machine whose
  steps the cell can follow;
* `OneShot.View.answers_exec_of_not_isOpen` — no answer once the cell no longer waits.
-/

import Mathlib.Logic.Relation
import U2F.Lib.Machine

set_option relaxedAutoImplicit false
set_option autoImplicit false

/-- A cell that is answered at most once. -/
inductive OneShot (ρ : Type*)
  | waiting
  | answered (r : ρ)
  | dismissed

namespace OneShot

variable {ρ : Type*}

/-! ### The cell -/

/-- Whether the cell can still be answered. -/
def isWaiting : OneShot ρ → Bool
  | waiting => true
  | _ => false

/-- The answers given, of which there is at most one. -/
def answers : OneShot ρ → List ρ
  | answered r => [r]
  | _ => []

theorem length_answers_le_one (c : OneShot ρ) : c.answers.length ≤ 1 := by
  cases c <;> simp [answers]

/-- A waiting cell is answered or dismissed. -/
inductive Step : OneShot ρ → OneShot ρ → Prop
  | answer (r : ρ) : Step waiting (answered r)
  | dismiss : Step waiting dismissed

/-- What can become of a cell. -/
abbrev Leads : OneShot ρ → OneShot ρ → Prop := Relation.ReflTransGen Step

/-- A cell that no longer waits stays as it is. -/
theorem Leads.eq_of_not_isWaiting {c d : OneShot ρ} (h : Leads c d) (hc : c.isWaiting = false) :
    d = c := by
  cases h using Relation.ReflTransGen.head_induction_on with
  | refl => rfl
  | head hstep _ => cases hstep <;> cases hc

/-! ### Programs that refine a cell -/

/-- **How a state shows a cell**: whether an answer may still be given, and the answers given. -/
structure View (σ ρ : Type*) where
  isOpen : σ → Bool
  answers : σ → List ρ

namespace View

variable {σ ε κ : Type*} (V : View σ ρ)

/-- The state shows the cell. -/
structure Shows (s : σ) (c : OneShot ρ) : Prop where
  isOpen : V.isOpen s = c.isWaiting
  answers : V.answers s = c.answers

/-- Whatever cell `s` shows can become one that `t` shows. -/
def Refines (s t : σ) : Prop := ∀ c, V.Shows s c → ∃ d, Leads c d ∧ V.Shows t d

variable {V}

theorem Refines.refl (s : σ) : V.Refines s s := fun c h => ⟨c, .refl, h⟩

theorem Refines.trans {s t u : σ} (hst : V.Refines s t) (htu : V.Refines t u) : V.Refines s u := by
  intro c hc
  obtain ⟨d, hcd, hd⟩ := hst c hc
  obtain ⟨e, hde, he⟩ := htu d hd
  exact ⟨e, hcd.trans hde, he⟩

/-- A piece that neither answers nor closes. -/
theorem Refines.of_eq {s t : σ} (hopen : V.isOpen t = V.isOpen s)
    (hanswers : V.answers t = V.answers s) : V.Refines s t :=
  fun c hc => ⟨c, .refl, hopen.trans hc.isOpen, hanswers.trans hc.answers⟩

/-- A piece that closes an open state without an answer. -/
theorem Refines.of_dismiss {s t : σ} (hs : V.isOpen s = true) (ht : V.isOpen t = false)
    (hanswers : V.answers t = V.answers s) : V.Refines s t := by
  intro c hc
  cases c with
  | waiting => exact ⟨dismissed, .single .dismiss, ht, hanswers.trans hc.answers⟩
  | answered r => exact absurd (hs.symm.trans hc.isOpen) (by simp [isWaiting])
  | dismissed => exact absurd (hs.symm.trans hc.isOpen) (by simp [isWaiting])

/-- A piece that answers and closes an open state. -/
theorem Refines.of_answer {s t : σ} {r : ρ} (hs : V.isOpen s = true) (ht : V.isOpen t = false)
    (hanswers : V.answers t = V.answers s ++ [r]) : V.Refines s t := by
  intro c hc
  cases c with
  | waiting =>
      refine ⟨answered r, .single (.answer r), ht, ?_⟩
      rw [hanswers, hc.answers]
      rfl
  | answered r => exact absurd (hs.symm.trans hc.isOpen) (by simp [isWaiting])
  | dismissed => exact absurd (hs.symm.trans hc.isOpen) (by simp [isWaiting])

/-- Pieces that are run for the members of a list. -/
theorem refines_foldl {α : Type*} {f : σ → α → σ} (h : ∀ s a, V.Refines s (f s a)) (as : List α)
    (s : σ) : V.Refines s (as.foldl f s) := by
  induction as generalizing s with
  | nil => exact .refl s
  | cons a as ih => exact (h s a).trans (ih (f s a))

/-- What a closed state leads to is closed and has given the same answers. -/
theorem Refines.of_not_isOpen {s t : σ} (h : V.Refines s t) (hs : V.isOpen s = false)
    {c : OneShot ρ} (hc : V.Shows s c) :
    V.isOpen t = false ∧ V.answers t = V.answers s := by
  obtain ⟨d, hcd, hd⟩ := h c hc
  obtain rfl := hcd.eq_of_not_isWaiting (hc.isOpen.symm.trans hs)
  exact ⟨hd.isOpen.trans (hc.isOpen.symm.trans hs), hd.answers.trans hc.answers.symm⟩

/-! ### Runs -/

section

variable {M : Machine σ ε κ} {I : σ → Prop}
  (hinv : ∀ s e, I s → I (M.next s e)) (href : ∀ s e, I s → V.Refines s (M.next s e))

include hinv href

/-- A run takes a cell that is shown at its start to one that is shown at its end. -/
theorem refines_exec {s : σ} (hs : I s) (es : List ε) : V.Refines s (M.exec s es) :=
  Machine.exec_rel Refines.refl Refines.trans hinv href hs es

/-- **At most one answer in every run.** -/
theorem length_answers_exec_le_one {s : σ} (hs : I s) {c : OneShot ρ} (hc : V.Shows s c)
    (es : List ε) : (V.answers (M.exec s es)).length ≤ 1 := by
  obtain ⟨d, -, hd⟩ := refines_exec hinv href hs es c hc
  rw [hd.answers]
  exact d.length_answers_le_one

/-- No answer is given after a point at which the state is closed. -/
theorem answers_exec_of_not_isOpen {s : σ} (hs : I s) {c : OneShot ρ} (hc : V.Shows s c)
    {pre : List ε} (hpre : V.isOpen (M.exec s pre) = false) (post : List ε) :
    V.answers (M.exec s (pre ++ post)) = V.answers (M.exec s pre) := by
  obtain ⟨d, -, hd⟩ := refines_exec hinv href hs pre c hc
  have hI : I (M.exec s pre) := M.exec_invariant' hinv pre hs
  rw [M.exec_append]
  exact ((refines_exec hinv href hI post).of_not_isOpen hpre hd).2

end

end View

end OneShot
