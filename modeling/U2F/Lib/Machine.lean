/-
**Runs of a deterministic reactive machine.**

A reactive machine is given by one function: in a state, an event of the environment produces a
reply and the next state.  All the nondeterminism of the system that is modelled (the order of the
calls, the values returned by code that is not modelled, the moment a timer fires) sits in the
events, so that a run is nothing but a list of events, and the point of a run is a prefix of that
list.

Main definitions:

* `Machine` — the machine;
* `Machine.exec`, `Machine.replies` — the state reached by a list of events, and the replies;
* `Machine.AllSteps` — every step of a run satisfies a condition on the state it starts in and
  on its event;
* `Machine.Always` — a property holds at every point of a run.

Main results:

* `Machine.exec_invariant` — the invariant rule, for runs whose steps meet a condition;
* `Machine.allSteps_of_invariant`, `Machine.always_of_invariant` — what the invariant implies of the
  steps, and at every point;
* `Machine.exec_invariant_past` — the invariant rule, for what relates a state to the events before it;
* `Machine.exec_rel` — the relation rule: what relates the two ends of every step relates the two
  ends of a run;
* `Machine.allSteps_iff`, `Machine.not_allSteps` — the steps of a run by position, and the first
  step that fails a condition.
-/

import Mathlib.Data.List.Basic
import Mathlib.Data.List.Infix

set_option relaxedAutoImplicit false
set_option autoImplicit false

/-- A deterministic reactive machine with states `σ`, events `ε` and replies `ρ`. -/
structure Machine (σ ε ρ : Type*) where
  /-- The reply to an event and the next state. -/
  step : σ → ε → ρ × σ

namespace Machine

variable {σ ε ρ : Type*} (M : Machine σ ε ρ)

/-- The reply to an event. -/
def reply (s : σ) (e : ε) : ρ := (M.step s e).1

/-- The state after an event. -/
def next (s : σ) (e : ε) : σ := (M.step s e).2

/-! ### The state reached by a run -/

/-- **The state reached from `s` by a list of events.** -/
def exec (s : σ) : List ε → σ
  | [] => s
  | e :: es => exec (M.next s e) es

@[simp] theorem exec_nil (s : σ) : M.exec s [] = s := rfl

@[simp] theorem exec_cons (s : σ) (e : ε) (es : List ε) :
    M.exec s (e :: es) = M.exec (M.next s e) es := rfl

@[simp] theorem exec_append (s : σ) (es fs : List ε) :
    M.exec s (es ++ fs) = M.exec (M.exec s es) fs := by
  induction es generalizing s with
  | nil => rfl
  | cons e es ih => exact ih (M.next s e)

theorem exec_concat (s : σ) (es : List ε) (e : ε) :
    M.exec s (es ++ [e]) = M.next (M.exec s es) e := by simp

/-- The replies to a list of events, in order. -/
def replies (s : σ) : List ε → List ρ
  | [] => []
  | e :: es => M.reply s e :: replies (M.next s e) es

@[simp] theorem replies_append (s : σ) (es fs : List ε) :
    M.replies s (es ++ fs) = M.replies s es ++ M.replies (M.exec s es) fs := by
  induction es generalizing s with
  | nil => rfl
  | cons e es ih => simp [replies, ih]

/-! ### Conditions on the steps of a run -/

/-- Every step of the run satisfies `G`, a condition on the state the step starts in and on its
event. -/
def AllSteps (G : σ → ε → Prop) (s : σ) : List ε → Prop
  | [] => True
  | e :: es => G s e ∧ AllSteps G (M.next s e) es

instance decidableAllSteps (G : σ → ε → Prop) [∀ s e, Decidable (G s e)] (s : σ) :
    (es : List ε) → Decidable (M.AllSteps G s es)
  | [] => isTrue trivial
  | e :: es =>
      have := decidableAllSteps G (M.next s e) es
      inferInstanceAs (Decidable (G s e ∧ M.AllSteps G (M.next s e) es))

variable {M}

@[simp] theorem allSteps_nil (G : σ → ε → Prop) (s : σ) : M.AllSteps G s [] := trivial

@[simp] theorem allSteps_cons {G : σ → ε → Prop} {s : σ} {e : ε} {es : List ε} :
    M.AllSteps G s (e :: es) ↔ G s e ∧ M.AllSteps G (M.next s e) es := Iff.rfl

@[simp] theorem allSteps_append {G : σ → ε → Prop} {s : σ} {es fs : List ε} :
    M.AllSteps G s (es ++ fs) ↔ M.AllSteps G s es ∧ M.AllSteps G (M.exec s es) fs := by
  induction es generalizing s with
  | nil => simp
  | cons e es ih => simp [ih, and_assoc]

/-- The steps of a run, by position. -/
theorem allSteps_iff {G : σ → ε → Prop} {s : σ} {es : List ε} :
    M.AllSteps G s es ↔ ∀ pre e post, es = pre ++ e :: post → G (M.exec s pre) e := by
  constructor
  · rintro h pre e post rfl
    exact (allSteps_append.1 h).2.1
  · induction es generalizing s with
    | nil => intro _; trivial
    | cons e es ih =>
        intro h
        refine ⟨h [] e es rfl, ih ?_⟩
        rintro pre e' post rfl
        exact h (e :: pre) e' post rfl

/-- A run that fails a condition has a first step that fails it. -/
theorem not_allSteps {G : σ → ε → Prop} {s : σ} {es : List ε} (h : ¬ M.AllSteps G s es) :
    ∃ pre e post, es = pre ++ e :: post ∧ M.AllSteps G s pre ∧ ¬ G (M.exec s pre) e := by
  induction es generalizing s with
  | nil => exact absurd trivial h
  | cons e es ih =>
      by_cases he : G s e
      · obtain ⟨pre, e', post, rfl, hpre, hfail⟩ := ih fun hes => h ⟨he, hes⟩
        exact ⟨e :: pre, e', post, rfl, ⟨he, hpre⟩, hfail⟩
      · exact ⟨[], e, es, rfl, trivial, he⟩

/-! ### The invariant rule -/

/-- **The invariant rule.**  What holds at the start of a run, and is kept by every step that
meets the condition `G`, holds at the end of a run all of whose steps meet `G`. -/
theorem exec_invariant {G : σ → ε → Prop} {I : σ → Prop}
    (hstep : ∀ s e, I s → G s e → I (M.next s e)) {s : σ} {es : List ε}
    (hG : M.AllSteps G s es) (hs : I s) : I (M.exec s es) := by
  induction es generalizing s with
  | nil => exact hs
  | cons e es ih => exact ih hG.2 (hstep s e hs hG.1)

/-- The invariant rule for runs whose steps need meet no condition. -/
theorem exec_invariant' {I : σ → Prop} (hstep : ∀ s e, I s → I (M.next s e)) {s : σ}
    (es : List ε) (hs : I s) : I (M.exec s es) := by
  induction es generalizing s with
  | nil => exact hs
  | cons e es ih => exact ih (hstep s e hs)

/-- **The invariant rule for a run and its events.**  What relates the start to no events, and is kept by
every step when its event is added, relates the end of a run to its events. -/
theorem exec_invariant_past {I : List ε → σ → Prop}
    (hstep : ∀ past s e, I past s → I (past ++ [e]) (M.next s e)) {s : σ} (hs : I [] s)
    (es : List ε) : I es (M.exec s es) := by
  induction es using List.reverseRecOn with
  | nil => exact hs
  | append_singleton es e ih =>
      rw [exec_concat]
      exact hstep es _ e ih

/-- **The relation rule.**  A reflexive and transitive relation that every step respects, under an
invariant, relates the two ends of a run. -/
theorem exec_rel {I : σ → Prop} {R : σ → σ → Prop} (hrefl : ∀ s, R s s)
    (htrans : ∀ {s t u}, R s t → R t u → R s u) (hinv : ∀ s e, I s → I (M.next s e))
    (hstep : ∀ s e, I s → R s (M.next s e)) {s : σ} (hs : I s) (es : List ε) :
    R s (M.exec s es) := by
  induction es generalizing s with
  | nil => exact hrefl s
  | cons e es ih => exact htrans (hstep s e hs) (ih (hinv s e hs))

/-- **The invariant rule for steps.**  What an invariant implies of the steps that keep it is met by every
step of a run. -/
theorem allSteps_of_invariant {G P : σ → ε → Prop} {I : σ → Prop}
    (hstep : ∀ s e, I s → G s e → P s e ∧ I (M.next s e)) {s : σ} {es : List ε}
    (hG : M.AllSteps G s es) (hs : I s) : M.AllSteps P s es := by
  induction es generalizing s with
  | nil => trivial
  | cons e es ih =>
      obtain ⟨hP, hnext⟩ := hstep s e hs hG.1
      exact ⟨hP, ih hG.2 hnext⟩

variable (M)

/-- `P` holds at every point of the run. -/
def Always (P : σ → Prop) (s : σ) (es : List ε) : Prop := ∀ pre, pre <+: es → P (M.exec s pre)

variable {M}

/-- A condition on the events alone. -/
theorem allSteps_of_forall_mem {G : σ → ε → Prop} {es : List ε} (h : ∀ e ∈ es, ∀ s, G s e) (s : σ) :
    M.AllSteps G s es := by
  rw [allSteps_iff]
  rintro pre e post rfl
  exact h e (by simp) _

theorem allSteps_initial {G : σ → ε → Prop} {s : σ} {pre es : List ε}
    (h : M.AllSteps G s es) (hpre : pre <+: es) : M.AllSteps G s pre := by
  obtain ⟨post, rfl⟩ := hpre
  exact (allSteps_append.1 h).1

/-- What an invariant implies holds at every point of a run that keeps the invariant. -/
theorem always_of_invariant {G : σ → ε → Prop} {I P : σ → Prop}
    (hstep : ∀ s e, I s → G s e → I (M.next s e)) (hP : ∀ s, I s → P s) {s : σ} {es : List ε}
    (hG : M.AllSteps G s es) (hs : I s) : M.Always P s es :=
  fun _ hpre => hP _ (exec_invariant hstep (allSteps_initial hG hpre) hs)

end Machine
