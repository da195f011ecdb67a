/-
**Programs on different entities.**

A program that loads and saves only the entities of some keys does not see the others, and leaves
them alone.  When several programs run over one store, each on keys of its own, no program sees the
others: whatever the order of the steps, each of them has the result, and leaves the entities, that it
would have and leave if it ran alone.

Main definitions:

* `LoadSave.Within` — the program keeps to a set of keys;
* `ReadModifyWrite.On` — the one key of a program that reads, modifies and writes;
* `LoadSave.AsIfAlone` — in the middle of a run, a program is where it would be if it ran alone.

Main results:

* `LoadSave.alone_congr` — a program sees only the entities of its keys;
* `LoadSave.asIfAlone_exec` — **programs on different keys run as if each were alone**, in every
  order of their steps.
-/

import Mathlib.Data.Set.Basic
import U2F.Lib.LoadSave

set_option relaxedAutoImplicit false
set_option autoImplicit false

namespace LoadSave

variable {ι K V R R' : Type}

/-- The program keeps to the keys in `S`. -/
def Within (S : Set K) : LoadSave K V R → Prop
  | done _ => True
  | load k next => k ∈ S ∧ ∀ v, (next v).Within S
  | save k _ next => k ∈ S ∧ next.Within S

variable {S : Set K}

theorem Within.bind {p : LoadSave K V R} {f : R → LoadSave K V R'} (hp : p.Within S)
    (hf : ∀ r, (f r).Within S) : (p >>= f).Within S := by
  induction p with
  | done r => exact hf r
  | load k next ih => exact ⟨hp.1, fun v => ih v (hp.2 v)⟩
  | save k v next ih => exact ⟨hp.1, ih hp.2⟩

theorem Within.mapM {α : Type} {f : α → LoadSave K V R} {xs : List α}
    (h : ∀ x ∈ xs, (f x).Within S) : (xs.mapM f).Within S := by
  induction xs with
  | nil => trivial
  | cons x xs ih =>
      rw [List.mapM_cons]
      refine (h x List.mem_cons_self).bind fun r => ?_
      exact (ih fun y hy => h y (List.mem_cons_of_mem x hy)).bind fun rs => trivial

/-! ### A program alone -/

variable [DecidableEq K]

theorem alone_bind (p : LoadSave K V R) (f : R → LoadSave K V R') (store : Entities K V) :
    (p >>= f).alone store = (f (p.alone store).1).alone (p.alone store).2 := by
  induction p generalizing store with
  | done r => rfl
  | load k next ih => exact ih (store k) store
  | save k v next ih => exact ih (Function.update store k (some v))

/-- A program does not see the other entities. -/
theorem alone_congr {p : LoadSave K V R} (h : p.Within S) {store store' : Entities K V}
    (hsame : ∀ k ∈ S, store k = store' k) :
    (p.alone store).1 = (p.alone store').1 ∧
      ∀ k ∈ S, (p.alone store).2 k = (p.alone store').2 k := by
  induction p generalizing store store' with
  | done r => exact ⟨rfl, hsame⟩
  | load j next ih =>
      rw [alone, alone, ← hsame j h.1]
      exact ih (store j) (h.2 (store j)) hsame
  | save j v next ih =>
      refine ih h.2 fun k hk => ?_
      by_cases hkj : k = j
      · subst hkj
        rw [Function.update_self, Function.update_self]
      · rw [Function.update_of_ne hkj, Function.update_of_ne hkj, hsame k hk]

/-! ### Several programs -/

/-- What is left of the program `i` does, from here on, what the program would have done alone. -/
structure AsIfAlone (S : Set K) (programs : ι → LoadSave K V R) (store₀ : Entities K V)
    (c : Interleaved ι K V R) (i : ι) : Prop where
  within : (c.program i).Within S
  result : ((c.program i).alone c.store).1 = ((programs i).alone store₀).1
  store : ∀ k ∈ S, ((c.program i).alone c.store).2 k = ((programs i).alone store₀).2 k

variable {programs : ι → LoadSave K V R} {store₀ : Entities K V} {c : Interleaved ι K V R} {i : ι}

/-- The result of a program that is done, and what it has left. -/
theorem AsIfAlone.of_done {r : R} (h : AsIfAlone S programs store₀ c i)
    (hdone : c.program i = done r) :
    ((programs i).alone store₀).1 = r ∧ ∀ k ∈ S, c.store k = ((programs i).alone store₀).2 k := by
  obtain ⟨-, hresult, hstore⟩ := h
  rw [hdone] at hresult hstore
  exact ⟨hresult.symm, hstore⟩

variable [DecidableEq ι]

/-- A step of the program itself. -/
theorem AsIfAlone.step_self (h : AsIfAlone S programs store₀ c i) :
    AsIfAlone S programs store₀ (c.step i) i := by
  obtain ⟨hwithin, hresult, hstore⟩ := h
  cases hp : c.program i with
  | done r =>
      rw [Interleaved.step_of_done hp]
      exact ⟨hwithin, hresult, hstore⟩
  | load k next =>
      rw [hp] at hwithin hresult hstore
      rw [Interleaved.step_of_load hp]
      constructor
      · simpa only [Function.update_self] using hwithin.2 (c.store k)
      · simpa only [Function.update_self, alone] using hresult
      · simpa only [Function.update_self, alone] using hstore
  | save k v next =>
      rw [hp] at hwithin hresult hstore
      rw [Interleaved.step_of_save hp]
      constructor
      · simpa only [Function.update_self] using hwithin.2
      · simpa only [Function.update_self, alone] using hresult
      · simpa only [Function.update_self, alone] using hstore

/-- A step of a program leaves the store alone but for its keys. -/
theorem store_step_of_notMem (hwithin : (c.program i).Within S) {k : K} (hk : k ∉ S) :
    (c.step i).store k = c.store k := by
  cases hp : c.program i with
  | done r => rw [Interleaved.step_of_done hp]
  | load j next => rw [Interleaved.step_of_load hp]
  | save j v next =>
      rw [hp] at hwithin
      have hne : k ≠ j := fun hkj => hk (hkj ▸ hwithin.1)
      rw [Interleaved.step_of_save hp]
      exact Function.update_of_ne hne _ _

/-- A step of a program on other keys. -/
theorem AsIfAlone.step_other {j : ι} {T : Set K} (h : AsIfAlone S programs store₀ c i)
    (hj : (c.program j).Within T) (hne : i ≠ j) (hdisjoint : ∀ k ∈ S, k ∉ T) :
    AsIfAlone S programs store₀ (c.step j) i := by
  have hsame : ∀ k ∈ S, (c.step j).store k = c.store k := fun k hk =>
    store_step_of_notMem hj (hdisjoint k hk)
  obtain ⟨hresult, hstore⟩ := alone_congr h.within hsame
  constructor
  · rw [(c.step_of_ne hne).1]
    exact h.within
  · rw [(c.step_of_ne hne).1, hresult]
    exact h.result
  · intro k hk
    rw [(c.step_of_ne hne).1, hstore k hk]
    exact h.store k hk

/-- **Programs on different keys run as if each were alone**, in every order of their steps. -/
theorem asIfAlone_exec {S : ι → Set K} (hwithin : ∀ i, (programs i).Within (S i))
    (hdisjoint : ∀ i j, i ≠ j → ∀ k ∈ S i, k ∉ S j) (store : Entities K V) (schedule : List ι) :
    ∀ i, AsIfAlone (S i) programs store (system.exec (.start programs store) schedule) i := by
  refine Machine.exec_invariant' (I := fun c => ∀ i, AsIfAlone (S i) programs store c i) ?_ schedule
    fun i => ⟨hwithin i, rfl, fun _ _ => rfl⟩
  intro c j h i
  by_cases hij : i = j
  · subst hij
    exact (h i).step_self
  · exact (h i).step_other (h j).within hij (hdisjoint i j hij)

end LoadSave

/-! ### Programs that read, modify and write -/

namespace ReadModifyWrite

variable {K V E : Type}

/-- The entity, if any, is that of the key `k`. -/
def On (k : K) : ReadModifyWrite K V E → Prop
  | fail _ => True
  | update j _ => j = k
  | guarded j _ _ => j = k

theorem within_updateProgram (k : K) (modify : Option V → Except E V) :
    (updateProgram k modify).Within {k} := by
  refine ⟨rfl, fun v => ?_⟩
  dsimp only
  cases modify v with
  | error e => trivial
  | ok w => exact ⟨rfl, trivial⟩

/-- Such a program keeps to its one key. -/
theorem within_program {k : K} {t : ReadModifyWrite K V E} (h : t.On k) :
    t.program.Within {k} := by
  cases t with
  | fail e => trivial
  | update j modify =>
      obtain rfl : j = k := h
      exact within_updateProgram j modify
  | guarded j guard modify =>
      obtain rfl : j = k := h
      refine ⟨rfl, fun v => ?_⟩
      dsimp only
      cases guard v with
      | error e => trivial
      | ok _ => exact within_updateProgram j modify

end ReadModifyWrite
