/-
**Programs that load and save the entities of a store.**

A load and a save of an entity is each one step.  Several programs run over one store, and their
steps are interleaved in any order.  A program that loads an entity, computes a new one from it and
saves that can lose what another program has saved in between.  The programs here are of that kind:
they may look at the entity first, in a load of its own, and save only at their end.  If no save
comes in between, every one of them takes effect at its last step, and the interleaved run does what
the programs do one after the other, in the order of their last steps.

Main definitions:

* `LoadSave` — the programs; `LoadSave.alone` — what a program does when it runs alone;
* `LoadSave.Interleaved`, `LoadSave.system` — several programs over one store, and their steps;
* `LoadSave.Serial` — some programs run one after the other;
* `ReadModifyWrite` — the kinds of programs, with `ReadModifyWrite.program`;
* `ReadModifyWrite.Fresh` — the condition on a step that saves.

Main results:

* `LoadSave.serialized_step` — one step of a serial run;
* `ReadModifyWrite.step_stage` — what one step does to the stage a program is in, and that under the
  condition the program takes effect at its last step;
* `ReadModifyWrite.serialized_exec` — **a run whose saves are fresh is a serial one**.
-/

import Mathlib.Data.Fintype.Basic
import Mathlib.Data.List.Nodup
import Mathlib.Logic.Function.Basic
import U2F.Lib.Call
import U2F.Lib.Machine

set_option relaxedAutoImplicit false
set_option autoImplicit false

/-- A program over entities `V` with keys `K`, whose result is an `R`. -/
inductive LoadSave (K V R : Type)
  | done (r : R)
  | load (k : K) (next : Option V → LoadSave K V R)
  | save (k : K) (v : V) (next : LoadSave K V R)

namespace LoadSave

variable {ι K V R R' : Type}

/-- The entities of a store, none for a key without one. -/
abbrev Entities (K V : Type) := K → Option V

protected def bind : LoadSave K V R → (R → LoadSave K V R') → LoadSave K V R'
  | done r, f => f r
  | load k next, f => load k fun v => (next v).bind f
  | save k v next, f => save k v (next.bind f)

instance : Monad (LoadSave K V) where
  pure := done
  bind := LoadSave.bind

theorem map_id_eq (p : LoadSave K V R) : id <$> p = p := by
  induction p with
  | done r => rfl
  | load k next ih => exact congrArg (load k) (funext ih)
  | save k v next ih => exact congrArg (save k v) ih

theorem bind_bind {R'' : Type} (p : LoadSave K V R) (f : R → LoadSave K V R')
    (g : R' → LoadSave K V R'') : p >>= f >>= g = p >>= fun r => f r >>= g := by
  induction p with
  | done r => rfl
  | load k next ih => exact congrArg (load k) (funext ih)
  | save k v next ih => exact congrArg (save k v) ih

instance : LawfulMonad (LoadSave K V) :=
  LawfulMonad.mk' _ map_id_eq (fun _ _ => rfl) bind_bind

/-! ### Runs -/

variable [DecidableEq K]

/-- **A program that runs alone**: its result and the entities it leaves. -/
def alone : LoadSave K V R → Entities K V → R × Entities K V
  | done r, store => (r, store)
  | load k next, store => (next (store k)).alone store
  | save k v next, store => next.alone (Function.update store k (some v))

/-- Several programs over one store, in the middle of a run. -/
structure Interleaved (ι K V R : Type) where
  /-- What is left of each program. -/
  program : ι → LoadSave K V R
  /-- The key and the result of the last load of each. -/
  loaded : ι → Option (K × Option V)
  store : Entities K V

namespace Interleaved

def start (programs : ι → LoadSave K V R) (store : Entities K V) : Interleaved ι K V R :=
  ⟨programs, fun _ => none, store⟩

variable [DecidableEq ι]

/-- One step of the program `i`; a program that is done takes none. -/
def step (c : Interleaved ι K V R) (i : ι) : Interleaved ι K V R :=
  match c.program i with
  | done _ => c
  | load k next =>
      { c with
        program := Function.update c.program i (next (c.store k))
        loaded := Function.update c.loaded i (some (k, c.store k)) }
  | save k v next =>
      { c with
        program := Function.update c.program i next
        store := Function.update c.store k (some v) }

theorem step_of_done {c : Interleaved ι K V R} {i : ι} {r : R} (h : c.program i = done r) :
    c.step i = c := by
  rw [step, h]

theorem step_of_load {c : Interleaved ι K V R} {i : ι} {k : K} {next : Option V → LoadSave K V R}
    (h : c.program i = load k next) :
    c.step i = { c with
      program := Function.update c.program i (next (c.store k))
      loaded := Function.update c.loaded i (some (k, c.store k)) } := by
  rw [step, h]

theorem step_of_save {c : Interleaved ι K V R} {i : ι} {k : K} {v : V} {next : LoadSave K V R}
    (h : c.program i = save k v next) :
    c.step i = { c with
      program := Function.update c.program i next
      store := Function.update c.store k (some v) } := by
  rw [step, h]

/-- A step of one program leaves the others where they are. -/
theorem step_of_ne (c : Interleaved ι K V R) {i j : ι} (h : j ≠ i) :
    (c.step i).program j = c.program j ∧ (c.step i).loaded j = c.loaded j := by
  rw [step]
  split <;> simp [h]

end Interleaved

/-- The programs as a machine, whose events say which program takes the next step. -/
def system [DecidableEq ι] : Machine (Interleaved ι K V R) ι Unit where
  step c i := ((), c.step i)

/-! ### Serial runs -/

/-- The listed programs, run one after the other, with these results. -/
inductive Serial (programs : ι → LoadSave K V R) :
    List (ι × R) → Entities K V → Entities K V → Prop
  | nil {store : Entities K V} : Serial programs [] store store
  | cons {i : ι} {r : R} {order : List (ι × R)} {store store₁ store₂ : Entities K V} :
      (programs i).alone store = (r, store₁) → Serial programs order store₁ store₂ →
      Serial programs ((i, r) :: order) store store₂

theorem Serial.concat {programs : ι → LoadSave K V R} {order : List (ι × R)}
    {store store₁ store₂ : Entities K V} {i : ι} {r : R} (h : Serial programs order store store₁)
    (hi : (programs i).alone store₁ = (r, store₂)) :
    Serial programs (order ++ [(i, r)]) store store₂ := by
  induction h with
  | nil => exact .cons hi .nil
  | cons hj _ ih => exact .cons hj (ih hi)

/-- Two programs do what they do one after the other, in some order. -/
def InSomeOrder (p₁ p₂ : LoadSave K V R) (store : Entities K V) (r₁ r₂ : R)
    (store' : Entities K V) : Prop :=
  (∃ store₁, p₁.alone store = (r₁, store₁) ∧ p₂.alone store₁ = (r₂, store')) ∨
    ∃ store₁, p₂.alone store = (r₂, store₁) ∧ p₁.alone store₁ = (r₁, store')

/-- What is done so far is a serial run of the programs that are done, each listed once. -/
def Serialized (programs : ι → LoadSave K V R) (store₀ : Entities K V)
    (c : Interleaved ι K V R) : Prop :=
  ∃ order, Serial programs order store₀ c.store ∧ (order.map Prod.fst).Nodup ∧
    ∀ i r, (i, r) ∈ order ↔ c.program i = done r

/-- The programs among some that are done before they start. -/
theorem exists_serial_done (programs : ι → LoadSave K V R) (store : Entities K V) :
    ∀ is : List ι, is.Nodup → ∃ order, Serial programs order store store ∧
      (order.map Prod.fst).Nodup ∧ ∀ i r, (i, r) ∈ order ↔ i ∈ is ∧ programs i = done r := by
  intro is
  induction is with
  | nil => exact fun _ => ⟨[], .nil, List.nodup_nil, by simp⟩
  | cons j is ih =>
      intro hnodup
      obtain ⟨hj, his⟩ := List.nodup_cons.1 hnodup
      obtain ⟨order, hserial, horder, hmem⟩ := ih his
      by_cases hp : ∃ r, programs j = done r
      -- a program that is done does nothing to the store, so it can come first
      · obtain ⟨r, hp⟩ := hp
        refine ⟨(j, r) :: order, .cons (by rw [hp, alone]) hserial, ?_, ?_⟩
        · refine List.nodup_cons.2 ⟨?_, horder⟩
          intro hjo
          obtain ⟨⟨i, s⟩, his', rfl⟩ := List.mem_map.1 hjo
          exact hj ((hmem i s).1 his').1
        · intro i s
          rw [List.mem_cons, hmem, List.mem_cons]
          constructor
          · rintro (heq | ⟨hi, hs⟩)
            · obtain ⟨rfl, rfl⟩ := Prod.mk.inj heq
              exact ⟨.inl rfl, hp⟩
            · exact ⟨.inr hi, hs⟩
          · rintro ⟨rfl | hi, hs⟩
            · rw [hp] at hs
              exact .inl (by rw [LoadSave.done.inj hs])
            · exact .inr ⟨hi, hs⟩
      · refine ⟨order, hserial, horder, fun i s => ?_⟩
        rw [hmem, List.mem_cons]
        constructor
        · exact fun h => ⟨.inr h.1, h.2⟩
        · rintro ⟨rfl | hi, hs⟩
          · exact absurd ⟨s, hs⟩ hp
          · exact ⟨hi, hs⟩

theorem serialized_start [Fintype ι] (programs : ι → LoadSave K V R) (store : Entities K V) :
    Serialized programs store (.start programs store) := by
  obtain ⟨order, hserial, horder, hmem⟩ :=
    exists_serial_done programs store Finset.univ.toList (Finset.nodup_toList _)
  refine ⟨order, hserial, horder, fun i r => ?_⟩
  rw [hmem]
  simp [Interleaved.start]

/-- In a step from `c`, the program `i` either goes on and leaves the store as it is, or it ends and
does to the store what it does alone. -/
def Linearizes [DecidableEq ι] (programs : ι → LoadSave K V R) (c : Interleaved ι K V R) (i : ι) :
    Prop :=
  ((∀ r, (c.step i).program i ≠ done r) ∧ (c.step i).store = c.store) ∨
    ∃ r, (c.step i).program i = done r ∧ (programs i).alone c.store = (r, (c.step i).store)

/-- **One step of a serial run.**  The program that ends in the step comes last in the order. -/
theorem serialized_step [DecidableEq ι] {programs : ι → LoadSave K V R} {store₀ : Entities K V}
    {c : Interleaved ι K V R} {i : ι} (hrunning : ∀ r, c.program i ≠ done r)
    (hstep : Linearizes programs c i) (h : Serialized programs store₀ c) :
    Serialized programs store₀ (c.step i) := by
  obtain ⟨order, hserial, hnodup, hmem⟩ := h
  have hother : ∀ j, j ≠ i → (c.step i).program j = c.program j :=
    fun j hj => (c.step_of_ne hj).1
  rcases hstep with ⟨hgoes, hstore⟩ | ⟨r, hdone, halone⟩
  -- the program goes on: the same programs are done
  · refine ⟨order, hstore.symm ▸ hserial, hnodup, fun j s => ?_⟩
    rw [hmem]
    by_cases hj : j = i
    · subst hj
      exact ⟨fun h => absurd h (hrunning s), fun h => absurd h (hgoes s)⟩
    · rw [hother j hj]
  -- the program ends: it was not in the order before, and is put at its end
  · have hfresh : i ∉ order.map Prod.fst := by
      intro hi
      obtain ⟨⟨j, s⟩, hjs, rfl⟩ := List.mem_map.1 hi
      exact hrunning s ((hmem j s).1 hjs)
    refine ⟨order ++ [(i, r)], hserial.concat halone, ?_, fun j s => ?_⟩
    · rw [List.map_append]
      exact hnodup.append (List.nodup_singleton _) (by simpa using hfresh)
    · rw [List.mem_append, List.mem_singleton, hmem]
      by_cases hj : j = i
      · subst hj
        rw [hdone]
        constructor
        · rintro (hs | heq)
          · exact absurd hs (hrunning s)
          · rw [(Prod.mk.inj heq).2]
        · intro hs
          exact .inr (by rw [LoadSave.done.inj hs])
      · rw [hother j hj]
        constructor
        · rintro (hs | heq)
          · exact hs
          · exact absurd (Prod.mk.inj heq).1 hj
        · exact .inl

/-- Two programs that are both done have run in some order. -/
theorem inSomeOrder_of_serialized {programs : Bool → LoadSave K V R} {store₀ : Entities K V}
    {c : Interleaved Bool K V R} {r₁ r₂ : R} (h : Serialized programs store₀ c)
    (h₁ : c.program false = done r₁) (h₂ : c.program true = done r₂) :
    InSomeOrder (programs false) (programs true) store₀ r₁ r₂ c.store := by
  obtain ⟨order, hserial, hnodup, hmem⟩ := h
  have hone : ∀ i r s, (i, r) ∈ order → (i, s) ∈ order → r = s := fun i r s hr hs =>
    LoadSave.done.inj (((hmem i r).1 hr).symm.trans ((hmem i s).1 hs))
  have hfst := (hmem false r₁).2 h₁
  have hsnd := (hmem true r₂).2 h₂
  -- The order lists each program once, so it has two entries.
  cases hserial with
  | nil => simp at hfst
  | @cons i r order _ store₁ _ ha hserial =>
      cases hserial with
      | nil =>
          cases i
          · simp at hsnd
          · simp at hfst
      | @cons j s order _ store₂ _ hb hserial =>
          have hlast : order = [] := by
            cases order with
            | nil => rfl
            | cons e es =>
                obtain ⟨k, t⟩ := e
                cases i <;> cases j <;> cases k <;> simp at hnodup
          subst hlast
          cases hserial
          have hi := hone i r
          have hj := hone j s
          cases i <;> cases j
          · simp at hnodup
          · obtain rfl := hi r₁ (by simp) hfst
            obtain rfl := hj r₂ (by simp) hsnd
            exact .inl ⟨_, ha, hb⟩
          · obtain rfl := hi r₂ (by simp) hsnd
            obtain rfl := hj r₁ (by simp) hfst
            exact .inr ⟨_, ha, hb⟩
          · simp at hnodup

end LoadSave

/-! ### Programs that read, modify and write -/

/-- The kinds of programs, by what they do with the entity of one key: `modify` makes the new entity
from the loaded one, or refuses. -/
inductive ReadModifyWrite (K V E : Type)
  /-- It fails without a load. -/
  | fail (e : E)
  | update (k : K) (modify : Option V → Except E V)
  /-- It looks at the entity in a load of its own before it updates it. -/
  | guarded (k : K) (guard : Option V → Except E Unit) (modify : Option V → Except E V)

namespace ReadModifyWrite

variable {ι K V E : Type}

open LoadSave

def updateProgram (k : K) (modify : Option V → Except E V) : LoadSave K V (Except E Unit) :=
  load k fun v =>
    match modify v with
    | .error e => done (.error e)
    | .ok w => save k w (done (.ok ()))

/-- The program. -/
def program : ReadModifyWrite K V E → LoadSave K V (Except E Unit)
  | fail e => done (.error e)
  | update k modify => updateProgram k modify
  | guarded k guard modify =>
      load k fun v =>
        match guard v with
        | .error e => done (.error e)
        | .ok () => updateProgram k modify

/-- It updates the entity of `k`, and its guard, if there is one, has let it through. -/
def Updates (t : ReadModifyWrite K V E) (k : K) (modify : Option V → Except E V) : Prop :=
  t = update k modify ∨ ∃ guard v, t = guarded k guard modify ∧ guard v = .ok ()

/-- **The stages of a program**: what is left of it, and its last load. -/
inductive Stage (t : ReadModifyWrite K V E) :
    LoadSave K V (Except E Unit) → Option (K × Option V) → Prop
  | start {loaded : Option (K × Option V)} : Stage t t.program loaded
  | updating {k : K} {modify : Option V → Except E V} {loaded : Option (K × Option V)} :
      t.Updates k modify → Stage t (updateProgram k modify) loaded
  | saving {k : K} {modify : Option V → Except E V} {v : Option V} {w : V} :
      t.Updates k modify → modify v = .ok w →
      Stage t (save k w (done (.ok ()))) (some (k, v))
  | ended {r : Except E Unit} {loaded : Option (K × Option V)} : Stage t (done r) loaded

/-- **The condition on a step that saves**: the entity is still what the program has loaded last,
and it meets `Still`. -/
def Fresh (Still : ι → Option V → Prop) (c : Interleaved ι K V (Except E Unit)) (i : ι) : Prop :=
  ∀ k w next, c.program i = save k w next →
    c.loaded i = some (k, c.store k) ∧ Still i (c.store k)

/-- A guard that has let a program through would do so again on an entity that meets `Still`, and
what is refused later would be refused by the guard. -/
structure Rechecks (ts : ι → ReadModifyWrite K V E) (Still : ι → Option V → Prop) : Prop where
  passes : ∀ i k guard modify v v', ts i = guarded k guard modify → guard v = .ok () →
    Still i v' → guard v' = .ok ()
  refuses : ∀ i k guard modify v v' e, ts i = guarded k guard modify → guard v = .ok () →
    modify v' = .error e → guard v' = .error e

/-! ### The programs alone -/

variable [DecidableEq K]

theorem alone_updateProgram_of_error {k : K} {modify : Option V → Except E V} {store : Entities K V}
    {e : E} (h : modify (store k) = .error e) :
    (updateProgram k modify).alone store = (.error e, store) := by
  simp only [updateProgram, alone, h]

theorem alone_updateProgram_of_ok {k : K} {modify : Option V → Except E V} {store : Entities K V}
    {w : V} (h : modify (store k) = .ok w) :
    (updateProgram k modify).alone store = (.ok (), Function.update store k (some w)) := by
  simp only [updateProgram, alone, h]

theorem alone_guarded_of_error {k : K} {guard : Option V → Except E Unit}
    {modify : Option V → Except E V} {store : Entities K V} {e : E}
    (h : guard (store k) = .error e) :
    (guarded k guard modify).program.alone store = (.error e, store) := by
  simp only [program, alone, h]

theorem alone_guarded_of_ok {k : K} {guard : Option V → Except E Unit}
    {modify : Option V → Except E V} {store : Entities K V} (h : guard (store k) = .ok ()) :
    (guarded k guard modify).program.alone store = (updateProgram k modify).alone store := by
  simp only [program, alone, h]

/-! ### One step -/

section Step

variable [DecidableEq ι] {ts : ι → ReadModifyWrite K V E} {Still : ι → Option V → Prop}
  {c : Interleaved ι K V (Except E Unit)} {i : ι}

/-- The load of an update. -/
theorem step_updating {k : K} {modify : Option V → Except E V} (hts : Rechecks ts Still)
    (hup : (ts i).Updates k modify) (hp : c.program i = updateProgram k modify) :
    Linearizes (fun j => (ts j).program) c i ∧
      Stage (ts i) ((c.step i).program i) ((c.step i).loaded i) := by
  rw [Linearizes, Interleaved.step_of_load hp]
  simp only [Function.update_self]
  cases hm : modify (c.store k) with
  | error e =>
      refine ⟨.inr ⟨.error e, rfl, ?_⟩, .ended⟩
      -- Alone, the program is refused too: by its guard if it has one.
      rcases hup with ht | ⟨guard, v, ht, hguard⟩
      · rw [ht]
        exact alone_updateProgram_of_error hm
      · rw [ht]
        exact alone_guarded_of_error (hts.refuses i k guard modify v _ e ht hguard hm)
  | ok w => exact ⟨.inl ⟨nofun, trivial⟩, .saving hup hm⟩

/-- The load of a guard. -/
theorem step_guarded {k : K} {guard : Option V → Except E Unit} {modify : Option V → Except E V}
    (ht : ts i = guarded k guard modify) (hp : c.program i = (ts i).program) :
    Linearizes (fun j => (ts j).program) c i ∧
      Stage (ts i) ((c.step i).program i) ((c.step i).loaded i) := by
  rw [ht] at hp
  rw [Linearizes, Interleaved.step_of_load hp]
  simp only [Function.update_self]
  cases hg : guard (c.store k) with
  | error e =>
      refine ⟨.inr ⟨.error e, rfl, ?_⟩, .ended⟩
      rw [ht]
      exact alone_guarded_of_error hg
  | ok _ => exact ⟨.inl ⟨nofun, trivial⟩, .updating (.inr ⟨guard, _, ht, hg⟩)⟩

/-- **What one step does to the stage of its program.**  Under the condition on the saves, the
program takes effect when it ends. -/
theorem step_stage (hts : Rechecks ts Still) (hrunning : ∀ r, c.program i ≠ done r)
    (hstage : Stage (ts i) (c.program i) (c.loaded i)) (hfresh : Fresh Still c i) :
    Linearizes (fun j => (ts j).program) c i ∧
      Stage (ts i) ((c.step i).program i) ((c.step i).loaded i) := by
  generalize hp : c.program i = p at hstage
  generalize hl : c.loaded i = l at hstage
  cases hstage with
  | start =>
      cases ht : ts i with
      | fail e => exact absurd (hp.trans (by rw [ht]; rfl)) (hrunning (.error e))
      | update k modify =>
          rw [← ht]
          exact step_updating hts (.inl ht) (hp.trans (by rw [ht]; rfl))
      | guarded k guard modify =>
          rw [← ht]
          exact step_guarded ht hp
  | updating hup => exact step_updating hts hup hp
  | @saving k modify v w hup hm =>
      -- the save takes effect: what was loaded last is what the store still holds
      obtain ⟨hlast, hstill⟩ := hfresh k w _ hp
      obtain rfl : v = c.store k := (Prod.mk.inj (Option.some.inj (hl.symm.trans hlast))).2
      rw [Linearizes, Interleaved.step_of_save hp]
      simp only [Function.update_self]
      refine ⟨.inr ⟨.ok (), rfl, ?_⟩, .ended⟩
      rcases hup with ht | ⟨guard, v, ht, hguard⟩
      · rw [ht]
        exact alone_updateProgram_of_ok hm
      · rw [ht, alone_guarded_of_ok (hts.passes i k guard modify v _ ht hguard hstill)]
        exact alone_updateProgram_of_ok hm
  | ended => exact absurd hp (hrunning _)

end Step

/-! ### Runs -/

/-- **A run whose saves are fresh is a serial one.** -/
theorem serialized_exec [Fintype ι] [DecidableEq ι] {ts : ι → ReadModifyWrite K V E}
    {Still : ι → Option V → Prop} (hts : Rechecks ts Still) {store : Entities K V}
    {schedule : List ι}
    (hfresh : system.AllSteps (Fresh Still) (.start (fun i => (ts i).program) store) schedule) :
    Serialized (fun i => (ts i).program) store
      (system.exec (.start (fun i => (ts i).program) store) schedule) := by
  let I := fun c : Interleaved ι K V (Except E Unit) =>
    Serialized (fun i => (ts i).program) store c ∧
      ∀ i, Stage (ts i) (c.program i) (c.loaded i)
  have hstep : ∀ c i, I c → Fresh Still c i → I (system.next c i) := by
    rintro c i ⟨hserial, hstage⟩ hi
    change I (c.step i)
    by_cases hdone : ∃ r, c.program i = done r
    · obtain ⟨r, hr⟩ := hdone
      rw [Interleaved.step_of_done hr]
      exact ⟨hserial, hstage⟩
    · have hrunning : ∀ r, c.program i ≠ done r := fun r hr => hdone ⟨r, hr⟩
      obtain ⟨hlin, hnext⟩ := step_stage hts hrunning (hstage i) hi
      refine ⟨serialized_step hrunning hlin hserial, fun j => ?_⟩
      by_cases hj : j = i
      · exact hj ▸ hnext
      · rw [(c.step_of_ne hj).1, (c.step_of_ne hj).2]
        exact hstage j
  have hstart : I (.start (fun i => (ts i).program) store) :=
    ⟨serialized_start _ _, fun _ => .start⟩
  exact (Machine.exec_invariant hstep hfresh hstart).1

end ReadModifyWrite
