/-
**Calls on a state, which may throw.**

A method of an object is a computation on the state of the object that returns a value or throws;
the writes made before the throw stay.  This is `ExceptT ε (StateM σ)`, and the rules here are the
ones by which the outcome of a call is computed step by step, forwards (`outcome_bind`) and
backwards (`returns_bind_iff` and the rules for the first step of a call).

Main definitions:

* `Call` — the computations; `Call.outcome` — the outcome of a call in a state;
* `Call.Returns` — the call returns a value, and in which state;
* `Call.ReadOnly` — the call leaves the state as it is, whether it returns or throws;
* `Call.Grows` — the call does not decrease a number, whether it returns or throws;
* `Call.onFst`, `Call.onSnd` — a call on one component of a pair of states;
* `throwIf`, `orThrow` — the guards `if (c) throw e` and `if (x == null) throw e`.
-/

set_option relaxedAutoImplicit false
set_option autoImplicit false

/-- The guard `if (c) throw e`. -/
def throwIf {ε : Type} {m : Type → Type} [Pure m] [MonadExcept ε m] (c : Prop) [Decidable c]
    (e : ε) : m Unit :=
  if c then throw e else pure ()

@[simp] theorem throwIf_eq_ok_iff {ε : Type} {c : Prop} [Decidable c] {e : ε} {u : Unit} :
    (throwIf c e : Except ε Unit) = .ok u ↔ ¬ c := by
  by_cases h : c <;> simp [throwIf, h, throw, throwThe, MonadExceptOf.throw, pure, Except.pure]

/-- The guard `if (x == null) throw e`. -/
def orThrow {ε α : Type} {m : Type → Type} [Pure m] [MonadExcept ε m] (x : Option α) (e : ε) :
    m α :=
  match x with
  | none => throw e
  | some a => pure a

@[simp] theorem orThrow_eq_ok_iff {ε α : Type} {x : Option α} {e : ε} {a : α} :
    (orThrow x e : Except ε α) = .ok a ↔ x = some a := by
  cases x <;> simp [orThrow, throw, throwThe, MonadExceptOf.throw, pure, Except.pure]

@[simp] theorem Except.ok_bind {ε α β : Type} (a : α) (f : α → Except ε β) :
    (Except.ok a >>= f) = f a := rfl

@[simp] theorem Except.fmap_ok {ε α β : Type} (f : α → β) (a : α) :
    (f <$> (Except.ok a : Except ε α)) = .ok (f a) := rfl

theorem Except.bind_eq_ok_iff {ε α β : Type} {x : Except ε α} {f : α → Except ε β} {b : β} :
    (x >>= f) = .ok b ↔ ∃ a, x = .ok a ∧ f a = .ok b := by
  cases x <;> simp [bind, Except.bind]

theorem Except.fmap_eq_ok_iff {ε α β : Type} {f : α → β} {x : Except ε α} {b : β} :
    f <$> x = .ok b ↔ ∃ a, x = .ok a ∧ f a = b := by
  cases x <;> simp [Functor.map, Except.map]

@[simp] theorem Except.mapError_ok {ε ε' α : Type} (f : ε → ε') (a : α) :
    (Except.ok a).mapError f = .ok a := rfl

@[simp] theorem Except.mapError_error {ε ε' α : Type} (f : ε → ε') (e : ε) :
    (Except.error e : Except ε α).mapError f = .error (f e) := rfl

theorem Except.mapError_eq_ok_iff {ε ε' α : Type} {f : ε → ε'} {x : Except ε α} {a : α} :
    x.mapError f = .ok a ↔ x = .ok a := by
  cases x <;> simp

theorem Except.mapError_eq_error_iff {ε ε' α : Type} {f : ε → ε'} {x : Except ε α} {e : ε'} :
    x.mapError f = .error e ↔ ∃ e', x = .error e' ∧ f e' = e := by
  cases x <;> simp

/-! ### Lifts -/

theorem ExceptT.liftM_bind {ε α β : Type} {m : Type → Type} [Monad m] [LawfulMonad m]
    (x : Except ε α) (f : α → Except ε β) :
    (liftM (x >>= f) : ExceptT ε m β) = liftM x >>= fun a => (liftM (f a) : ExceptT ε m β) := by
  cases x
  all_goals
    simp [liftM, monadLift, MonadLift.monadLift, bind, ExceptT.bind, ExceptT.mk,
      ExceptT.bindCont, Except.bind]

theorem ExceptT.liftM_pure {ε α : Type} {m : Type → Type} [Monad m] (a : α) :
    (liftM (pure a : Except ε α) : ExceptT ε m α) = pure a := rfl

theorem ExceptT.liftM_throwIf {ε : Type} {m : Type → Type} [Monad m] (c : Prop) [Decidable c]
    (e : ε) : (liftM (throwIf c e : Except ε Unit) : ExceptT ε m Unit) = throwIf c e := by
  by_cases h : c
  · simp only [throwIf, if_pos h]
    rfl
  · simp only [throwIf, if_neg h]
    rfl

/-- A computation on a state `σ` that returns or throws an `ε`. -/
abbrev Call (σ ε : Type) := ExceptT ε (StateM σ)

namespace Call

variable {σ ε α β : Type}

/-- **The outcome of a call**: the value returned or the exception thrown, and the state left. -/
def outcome (x : Call σ ε α) (s : σ) : Except ε α × σ := (x.run.run s : Id _).run

/-- The call returns `a` and leaves the state `s'`. -/
def Returns (x : Call σ ε α) (s : σ) (a : α) (s' : σ) : Prop := x.outcome s = (.ok a, s')

theorem ext {x y : Call σ ε α} (h : ∀ s, x.outcome s = y.outcome s) : x = y := funext h

/-! ### Outcomes, forwards -/

@[simp] theorem outcome_pure (a : α) (s : σ) : outcome (pure a : Call σ ε α) s = (.ok a, s) := rfl

@[simp] theorem outcome_throw (e : ε) (s : σ) :
    outcome (throw e : Call σ ε α) s = (.error e, s) := rfl

@[simp] theorem outcome_get (s : σ) : outcome (get : Call σ ε σ) s = (.ok s, s) := rfl

@[simp] theorem outcome_modify (f : σ → σ) (s : σ) :
    outcome (modify f : Call σ ε PUnit) s = (.ok ⟨⟩, f s) := rfl

@[simp] theorem outcome_modifyGet (f : σ → α × σ) (s : σ) :
    outcome (modifyGet f : Call σ ε α) s = (.ok (f s).1, (f s).2) := rfl

@[simp] theorem outcome_lift (x : Except ε α) (s : σ) :
    outcome (liftM x : Call σ ε α) s = (x, s) := rfl

theorem outcome_bind (x : Call σ ε α) (f : α → Call σ ε β) (s : σ) :
    outcome (x >>= f) s = match outcome x s with
      | (.ok a, s₁) => outcome (f a) s₁
      | (.error e, s₁) => (.error e, s₁) := by
  rcases h : outcome x s with ⟨r, s₁⟩
  have h' : x s = (r, s₁) := h
  simp only [outcome, ExceptT.run, bind, ExceptT.bind, ExceptT.mk, StateT.run, StateT.bind, Id.run, h']
  cases r with
  | ok a => rfl
  | error e => rfl

theorem outcome_map (f : α → β) (x : Call σ ε α) (s : σ) :
    outcome (f <$> x) s = match outcome x s with
      | (.ok a, s₁) => (.ok (f a), s₁)
      | (.error e, s₁) => (.error e, s₁) := by
  rw [map_eq_pure_bind, outcome_bind]
  rcases outcome x s with ⟨r, s₁⟩
  cases r <;> rfl

/-! ### Outcomes, backwards -/

@[simp] theorem returns_pure_iff {a b : α} {s s' : σ} :
    Returns (pure a : Call σ ε α) s b s' ↔ a = b ∧ s = s' := by simp [Returns]

theorem returns_lift {x : Except ε α} {a : α} (h : x = .ok a) (s : σ) :
    Returns (liftM x : Call σ ε α) s a s := by rw [h]; rfl

/-- **The rule of composition.** -/
theorem returns_bind_iff {x : Call σ ε α} {f : α → Call σ ε β} {s s' : σ} {b : β} :
    Returns (x >>= f) s b s' ↔ ∃ a s₁, Returns x s a s₁ ∧ Returns (f a) s₁ b s' := by
  rw [Returns, outcome_bind]
  rcases h : outcome x s with ⟨_ | a, s₁⟩
  · simp [Returns, h]
  · constructor
    · exact fun hf => ⟨a, s₁, h, hf⟩
    · rintro ⟨a', s₂, hx, hf⟩
      obtain ⟨rfl, rfl⟩ : a = a' ∧ s₁ = s₂ := by simpa [Returns, h] using hx
      exact hf

/-- A call whose first step returns goes on from there. -/
theorem outcome_bind_of_returns {x : Call σ ε α} {f : α → Call σ ε β} {s s₁ : σ} {a : α}
    (h : Returns x s a s₁) : outcome (x >>= f) s = outcome (f a) s₁ := by
  rw [outcome_bind, h]

/-! The first step of a call, when it is a read, a write or a check. -/

@[simp] theorem returns_get_bind_iff {f : σ → Call σ ε β} {s s' : σ} {b : β} :
    Returns (get >>= f) s b s' ↔ Returns (f s) s b s' := by
  simp [Returns, outcome_bind]

@[simp] theorem returns_modify_bind_iff {g : σ → σ} {f : PUnit → Call σ ε β} {s s' : σ} {b : β} :
    Returns (modify g >>= f) s b s' ↔ Returns (f ⟨⟩) (g s) b s' := by
  simp [Returns, outcome_bind]

@[simp] theorem returns_modifyGet_bind_iff {g : σ → α × σ} {f : α → Call σ ε β} {s s' : σ}
    {b : β} : Returns (modifyGet g >>= f) s b s' ↔ Returns (f (g s).1) (g s).2 b s' := by
  simp [Returns, outcome_bind]

@[simp] theorem returns_lift_bind_iff {x : Except ε α} {f : α → Call σ ε β} {s s' : σ} {b : β} :
    Returns (liftM x >>= f) s b s' ↔ ∃ a, x = .ok a ∧ Returns (f a) s b s' := by
  cases x <;> simp [Returns, outcome_bind]

@[simp] theorem returns_orThrow_bind_iff {x : Option α} {e : ε} {f : α → Call σ ε β} {s s' : σ}
    {b : β} : Returns (orThrow x e >>= f) s b s' ↔ ∃ a, x = some a ∧ Returns (f a) s b s' := by
  cases x <;> simp [orThrow, Returns]

@[simp] theorem returns_throwIf_bind_iff {c : Prop} [Decidable c] {e : ε} {f : Unit → Call σ ε β}
    {s s' : σ} {b : β} :
    Returns (throwIf c e >>= f) s b s' ↔ ¬ c ∧ Returns (f ()) s b s' := by
  by_cases h : c <;> simp [throwIf, h, Returns]

/-- What a call returns is determined. -/
theorem Returns.unique {x : Call σ ε α} {s s₁ s₂ : σ} {a b : α} (h₁ : Returns x s a s₁)
    (h₂ : Returns x s b s₂) : a = b ∧ s₁ = s₂ := by
  simpa using h₁.symm.trans h₂

/-- A call that does not return throws. -/
theorem outcome_of_not_returns {x : Call σ ε α} {s : σ} (h : ¬ ∃ a s', Returns x s a s') :
    ∃ e s', outcome x s = (.error e, s') := by
  rcases hx : outcome x s with ⟨e | a, s'⟩
  · exact ⟨e, s', rfl⟩
  · exact absurd ⟨a, s', hx⟩ h

/-! ### Calls that change nothing when they throw -/

/-- The call leaves the state as it is. -/
def ReadOnly (x : Call σ ε α) : Prop := ∀ s, (outcome x s).2 = s

/-- The call leaves the state as it is when it throws. -/
def Atomic (x : Call σ ε α) : Prop := ∀ s e s', outcome x s = (.error e, s') → s' = s

theorem readOnly_pure (a : α) : ReadOnly (pure a : Call σ ε α) := fun _ => rfl

theorem readOnly_get : ReadOnly (get : Call σ ε σ) := fun _ => rfl

theorem readOnly_lift (x : Except ε α) : ReadOnly (liftM x : Call σ ε α) := fun _ => rfl

theorem readOnly_throwIf (c : Prop) [Decidable c] (e : ε) :
    ReadOnly (throwIf c e : Call σ ε Unit) := by
  intro s
  by_cases h : c <;> simp [throwIf, h]

theorem readOnly_orThrow (x : Option α) (e : ε) : ReadOnly (orThrow x e : Call σ ε α) := by
  intro s
  cases x <;> simp [orThrow]

/-- A call that reads first, and is atomic after that, is atomic. -/
theorem ReadOnly.atomic_bind {x : Call σ ε α} {f : α → Call σ ε β} (hx : ReadOnly x)
    (hf : ∀ a, Atomic (f a)) : Atomic (x >>= f) := by
  intro s e s' h
  have hs := hx s
  rw [outcome_bind] at h
  rcases hxs : outcome x s with ⟨e₁ | a, s₁⟩ <;> rw [hxs] at h hs
  · obtain ⟨-, rfl⟩ := Prod.mk.inj h
    exact hs
  · obtain rfl : s₁ = s := hs
    exact hf a s₁ e s' h

/-- A call that always returns is atomic. -/
theorem atomic_of_returns {x : Call σ ε α} (h : ∀ s, ∃ a s', Returns x s a s') : Atomic x := by
  intro s e s' hx
  obtain ⟨a, s₁, ha⟩ := h s
  cases ha.symm.trans hx

/-- A write and the value returned after it. -/
theorem atomic_modify_pure (f : σ → σ) (a : α) :
    Atomic (do modify f; pure a : Call σ ε α) :=
  atomic_of_returns fun s => ⟨a, f s, rfl⟩

/-! ### Numbers that do not decrease -/

/-- The call does not decrease `f`, whether it returns or throws. -/
def Grows (f : σ → Nat) (x : Call σ ε α) : Prop := ∀ s, f s ≤ f (outcome x s).2

theorem ReadOnly.grows {x : Call σ ε α} (hx : ReadOnly x) (f : σ → Nat) : Grows f x := by
  intro s
  exact Nat.le_of_eq (congrArg f (hx s)).symm

theorem Grows.bind {f : σ → Nat} {x : Call σ ε α} {g : α → Call σ ε β} (hx : Grows f x)
    (hg : ∀ a, Grows f (g a)) : Grows f (x >>= g) := by
  intro s
  have h := hx s
  rw [outcome_bind]
  rcases hxs : outcome x s with ⟨e | a, s₁⟩ <;> rw [hxs] at h
  · exact h
  · exact Nat.le_trans h (hg a s₁)

/-! ### Calls on a component of the state -/

variable {τ : Type}

/-- A call on the first component of the state. -/
def onFst (x : Call σ ε α) : Call (σ × τ) ε α :=
  ExceptT.mk fun st => ((outcome x st.1).1, ((outcome x st.1).2, st.2))

/-- A call on the second component of the state. -/
def onSnd (x : Call τ ε α) : Call (σ × τ) ε α :=
  ExceptT.mk fun st => ((outcome x st.2).1, (st.1, (outcome x st.2).2))

theorem outcome_onFst (x : Call σ ε α) (st : σ × τ) :
    outcome (onFst x) st = ((outcome x st.1).1, ((outcome x st.1).2, st.2)) := rfl

theorem outcome_onSnd (x : Call τ ε α) (st : σ × τ) :
    outcome (onSnd x) st = ((outcome x st.2).1, (st.1, (outcome x st.2).2)) := rfl

/-- The steps of a call on a component, one by one. -/
theorem onSnd_bind (x : Call τ ε α) (f : α → Call τ ε β) :
    (onSnd (x >>= f) : Call (σ × τ) ε β) = onSnd x >>= fun a => onSnd (f a) := by
  apply ext
  rintro ⟨s, t⟩
  rw [outcome_onSnd, outcome_bind, outcome_bind, outcome_onSnd]
  rcases outcome x t with ⟨_ | a, t'⟩ <;> rfl

theorem onSnd_pure (a : α) : (onSnd (pure a : Call τ ε α) : Call (σ × τ) ε α) = pure a := rfl

theorem onSnd_lift (x : Except ε α) :
    (onSnd (liftM x : Call τ ε α) : Call (σ × τ) ε α) = liftM x := rfl

theorem onSnd_throwIf (c : Prop) [Decidable c] (e : ε) :
    (onSnd (throwIf c e : Call τ ε Unit) : Call (σ × τ) ε Unit) = throwIf c e := by
  by_cases h : c
  · simp only [throwIf, if_pos h]
    rfl
  · simp only [throwIf, if_neg h]
    rfl

/-- A last step on the first component. -/
theorem snd_outcome_onFst_bind_pure (x : Call σ ε α) (b : β) (st : σ × τ) :
    (outcome (onFst x >>= fun _ => pure b : Call (σ × τ) ε β) st).2.2 = st.2 := by
  rw [outcome_bind, outcome_onFst]
  cases (outcome x st.1).1 <;> rfl

theorem grows_onFst {f : τ → Nat} (x : Call σ ε α) :
    Grows (fun st => f st.2) (onFst x : Call (σ × τ) ε α) :=
  fun _ => Nat.le_refl _

theorem Grows.onSnd {f : τ → Nat} {x : Call τ ε α} (hx : Grows f x) :
    Grows (fun st => f st.2) (onSnd x : Call (σ × τ) ε α) :=
  fun st => hx st.2

theorem Returns.onFst {x : Call σ ε α} {s s' : σ} {a : α} (h : Returns x s a s') (t : τ) :
    Returns (onFst x : Call (σ × τ) ε α) (s, t) a (s', t) := by
  rw [Returns, outcome_onFst, h]

theorem Returns.onSnd {x : Call τ ε α} {t t' : τ} {a : α} (h : Returns x t a t') (s : σ) :
    Returns (onSnd x : Call (σ × τ) ε α) (s, t) a (s, t') := by
  rw [Returns, outcome_onSnd, h]

/-- The rules for a first step on a component. -/
theorem returns_onFst_bind_iff {x : Call σ ε α} {f : α → Call (σ × τ) ε β} {s : σ} {t : τ}
    {st' : σ × τ} {b : β} :
    Returns (onFst x >>= f) (s, t) b st' ↔
      ∃ a s', Returns x s a s' ∧ Returns (f a) (s', t) b st' := by
  rw [Returns, outcome_bind, outcome_onFst]
  rcases h : outcome x s with ⟨_ | a, s₁⟩
  · simp [Returns, h]
  · constructor
    · exact fun hf => ⟨a, s₁, h, hf⟩
    · rintro ⟨a', s₂, hx, hf⟩
      obtain ⟨rfl, rfl⟩ := Returns.unique h hx
      exact hf

theorem returns_onSnd_bind_iff {x : Call τ ε α} {f : α → Call (σ × τ) ε β} {s : σ} {t : τ}
    {st' : σ × τ} {b : β} :
    Returns (onSnd x >>= f) (s, t) b st' ↔
      ∃ a t', Returns x t a t' ∧ Returns (f a) (s, t') b st' := by
  rw [Returns, outcome_bind, outcome_onSnd]
  rcases h : outcome x t with ⟨_ | a, s₁⟩
  · simp [Returns, h]
  · constructor
    · exact fun hf => ⟨a, s₁, h, hf⟩
    · rintro ⟨a', s₂, hx, hf⟩
      obtain ⟨rfl, rfl⟩ := Returns.unique h hx
      exact hf

end Call
