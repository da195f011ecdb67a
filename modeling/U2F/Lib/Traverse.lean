/-
**Lists that are mapped by a function that can fail.**

Main results:

* `Traverse.mapM_eq_some_iff`, `Traverse.mapM_eq_ok_iff` — a list is mapped when each of its members
  is;
* `Traverse.mapM_eq_mapM_iff` — when two functions map a list to the same;
* `Traverse.exists_of_forall₂_right`, `Traverse.exists_of_forall₂_left` — the members of lists that
  are related member by member;
* `Traverse.mapM_all_iff` — all values of a list are true;
* `Traverse.forall_iff_forall_iff` — when two properties hold of a whole list alike.
-/

import Mathlib.Data.List.Forall2

set_option relaxedAutoImplicit false
set_option autoImplicit false

namespace Traverse

variable {α β : Type*} {R : α → β → Prop} {xs : List α} {ys : List β}

theorem exists_of_forall₂_right (h : List.Forall₂ R xs ys) {y : β} (hy : y ∈ ys) :
    ∃ x ∈ xs, R x y := by
  induction h with
  | nil => cases hy
  | @cons x y' xs ys hxy _ ih =>
      rcases List.mem_cons.1 hy with rfl | hy
      · exact ⟨x, List.mem_cons_self, hxy⟩
      · obtain ⟨x', hx', h'⟩ := ih hy
        exact ⟨x', List.mem_cons_of_mem x hx', h'⟩

theorem exists_of_forall₂_left (h : List.Forall₂ R xs ys) {x : α} (hx : x ∈ xs) :
    ∃ y ∈ ys, R x y :=
  exists_of_forall₂_right h.flip hx

theorem optionMapM_eq_some_iff {f : α → Option β} {x : α} {y : β} :
    (some x).mapM f = some (some y) ↔ f x = some y := by
  cases h : f x <;> simp [h]

/-- A list is mapped when each of its members is. -/
theorem mapM_eq_some_iff {f : α → Option β} :
    xs.mapM f = some ys ↔ List.Forall₂ (fun x y => f x = some y) xs ys := by
  induction xs generalizing ys with
  | nil =>
      rw [List.mapM_nil, List.forall₂_nil_left_iff, Option.pure_def, Option.some_inj]
      exact eq_comm
  | cons x xs ih =>
      rw [List.mapM_cons, List.forall₂_cons_left_iff]
      simp only [Option.bind_eq_bind, Option.bind_eq_some_iff, Option.pure_def, Option.some_inj]
      constructor
      · rintro ⟨y, hy, ys', hys, rfl⟩
        exact ⟨y, ys', hy, ih.1 hys, rfl⟩
      · rintro ⟨y, ys', hy, hys, rfl⟩
        exact ⟨y, hy, ys', ih.2 hys, rfl⟩

theorem mapM_eq_none_iff {f : α → Option β} : xs.mapM f = none ↔ ∃ x ∈ xs, f x = none := by
  induction xs with
  | nil => simp
  | cons x xs ih =>
      rw [List.mapM_cons, List.exists_mem_cons_iff, ← ih]
      cases f x with
      | none => simp
      | some y => cases xs.mapM f <;> simp

/-- The same for a function that can throw. -/
theorem mapM_eq_ok_iff {ε : Type*} {f : α → Except ε β} :
    xs.mapM f = .ok ys ↔ List.Forall₂ (fun x y => f x = .ok y) xs ys := by
  induction xs generalizing ys with
  | nil =>
      rw [List.mapM_nil, List.forall₂_nil_left_iff]
      constructor
      · intro h
        cases h
        rfl
      · intro h
        rw [h]
        rfl
  | cons x xs ih =>
      rw [List.mapM_cons, List.forall₂_cons_left_iff]
      constructor
      · intro h
        cases hx : f x with
        | error e =>
            rw [hx] at h
            cases h
        | ok y =>
            rw [hx] at h
            cases hxs : xs.mapM f with
            | error e =>
                rw [hxs] at h
                cases h
            | ok ys' =>
                rw [hxs] at h
                cases h
                exact ⟨y, ys', rfl, ih.1 hxs, rfl⟩
      · rintro ⟨y, ys', hy, hys, rfl⟩
        rw [hy, ih.2 hys]
        rfl

/-- Two maps of a list are equal when they are on each member, or when both fail. -/
theorem mapM_eq_mapM_iff {f g : α → Option β} :
    xs.mapM f = xs.mapM g ↔
      (∀ x ∈ xs, f x = g x) ∨ (∃ x ∈ xs, f x = none) ∧ ∃ x ∈ xs, g x = none := by
  constructor
  · intro h
    cases hf : xs.mapM f with
    | none => exact .inr ⟨mapM_eq_none_iff.1 hf, mapM_eq_none_iff.1 (h ▸ hf)⟩
    | some ys =>
        have hxy := mapM_eq_some_iff.1 hf
        have hgy := mapM_eq_some_iff.1 (h ▸ hf)
        left
        intro x hx
        -- Both maps are given by the one list of values.
        clear hf h
        induction hxy with
        | nil => cases hx
        | @cons a y xs ys hfa _ ih =>
            obtain ⟨hga, hgs⟩ := List.forall₂_cons.1 hgy
            rcases List.mem_cons.1 hx with rfl | hx
            · rw [hfa, hga]
            · exact ih hgs hx
  · rintro (h | ⟨hf, hg⟩)
    · induction xs with
      | nil => rfl
      | cons x xs ih =>
          rw [List.mapM_cons, List.mapM_cons, h x List.mem_cons_self,
            ih fun y hy => h y (List.mem_cons_of_mem x hy)]
    · rw [mapM_eq_none_iff.2 hf, mapM_eq_none_iff.2 hg]

theorem map_mapM {γ : Type*} {f : α → Option β} {t : β → γ} :
    (xs.mapM f).map (List.map t) = xs.mapM fun x => (f x).map t := by
  induction xs with
  | nil => rfl
  | cons x xs ih =>
      rw [List.mapM_cons, List.mapM_cons, ← ih]
      cases f x with
      | none => rfl
      | some y => cases xs.mapM f <;> rfl

/-- All values of a list are true. -/
theorem mapM_all_iff {f : α → Option Bool} :
    (xs.mapM f).map (fun results => results.all id) = some true ↔ ∀ x ∈ xs, f x = some true := by
  induction xs with
  | nil => simp
  | cons x xs ih =>
      rw [List.mapM_cons, List.forall_mem_cons, ← ih]
      rcases f x with _ | b
      · simp
      · rcases xs.mapM f with _ | results
        · simp
        · simp

/-! ### Two properties of a list -/

/-- Two properties hold of a whole list alike, if no member has one of them without the other, or one
has neither, or there are members that have only the one and members that have only the other. -/
theorem forall_iff_forall_iff {P Q OnlyP OnlyQ Neither : α → Prop}
    (honlyP : ∀ x ∈ xs, OnlyP x ↔ P x ∧ ¬ Q x) (honlyQ : ∀ x ∈ xs, OnlyQ x ↔ Q x ∧ ¬ P x)
    (hneither : ∀ x ∈ xs, Neither x ↔ ¬ P x ∧ ¬ Q x) :
    ((xs ≠ [] ∧ ∀ x ∈ xs, P x) ↔ (xs ≠ [] ∧ ∀ x ∈ xs, Q x)) ↔
      (∀ x ∈ xs, ¬ OnlyP x ∧ ¬ OnlyQ x) ∨ (∃ x ∈ xs, Neither x) ∨
        (∃ x ∈ xs, OnlyP x) ∧ (∃ x ∈ xs, OnlyQ x) := by
  constructor
  · intro hiff
    by_cases hsame : ∀ x ∈ xs, ¬ OnlyP x ∧ ¬ OnlyQ x
    · exact .inl hsame
    by_cases hnone : ∃ x ∈ xs, Neither x
    · exact .inr (.inl hnone)
    refine .inr (.inr ?_)
    have hone : ∀ x ∈ xs, P x ∨ Q x := by
      intro x hx
      by_contra hno
      rw [not_or] at hno
      exact hnone ⟨x, hx, (hneither x hx).2 hno⟩
    push Not at hsame
    obtain ⟨x, hx, hxonly⟩ := hsame
    have hne : xs ≠ [] := List.ne_nil_of_mem hx
    constructor
    · -- if none had only the first, all would have the second, and then the first
      by_contra hnoneP
      have hq : ∀ y ∈ xs, Q y := by
        intro y hy
        by_contra hqy
        exact hnoneP ⟨y, hy, (honlyP y hy).2 ⟨(hone y hy).resolve_right hqy, hqy⟩⟩
      have hqx := (honlyQ x hx).1 (hxonly fun hp => hnoneP ⟨x, hx, hp⟩)
      exact hqx.2 ((hiff.2 ⟨hne, hq⟩).2 x hx)
    · by_contra hnoneQ
      have hp : ∀ y ∈ xs, P y := by
        intro y hy
        by_contra hpy
        exact hnoneQ ⟨y, hy, (honlyQ y hy).2 ⟨(hone y hy).resolve_left hpy, hpy⟩⟩
      have hpx : OnlyP x := by
        by_contra hno
        exact hnoneQ ⟨x, hx, hxonly hno⟩
      exact ((honlyP x hx).1 hpx).2 ((hiff.1 ⟨hne, hp⟩).2 x hx)
  · rintro (hsame | ⟨x, hx, hno⟩ | ⟨⟨x, hx, hp⟩, y, hy, hq⟩)
    · have hpq : ∀ x ∈ xs, P x ↔ Q x := by
        intro x hx
        have hp := mt (honlyP x hx).2 (hsame x hx).1
        have hq := mt (honlyQ x hx).2 (hsame x hx).2
        tauto
      exact and_congr_right fun _ => forall₂_congr hpq
    · have hno := (hneither x hx).1 hno
      exact iff_of_false (fun hall => hno.1 (hall.2 x hx)) fun hall => hno.2 (hall.2 x hx)
    · have hp := (honlyP x hx).1 hp
      have hq := (honlyQ y hy).1 hq
      exact iff_of_false (fun hall => hq.2 (hall.2 y hy)) fun hall => hp.2 (hall.2 x hx)

end Traverse
