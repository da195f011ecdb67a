/-
**Lists whose operations act on the first match.**

An association list kept as a plain list: an entry is looked up, updated and removed at the first
element that satisfies a predicate, and added at the end.  Nothing here assumes that at most one
element satisfies the predicate.

Main definitions:

* `FirstMatch.update` — apply a function to the first match (look-up and removal are
  `List.find?` and `List.eraseP`).

Main results:

* `FirstMatch.find?_update`, `FirstMatch.find?_eraseP` — the first match afterwards;
* `FirstMatch.filter_not_eraseP` — the rest of the list is untouched by a removal, in content and
  in order;
* `FirstMatch.find?_eraseP_eq_none` — after a removal no match is left, if there was one at most;
* `FirstMatch.find?_eq_some_of_nodup`, `FirstMatch.lookup_map_key` — look-up by a key.
-/

import Mathlib.Data.List.Forall2
import Mathlib.Data.List.Nodup

set_option relaxedAutoImplicit false
set_option autoImplicit false

namespace FirstMatch

variable {α β : Type*} (p : α → Bool)

/-- Apply `f` to the first element that satisfies `p`. -/
def update (f : α → α) : List α → List α
  | [] => []
  | x :: xs => if p x then f x :: xs else x :: update f xs

variable {p}

/-! ### The first match afterwards -/

theorem find?_update {f : α → α} (hf : ∀ x, p x → p (f x)) (xs : List α) :
    (update p f xs).find? p = (xs.find? p).map f := by
  induction xs with
  | nil => rfl
  | cons x xs ih =>
      by_cases hx : p x
      · simp [update, hx, hf x hx]
      · simp [update, hx, ih]

theorem find?_append_of_some {xs : List α} {a : α} (h : xs.find? p = some a) (ys : List α) :
    (xs ++ ys).find? p = some a := by
  rw [List.find?_append, h]
  rfl

/-- The matches that a removal leaves. -/
theorem filter_eraseP (xs : List α) : (xs.eraseP p).filter p = (xs.filter p).tail := by
  induction xs with
  | nil => rfl
  | cons x xs ih =>
      by_cases hx : p x
      · simp [hx]
      · simp [hx, ih]

theorem find?_eraseP (xs : List α) : (xs.eraseP p).find? p = (xs.filter p).tail.head? := by
  rw [← filter_eraseP, List.head?_filter]

/-- **After a removal no match is left**, if the elements are told apart by a function that gives
all matches one value. -/
theorem find?_eraseP_eq_none {key : α → β} {xs : List α} (hkey : (xs.map key).Nodup)
    (hp : ∀ x y, p x → p y → key x = key y) : (xs.eraseP p).find? p = none := by
  induction xs with
  | nil => rfl
  | cons x xs ih =>
      obtain ⟨hx, hxs⟩ := List.nodup_cons.1 hkey
      by_cases hpx : p x
      · rw [List.eraseP_cons_of_pos hpx, List.find?_eq_none]
        intro y hy hpy
        exact hx (List.mem_map.2 ⟨y, hy, (hp x y hpx hpy).symm⟩)
      · rw [List.eraseP_cons_of_neg hpx, List.find?_cons_of_neg hpx]
        exact ih hxs

/-! ### The rest of the list -/

/-- Another predicate, that no match satisfies, has the same first match afterwards. -/
theorem find?_update_of_not {q : α → Bool} {f : α → α} (hq : ∀ x, p x → ¬ q x ∧ ¬ q (f x))
    (xs : List α) : (update p f xs).find? q = xs.find? q := by
  induction xs with
  | nil => rfl
  | cons x xs ih =>
      by_cases hx : p x
      · rw [update, if_pos hx, List.find?_cons_of_neg (hq x hx).2, List.find?_cons_of_neg (hq x hx).1]
      · rw [update, if_neg hx, List.find?_cons, List.find?_cons, ih]

theorem find?_eraseP_of_not {q : α → Bool} (hq : ∀ x, p x → ¬ q x) (xs : List α) :
    (xs.eraseP p).find? q = xs.find? q := by
  induction xs with
  | nil => rfl
  | cons x xs ih =>
      by_cases hx : p x
      · rw [List.eraseP_cons_of_pos hx, List.find?_cons_of_neg (hq x hx)]
      · rw [List.eraseP_cons_of_neg hx, List.find?_cons, List.find?_cons, ih]

theorem filter_not_eraseP (xs : List α) :
    (xs.eraseP p).filter (fun x => !p x) = xs.filter fun x => !p x := by
  induction xs with
  | nil => rfl
  | cons x xs ih =>
      by_cases hx : p x
      · simp [hx]
      · simp [hx, ih]

/-- The update, at the place of the first match. -/
theorem update_of_find? {f : α → α} {xs : List α} {a : α} (h : xs.find? p = some a) :
    ∃ before after, xs = before ++ a :: after ∧ (∀ x ∈ before, ¬ p x) ∧
      update p f xs = before ++ f a :: after := by
  induction xs with
  | nil => cases h
  | cons x xs ih =>
      by_cases hx : p x
      · obtain rfl : x = a := by simpa [hx] using h
        exact ⟨[], xs, rfl, by simp, by rw [update, if_pos hx]; rfl⟩
      · rw [List.find?_cons_of_neg hx] at h
        obtain ⟨before, after, rfl, hbefore, hupdate⟩ := ih h
        refine ⟨x :: before, after, rfl, ?_, by rw [update, if_neg hx, hupdate]; rfl⟩
        intro y hy
        rcases List.mem_cons.1 hy with rfl | hy
        · exact hx
        · exact hbefore y hy

/-- An element of the updated list has been there before, or is the update of the first match. -/
theorem mem_update {f : α → α} {xs : List α} {y : α} (h : y ∈ update p f xs) :
    y ∈ xs ∨ ∃ a, xs.find? p = some a ∧ y = f a := by
  induction xs with
  | nil => cases h
  | cons x xs ih =>
      by_cases hx : p x
      · rw [update, if_pos hx] at h
        rcases List.mem_cons.1 h with rfl | h
        · exact .inr ⟨x, List.find?_cons_of_pos hx, rfl⟩
        · exact .inl (List.mem_cons_of_mem x h)
      · rw [update, if_neg hx] at h
        rw [List.find?_cons_of_neg hx]
        rcases List.mem_cons.1 h with rfl | h
        · exact .inl List.mem_cons_self
        · exact (ih h).imp (List.mem_cons_of_mem x) id

/-- What the update does not touch in an element, it does not touch in the list. -/
theorem map_update {f : α → α} {g : α → β} (hg : ∀ x, g (f x) = g x) (xs : List α) :
    (update p f xs).map g = xs.map g := by
  induction xs with
  | nil => rfl
  | cons x xs ih =>
      by_cases hx : p x
      · simp [update, hx, hg]
      · simp [update, hx, ih]

/-- Where nothing matches before the first match, removing what the first match singles out is
removing the first match. -/
theorem eraseP_congr {q : α → Bool} {xs : List α} {a : α} (ha : xs.find? p = some a) (hq : q a)
    (hqp : ∀ x, q x → p x) : xs.eraseP q = xs.eraseP p := by
  induction xs with
  | nil => rfl
  | cons x xs ih =>
      by_cases hx : p x
      · obtain rfl : x = a := by simpa [hx] using ha
        rw [List.eraseP_cons_of_pos hx, List.eraseP_cons_of_pos hq]
      · have hqx : ¬ q x := fun h => hx (hqp x h)
        rw [List.eraseP_cons_of_neg hx, List.eraseP_cons_of_neg hqx]
        rw [ih (by simpa [hx] using ha)]

/-! ### Two lists that correspond -/

section Forall₂

variable {R : α → β → Prop} {q : β → Bool} {xs : List α} {ys : List β}

theorem forall₂_update {f : α → α} {g : β → β} (hpq : ∀ x y, R x y → p x = q y)
    (hR : ∀ x y, R x y → R (f x) (g y)) (h : List.Forall₂ R xs ys) :
    List.Forall₂ R (update p f xs) (update q g ys) := by
  induction h with
  | nil => exact .nil
  | @cons x y xs ys hxy hrest ih =>
      by_cases hx : p x
      · rw [update, update, if_pos hx, if_pos (hpq x y hxy ▸ hx)]
        exact .cons (hR x y hxy) hrest
      · rw [update, update, if_neg hx, if_neg (hpq x y hxy ▸ hx)]
        exact .cons hxy ih

theorem forall₂_eraseP (hpq : ∀ x y, R x y → p x = q y) (h : List.Forall₂ R xs ys) :
    List.Forall₂ R (xs.eraseP p) (ys.eraseP q) := by
  induction h with
  | nil => exact .nil
  | @cons x y xs ys hxy hrest ih =>
      by_cases hx : p x
      · rw [List.eraseP_cons_of_pos hx, List.eraseP_cons_of_pos (hpq x y hxy ▸ hx)]
        exact hrest
      · rw [List.eraseP_cons_of_neg hx, List.eraseP_cons_of_neg (hpq x y hxy ▸ hx)]
        exact .cons hxy ih

end Forall₂

/-! ### Keys -/

/-- An element whose key no other element has is the first match of what only its key matches. -/
theorem find?_eq_some_of_nodup {key : α → β} {xs : List α} (hkey : (xs.map key).Nodup) {a : α}
    (ha : a ∈ xs) (hpa : p a) (hp : ∀ x, p x → key x = key a) : xs.find? p = some a := by
  induction xs with
  | nil => cases ha
  | cons x xs ih =>
      obtain ⟨hx, hxs⟩ := List.nodup_cons.1 hkey
      rcases List.mem_cons.1 ha with rfl | ha
      · exact List.find?_cons_of_pos hpa
      · have hpx : ¬ p x := fun h => hx (List.mem_map.2 ⟨a, ha, (hp x h).symm⟩)
        rw [List.find?_cons_of_neg hpx]
        exact ih hxs ha

/-- Looking up a key among values that are stored by key. -/
theorem lookup_map_key {κ : Type*} [BEq κ] (key : α → κ) (value : α → β) (xs : List α) (k : κ) :
    (xs.map fun a => (key a, value a)).lookup k = (xs.find? fun a => k == key a).map value := by
  induction xs with
  | nil => rfl
  | cons a xs ih =>
      rw [List.map_cons, List.lookup_cons, List.find?_cons, ih]
      cases k == key a <;> rfl

/-! ### The first separator -/

/-- What comes before the first separator, and what comes after it. -/
theorem append_cons_inj {a : α} {xs ys us vs : List α} (hxs : a ∉ xs) (hys : a ∉ ys)
    (h : xs ++ a :: us = ys ++ a :: vs) : xs = ys ∧ us = vs := by
  induction xs generalizing ys with
  | nil =>
      cases ys with
      | nil => exact ⟨rfl, (List.cons.inj h).2⟩
      | cons y ys =>
          obtain ⟨rfl, -⟩ := List.cons.inj h
          exact absurd List.mem_cons_self hys
  | cons x xs ih =>
      cases ys with
      | nil =>
          obtain ⟨rfl, -⟩ := List.cons.inj h
          exact absurd List.mem_cons_self hxs
      | cons y ys =>
          obtain ⟨rfl, htail⟩ := List.cons.inj h
          have hxy : xs = ys ∧ us = vs :=
            ih (List.not_mem_of_not_mem_cons hxs) (List.not_mem_of_not_mem_cons hys) htail
          exact ⟨by rw [hxy.1], hxy.2⟩

end FirstMatch
