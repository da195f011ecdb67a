/-
**Hash codes of lists as polynomials.**

The hash code of a list starts with one, and for each element is multiplied by a base and increased
by the hash code of the element.  It is therefore the power of the base to the length of the list,
plus, for each element, its own hash code times a weight, which is the sum of the powers that its
occurrences contribute.  Two lists have the same hash code for all hash codes of the elements exactly
if every element has the same weight in both.

Main definitions:

* `PolynomialHash.hash` — the hash code of a list;
* `PolynomialHash.weight` — the weight of an element in a list.

Main results:

* `PolynomialHash.hash_eq_add_sum` — the hash code as a sum over the elements;
* `PolynomialHash.forall_hash_eq_iff` — **the hash codes of two lists agree whatever those of the
  elements are, exactly if the weights of the elements do**.
-/

import Mathlib.Algebra.BigOperators.Ring.Finset
import Mathlib.Data.List.Induction
import Mathlib.Tactic.LinearCombination
import Mathlib.Tactic.NormNum
import Mathlib.Tactic.Ring

set_option relaxedAutoImplicit false
set_option autoImplicit false

namespace PolynomialHash

variable {R T : Type*} [CommRing R]

/-! ### The hash code of a list -/

/-- The hash code of a list, from the hash codes of its elements. -/
def hash (r : R) (h : T → R) (l : List T) : R := l.foldl (fun code x => r * code + h x) 1

variable {r : R} {h : T → R} {l l' : List T}

@[simp] theorem hash_nil : hash r h [] = 1 := rfl

@[simp] theorem hash_concat (x : T) : hash r h (l ++ [x]) = r * hash r h l + h x := by
  rw [hash, List.foldl_append]
  rfl

theorem hash_const_add_one : hash r (fun _ : T => r - 1) l + 1 = 2 * r ^ l.length := by
  induction l using List.reverseRecOn with
  | nil => norm_num
  | append_singleton l x ih =>
      rw [hash_concat, List.length_append, List.length_singleton]
      linear_combination r * ih

/-! ### The weights of the elements -/

variable [DecidableEq T] {e : T}

/-- What the hash code of an element counts for in the hash code of the list. -/
def weight (r : R) (e : T) : List T → R
  | [] => 0
  | x :: l => (if x = e then r ^ l.length else 0) + weight r e l

@[simp] theorem weight_nil : weight r e [] = 0 := rfl

theorem weight_concat (x : T) :
    weight r e (l ++ [x]) = r * weight r e l + if x = e then 1 else 0 := by
  induction l with
  | nil => simp [weight]
  | cons y l ih =>
      rw [List.cons_append, weight, weight, ih, List.length_append, List.length_singleton]
      split
      · ring
      · ring

/-- The hash code is the power of the base, plus every element's hash code times its weight. -/
theorem hash_eq_add_sum {s : Finset T} (hs : ∀ x ∈ l, x ∈ s) :
    hash r h l = r ^ l.length + ∑ e ∈ s, weight r e l * h e := by
  induction l using List.reverseRecOn with
  | nil => simp
  | append_singleton l x ih =>
      have hx : x ∈ s := hs x (List.mem_append_right l List.mem_cons_self)
      have hterm (e : T) : weight r e (l ++ [x]) * h e =
          r * (weight r e l * h e) + if x = e then h e else 0 := by
        rw [weight_concat]
        split
        · ring
        · ring
      rw [hash_concat, ih fun y hy => hs y (List.mem_append_left [x] hy),
        Finset.sum_congr rfl fun e _ => hterm e, Finset.sum_add_distrib, ← Finset.mul_sum,
        Finset.sum_ite_eq, if_pos hx, List.length_append, List.length_singleton]
      ring

/-- The weight of an element is the difference that a one for its hash code makes. -/
theorem weight_eq_hash_sub :
    weight r e l = hash r (fun x => if x = e then 1 else 0) l - hash r (fun _ => 0) l := by
  induction l using List.reverseRecOn with
  | nil => simp
  | append_singleton l x ih =>
      rw [weight_concat, hash_concat, hash_concat, ih]
      ring

/-- The weights of all elements together determine the power. -/
theorem pow_length_eq {s : Finset T} (hs : ∀ x ∈ l, x ∈ s) :
    r ^ l.length = 1 + (r - 1) * ∑ e ∈ s, weight r e l := by
  have hsum := hash_eq_add_sum (r := r) (h := fun _ => r - 1) hs
  have hconst := hash_const_add_one (r := r) (l := l)
  rw [← Finset.sum_mul] at hsum
  linear_combination hsum - hconst

theorem hash_eq_of_weight (hw : ∀ e, weight r e l = weight r e l') : hash r h l = hash r h l' := by
  have hl : ∀ x ∈ l, x ∈ (l ++ l').toFinset := fun x hx =>
    List.mem_toFinset.2 (List.mem_append_left l' hx)
  have hl' : ∀ x ∈ l', x ∈ (l ++ l').toFinset := fun x hx =>
    List.mem_toFinset.2 (List.mem_append_right l hx)
  rw [hash_eq_add_sum hl, hash_eq_add_sum hl', pow_length_eq hl, pow_length_eq hl']
  simp only [hw]

/-- **The hash codes of two lists agree whatever those of the elements are, exactly if the weights
of the elements do**, also where they are a part of other hash codes. -/
theorem forall_hash_eq_iff {c d d' : R} (hc : IsUnit c) :
    (∀ h, c * hash r h l + d = c * hash r h l' + d') ↔
      (∀ e, weight r e l = weight r e l') ∧ d = d' := by
  constructor
  · intro hall
    have hw (e : T) : weight r e l = weight r e l' := by
      have hone := hall fun x => if x = e then 1 else 0
      have hzero := hall fun _ => 0
      rw [weight_eq_hash_sub, weight_eq_hash_sub]
      refine hc.mul_left_cancel ?_
      linear_combination hone - hzero
    have hzero := hall fun _ => 0
    rw [hash_eq_of_weight hw] at hzero
    exact ⟨hw, add_left_cancel hzero⟩
  · rintro ⟨hw, rfl⟩ h
    rw [hash_eq_of_weight hw]

end PolynomialHash
