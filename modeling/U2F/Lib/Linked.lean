/-
**Doubly linked lists in a store.**

A doubly linked list is given by two pointer functions `prev` and `next` on the nodes and by two
pointers `head` and `tail`.  `Linked prev next head tail xs` says that they hold exactly the list
`xs`: this is the abstraction relation, and the two operations that a queue needs, adding a node
at the end and taking a node out, are described by what they do to the pointers of the nodes that
stay.

Main definitions:

* `Linked` — the pointers hold the list `xs`.

Main results:

* `Linked.head_eq_some_iff`, `Linked.head_eq_none_iff` — the front of the list, read off the
  pointers;
* `Linked.concat` — a node added at the end;
* `Linked.remove` — **a node taken out**, wherever it stands.
-/

import Mathlib.Data.List.Basic
import Mathlib.Data.List.Nodup

set_option relaxedAutoImplicit false
set_option autoImplicit false

/-- The pointers `prev`, `next`, `head` and `tail` hold the list `xs`. -/
structure Linked {α : Type*} (prev next : α → Option α) (head tail : Option α) (xs : List α) :
    Prop where
  nodup : xs.Nodup
  head_eq : head = xs.head?
  tail_eq : tail = xs.getLast?
  prev_eq : ∀ l x r, xs = l ++ x :: r → prev x = l.getLast?
  next_eq : ∀ l x r, xs = l ++ x :: r → next x = r.head?

namespace Linked

variable {α : Type*} {prev next prev' next' : α → Option α} {head tail head' tail' : Option α}
  {xs l r : List α} {x : α}

/-- The empty list. -/
theorem nil : Linked prev next none none ([] : List α) where
  nodup := List.nodup_nil
  head_eq := rfl
  tail_eq := rfl
  prev_eq := by simp
  next_eq := by simp

/-! ### The ends of the list -/

theorem head_eq_some_iff (h : Linked prev next head tail xs) :
    head = some x ↔ ∃ r, xs = x :: r := by
  rw [h.head_eq]
  cases xs <;> simp [eq_comm]

theorem head_eq_none_iff (h : Linked prev next head tail xs) : head = none ↔ xs = [] := by
  rw [h.head_eq, List.head?_eq_none_iff]

theorem tail_eq_none_iff (h : Linked prev next head tail xs) : tail = none ↔ xs = [] := by
  rw [h.tail_eq, List.getLast?_eq_none_iff]

/-! ### Adding and taking out nodes -/

variable [DecidableEq α]

omit [DecidableEq α] in
/-- A split of `l ++ r` at a node falls into `r` or into `l`. -/
theorem append_eq_split {y : α} {l' r' : List α} (h : l ++ r = l' ++ y :: r') :
    (∃ a, l' = l ++ a ∧ r = a ++ y :: r') ∨ ∃ b, l = l' ++ y :: b ∧ r' = b ++ r := by
  rcases List.append_eq_append_iff.1 h with ⟨a, rfl, rfl⟩ | ⟨c, rfl, hc⟩
  · exact Or.inl ⟨a, rfl, rfl⟩
  · cases c with
    | nil => exact Or.inl ⟨[], by simp, by simpa using hc.symm⟩
    | cons z c =>
        obtain ⟨rfl, rfl⟩ := List.cons.inj hc
        exact Or.inr ⟨c, rfl, rfl⟩

/-- A node added at the end: the old last node points to it, it points back to the old last node,
and the pointers of the other nodes stay. -/
theorem concat (h : Linked prev next head tail xs) (hx : x ∉ xs)
    (hprev : ∀ y ∈ xs, prev' y = prev y)
    (hnext : ∀ y ∈ xs, next' y = if tail = some y then some x else next y)
    (hprevx : prev' x = tail) (hnextx : next' x = none)
    (hhead : head' = if head = none then some x else head) (htail : tail' = some x) :
    Linked prev' next' head' tail' (xs ++ [x]) where
  nodup := by
    have hne : ∀ y ∈ xs, y ≠ x := fun y hy => ne_of_mem_of_not_mem hy hx
    simpa [List.nodup_append, h.nodup] using hne
  head_eq := by
    rw [hhead, h.head_eq]
    cases xs <;> simp
  tail_eq := by simp [htail]
  prev_eq := by
    intro l y r heq
    rcases append_eq_split heq with ⟨a, rfl, ha⟩ | ⟨b, hb, -⟩
    -- the new node, else an old one
    · obtain ⟨rfl, rfl, rfl⟩ : a = [] ∧ y = x ∧ r = [] := by
        cases a <;> simp_all
      rw [hprevx, h.tail_eq, List.append_nil]
    · rw [hprev y (by simp [hb]), h.prev_eq _ _ _ hb]
  next_eq := by
    intro l y r heq
    rcases append_eq_split heq with ⟨a, rfl, ha⟩ | ⟨b, hb, rfl⟩
    · obtain ⟨rfl, rfl, rfl⟩ : a = [] ∧ y = x ∧ r = [] := by
        cases a <;> simp_all
      rw [hnextx, List.head?_nil]
    · have hnd : (l ++ y :: b).Nodup := hb ▸ h.nodup
      rw [hnext y (by simp [hb]), h.next_eq _ _ _ hb, h.tail_eq, hb]
      cases b with
      | nil => simp
      | cons z b =>
          have hne : (l ++ y :: z :: b).getLast? ≠ some y := by
            intro hlast
            have hmem : y ∈ z :: b := List.mem_of_getLast? (by simpa using hlast)
            exact (List.nodup_cons.1 (List.nodup_append.1 hnd).2.1).1 hmem
          simp only [if_neg hne, List.cons_append, List.head?_cons]

/-- **A node taken out.**  The nodes next to it are joined, the ends move past it, and the
pointers of the other nodes stay. -/
theorem remove (h : Linked prev next head tail (l ++ x :: r))
    (hprev : ∀ y ∈ l ++ r, prev' y = if next x = some y then prev x else prev y)
    (hnext : ∀ y ∈ l ++ r, next' y = if prev x = some y then next x else next y)
    (hhead : head' = if head = some x then next x else head)
    (htail : tail' = if tail = some x then prev x else tail) :
    Linked prev' next' head' tail' (l ++ r) := by
  have hnd := h.nodup
  have hpx : prev x = l.getLast? := h.prev_eq l x r rfl
  have hnx : next x = r.head? := h.next_eq l x r rfl
  refine ⟨?_, ?_, ?_, ?_, ?_⟩
  · exact hnd.sublist (List.Sublist.append_left (List.sublist_cons_self x r) l)
  · rw [hhead, h.head_eq, hnx]
    cases l with
    | nil => simp
    | cons z l =>
        have hzx : z ≠ x := by rintro rfl; simp at hnd
        simp [hzx]
  · rw [htail, h.tail_eq, hpx]
    rcases List.eq_nil_or_concat' r with rfl | ⟨r, z, rfl⟩
    · simp
    · have hzx : z ≠ x := by rintro rfl; simp [List.nodup_append] at hnd
      have hlast : ∀ m : List α, (m ++ (r ++ [z])).getLast? = some z := by simp
      rw [hlast l, ← List.singleton_append, ← List.append_assoc, hlast, if_neg (by simpa using hzx)]
  -- the pointer back of a node behind the one taken out, or before it
  · intro l' y r' heq
    rw [hprev y (by simp [heq]), hnx, hpx]
    rcases append_eq_split heq with ⟨a, rfl, rfl⟩ | ⟨b, rfl, rfl⟩
    · rw [h.prev_eq (l ++ x :: a) y r' (by simp)]
      cases a with
      | nil => simp
      | cons z a =>
          have hzy : z ≠ y := by rintro rfl; simp [List.nodup_append] at hnd
          simp [hzy]
    · have hy : r.head? ≠ some y := by
        intro hr
        have hmem : y ∈ r := List.mem_of_head? hr
        exact (List.nodup_append.1 hnd).2.2 y (by simp) y (by simp [hmem]) rfl
      rw [if_neg hy, h.prev_eq l' y (b ++ x :: r) (by simp)]
  -- the same for the pointer forward
  · intro l' y r' heq
    rw [hnext y (by simp [heq]), hnx, hpx]
    rcases append_eq_split heq with ⟨a, rfl, rfl⟩ | ⟨b, rfl, rfl⟩
    · have hy : l.getLast? ≠ some y := by
        intro hl
        have hmem : y ∈ l := List.mem_of_getLast? hl
        exact (List.nodup_append.1 hnd).2.2 y hmem y (by simp) rfl
      rw [if_neg hy, h.next_eq (l ++ x :: a) y r' (by simp)]
    · rw [h.next_eq l' y (b ++ x :: r) (by simp)]
      rcases List.eq_nil_or_concat' b with rfl | ⟨b, z, rfl⟩
      · simp
      · have hzy : z ≠ y := by rintro rfl; simp [List.nodup_append] at hnd
        have hlast : (l' ++ y :: (b ++ [z])).getLast? = some z := by
          rw [← List.cons_append, ← List.append_assoc, List.getLast?_concat]
        rw [hlast, if_neg (by simpa using hzy)]
        simp

end Linked
