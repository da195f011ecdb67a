/-
**Lists in fragments.**

A list is sent in fragments: the first has room for `a` elements, and each of the following ones
for `b`.  The last fragment is filled up.  What has been received after some fragments is a prefix
of the list, so that sender and receiver are compared by how far they have come.

Main definitions:

* `Fragments.count` — the number of the fragments after the first;
* `Fragments.fragment` — the fragments after the first;
* `Fragments.received` — what the first fragments carry;
* `Fragments.fill` — a fragment, filled up.

Main results:

* `Fragments.received_succ` — each fragment adds to what has been received;
* `Fragments.lt_count_iff`, `Fragments.received_of_count_le` — a fragment is missing exactly as
  long as elements are.
-/

import Mathlib.Data.List.Basic

set_option relaxedAutoImplicit false
set_option autoImplicit false

namespace Fragments

variable {α : Type*}

/-- A list, filled up to `n` elements. -/
def fill (x : α) (n : ℕ) (xs : List α) : List α := xs ++ List.replicate (n - xs.length) x

theorem length_fill {x : α} {n : ℕ} {xs : List α} (h : xs.length ≤ n) :
    (fill x n xs).length = n := by
  rw [fill, List.length_append, List.length_replicate]
  omega

theorem fill_of_length_eq {x : α} {n : ℕ} {xs : List α} (h : xs.length = n) : fill x n xs = xs := by
  rw [fill, h, Nat.sub_self]
  exact List.append_nil xs

theorem take_fill {x : α} {n k : ℕ} {xs : List α} (h : k ≤ xs.length) :
    (fill x n xs).take k = xs.take k := by
  rw [fill, List.take_append_of_le_length h]

variable (a b : ℕ) (xs : List α)

/-- The number of the fragments after the first. -/
def count (n : ℕ) : ℕ := (n - a + (b - 1)) / b

/-- The fragment with number `k` after the first. -/
def fragment (k : ℕ) : List α := (xs.drop (a + b * k)).take b

/-- What the first fragment and `k` more carry. -/
def received (k : ℕ) : List α := xs.take (a + b * k)

variable {a b}

theorem length_fragment_le (k : ℕ) : (fragment a b xs k).length ≤ b := List.length_take_le _ _

theorem length_fragment (k : ℕ) : (fragment a b xs k).length = min b (xs.length - (a + b * k)) := by
  rw [fragment, List.length_take, List.length_drop]

theorem length_received (k : ℕ) : (received a b xs k).length = min (a + b * k) xs.length :=
  List.length_take

/-- Each fragment adds to what has been received. -/
theorem received_succ (k : ℕ) :
    received a b xs (k + 1) = received a b xs k ++ fragment a b xs k := by
  rw [received, Nat.mul_succ, ← Nat.add_assoc, List.take_add]
  rfl

variable (hb : 0 < b)
include hb

/-- A fragment is missing exactly as long as elements are. -/
theorem lt_count_iff {k n : ℕ} : k < count a b n ↔ a + b * k < n := by
  rw [count, Nat.lt_iff_add_one_le, Nat.le_div_iff_mul_le hb, Nat.add_mul, Nat.mul_comm k]
  omega

theorem received_of_count_le {k : ℕ} (h : count a b xs.length ≤ k) : received a b xs k = xs := by
  refine List.take_of_length_le (Nat.le_of_not_lt fun hlt => ?_)
  exact Nat.not_lt.2 h ((lt_count_iff hb).2 hlt)

end Fragments
