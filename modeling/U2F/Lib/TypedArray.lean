/-
**Typed arrays that are filled from the front.**

A `Uint8Array` has a fixed length and holds zeros at first.  A write of one element beyond the end is
ignored, and its value is reduced to a byte; a write of several elements that do not fit fails.  Code
that lays out a message by hand writes its parts one after the other, each where the one before it
has ended: the array is then the parts written so far, followed by zeros.

Main definitions:

* `TypedArray.new`, `TypedArray.set`, `TypedArray.put`, `TypedArray.subarray` — the operations;
* `TypedArray.write` — the loop that writes one element after the other;
* `TypedArray.Filled` — an array that is filled from the front.

Main results:

* `TypedArray.Filled.set`, `TypedArray.Filled.put`, `TypedArray.Filled.write` — **the next part is
  written**.
-/

import Mathlib.Data.List.Basic

set_option relaxedAutoImplicit false
set_option autoImplicit false

namespace TypedArray

/-- `new Uint8Array(length)` -/
def new (length : ℕ) : List UInt8 := List.replicate length 0

/-- `array.set(bytes, offset)`; `none` is the exception for bytes that do not fit. -/
def set (array bytes : List UInt8) (offset : ℕ) : Option (List UInt8) :=
  if offset + bytes.length ≤ array.length then
    some (array.take offset ++ bytes ++ array.drop (offset + bytes.length))
  else none

/-- `array[i] = value` -/
def put (array : List UInt8) (i value : ℕ) : List UInt8 := List.set array i (UInt8.ofNat value)

/-- The loop that writes bytes one by one from an offset on. -/
def write (array : List UInt8) (offset : ℕ) : List UInt8 → List UInt8
  | [] => array
  | b :: bytes => write (put array offset b.toNat) (offset + 1) bytes

/-- `array.subarray(start, stop)` -/
def subarray (array : List UInt8) (start stop : ℕ) : List UInt8 := (array.take stop).drop start

/-- **An array of a given length that is filled from the front**: it holds the parts written so far,
and zeros. -/
structure Filled (array front : List UInt8) (length : ℕ) : Prop where
  eq : array = front ++ List.replicate (length - front.length) 0
  le : front.length ≤ length

namespace Filled

variable {array front : List UInt8} {length : ℕ}

theorem new (length : ℕ) : Filled (new length) [] length := ⟨rfl, length.zero_le⟩

/-- **The next part is written**, if there is room for it. -/
theorem set (h : Filled array front length) (bytes : List UInt8) (offset : ℕ)
    (hoffset : offset = front.length) (hroom : front.length + bytes.length ≤ length) :
    ∃ array', TypedArray.set array bytes offset = some array' ∧
      Filled array' (front ++ bytes) length := by
  obtain ⟨rfl, hle⟩ := h
  subst hoffset
  have hfits : front.length + bytes.length ≤
      (front ++ List.replicate (length - front.length) (0 : UInt8)).length := by
    rw [List.length_append, List.length_replicate]
    omega
  rw [TypedArray.set, if_pos hfits]
  refine ⟨_, rfl, ?_, ?_⟩
  · have hrest : length - front.length - bytes.length = length - (front ++ bytes).length := by
      rw [List.length_append]
      omega
    have hfront : front.drop (front.length + bytes.length) = [] :=
      List.drop_eq_nil_of_le (Nat.le_add_right _ _)
    rw [← hrest, List.drop_append, hfront, List.drop_replicate]
    simp
  · rw [List.length_append]
    exact hroom

/-- **The next element is written**, if there is room for it. -/
theorem put (h : Filled array front length) (i value : ℕ) (hi : i = front.length)
    (hroom : front.length < length) :
    Filled (TypedArray.put array i value) (front ++ [UInt8.ofNat value]) length := by
  obtain ⟨rfl, hle⟩ := h
  subst hi
  obtain ⟨n, hn⟩ : ∃ n, length - front.length = n + 1 := ⟨length - front.length - 1, by omega⟩
  have hrest : length - (front ++ [UInt8.ofNat value]).length = n := by
    simp only [List.length_append, List.length_cons, List.length_nil]
    omega
  refine ⟨?_, ?_⟩
  · rw [hrest, hn]
    simp [TypedArray.put, List.replicate_succ]
  · simp only [List.length_append, List.length_cons, List.length_nil]
    omega

/-- The next part is written one by one. -/
theorem write (h : Filled array front length) (bytes : List UInt8) (offset : ℕ)
    (hoffset : offset = front.length) (hroom : front.length + bytes.length ≤ length) :
    Filled (TypedArray.write array offset bytes) (front ++ bytes) length := by
  induction bytes generalizing array front offset with
  | nil =>
      rw [List.append_nil]
      exact h
  | cons b bytes ih =>
      rw [List.length_cons] at hroom
      have hput := h.put offset b.toNat hoffset (by omega)
      have hrest := ih hput (offset + 1) (by simp [hoffset]) (by simp; omega)
      rw [UInt8.ofNat_toNat, List.append_assoc, List.singleton_append] at hrest
      exact hrest

/-- An array that is full holds its parts. -/
theorem full (h : Filled array front length) (hfull : front.length = length) : array = front := by
  rw [h.eq, hfull, Nat.sub_self, List.replicate_zero, List.append_nil]

end Filled

end TypedArray
