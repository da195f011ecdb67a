/-
**Buffers of a fixed size.**

A local array of C holds arbitrary bytes at first.  A write that does not fit inside it is undefined
behaviour, here `none`.  Code that lays out a message writes its parts one after the other, and then
hands over the front of the array.

Main definitions:

* `Buffer` — an array of bytes of a fixed size;
* `Buffer.write` — a write of some bytes from an offset on, if they fit;
* `Buffer.front` — the first bytes of an array.

Main results:

* `Buffer.front_write` — a part that is written where the front ends makes the front longer;
* `Buffer.front_write_of_le`, `Buffer.front_write_one` — what a write leaves alone.
-/

import Mathlib.Data.List.Basic

set_option relaxedAutoImplicit false
set_option autoImplicit false

/-- An array of bytes of a fixed size. -/
structure Buffer (size : ℕ) where
  bytes : List UInt8
  length_bytes : bytes.length = size

namespace Buffer

variable {size : ℕ}

/-- A buffer with the same byte everywhere. -/
def filled (size : ℕ) (b : UInt8) : Buffer size := ⟨List.replicate size b, List.length_replicate⟩

/-- A write of some bytes from an offset on; `none` if they do not fit. -/
def write (buf : Buffer size) (off : ℕ) (part : List UInt8) : Option (Buffer size) :=
  if h : off + part.length ≤ size then
    some ⟨buf.bytes.take off ++ part ++ buf.bytes.drop (off + part.length), by
      have hlength := buf.length_bytes
      simp only [List.length_append, List.length_take, List.length_drop]
      omega⟩
  else none

/-- The first bytes of an array. -/
def front (buf : Buffer size) (n : ℕ) : List UInt8 := buf.bytes.take n

/-- The byte at an index. -/
def get (buf : Buffer size) (i : ℕ) : UInt8 := buf.bytes.getD i 0

variable {buf buf' : Buffer size} {off n : ℕ} {part : List UInt8}

theorem write_eq_some_iff :
    buf.write off part = some buf' ↔ off + part.length ≤ size ∧
      buf'.bytes = buf.bytes.take off ++ part ++ buf.bytes.drop (off + part.length) := by
  rw [write]
  split
  · rename_i h
    rw [and_iff_right h]
    constructor
    · intro hwrite
      obtain rfl := Option.some_inj.1 hwrite
      rfl
    · intro hbytes
      obtain ⟨bytes, hlength⟩ := buf'
      obtain rfl : bytes = _ := hbytes
      rfl
  · rename_i h
    exact iff_of_false (fun hwrite => by cases hwrite) fun hfits => h hfits.1

/-- A write that fits succeeds. -/
theorem exists_write (buf : Buffer size) (off : ℕ) (part : List UInt8)
    (h : off + part.length ≤ size) : ∃ buf', buf.write off part = some buf' := by
  rw [write, dif_pos h]
  exact ⟨_, rfl⟩

theorem getD_front {i : ℕ} (h : i < n) : (buf.front n).getD i 0 = buf.get i := by
  rw [front, get, List.getD_eq_getElem?_getD, List.getD_eq_getElem?_getD, List.getElem?_take_of_lt h]

theorem length_front (h : n ≤ size) : (buf.front n).length = n := by
  rw [front, List.length_take, buf.length_bytes]
  exact Nat.min_eq_left h

/-- **A part that is written where the front ends makes the front longer.** -/
theorem front_write (h : buf.write off part = some buf') :
    buf'.front (off + part.length) = buf.front off ++ part := by
  obtain ⟨hfits, hbytes⟩ := write_eq_some_iff.1 h
  have hlength : (buf.bytes.take off ++ part).length = off + part.length := by
    rw [List.length_append, List.length_take, buf.length_bytes]
    omega
  rw [front, hbytes, List.take_left' hlength, front]

/-- A write leaves the front before it alone. -/
theorem front_write_of_le (h : buf.write off part = some buf') (hn : n ≤ off) :
    buf'.front n = buf.front n := by
  obtain ⟨hfits, hbytes⟩ := write_eq_some_iff.1 h
  have hlength : (buf.bytes.take off).length = off := by
    rw [List.length_take, buf.length_bytes]
    omega
  rw [front, hbytes, List.append_assoc, List.take_append_of_le_length (by omega), List.take_take,
    Nat.min_eq_left hn, front]

/-- A write of the first byte leaves the others alone. -/
theorem front_write_one {b : UInt8} (h : buf.write 0 [b] = some buf') :
    buf'.front (n + 1) = b :: (buf.front (n + 1)).tail := by
  obtain ⟨-, hbytes⟩ := write_eq_some_iff.1 h
  rw [front, hbytes, front]
  cases buf.bytes with
  | nil => simp
  | cons _ _ => rfl

end Buffer
