/-
**The integers among the numbers of JavaScript.**

A number is a double, and below 2^53 every integer is one.  A sum of integers is rounded to the
nearest double.  A bitwise operator works on the residues of its operands modulo 2^32, and all but
`>>>` read the result as a signed word.

Main definitions:

* `JSInteger.round`, `JSInteger.add` — rounding, and `+`;
* `JSInteger.word` — the word that the bitwise operators work on;
* `JSInteger.and`, `JSInteger.or`, `JSInteger.xor`, `JSInteger.not`, `JSInteger.shiftLeft`,
  `JSInteger.shiftRight`, `JSInteger.unsignedShiftRight` — the bitwise operators.

Main results:

* `JSInteger.word_add` — a sum that is not rounded is the sum of the words.
-/

import Mathlib.Data.Nat.Log
import Mathlib.Algebra.Order.Ring.Int

set_option relaxedAutoImplicit false
set_option autoImplicit false

namespace JSInteger

/-! ### Sums -/

/-- The double that is closest to an integer, and of two such the one whose significand is even. -/
def round (n : ℤ) : ℤ :=
  let ulp := 2 ^ (n.natAbs.log2 - 52)
  let low := n.natAbs / ulp
  let rest := n.natAbs % ulp
  let nearest := if 2 * rest < ulp ∨ 2 * rest = ulp ∧ low % 2 = 0 then low else low + 1
  n.sign * (nearest * ulp : ℕ)

/-- `a + b` -/
def add (a b : ℤ) : ℤ := round (a + b)

/-- Below 2^53 every integer is a double. -/
theorem round_of_lt {n : ℤ} (h : n.natAbs < 2 ^ 53) : round n = n := by
  have hexponent : n.natAbs.log2 - 52 = 0 := by
    by_cases hzero : n.natAbs = 0
    · rw [hzero]
      rfl
    · have hlog := (Nat.log2_lt hzero).2 h
      omega
  have hnearest : round n = n.sign * (n.natAbs * 1 : ℕ) := by
    unfold round
    rw [hexponent]
    simp [Nat.mod_one]
  rw [hnearest, Nat.mul_one, Int.sign_mul_natAbs]

theorem add_of_lt {a b : ℤ} (h : (a + b).natAbs < 2 ^ 53) : add a b = a + b := round_of_lt h

/-! ### Bitwise operators -/

/-- The word that the bitwise operators work on. -/
def word (n : ℤ) : BitVec 32 := BitVec.ofInt 32 n

/-- `a & b` -/
def and (a b : ℤ) : ℤ := (word a &&& word b).toInt

/-- `a | b` -/
def or (a b : ℤ) : ℤ := (word a ||| word b).toInt

/-- `a ^ b` -/
def xor (a b : ℤ) : ℤ := (word a ^^^ word b).toInt

/-- `~a` -/
def not (a : ℤ) : ℤ := (~~~ word a).toInt

/-- `a << r`, for `r` below 32 -/
def shiftLeft (a : ℤ) (r : ℕ) : ℤ := (word a <<< r).toInt

/-- `a >> r`, for `r` below 32 -/
def shiftRight (a : ℤ) (r : ℕ) : ℤ := ((word a).sshiftRight r).toInt

/-- `a >>> r`, for `r` below 32 -/
def unsignedShiftRight (a : ℤ) (r : ℕ) : ℤ := (word a >>> r).toNat

@[simp] theorem word_toInt (x : BitVec 32) : word x.toInt = x := BitVec.ofInt_toInt

@[simp] theorem word_natCast (n : ℕ) : word n = BitVec.ofNat 32 n := BitVec.ofInt_natCast 32 n

@[simp] theorem word_and (a b : ℤ) : word (and a b) = word a &&& word b := word_toInt _

@[simp] theorem word_or (a b : ℤ) : word (or a b) = word a ||| word b := word_toInt _

@[simp] theorem word_xor (a b : ℤ) : word (xor a b) = word a ^^^ word b := word_toInt _

@[simp] theorem word_not (a : ℤ) : word (not a) = ~~~ word a := word_toInt _

@[simp] theorem word_shiftLeft (a : ℤ) (r : ℕ) : word (shiftLeft a r) = word a <<< r :=
  word_toInt _

@[simp] theorem word_shiftRight (a : ℤ) (r : ℕ) :
    word (shiftRight a r) = (word a).sshiftRight r :=
  word_toInt _

@[simp] theorem word_unsignedShiftRight (a : ℤ) (r : ℕ) :
    word (unsignedShiftRight a r) = word a >>> r := by
  rw [unsignedShiftRight, word_natCast, BitVec.ofNat_toNat, BitVec.setWidth_eq]

/-- **A sum that is not rounded is the sum of the words.** -/
theorem word_add {a b : ℤ} (h : (a + b).natAbs < 2 ^ 53) : word (add a b) = word a + word b := by
  rw [add_of_lt h, word, BitVec.ofInt_add]
  rfl

/-- The signed words are the results of the bitwise operators. -/
theorem natAbs_toInt_le (x : BitVec 32) : x.toInt.natAbs ≤ 2 ^ 31 := by
  have hlt := @BitVec.toInt_lt 32 x
  have hle := @BitVec.le_toInt 32 x
  omega

end JSInteger
