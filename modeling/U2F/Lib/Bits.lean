/-
**A bit of a machine word.**

Code that tests or sets one bit of a word does it with a mask that is a power of two.

Main results:

* `Bits.uint8_and_eq_zero_iff`, `Bits.uint32_and_eq_zero_iff` — the test;
* `Bits.uint32_or_and_ne_zero` — a bit that is set is found.
-/

import Mathlib.Data.Nat.Bitwise

set_option relaxedAutoImplicit false
set_option autoImplicit false

namespace Bits

theorem and_two_pow_eq_zero_iff (n k : ℕ) : n &&& 2 ^ k = 0 ↔ n.testBit k = false := by
  rw [Nat.and_two_pow]
  cases n.testBit k <;> simp

theorem uint8_and_eq_zero_iff {mask : UInt8} {k : ℕ} (h : mask.toNat = 2 ^ k) (b : UInt8) :
    b &&& mask = 0 ↔ b.toNat.testBit k = false := by
  have hzero : (0 : UInt8).toNat = 0 := rfl
  rw [← UInt8.toNat_inj, UInt8.toNat_and, h, hzero, and_two_pow_eq_zero_iff]

theorem uint32_and_eq_zero_iff {mask : UInt32} {k : ℕ} (h : mask.toNat = 2 ^ k) (b : UInt32) :
    b &&& mask = 0 ↔ b.toNat.testBit k = false := by
  have hzero : (0 : UInt32).toNat = 0 := rfl
  rw [← UInt32.toNat_inj, UInt32.toNat_and, h, hzero, and_two_pow_eq_zero_iff]

theorem uint32_or_and_ne_zero {mask : UInt32} {k : ℕ} (h : mask.toNat = 2 ^ k) (b : UInt32) :
    (b ||| mask) &&& mask ≠ 0 := by
  rw [ne_eq, uint32_and_eq_zero_iff h, UInt32.toNat_or, h, Nat.testBit_or,
    Nat.testBit_two_pow_self, Bool.or_true]
  exact Bool.noConfusion

end Bits
