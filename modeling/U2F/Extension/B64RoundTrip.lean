/-
**The base64 of the extension is base64url.**

The accumulators of `b64.js` keep all bits that they have been given, as far as there is room in 32 bits.
What is written of them are six bits at a time, and these are the sextets of the bytes, whatever came
before.  So the text is the base64url of the bytes, without padding.

Main results:

* `toNat_sixBits`, `toNat_accu` — the accumulator of the encoder as a number;
* `B64_encode_eq` — **the text is the base64url of the bytes**;
* `B64_round_trip` — **the codec inverts itself, on bytes and on such texts only**.
-/

import U2F.Extension.B64
import U2F.Lib.Base64

set_option relaxedAutoImplicit false
set_option autoImplicit false

namespace U2F

/-! ### The accumulator of the encoder -/

/-- The six bits of an accumulator that a shift leaves lowest. -/
theorem toNat_sixBits (accu : BitVec 32) {shift : ℕ} (h : shift ≤ 26) :
    (sixBits (accu.sshiftRight shift)).toNat = accu.toNat / 2 ^ shift % 64 := by
  refine Nat.eq_of_testBit_eq fun i => ?_
  have hmod : (64 : ℕ) = 2 ^ 6 := rfl
  have hmask : (63 : BitVec 32).toNat = 2 ^ 6 - 1 := rfl
  rw [sixBits, BitVec.toNat_and, hmask, Nat.and_two_pow_sub_one_eq_mod, hmod,
    Nat.testBit_mod_two_pow, Nat.testBit_mod_two_pow, Nat.testBit_div_two_pow, BitVec.testBit_toNat,
    BitVec.testBit_toNat]
  by_cases hi : i < 6
  · -- a bit of the six is none of those that repeat the sign
    rw [BitVec.getLsbD_sshiftRight, if_pos (by omega), Nat.add_comm i shift]
    have hlt : ¬ 32 ≤ i := by omega
    simp [hlt]
  · simp [hi]

/-- The accumulator with one byte more. -/
theorem toNat_accu (accu : BitVec 32) (byte : UInt8) :
    (accu <<< 8 ||| BitVec.ofNat 32 byte.toNat).toNat =
      (accu.toNat * 256 + byte.toNat) % 2 ^ 32 := by
  have hbyte : byte.toNat < 2 ^ 8 := byte.toNat_lt
  have hshift : (accu <<< 8).toNat = (accu.toNat % 2 ^ 24) <<< 8 := by
    rw [BitVec.toNat_shiftLeft, Nat.shiftLeft_eq, Nat.shiftLeft_eq]
    omega
  have hofNat : (BitVec.ofNat 32 byte.toNat).toNat = byte.toNat := by
    rw [BitVec.toNat_ofNat]
    omega
  rw [BitVec.toNat_or, hofNat, hshift, ← Nat.shiftLeft_add_eq_or_of_lt hbyte, Nat.shiftLeft_eq]
  omega

/-! ### The text -/

/-- The character of a sextet. -/
def charOf (n : ℕ) : UInt16 := UInt16.ofNat (Base64.char n).toNat

theorem b64char_eq : ∀ n < 64, b64char (BitVec.ofNat 32 n) = charOf n := by
  decide +kernel

theorem b64char_sixBits {accu : BitVec 32} {shift n : ℕ} (hshift : shift ≤ 26)
    (h : accu.toNat / 2 ^ shift % 64 = n) : b64char (sixBits (accu.sshiftRight shift)) = charOf n := by
  have hn : n < 64 := by omega
  have hbits : sixBits (accu.sshiftRight shift) = BitVec.ofNat 32 n := by
    refine BitVec.eq_of_toNat_eq ?_
    rw [toNat_sixBits accu hshift, h, BitVec.toNat_ofNat]
    omega
  rw [hbits, b64char_eq n hn]

/-- The accumulator that is filled up with zeros. -/
theorem toNat_shiftLeft_eight (accu : BitVec 32) :
    (accu <<< 8).toNat = accu.toNat * 256 % 2 ^ 32 := by
  rw [BitVec.toNat_shiftLeft, Nat.shiftLeft_eq]

/-- One byte makes two characters, the second one with zeros. -/
theorem B64_encodeLoop_one (accu : BitVec 32) (a : ℕ) :
    let accu₁ := accu <<< 8 ||| BitVec.ofNat 32 a
    B64_encodeLoop accu 0 [a] =
      [b64char (sixBits (accu₁.sshiftRight 2)), b64char (sixBits ((accu₁ <<< 8).sshiftRight 4))] :=
  rfl

/-- Two bytes make three characters. -/
theorem B64_encodeLoop_two (accu : BitVec 32) (a b : ℕ) :
    let accu₁ := accu <<< 8 ||| BitVec.ofNat 32 a
    let accu₂ := accu₁ <<< 8 ||| BitVec.ofNat 32 b
    B64_encodeLoop accu 0 [a, b] =
      [b64char (sixBits (accu₁.sshiftRight 2)), b64char (sixBits (accu₂.sshiftRight 4)),
        b64char (sixBits ((accu₂ <<< 8).sshiftRight 6))] :=
  rfl

/-- **What is written are the sextets of the bytes**, whatever the accumulator holds. -/
theorem B64_encodeLoop_eq (accu : BitVec 32) (bytes : List UInt8) :
    B64_encodeLoop accu 0 (bytes.map UInt8.toNat) = (Base64.sextets bytes).map charOf := by
  induction bytes using Base64.sextets.induct generalizing accu with
  | case1 => rfl
  | case2 a =>
      have ha := a.toNat_lt
      have h₁ := toNat_accu accu a
      have h₂ := toNat_shiftLeft_eight (accu <<< 8 ||| BitVec.ofNat 32 a.toNat)
      simp only [List.map_cons, List.map_nil, B64_encodeLoop_one, Base64.sextets]
      rw [b64char_sixBits (by decide) (show _ = a.toNat / 4 by omega),
        b64char_sixBits (by decide) (show _ = a.toNat % 4 * 16 by omega)]
  | case3 a b =>
      have ha := a.toNat_lt
      have hb := b.toNat_lt
      have h₁ := toNat_accu accu a
      have h₂ := toNat_accu (accu <<< 8 ||| BitVec.ofNat 32 a.toNat) b
      have h₃ := toNat_shiftLeft_eight
        ((accu <<< 8 ||| BitVec.ofNat 32 a.toNat) <<< 8 ||| BitVec.ofNat 32 b.toNat)
      simp only [List.map_cons, List.map_nil, B64_encodeLoop_two, Base64.sextets]
      rw [b64char_sixBits (by decide) (show _ = a.toNat / 4 by omega),
        b64char_sixBits (by decide) (show _ = a.toNat % 4 * 16 + b.toNat / 16 by omega),
        b64char_sixBits (by decide) (show _ = b.toNat % 16 * 4 by omega)]
  | case4 a b c bytes ih =>
      have ha := a.toNat_lt
      have hb := b.toNat_lt
      have hc := c.toNat_lt
      have h₁ := toNat_accu accu a
      have h₂ := toNat_accu (accu <<< 8 ||| BitVec.ofNat 32 a.toNat) b
      have h₃ := toNat_accu ((accu <<< 8 ||| BitVec.ofNat 32 a.toNat) <<< 8 |||
        BitVec.ofNat 32 b.toNat) c
      simp only [List.map_cons, B64_encodeLoop_three, ih, Base64.sextets]
      rw [b64char_sixBits (by decide) (show _ = a.toNat / 4 by omega),
        b64char_sixBits (by decide) (show _ = a.toNat % 4 * 16 + b.toNat / 16 by omega),
        b64char_sixBits (by decide) (show _ = b.toNat % 16 * 4 + c.toNat / 64 by omega),
        b64char_sixBits (by decide) (show _ = c.toNat % 64 by omega)]

/-- The base64url of bytes, as a string of the language. -/
def base64url (bytes : List UInt8) : JSString := js (Base64.encode bytes)

/-- **The text is the base64url of the bytes.** -/
theorem B64_encode_eq (bytes : List UInt8) :
    B64_encode (bytes.map UInt8.toNat) = base64url bytes := by
  rw [B64_encode, B64_encodeLoop_eq, base64url, js, Base64.encode, String.toList_ofList, List.map_map]
  rfl

/-! ### The alphabet -/

/-- The characters of base64url. -/
def IsInAlphabet (c : UInt16) : Prop := ∃ n < 64, c = charOf n

theorem charOf_inmap : ∀ i < 96, B64_inmap.getD i 0 ≠ 0 →
    B64_inmap.getD i 0 - 1 < 64 ∧ charOf (B64_inmap.getD i 0 - 1) = UInt16.ofNat (i + 32) := by
  decide +kernel

/-- The table has no entry for a character that is not in the alphabet. -/
theorem B64_in_eq_none {c : UInt16} (h : ¬ IsInAlphabet c) : B64_in c = none := by
  by_contra hsome
  rw [B64_in] at hsome
  split at hsome
  case isTrue => exact hsome rfl
  case isFalse hc =>
    rw [not_or, not_or] at hc
    obtain ⟨hlo, hhi, hentry⟩ := hc
    obtain ⟨hlt, heq⟩ := charOf_inmap (c.toNat - 32) (by omega) hentry
    refine h ⟨_, hlt, ?_⟩
    rw [heq, Nat.sub_add_cancel (by omega), UInt16.ofNat_toNat]

theorem B64_decodeLoop_eq_none {s : JSString} (h : ∃ c ∈ s, ¬ IsInAlphabet c) (accu : BitVec 32)
    (shift : ℕ) : B64_decodeLoop accu shift s = none := by
  induction s generalizing accu shift with
  | nil =>
      obtain ⟨c, hc, -⟩ := h
      cases hc
  | cons a s ih =>
      rw [B64_decodeLoop]
      rcases hin : B64_in a with _ | bits
      · rfl
      · have hrest : ∃ c ∈ s, ¬ IsInAlphabet c := by
          obtain ⟨c, hc, hnot⟩ := h
          rcases List.mem_cons.1 hc with rfl | hc
          · rw [B64_in_eq_none hnot] at hin
            cases hin
          · exact ⟨c, hc, hnot⟩
        simp only [ih hrest, Option.map_none, ite_self]

/-! ### Round trips -/

/-- **The codec inverts itself.**  Bytes are written as their base64url, and read back from it; a string
is read and written back as it was if and only if it is the base64url of some bytes; and nothing is
read from a string with another character in it. -/
theorem B64_round_trip :
    (∀ bytes : List UInt8, B64_decode (B64_encode (bytes.map UInt8.toNat)) = bytes ∧
      B64_encode (bytes.map UInt8.toNat) = base64url bytes) ∧
    (∀ s : JSString, B64_encode ((B64_decode s).map UInt8.toNat) = s ↔
      ∃ bytes, s = base64url bytes) ∧
    ∀ s : JSString, (∃ c ∈ s, ¬ IsInAlphabet c) → B64_decode s = [] := by
  refine ⟨fun bytes => ⟨B64_decode_encode_bytes bytes, B64_encode_eq bytes⟩, fun s => ?_,
    fun s hs => ?_⟩
  · constructor
    · intro h
      exact ⟨B64_decode s, by rw [← B64_encode_eq, h]⟩
    · rintro ⟨bytes, rfl⟩
      rw [← B64_encode_eq, B64_decode_encode_bytes]
  · rw [B64_decode, B64_decodeLoop_eq_none hs, Option.getD_none]

end U2F
