/-
**The base64 of the extension.**

`b64.js` writes bytes with the URL-safe alphabet and no padding.  Both loops move the bits through a
32-bit accumulator.  The encoder takes an array of numbers and does not mask them, so a number above
255 spills into the bits of the number before it, as far as these have not been written.

Main definitions:

* `B64_encode`, `B64_decode` — the codec;
* `sentBytes` — the bytes that an array of numbers is written as.

Main results:

* `length_B64_encode` — the length of the text;
* `B64_decode_encode` — **decoding gives the bytes that were written**;
* `B64_decode_encode_bytes` — for bytes, these are the bytes themselves.
-/

import U2F.Extension.WebRequest
import Mathlib.Tactic.IntervalCases

set_option relaxedAutoImplicit false
set_option autoImplicit false

namespace U2F

/-! ### Encoding -/

def b64out : JSString := js "ABCDEFGHIJKLMNOPQRSTUVWXYZabcdefghijklmnopqrstuvwxyz0123456789-_"

/-- `b64out.charAt(i)` -/
def b64char (i : BitVec 32) : UInt16 := b64out.getD i.toNat 0

/-- The low bits of the accumulator that make a character. -/
def sixBits (accu : BitVec 32) : BitVec 32 := accu &&& 63

/-- The characters that are written while there are six bits, and how many bits are left. -/
def B64_write (accu : BitVec 32) : ℕ → JSString × ℕ
  | shift + 6 =>
      let (result, left) := B64_write accu shift
      (b64char (sixBits (accu.sshiftRight shift)) :: result, left)
  | shift => ([], shift)

/-- The loop over the bytes. -/
def B64_encodeLoop (accu : BitVec 32) (shift : ℕ) : List ℕ → JSString
  | [] =>
      if shift ≠ 0 then [b64char (sixBits ((accu <<< 8).sshiftRight (shift + 8 - 6)))] else []
  | byte :: bytes =>
      let accu := accu <<< 8 ||| BitVec.ofNat 32 byte
      let (result, left) := B64_write accu (shift + 8)
      result ++ B64_encodeLoop accu left bytes

def B64_encode (bytes : List ℕ) : JSString := B64_encodeLoop 0 0 bytes

/-! ### Decoding -/

def B64_inmap : List ℕ :=
  [0, 0, 0, 0, 0, 0, 0, 0, 0, 0, 0, 0, 0, 63, 0, 0,
    53, 54, 55, 56, 57, 58, 59, 60, 61, 62, 0, 0, 0, 0, 0, 0,
    0, 1, 2, 3, 4, 5, 6, 7, 8, 9, 10, 11, 12, 13, 14, 15,
    16, 17, 18, 19, 20, 21, 22, 23, 24, 25, 26, 0, 0, 0, 0, 64,
    0, 27, 28, 29, 30, 31, 32, 33, 34, 35, 36, 37, 38, 39, 40, 41,
    42, 43, 44, 45, 46, 47, 48, 49, 50, 51, 52, 0, 0, 0, 0, 0]

/-- The six bits of a character, if the character is in the alphabet. -/
def B64_in (c : UInt16) : Option (BitVec 32) :=
  if c.toNat < 32 ∨ c.toNat > 127 ∨ B64_inmap.getD (c.toNat - 32) 0 = 0 then none
  else some (BitVec.ofNat 32 (B64_inmap.getD (c.toNat - 32) 0 - 1))

/-- The low bits of the accumulator that make a byte. -/
def eightBits (accu : BitVec 32) : UInt8 := UInt8.ofNat (accu &&& 255).toNat

/-- The loop over the characters; `none` if one is not in the alphabet. -/
def B64_decodeLoop (accu : BitVec 32) (shift : ℕ) : JSString → Option (List UInt8)
  | [] => some []
  | c :: string =>
      match B64_in c with
      | none => none
      | some bits =>
          let accu := accu <<< 6 ||| bits
          if shift + 6 ≥ 8 then
            (B64_decodeLoop accu (shift + 6 - 8) string).map
              (eightBits (accu.sshiftRight (shift + 6 - 8)) :: ·)
          else B64_decodeLoop accu (shift + 6) string

def B64_decode (string : JSString) : List UInt8 := (B64_decodeLoop 0 0 string).getD []

/-! ### The text of an array of numbers -/

/-- The bytes that an array of numbers is written as, three at a time. -/
def sentBytes : List ℕ → List UInt8
  | [] => []
  | [a] => [UInt8.ofNat a]
  | [a, b] => [UInt8.ofNat a ||| UInt8.ofNat (b >>> 8) &&& 3, UInt8.ofNat b]
  | a :: b :: c :: bytes =>
      (UInt8.ofNat a ||| UInt8.ofNat (b >>> 8) &&& 3) ::
        (UInt8.ofNat b ||| UInt8.ofNat (c >>> 8) &&& 15) :: UInt8.ofNat c :: sentBytes bytes

/-! ### The length of the text -/

/-- Three numbers make four characters. -/
theorem B64_encodeLoop_three (accu : BitVec 32) (a b c : ℕ) (bytes : List ℕ) :
    let accu₁ := accu <<< 8 ||| BitVec.ofNat 32 a
    let accu₂ := accu₁ <<< 8 ||| BitVec.ofNat 32 b
    let accu₃ := accu₂ <<< 8 ||| BitVec.ofNat 32 c
    B64_encodeLoop accu 0 (a :: b :: c :: bytes) =
      b64char (sixBits (accu₁.sshiftRight 2)) :: b64char (sixBits (accu₂.sshiftRight 4)) ::
        b64char (sixBits (accu₃.sshiftRight 6)) :: b64char (sixBits (accu₃.sshiftRight 0)) ::
          B64_encodeLoop accu₃ 0 bytes :=
  rfl

theorem length_B64_encodeLoop (accu : BitVec 32) (bytes : List ℕ) :
    (B64_encodeLoop accu 0 bytes).length = (8 * bytes.length + 5) / 6 := by
  induction bytes using sentBytes.induct generalizing accu with
  | case1 => rfl
  | case2 a => simp [B64_encodeLoop, B64_write]
  | case3 a b => simp [B64_encodeLoop, B64_write]
  | case4 a b c bytes ih =>
      simp only [B64_encodeLoop_three, List.length_cons, ih]
      omega

/-- The length of the text. -/
theorem length_B64_encode (bytes : List ℕ) :
    (B64_encode bytes).length = (8 * bytes.length + 5) / 6 :=
  length_B64_encodeLoop 0 bytes

/-! ### Decoding what was written -/

theorem B64_in_b64char : ∀ i < 64, B64_in (b64char (BitVec.ofNat 32 i)) =
    some (BitVec.ofNat 32 i) := by
  decide +kernel

/-- A character stands for its six bits. -/
theorem B64_in_sixBits (accu : BitVec 32) :
    B64_in (b64char (sixBits accu)) = some (sixBits accu) := by
  have hle : (sixBits accu).toNat ≤ 63 := by
    rw [sixBits, BitVec.toNat_and]
    exact Nat.and_le_right
  have htable := B64_in_b64char (sixBits accu).toNat (by omega)
  rwa [BitVec.ofNat_toNat, BitVec.setWidth_eq] at htable

/-- Four characters make three bytes. -/
theorem B64_decodeLoop_four (accu w x y z : BitVec 32) (string : JSString) :
    let accu₁ := accu <<< 6 ||| sixBits w
    let accu₂ := accu₁ <<< 6 ||| sixBits x
    let accu₃ := accu₂ <<< 6 ||| sixBits y
    let accu₄ := accu₃ <<< 6 ||| sixBits z
    B64_decodeLoop accu 0 (b64char (sixBits w) :: b64char (sixBits x) :: b64char (sixBits y) ::
        b64char (sixBits z) :: string) =
      (B64_decodeLoop accu₄ 0 string).map fun bytes =>
        eightBits (accu₂.sshiftRight 4) :: eightBits (accu₃.sshiftRight 2) ::
          eightBits (accu₄.sshiftRight 0) :: bytes := by
  simp only [B64_decodeLoop, B64_in_sixBits, Nat.reduceAdd, Nat.reduceSub, Nat.reduceLeDiff,
    ge_iff_le, if_true, if_false, Option.map_map, Function.comp_def]

section Bits

variable (d e : BitVec 32) (a b c : ℕ)

theorem getElem_ofNat {w n i : ℕ} (hi : i < w) : (BitVec.ofNat w n)[i] = n.testBit i := by
  rw [← BitVec.getLsbD_eq_getElem, BitVec.getLsbD_ofNat]
  simp [hi]

theorem toBitVec_eightBits (accu : BitVec 32) : (eightBits accu).toBitVec = accu.setWidth 8 := by
  rw [eightBits, UInt8.toBitVec_ofNat', BitVec.ofNat_toNat]
  ext i hi
  interval_cases i <;> simp

/-- The first byte of three: the second number spills into the bits that had not been written. -/
theorem eightBits_first :
    eightBits (((d <<< 6 ||| sixBits ((e <<< 8 ||| BitVec.ofNat 32 a).sshiftRight 2)) <<< 6 |||
        sixBits (((e <<< 8 ||| BitVec.ofNat 32 a) <<< 8 ||| BitVec.ofNat 32 b).sshiftRight
          4)).sshiftRight 4) =
      UInt8.ofNat a ||| UInt8.ofNat (b >>> 8) &&& 3 := by
  refine UInt8.toBitVec_inj.1 ?_
  rw [toBitVec_eightBits]
  ext i hi
  interval_cases i <;> simp [sixBits, UInt8.toBitVec_ofNat', BitVec.getElem_sshiftRight] <;>
    simp [getElem_ofNat]

/-- The second byte of three.  (`d` and `e` are the accumulators before its bits.) -/
theorem eightBits_second :
    eightBits (((d <<< 6 ||| sixBits ((e <<< 8 ||| BitVec.ofNat 32 b).sshiftRight 4)) <<< 6 |||
        sixBits (((e <<< 8 ||| BitVec.ofNat 32 b) <<< 8 ||| BitVec.ofNat 32 c).sshiftRight
          6)).sshiftRight 2) =
      UInt8.ofNat b ||| UInt8.ofNat (c >>> 8) &&& 15 := by
  refine UInt8.toBitVec_inj.1 ?_
  rw [toBitVec_eightBits]
  ext i hi
  interval_cases i <;> simp [sixBits, UInt8.toBitVec_ofNat', BitVec.getElem_sshiftRight] <;>
    simp [getElem_ofNat]

/-- The third byte of three. -/
theorem eightBits_third :
    eightBits (((d <<< 6 ||| sixBits ((e <<< 8 ||| BitVec.ofNat 32 c).sshiftRight 6)) <<< 6 |||
        sixBits ((e <<< 8 ||| BitVec.ofNat 32 c).sshiftRight 0)).sshiftRight 0) =
      UInt8.ofNat c := by
  refine UInt8.toBitVec_inj.1 ?_
  rw [toBitVec_eightBits]
  ext i hi
  interval_cases i <;> simp [sixBits, UInt8.toBitVec_ofNat', BitVec.getElem_sshiftRight] <;>
    simp [getElem_ofNat]

end Bits

theorem B64_decodeLoop_encodeLoop (d e : BitVec 32) (bytes : List ℕ) :
    B64_decodeLoop d 0 (B64_encodeLoop e 0 bytes) = some (sentBytes bytes) := by
  induction bytes using sentBytes.induct generalizing d e with
  | case1 => rfl
  | case2 a =>
      -- the bits that are filled up are those of a number zero
      have hzero := eightBits_first d e a 0
      simp only [BitVec.or_zero] at hzero
      simp [B64_encodeLoop, B64_write, B64_decodeLoop, B64_in_sixBits, sentBytes, hzero]
  | case3 a b =>
      have hzero := eightBits_second
        (d <<< 6 ||| sixBits ((e <<< 8 ||| BitVec.ofNat 32 a).sshiftRight 2))
        (e <<< 8 ||| BitVec.ofNat 32 a) b 0
      simp only [BitVec.or_zero] at hzero
      simp [B64_encodeLoop, B64_write, B64_decodeLoop, B64_in_sixBits, sentBytes, hzero,
        eightBits_first]
  | case4 a b c bytes ih =>
      rw [B64_encodeLoop_three, B64_decodeLoop_four, ih, sentBytes, eightBits_first, eightBits_second,
        eightBits_third]
      rfl

/-- **Decoding gives the bytes that were written.** -/
theorem B64_decode_encode (bytes : List ℕ) : B64_decode (B64_encode bytes) = sentBytes bytes := by
  rw [B64_decode, B64_encode, B64_decodeLoop_encodeLoop, Option.getD_some]

/-- Bytes are written as they are. -/
theorem sentBytes_bytes (bytes : List UInt8) : sentBytes (bytes.map UInt8.toNat) = bytes := by
  have hspill : ∀ b : UInt8, b.toNat >>> 8 = 0 := by
    intro b
    have hb := b.toNat_lt
    rw [Nat.shiftRight_eq_div_pow]
    omega
  induction hn : bytes.length using Nat.strong_induction_on generalizing bytes with
  | _ n ih =>
      match bytes with
      | [] => rfl
      | [a] => simp [sentBytes]
      | [a, b] => simp [sentBytes, hspill]
      | a :: b :: c :: bytes =>
          have hrec := ih bytes.length (by simp at hn; omega) bytes rfl
          simp [sentBytes, hspill, hrec]

/-- Decoding inverts encoding, for bytes. -/
theorem B64_decode_encode_bytes (bytes : List UInt8) :
    B64_decode (B64_encode (bytes.map UInt8.toNat)) = bytes := by
  rw [B64_decode_encode, sentBytes_bytes]

end U2F
