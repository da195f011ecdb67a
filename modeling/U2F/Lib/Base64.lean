/-
**Base64 with the URL-safe alphabet, without padding.**

The bytes are cut into sextets, high bits first, and a sextet is written as one character; a rest
of one or two bytes makes two or three characters.  A decoder skips the characters that are not in
the alphabet.

Main definitions:

* `Base64.encode`, `Base64.decode` — the codec.

Main results:

* `Base64.decode_encode` — **decoding inverts encoding**.
-/

import Mathlib.Data.Nat.Notation

set_option relaxedAutoImplicit false
set_option autoImplicit false

namespace Base64

/-! ### The alphabet -/

/-- The character of a sextet: letters, digits, minus and underscore. -/
def char (n : ℕ) : Char :=
  if n < 26 then Char.ofNat (65 + n)
  else if n < 52 then Char.ofNat (71 + n)
  else if n < 62 then Char.ofNat (n - 4)
  else if n = 62 then '-'
  else '_'

/-- The sextet of a character, if the character is in the alphabet. -/
def sextet (c : Char) : Option ℕ :=
  if 65 ≤ c.toNat ∧ c.toNat ≤ 90 then some (c.toNat - 65)
  else if 97 ≤ c.toNat ∧ c.toNat ≤ 122 then some (c.toNat - 71)
  else if 48 ≤ c.toNat ∧ c.toNat ≤ 57 then some (c.toNat + 4)
  else if c = '-' then some 62
  else if c = '_' then some 63
  else none

theorem sextet_char : ∀ n < 64, sextet (char n) = some n := by decide

/-! ### Bytes and sextets -/

/-- The sextets of a list of bytes, the last one filled up with zeros. -/
def sextets : List UInt8 → List ℕ
  | [] => []
  | [a] => [a.toNat / 4, a.toNat % 4 * 16]
  | [a, b] => [a.toNat / 4, a.toNat % 4 * 16 + b.toNat / 16, b.toNat % 16 * 4]
  | a :: b :: c :: bs =>
      a.toNat / 4 :: (a.toNat % 4 * 16 + b.toNat / 16) :: (b.toNat % 16 * 4 + c.toNat / 64) ::
        (c.toNat % 64) :: sextets bs

/-- The bytes that a list of sextets fills. -/
def bytes : List ℕ → List UInt8
  | [] => []
  | [_] => []
  | [w, x] => [UInt8.ofNat (w * 4 + x / 16)]
  | [w, x, y] => [UInt8.ofNat (w * 4 + x / 16), UInt8.ofNat (x % 16 * 16 + y / 4)]
  | w :: x :: y :: z :: ns =>
      UInt8.ofNat (w * 4 + x / 16) :: UInt8.ofNat (x % 16 * 16 + y / 4) ::
        UInt8.ofNat (y % 4 * 64 + z) :: bytes ns

theorem sextets_lt (bs : List UInt8) : ∀ n ∈ sextets bs, n < 64 := by
  intro n hn
  induction bs using sextets.induct with
  | case1 => simp [sextets] at hn
  | case2 a =>
      have ha := a.toNat_lt
      simp only [sextets, List.mem_cons, List.not_mem_nil, or_false] at hn
      omega
  | case3 a b =>
      have ha := a.toNat_lt
      have hb := b.toNat_lt
      simp only [sextets, List.mem_cons, List.not_mem_nil, or_false] at hn
      omega
  | case4 a b c bs ih =>
      have ha := a.toNat_lt
      have hb := b.toNat_lt
      have hc := c.toNat_lt
      simp only [sextets, List.mem_cons] at hn
      rcases hn with hn | hn | hn | hn | hn
      · omega
      · omega
      · omega
      · omega
      · exact ih hn

/-- A byte put together from its parts. -/
theorem ofNat_eq_of_eq_toNat {n : ℕ} {b : UInt8} (h : n = b.toNat) : UInt8.ofNat n = b := by
  rw [h, UInt8.ofNat_toNat]

theorem bytes_sextets (bs : List UInt8) : bytes (sextets bs) = bs := by
  induction bs using sextets.induct with
  | case1 => rfl
  | case2 a =>
      simp only [sextets, bytes, List.cons.injEq, and_true]
      exact ofNat_eq_of_eq_toNat (by omega)
  | case3 a b =>
      have hb := b.toNat_lt
      simp only [sextets, bytes, List.cons.injEq, and_true]
      exact ⟨ofNat_eq_of_eq_toNat (by omega), ofNat_eq_of_eq_toNat (by omega)⟩
  | case4 a b c bs ih =>
      have hb := b.toNat_lt
      have hc := c.toNat_lt
      simp only [sextets, bytes, List.cons.injEq, ih, and_true]
      exact ⟨ofNat_eq_of_eq_toNat (by omega), ofNat_eq_of_eq_toNat (by omega),
        ofNat_eq_of_eq_toNat (by omega)⟩

/-! ### The codec -/

def encode (bs : List UInt8) : String := String.ofList ((sextets bs).map char)

def decode (s : String) : List UInt8 := bytes (s.toList.filterMap sextet)

theorem filterMap_sextet_char {ns : List ℕ} (h : ∀ n ∈ ns, n < 64) :
    (ns.map char).filterMap sextet = ns := by
  induction ns with
  | nil => rfl
  | cons n ns ih =>
      rw [List.forall_mem_cons] at h
      rw [List.map_cons, List.filterMap_cons_some (sextet_char n h.1), ih h.2]

/-- **Decoding inverts encoding.** -/
theorem decode_encode (bs : List UInt8) : decode (encode bs) = bs := by
  rw [decode, encode, String.toList_ofList, filterMap_sextet_char (sextets_lt bs), bytes_sextets]

end Base64
