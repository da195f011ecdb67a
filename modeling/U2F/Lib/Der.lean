/-
**Integers in the distinguished encoding rules.**

X.690: a value is encoded as a tag, the length of its content, and the content.  A length below 128
has one byte, which is the short form.  The content of an integer is its two's complement, most
significant byte first, in as few bytes as it fits in.

Main definitions:

* `Der.unsigned`, `Der.signed` — the two numbers that a content can be read as;
* `Der.KeepsValue` — the unsigned value, stored in some bytes with a sign, is the signed one;
* `Der.IsMinimal` — no shorter content has the same signed value;
* `Der.integerContent` — the content of an integer;
* `Der.encode`, `Der.integer`, `Der.sequence` — the encodings;
* `Der.shortForm` — a tag, a length of one byte, and the content.

Main results:

* `Der.signed_cons` — the signed reading is the unsigned one, less a power of 256 if the first bit
  is set;
* `Der.bmod_unsigned_eq_signed_iff` — when a reader that takes the content as unsigned gets the
  value of the integer;
* `Der.eq_integerContent_iff` — **the content of an integer is the minimal one with its value**;
* `Der.length_integerContent_le` — and no longer than any other;
* `Der.shortForm_append_inj` — what is encoded in short form is read off a byte string in one way.
-/

import Mathlib.Algebra.Order.Ring.Int
import Mathlib.Data.List.Induction
import Mathlib.Data.Nat.Digits.Defs
import Mathlib.Tactic.Ring
import Mathlib.Tactic.Linarith

set_option relaxedAutoImplicit false
set_option autoImplicit false

namespace Der

/-! ### The content of an integer as a number -/

/-- The content as an unsigned number. -/
def unsigned (content : List UInt8) : ℕ := content.foldl (fun v b => 256 * v + b.toNat) 0

/-- The content as a number in two's complement. -/
def signed : List UInt8 → ℤ
  | [] => 0
  | b :: content => content.foldl (fun v b => 256 * v + (b.toNat : ℤ)) b.toInt8.toInt

/-- No shorter content has the same signed value: the first nine bits are not all equal. -/
def IsMinimal : List UInt8 → Prop
  | [] => False
  | [_] => True
  | a :: b :: _ => ¬(a = 0 ∧ b < 0x80) ∧ ¬(a = 0xff ∧ 0x80 ≤ b)

instance (content : List UInt8) : Decidable (IsMinimal content) :=
  match content with
  | [] => inferInstanceAs (Decidable False)
  | [_] => inferInstanceAs (Decidable True)
  | a :: b :: _ => inferInstanceAs (Decidable (¬(a = 0 ∧ b < 0x80) ∧ ¬(a = 0xff ∧ 0x80 ≤ b)))

theorem isMinimal_iff {a b : UInt8} {content : List UInt8} :
    IsMinimal (a :: b :: content) ↔
      ¬(a.toNat = 0 ∧ b.toNat < 128) ∧ ¬(a.toNat = 255 ∧ 128 ≤ b.toNat) := by
  have hzero : a = 0 ↔ a.toNat = 0 := UInt8.toNat_inj.symm
  have hones : a = 0xff ↔ a.toNat = 255 := UInt8.toNat_inj.symm
  rw [IsMinimal, hzero, hones]
  exact Iff.rfl

@[simp] theorem unsigned_nil : unsigned [] = 0 := rfl

@[simp] theorem unsigned_concat (content : List UInt8) (b : UInt8) :
    unsigned (content ++ [b]) = 256 * unsigned content + b.toNat := by
  rw [unsigned, List.foldl_append]
  rfl

theorem signed_concat {content : List UInt8} (h : content ≠ []) (b : UInt8) :
    signed (content ++ [b]) = 256 * signed content + b.toNat := by
  cases content with
  | nil => exact absurd rfl h
  | cons a content =>
      rw [List.cons_append, signed, List.foldl_append]
      rfl

/-- A byte in two's complement. -/
theorem toInt_toInt8 (b : UInt8) :
    b.toInt8.toInt = if b.toNat < 128 then (b.toNat : ℤ) else b.toNat - 256 := by
  have hlt : b.toNat < 256 := b.toNat_lt
  have hbyte : b.toInt8.toInt = (b.toNat : ℤ).bmod 256 := by
    rw [UInt8.toInt8, Int8.toInt, Int8.toBitVec, BitVec.toInt_eq_toNat_bmod]
    rfl
  rw [hbyte, Int.bmod_def]
  split <;> split <;> omega

theorem unsigned_lt (content : List UInt8) : unsigned content < 256 ^ content.length := by
  induction content using List.reverseRecOn with
  | nil => exact Nat.one_pos
  | append_singleton content b ih =>
      have hlt : b.toNat < 256 := b.toNat_lt
      rw [unsigned_concat, List.length_append, List.length_singleton, pow_succ]
      omega

theorem unsigned_cons (b : UInt8) (content : List UInt8) :
    unsigned (b :: content) = b.toNat * 256 ^ content.length + unsigned content := by
  induction content using List.reverseRecOn with
  | nil =>
      have hone : unsigned [b] = b.toNat := by rw [unsigned]; simp
      rw [hone, List.length_nil, pow_zero, unsigned_nil, Nat.mul_one, Nat.add_zero]
  | append_singleton content c ih =>
      have hconcat : b :: (content ++ [c]) = (b :: content) ++ [c] := rfl
      rw [hconcat, unsigned_concat, unsigned_concat, ih, List.length_append, List.length_singleton]
      ring

/-- The signed reading is the unsigned one, less a power of 256 if the first bit is set. -/
theorem signed_cons (b : UInt8) (content : List UInt8) :
    signed (b :: content) =
      if b.toNat < 128 then (unsigned (b :: content) : ℤ)
      else unsigned (b :: content) - 256 ^ (content.length + 1) := by
  induction content using List.reverseRecOn with
  | nil =>
      have hone : unsigned [b] = b.toNat := by rw [unsigned]; simp
      rw [hone]
      exact toInt_toInt8 b
  | append_singleton content c ih =>
      have hconcat : b :: (content ++ [c]) = (b :: content) ++ [c] := rfl
      rw [hconcat, signed_concat (List.cons_ne_nil b content), unsigned_concat, ih,
        List.length_append, List.length_singleton]
      split
      · push_cast
        ring
      · push_cast
        ring

/-! ### Read as unsigned, and stored with a sign -/

/-- The unsigned value, where it is below `256 ^ n`, becomes the signed one in `n` bytes with a sign:
a negative integer has at least that many bytes, and another is below half of the range. -/
def KeepsValue (n : ℕ) (content : List UInt8) : Prop :=
  (signed content < 0 → n ≤ content.length) ∧
    (0 ≤ signed content → 2 * signed content < 256 ^ n ∨ 256 ^ n ≤ signed content)

theorem bmod_unsigned_eq_signed_iff {n : ℕ} {content : List UInt8}
    (h : unsigned content < 256 ^ n) :
    (unsigned content : ℤ).bmod (256 ^ n) = signed content ↔ KeepsValue n content := by
  have hpos : 0 < 256 ^ n := Nat.pow_pos (by decide)
  have hmod : (unsigned content : ℤ) % ((256 ^ n : ℕ) : ℤ) = unsigned content :=
    Int.emod_eq_of_lt (by omega) (by omega)
  have hcast : ((256 ^ n : ℕ) : ℤ) = 256 ^ n := by push_cast; rfl
  rw [Int.bmod_def, hmod, KeepsValue, ← hcast]
  cases content with
  | nil =>
      have hzero : signed [] = 0 := rfl
      rw [hzero, unsigned_nil, List.length_nil]
      split <;> omega
  | cons b content =>
      have hall := unsigned_lt (b :: content)
      have hfirst := unsigned_cons b content
      rw [List.length_cons, pow_succ] at hall
      rw [signed_cons, List.length_cons]
      by_cases hb : b.toNat < 128
      · rw [if_pos hb]
        split <;> omega
      · have hhalf : 128 * 256 ^ content.length ≤ b.toNat * 256 ^ content.length :=
          Nat.mul_le_mul_right _ (by omega)
        have hbytes : (256 : ℤ) ^ (content.length + 1) = ((256 ^ content.length * 256 : ℕ) : ℤ) := by
          push_cast
          ring
        rw [if_neg hb, hbytes]
        rcases Nat.lt_trichotomy n (content.length + 1) with hlt | rfl | hgt
        · -- fewer bytes than the content has, although its first bit is set
          have hle : 256 ^ n ≤ 256 ^ content.length :=
            Nat.pow_le_pow_right (by decide) (by omega)
          omega
        · rw [pow_succ] at hpos h ⊢
          split <;> omega
        · have hle : 256 ^ (content.length + 2) ≤ 256 ^ n :=
            Nat.pow_le_pow_right (by decide) (by omega)
          rw [pow_succ, pow_succ] at hle
          split <;> omega

/-- What is too big for the bytes is not stored at all. -/
theorem keepsValue_of_le {n : ℕ} {content : List UInt8} (h : 256 ^ n ≤ unsigned content) :
    KeepsValue n content := by
  have hcast : ((256 ^ n : ℕ) : ℤ) = 256 ^ n := by push_cast; rfl
  have hlt := unsigned_lt content
  have hlength : n < content.length := (Nat.pow_lt_pow_iff_right (by decide)).1 (h.trans_lt hlt)
  refine ⟨fun _ => hlength.le, fun hsigned => .inr ?_⟩
  cases content with
  | nil => exact absurd hlength (Nat.not_lt_zero n)
  | cons b content =>
      have hbytes : (256 : ℤ) ^ (content.length + 1) = ((256 ^ (content.length + 1) : ℕ) : ℤ) := by
        push_cast
        rfl
      rw [signed_cons, hbytes] at hsigned ⊢
      rw [List.length_cons] at hlt
      rw [← hcast]
      split at hsigned <;> split <;> omega

/-! ### The minimal content -/

/-- The content of an integer: its two's complement, in as few bytes as it fits in. -/
def integerContent (v : ℤ) : List UInt8 :=
  if -128 ≤ v ∧ v < 128 then [UInt8.ofInt v]
  else integerContent (v / 256) ++ [UInt8.ofInt v]
termination_by v.natAbs
decreasing_by omega

theorem IsMinimal.of_concat {content : List UInt8} (h : content ≠ []) {b : UInt8}
    (hmin : IsMinimal (content ++ [b])) : IsMinimal content := by
  match content, h with
  | [_], _ => exact True.intro
  | _ :: _ :: _, _ => exact hmin

theorem toNat_ofInt (v : ℤ) : ((UInt8.ofInt v).toNat : ℤ) = v % 256 := by
  have hlt : (v % 2 ^ 8).toNat < 256 := by omega
  rw [UInt8.ofInt, UInt8.toNat_ofNat_of_lt' hlt]
  omega

theorem toInt_ofInt {v : ℤ} (h : -128 ≤ v ∧ v < 128) : (UInt8.ofInt v).toInt8.toInt = v := by
  have hbyte := toNat_ofInt v
  rw [toInt_toInt8]
  split <;> omega

/-- One byte is enough for the value of a minimal content exactly if the content has one byte. -/
theorem IsMinimal.signed_range {content : List UInt8} (hmin : IsMinimal content) :
    (-128 ≤ signed content ∧ signed content < 128) ↔ content.length = 1 := by
  induction content using List.reverseRecOn with
  | nil => exact hmin.elim
  | append_singleton content b ih =>
      have hb : b.toNat < 256 := b.toNat_lt
      match content, hmin, ih with
      | [], _, _ =>
          have hone : signed [b] = b.toInt8.toInt := rfl
          rw [List.nil_append, hone, toInt_toInt8]
          refine iff_of_true ?_ rfl
          split <;> omega
      | [a], hmin, _ =>
          -- the first byte would only repeat the sign of the second
          have ha : a.toNat < 256 := a.toNat_lt
          have htwo : signed [a, b] = 256 * a.toInt8.toInt + b.toNat := rfl
          rw [List.singleton_append, isMinimal_iff] at hmin
          rw [List.singleton_append, htwo, toInt_toInt8]
          refine iff_of_false ?_ (by simp)
          split <;> omega
      | a :: c :: content, hmin, ih =>
          have hlonger := ih (hmin.of_concat (List.cons_ne_nil a _))
          have hshort : ¬(-128 ≤ signed (a :: c :: content) ∧ signed (a :: c :: content) < 128) :=
            fun h => by simpa using hlonger.1 h
          rw [signed_concat (List.cons_ne_nil a _)]
          refine iff_of_false ?_ (by simp)
          omega

/-- The content of an integer is minimal, and has its value. -/
theorem integerContent_spec (v : ℤ) :
    IsMinimal (integerContent v) ∧ signed (integerContent v) = v := by
  induction v using integerContent.induct with
  | case1 v h =>
      rw [integerContent, if_pos h]
      exact ⟨True.intro, toInt_ofInt h⟩
  | case2 v h ih =>
      obtain ⟨hmin, hvalue⟩ := ih
      have hne : integerContent (v / 256) ≠ [] := fun h => by simp [h, IsMinimal] at hmin
      have hbyte := toNat_ofInt v
      rw [integerContent, if_neg h]
      constructor
      · match hcontent : integerContent (v / 256), hmin, hvalue, hne with
        | [a], _, hvalue, _ =>
            have hone : signed [a] = a.toInt8.toInt := rfl
            have ha : a.toNat < 256 := a.toNat_lt
            rw [hone, toInt_toInt8] at hvalue
            rw [List.singleton_append, isMinimal_iff]
            split at hvalue <;> omega
        | _ :: _ :: _, hmin, _, _ => exact hmin
      · rw [signed_concat hne, hvalue, hbyte]
        omega

/-- **The content of an integer is the minimal one with its value.** -/
theorem eq_integerContent_iff {content : List UInt8} {v : ℤ} :
    content = integerContent v ↔ IsMinimal content ∧ signed content = v := by
  constructor
  · rintro rfl
    exact integerContent_spec v
  · rintro ⟨hmin, rfl⟩
    induction content using List.reverseRecOn with
    | nil => exact hmin.elim
    | append_singleton content b ih =>
        have hlast : UInt8.ofInt (signed (content ++ [b])) = b := by
          have hb : b.toNat < 256 := b.toNat_lt
          have hbyte := toNat_ofInt (signed (content ++ [b]))
          have hmod : signed (content ++ [b]) % 256 = b.toNat := by
            by_cases hnil : content = []
            · subst hnil
              have hone : signed ([] ++ [b]) = b.toInt8.toInt := rfl
              rw [hone, toInt_toInt8]
              split <;> omega
            · rw [signed_concat hnil]
              omega
          rw [← UInt8.toNat_inj]
          omega
        rw [integerContent, if_congr hmin.signed_range rfl rfl, hlast]
        by_cases hnil : content = []
        · rw [if_pos (by simp [hnil]), hnil]
          rfl
        · have hb : b.toNat < 256 := b.toNat_lt
          have hquotient : signed (content ++ [b]) / 256 = signed content := by
            rw [signed_concat hnil]
            omega
          rw [if_neg (by simpa using hnil), hquotient, ← ih (hmin.of_concat hnil)]

/-- No content with the value of an integer is shorter than its own. -/
theorem length_integerContent_le {content : List UInt8} (h : content ≠ []) :
    (integerContent (signed content)).length ≤ content.length := by
  induction content using List.reverseRecOn with
  | nil => exact absurd rfl h
  | append_singleton content b ih =>
      rw [integerContent]
      split
      · simp
      · rename_i hrange
        have hb : b.toNat < 256 := b.toNat_lt
        have hne : content ≠ [] := by
          rintro rfl
          have hone : signed ([] ++ [b]) = b.toInt8.toInt := rfl
          rw [hone, toInt_toInt8] at hrange
          split at hrange <;> omega
        have hquotient : signed (content ++ [b]) / 256 = signed content := by
          rw [signed_concat hne]
          omega
        rw [hquotient, List.length_append, List.length_append]
        exact Nat.add_le_add_right (ih hne) 1

/-! ### Tag, length and content -/

/-- A length in the short form below 128, else in the long one, which counts its bytes first. -/
def lengthOctets (n : ℕ) : List UInt8 :=
  if n < 0x80 then [UInt8.ofNat n]
  else
    let octets := (Nat.digits 256 n).reverse.map UInt8.ofNat
    UInt8.ofNat (0x80 + octets.length) :: octets

/-- A tag, the length of the content, and the content. -/
def encode (tag : UInt8) (content : List UInt8) : List UInt8 :=
  tag :: (lengthOctets content.length ++ content)

/-- An integer has the tag 2. -/
def integer (v : ℤ) : List UInt8 := encode 0x02 (integerContent v)

/-- A sequence has the tag 48, and for its content the encodings of its elements. -/
def sequence (elements : List (List UInt8)) : List UInt8 := encode 0x30 elements.flatten

/-- A tag, the length of the content in one byte, and the content. -/
def shortForm (tag : UInt8) (content : List UInt8) : List UInt8 :=
  tag :: UInt8.ofNat content.length :: content

@[simp] theorem length_shortForm (tag : UInt8) (content : List UInt8) :
    (shortForm tag content).length = content.length + 2 := rfl

theorem cons_cons_eq_shortForm {l : UInt8} {content : List UInt8} (h : content.length = l.toNat)
    (tag : UInt8) : tag :: l :: content = shortForm tag content := by
  rw [shortForm, h, UInt8.ofNat_toNat]

theorem exists_shortForm_eq {content : List UInt8} (h : content.length < 0x80) (tag : UInt8) :
    ∃ l : UInt8, shortForm tag content = tag :: l :: content ∧ content.length = l.toNat := by
  have hlt : content.length < 256 := by omega
  exact ⟨UInt8.ofNat content.length, rfl, (UInt8.toNat_ofNat_of_lt' hlt).symm⟩

theorem encode_eq_shortForm {content : List UInt8} (h : content.length < 0x80) (tag : UInt8) :
    encode tag content = shortForm tag content := by
  rw [encode, lengthOctets, if_pos h]
  rfl

/-- A length of one byte that does not fit into the short form. -/
theorem encode_of_lt_256 {content : List UInt8} (h : 0x80 ≤ content.length)
    (h' : content.length < 256) (tag : UInt8) :
    encode tag content = tag :: 0x81 :: UInt8.ofNat content.length :: content := by
  have hdigits : Nat.digits 256 content.length = [content.length] :=
    Nat.digits_of_lt 256 _ (by omega) h'
  rw [encode, lengthOctets, if_neg (by omega), hdigits]
  rfl

/-- A length of two bytes. -/
theorem encode_of_lt_65536 {content : List UInt8} (h : 256 ≤ content.length)
    (h' : content.length < 65536) (tag : UInt8) :
    encode tag content = tag :: 0x82 :: UInt8.ofNat (content.length / 256) ::
      UInt8.ofNat (content.length % 256) :: content := by
  have hhigh : Nat.digits 256 (content.length / 256) = [content.length / 256] :=
    Nat.digits_of_lt 256 _ (by omega) (by omega)
  have hdigits : Nat.digits 256 content.length = [content.length % 256, content.length / 256] := by
    rw [Nat.digits_def' (by omega) (by omega), hhigh]
  rw [encode, lengthOctets, if_neg (by omega), hdigits]
  rfl

/-- What is encoded in short form is read off a byte string in one way. -/
theorem shortForm_append_inj {tag : UInt8} {content content' rest rest' : List UInt8}
    (h : content.length < 0x80) (h' : content'.length < 0x80)
    (heq : shortForm tag content ++ rest = shortForm tag content' ++ rest') :
    content = content' ∧ rest = rest' := by
  simp only [shortForm, List.cons_append, List.cons.injEq, true_and] at heq
  obtain ⟨hlength, hbytes⟩ := heq
  have hlt : content.length < 256 := by omega
  have hlt' : content'.length < 256 := by omega
  have hnat := congrArg UInt8.toNat hlength
  rw [UInt8.toNat_ofNat_of_lt' hlt, UInt8.toNat_ofNat_of_lt' hlt'] at hnat
  exact List.append_inj hbytes hnat

end Der
