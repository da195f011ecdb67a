/-
**The encoding of an ECDSA signature (`util.js`).**

A signature is a pair of numbers of 256 bits.  The extension keeps them as arrays of bytes, and
sends and receives them as a sequence of two integers.

A number of 32 bytes may begin with a zero byte.  The encoder sends it all the same, and then the
integer is not minimal.  The decoder compares the length of the sequence with that of the array,
but not the end of the second integer with either.

Main definitions:

* `UTIL_Asn1SignatureToJson`, `UTIL_JsonSignatureToAsn1` — the decoder and the encoder;
* `IsSignature` — the byte strings that are a sequence of two integers in short form;
* `FillsTheSequence` — no bytes but those of two integers, each with a content, are in the sequence.

Main results:

* `UTIL_Asn1SignatureToJson_eq_some_iff` — what the decoder accepts;
* `ecdsa_signatures_iff` — **signatures are converted faithfully exactly if neither number begins
  with a byte that the minimal integer leaves out, and the array is filled by its integers**.
-/

import U2F.Lib.Bits
import U2F.Lib.Der

set_option relaxedAutoImplicit false
set_option autoImplicit false

namespace EcdsaSignatures

/-! ### The code -/

/-- `{'r': r, 's': s}` -/
structure JsonSignature where
  r : List UInt8
  s : List UInt8
  deriving DecidableEq

def UTIL_ASN_INT : UInt8 := 0x02

def UTIL_ASN_SEQUENCE : UInt8 := 0x30

/-- `parseInt(off)`, within the array `a` -/
def parseInt (a : List UInt8) (off : ℕ) : Option (List UInt8) :=
  if a[off]? ≠ some UTIL_ASN_INT then none
  else
    let l := a.getD (off + 1) 0
    if l &&& 0x80 ≠ 0 then none -- INT.size too large
    else if a.length < off + 2 + l.toNat then none -- Out of bounds
    else some (a.extract (off + 2) (off + 2 + l.toNat))

/-- Parse SEQ(INT, INT). -/
def UTIL_Asn1SignatureToJson (a : List UInt8) : Option JsonSignature :=
  if a.length < 6 then none -- Too small to be valid
  else if a[0]? ≠ some UTIL_ASN_SEQUENCE then none
  else
    let l := a.getD 1 0
    if l &&& 0x80 ≠ 0 then none -- SEQ.size too large
    else if a.length ≠ 2 + l.toNat then none -- SEQ size does not match input
    else do
      let r ← parseInt a 2
      let s ← parseInt a (2 + 2 + r.length)
      return ⟨r, s⟩

/-- `if (bytes[0] & 0x80) bytes.unshift(0)` -/
def unshiftZero (bytes : List UInt8) : List UInt8 :=
  if bytes.headD 0 &&& 0x80 ≠ 0 then 0 :: bytes else bytes

/-- Encode a signature as SEQ(INT, INT).  The arrays of the caller are changed too. -/
def UTIL_JsonSignatureToAsn1 (sig : JsonSignature) : List UInt8 × JsonSignature :=
  let rbytes := unshiftZero sig.r
  let sbytes := unshiftZero sig.s
  let len := 4 + rbytes.length + sbytes.length
  ([UTIL_ASN_SEQUENCE, UInt8.ofNat len] ++
    ([UTIL_ASN_INT, UInt8.ofNat rbytes.length] ++ rbytes) ++
    ([UTIL_ASN_INT, UInt8.ofNat sbytes.length] ++ sbytes), ⟨rbytes, sbytes⟩)

/-! ### What is to be accepted -/

/-- The byte string is a sequence of two integers in short form, which have these contents. -/
def IsSignature (a : List UInt8) (sig : JsonSignature) : Prop :=
  a = Der.shortForm 0x30 (Der.shortForm 0x02 sig.r ++ Der.shortForm 0x02 sig.s) ∧
    a.length < 2 + 0x80 ∧ sig.r ≠ [] ∧ sig.s ≠ []

/-- If the byte string is a sequence that starts with two integers, then each of them has a content
and nothing follows. -/
def FillsTheSequence (a : List UInt8) : Prop :=
  ∀ r s rest, a = Der.shortForm 0x30 (Der.shortForm 0x02 r ++ Der.shortForm 0x02 s ++ rest) →
    a.length < 2 + 0x80 → r ≠ [] ∧ s ≠ [] ∧ rest = []

/-! ### The decoder -/

/-- The test of the length of a length. -/
theorem and_0x80_eq_zero_iff (l : UInt8) : l &&& 0x80 = 0 ↔ l.toNat < 0x80 := by
  have hmask : (0x80 : UInt8).toNat = 2 ^ 7 := rfl
  have hlt : l.toNat < 256 := l.toNat_lt
  rw [Bits.uint8_and_eq_zero_iff hmask, Nat.testBit_eq_decide_div_mod_eq, decide_eq_false_iff_not]
  omega

/-- An integer in short form is read, at the offset where it starts. -/
theorem parseInt_eq_some_iff {front a c : List UInt8} :
    parseInt (front ++ a) front.length = some c ↔
      ∃ rest, a = Der.shortForm 0x02 c ++ rest ∧ c.length < 0x80 := by
  constructor
  · intro h
    rw [parseInt, List.getElem?_append_right (Nat.le_refl _), Nat.sub_self] at h
    match a, h with
    | [], h => simp at h
    | [tag], h =>
        -- the length is past the end, and so is the content
        simp at h
    | tag :: l :: body, h =>
        have hl : (front ++ tag :: l :: body).getD (front.length + 1) 0 = l := by simp
        have hbody : (front ++ tag :: l :: body).extract (front.length + 2)
            (front.length + 2 + l.toNat) = body.take l.toNat := by simp
        simp only [hl, hbody, List.length_append, List.length_cons] at h
        split at h
        · cases h
        rename_i htag
        split at h
        · cases h
        rename_i hlow
        split at h
        · cases h
        rename_i hroom
        obtain rfl := Option.some_inj.1 h
        have htag' : tag = 0x02 := by simpa [UTIL_ASN_INT] using htag
        have hlow' : l.toNat < 0x80 := (and_0x80_eq_zero_iff l).1 (not_not.1 hlow)
        have hlength : (body.take l.toNat).length = l.toNat := by
          rw [List.length_take]
          omega
        refine ⟨body.drop l.toNat, ?_, by omega⟩
        rw [Der.shortForm, hlength, UInt8.ofNat_toNat, htag', List.cons_append, List.cons_append,
          List.take_append_drop]
  · rintro ⟨rest, rfl, hlow⟩
    have hl : (UInt8.ofNat c.length).toNat = c.length := UInt8.toNat_ofNat_of_lt' (by
      have hsize : UInt8.size = 256 := rfl
      omega)
    have hbit := (and_0x80_eq_zero_iff (UInt8.ofNat c.length)).2 (by omega)
    simp [parseInt, Der.shortForm, UTIL_ASN_INT, hl, hbit]
    omega

/-- The tests of the decoder, for an array that has two bytes to begin with. -/
theorem UTIL_Asn1SignatureToJson_cons_cons {tag l : UInt8} {body : List UInt8}
    {sig : JsonSignature} :
    UTIL_Asn1SignatureToJson (tag :: l :: body) = some sig ↔
      4 ≤ body.length ∧ tag = 0x30 ∧ l.toNat < 0x80 ∧ body.length = l.toNat ∧
        parseInt (tag :: l :: body) 2 = some sig.r ∧
        parseInt (tag :: l :: body) (2 + 2 + sig.r.length) = some sig.s := by
  have hl : (tag :: l :: body).getD 1 0 = l := rfl
  have htag : (tag :: l :: body)[0]? = some tag := rfl
  have hlength : (tag :: l :: body).length = body.length + 2 := rfl
  simp only [UTIL_Asn1SignatureToJson, Option.ite_none_left_eq_some, hl, htag, hlength,
    UTIL_ASN_SEQUENCE, ne_eq, not_not, and_0x80_eq_zero_iff, Option.some_inj]
  have hpair : (do
      let r ← parseInt (tag :: l :: body) 2
      let s ← parseInt (tag :: l :: body) (2 + 2 + r.length)
      return JsonSignature.mk r s) = some sig ↔
        parseInt (tag :: l :: body) 2 = some sig.r ∧
        parseInt (tag :: l :: body) (2 + 2 + sig.r.length) = some sig.s := by
    constructor
    · intro h
      obtain ⟨r, hr, h⟩ := Option.bind_eq_some_iff.1 h
      obtain ⟨s, hs, h⟩ := Option.bind_eq_some_iff.1 h
      obtain rfl := Option.some_inj.1 h
      exact ⟨hr, hs⟩
    · rintro ⟨hr, hs⟩
      exact Option.bind_eq_some_iff.2 ⟨sig.r, hr, Option.bind_eq_some_iff.2 ⟨sig.s, hs, rfl⟩⟩
  rw [hpair]
  refine and_congr (by omega) (and_congr_right' (and_congr_right' (and_congr_left' ?_)))
  omega

/-- The decoder accepts a sequence in short form that starts with two integers. -/
theorem UTIL_Asn1SignatureToJson_eq_some_iff {a : List UInt8} {sig : JsonSignature} :
    UTIL_Asn1SignatureToJson a = some sig ↔
      ∃ rest, a = Der.shortForm 0x30
          (Der.shortForm 0x02 sig.r ++ Der.shortForm 0x02 sig.s ++ rest) ∧
        a.length < 2 + 0x80 := by
  constructor
  · intro h
    match a, h with
    | [], h => cases h
    | [_], h => cases h
    | tag :: l :: body, h =>
        obtain ⟨-, rfl, hlow, hlength, hr, hs⟩ := UTIL_Asn1SignatureToJson_cons_cons.1 h
        obtain ⟨tail, rfl, -⟩ := (@parseInt_eq_some_iff [0x30, l] _ _).1 hr
        -- the second integer starts where the first one ends
        have hfront : 0x30 :: l :: (Der.shortForm 0x02 sig.r ++ tail) =
            (0x30 :: l :: Der.shortForm 0x02 sig.r) ++ tail := rfl
        have hoff : 2 + 2 + sig.r.length = (0x30 :: l :: Der.shortForm 0x02 sig.r).length := by
          rw [List.length_cons, List.length_cons, Der.length_shortForm]
          omega
        rw [hfront, hoff] at hs
        obtain ⟨rest, rfl, -⟩ := parseInt_eq_some_iff.1 hs
        refine ⟨rest, ?_, by rw [List.length_cons, List.length_cons]; omega⟩
        rw [List.append_assoc]
        exact Der.cons_cons_eq_shortForm hlength 0x30
  · rintro ⟨rest, rfl, hlow⟩
    rw [List.append_assoc] at hlow ⊢
    rw [Der.length_shortForm] at hlow
    have hshort : (Der.shortForm 0x02 sig.r ++ (Der.shortForm 0x02 sig.s ++ rest)).length < 0x80 := by
      omega
    obtain ⟨l, hshort, hlength⟩ := Der.exists_shortForm_eq hshort 0x30
    rw [hshort]
    have hparts : (Der.shortForm 0x02 sig.r ++ (Der.shortForm 0x02 sig.s ++ rest)).length =
        sig.r.length + sig.s.length + rest.length + 4 := by
      simp only [List.length_append, Der.length_shortForm]
      omega
    refine UTIL_Asn1SignatureToJson_cons_cons.2
      ⟨by omega, rfl, by omega, hlength, ?_, ?_⟩
    · exact (@parseInt_eq_some_iff [0x30, l] _ _).2 ⟨_, rfl, by omega⟩
    · have hfront : 0x30 :: l :: (Der.shortForm 0x02 sig.r ++ (Der.shortForm 0x02 sig.s ++ rest)) =
          (0x30 :: l :: Der.shortForm 0x02 sig.r) ++ (Der.shortForm 0x02 sig.s ++ rest) := rfl
      have hoff : 2 + 2 + sig.r.length = (0x30 :: l :: Der.shortForm 0x02 sig.r).length := by
        rw [List.length_cons, List.length_cons, Der.length_shortForm]
        omega
      rw [hfront, hoff]
      exact parseInt_eq_some_iff.2 ⟨rest, rfl, by omega⟩

/-- **The decoder accepts what it is to accept exactly if the integers fill the sequence.** -/
theorem decodes_iff (a : List UInt8) :
    (∀ sig, UTIL_Asn1SignatureToJson a = some sig ↔ IsSignature a sig) ↔ FillsTheSequence a := by
  constructor
  · rintro h r s rest ha hlow
    have hsig := (h ⟨r, s⟩).1 (UTIL_Asn1SignatureToJson_eq_some_iff.2 ⟨rest, ha, hlow⟩)
    obtain ⟨hexact, -, hr, hs⟩ := hsig
    have hlength := congrArg List.length (ha.symm.trans hexact)
    simp only [Der.length_shortForm, List.length_append] at hlength
    exact ⟨hr, hs, List.eq_nil_of_length_eq_zero (by omega)⟩
  · intro h sig
    rw [UTIL_Asn1SignatureToJson_eq_some_iff]
    constructor
    · rintro ⟨rest, ha, hlow⟩
      obtain ⟨hr, hs, rfl⟩ := h sig.r sig.s rest ha hlow
      exact ⟨by rw [ha, List.append_nil], hlow, hr, hs⟩
    · rintro ⟨ha, hlow, -, -⟩
      exact ⟨[], by rw [List.append_nil, ha], hlow⟩

/-! ### The encoder -/

/-- A number of some bytes begins with a byte that its minimal integer leaves out. -/
def IsPadded : List UInt8 → Prop
  | a :: b :: _ => a = 0 ∧ b < 0x80
  | _ => False

theorem unshiftZero_cons (b : UInt8) (bytes : List UInt8) :
    unshiftZero (b :: bytes) = if b.toNat < 0x80 then b :: bytes else 0 :: b :: bytes := by
  rw [unshiftZero, List.headD_cons]
  simp only [ne_eq, and_0x80_eq_zero_iff, ite_not]

theorem signed_unshiftZero (bytes : List UInt8) :
    Der.signed (unshiftZero bytes) = Der.unsigned bytes := by
  cases bytes with
  | nil => rfl
  | cons b bytes =>
      have hzero : Der.unsigned (0 :: b :: bytes) = Der.unsigned (b :: bytes) := rfl
      have hnull : (0 : UInt8).toNat < 0x80 := by decide
      rw [unshiftZero_cons]
      split
      · rename_i hlow
        rw [Der.signed_cons, if_pos hlow]
      · rw [Der.signed_cons, if_pos hnull, hzero]

theorem unshiftZero_ne_nil {bytes : List UInt8} (hne : bytes ≠ []) : unshiftZero bytes ≠ [] := by
  unfold unshiftZero
  split
  · exact List.cons_ne_nil 0 bytes
  · exact hne

theorem length_unshiftZero_le (bytes : List UInt8) :
    (unshiftZero bytes).length ≤ bytes.length + 1 := by
  unfold unshiftZero
  split
  · exact Nat.le_refl _
  · exact Nat.le_succ _

theorem isMinimal_unshiftZero_iff {bytes : List UInt8} (hne : bytes ≠ []) :
    Der.IsMinimal (unshiftZero bytes) ↔ ¬IsPadded bytes := by
  have hnull : (0 : UInt8).toNat = 0 := rfl
  match bytes, hne with
  | [b], _ =>
      refine iff_of_true ?_ id
      rw [unshiftZero_cons]
      split
      · exact True.intro
      · rw [Der.isMinimal_iff]
        omega
  | a :: b :: bytes, _ =>
      have hzero : a = 0 ↔ a.toNat = 0 := UInt8.toNat_inj.symm
      have hmask : (0x80 : UInt8).toNat = 128 := rfl
      rw [unshiftZero_cons, IsPadded, hzero, UInt8.lt_iff_toNat_lt]
      split
      · rw [Der.isMinimal_iff]
        omega
      · rw [Der.isMinimal_iff]
        omega

/-- The encoding is in short form throughout. -/
theorem UTIL_JsonSignatureToAsn1_eq (sig : JsonSignature) :
    (UTIL_JsonSignatureToAsn1 sig).1 =
      Der.shortForm 0x30 (Der.shortForm 0x02 (unshiftZero sig.r) ++
        Der.shortForm 0x02 (unshiftZero sig.s)) := by
  have hlen : 4 + (unshiftZero sig.r).length + (unshiftZero sig.s).length =
      (Der.shortForm 0x02 (unshiftZero sig.r) ++ Der.shortForm 0x02 (unshiftZero sig.s)).length := by
    simp only [List.length_append, Der.length_shortForm]
    omega
  rw [UTIL_JsonSignatureToAsn1, hlen]
  rfl

/-- **The encoder returns the distinguished encoding exactly if neither number is padded.** -/
theorem encodes_iff {r s : List UInt8} (hr : r.length = 32) (hs : s.length = 32) :
    (UTIL_JsonSignatureToAsn1 ⟨r, s⟩).1 =
        Der.sequence [Der.integer (Der.unsigned r), Der.integer (Der.unsigned s)] ↔
      ¬IsPadded r ∧ ¬IsPadded s := by
  have hcontent : ∀ bytes : List UInt8, bytes.length = 32 →
      (Der.integerContent (Der.unsigned bytes)).length ≤ 33 ∧
        (unshiftZero bytes).length ≤ 33 ∧
        (unshiftZero bytes = Der.integerContent (Der.unsigned bytes) ↔ ¬IsPadded bytes) := by
    intro bytes hbytes
    have hne : bytes ≠ [] := List.ne_nil_of_length_pos (by omega)
    have hlength := length_unshiftZero_le bytes
    have hminimal := Der.length_integerContent_le (unshiftZero_ne_nil hne)
    rw [signed_unshiftZero] at hminimal
    refine ⟨by omega, by omega, ?_⟩
    rw [Der.eq_integerContent_iff, signed_unshiftZero, isMinimal_unshiftZero_iff hne,
      and_iff_left rfl]
  obtain ⟨hrm, hrl, hrp⟩ := hcontent r hr
  obtain ⟨hsm, hsl, hsp⟩ := hcontent s hs
  have hshort : ∀ {content : List UInt8}, content.length ≤ 33 → content.length < 0x80 :=
    fun h => by omega
  have hbody : (Der.shortForm 0x02 (Der.integerContent (Der.unsigned r)) ++
      Der.shortForm 0x02 (Der.integerContent (Der.unsigned s))).length < 0x80 := by
    simp only [List.length_append, Der.length_shortForm]
    omega
  have hsequence : Der.sequence [Der.integer (Der.unsigned r), Der.integer (Der.unsigned s)] =
      Der.shortForm 0x30 (Der.shortForm 0x02 (Der.integerContent (Der.unsigned r)) ++
        Der.shortForm 0x02 (Der.integerContent (Der.unsigned s))) := by
    rw [Der.sequence, List.flatten_cons, List.flatten_cons, List.flatten_nil, List.append_nil,
      Der.integer, Der.integer, Der.encode_eq_shortForm (hshort hrm),
      Der.encode_eq_shortForm (hshort hsm), Der.encode_eq_shortForm hbody]
  rw [UTIL_JsonSignatureToAsn1_eq, hsequence, ← hrp, ← hsp]
  constructor
  · intro h
    obtain ⟨-, hbody⟩ := List.cons.inj h
    obtain ⟨-, hbody⟩ := List.cons.inj hbody
    obtain ⟨hr, hrest⟩ := Der.shortForm_append_inj (hshort hrl) (hshort hrm) hbody
    rw [← List.append_nil (Der.shortForm 0x02 (unshiftZero s)),
      ← List.append_nil (Der.shortForm 0x02 (Der.integerContent _))] at hrest
    exact ⟨hr, (Der.shortForm_append_inj (hshort hsl) (hshort hsm) hrest).1⟩
  · rintro ⟨hr, hs⟩
    rw [hr, hs]

/-- What has been encoded is decoded to integers with the same values. -/
theorem decodes_encoded {r s : List UInt8} (hr : r.length = 32) (hs : s.length = 32) :
    ∃ sig, UTIL_Asn1SignatureToJson (UTIL_JsonSignatureToAsn1 ⟨r, s⟩).1 = some sig ∧
      Der.signed sig.r = Der.unsigned r ∧ Der.signed sig.s = Der.unsigned s := by
  have hrl := length_unshiftZero_le r
  have hsl := length_unshiftZero_le s
  refine ⟨⟨unshiftZero r, unshiftZero s⟩, ?_, signed_unshiftZero r, signed_unshiftZero s⟩
  rw [UTIL_JsonSignatureToAsn1_eq]
  refine UTIL_Asn1SignatureToJson_eq_some_iff.2 ⟨[], by rw [List.append_nil], ?_⟩
  simp only [Der.length_shortForm, List.length_append]
  omega

/-! ### The two together -/

/-- **Signatures are converted faithfully exactly if neither number begins with a byte that the
minimal integer leaves out, and the array is filled by its integers.** -/
theorem ecdsa_signatures_iff {r s : List UInt8} (hr : r.length = 32) (hs : s.length = 32)
    (a : List UInt8) :
    ((UTIL_JsonSignatureToAsn1 ⟨r, s⟩).1 =
          Der.sequence [Der.integer (Der.unsigned r), Der.integer (Der.unsigned s)] ∧
        (∀ sig, UTIL_Asn1SignatureToJson a = some sig ↔ IsSignature a sig) ∧
        ∃ sig, UTIL_Asn1SignatureToJson (UTIL_JsonSignatureToAsn1 ⟨r, s⟩).1 = some sig ∧
          Der.signed sig.r = Der.unsigned r ∧ Der.signed sig.s = Der.unsigned s) ↔
      ¬IsPadded r ∧ ¬IsPadded s ∧ FillsTheSequence a := by
  rw [encodes_iff hr hs, decodes_iff, and_iff_left (decodes_encoded hr hs), and_assoc]

/-- Two numbers of 32 ones each, and the signature with two ones. -/
theorem ecdsa_signatures_ones :
    ((UTIL_JsonSignatureToAsn1 ⟨List.replicate 32 1, List.replicate 32 1⟩).1 =
          Der.sequence [Der.integer (Der.unsigned (List.replicate 32 1)),
            Der.integer (Der.unsigned (List.replicate 32 1))] ∧
        (∀ sig, UTIL_Asn1SignatureToJson [0x30, 6, 2, 1, 1, 2, 1, 1] = some sig ↔
          IsSignature [0x30, 6, 2, 1, 1, 2, 1, 1] sig) ∧
        ∃ sig, UTIL_Asn1SignatureToJson (UTIL_JsonSignatureToAsn1
            ⟨List.replicate 32 1, List.replicate 32 1⟩).1 = some sig ∧
          Der.signed sig.r = Der.unsigned (List.replicate 32 1) ∧
          Der.signed sig.s = Der.unsigned (List.replicate 32 1)) ↔
      ¬IsPadded (List.replicate 32 1) ∧ ¬IsPadded (List.replicate 32 1) ∧
        FillsTheSequence [0x30, 6, 2, 1, 1, 2, 1, 1] :=
  ecdsa_signatures_iff rfl rfl [0x30, 6, 2, 1, 1, 2, 1, 1]

/-- A number that begins with a zero byte is not sent minimally, and a byte after the second integer
is accepted. -/
theorem ecdsa_signatures_padded :
    (UTIL_JsonSignatureToAsn1 ⟨0 :: List.replicate 31 1, List.replicate 32 1⟩).1 ≠
        Der.sequence [Der.integer (Der.unsigned (0 :: List.replicate 31 1)),
          Der.integer (Der.unsigned (List.replicate 32 1))] ∧
      UTIL_Asn1SignatureToJson [0x30, 7, 2, 1, 1, 2, 1, 1, 0] = some ⟨[1], [1]⟩ ∧
      ¬IsSignature [0x30, 7, 2, 1, 1, 2, 1, 1, 0] ⟨[1], [1]⟩ := by
  refine ⟨?_, by decide, fun h => ?_⟩
  · rw [ne_eq, encodes_iff rfl rfl]
    exact fun h => h.1 ⟨rfl, by decide⟩
  · have hlength := congrArg List.length h.1
    exact absurd hlength (by decide)

end EcdsaSignatures
