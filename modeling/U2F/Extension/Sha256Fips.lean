/-
**The extension computes SHA-256.**

The words of `sha256.js` are integers, of which the bitwise operators take the residues modulo 2^32.
A chaining value grows by less than 2^31 with every block, so up to 2^28 elements no sum is rounded,
and the residues are the words of FIPS 180-4.

Main results:

* `SHA256.word_compress` — compressing a buffer is compressing the block of the bytes that it is
  hashed as;
* `SHA256.Fed.push`, `SHA256.Fed.final` — what a hasher has been fed;
* `sha256HashOfString_eq` — **the hash of a string is the SHA-256 of the bytes that its code units are
  hashed as**.
-/

import Mathlib.Data.List.GetD
import Mathlib.Tactic.IntervalCases
import U2F.Extension.B64
import U2F.Extension.Sha256

set_option relaxedAutoImplicit false
set_option autoImplicit false

namespace U2F

namespace SHA256

open JSInteger
open Sha256 (Variables)

/-! ### Signed words -/

/-- The results of the bitwise operators, but for `>>>`. -/
def Signed (n : ℤ) : Prop := n.natAbs ≤ 2 ^ 31

theorem signed_and (a b : ℤ) : Signed (JSInteger.and a b) := natAbs_toInt_le _

theorem signed_or (a b : ℤ) : Signed (or a b) := natAbs_toInt_le _

theorem signed_xor (a b : ℤ) : Signed (xor a b) := natAbs_toInt_le _

theorem signed_getD {W : List ℤ} (hW : ∀ w ∈ W, Signed w) (i : ℕ) : Signed (W.getD i 0) := by
  by_cases hi : i < W.length
  · rw [List.getD_eq_getElem _ _ hi]
    exact hW _ (List.getElem_mem hi)
  · rw [List.getD_eq_default _ _ (by omega)]
    simp [Signed]

theorem word_getD (W : List ℤ) (i : ℕ) : word (W.getD i 0) = (W.map word).getD i 0 :=
  (List.getD_map W 0 word).symm

theorem word_rotr (w : ℤ) (r : ℕ) : word (rotr w r) = Sha256.rotr r (word w) := by
  rw [rotr, word_or, word_shiftLeft, word_unsignedShiftRight, Sha256.rotr, BitVec.or_comm]

/-- The mask keeps all bits. -/
theorem word_mask (n : ℤ) : word (and n 0xffffffff) = word n := by
  have hmask : word 0xffffffff = BitVec.allOnes 32 := by decide
  rw [word_and, hmask, BitVec.and_allOnes]

theorem word_sum (a b : ℤ) : word (a + b) = word a + word b := BitVec.ofInt_add a b

/-- A sum is exact as long as the bounds of its summands are small. -/
theorem add_within {a b : ℤ} {m n : ℕ} (ha : a.natAbs ≤ m) (hb : b.natAbs ≤ n) (h : m + n < 2 ^ 53) :
    add a b = a + b ∧ (a + b).natAbs ≤ m + n := by
  have hle : (a + b).natAbs ≤ m + n := (Int.natAbs_add_le a b).trans (Nat.add_le_add ha hb)
  exact ⟨add_of_lt (hle.trans_lt h), hle⟩

/-! ### The message schedule -/

theorem word_expand (n : ℕ) {W : List ℤ} (hW : ∀ w ∈ W, Signed w) :
    (expand n W).map word = Sha256.expand n (W.map word) ∧ ∀ w ∈ expand n W, Signed w := by
  induction n generalizing W with
  | zero => exact ⟨rfl, hW⟩
  | succ n ih =>
      simp only [expand, Sha256.expand, List.length_map]
      generalize hs0 : xor (xor (rotr (W.getD (W.length - 15) 0) 7)
        (rotr (W.getD (W.length - 15) 0) 18))
          (unsignedShiftRight (W.getD (W.length - 15) 0) 3) = s0
      generalize hs1 : xor (xor (rotr (W.getD (W.length - 2) 0) 17)
        (rotr (W.getD (W.length - 2) 0) 19))
          (unsignedShiftRight (W.getD (W.length - 2) 0) 10) = s1
      have hs0' : Signed s0 := hs0 ▸ signed_xor _ _
      have hs1' : Signed s1 := hs1 ▸ signed_xor _ _
      have hw0 : word s0 = Sha256.sigma0 ((W.map word).getD (W.length - 15) 0) := by
        rw [← hs0, word_xor, word_xor, word_rotr, word_rotr, word_unsignedShiftRight, word_getD]
        rfl
      have hw1 : word s1 = Sha256.sigma1 ((W.map word).getD (W.length - 2) 0) := by
        rw [← hs1, word_xor, word_xor, word_rotr, word_rotr, word_unsignedShiftRight, word_getD]
        rfl
      -- no sum is rounded, as the summands are signed words
      have hsum : add (add (add (W.getD (W.length - 16) 0) s0) (W.getD (W.length - 7) 0)) s1 =
          W.getD (W.length - 16) 0 + s0 + W.getD (W.length - 7) 0 + s1 := by
        have h16 := signed_getD hW (W.length - 16)
        have h7 := signed_getD hW (W.length - 7)
        obtain ⟨hsum₁, hle₁⟩ := add_within h16 hs0' (by decide)
        obtain ⟨hsum₂, hle₂⟩ := add_within hle₁ h7 (by decide)
        obtain ⟨hsum₃, -⟩ := add_within hle₂ hs1' (by decide)
        rw [hsum₁, hsum₂, hsum₃]
      have hnext : word (JSInteger.and (add (add (add (W.getD (W.length - 16) 0) s0)
            (W.getD (W.length - 7) 0)) s1) 0xffffffff) =
          Sha256.sigma1 ((W.map word).getD (W.length - 2) 0) +
            (W.map word).getD (W.length - 7) 0 +
            Sha256.sigma0 ((W.map word).getD (W.length - 15) 0) +
            (W.map word).getD (W.length - 16) 0 := by
        rw [word_mask, hsum, word_sum, word_sum, word_sum, hw0, hw1, word_getD, word_getD]
        ac_rfl
      rw [← hnext]
      have hall : ∀ w ∈ W ++ [JSInteger.and (add (add (add (W.getD (W.length - 16) 0) s0)
          (W.getD (W.length - 7) 0)) s1) 0xffffffff], Signed w := by
        intro w hw
        rcases List.mem_append.1 hw with hw | hw
        · exact hW w hw
        · rw [List.mem_singleton.1 hw]
          exact signed_and _ _
      have hrec := ih hall
      rwa [List.map_append, List.map_singleton] at hrec

/-! ### The rounds -/

/-- The numbers that the variables may be, so that no sum of a round is rounded. -/
def Small (n : ℤ) : Prop := n.natAbs ≤ 2 ^ 53 - 2 ^ 34

theorem Signed.small {n : ℤ} (h : Signed n) : Small n := by
  unfold Signed Small at *
  omega

/-- What a round is given besides the variables. -/
def Stirred (kw : ℤ × ℤ) : Prop := kw.1.natAbs < 2 ^ 32 ∧ Signed kw.2

/-- A sum that a mask follows is one of words, if it is not rounded. -/
theorem word_masked_add {a b : ℤ} (h : (a + b).natAbs < 2 ^ 53) :
    word (JSInteger.and (add a b) 0xffffffff) = word a + word b := by
  rw [word_mask, word_add h]

/-- The sum of five that a round takes the residue of. -/
theorem word_masked_sum {h S1 ch k w : ℤ} (hh : Small h) (hS1 : Signed S1) (hch : Signed ch)
    (hk : k.natAbs < 2 ^ 32) (hw : Signed w) :
    word (JSInteger.and (add (add (add (add h S1) ch) k) w) 0xffffffff) =
      word h + word S1 + word ch + word k + word w := by
  obtain ⟨hsum₁, hle₁⟩ := add_within hh hS1 (by decide)
  obtain ⟨hsum₂, hle₂⟩ := add_within hle₁ hch (by decide)
  obtain ⟨hsum₃, hle₃⟩ := add_within hle₂ hk.le (by decide)
  obtain ⟨-, hle₄⟩ := add_within hle₃ hw (by decide)
  rw [hsum₁, hsum₂, hsum₃, word_masked_add (hle₄.trans_lt (by decide)), word_sum, word_sum, word_sum]

theorem word_masked_small {a b : ℤ} (ha : Small a) (hb : Signed b) :
    word (JSInteger.and (add a b) 0xffffffff) = word a + word b := by
  obtain ⟨-, hle⟩ := add_within ha hb (by decide)
  exact word_masked_add (hle.trans_lt (by decide))

theorem word_round {v : Variables ℤ} {kw : ℤ × ℤ} (hv : v.All Small) (hkw : Stirred kw) :
    (round v kw.1 kw.2).map word = Sha256.round (v.map word) (word kw.1) (word kw.2) := by
  obtain ⟨-, -, -, hd, -, -, -, hh⟩ := hv
  have hS0 : word (xor (xor (rotr v.a 2) (rotr v.a 13)) (rotr v.a 22)) =
      Sha256.Sigma0 (word v.a) := by
    rw [word_xor, word_xor, word_rotr, word_rotr, word_rotr]
    rfl
  have hmaj : word (xor (xor (JSInteger.and v.a v.b) (JSInteger.and v.a v.c)) (JSInteger.and v.b v.c)) =
      Sha256.Maj (word v.a) (word v.b) (word v.c) := by
    rw [word_xor, word_xor, word_and, word_and, word_and]
    rfl
  have hS1 : word (xor (xor (rotr v.e 6) (rotr v.e 11)) (rotr v.e 25)) =
      Sha256.Sigma1 (word v.e) := by
    rw [word_xor, word_xor, word_rotr, word_rotr, word_rotr]
    rfl
  have hch : word (xor (JSInteger.and v.e v.f) (JSInteger.and (not v.e) v.g)) =
      Sha256.Ch (word v.e) (word v.f) (word v.g) := by
    rw [word_xor, word_and, word_and, word_not]
    rfl
  simp only [round, Sha256.round, Variables.map]
  -- none of the sums is rounded
  rw [word_masked_small (signed_and _ _).small (signed_and _ _), word_masked_small hd (signed_and _ _),
    word_masked_small (signed_xor _ _).small (signed_xor _ _),
    word_masked_sum hh (signed_xor _ _) (signed_xor _ _) hkw.1 hkw.2, hS0, hmaj, hS1, hch]

theorem small_round {v : Variables ℤ} (hv : v.All Small) (k w : ℤ) : (round v k w).All Small := by
  obtain ⟨ha, hb, hc, -, he, hf, hg, -⟩ := hv
  exact ⟨(signed_and _ _).small, ha, hb, hc, (signed_and _ _).small, he, hf, hg⟩

theorem signed_round {v : Variables ℤ} (hv : v.All Signed) (k w : ℤ) :
    (round v k w).All Signed := by
  obtain ⟨ha, hb, hc, -, he, hf, hg, -⟩ := hv
  exact ⟨signed_and _ _, ha, hb, hc, signed_and _ _, he, hf, hg⟩

theorem word_foldl_round {kws : List (ℤ × ℤ)} (hkws : ∀ kw ∈ kws, Stirred kw) {v : Variables ℤ}
    (hv : v.All Small) :
    (kws.foldl (fun v kw => round v kw.1 kw.2) v).map word =
      (kws.map (Prod.map word word)).foldl (fun v kw => Sha256.round v kw.1 kw.2) (v.map word) := by
  induction kws generalizing v with
  | nil => rfl
  | cons kw kws ih =>
      rw [List.foldl_cons, ih (fun kw' h => hkws kw' (List.mem_cons_of_mem _ h)) (small_round hv _ _),
        word_round hv (hkws kw List.mem_cons_self), List.map_cons, List.foldl_cons]
      rfl

/-- After four rounds all variables are results of the round. -/
theorem signed_foldl_round {kws : List (ℤ × ℤ)} (hlength : 4 ≤ kws.length) (v : Variables ℤ) :
    (kws.foldl (fun v kw => round v kw.1 kw.2) v).All Signed := by
  have hrest : ∀ (kws : List (ℤ × ℤ)) {v : Variables ℤ}, v.All Signed →
      (kws.foldl (fun v kw => round v kw.1 kw.2) v).All Signed := by
    intro kws
    induction kws with
    | nil => exact id
    | cons kw kws ih => exact fun hv => ih (signed_round hv _ _)
  have ha : ∀ (v : Variables ℤ) (k w : ℤ), Signed (round v k w).a := fun _ _ _ => signed_and _ _
  have he : ∀ (v : Variables ℤ) (k w : ℤ), Signed (round v k w).e := fun _ _ _ => signed_and _ _
  match kws, hlength with
  | kw₁ :: kw₂ :: kw₃ :: kw₄ :: kws, _ =>
      have ha₁ := ha v kw₁.1 kw₁.2
      have he₁ := he v kw₁.1 kw₁.2
      generalize hv₁ : round v kw₁.1 kw₁.2 = v₁ at ha₁ he₁
      have ha₂ := ha v₁ kw₂.1 kw₂.2
      have he₂ := he v₁ kw₂.1 kw₂.2
      have ha₃ := ha (round v₁ kw₂.1 kw₂.2) kw₃.1 kw₃.2
      have he₃ := he (round v₁ kw₂.1 kw₂.2) kw₃.1 kw₃.2
      rw [List.foldl_cons, List.foldl_cons, List.foldl_cons, List.foldl_cons, hv₁]
      exact hrest kws ⟨ha _ _ _, ha₃, ha₂, ha₁, he _ _ _, he₃, he₂, he₁⟩

/-! ### Blocks -/

/-- Four code units that are joined to a word are the bytes that they are hashed as. -/
theorem word_units {a b c d : ℕ} (hc : c < 2 ^ 16) (hd : d < 2 ^ 16) :
    word (or (or (or (shiftLeft a 24) (shiftLeft b 16)) (shiftLeft c 8)) d) =
      Sha256.bigEndian (UInt8.ofNat a ||| UInt8.ofNat (b >>> 8))
        (UInt8.ofNat b ||| UInt8.ofNat (c >>> 8)) (UInt8.ofNat c ||| UInt8.ofNat (d >>> 8))
        (UInt8.ofNat d) := by
  have hhigh : ∀ {n i : ℕ}, n < 2 ^ 16 → 16 ≤ i → n.testBit i = false := by
    intro n i hn hi
    exact Nat.testBit_lt_two_pow (hn.trans_le (Nat.pow_le_pow_right (by decide) hi))
  simp only [word_or, word_shiftLeft, word_natCast]
  refine BitVec.eq_of_getLsbD_eq fun i hi => ?_
  rw [Sha256.getLsbD_bigEndian]
  interval_cases i <;>
    simp [UInt8.toBitVec_ofNat', getElem_ofNat, hhigh hc, hhigh hd]

/-- The words of a buffer are those of the bytes that it is hashed as. -/
theorem word_words {buf : List ℕ} (hlength : buf.length % 4 = 0) (hunits : ∀ u ∈ buf, u < 2 ^ 16) :
    (words buf).map word = Sha256.words (hashedBytes buf) ∧ ∀ w ∈ words buf, Signed w := by
  induction buf using hashedBytes.induct with
  | case1 => exact ⟨rfl, nofun⟩
  | case2 a => simp at hlength
  | case3 a b => simp at hlength
  | case4 a b c => simp at hlength
  | case5 a b c d units ih =>
      simp only [List.length_cons] at hlength
      obtain ⟨hwords, hsigned⟩ := ih (by omega) fun u hu => hunits u (by simp [hu])
      constructor
      · rw [words, List.map_cons, word_units (hunits c (by simp)) (hunits d (by simp)), hwords]
        rfl
      · intro w hw
        rcases List.mem_cons.1 hw with rfl | hw
        · exact signed_or _ _
        · exact hsigned w hw

theorem length_expand (n : ℕ) (W : List ℤ) : (expand n W).length = W.length + n := by
  induction n generalizing W with
  | zero => rfl
  | succ n ih =>
      rw [expand, ih, List.length_append, List.length_singleton]
      omega

/-- The loop over the words of a buffer. -/
theorem word_rounds {v : Variables ℤ} (hv : v.All Small) {buf : List ℕ} (hlength : buf.length = 64)
    (hunits : ∀ u ∈ buf, u < 2 ^ 16) :
    (rounds v (expand 48 (words buf))).map word =
        Sha256.rounds (v.map word) (Sha256.schedule (hashedBytes buf)) ∧
      (rounds v (expand 48 (words buf))).All Signed := by
  obtain ⟨hwords, hsigned⟩ := word_words (by rw [hlength]) hunits
  obtain ⟨hexpand, hsigned'⟩ := word_expand 48 hsigned
  have hk : k.map word = Sha256.K := by decide
  have hksmall : ∀ x ∈ k, x.natAbs < 2 ^ 32 := by decide
  have hstirred : ∀ kw ∈ k.zip (expand 48 (words buf)), Stirred kw := by
    rintro ⟨x, w⟩ hkw
    obtain ⟨hx, hw⟩ := List.of_mem_zip hkw
    exact ⟨hksmall x hx, hsigned' w hw⟩
  constructor
  · rw [rounds, word_foldl_round hstirred hv, Sha256.rounds, Sha256.schedule, ← hwords, ← hexpand,
      ← hk, List.zip_map]
  · refine signed_foldl_round ?_ v
    have hklength : k.length = 64 := rfl
    rw [List.length_zip, length_expand, hklength]
    omega

/-- A number is at most so far from zero. -/
def Within (bound : ℕ) (n : ℤ) : Prop := n.natAbs ≤ bound

/-- **Compressing a buffer is compressing the block of the bytes that it is hashed as**, and the
chaining values grow by less than 2^31. -/
theorem word_compress {chain : Variables ℤ} {bound : ℕ} (hchain : chain.All (Within bound))
    (hbound : bound ≤ 2 ^ 53 - 2 ^ 34) {buf : List ℕ} (hlength : buf.length = 64)
    (hunits : ∀ u ∈ buf, u < 2 ^ 16) :
    (compress chain buf).map word = Sha256.compress (chain.map word) (hashedBytes buf) ∧
      (compress chain buf).All (Within (bound + 2 ^ 31)) := by
  have hsmall : ∀ n, Within bound n → Small n := fun n hn => hn.trans hbound
  obtain ⟨ha, hb, hc, hd, he, hf, hg, hh⟩ := hchain
  obtain ⟨hwords, hsigned⟩ := word_rounds
    ⟨hsmall _ ha, hsmall _ hb, hsmall _ hc, hsmall _ hd, hsmall _ he, hsmall _ hf, hsmall _ hg,
      hsmall _ hh⟩ hlength hunits
  unfold compress Sha256.compress
  rw [← hwords]
  generalize rounds chain (expand 48 (words buf)) = v at hsigned
  obtain ⟨sa, sb, sc, sd, se, sf, sg, sh⟩ := hsigned
  have hadd : ∀ {n m : ℤ}, Within bound n → Signed m →
      word (add n m) = word n + word m ∧ Within (bound + 2 ^ 31) (add n m) := by
    intro n m hn hm
    obtain ⟨hsum, hle⟩ := add_within hn hm (by omega)
    rw [hsum, word_sum]
    exact ⟨rfl, hle⟩
  constructor
  · simp only [Variables.zipWith, Variables.map, (hadd ha sa).1, (hadd hb sb).1, (hadd hc sc).1,
      (hadd hd sd).1, (hadd he se).1, (hadd hf sf).1, (hadd hg sg).1, (hadd hh sh).1]
  · exact ⟨(hadd ha sa).2, (hadd hb sb).2, (hadd hc sc).2, (hadd hd sd).2, (hadd he se).2,
      (hadd hf sf).2, (hadd hg sg).2, (hadd hh sh).2⟩

/-- Blocks are compressed one after the other, as long as no chaining value is rounded. -/
theorem word_foldl_compress {blocks : List (List ℕ)} {chain : Variables ℤ} {bound : ℕ}
    (hchain : chain.All (Within bound))
    (hbound : bound + blocks.length * 2 ^ 31 ≤ 2 ^ 53 - 2 ^ 34)
    (hlength : ∀ buf ∈ blocks, buf.length = 64)
    (hunits : ∀ buf ∈ blocks, ∀ u ∈ buf, u < 2 ^ 16) :
    (blocks.foldl compress chain).map word =
      (blocks.map hashedBytes).foldl Sha256.compress (chain.map word) := by
  induction blocks generalizing chain bound with
  | nil => rfl
  | cons buf blocks ih =>
      rw [List.length_cons] at hbound
      obtain ⟨hword, hwithin⟩ := word_compress hchain (by omega) (hlength buf List.mem_cons_self)
        (hunits buf List.mem_cons_self)
      rw [List.foldl_cons, List.map_cons, List.foldl_cons, ← hword]
      exact ih hwithin (by omega) (fun b hb => hlength b (List.mem_cons_of_mem _ hb))
        fun b hb => hunits b (List.mem_cons_of_mem _ hb)

/-! ### What a hasher has been fed -/

/-- The hasher has been fed these elements since it was reset. -/
structure Fed (s : SHA256) (units : List ℕ) : Prop where
  chain : s.chain =
    (Sha256.chunks 64 (units.length / 64) units).foldl compress reset.chain
  buf : s.buf = units.drop (64 * (units.length / 64))

theorem fed_reset : Fed reset [] := ⟨rfl, rfl⟩

theorem Fed.length_buf {s : SHA256} {units : List ℕ} (hs : Fed s units) :
    s.buf.length = units.length % 64 := by
  rw [hs.buf, List.length_drop]
  omega

/-- The blocks of what a hasher has been fed and of what fills its buffer. -/
theorem Fed.final {s : SHA256} {units rest : List ℕ} (hs : Fed s units)
    (hfull : (s.buf ++ rest).length = 64) :
    compress s.chain (s.buf ++ rest) =
      (Sha256.chunks 64 ((units ++ rest).length / 64) (units ++ rest)).foldl compress reset.chain := by
  have hlength : (units ++ rest).length / 64 = units.length / 64 + 1 := by
    rw [List.length_append, hs.length_buf] at hfull
    rw [List.length_append]
    omega
  have hle : 64 * (units.length / 64) ≤ units.length := Nat.mul_div_le _ _
  rw [hlength, Sha256.chunks_succ, Sha256.chunks_append hle, List.foldl_append, ← hs.chain,
    List.drop_append_of_le_length hle, ← hs.buf, List.foldl_cons, List.foldl_nil,
    List.take_of_length_le (Nat.le_of_eq hfull)]

/-- One more element. -/
theorem Fed.push {s : SHA256} {units : List ℕ} (hs : Fed s units) (byte : ℕ) :
    Fed (s.push byte) (units ++ [byte]) := by
  have hbuf := hs.length_buf
  have hle : 64 * (units.length / 64) ≤ units.length := Nat.mul_div_le _ _
  unfold SHA256.push
  dsimp only
  split
  case isTrue hfull =>
    refine ⟨hs.final hfull, ?_⟩
    rw [List.length_append, List.length_singleton, hbuf] at hfull
    rw [List.drop_eq_nil_of_le]
    rw [List.length_append, List.length_singleton]
    omega
  case isFalse hnot =>
    rw [List.length_append, List.length_singleton, hbuf] at hnot
    have hlength : (units ++ [byte]).length / 64 = units.length / 64 := by
      rw [List.length_append, List.length_singleton]
      omega
    constructor
    · rw [hlength, Sha256.chunks_append hle]
      exact hs.chain
    · rw [hlength, List.drop_append_of_le_length hle, ← hs.buf]

theorem Fed.foldl_push {s : SHA256} {units : List ℕ} (hs : Fed s units) (bytes : List ℕ) :
    Fed (bytes.foldl SHA256.push s) (units ++ bytes) := by
  induction bytes generalizing s units with
  | nil => rwa [List.append_nil]
  | cons byte bytes ih =>
      have hrest := ih (hs.push byte)
      rwa [List.append_assoc, List.singleton_append] at hrest

/-- The elements of an array up to a length. -/
theorem map_range_getD {bytes : List ℕ} {length : ℕ} (h : length ≤ bytes.length) :
    ((List.range length).map fun n => bytes.getD n 0) = bytes.take length := by
  refine List.ext_getElem (by simp [h]) fun i hi hi' => ?_
  have hlt : i < bytes.length := by
    rw [List.length_take] at hi'
    omega
  rw [List.getElem_map, List.getElem_range, List.getElem_take, List.getD_eq_getElem _ _ hlt]

/-- The count of the elements is read by `digest` only. -/
theorem Fed.counted {s : SHA256} {units : List ℕ} (hs : Fed s units) (total : ℤ) :
    Fed { s with total := total } units := ⟨hs.chain, hs.buf⟩

/-- An update with a prefix of an array that is not empty. -/
theorem Fed.update {s : SHA256} {units : List ℕ} (hs : Fed s units) {bytes : List ℕ}
    {optLength : ℕ} (hpos : 0 < optLength) (hle : optLength ≤ bytes.length) :
    Fed (s.update bytes optLength) (units ++ bytes.take optLength) := by
  have hne : optLength ≠ 0 := by omega
  unfold SHA256.update pushAll
  dsimp only
  rw [if_neg hne, map_range_getD hle]
  exact (hs.counted _).foldl_push _

/-- An update with a whole array. -/
theorem Fed.update_all {s : SHA256} {units : List ℕ} (hs : Fed s units) (bytes : List ℕ) :
    Fed (s.update bytes 0) (units ++ bytes) := by
  unfold SHA256.update pushAll
  dsimp only
  rw [if_pos rfl, map_range_getD (Nat.le_refl _), List.take_length]
  exact (hs.counted _).foldl_push _

@[simp] theorem total_push (s : SHA256) (byte : ℕ) : (s.push byte).total = s.total := by
  unfold SHA256.push
  dsimp only
  split <;> rfl

theorem total_foldl_push (s : SHA256) (bytes : List ℕ) :
    (bytes.foldl SHA256.push s).total = s.total := by
  induction bytes generalizing s with
  | nil => rfl
  | cons byte bytes ih => rw [List.foldl_cons, ih, total_push]

theorem total_update_all (s : SHA256) (bytes : List ℕ) :
    (s.update bytes 0).total = add s.total bytes.length := by
  unfold SHA256.update pushAll
  dsimp only
  rw [if_pos rfl, total_foldl_push]

/-! ### The padding -/

/-- The elements with the padding of `digest`. -/
def padUnits (units : List ℕ) (totalBits : ℤ) : List ℕ :=
  units ++ 0x80 :: List.replicate (Sha256.zeros units.length) 0 ++ lengthBytes 8 totalBits []

theorem length_lengthBytes (n : ℕ) (totalBits : ℤ) (bytes : List ℕ) :
    (lengthBytes n totalBits bytes).length = bytes.length + n := by
  induction n generalizing totalBits bytes with
  | zero => rfl
  | succ n ih =>
      rw [lengthBytes, ih, List.length_cons]
      omega

/-- What `digest` takes of the padding. -/
theorem take_padding (n : ℕ) (h : n ≤ 63) :
    padding.take (n + 1) = 0x80 :: List.replicate n 0 := by
  rw [padding, List.take_succ_cons, List.take_replicate, Nat.min_eq_left h]

/-- **The digest is that of the blocks of the elements with their padding.** -/
theorem digest_eq {s : SHA256} {units : List ℕ} (hs : Fed s units) :
    s.digest [] = chainBytes ((Sha256.chunks 64 ((padUnits units (s.total * 8)).length / 64)
      (padUnits units (s.total * 8))).foldl compress reset.chain) := by
  have hbuf := hs.length_buf
  -- what the padding leaves in the buffer are 56 elements
  obtain ⟨t, ht, htaken⟩ : ∃ t, Fed t (units ++ 0x80 :: List.replicate (Sha256.zeros units.length) 0) ∧
      (if s.buf.length < 56 then s.update padding (56 - s.buf.length)
        else s.update padding (64 - (s.buf.length - 56))) = t := by
    refine ⟨_, ?_, rfl⟩
    split
    case isTrue hlt =>
      have hzeros : 56 - s.buf.length = Sha256.zeros units.length + 1 := by
        rw [Sha256.zeros]
        omega
      rw [hzeros, ← take_padding _ (by rw [Sha256.zeros]; omega)]
      exact hs.update (by omega) (by simp [padding, Sha256.zeros]; omega)
    case isFalse hlt =>
      have hzeros : 64 - (s.buf.length - 56) = Sha256.zeros units.length + 1 := by
        rw [Sha256.zeros]
        omega
      rw [hzeros, ← take_padding _ (by rw [Sha256.zeros]; omega)]
      exact hs.update (by omega) (by simp [padding, Sha256.zeros]; omega)
  have hfull : (t.buf ++ lengthBytes 8 (s.total * 8) []).length = 64 := by
    rw [List.length_append, length_lengthBytes, ht.length_buf, List.length_append, List.length_cons,
      List.length_replicate, Sha256.zeros, List.length_nil]
    omega
  have hfinal := ht.final hfull
  unfold SHA256.digest
  dsimp only [List.foldl_nil]
  rw [htaken, hfinal]
  rfl

/-! ### The bytes of the padding and of the digest -/

theorem length_hashedBytes (units : List ℕ) : (hashedBytes units).length = units.length := by
  induction units using hashedBytes.induct with
  | case5 a b c d units ih => simp [hashedBytes, ih]
  | _ => rfl

/-- Whole words are hashed apart from what follows them. -/
theorem hashedBytes_append {xs : List ℕ} (ys : List ℕ) (h : xs.length % 4 = 0) :
    hashedBytes (xs ++ ys) = hashedBytes xs ++ hashedBytes ys := by
  induction xs using hashedBytes.induct with
  | case1 => rfl
  | case2 a => simp at h
  | case3 a b => simp at h
  | case4 a b c => simp at h
  | case5 a b c d units ih =>
      simp only [List.length_cons] at h
      simp [hashedBytes, ih (by omega)]

/-- A byte does not spill. -/
theorem shiftRight_byte {b : ℕ} (hb : b < 256) : b >>> 8 = 0 := by
  rw [Nat.shiftRight_eq_div_pow]
  omega

/-- Bytes are hashed as they are. -/
theorem hashedBytes_bytes {bytes : List ℕ} (hbytes : ∀ b ∈ bytes, b < 256) :
    hashedBytes bytes = bytes.map UInt8.ofNat := by
  have hspill : ∀ b ∈ bytes, b >>> 8 = 0 := fun b hb => shiftRight_byte (hbytes b hb)
  induction bytes using hashedBytes.induct with
  | case1 => rfl
  | case2 a => rfl
  | case3 a b => simp [hashedBytes, hspill b (by simp)]
  | case4 a b c => simp [hashedBytes, hspill b (by simp), hspill c (by simp)]
  | case5 a b c d bytes ih =>
      have hrest := ih (fun x hx => hbytes x (by simp [hx])) fun x hx => hspill x (by simp [hx])
      simp [hashedBytes, hspill b (by simp), hspill c (by simp), hspill d (by simp), hrest]

/-- Bytes that follow do not spill into what is before them. -/
theorem hashedBytes_append_bytes (xs : List ℕ) {bytes : List ℕ} (hbytes : ∀ b ∈ bytes, b < 256) :
    hashedBytes (xs ++ bytes) = hashedBytes xs ++ bytes.map UInt8.ofNat := by
  have hspill : ∀ b ∈ bytes, b >>> 8 = 0 := fun b hb => shiftRight_byte (hbytes b hb)
  induction xs using hashedBytes.induct with
  | case1 => exact hashedBytes_bytes hbytes
  | case2 a =>
      match bytes with
      | [] => rfl
      | [b] => simp [hashedBytes, hspill b (by simp)]
      | [b, c] => simp [hashedBytes, hspill b (by simp), hspill c (by simp)]
      | b :: c :: d :: bytes =>
          have hrest : hashedBytes bytes = bytes.map UInt8.ofNat :=
            hashedBytes_bytes fun x hx => hbytes x (by simp [hx])
          simp [hashedBytes, hspill b (by simp), hspill c (by simp), hspill d (by simp), hrest]
  | case3 a b =>
      match bytes with
      | [] => rfl
      | [c] => simp [hashedBytes, hspill c (by simp)]
      | c :: d :: bytes =>
          have hrest : hashedBytes bytes = bytes.map UInt8.ofNat :=
            hashedBytes_bytes fun x hx => hbytes x (by simp [hx])
          simp [hashedBytes, hspill c (by simp), hspill d (by simp), hrest]
  | case4 a b c =>
      match bytes with
      | [] => rfl
      | d :: bytes =>
          have hrest : hashedBytes bytes = bytes.map UInt8.ofNat :=
            hashedBytes_bytes fun x hx => hbytes x (by simp [hx])
          simp [hashedBytes, hspill d (by simp), hrest]
  | case5 a b c d xs ih => simp [hashedBytes, ih]

/-- The low byte of a number. -/
theorem toNat_and_255 (n : ℤ) : (JSInteger.and n 255).toNat = (word n).toNat % 256 := by
  have hmask : word 255 = 255#32 := rfl
  have hnat : (word n &&& 255#32).toNat = (word n).toNat % 256 := by
    rw [BitVec.toNat_and]
    exact Nat.and_two_pow_sub_one_eq_mod _ 8
  have hlt := Nat.mod_lt (word n).toNat (by decide : 0 < 256)
  rw [JSInteger.and, hmask, BitVec.toInt_eq_toNat_of_lt (by omega), hnat]
  rfl

/-- The loop writes the bytes of the number of bits, if this is one word. -/
theorem lengthBytes_eq (n : ℕ) {bits : ℕ} (hbits : bits < 2 ^ 32) (bytes : List ℕ) :
    lengthBytes n bits bytes =
      ((List.range n).reverse.map fun j => (bits >>> (8 * j)) % 256) ++ bytes := by
  induction n generalizing bits bytes with
  | zero => rfl
  | succ n ih =>
      have hword : (word bits).toNat = bits := by
        rw [word_natCast, BitVec.toNat_ofNat, Nat.mod_eq_of_lt hbits]
      have hshift : unsignedShiftRight bits 8 = ((bits >>> 8 : ℕ) : ℤ) := by
        rw [unsignedShiftRight, BitVec.toNat_ushiftRight, hword]
      have hlt : bits >>> 8 < 2 ^ 32 := (Nat.shiftRight_le _ _).trans_lt hbits
      rw [lengthBytes, hshift, ih hlt, toNat_and_255, hword, List.range_succ_eq_map]
      simp [Function.comp_def, Nat.mul_add, Nat.add_comm, Nat.shiftRight_add]

/-- The two shifts to the right have the low byte in common. -/
theorem setWidth_sshiftRight (x : BitVec 32) {j : ℕ} (hj : j ≤ 24) :
    (x.sshiftRight j).setWidth 8 = (x >>> j).setWidth 8 := by
  ext i hi
  have hlow : ¬ 32 ≤ i := by omega
  have hshifted : j + i < 32 := by omega
  simp [BitVec.getLsbD_sshiftRight, hlow, hshifted]

/-- The bytes of the chaining values are those of their words. -/
theorem chainBytes_eq (chain : Variables ℤ) :
    chainBytes chain = ((chain.map word).toList.flatMap Sha256.wordBytes).map UInt8.toNat := by
  have hbyte : ∀ (w : ℤ) (j : ℕ), j ≤ 24 → (JSInteger.and (shiftRight w j) 255).toNat =
      (UInt8.ofBitVec ((word w >>> j).setWidth 8)).toNat := by
    intro w j hj
    rw [toNat_and_255, word_shiftRight, ← setWidth_sshiftRight _ hj]
    simp
  have hword : ∀ w : ℤ, ([24, 16, 8, 0].map fun j => (JSInteger.and (shiftRight w j) 255).toNat) =
      (Sha256.wordBytes (word w)).map UInt8.toNat := by
    intro w
    simp only [Sha256.wordBytes, List.map_cons, List.map_nil]
    rw [hbyte w 24 (by decide), hbyte w 16 (by decide), hbyte w 8 (by decide),
      hbyte w 0 (by decide)]
  simp only [chainBytes, Variables.toList, Variables.map, List.flatMap_cons, List.flatMap_nil, hword,
    List.map_append, List.map_nil]

/-- The bytes of the number of bits. -/
theorem map_lengthBytes (bits : ℕ) :
    ((List.range 8).reverse.map fun j => (bits >>> (8 * j)) % 256).map UInt8.ofNat =
      Sha256.lengthBytes bits := by
  have hmod : ∀ x : ℕ, UInt8.ofNat (x % 256) = UInt8.ofNat x := by
    intro x
    rw [← UInt8.toNat_inj]
    simp
  rw [List.map_map, Sha256.lengthBytes]
  simp only [List.range_succ, List.range_zero, List.nil_append, List.cons_append, List.reverse_cons,
    List.reverse_nil, List.map_cons, List.map_nil, Function.comp_apply, hmod]

/-- The padding of the elements is hashed as the padding of their bytes. -/
theorem hashedBytes_padUnits {units : List ℕ} (hlength : units.length < 2 ^ 28) :
    hashedBytes (padUnits units (units.length * 8)) = Sha256.pad (hashedBytes units) := by
  have hbits : (units.length : ℤ) * 8 = ((8 * units.length : ℕ) : ℤ) := by omega
  rw [padUnits, hbits, lengthBytes_eq 8 (by omega), List.append_nil, List.append_assoc,
    hashedBytes_append_bytes, List.map_append, map_lengthBytes, Sha256.pad, length_hashedBytes,
    List.append_assoc, List.map_cons, List.map_replicate]
  · rfl
  · intro b hb
    rcases List.mem_append.1 hb with hb | hb
    · rcases List.mem_cons.1 hb with rfl | hb
      · decide
      · rw [List.eq_of_mem_replicate hb]
        decide
    · obtain ⟨j, -, rfl⟩ := List.mem_map.1 hb
      exact Nat.mod_lt _ (by decide)

theorem length_padUnits (units : List ℕ) (totalBits : ℤ) :
    (padUnits units totalBits).length = 64 * ((units.length + 8) / 64 + 1) := by
  rw [padUnits, List.length_append, List.length_append, length_lengthBytes, List.length_cons,
    List.length_replicate, List.length_nil, Sha256.zeros]
  omega

theorem padUnits_lt {units : List ℕ} (hunits : ∀ u ∈ units, u < 2 ^ 16) {bits : ℕ}
    (hbits : bits < 2 ^ 32) : ∀ u ∈ padUnits units bits, u < 2 ^ 16 := by
  intro u hu
  rw [padUnits, lengthBytes_eq 8 hbits, List.append_nil] at hu
  rcases List.mem_append.1 hu with hu | hu
  · rcases List.mem_append.1 hu with hu | hu
    · exact hunits u hu
    · rcases List.mem_cons.1 hu with rfl | hu
      · decide
      · rw [List.eq_of_mem_replicate hu]
        decide
  · obtain ⟨j, -, rfl⟩ := List.mem_map.1 hu
    exact (Nat.mod_lt _ (by decide)).trans (by decide)

/-- **The digest is the SHA-256 of the bytes that the elements are hashed as.** -/
theorem digest_fips {s : SHA256} {units : List ℕ} (hs : Fed s units)
    (htotal : s.total = units.length) (hunits : ∀ u ∈ units, u < 2 ^ 16)
    (hlength : units.length < 2 ^ 28 - 1024) :
    s.digest [] = (Sha256.hash (hashedBytes units)).map UInt8.toNat := by
  have hpadded : hashedBytes (padUnits units (units.length * 8)) =
      Sha256.pad (hashedBytes units) := hashedBytes_padUnits (by omega)
  have hlt : ∀ u ∈ padUnits units (8 * units.length : ℕ), u < 2 ^ 16 :=
    padUnits_lt hunits (by omega)
  have hbits : ((8 * units.length : ℕ) : ℤ) = units.length * 8 := by omega
  rw [hbits] at hlt
  have hlen := length_padUnits units (units.length * 8)
  rw [digest_eq hs, htotal]
  generalize padUnits units (units.length * 8) = padded at hpadded hlt hlen
  have hle : 64 * (padded.length / 64) ≤ padded.length := Nat.mul_div_le _ _
  have hwithin : reset.chain.All (Within (2 ^ 32)) := by
    unfold Variables.All Within
    decide
  have hcompress := word_foldl_compress hwithin
    (by rw [Sha256.length_chunks]; omega)
    (Sha256.length_of_mem_chunks hle)
    (fun buf hbuf u hu => hlt u (Sha256.subset_of_mem_chunks buf hbuf u hu))
  have hblocks : (Sha256.chunks 64 (padded.length / 64) padded).map hashedBytes =
      Sha256.chunks 64 (padded.length / 64) (hashedBytes padded) :=
    Sha256.map_chunks (fun xs ys h => hashedBytes_append ys (by rw [h])) length_hashedBytes hle
  have hH0 : reset.chain.map word = Sha256.H0 := by decide
  rw [chainBytes_eq, hcompress, hblocks, hH0, Sha256.hash, ← hpadded, length_hashedBytes]

end SHA256

/-- **The hash of a string is the SHA-256 of the bytes that its code units are hashed as.** -/
theorem sha256HashOfString_eq {string : JSString}
    (hlength : string.length < 2 ^ 28 - 1024) :
    sha256HashOfString string =
      (Sha256.hash (hashedBytes (UTIL_StringToBytes string))).map UInt8.toNat := by
  have hunits : ∀ u ∈ UTIL_StringToBytes string, u < 2 ^ 16 := by
    intro u hu
    obtain ⟨c, -, rfl⟩ := List.mem_map.1 hu
    exact c.toNat_lt
  have hlen : (UTIL_StringToBytes string).length = string.length := List.length_map _
  have hfed := SHA256.fed_reset.update_all (UTIL_StringToBytes string)
  have htotal : (SHA256.reset.update (UTIL_StringToBytes string) 0).total =
      (UTIL_StringToBytes string).length := by
    rw [SHA256.total_update_all]
    have hsum : SHA256.reset.total + ((UTIL_StringToBytes string).length : ℤ) =
        (UTIL_StringToBytes string).length := Int.zero_add _
    rw [JSInteger.add_of_lt (by rw [hsum]; omega), hsum]
  exact SHA256.digest_fips hfed htotal hunits (by omega)

end U2F
