/-
**SHA-256.**

The hash function of FIPS 180-4, for messages of bytes.  A message is padded to blocks of 64 bytes;
each block is expanded to 64 words, and these are stirred one after the other into the eight working
variables, which are added to the hash value.

Main definitions:

* `Sha256.Variables` — the eight variables, of words or of what stands for words;
* `Sha256.compress` — a block is added to a hash value;
* `Sha256.pad`, `Sha256.hash` — **the hash of a message**;
* `Sha256.Collision` — two messages with one hash.
-/

import Mathlib.Data.List.Basic

set_option relaxedAutoImplicit false
set_option autoImplicit false

namespace Sha256

abbrev Word := BitVec 32

/-! ### Functions and constants -/

/-- Rotation to the right. -/
def rotr (n : ℕ) (x : Word) : Word := x >>> n ||| x <<< (32 - n)

def Ch (x y z : Word) : Word := (x &&& y) ^^^ (~~~x &&& z)

def Maj (x y z : Word) : Word := (x &&& y) ^^^ (x &&& z) ^^^ (y &&& z)

def Sigma0 (x : Word) : Word := rotr 2 x ^^^ rotr 13 x ^^^ rotr 22 x

def Sigma1 (x : Word) : Word := rotr 6 x ^^^ rotr 11 x ^^^ rotr 25 x

def sigma0 (x : Word) : Word := rotr 7 x ^^^ rotr 18 x ^^^ x >>> 3

def sigma1 (x : Word) : Word := rotr 17 x ^^^ rotr 19 x ^^^ x >>> 10

def K : List Word :=
  [0x428a2f98, 0x71374491, 0xb5c0fbcf, 0xe9b5dba5, 0x3956c25b, 0x59f111f1, 0x923f82a4, 0xab1c5ed5,
    0xd807aa98, 0x12835b01, 0x243185be, 0x550c7dc3, 0x72be5d74, 0x80deb1fe, 0x9bdc06a7, 0xc19bf174,
    0xe49b69c1, 0xefbe4786, 0x0fc19dc6, 0x240ca1cc, 0x2de92c6f, 0x4a7484aa, 0x5cb0a9dc, 0x76f988da,
    0x983e5152, 0xa831c66d, 0xb00327c8, 0xbf597fc7, 0xc6e00bf3, 0xd5a79147, 0x06ca6351, 0x14292967,
    0x27b70a85, 0x2e1b2138, 0x4d2c6dfc, 0x53380d13, 0x650a7354, 0x766a0abb, 0x81c2c92e, 0x92722c85,
    0xa2bfe8a1, 0xa81a664b, 0xc24b8b70, 0xc76c51a3, 0xd192e819, 0xd6990624, 0xf40e3585, 0x106aa070,
    0x19a4c116, 0x1e376c08, 0x2748774c, 0x34b0bcb5, 0x391c0cb3, 0x4ed8aa4a, 0x5b9cca4f, 0x682e6ff3,
    0x748f82ee, 0x78a5636f, 0x84c87814, 0x8cc70208, 0x90befffa, 0xa4506ceb, 0xbef9a3f7, 0xc67178f2]

/-- The eight variables. -/
structure Variables (α : Type*) where
  a : α
  b : α
  c : α
  d : α
  e : α
  f : α
  g : α
  h : α
  deriving DecidableEq

namespace Variables

variable {α β γ : Type*}

def map (t : α → β) (v : Variables α) : Variables β :=
  ⟨t v.a, t v.b, t v.c, t v.d, t v.e, t v.f, t v.g, t v.h⟩

def zipWith (t : α → β → γ) (v : Variables α) (w : Variables β) : Variables γ :=
  ⟨t v.a w.a, t v.b w.b, t v.c w.c, t v.d w.d, t v.e w.e, t v.f w.f, t v.g w.g, t v.h w.h⟩

def toList (v : Variables α) : List α := [v.a, v.b, v.c, v.d, v.e, v.f, v.g, v.h]

/-- All eight have a property. -/
def All (p : α → Prop) (v : Variables α) : Prop :=
  p v.a ∧ p v.b ∧ p v.c ∧ p v.d ∧ p v.e ∧ p v.f ∧ p v.g ∧ p v.h

end Variables

/-- The initial hash value. -/
def H0 : Variables Word :=
  ⟨0x6a09e667, 0xbb67ae85, 0x3c6ef372, 0xa54ff53a, 0x510e527f, 0x9b05688c, 0x1f83d9ab, 0x5be0cd19⟩

/-! ### Blocks -/

/-- The first `n` parts of a list, of the given length each. -/
def chunks {α : Type*} (length : ℕ) : ℕ → List α → List (List α)
  | 0, _ => []
  | n + 1, xs => xs.take length :: chunks length n (xs.drop length)

section Chunks

variable {α β : Type*} {length : ℕ}

@[simp] theorem length_chunks (n : ℕ) (xs : List α) : (chunks length n xs).length = n := by
  induction n generalizing xs with
  | zero => rfl
  | succ n ih => simp [chunks, ih]

/-- The parts of a list that is continued. -/
theorem chunks_append {n : ℕ} {xs : List α} (h : length * n ≤ xs.length) (ys : List α) :
    chunks length n (xs ++ ys) = chunks length n xs := by
  induction n generalizing xs with
  | zero => rfl
  | succ n ih =>
      rw [Nat.mul_succ] at h
      simp only [chunks]
      rw [List.take_append_of_le_length (by omega), List.drop_append_of_le_length (by omega),
        ih (by rw [List.length_drop]; omega)]

/-- One part more. -/
theorem chunks_succ (n : ℕ) (xs : List α) :
    chunks length (n + 1) xs = chunks length n xs ++ [(xs.drop (length * n)).take length] := by
  induction n generalizing xs with
  | zero => rfl
  | succ n ih =>
      rw [chunks, ih, chunks, List.cons_append, List.drop_drop, Nat.mul_succ,
        Nat.add_comm length (length * n)]

theorem length_of_mem_chunks {n : ℕ} {xs : List α} (h : length * n ≤ xs.length) :
    ∀ block ∈ chunks length n xs, block.length = length := by
  induction n generalizing xs with
  | zero => nofun
  | succ n ih =>
      rw [Nat.mul_succ] at h
      intro block hblock
      rcases List.mem_cons.1 hblock with rfl | hblock
      · rw [List.length_take]
        omega
      · exact ih (by rw [List.length_drop]; omega) block hblock

theorem subset_of_mem_chunks {n : ℕ} {xs : List α} :
    ∀ block ∈ chunks length n xs, ∀ x ∈ block, x ∈ xs := by
  induction n generalizing xs with
  | zero => nofun
  | succ n ih =>
      intro block hblock x hx
      rcases List.mem_cons.1 hblock with rfl | hblock
      · exact List.mem_of_mem_take hx
      · exact List.mem_of_mem_drop (ih block hblock x hx)

/-- A function that maps the parts one by one. -/
theorem map_chunks {f : List α → List β}
    (hf : ∀ xs ys, xs.length = length → f (xs ++ ys) = f xs ++ f ys)
    (hlength : ∀ xs, (f xs).length = xs.length) {n : ℕ} {xs : List α}
    (h : length * n ≤ xs.length) : (chunks length n xs).map f = chunks length n (f xs) := by
  induction n generalizing xs with
  | zero => rfl
  | succ n ih =>
      rw [Nat.mul_succ] at h
      have htake : (xs.take length).length = length := by
        rw [List.length_take]
        omega
      have hxs := hf (xs.take length) (xs.drop length) htake
      rw [List.take_append_drop] at hxs
      rw [chunks, List.map_cons, ih (by rw [List.length_drop]; omega), chunks, hxs,
        List.take_left' (by rw [hlength, htake]), List.drop_left' (by rw [hlength, htake])]

end Chunks

/-- Four bytes, the most significant one first. -/
def bigEndian (a b c d : UInt8) : Word :=
  a.toBitVec ++ b.toBitVec ++ c.toBitVec ++ d.toBitVec

theorem getLsbD_bigEndian (a b c d : UInt8) (i : ℕ) :
    (bigEndian a b c d).getLsbD i =
      if i < 8 then d.toBitVec.getLsbD i
      else if i < 16 then c.toBitVec.getLsbD (i - 8)
      else if i < 24 then b.toBitVec.getLsbD (i - 16)
      else a.toBitVec.getLsbD (i - 24) := by
  have happend : (bigEndian a b c d).getLsbD i =
      (((a.toBitVec ++ b.toBitVec : BitVec (8 + 8)) ++ c.toBitVec : BitVec (8 + 8 + 8)) ++
        d.toBitVec : BitVec (8 + 8 + 8 + 8)).getLsbD i :=
    rfl
  rw [happend]
  simp only [BitVec.getLsbD_append]
  split
  · simp [*]
  · split <;> split <;> grind

/-- The words of a block. -/
def words : List UInt8 → List Word
  | a :: b :: c :: d :: bytes => bigEndian a b c d :: words bytes
  | _ => []

/-- The next words of a message schedule. -/
def expand : ℕ → List Word → List Word
  | 0, W => W
  | n + 1, W =>
      let t := W.length
      expand n (W ++
        [sigma1 (W.getD (t - 2) 0) + W.getD (t - 7) 0 + sigma0 (W.getD (t - 15) 0) +
          W.getD (t - 16) 0])

/-- The message schedule of a block: its words, and 48 more. -/
def schedule (block : List UInt8) : List Word := expand 48 (words block)

/-- One word is stirred into the working variables. -/
def round (v : Variables Word) (k w : Word) : Variables Word :=
  let T1 := v.h + Sigma1 v.e + Ch v.e v.f v.g + k + w
  let T2 := Sigma0 v.a + Maj v.a v.b v.c
  ⟨T1 + T2, v.a, v.b, v.c, v.d + T1, v.e, v.f, v.g⟩

/-- The rounds for the words of a message schedule. -/
def rounds (v : Variables Word) (W : List Word) : Variables Word :=
  (K.zip W).foldl (fun v kw => round v kw.1 kw.2) v

/-- A block is added to a hash value. -/
def compress (H : Variables Word) (block : List UInt8) : Variables Word :=
  H.zipWith (· + ·) (rounds H (schedule block))

/-! ### Messages -/

/-- A length in bits, in eight bytes. -/
def lengthBytes (bits : ℕ) : List UInt8 :=
  [56, 48, 40, 32, 24, 16, 8, 0].map fun s => UInt8.ofNat (bits >>> s)

/-- The number of zeros that the padding has before the length. -/
def zeros (length : ℕ) : ℕ := (119 - length % 64) % 64

/-- A message with its padding. -/
def pad (message : List UInt8) : List UInt8 :=
  message ++ 0x80 :: List.replicate (zeros message.length) 0 ++ lengthBytes (8 * message.length)

/-- The bytes of a word. -/
def wordBytes (x : Word) : List UInt8 :=
  [24, 16, 8, 0].map fun s => UInt8.ofBitVec ((x >>> (s : ℕ)).setWidth 8)

/-- **The hash of a message.** -/
def hash (message : List UInt8) : List UInt8 :=
  ((chunks 64 ((pad message).length / 64) (pad message)).foldl compress H0).toList.flatMap wordBytes

theorem length_hash (message : List UInt8) : (hash message).length = 32 := by
  unfold hash
  generalize (chunks 64 ((pad message).length / 64) (pad message)).foldl compress H0 = H
  rfl

/-- Two messages with one hash. -/
def Collision (m m' : List UInt8) : Prop := m ≠ m' ∧ hash m = hash m'

example : hash [0x61, 0x62, 0x63] =
    [0xba, 0x78, 0x16, 0xbf, 0x8f, 0x01, 0xcf, 0xea, 0x41, 0x41, 0x40, 0xde, 0x5d, 0xae, 0x22, 0x23,
      0xb0, 0x03, 0x61, 0xa3, 0x96, 0x17, 0x7a, 0x9c, 0xb4, 0x10, 0xff, 0x61, 0xf2, 0x00, 0x15,
      0xad] := by
  decide +kernel

end Sha256
