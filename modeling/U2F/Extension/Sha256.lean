/-
**The SHA-256 of the extension.**

`sha256.js` collects the elements it is given in a buffer, and compresses the buffer when it is full.
It does not mask them: an element above 255 spills into the byte before it of the same word.  The
chaining values are numbers that are added up without a mask, so the hash is one of words as long as
the sums are not rounded.

Main definitions:

* `SHA256`, `SHA256.update`, `SHA256.updateRange`, `SHA256.digest` — the hasher;
* `sha256HashOfString` — the hash of the code units of a string;
* `hashedBytes` — the bytes that an array of code units is hashed as.
-/

import U2F.Extension.WebRequest
import U2F.Lib.JSInteger
import U2F.Lib.Sha256

set_option relaxedAutoImplicit false
set_option autoImplicit false

namespace U2F

open Sha256 (Variables)

/-- A hasher.  What the buffer holds from `_inbuf` on is never read. -/
structure SHA256 where
  chain : Variables ℤ
  /-- The first `_inbuf` elements of the buffer. -/
  buf : List ℕ
  total : ℤ

namespace SHA256

open JSInteger

/-! ### Compressing a block -/

/-- `_k` -/
def k : List ℤ :=
  [0x428a2f98, 0x71374491, 0xb5c0fbcf, 0xe9b5dba5,
    0x3956c25b, 0x59f111f1, 0x923f82a4, 0xab1c5ed5,
    0xd807aa98, 0x12835b01, 0x243185be, 0x550c7dc3,
    0x72be5d74, 0x80deb1fe, 0x9bdc06a7, 0xc19bf174,
    0xe49b69c1, 0xefbe4786, 0x0fc19dc6, 0x240ca1cc,
    0x2de92c6f, 0x4a7484aa, 0x5cb0a9dc, 0x76f988da,
    0x983e5152, 0xa831c66d, 0xb00327c8, 0xbf597fc7,
    0xc6e00bf3, 0xd5a79147, 0x06ca6351, 0x14292967,
    0x27b70a85, 0x2e1b2138, 0x4d2c6dfc, 0x53380d13,
    0x650a7354, 0x766a0abb, 0x81c2c92e, 0x92722c85,
    0xa2bfe8a1, 0xa81a664b, 0xc24b8b70, 0xc76c51a3,
    0xd192e819, 0xd6990624, 0xf40e3585, 0x106aa070,
    0x19a4c116, 0x1e376c08, 0x2748774c, 0x34b0bcb5,
    0x391c0cb3, 0x4ed8aa4a, 0x5b9cca4f, 0x682e6ff3,
    0x748f82ee, 0x78a5636f, 0x84c87814, 0x8cc70208,
    0x90befffa, 0xa4506ceb, 0xbef9a3f7, 0xc67178f2]

def rotr (w : ℤ) (r : ℕ) : ℤ := or (shiftLeft w (32 - r)) (unsignedShiftRight w r)

/-- 16 big endian words -/
def words : List ℕ → List ℤ
  | b₀ :: b₁ :: b₂ :: b₃ :: buf =>
      or (or (or (shiftLeft b₀ 24) (shiftLeft b₁ 16)) (shiftLeft b₂ 8)) b₃ :: words buf
  | _ => []

/-- The loop that expands the words to 64 words. -/
def expand : ℕ → List ℤ → List ℤ
  | 0, W => W
  | n + 1, W =>
      let i := W.length
      let s0 := xor (xor (rotr (W.getD (i - 15) 0) 7) (rotr (W.getD (i - 15) 0) 18))
        (unsignedShiftRight (W.getD (i - 15) 0) 3)
      let s1 := xor (xor (rotr (W.getD (i - 2) 0) 17) (rotr (W.getD (i - 2) 0) 19))
        (unsignedShiftRight (W.getD (i - 2) 0) 10)
      expand n (W ++
        [JSInteger.and (add (add (add (W.getD (i - 16) 0) s0) (W.getD (i - 7) 0)) s1) 0xffffffff])

/-- The body of the loop over the words. -/
def round (v : Variables ℤ) (k w : ℤ) : Variables ℤ :=
  let S0 := xor (xor (rotr v.a 2) (rotr v.a 13)) (rotr v.a 22)
  let maj := JSInteger.xor (JSInteger.xor (JSInteger.and v.a v.b) (JSInteger.and v.a v.c))
    (JSInteger.and v.b v.c)
  let t2 := JSInteger.and (add S0 maj) 0xffffffff
  let S1 := xor (xor (rotr v.e 6) (rotr v.e 11)) (rotr v.e 25)
  let ch := JSInteger.xor (JSInteger.and v.e v.f) (JSInteger.and (not v.e) v.g)
  let t1 := JSInteger.and (add (add (add (add v.h S1) ch) k) w) 0xffffffff
  { a := JSInteger.and (add t1 t2) 0xffffffff, b := v.a, c := v.b, d := v.c
    e := JSInteger.and (add v.d t1) 0xffffffff, f := v.e, g := v.f, h := v.g }

/-- The loop over the words. -/
def rounds (v : Variables ℤ) (W : List ℤ) : Variables ℤ :=
  (k.zip W).foldl (fun v kw => round v kw.1 kw.2) v

/-- Hash the next block of 64 bytes. -/
def compress (chain : Variables ℤ) (buf : List ℕ) : Variables ℤ :=
  chain.zipWith add (rounds chain (expand 48 (words buf)))

/-! ### The hasher -/

/-- The hasher after `reset()`. -/
def reset : SHA256 :=
  { chain := ⟨0x6a09e667, 0xbb67ae85, 0x3c6ef372, 0xa54ff53a, 0x510e527f, 0x9b05688c, 0x1f83d9ab,
      0x5be0cd19⟩
    buf := []
    total := 0 }

/-- `reset()` of a hasher that may have been used. -/
def resetUsed (s : SHA256) : SHA256 := { s with chain := reset.chain, buf := [], total := 0 }

/-- `this._buf[this._inbuf++] = byte`, and what is done when the buffer is full. -/
def push (s : SHA256) (byte : ℕ) : SHA256 :=
  let buf := s.buf ++ [byte]
  if buf.length = 64 then { s with chain := compress s.chain buf, buf := [] } else { s with buf := buf }

/-- The loop of `update`.  An element that is not there counts as zero in `compress`. -/
def pushAll (s : SHA256) (bytes : List ℕ) (length : ℕ) : SHA256 :=
  ((List.range length).map fun n => bytes.getD n 0).foldl push s

/-- Update the hash with additional data. -/
def update (s : SHA256) (bytes : List ℕ) (optLength : ℕ) : SHA256 :=
  let length := if optLength = 0 then bytes.length else optLength
  { s with total := add s.total length }.pushAll bytes length

/-- Update the hash with a specified range from a data buffer. -/
def updateRange (s : SHA256) (bytes : List ℕ) (start stop : ℕ) : SHA256 :=
  ((List.range' start (stop - start)).map fun n => bytes.getD n 0).foldl push
    { s with total := add s.total ((stop : ℤ) - start) }

/-- `_pad` -/
def padding : List ℕ := 0x80 :: List.replicate 63 0

/-- The loop that writes the number of bits, from the last byte on. -/
def lengthBytes : ℕ → ℤ → List ℕ → List ℕ
  | 0, _, bytes => bytes
  | n + 1, totalBits, bytes =>
      lengthBytes n (unsignedShiftRight totalBits 8) ((JSInteger.and totalBits 255).toNat :: bytes)

/-- The bytes of the chaining values. -/
def chainBytes (chain : Variables ℤ) : List ℕ :=
  chain.toList.flatMap fun w => [24, 16, 8, 0].map fun j => (JSInteger.and (shiftRight w j) 255).toNat

/-- The hash value, after the hash has been updated with additional arguments.  The padding leaves 56
elements in the buffer. -/
def digest (s : SHA256) (arguments : List (List ℕ)) : List ℕ :=
  let s := arguments.foldl (fun s bytes => s.update bytes 0) s
  let totalBits := s.total * 8
  let inbuf := s.buf.length
  let s := if inbuf < 56 then s.update padding (56 - inbuf) else s.update padding (64 - (inbuf - 56))
  chainBytes (compress s.chain (s.buf ++ lengthBytes 8 totalBits []))

end SHA256

/-- The bytes that an array of code units is hashed as, four at a time. -/
def hashedBytes : List ℕ → List UInt8
  | [] => []
  | [a] => [UInt8.ofNat a]
  | [a, b] => [UInt8.ofNat a ||| UInt8.ofNat (b >>> 8), UInt8.ofNat b]
  | [a, b, c] =>
      [UInt8.ofNat a ||| UInt8.ofNat (b >>> 8), UInt8.ofNat b ||| UInt8.ofNat (c >>> 8),
        UInt8.ofNat c]
  | a :: b :: c :: d :: units =>
      (UInt8.ofNat a ||| UInt8.ofNat (b >>> 8)) :: (UInt8.ofNat b ||| UInt8.ofNat (c >>> 8)) ::
        (UInt8.ofNat c ||| UInt8.ofNat (d >>> 8)) :: UInt8.ofNat d :: hashedBytes units

/-- The SHA-256 of the code units of a string. -/
def sha256HashOfString (string : JSString) : List ℕ :=
  (SHA256.reset.update (UTIL_StringToBytes string) 0).digest []

end U2F
