/-
**Feeding the hasher of the extension.**

A message may reach `sha256.js` in pieces: as whole arrays, as prefixes of arrays, as ranges of
buffers, and as arguments of `digest`.  The buffer is carried over from one piece to the next, and
the number of bytes is added up as each call computes it.

Main definitions:

* `SHA256.Piece`, `SHA256.Piece.bytes`, `SHA256.Piece.feed` — a piece of a message, and the call that
  feeds it;
* `SHA256.Absorbed` — what a hasher has been fed and has counted;
* `SHA256.Restarted` — the hashers that a message may be fed to.

Main results:

* `SHA256.Piece.feed_eq` — every call is the loop over the bytes of its piece;
* `SHA256.Absorbed.feed`, `SHA256.Absorbed.foldl_feed` — one piece, and any sequence of pieces;
* `SHA256.digest_pieces` — **the digest is the SHA-256 of the message, whatever its pieces are**.
-/

import U2F.Extension.Sha256Fips

set_option relaxedAutoImplicit false
set_option autoImplicit false

namespace U2F

namespace SHA256

/-- The array of numbers that holds these bytes. -/
def array (bytes : List UInt8) : List ℕ := bytes.map UInt8.toNat

@[simp] theorem length_array (bytes : List UInt8) : (array bytes).length = bytes.length :=
  List.length_map _

theorem array_append (xs ys : List UInt8) : array (xs ++ ys) = array xs ++ array ys :=
  List.map_append

theorem array_lt (bytes : List UInt8) : ∀ b ∈ array bytes, b < 256 := by
  intro b hb
  obtain ⟨x, -, rfl⟩ := List.mem_map.1 hb
  exact x.toNat_lt

/-- An array of bytes is hashed as these bytes. -/
theorem hashedBytes_array (bytes : List UInt8) : hashedBytes (array bytes) = bytes := by
  rw [hashedBytes_bytes (array_lt bytes), array, List.map_map]
  have hid : UInt8.ofNat ∘ UInt8.toNat = id := by
    funext b
    exact UInt8.ofNat_toNat
  rw [hid, List.map_id]

/-! ### The pieces of a message -/

/-- A piece of a message: a whole array, a prefix that is not empty, or a range of a buffer. -/
inductive Piece
  | update (bytes : List UInt8)
  | updatePart (bytes : List UInt8) (optLength : ℕ) (pos : 0 < optLength)
      (le_length : optLength ≤ bytes.length)
  | updateRange (bytes : List UInt8) (start stop : ℕ) (le : start ≤ stop)
      (le_length : stop ≤ bytes.length)

namespace Piece

def bytes : Piece → List UInt8
  | update bytes => bytes
  | updatePart bytes optLength _ _ => bytes.take optLength
  | updateRange bytes start stop _ _ => (bytes.take stop).drop start

/-- The call that feeds a hasher a piece. -/
def feed (s : SHA256) : Piece → SHA256
  | update bytes => s.update (array bytes) 0
  | updatePart bytes optLength _ _ => s.update (array bytes) optLength
  | updateRange bytes start stop _ _ => s.updateRange (array bytes) start stop

/-- The elements of a range of an array. -/
theorem map_range'_getD {bytes : List ℕ} {start stop : ℕ} (h : stop ≤ bytes.length) :
    ((List.range' start (stop - start)).map fun n => bytes.getD n 0) =
      (bytes.take stop).drop start := by
  refine List.ext_getElem (by simp [h]) fun i hi hi' => ?_
  have hlt : start + i < bytes.length := by
    rw [List.length_drop, List.length_take] at hi'
    omega
  rw [List.getElem_map, List.getElem_range', List.getElem_drop, List.getElem_take, Nat.one_mul,
    List.getD_eq_getElem _ _ hlt]

/-- **Every call is the loop over the bytes of its piece**, and counts them. -/
theorem feed_eq (s : SHA256) (piece : Piece) :
    piece.feed s = (array piece.bytes).foldl SHA256.push
      { s with total := JSInteger.add s.total piece.bytes.length } := by
  cases piece with
  | update bytes =>
      have hall : ((List.range (array bytes).length).map fun n => (array bytes).getD n 0) =
          array bytes := by
        rw [map_range_getD (Nat.le_refl _), List.take_length]
      rw [feed, SHA256.update, if_pos rfl, pushAll, hall, length_array]
      rfl
  | updatePart bytes optLength pos le_length =>
      have htaken : ((List.range optLength).map fun n => (array bytes).getD n 0) =
          array (bytes.take optLength) := by
        rw [map_range_getD (by rwa [length_array]), array, array, List.map_take]
      have hlength : (bytes.take optLength).length = optLength := List.length_take_of_le le_length
      have hne : optLength ≠ 0 := by omega
      rw [feed, SHA256.update, if_neg hne, pushAll, htaken, Piece.bytes, hlength]
  | updateRange bytes start stop le le_length =>
      have hrange : ((List.range' start (stop - start)).map fun n => (array bytes).getD n 0) =
          array ((bytes.take stop).drop start) := by
        rw [map_range'_getD (by rwa [length_array]), array, array, List.map_drop, List.map_take]
      have hcount : (stop : ℤ) - start = ((bytes.take stop).drop start).length := by
        rw [List.length_drop, List.length_take_of_le le_length]
        omega
      rw [feed, SHA256.updateRange, hrange, Piece.bytes, hcount]

end Piece

/-! ### What a hasher has absorbed -/

/-- The hasher has been fed this message since it was reset, and has counted its bytes. -/
structure Absorbed (s : SHA256) (message : List UInt8) : Prop where
  fed : Fed s (array message)
  total : s.total = message.length

/-- A message that is short enough to be counted grows by a piece. -/
theorem Absorbed.feed {s : SHA256} {message : List UInt8} (hs : Absorbed s message) (piece : Piece)
    (hlength : (message ++ piece.bytes).length < 2 ^ 53) :
    Absorbed (piece.feed s) (message ++ piece.bytes) := by
  rw [List.length_append] at hlength
  rw [Piece.feed_eq]
  constructor
  · rw [array_append]
    exact (hs.fed.counted _).foldl_push _
  · rw [total_foldl_push, hs.total, JSInteger.add_of_lt (by omega), List.length_append,
      Int.natCast_add]

/-- **A sequence of pieces is absorbed as the message that they join to.** -/
theorem Absorbed.foldl_feed {s : SHA256} {message : List UInt8} (hs : Absorbed s message)
    (pieces : List Piece) (hlength : (message ++ pieces.flatMap Piece.bytes).length < 2 ^ 53) :
    Absorbed (pieces.foldl Piece.feed s) (message ++ pieces.flatMap Piece.bytes) := by
  induction pieces generalizing s message with
  | nil => rwa [List.flatMap_nil, List.append_nil]
  | cons piece pieces ih =>
      rw [List.flatMap_cons, ← List.append_assoc] at hlength ⊢
      -- what is joined so far is not longer than the message
      have hsofar : (message ++ piece.bytes).length < 2 ^ 53 := by
        rw [List.length_append] at hlength
        omega
      exact ih (hs.feed piece hsofar) hlength

/-- The arguments of `digest` are pieces as well. -/
theorem digest_arguments (s : SHA256) (arguments : List (List UInt8)) :
    s.digest (arguments.map array) = ((arguments.map Piece.update).foldl Piece.feed s).digest [] := by
  have hfold : (arguments.map array).foldl (fun s bytes => s.update bytes 0) s =
      (arguments.map Piece.update).foldl Piece.feed s := by
    rw [List.foldl_map, List.foldl_map]
    rfl
  rw [← hfold]
  rfl

/-! ### The digest -/

/-- A hasher that is new or has been reset. -/
inductive Restarted : SHA256 → Prop
  | constructor : Restarted reset
  | reset (s : SHA256) : Restarted s.resetUsed

theorem Restarted.absorbed {s : SHA256} (hs : Restarted s) : Absorbed s [] := by
  cases hs with
  | constructor => exact ⟨fed_reset, rfl⟩
  | reset s => exact ⟨fed_reset, rfl⟩

/-- The digest of what has been absorbed. -/
theorem Absorbed.digest {s : SHA256} {message : List UInt8} (hs : Absorbed s message)
    (hlength : message.length < 2 ^ 28 - 1024) : s.digest [] = array (Sha256.hash message) := by
  have hunits : ∀ u ∈ array message, u < 2 ^ 16 :=
    fun u hu => (array_lt message u hu).trans (by decide)
  have htotal : s.total = (array message).length := by rw [hs.total, length_array]
  rw [digest_fips hs.fed htotal hunits (by rwa [length_array]), hashedBytes_array]
  rfl

/-- **The digest is the SHA-256 of the message, whatever its pieces are.** -/
theorem digest_pieces {s : SHA256} (hs : Restarted s) (pieces : List Piece)
    (arguments : List (List UInt8))
    (hlength : (pieces.flatMap Piece.bytes ++ arguments.flatten).length < 2 ^ 27) :
    (pieces.foldl Piece.feed s).digest (arguments.map array) =
        array (Sha256.hash (pieces.flatMap Piece.bytes ++ arguments.flatten)) ∧
      ((pieces.foldl Piece.feed s).digest (arguments.map array)).length = 32 := by
  have hjoined : (pieces ++ arguments.map Piece.update).flatMap Piece.bytes =
      pieces.flatMap Piece.bytes ++ arguments.flatten := by
    rw [List.flatMap_append, List.flatMap_map]
    congr 1
    exact List.flatMap_id'
  have habsorbed := hs.absorbed.foldl_feed (pieces ++ arguments.map Piece.update)
    (by rw [hjoined, List.nil_append]; omega)
  rw [List.nil_append, hjoined, List.foldl_append] at habsorbed
  have hdigest := habsorbed.digest (by omega)
  rw [digest_arguments, hdigest, length_array]
  exact ⟨rfl, Sha256.length_hash _⟩

/-- A message of 150 bytes in five pieces, for a hasher that was used before: two blocks are full before
the last piece. -/
theorem digest_pieces_blocks :
    ([Piece.update (List.replicate 60 0x61),
          .updatePart (List.replicate 50 0x62) 40 (by decide) (by decide),
          .updateRange (0 :: List.replicate 40 0x63) 1 41 (by decide) (by decide)].foldl Piece.feed
        (reset.push 0xff).resetUsed).digest [array [], array (List.replicate 10 0x64)] =
        array (Sha256.hash (List.replicate 60 0x61 ++ (List.replicate 40 0x62 ++
          (List.replicate 40 0x63 ++ List.replicate 10 0x64)))) ∧
      (([Piece.update (List.replicate 60 0x61),
          .updatePart (List.replicate 50 0x62) 40 (by decide) (by decide),
          .updateRange (0 :: List.replicate 40 0x63) 1 41 (by decide) (by decide)].foldl Piece.feed
        (reset.push 0xff).resetUsed).digest [array [], array (List.replicate 10 0x64)]).length = 32 :=
  digest_pieces (.reset _) [Piece.update (List.replicate 60 0x61),
    .updatePart (List.replicate 50 0x62) 40 (by decide) (by decide),
    .updateRange (0 :: List.replicate 40 0x63) 1 41 (by decide) (by decide)]
    [[], List.replicate 10 0x64] (by decide +kernel)

end SHA256

end U2F
