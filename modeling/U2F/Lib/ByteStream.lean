/-
**Reading and writing binary messages.**

A message is read from an input stream that is a list of bytes: each read returns a value and
leaves the rest, or fails with the error that stands for the end of the stream.  Integers are
written with the high byte first.

Main definitions:

* `ByteStream` — the readers; `ByteStream.readByte`, `ByteStream.readFully`,
  `ByteStream.readInt`, `ByteStream.available`;
* `putInt`, `putShort` — a 32-bit and a 16-bit integer, high byte first;
* `ByteStream.Throws` — the errors that a reader can fail with.

Main results:

* `ByteStream.readFully_append`, `ByteStream.readInt_putInt` — what has been written is read back;
* `ByteStream.run_bind_eq_ok_iff` — a successful read is a chain of successful reads;
* `ByteStream.run_readFully_eq_ok_iff`, `ByteStream.run_readInt_eq_ok_iff`, … — a successful read
  takes the bytes of its value, and nothing else, from the stream.
-/

import Mathlib.Data.Nat.Notation
import U2F.Lib.Call

set_option relaxedAutoImplicit false
set_option autoImplicit false

/-- A reader of an input stream, failing with an `ε`. -/
abbrev ByteStream (ε : Type) := StateT (List UInt8) (Except ε)

/-- A 32-bit integer, high byte first. -/
def putInt (i : Int32) : List UInt8 :=
  [(i.toUInt32 >>> 24).toUInt8, (i.toUInt32 >>> 16).toUInt8, (i.toUInt32 >>> 8).toUInt8,
    i.toUInt32.toUInt8]

/-- The integer of four bytes, high byte first. -/
def getInt (b₁ b₂ b₃ b₄ : UInt8) : Int32 :=
  ((b₁.toUInt32 <<< 24) + (b₂.toUInt32 <<< 16) + (b₃.toUInt32 <<< 8) + b₄.toUInt32).toInt32

theorem getInt_putInt (i : Int32) :
    getInt (i.toUInt32 >>> 24).toUInt8 (i.toUInt32 >>> 16).toUInt8 (i.toUInt32 >>> 8).toUInt8
      i.toUInt32.toUInt8 = i := by
  have h : i.toUInt32.toNat < 2 ^ 32 := UInt32.toNat_lt_size _
  refine (congrArg UInt32.toInt32 (UInt32.toNat_inj.1 ?_)).trans (Int32.toInt32_toUInt32 i)
  simp [Nat.shiftRight_eq_div_pow, Nat.shiftLeft_eq]
  omega

theorem putInt_getInt (b₁ b₂ b₃ b₄ : UInt8) : putInt (getInt b₁ b₂ b₃ b₄) = [b₁, b₂, b₃, b₄] := by
  have h₁ : b₁.toNat < 256 := b₁.toNat_lt_size
  have h₂ : b₂.toNat < 256 := b₂.toNat_lt_size
  have h₃ : b₃.toNat < 256 := b₃.toNat_lt_size
  have h₄ : b₄.toNat < 256 := b₄.toNat_lt_size
  have hvalue : (getInt b₁ b₂ b₃ b₄).toUInt32.toNat =
      b₁.toNat * 16777216 + b₂.toNat * 65536 + b₃.toNat * 256 + b₄.toNat := by
    simp only [getInt, UInt32.toUInt32_toInt32, UInt32.toNat_add, UInt32.toNat_shiftLeft,
      UInt8.toNat_toUInt32, Nat.shiftLeft_eq, UInt32.reduceToNat, Nat.reduceMod, Nat.reducePow]
    omega
  -- each byte is read off the number
  simp only [putInt, List.cons.injEq, and_true, ← UInt8.toNat_inj, UInt32.toNat_toUInt8,
    UInt32.toNat_shiftRight, Nat.shiftRight_eq_div_pow, UInt32.reduceToNat, Nat.reduceMod,
    Nat.reducePow, hvalue]
  omega

/-- The low 16 bits of a number, high byte first. -/
def putShort (n : ℕ) : List UInt8 := [UInt8.ofNat (n / 256), UInt8.ofNat n]

namespace ByteStream

variable {ε α β : Type} (eof : ε)

/-- One byte. -/
def readByte : ByteStream ε UInt8
  | [] => .error eof
  | b :: bs => .ok (b, bs)

/-- One byte, as a number. -/
def readUnsignedByte : ByteStream ε ℕ := UInt8.toNat <$> readByte eof

/-- Two bytes, as a number. -/
def readUnsignedShort : ByteStream ε ℕ := do
  let b₁ ← readUnsignedByte eof
  let b₂ ← readUnsignedByte eof
  return b₁ * 256 + b₂

/-- Exactly `n` bytes. -/
def readFully (n : ℕ) : ByteStream ε (List UInt8) := fun bs =>
  if n ≤ bs.length then .ok (bs.take n, bs.drop n) else .error eof

/-- Four bytes, as an integer. -/
def readInt : ByteStream ε Int32 := do
  let b₁ ← readByte eof
  let b₂ ← readByte eof
  let b₃ ← readByte eof
  let b₄ ← readByte eof
  return getInt b₁ b₂ b₃ b₄

/-- The number of bytes left. -/
def available : ByteStream ε ℕ := fun bs => .ok (bs.length, bs)

/-! ### What has been written is read back -/

@[simp] theorem readByte_cons (b : UInt8) (bs : List UInt8) :
    (readByte eof).run (b :: bs) = .ok (b, bs) := rfl

@[simp] theorem readUnsignedByte_cons (b : UInt8) (bs : List UInt8) :
    (readUnsignedByte eof).run (b :: bs) = .ok (b.toNat, bs) := rfl

theorem readFully_append {n : ℕ} {xs : List UInt8} (h : xs.length = n) (bs : List UInt8) :
    (readFully eof n).run (xs ++ bs) = .ok (xs, bs) := by
  subst h
  simp [readFully, StateT.run]

theorem readFully_all (bs : List UInt8) :
    (readFully eof bs.length).run bs = .ok (bs, []) := by
  simpa using readFully_append eof (rfl : bs.length = _) []

@[simp] theorem readInt_putInt (i : Int32) (bs : List UInt8) :
    (readInt eof).run (putInt i ++ bs) = .ok (i, bs) :=
  congrArg (fun j => Except.ok (j, bs)) (getInt_putInt i)

@[simp] theorem available_run (bs : List UInt8) :
    (available : ByteStream ε ℕ).run bs = .ok (bs.length, bs) := rfl

@[simp] theorem throwIf_run {c : Prop} [Decidable c] (h : ¬ c) (e : ε) (bs : List UInt8) :
    (throwIf c e : ByteStream ε Unit).run bs = .ok ((), bs) := by
  rw [throwIf, if_neg h]
  rfl

/-! ### A successful read -/

theorem run_bind_eq_ok_iff {x : ByteStream ε α} {f : α → ByteStream ε β} {bs cs : List UInt8}
    {b : β} : (x >>= f).run bs = .ok (b, cs) ↔
      ∃ a ds, x.run bs = .ok (a, ds) ∧ (f a).run ds = .ok (b, cs) := by
  rw [StateT.run_bind, Except.bind_eq_ok_iff]
  exact ⟨fun ⟨⟨a, ds⟩, h⟩ => ⟨a, ds, h⟩, fun ⟨a, ds, h⟩ => ⟨(a, ds), h⟩⟩

section
variable {bs cs : List UInt8}

theorem run_pure_eq_ok_iff {a b : α} :
    (pure a : ByteStream ε α).run bs = .ok (b, cs) ↔ a = b ∧ bs = cs := by
  rw [StateT.run_pure]
  exact ⟨fun h => Prod.mk.inj (Except.ok.inj h), fun h => by rw [h.1, h.2]; rfl⟩

theorem run_map_eq_ok_iff {x : ByteStream ε α} {f : α → β} {b : β} :
    (f <$> x).run bs = .ok (b, cs) ↔ ∃ a, x.run bs = .ok (a, cs) ∧ f a = b := by
  rw [map_eq_pure_bind, run_bind_eq_ok_iff]
  simp only [run_pure_eq_ok_iff]
  constructor
  · rintro ⟨a, ds, hx, rfl, rfl⟩
    exact ⟨a, hx, rfl⟩
  · rintro ⟨a, hx, rfl⟩
    exact ⟨a, cs, hx, rfl, rfl⟩

theorem run_lift_eq_ok_iff {x : Except ε α} {a : α} :
    (liftM x : ByteStream ε α).run bs = .ok (a, cs) ↔ x = .ok a ∧ bs = cs := by
  cases x with
  | error e => exact ⟨nofun, nofun⟩
  | ok b => exact run_pure_eq_ok_iff.trans (by rw [Except.ok.injEq])

theorem run_throwIf_eq_ok_iff {c : Prop} [Decidable c] {e : ε} {u : Unit} :
    (throwIf c e : ByteStream ε Unit).run bs = .ok (u, cs) ↔ ¬ c ∧ bs = cs := by
  by_cases h : c
  · rw [throwIf, if_pos h]
    refine iff_of_false ?_ fun hr => hr.1 h
    intro hr
    cases hr
  · rw [throwIf_run h]
    simp [h]

theorem run_available_eq_ok_iff {n : ℕ} :
    (available : ByteStream ε ℕ).run bs = .ok (n, cs) ↔ bs.length = n ∧ bs = cs := by
  simp

theorem run_readByte_eq_ok_iff {b : UInt8} :
    (readByte eof).run bs = .ok (b, cs) ↔ bs = b :: cs := by
  cases bs with
  | nil => exact ⟨nofun, nofun⟩
  | cons c bs => simp

theorem run_readUnsignedByte_eq_ok_iff {n : ℕ} :
    (readUnsignedByte eof).run bs = .ok (n, cs) ↔ n ≤ 255 ∧ bs = UInt8.ofNat n :: cs := by
  cases bs with
  | nil => exact ⟨nofun, nofun⟩
  | cons c bs =>
    rw [readUnsignedByte_cons, Except.ok.injEq, Prod.mk.injEq, List.cons.injEq]
    have hc : c.toNat < 256 := UInt8.toNat_lt_size c
    constructor
    · rintro ⟨rfl, rfl⟩
      exact ⟨by omega, (UInt8.ofNat_toNat).symm, rfl⟩
    · rintro ⟨hn, rfl, rfl⟩
      exact ⟨UInt8.toNat_ofNat_of_lt (Nat.lt_succ_of_le hn), rfl⟩

theorem run_readUnsignedShort_eq_ok_iff {n : ℕ} :
    (readUnsignedShort eof).run bs = .ok (n, cs) ↔ n ≤ 65535 ∧ bs = putShort n ++ cs := by
  simp only [readUnsignedShort, run_bind_eq_ok_iff, run_readUnsignedByte_eq_ok_iff,
    run_pure_eq_ok_iff]
  constructor
  · rintro ⟨high, _, ⟨hhigh, rfl⟩, low, _, ⟨hlow, rfl⟩, rfl, rfl⟩
    have hdiv : (high * 256 + low) / 256 = high := by omega
    have hmod : UInt8.ofNat (high * 256 + low) = UInt8.ofNat low := UInt8.toNat_inj.1 (by simp)
    exact ⟨by omega, by rw [putShort, hdiv, hmod]; rfl⟩
  · rintro ⟨hn, rfl⟩
    have hmod : UInt8.ofNat n = UInt8.ofNat (n % 256) := UInt8.toNat_inj.1 (by simp)
    exact ⟨n / 256, _, ⟨by omega, rfl⟩, n % 256, _, ⟨by omega, by rw [hmod]; rfl⟩, by omega, rfl⟩

theorem run_readFully_eq_ok_iff {n : ℕ} {xs : List UInt8} :
    (readFully eof n).run bs = .ok (xs, cs) ↔ xs.length = n ∧ bs = xs ++ cs := by
  constructor
  · intro h
    dsimp only [readFully, StateT.run] at h
    by_cases hn : n ≤ bs.length
    · rw [if_pos hn] at h
      obtain ⟨rfl, rfl⟩ := Prod.mk.inj (Except.ok.inj h)
      exact ⟨List.length_take_of_le hn, (List.take_append_drop n bs).symm⟩
    · rw [if_neg hn] at h
      nomatch h
  · rintro ⟨hlen, rfl⟩
    exact readFully_append eof hlen cs

theorem run_readInt_eq_ok_iff {i : Int32} :
    (readInt eof).run bs = .ok (i, cs) ↔ bs = putInt i ++ cs := by
  constructor
  · simp only [readInt, run_bind_eq_ok_iff, run_readByte_eq_ok_iff, run_pure_eq_ok_iff]
    rintro ⟨b₁, _, rfl, b₂, _, rfl, b₃, _, rfl, b₄, _, rfl, rfl, rfl⟩
    rw [putInt_getInt]
    rfl
  · rintro rfl
    exact readInt_putInt eof i cs

end

/-! ### A failing read -/

/-- Such are the errors the reader fails with. -/
def Throws (p : ε → Prop) (x : ByteStream ε α) : Prop := ∀ bs e, x.run bs = .error e → p e

section
variable {p : ε → Prop} {eof}

theorem Throws.bind {x : ByteStream ε α} {f : α → ByteStream ε β} (hx : Throws p x)
    (hf : ∀ a, Throws p (f a)) : Throws p (x >>= f) := by
  intro bs e h
  rw [StateT.run_bind] at h
  rcases hr : x.run bs with e' | ⟨a, cs⟩ <;> rw [hr] at h
  · obtain rfl := Except.error.inj h
    exact hx bs _ hr
  · exact hf a cs e h

theorem throws_pure (a : α) : Throws p (pure a : ByteStream ε α) := fun _ _ h => nomatch h

theorem Throws.map {x : ByteStream ε α} (hx : Throws p x) (f : α → β) : Throws p (f <$> x) := by
  rw [map_eq_pure_bind]
  exact hx.bind fun _ => throws_pure _

theorem throws_lift {x : Except ε α} (hx : ∀ e, x = .error e → p e) :
    Throws p (liftM x : ByteStream ε α) := by
  intro bs e h
  cases x with
  | error e' => exact hx e (congrArg Except.error (Except.error.inj h))
  | ok a => nomatch h

theorem throws_throwIf {c : Prop} [Decidable c] {e : ε} (he : p e) :
    Throws p (throwIf c e : ByteStream ε Unit) := by
  intro bs e' h
  by_cases hc : c
  · rw [throwIf, if_pos hc] at h
    obtain rfl := Except.error.inj h
    exact he
  · rw [throwIf_run hc] at h
    cases h

theorem throws_available : Throws p (available : ByteStream ε ℕ) := fun _ _ h => nomatch h

theorem throws_readByte (he : p eof) : Throws p (readByte eof) := by
  rintro (_ | ⟨b, bs⟩) e h
  · obtain rfl := Except.error.inj h
    exact he
  · nomatch h

theorem throws_readUnsignedByte (he : p eof) : Throws p (readUnsignedByte eof) := by
  rintro (_ | ⟨b, bs⟩) e h
  · obtain rfl := Except.error.inj h
    exact he
  · nomatch h

theorem throws_readFully (he : p eof) (n : ℕ) : Throws p (readFully eof n) := by
  intro bs e h
  dsimp only [readFully, StateT.run] at h
  split at h
  · nomatch h
  · obtain rfl := Except.error.inj h
    exact he

theorem throws_readInt (he : p eof) : Throws p (readInt eof) :=
  (throws_readByte he).bind fun _ => (throws_readByte he).bind fun _ =>
    (throws_readByte he).bind fun _ => (throws_readByte he).bind fun _ => throws_pure _

end

end ByteStream
