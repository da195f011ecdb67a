/-
**Command APDUs.**

ISO 7816-4: a command has a header of four bytes, then the length of its data, its data, and the
length of the answer that is expected.  In the extended encoding a length has two bytes, and a zero
byte before the first one says so.  A command without data leaves its length out, and one that
expects no answer leaves out the other.  Data that are longer than a command can carry are sent in
a chain of commands: a bit in the class byte says that another one follows.

Main definitions:

* `CommandApdu` — a command;
* `CommandApdu.parseShort`, `CommandApdu.parseExtended` — the command that a byte string is, if it
  is one of short or of extended length;
* `CommandApdu.encodeExtended` — the byte string of extended length that a command is;
* `CommandApdu.IsChain` — commands that carry data as a chain.

Main results:

* `CommandApdu.parseExtended_data_iff` — a byte string with room for both lengths is the command with
  the data between them exactly if the first length is that of the data;
* `CommandApdu.parseShort_data` — the same with lengths of one byte;
* `CommandApdu.isChain_singleton_iff` — a chain of one command.
-/

import Mathlib.Data.List.Basic

set_option relaxedAutoImplicit false
set_option autoImplicit false

/-- A command, with the number of bytes that its answer may have. -/
structure CommandApdu where
  cla : UInt8
  ins : UInt8
  p1 : UInt8
  p2 : UInt8
  data : List UInt8
  ne : ℕ
  deriving DecidableEq

namespace CommandApdu

/-- A length of two bytes. -/
def extendedLength (hi lo : UInt8) : ℕ := hi.toNat * 256 + lo.toNat

/-- The length of an answer, of which zero is the largest. -/
def answerLength (hi lo : UInt8) : ℕ :=
  if extendedLength hi lo = 0 then 65536 else extendedLength hi lo

/-- What follows the length of the data: the data, and the length of the answer if there is one. -/
def parseData (lc : ℕ) (rest : List UInt8) : Option (List UInt8 × ℕ) :=
  if lc = 0 then none
  else if rest.length = lc then some (rest, 0)
  else if rest.length = lc + 2 then
    some (rest.take lc, answerLength (rest.getD lc 0) (rest.getD (lc + 1) 0))
  else none

/-- What follows the header of a command of extended length. -/
def parseBody : List UInt8 → Option (List UInt8 × ℕ)
  | [0, hi, lo] => some ([], answerLength hi lo)
  | 0 :: hi :: lo :: rest => parseData (extendedLength hi lo) rest
  | _ => none

/-- The command of extended length that a byte string is. -/
def parseExtended : List UInt8 → Option CommandApdu
  | cla :: ins :: p1 :: p2 :: body =>
      (parseBody body).map fun (data, ne) => ⟨cla, ins, p1, p2, data, ne⟩
  | _ => none

/-- The byte string of extended length that a command is, if it expects an answer. -/
def encodeExtended (command : CommandApdu) : List UInt8 :=
  [command.cla, command.ins, command.p1, command.p2] ++
    (if command.data = [] then [0]
      else [0, UInt8.ofNat (command.data.length / 256), UInt8.ofNat command.data.length] ++
        command.data) ++
    [UInt8.ofNat (command.ne / 256), UInt8.ofNat command.ne]

/-- The data between the two lengths is read exactly if the first length is that of the data. -/
theorem parseData_iff {lc : ℕ} {data : List UInt8} (hdata : data ≠ []) (hi lo : UInt8) :
    (∃ ne, parseData lc (data ++ [hi, lo]) = some (data, ne)) ↔ lc = data.length := by
  have hpos : 0 < data.length := List.length_pos_of_ne_nil hdata
  unfold parseData
  constructor
  · rintro ⟨ne, h⟩
    split at h
    · cases h
    split at h
    · -- what follows would be data altogether
      have hlong := congrArg (fun p => p.1.length) (Option.some_inj.1 h)
      simp at hlong
    split at h
    · rename_i hlength
      simp at hlength
      omega
    · cases h
  · rintro rfl
    exact ⟨answerLength hi lo, by simp [Nat.pos_iff_ne_zero.1 hpos]⟩

/-- **A byte string with room for both lengths is the command with the data between them exactly if
the first length is that of the data.** -/
theorem parseExtended_data_iff (cla ins p1 p2 hi lo hi' lo' : UInt8) {data : List UInt8}
    (hdata : data ≠ []) :
    (∃ apdu, parseExtended (cla :: ins :: p1 :: p2 :: 0 :: hi :: lo :: (data ++ [hi', lo'])) =
        some apdu ∧ apdu.data = data) ↔ extendedLength hi lo = data.length := by
  have hbody : parseBody (0 :: hi :: lo :: (data ++ [hi', lo'])) =
      parseData (extendedLength hi lo) (data ++ [hi', lo']) := by
    cases data with
    | nil => exact absurd rfl hdata
    | cons b data => rfl
  rw [← parseData_iff hdata hi' lo', parseExtended, hbody]
  constructor
  · rintro ⟨apdu, hparse, happdu⟩
    obtain ⟨⟨data', ne⟩, hdata', rfl⟩ := Option.map_eq_some_iff.1 hparse
    exact ⟨ne, by rw [hdata', ← happdu]⟩
  · rintro ⟨ne, hdata'⟩
    exact ⟨⟨cla, ins, p1, p2, data, ne⟩, by rw [hdata']; rfl, rfl⟩

/-! ### Commands of short length -/

/-- What follows the header of a command of short length. -/
def parseShortBody : List UInt8 → Option (List UInt8 × ℕ)
  | [] => some ([], 0)
  | [le] => some ([], if le = 0 then 256 else le.toNat)
  | lc :: rest =>
      if lc = 0 then none
      else if rest.length = lc.toNat then some (rest, 0)
      else if rest.length = lc.toNat + 1 then
        some (rest.take lc.toNat,
          if rest.getD lc.toNat 0 = 0 then 256 else (rest.getD lc.toNat 0).toNat)
      else none

/-- The command of short length that a byte string is. -/
def parseShort : List UInt8 → Option CommandApdu
  | cla :: ins :: p1 :: p2 :: body =>
      (parseShortBody body).map fun (data, ne) => ⟨cla, ins, p1, p2, data, ne⟩
  | _ => none

/-- Data between their length and that of the answer. -/
theorem parseShort_data (cla ins p1 p2 lc le : UInt8) {data : List UInt8} (hdata : data ≠ [])
    (hlc : lc.toNat = data.length) :
    ∃ ne, parseShort (cla :: ins :: p1 :: p2 :: lc :: (data ++ [le])) =
      some ⟨cla, ins, p1, p2, data, ne⟩ := by
  have hpos : 0 < data.length := List.length_pos_of_ne_nil hdata
  have hne : lc ≠ 0 := fun hzero => by
    have hnull : (0 : UInt8).toNat = 0 := rfl
    rw [hzero] at hlc
    omega
  have hbody : ∃ ne, parseShortBody (lc :: (data ++ [le])) = some (data, ne) := by
    cases data with
    | nil => exact absurd rfl hdata
    | cons b data =>
        have hlong : ((b :: data) ++ [le]).length = lc.toNat + 1 := by
          rw [List.length_append, hlc, List.length_singleton]
        rw [List.cons_append, parseShortBody, if_neg hne, ← List.cons_append, if_neg (by omega),
          if_pos hlong, List.take_left' hlc.symm]
        · exact ⟨_, rfl⟩
        · exact fun h => by cases h
  obtain ⟨ne, hne⟩ := hbody
  exact ⟨ne, by rw [parseShort, hne]; rfl⟩

/-! ### Chains -/

/-- Another command of the chain follows. -/
def IsChained (command : CommandApdu) : Prop := command.cla &&& 0x10 ≠ 0

/-- The commands carry the data in blocks of some size, as one chain. -/
structure IsChain (blockSize : ℕ) (data : List UInt8) (commands : List CommandApdu) : Prop where
  blocks : ∀ command ∈ commands, command.data.length ≤ blockSize
  carries : commands.flatMap CommandApdu.data = data
  chained : ∃ front last, commands = front ++ [last] ∧
    (∀ command ∈ front, command.IsChained) ∧ ¬ last.IsChained

/-- A chain of one command. -/
theorem isChain_singleton_iff {blockSize : ℕ} {data : List UInt8} {command : CommandApdu} :
    IsChain blockSize data [command] ↔
      command.data.length ≤ blockSize ∧ command.data = data ∧ ¬ command.IsChained := by
  constructor
  · rintro ⟨hblocks, hcarries, front, last, hsplit, -, hlast⟩
    rw [← List.nil_append [command]] at hsplit
    obtain rfl := List.singleton_inj.1 (List.append_inj' hsplit rfl).2
    exact ⟨hblocks command List.mem_cons_self, by simpa using hcarries, hlast⟩
  · rintro ⟨hblocks, rfl, hlast⟩
    exact ⟨by simpa using hblocks, by simp, [], command, rfl, by simp, hlast⟩

end CommandApdu
