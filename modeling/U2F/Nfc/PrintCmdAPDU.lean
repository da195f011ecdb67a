/-
**The log of the commands (`printCmdAPDU`).**

With logging on, each command is printed before it is sent.  Seven tests of its length decide its
case, which says how many bytes of data it has and where they are; then these are printed, with a
counter of one byte.

Main definitions:

* `classify` — the tests, with the bytes that they read;
* `printData` — the loop that prints the data;
* `printCmdAPDU` — the function;
* `PrintsSafely` — it returns, has found the data of the command, and has read no byte behind it.

Main results:

* `printData_ends`, `printData_never_ends` — the loop ends exactly for less than 256 bytes;
* `printsSafely_five`, `printsSafely_short`, `printsSafely_extended_iff` — the commands;
* `printsSafely_iff` — **short commands are printed safely exactly if they have no data, or blocks
  whose length is a byte above zero; extended ones exactly if they have less than 256 bytes**.
-/

import U2F.Lib.Reads
import U2F.Nfc.OutputChaining

set_option relaxedAutoImplicit false
set_option autoImplicit false

namespace Nfc

open Reads

/-! ### The function -/

/-- What is printed for the case. -/
inductive Case
  | case1
  | case2S
  | case3S
  | case4S
  | case2Extended
  | case3Extended
  | case4Extended
  deriving DecidableEq

/-- The local variables.  They have no values of their own at first. -/
structure Locals where
  Lc : ℕ
  Le : ℕ
  DataOffset : ℕ
  deriving DecidableEq

section

variable (apduin : ℕ → UInt8) (lenin : ℕ)

/-- `(lenin == (k + apduin[4])) && (apduin[4] != 0)` -/
def isShort (k : ℕ) : Reads Bool := do
  if lenin = k + (← read apduin 4).toNat then return (← read apduin 4) ≠ 0
  else return false

/-- `apduin[5]*256 + apduin[6]` -/
def extendedLength : Reads ℕ := do
  return (← read apduin 5).toNat * 256 + (← read apduin 6).toNat

/-- `(lenin == 7u) && (apduin[4] == 0)` -/
def isEmptyExtended : Reads Bool := do
  if lenin = 7 then return (← read apduin 4) = 0
  else return false

/-- `(lenin == k + (apduin[5]*256 + apduin[6])) && (apduin[4] == 0)` -/
def isExtended (k : ℕ) : Reads Bool := do
  if lenin = k + (← extendedLength apduin) then return (← read apduin 4) = 0
  else return false

/-- The case of the command, if one of the tests succeeds. -/
def classify (locals : Locals) : Reads (Option Case × Locals) := do
  if lenin = 4 then
    return (some .case1, ⟨0, 0, 0⟩)
  else if lenin = 5 then
    return (some .case2S, ⟨0, (← read apduin 4).toNat, 0⟩)
  else if ← isShort apduin lenin 5 then
    return (some .case3S, ⟨(← read apduin 4).toNat, 0, 5⟩)
  else if ← isShort apduin lenin 6 then
    return (some .case4S, ⟨(← read apduin 4).toNat, (← read apduin (lenin - 1)).toNat, 5⟩)
  else if ← isEmptyExtended apduin lenin then
    return (some .case2Extended, ⟨0, ← extendedLength apduin, 0⟩)
  else if ← isExtended apduin lenin 7 then
    return (some .case3Extended, ⟨← extendedLength apduin, 0, 7⟩)
  else if ← isExtended apduin lenin 9 then
    return (some .case4Extended, ⟨← extendedLength apduin,
      256 * (← read apduin (lenin - 2)).toNat + (← read apduin (lenin - 1)).toNat, 7⟩)
  else
    return (none, locals)

/-- The loop, from a value of its counter on: the bytes that it prints, if it ends in so many passes.
The counter is a byte, and `Lc` is not. -/
def printData (locals : Locals) : ℕ → UInt8 → Reads (Option (List UInt8))
  | 0, _ => return none
  | fuel + 1, i => do
      if i.toNat < locals.Lc then
        let byte ← read apduin (i.toNat + locals.DataOffset)
        let bytes ← printData locals fuel (i + 1)
        return bytes.map (byte :: ·)
      else return some []

/-- What is printed. -/
structure Report where
  case : Option Case
  locals : Locals
  header : List UInt8
  data : Option (List UInt8)

def printCmdAPDU (log_Apdu : Bool) (locals : Locals) (fuel : ℕ) : Reads (Option Report) := do
  if log_Apdu then
    let (case, locals) ← classify apduin lenin locals
    let cla ← read apduin 0
    let ins ← read apduin 1
    let p1 ← read apduin 2
    let p2 ← read apduin 3
    let data ← printData apduin locals fuel 0
    return some ⟨case, locals, [cla, ins, p1, p2], data⟩
  else return none

end

/-! ### The tests -/

section

variable {apduin : ℕ → UInt8} {lenin n k : ℕ} {locals : Locals}

theorem value_isShort_iff :
    (isShort apduin lenin k).value = true ↔ lenin = k + (apduin 4).toNat ∧ apduin 4 ≠ 0 := by
  rw [isShort, value_bind, value_ite_iff]
  exact and_congr_right fun _ => decide_eq_true_iff

theorem value_isShort_of_zero (h : apduin 4 = 0) : (isShort apduin lenin k).value = false :=
  Bool.eq_false_iff.2 fun hshort => (value_isShort_iff.1 hshort).2 h

theorem within_isShort (h : 4 < n) : (isShort apduin lenin k).Within n :=
  within_bind_iff.2 ⟨within_read_iff.2 h,
    within_ite (within_bind_iff.2 ⟨within_read_iff.2 h, within_pure n _⟩)⟩

@[simp] theorem value_extendedLength :
    (extendedLength apduin).value = (apduin 5).toNat * 256 + (apduin 6).toNat := rfl

theorem within_extendedLength (h : 6 < n) : (extendedLength apduin).Within n := by
  simp only [extendedLength, within_bind_iff, within_read_iff, within_pure, and_true]
  omega

theorem value_isEmptyExtended_iff :
    (isEmptyExtended apduin lenin).value = true ↔ lenin = 7 ∧ apduin 4 = 0 := by
  rw [isEmptyExtended, value_ite_iff]
  exact and_congr_right fun _ => decide_eq_true_iff

theorem within_isEmptyExtended (h : 4 < n) : (isEmptyExtended apduin lenin).Within n :=
  within_ite (within_bind_iff.2 ⟨within_read_iff.2 h, within_pure n _⟩)

theorem value_isExtended_iff :
    (isExtended apduin lenin k).value = true ↔
      lenin = k + ((apduin 5).toNat * 256 + (apduin 6).toNat) ∧ apduin 4 = 0 := by
  rw [isExtended, value_bind, value_ite_iff]
  exact and_congr_right fun _ => decide_eq_true_iff

theorem within_isExtended (h : 6 < n) : (isExtended apduin lenin k).Within n :=
  within_bind_iff.2 ⟨within_extendedLength h,
    within_ite (within_bind_iff.2 ⟨within_read_iff.2 (by omega), within_pure n _⟩)⟩

/-- A command of 5 bytes has no data. -/
theorem classify_five : (classify apduin 5 locals).value =
      (some .case2S, ⟨0, (apduin 4).toNat, 0⟩) ∧
    (classify apduin 5 locals).Within 5 := by
  constructor
  · rfl
  · exact within_bind_iff.2 ⟨within_read_iff.2 (by decide), within_pure 5 _⟩

/-- A short command with data, and with the length of its answer. -/
theorem classify_short (locals : Locals) (h : apduin 4 ≠ 0) (hlenin : lenin = 6 + (apduin 4).toNat) :
    (classify apduin lenin locals).value =
        (some .case4S, ⟨(apduin 4).toNat, (apduin (lenin - 1)).toNat, 5⟩) ∧
      (classify apduin lenin locals).Within lenin := by
  have hfour : ¬ lenin = 4 := by omega
  have hfive : ¬ lenin = 5 := by omega
  have hthird : (isShort apduin lenin 5).value = false := by
    rw [Bool.eq_false_iff, ne_eq, value_isShort_iff]
    omega
  have hfourth : (isShort apduin lenin 6).value = true := value_isShort_iff.2 ⟨hlenin, h⟩
  rw [classify, if_neg hfour, if_neg hfive]
  constructor
  · simp only [value_bind, hthird, hfourth, Bool.false_eq_true, if_false, if_true, value_read,
      value_pure]
  · simp only [within_bind_iff, hthird, hfourth, Bool.false_eq_true, if_false, if_true,
      within_read_iff, within_pure, and_true]
    exact ⟨within_isShort (by omega), within_isShort (by omega), by omega, by omega⟩

/-- The command that a count of zero makes is none of the cases. -/
theorem classify_six (h : apduin 4 = 0) :
    (classify apduin 6 locals).value = (none, locals) := by
  have hempty : (isEmptyExtended apduin 6).value = false := by
    rw [Bool.eq_false_iff, ne_eq, value_isEmptyExtended_iff]
    omega
  have hextended {k : ℕ} (hk : 6 < k) : (isExtended apduin 6 k).value = false := by
    rw [Bool.eq_false_iff, ne_eq, value_isExtended_iff]
    omega
  rw [classify, if_neg (by decide), if_neg (by decide)]
  simp only [value_bind, value_isShort_of_zero h, hempty, hextended (by decide : 6 < 7),
    hextended (by decide : 6 < 9), Bool.false_eq_true, if_false, value_pure]

/-- An extended command without data. -/
theorem classify_seven (locals : Locals) (h : apduin 4 = 0) :
    (classify apduin 7 locals).value =
        (some .case2Extended, ⟨0, (apduin 5).toNat * 256 + (apduin 6).toNat, 0⟩) ∧
      (classify apduin 7 locals).Within 7 := by
  have hempty : (isEmptyExtended apduin 7).value = true := value_isEmptyExtended_iff.2 ⟨rfl, h⟩
  rw [classify, if_neg (by decide), if_neg (by decide)]
  constructor
  · simp only [value_bind, value_isShort_of_zero h, hempty, Bool.false_eq_true, if_false, if_true,
      value_extendedLength, value_pure]
  · simp only [within_bind_iff, value_isShort_of_zero h, hempty, Bool.false_eq_true, if_false,
      if_true, within_pure, and_true]
    exact ⟨within_isShort (by decide), within_isShort (by decide),
      within_isEmptyExtended (by decide), within_extendedLength (by decide)⟩

/-- An extended command with data. -/
theorem classify_extended (locals : Locals) (h : apduin 4 = 0) (hpos : 0 < k)
    (hk : (apduin 5).toNat * 256 + (apduin 6).toNat = k) (hlenin : lenin = k + 9) :
    (classify apduin lenin locals).value = (some .case4Extended,
        ⟨k, 256 * (apduin (lenin - 2)).toNat + (apduin (lenin - 1)).toNat, 7⟩) ∧
      (classify apduin lenin locals).Within lenin := by
  have hfour : ¬ lenin = 4 := by omega
  have hfive : ¬ lenin = 5 := by omega
  have hempty : (isEmptyExtended apduin lenin).value = false := by
    rw [Bool.eq_false_iff, ne_eq, value_isEmptyExtended_iff]
    omega
  have hsixth : (isExtended apduin lenin 7).value = false := by
    rw [Bool.eq_false_iff, ne_eq, value_isExtended_iff]
    omega
  have hseventh : (isExtended apduin lenin 9).value = true :=
    value_isExtended_iff.2 ⟨by omega, h⟩
  rw [classify, if_neg hfour, if_neg hfive]
  constructor
  · simp only [value_bind, value_isShort_of_zero h, hempty, hsixth, hseventh,
      Bool.false_eq_true, if_false, if_true, value_extendedLength, hk, value_read, value_pure]
  · simp only [within_bind_iff, value_isShort_of_zero h, hempty, hsixth, hseventh,
      Bool.false_eq_true, if_false, if_true, within_read_iff, within_pure, and_true]
    exact ⟨within_isShort (by omega), within_isShort (by omega),
      within_isEmptyExtended (by omega), within_isExtended (by omega),
      within_isExtended (by omega), within_extendedLength (by omega), by omega, by omega⟩

/-! ### The loop -/

/-- **With less than 256 bytes the loop ends**, and has read the bytes from the offset on. -/
theorem printData_ends (apduin : ℕ → UInt8) (hLc : locals.Lc < 256)
    (hn : locals.Lc + locals.DataOffset ≤ n) {i : UInt8} {left : ℕ}
    (hleft : i.toNat + left = locals.Lc) :
    ∃ bytes, (printData apduin locals (left + 1) i).value = some bytes ∧
      (printData apduin locals (left + 1) i).Within n := by
  induction left generalizing i with
  | zero =>
      rw [printData, if_neg (by omega)]
      exact ⟨[], rfl, within_pure n _⟩
  | succ left ih =>
      have hnext : (i + 1).toNat = i.toNat + 1 := by
        have hone : (1 : UInt8).toNat = 1 := rfl
        rw [UInt8.toNat_add, hone]
        omega
      obtain ⟨bytes, hbytes, hwithin⟩ := ih (i := i + 1) (by omega)
      rw [printData, if_pos (by omega)]
      refine ⟨apduin (i.toNat + locals.DataOffset) :: bytes, ?_, ?_⟩
      · simp only [value_bind, value_read, value_pure, hbytes, Option.map_some]
      · simp only [within_bind_iff, within_read_iff, within_pure, and_true]
        exact ⟨by omega, hwithin⟩

/-- **From 256 bytes on it does not**: the counter is always below. -/
theorem printData_never_ends (apduin : ℕ → UInt8) (hLc : 256 ≤ locals.Lc) (fuel : ℕ) (i : UInt8) :
    (printData apduin locals fuel i).value = none := by
  induction fuel generalizing i with
  | zero => rfl
  | succ fuel ih =>
      have hi : i.toNat < 256 := i.toNat_lt
      rw [printData, if_pos (by omega)]
      simp only [value_bind, value_pure, ih, Option.map_none]

end

/-! ### The commands -/

/-- With logging on, the function returns, has found the case of the command and its `n` bytes of
data, and has read only bytes of the command. -/
def PrintsSafely (locals : Locals) (command : Capdu × ℕ) (n : ℕ) : Prop :=
  ∃ fuel report case bytes,
    (printCmdAPDU command.1.get command.2 true locals fuel).value = some report ∧
      report.case = some case ∧ report.locals.Lc = n ∧ report.data = some bytes ∧
      (printCmdAPDU command.1.get command.2 true locals fuel).Within command.2

section

variable {capdu : Capdu} {len n : ℕ} {locals : Locals}

theorem value_printCmdAPDU (fuel : ℕ) :
    (printCmdAPDU capdu.get len true locals fuel).value =
      some ⟨(classify capdu.get len locals).value.1, (classify capdu.get len locals).value.2,
        [capdu.get 0, capdu.get 1, capdu.get 2, capdu.get 3],
        (printData capdu.get (classify capdu.get len locals).value.2 fuel 0).value⟩ := rfl

theorem printsSafely_of_classify {case : Case} {locals' : Locals}
    (hvalue : (classify capdu.get len locals).value = (some case, locals'))
    (hwithin : (classify capdu.get len locals).Within len) (hlen : 4 ≤ len)
    (hLc : locals'.Lc < 256) (hdata : locals'.Lc + locals'.DataOffset ≤ len) :
    PrintsSafely locals (capdu, len) locals'.Lc := by
  have hstart : (0 : UInt8).toNat + locals'.Lc = locals'.Lc := Nat.zero_add _
  obtain ⟨bytes, hbytes, hreads⟩ := printData_ends capdu.get hLc hdata hstart
  refine ⟨locals'.Lc + 1, _, case, bytes, value_printCmdAPDU _, ?_, ?_, ?_, ?_⟩
  · rw [hvalue]
  · rw [hvalue]
  · rw [hvalue, hbytes]
  · simp only [printCmdAPDU, if_true, within_bind_iff, within_read_iff, hvalue, within_pure,
      and_true]
    exact ⟨hwithin, by omega, by omega, by omega, by omega, hreads⟩

/-- A command that is printed safely has a case, and less than 256 bytes of data. -/
theorem PrintsSafely.classified (h : PrintsSafely locals (capdu, len) n) :
    (classify capdu.get len locals).value.1 ≠ none ∧
      (classify capdu.get len locals).value.2.Lc = n ∧ n < 256 := by
  obtain ⟨fuel, report, case, bytes, hreport, hcase, hLc, hdata, -⟩ := h
  rw [value_printCmdAPDU, Option.some_inj] at hreport
  subst hreport
  have hLc : (classify capdu.get len locals).value.2.Lc = n := hLc
  refine ⟨fun hnone => Option.some_ne_none _ (hcase.symm.trans hnone), hLc, ?_⟩
  by_contra hlong
  have hlong : 256 ≤ (classify capdu.get len locals).value.2.Lc := by omega
  have hnever := printData_never_ends capdu.get hlong fuel 0
  rw [hnever] at hdata
  cases hdata

/-- A command without data, whatever it is. -/
theorem printsSafely_five : PrintsSafely locals (capdu, 5) 0 :=
  printsSafely_of_classify classify_five.1 classify_five.2 (by decide) (by dsimp only; omega)
    (by dsimp only; omega)

theorem printsSafely_short (h : capdu.get 4 ≠ 0) :
    PrintsSafely locals (capdu, 6 + (capdu.get 4).toNat) (capdu.get 4).toNat := by
  have hbyte : (capdu.get 4).toNat < 256 := (capdu.get 4).toNat_lt
  obtain ⟨hvalue, hwithin⟩ := classify_short locals h rfl
  exact printsSafely_of_classify hvalue hwithin (by omega) hbyte (by dsimp only; omega)

theorem not_printsSafely_six (h : capdu.get 4 = 0) : ¬ PrintsSafely locals (capdu, 6) n := by
  intro hsafe
  exact hsafe.classified.1 (congrArg Prod.fst (classify_six h))

theorem printsSafely_seven (h : capdu.get 4 = 0) : PrintsSafely locals (capdu, 7) 0 := by
  obtain ⟨hvalue, hwithin⟩ := classify_seven locals h
  exact printsSafely_of_classify hvalue hwithin (by decide) (by dsimp only; omega)
    (by dsimp only; omega)

/-- An extended command with data is printed safely exactly if these are less than 256 bytes. -/
theorem printsSafely_extended_iff (h : capdu.get 4 = 0) (hpos : 0 < n)
    (hn : (capdu.get 5).toNat * 256 + (capdu.get 6).toNat = n) :
    PrintsSafely locals (capdu, n + 9) n ↔ n < 256 := by
  obtain ⟨hvalue, hwithin⟩ := classify_extended locals h hpos hn rfl
  constructor
  · exact fun hsafe => hsafe.classified.2.2
  · exact fun hlt => printsSafely_of_classify hvalue hwithin (by omega) hlt (by dsimp only; omega)

end

/-! ### Short commands -/

section

variable {blockSize : UInt16} {ins p1 p2 : UInt8} {s : Sending} {locals : Locals}

/-- The number of the data bytes in a short command of a length: five bytes stand before them, and the
length of the answer after them.  A command without data has five bytes in all. -/
def dataBytes (len : ℕ) : ℕ := len - 6

/-- A block with data has as many bytes beside the six as it takes from what is left, and has their
count at the index 4. -/
theorem Sending.block_count (blockSize : UInt16) (hheader : HasHeader ins p1 p2 s.capdu) (hlc : s.lc ≠ 0)
    (hcount : (s.count blockSize).toNat ≤ s.dp.length) :
    ∃ s', s.block blockSize = some (s', 6 + (s.count blockSize).toNat) ∧
      s'.capdu.get 4 = s.count blockSize ∧ s'.lc = s.lc - (s.count blockSize).toNat := by
  obtain ⟨capdu, hblock, -, hfront⟩ := Sending.block_data blockSize hheader hlc hcount
  refine ⟨_, hblock, ?_, rfl⟩
  have hget := capdu.getD_front (n := 6 + (s.count blockSize).toNat) (i := 4) (by omega)
  rw [hfront] at hget
  exact hget.symm

/-- There is nothing left to send, or blocks have a length that is a byte above zero. -/
def Sending.Fits (blockSize : UInt16) (s : Sending) : Prop :=
  s.lc = 0 ∨ 0 < blockSize.toNat ∧ (blockSize.toNat < 256 ∨ s.lc < 256)

theorem Sending.Fits.of_le {s' : Sending} (h : s.Fits blockSize) (hle : s'.lc ≤ s.lc) :
    s'.Fits blockSize := by
  rcases h with hlc | ⟨hpos, hbyte⟩
  · exact .inl (by omega)
  · exact .inr ⟨hpos, hbyte.imp_right fun hlt => hle.trans_lt hlt⟩

/-- Such a pass of the loop lays out a command that is printed safely. -/
theorem Sending.Ready.printsSafely (locals : Locals) (h : s.Ready ins p1 p2) (hfits : s.Fits blockSize) :
    ∃ s' len, s.block blockSize = some (s', len) ∧ s'.Ready ins p1 p2 ∧ s'.lc ≤ s.lc ∧
      PrintsSafely locals (s'.capdu, len) (dataBytes len) := by
  by_cases hlc : s.lc = 0
  · obtain ⟨capdu, hblock, hheader, -⟩ := Sending.block_empty blockSize h.header hlc
    exact ⟨_, 5, hblock, ⟨hheader, h.left⟩, le_rfl, printsSafely_five⟩
  · obtain ⟨hpos, hbyte⟩ := hfits.resolve_left hlc
    have hcount := Sending.toNat_count hbyte
    obtain ⟨s', len, hblock, hready', -, -⟩ := h.block hpos hbyte
    obtain ⟨s'', hdata, hget, hless⟩ := Sending.block_count blockSize h.header hlc
      (by rw [← h.left]; omega)
    obtain ⟨rfl, rfl⟩ := Prod.mk.inj (Option.some_inj.1 (hblock.symm.trans hdata))
    have hne : s'.capdu.get 4 ≠ 0 := by
      rw [hget]
      intro hzero
      have hnat := congrArg UInt8.toNat hzero
      have hz : (0 : UInt8).toNat = 0 := rfl
      omega
    refine ⟨s', _, hblock, hready', by omega, ?_⟩
    rw [← hget, dataBytes, Nat.add_sub_cancel_left]
    exact printsSafely_short hne

/-- A block of the response ends the exchange, or is followed by a command of 5 bytes. -/
theorem log_receiving (blockSize : UInt16) (rapduLen : ℕ) (capdu : Capdu) (out rapdu : List UInt8)
    (card : List Transmission) :
    (receiving blockSize rapduLen capdu out rapdu card).log = [] ∨
      ∃ capdu', (receiving blockSize rapduLen capdu out rapdu card).log = (capdu', 5) ::
        match card with
        | [] => []
        | transmission :: card =>
            match accept blockSize transmission with
            | .error _ => []
            | .ok rapdu' => (receiving blockSize rapduLen capdu'
                (out ++ rapdu.take (rapdu.length - 2)) rapdu' card).log := by
  rw [receiving]
  split
  · exact .inl rfl
  · dsimp only
    split
    · exact .inl rfl
    · split
      · exact .inl rfl
      · split
        · exact .inl rfl
        · rename_i capdu' _
          refine .inr ⟨capdu', ?_⟩
          cases card with
          | nil => rfl
          | cons transmission card =>
              cases haccept : accept blockSize transmission with
              | error outcome => simp only [Trace.cons, haccept]
              | ok rapdu' => simp only [Trace.cons, haccept]

/-- The commands that read on have 5 bytes. -/
theorem length_of_mem_receiving {rapduLen : ℕ} {capdu : Capdu} {out rapdu : List UInt8}
    {card : List Transmission} :
    ∀ command ∈ (receiving blockSize rapduLen capdu out rapdu card).log, command.2 = 5 := by
  induction card generalizing capdu out rapdu with
  | nil =>
      rcases log_receiving blockSize rapduLen capdu out rapdu [] with
        hlog | ⟨capdu', hlog⟩
      · rw [hlog]
        exact List.forall_mem_nil _
      · rw [hlog]
        exact List.forall_mem_singleton.2 rfl
  | cons transmission card ih =>
      rcases log_receiving blockSize rapduLen capdu out rapdu
        (transmission :: card) with hlog | ⟨capdu', hlog⟩
      · rw [hlog]
        exact List.forall_mem_nil _
      · rw [hlog]
        refine List.forall_mem_cons.2 ⟨rfl, ?_⟩
        dsimp only
        split
        · exact List.forall_mem_nil _
        · exact ih

/-- **While the length of every block is a byte above zero, all commands are printed safely.** -/
theorem printsSafely_sending {rapduLen : ℕ} (h : s.Ready ins p1 p2) (hfits : s.Fits blockSize)
    (card : List Transmission) :
    ∀ command ∈ (sending blockSize rapduLen s card).log,
      PrintsSafely locals command (dataBytes command.2) := by
  induction card generalizing s with
  | nil =>
      obtain ⟨s', len, hblock, -, -, hsafe⟩ := h.printsSafely locals hfits
      rw [sending, hblock]
      exact List.forall_mem_singleton.2 hsafe
  | cons transmission card ih =>
      obtain ⟨s', len, hblock, hready', hless, hsafe⟩ :=
        h.printsSafely locals hfits
      rw [sending, hblock]
      refine List.forall_mem_cons.2 ⟨hsafe, ?_⟩
      split
      · exact List.forall_mem_nil _
      · split
        · exact ih hready' (hfits.of_le hless)
        · rintro ⟨capdu, len⟩ hmem
          obtain rfl := length_of_mem_receiving _ hmem
          exact printsSafely_five

/-- The first command is handed over whatever the card does. -/
theorem mem_sending_log {rapduLen : ℕ} {s' : Sending} {len : ℕ}
    (hblock : s.block blockSize = some (s', len)) (card : List Transmission) :
    (s'.capdu, len) ∈ (sending blockSize rapduLen s card).log := by
  cases card with
  | nil =>
      rw [sending, hblock]
      exact List.mem_singleton_self _
  | cons transmission card =>
      rw [sending, hblock]
      exact List.mem_cons_self

/-- A block with the count zero is not printed safely. -/
theorem not_printsSafely_sending {rapduLen : ℕ} (hheader : HasHeader ins p1 p2 s.capdu)
    (hlc : s.lc ≠ 0) (hcount : s.count blockSize = 0) (card : List Transmission) :
    ¬ ∀ command ∈ (sending blockSize rapduLen s card).log,
      PrintsSafely locals command (dataBytes command.2) := by
  have hzero : (s.count blockSize).toNat = 0 := by
    rw [hcount]
    rfl
  obtain ⟨s', hblock, hget, -⟩ := Sending.block_count blockSize hheader hlc
    (by omega)
  rw [hzero] at hblock
  intro hall
  exact not_printsSafely_six (hget.trans hcount) (hall _ (mem_sending_log hblock card))

end

/-- **A short command is printed safely exactly if it has no data, or blocks whose length is a byte
above zero.** -/
theorem printsSafely_xchgAPDUShort_iff (locals : Locals) (size : UInt16)
    (cla ins p1 p2 : UInt32) (data : List UInt8) (rapduLen : ℕ) (capdu : Capdu)
    (card : List Transmission) :
    (∀ command ∈ (xchgAPDUShort (setChainingLc size) cla ins p1 p2 data rapduLen capdu card).log,
        PrintsSafely locals command (dataBytes command.2)) ↔
      data = [] ∨ size ≠ 0 ∧ (size < 256 ∨ data.length < 256) := by
  obtain ⟨capdu', hready, hxchg⟩ :=
    xchgAPDUShort_eq (setChainingLc size) cla ins p1 p2 data rapduLen capdu
  have h256 : (256 : UInt16).toNat = 256 := rfl
  have hblock : (setChainingLc size).toNat = min size.toNat 256 := by
    rw [setChainingLc]
    split
    · rename_i hle
      rw [UInt16.le_iff_toNat_le] at hle
      omega
    · rename_i hlt
      rw [UInt16.le_iff_toNat_le] at hlt
      omega
  rw [hxchg, ne_eq, ← UInt16.toNat_inj, UInt16.lt_iff_toNat_lt, h256]
  have hzero : (0 : UInt16).toNat = 0 := rfl
  rw [hzero]
  have hfits : Sending.Fits (setChainingLc size) ⟨cla, data.length, data, capdu'⟩ ↔
      data = [] ∨ size.toNat ≠ 0 ∧ (size.toNat < 256 ∨ data.length < 256) := by
    rw [Sending.Fits, hblock, ← List.length_eq_zero_iff]
    dsimp only
    omega
  rw [← hfits]
  constructor
  · intro hall
    by_contra hnot
    have hlc : data.length ≠ 0 := fun hlc => hnot (.inl hlc)
    refine not_printsSafely_sending hready.header hlc ?_ card hall
    -- the size of the blocks is zero, or it is 256 and so much is left
    have hcases : min size.toNat 256 = 0 ∨ min size.toNat 256 = 256 ∧ 256 ≤ data.length := by
      rw [Sending.Fits, hblock] at hnot
      dsimp only at hnot
      omega
    rw [Sending.count, hblock]
    rcases hcases with hsize | ⟨hsize, hlong⟩
    · rw [hsize, if_pos (by dsimp only; omega)]
      rfl
    · have hall : (if data.length > 256 then 256 else data.length) = 256 := by
        split <;> omega
      rw [hsize, hall]
      rfl
  · exact fun hfits => printsSafely_sending hready hfits card

/-! ### Extended commands -/

section

variable (cla ins p1 p2 : UInt32) {data : List UInt8} (rapduLen : ℕ) (capdu : Capdu)

theorem extendedCommand_nil :
    ∃ capdu', extendedCommand cla ins p1 p2 [] rapduLen capdu = some (capdu', 7) ∧
      capdu'.get 4 = 0 := by
  obtain ⟨capdu₁, h₁⟩ := capdu.exists_write CLA [(cla &&& 0xff).toUInt8, (ins &&& 0xff).toUInt8,
    (p1 &&& 0xff).toUInt8, (p2 &&& 0xff).toUInt8] (by simp [CLA, APDU_BUFFER_SIZE])
  obtain ⟨capdu₂, h₂⟩ := capdu₁.exists_write 4 (0 :: lengthBytes rapduLen)
    (by simp [lengthBytes, APDU_BUFFER_SIZE])
  refine ⟨capdu₂, ?_, ?_⟩
  · simp only [extendedCommand, h₁, h₂, Option.bind_eq_bind, Option.bind_some, List.length_nil,
      ne_eq, not_true_eq_false, if_false, Option.pure_def]
  · have hfront₁ : capdu₁.front 4 = _ := Buffer.front_write h₁
    have hfront₂ : capdu₂.front 7 = _ := Buffer.front_write h₂
    have hget := capdu₂.getD_front (n := 7) (i := 4) (by decide)
    rw [hfront₂, hfront₁] at hget
    exact hget.symm

theorem extendedCommand_data (hdata : data.length ≠ 0)
    (hfits : data.length + 9 ≤ APDU_BUFFER_SIZE) :
    ∃ capdu', extendedCommand cla ins p1 p2 data rapduLen capdu =
        some (capdu', data.length + 9) ∧
      capdu'.get 4 = 0 ∧ capdu'.get 5 = UInt8.ofNat (data.length / 256) ∧
      capdu'.get 6 = UInt8.ofNat data.length := by
  have htwo (n : ℕ) : (lengthBytes n).length = 2 := rfl
  obtain ⟨capdu₁, h₁⟩ := capdu.exists_write CLA [(cla &&& 0xff).toUInt8, (ins &&& 0xff).toUInt8,
    (p1 &&& 0xff).toUInt8, (p2 &&& 0xff).toUInt8] (by simp [CLA, APDU_BUFFER_SIZE])
  obtain ⟨capdu₂, h₂⟩ := capdu₁.exists_write 4 (0 :: lengthBytes data.length)
    (by simp [lengthBytes, APDU_BUFFER_SIZE])
  obtain ⟨capdu₃, h₃⟩ := capdu₂.exists_write 7 data (by omega)
  obtain ⟨capdu₄, h₄⟩ := capdu₃.exists_write (7 + data.length) (lengthBytes rapduLen)
    (by rw [htwo]; omega)
  have hfront₁ : capdu₁.front 4 = _ := Buffer.front_write h₁
  have hfront₂ : capdu₂.front 7 = _ := Buffer.front_write h₂
  have hfront₄ : capdu₄.front 7 = capdu₂.front 7 := by
    rw [Buffer.front_write_of_le h₄ (by omega), Buffer.front_write_of_le h₃ le_rfl]
  have hget {i : ℕ} (hi : i < 7) := capdu₄.getD_front hi
  rw [hfront₄, hfront₂, hfront₁] at hget
  refine ⟨capdu₄, ?_, (hget (by decide)).symm, (hget (by decide)).symm, (hget (by decide)).symm⟩
  simp only [extendedCommand, h₁, h₂, h₃, h₄, Option.bind_eq_bind, Option.bind_some, if_pos hdata,
    Option.pure_def]

/-- Data that do not fit into the array are written past it. -/
theorem extendedCommand_none (hlong : APDU_BUFFER_SIZE < data.length + 9) :
    extendedCommand cla ins p1 p2 data rapduLen capdu = none := by
  have htwo (n : ℕ) : (lengthBytes n).length = 2 := rfl
  have hdata : data.length ≠ 0 := by
    rw [APDU_BUFFER_SIZE] at hlong
    omega
  rw [Option.eq_none_iff_forall_ne_some]
  intro command h
  simp only [extendedCommand, if_pos hdata, Option.bind_eq_bind, Option.bind_eq_some_iff] at h
  obtain ⟨capdu₁, -, capdu₂, -, capdu₃, -, capdu₄, h₄, -⟩ := h
  have hfits := (Buffer.write_eq_some_iff.1 h₄).1
  rw [htwo] at hfits
  omega

/-- What is handed over does not depend on the card. -/
theorem log_xchgAPDUExtended (card : List Transmission) :
    (xchgAPDUExtended cla ins p1 p2 data rapduLen capdu card).log =
      (extendedCommand cla ins p1 p2 data rapduLen capdu).toList := by
  rw [xchgAPDUExtended]
  cases extendedCommand cla ins p1 p2 data rapduLen capdu with
  | none => rfl
  | some command =>
      match card with
      | [] | .pcscError :: _ => rfl
      | .response rapdu inTime :: _ =>
          dsimp only
          split
          · rfl
          · split
            · rfl
            · split
              · rfl
              · rfl

/-- **An extended command is printed safely exactly if it has less than 256 bytes of data**, or if
it is never handed over. -/
theorem printsSafely_xchgAPDUExtended_iff (locals : Locals) (card : List Transmission) :
    (∀ command ∈ (xchgAPDUExtended cla ins p1 p2 data rapduLen capdu card).log,
        PrintsSafely locals command data.length) ↔
      data.length < 256 ∨ APDU_BUFFER_SIZE < data.length + 9 := by
  have hsize : APDU_BUFFER_SIZE = 5000 := rfl
  rw [log_xchgAPDUExtended]
  rcases Nat.lt_or_ge APDU_BUFFER_SIZE (data.length + 9) with hlong | hfits
  · rw [extendedCommand_none cla ins p1 p2 rapduLen capdu hlong]
    exact iff_of_true (List.forall_mem_nil _) (.inr hlong)
  · by_cases hdata : data.length = 0
    · obtain rfl := List.eq_nil_of_length_eq_zero hdata
      obtain ⟨capdu', hcommand, hfour⟩ := extendedCommand_nil cla ins p1 p2 rapduLen capdu
      rw [hcommand]
      refine iff_of_true (List.forall_mem_singleton.2 ?_) (.inl (by decide))
      exact printsSafely_seven hfour
    · obtain ⟨capdu', hcommand, hfour, hfive, hsix⟩ :=
        extendedCommand_data cla ins p1 p2 rapduLen capdu hdata hfits
      have hlength : (capdu'.get 5).toNat * 256 + (capdu'.get 6).toNat = data.length := by
        rw [hfive, hsix, UInt8.toNat_ofNat', UInt8.toNat_ofNat']
        omega
      rw [hcommand, Option.toList_some, List.forall_mem_singleton,
        printsSafely_extended_iff hfour (Nat.pos_of_ne_zero hdata) hlength]
      omega

end

/-! ### What is printed -/

/-- **Short commands are printed safely exactly if they have no data, or blocks whose length is a
byte above zero; extended ones exactly if they have less than 256 bytes**, where more than the array
has room for are not handed over. -/
theorem printsSafely_iff (locals : Locals) (cla ins p1 p2 : UInt32) (data : List UInt8)
    (rapduLen : ℕ) (capdu : Capdu) (card : List Transmission) :
    (∀ size : UInt16,
      (∀ command ∈ (xchgAPDUShort (setChainingLc size) cla ins p1 p2 data rapduLen capdu card).log,
        PrintsSafely locals command (dataBytes command.2)) ↔
      data = [] ∨ size ≠ 0 ∧ (size < 256 ∨ data.length < 256)) ∧
    ((∀ command ∈ (xchgAPDUExtended cla ins p1 p2 data rapduLen capdu card).log,
        PrintsSafely locals command data.length) ↔
      data.length < 256 ∨ APDU_BUFFER_SIZE < data.length + 9) :=
  ⟨fun size =>
    printsSafely_xchgAPDUShort_iff locals size cla ins p1 p2 data rapduLen capdu card,
    printsSafely_xchgAPDUExtended_iff cla ins p1 p2 rapduLen capdu locals card⟩

/-- With 256 bytes of data, an extended command is printed for ever, and the first block of a short
one is none of the cases, if the blocks have the size that is set at first. -/
theorem not_printsSafely_256 :
    (¬ ∀ command ∈ (xchgAPDUExtended 0 1 0 0 (List.replicate 256 1) 256
        (Buffer.filled APDU_BUFFER_SIZE 0) []).log,
      PrintsSafely ⟨0, 0, 0⟩ command (List.replicate 256 (1 : UInt8)).length) ∧
    ¬ ∀ command ∈ (xchgAPDUShort (setChainingLc 256) 0 1 0 0 (List.replicate 256 1) 256
        (Buffer.filled APDU_BUFFER_SIZE 0) []).log,
      PrintsSafely ⟨0, 0, 0⟩ command (dataBytes command.2) := by
  have hsize : APDU_BUFFER_SIZE = 5000 := rfl
  have hlength : (List.replicate 256 (1 : UInt8)).length = 256 := List.length_replicate
  constructor
  · rw [printsSafely_xchgAPDUExtended_iff, hlength]
    omega
  · rw [printsSafely_xchgAPDUShort_iff, ← List.length_eq_zero_iff, hlength]
    decide

end Nfc
