/-
**The chaining of short commands.**

The loop that sends a command in blocks keeps the class byte, the remaining length and the pointer to
the data in step by assignments one after the other.  The class byte is written before it is decided
whether another block follows, so that the bit that says so is first set in the second block, and is
still set in the last.  The length of a block is a byte: a block of 256 bytes has length zero, and
then nothing is sent and nothing is left out of what remains.

Main definitions:

* `Sending.count` — the length byte of the next block;
* `Delivers` — a command has been sent as a chain of blocks, and its response has been read.

Main results:

* `Sending.block_data`, `Sending.block_empty` — what one pass of the loop does;
* `delivers_iff` — **the data are sent as a chain exactly if they fit into one block of less than 256
  bytes, and the class byte is not that of a chain already**;
* `sends_blocks` — below 256 the blocks are all sent, and carry the data.
-/

import U2F.Lib.Bits
import U2F.Lib.CommandApdu
import U2F.Lib.Traverse
import U2F.Nfc.U2fNfcUtil

set_option relaxedAutoImplicit false
set_option autoImplicit false

namespace Nfc

/-! ### The bit of a chain -/

/-- The class byte that is sent has the bit exactly if the variable has. -/
theorem toUInt8_and_0x10_eq_zero_iff (cla : UInt32) :
    (cla &&& 0xff).toUInt8 &&& 0x10 = 0 ↔ cla &&& 0x10 = 0 := by
  have hbyte : (0xff : UInt32).toNat = 2 ^ 8 - 1 := rfl
  have hmask8 : (0x10 : UInt8).toNat = 2 ^ 4 := rfl
  have hmask32 : (0x10 : UInt32).toNat = 2 ^ 4 := rfl
  rw [Bits.uint8_and_eq_zero_iff hmask8, Bits.uint32_and_eq_zero_iff hmask32,
    UInt32.toNat_toUInt8, UInt32.toNat_and, hbyte, Nat.testBit_mod_two_pow, Nat.testBit_and,
    Nat.testBit_two_pow_sub_one]
  simp

theorem or_0x10_and_ne_zero (cla : UInt32) : (cla ||| 0x10) &&& 0x10 ≠ 0 := by
  have hmask : (0x10 : UInt32).toNat = 2 ^ 4 := rfl
  exact Bits.uint32_or_and_ne_zero hmask cla

/-! ### One pass of the loop -/

/-- The length byte of the next block. -/
def Sending.count (blockSize : UInt16) (s : Sending) : UInt8 :=
  UInt8.ofNat (if s.lc > blockSize.toNat then blockSize.toNat else s.lc)

/-- The count is the size of a block, or what is left, unless this is not a byte. -/
theorem Sending.toNat_count {blockSize : UInt16} {s : Sending}
    (hbyte : blockSize.toNat < 256 ∨ s.lc < 256) :
    (s.count blockSize).toNat = min blockSize.toNat s.lc := by
  have hlt : (if s.lc > blockSize.toNat then blockSize.toNat else s.lc) < 256 := by
    split <;> omega
  rw [Sending.count, UInt8.toNat_ofNat_of_lt' hlt]
  split <;> omega

/-- The class byte for the block after the next. -/
def Sending.nextCla (blockSize : UInt16) (s : Sending) : UInt32 :=
  if s.lc > blockSize.toNat then s.cla ||| 0x10 else s.cla

/-- The bytes of the header that stay in the array. -/
def HasHeader (ins p1 p2 : UInt8) (capdu : Capdu) : Prop := (capdu.front 4).tail = [ins, p1, p2]

variable (blockSize : UInt16) {ins p1 p2 : UInt8} {s : Sending}

/-- **A pass of the loop with data left**: a block is laid out after the header. -/
theorem Sending.block_data (hheader : HasHeader ins p1 p2 s.capdu) (hlc : s.lc ≠ 0)
    (hcount : (s.count blockSize).toNat ≤ s.dp.length) :
    ∃ capdu, s.block blockSize = some (⟨s.nextCla blockSize, s.lc - (s.count blockSize).toNat,
        s.dp.drop blockSize.toNat, capdu⟩, 6 + (s.count blockSize).toNat) ∧
      HasHeader ins p1 p2 capdu ∧
      capdu.front (6 + (s.count blockSize).toNat) =
        (s.cla &&& 0xff).toUInt8 :: ins :: p1 :: p2 :: s.count blockSize ::
          (s.dp.take (s.count blockSize).toNat ++ [expected blockSize]) := by
  have hbyte : (s.count blockSize).toNat < 256 := (s.count blockSize).toNat_lt
  have hlength : (s.dp.take (s.count blockSize).toNat).length = (s.count blockSize).toNat := by
    rw [List.length_take]
    omega
  have hlcOffset : LC = 4 := rfl
  have hdataOffset : DATA_NON_EXTENDED = 5 := rfl
  have hroom : ∀ n, n ≤ 300 → n ≤ APDU_BUFFER_SIZE := fun n hn => hn.trans (by decide)
  obtain ⟨capdu₁, h₁⟩ := s.capdu.exists_write CLA [(s.cla &&& 0xff).toUInt8] (hroom 1 (by omega))
  obtain ⟨capdu₂, h₂⟩ := capdu₁.exists_write LC [s.count blockSize] (hroom 5 (by omega))
  obtain ⟨capdu₃, h₃⟩ := capdu₂.exists_write DATA_NON_EXTENDED
    (s.dp.take (s.count blockSize).toNat) (by
      rw [hlength, DATA_NON_EXTENDED]
      exact hroom _ (by omega))
  obtain ⟨capdu₄, h₄⟩ := capdu₃.exists_write (DATA_NON_EXTENDED + (s.count blockSize).toNat)
    [expected blockSize] (by
      rw [List.length_singleton, DATA_NON_EXTENDED]
      exact hroom _ (by omega))
  -- the header, and the parts after it one by one
  have hfront₁ : capdu₁.front 4 = [(s.cla &&& 0xff).toUInt8, ins, p1, p2] := by
    rw [Buffer.front_write_one h₁, hheader]
  have hfront₂ : capdu₂.front 5 = [(s.cla &&& 0xff).toUInt8, ins, p1, p2, s.count blockSize] := by
    have hfront := Buffer.front_write h₂
    rw [LC, hfront₁] at hfront
    exact hfront
  have hfront₃ := Buffer.front_write h₃
  rw [DATA_NON_EXTENDED, hlength, hfront₂] at hfront₃
  have hfront₄ := Buffer.front_write h₄
  rw [DATA_NON_EXTENDED, hfront₃, List.length_singleton] at hfront₄
  refine ⟨capdu₄, ?_, ?_, ?_⟩
  · simp only [Sending.block, h₁, Option.bind_eq_bind, Option.bind_some, if_pos hlc]
    rw [← Sending.count, h₂]
    simp only [Option.bind_some, h₃, h₄]
    rfl
  · rw [HasHeader, Buffer.front_write_of_le h₄ (by omega), Buffer.front_write_of_le h₃ (by omega),
      Buffer.front_write_of_le h₂ (by omega), hfront₁]
    rfl
  · have hlen : 6 + (s.count blockSize).toNat = 5 + (s.count blockSize).toNat + 1 := by omega
    rw [hlen, hfront₄]
    rfl

/-- **A pass of the loop without data**: the command has only its header and the length of the
answer. -/
theorem Sending.block_empty (hheader : HasHeader ins p1 p2 s.capdu) (hlc : s.lc = 0) :
    ∃ capdu, s.block blockSize = some (⟨s.nextCla blockSize, s.lc, s.dp, capdu⟩, 5) ∧
      HasHeader ins p1 p2 capdu ∧
      capdu.front 5 = [(s.cla &&& 0xff).toUInt8, ins, p1, p2, expected blockSize] := by
  have hlcOffset : LC = 4 := rfl
  obtain ⟨capdu₁, h₁⟩ := s.capdu.exists_write CLA [(s.cla &&& 0xff).toUInt8] (by
    rw [List.length_singleton]
    decide)
  obtain ⟨capdu₂, h₂⟩ := capdu₁.exists_write LC [expected blockSize] (by
    rw [List.length_singleton]
    decide)
  have hfront₁ : capdu₁.front 4 = [(s.cla &&& 0xff).toUInt8, ins, p1, p2] := by
    rw [Buffer.front_write_one h₁, hheader]
  refine ⟨capdu₂, ?_, ?_, ?_⟩
  · simp only [Sending.block, h₁, Option.bind_eq_bind, Option.bind_some,
      if_neg (not_not.2 hlc), h₂]
    rfl
  · rw [HasHeader, Buffer.front_write_of_le h₂ (by omega), hfront₁]
    rfl
  · have hfront := Buffer.front_write h₂
    rw [LC, hfront₁] at hfront
    exact hfront

variable {blockSize}

/-- What holds before each pass: the header is in the array, and the pointer is at what is left. -/
structure Sending.Ready (ins p1 p2 : UInt8) (s : Sending) : Prop where
  header : HasHeader ins p1 p2 s.capdu
  left : s.lc = s.dp.length

/-- **What a pass sends**, if the length of its block is a byte. -/
theorem Sending.Ready.block (h : s.Ready ins p1 p2) (hpos : 0 < blockSize.toNat)
    (hbyte : blockSize.toNat < 256 ∨ s.lc < 256) :
    ∃ s' len, s.block blockSize = some (s', len) ∧ s'.Ready ins p1 p2 ∧
      s'.cla = s.nextCla blockSize ∧ s'.dp = s.dp.drop blockSize.toNat ∧
      ∃ ne, CommandApdu.parseShort (s'.capdu.front len) =
        some ⟨(s.cla &&& 0xff).toUInt8, ins, p1, p2, s.dp.take blockSize.toNat, ne⟩ := by
  obtain ⟨hheader, hleft⟩ := h
  by_cases hlc : s.lc = 0
  · obtain ⟨capdu, hblock, hheader', hfront⟩ :=
      Sending.block_empty blockSize hheader hlc
    have hnil : s.dp = [] := List.eq_nil_of_length_eq_zero (by omega)
    refine ⟨_, 5, hblock, ⟨hheader', hleft⟩, rfl, ?_, ?_⟩
    · rw [hnil, List.drop_nil]
    · rw [hfront, hnil, List.take_nil]
      exact ⟨_, rfl⟩
  · have hcount : (s.count blockSize).toNat = min blockSize.toNat s.dp.length := by
      rw [Sending.toNat_count hbyte, hleft]
    obtain ⟨capdu, hblock, hheader', hfront⟩ :=
      Sending.block_data blockSize hheader hlc (by omega)
    have htake : s.dp.take (s.count blockSize).toNat = s.dp.take blockSize.toNat := by
      rw [hcount, ← List.take_take, List.take_length]
    have hlength : (s.dp.take blockSize.toNat).length = (s.count blockSize).toNat := by
      rw [hcount, List.length_take]
    refine ⟨_, _, hblock, ⟨hheader', ?_⟩, rfl, rfl, ?_⟩
    · change s.lc - (s.count blockSize).toNat = (s.dp.drop blockSize.toNat).length
      rw [List.length_drop, hcount]
      omega
    · rw [hfront, htake]
      refine CommandApdu.parseShort_data _ _ _ _ _ _ ?_ hlength.symm
      exact List.ne_nil_of_length_pos (by omega)

/-! ### The run of the loop -/

/-- The card answers `90 00`, in time. -/
def ok : Transmission := .response [0x90, 0x00] true

theorem sending_ok {rapduLen : ℕ} {s s' : Sending} {len : ℕ}
    (hblock : s.block blockSize = some (s', len)) (card : List Transmission) :
    sending blockSize rapduLen s (ok :: card) = .cons (s'.capdu, len)
      (if s'.lc ≠ 0 then sending blockSize rapduLen s' card else ⟨[], .returned 0x9000 []⟩) := by
  have hshort : ¬ [(0x90 : UInt8), 0x00].length > blockSize.toNat + 2 := by simp
  have haccept : accept blockSize ok = .ok [0x90, 0x00] := by
    rw [ok, accept, if_neg hshort]
    rfl
  have hreceiving : receiving blockSize rapduLen s'.capdu [] [0x90, 0x00] card =
      ⟨[], .returned 0x9000 []⟩ := by
    unfold receiving
    simp
  rw [sending, hblock]
  simp only [haccept, hreceiving]

/-- The remaining length, while it is at least the size of a block. -/
theorem Sending.Ready.lc_ne_zero_iff {s' : Sending} (hready : s'.Ready ins p1 p2)
    (hdp : s'.dp = s.dp.drop blockSize.toNat) :
    s'.lc ≠ 0 ↔ blockSize.toNat < s.dp.length := by
  rw [hready.left, hdp, List.length_drop]
  omega

/-- A pass with a block of 256 bytes sends nothing, and leaves everything to be sent. -/
theorem Sending.block_256 (hheader : HasHeader ins p1 p2 s.capdu) (hlc : 256 ≤ s.lc) :
    ∃ s' len, s.block 256 = some (s', len) ∧ HasHeader ins p1 p2 s'.capdu ∧ s'.lc = s.lc := by
  have hzero : s.count 256 = 0 := by
    have hblock : (256 : UInt16).toNat = 256 := rfl
    have hall : (if s.lc > 256 then 256 else s.lc) = 256 := by
      split
      · rfl
      · omega
    rw [Sending.count, hblock, hall]
    rfl
  have hcount : (s.count 256).toNat = 0 := by
    rw [hzero]
    rfl
  obtain ⟨capdu, hblock, hheader', -⟩ := Sending.block_data 256 hheader (by omega) (by omega)
  exact ⟨_, _, hblock, hheader', by rw [hcount]; rfl⟩

/-- **With blocks of 256 bytes a longer command is sent for ever.** -/
theorem outcome_sending_256 {rapduLen : ℕ} (hheader : HasHeader ins p1 p2 s.capdu)
    (hlc : 256 ≤ s.lc) (n : ℕ) :
    (sending 256 rapduLen s (List.replicate n ok)).outcome = .waiting := by
  induction n generalizing s with
  | zero =>
      obtain ⟨s', len, hblock, -, -⟩ := Sending.block_256 hheader hlc
      rw [List.replicate_zero, sending, hblock]
  | succ n ih =>
      obtain ⟨s', len, hblock, hheader', hlc'⟩ := Sending.block_256 hheader hlc
      rw [List.replicate_succ, sending_ok hblock, if_pos (by omega)]
      exact ih hheader' (by omega)

/-- Once the class byte has the bit, every block is sent with it. -/
theorem isChained_of_sending {rapduLen : ℕ} (hready : s.Ready ins p1 p2)
    (hpos : 0 < blockSize.toNat) (hbyte : blockSize.toNat < 256) (hcla : s.cla &&& 0x10 ≠ 0)
    (n : ℕ) : ∀ apdu ∈ (sending blockSize rapduLen s (List.replicate n ok)).transmitted,
      ∀ command, CommandApdu.parseShort apdu = some command → command.IsChained := by
  induction n generalizing s with
  | zero =>
      obtain ⟨s', len, hblock, -, -, -, ne, hparse⟩ := hready.block hpos (.inl hbyte)
      rw [List.replicate_zero, sending, hblock]
      intro apdu hmem command hcommand
      obtain rfl := List.mem_singleton.1 hmem
      obtain rfl := Option.some_inj.1 (hparse.symm.trans hcommand)
      rwa [CommandApdu.IsChained, ne_eq, toUInt8_and_0x10_eq_zero_iff]
  | succ n ih =>
      obtain ⟨s', len, hblock, hready', hcla', -, ne, hparse⟩ := hready.block hpos (.inl hbyte)
      have hcla' : s'.cla &&& 0x10 ≠ 0 := by
        rw [hcla', Sending.nextCla]
        split
        · exact or_0x10_and_ne_zero s.cla
        · exact hcla
      rw [List.replicate_succ, sending_ok hblock]
      intro apdu hmem command hcommand
      rcases List.mem_cons.1 hmem with rfl | hmem
      · obtain rfl := Option.some_inj.1 (hparse.symm.trans hcommand)
        rwa [CommandApdu.IsChained, ne_eq, toUInt8_and_0x10_eq_zero_iff]
      · split at hmem
        · exact ih hready' hcla' apdu hmem command hcommand
        · cases hmem

/-! ### What is delivered -/

/-- The data have been sent as a chain of blocks, and the response has been read. -/
def Delivers (blockSize : UInt16) (data : List UInt8) (trace : Trace) : Prop :=
  trace.outcome = .returned 0x9000 [] ∧
    ∃ commands, trace.transmitted.mapM CommandApdu.parseShort = some commands ∧
      CommandApdu.IsChain blockSize.toNat data commands

/-- Data that fit into one block are sent as one command. -/
theorem delivers_sending_one_iff {rapduLen : ℕ} (hready : s.Ready ins p1 p2)
    (hpos : 0 < blockSize.toNat) (hlc : s.dp.length < 256) (hfits : s.dp.length ≤ blockSize.toNat)
    (card : List Transmission) :
    Delivers blockSize s.dp (sending blockSize rapduLen s (ok :: card)) ↔ s.cla &&& 0x10 = 0 := by
  obtain ⟨s', len, hblock, hready', -, hdp, ne, hparse⟩ :=
    hready.block hpos (.inr (hready.left ▸ hlc))
  have hlast : ¬ s'.lc ≠ 0 := by
    rw [hready'.lc_ne_zero_iff hdp]
    omega
  rw [List.take_of_length_le hfits] at hparse
  have hcommands : (Trace.cons (s'.capdu, len) ⟨[], .returned 0x9000 []⟩).transmitted.mapM
      CommandApdu.parseShort = some [⟨(s.cla &&& 0xff).toUInt8, ins, p1, p2, s.dp, ne⟩] := by
    rw [Trace.cons, Trace.transmitted, List.map_singleton, List.mapM_cons, hparse]
    rfl
  rw [sending_ok hblock, if_neg hlast, ← toUInt8_and_0x10_eq_zero_iff]
  constructor
  · rintro ⟨-, commands, hcommands', hchain⟩
    obtain rfl := Option.some_inj.1 (hcommands.symm.trans hcommands')
    exact not_not.1 (CommandApdu.isChain_singleton_iff.1 hchain).2.2
  · intro hcla
    refine ⟨rfl, _, hcommands, CommandApdu.isChain_singleton_iff.2 ⟨hfits, rfl, ?_⟩⟩
    exact not_not.2 hcla

/-- Data that do not fit into one block are not sent as a chain. -/
theorem not_delivers_sending {rapduLen : ℕ} (hready : s.Ready ins p1 p2)
    (hpos : 0 < blockSize.toNat) (hbyte : blockSize.toNat < 256)
    (hlong : blockSize.toNat < s.dp.length) (n : ℕ) :
    ¬ Delivers blockSize s.dp (sending blockSize rapduLen s (List.replicate n ok)) := by
  rintro ⟨houtcome, commands, hcommands, hchain⟩
  obtain ⟨s', len, hblock, hready', hcla, hdp, ne, hparse⟩ := hready.block hpos (.inl hbyte)
  cases n with
  | zero =>
      rw [List.replicate_zero, sending, hblock] at houtcome
      cases houtcome
  | succ n =>
      rw [List.replicate_succ, sending_ok hblock,
        if_pos ((hready'.lc_ne_zero_iff hdp).2 hlong)] at hcommands houtcome
      have hcla' : s'.cla &&& 0x10 ≠ 0 := by
        rw [hcla, Sending.nextCla, if_pos (by rw [hready.left]; exact hlong)]
        exact or_0x10_and_ne_zero s.cla
      obtain ⟨first, rest, hfirst, hrest, rfl⟩ :=
        List.forall₂_cons_left_iff.1 (Traverse.mapM_eq_some_iff.1 hcommands)
      -- the last command is not the first, and so it has the bit
      obtain ⟨front, last, hsplit, -, hlast⟩ := hchain.chained
      have hmem : last ∈ rest := by
        cases front with
        | nil =>
            -- one block would be too long
            obtain ⟨-, rfl⟩ := List.cons.inj hsplit
            obtain ⟨hblocks, hdata, -⟩ := CommandApdu.isChain_singleton_iff.1 hchain
            rw [hdata] at hblocks
            omega
        | cons command front =>
            obtain ⟨-, rfl⟩ := List.cons.inj hsplit
            exact List.mem_append_right front List.mem_cons_self
      obtain ⟨apdu, hapdu, hcommand⟩ := Traverse.exists_of_forall₂_right hrest hmem
      exact hlast (isChained_of_sending hready' hpos hbyte hcla' n apdu hapdu last hcommand)

/-- **Below 256 the blocks are all sent, and carry the data**, whatever their class bytes say. -/
theorem sends_blocks {rapduLen : ℕ} (hready : s.Ready ins p1 p2) (hpos : 0 < blockSize.toNat)
    (hbyte : blockSize.toNat < 256) :
    ∃ n commands,
      (sending blockSize rapduLen s (List.replicate n ok)).outcome = .returned 0x9000 [] ∧
      (sending blockSize rapduLen s (List.replicate n ok)).transmitted.mapM
        CommandApdu.parseShort = some commands ∧
      (∀ command ∈ commands, command.data.length ≤ blockSize.toNat) ∧
      commands.flatMap CommandApdu.data = s.dp := by
  induction hleft : s.dp.length using Nat.strong_induction_on generalizing s with
  | _ left ih =>
      obtain ⟨s', len, hblock, hready', -, hdp, ne, hparse⟩ := hready.block hpos (.inl hbyte)
      let command : CommandApdu :=
        ⟨(s.cla &&& 0xff).toUInt8, ins, p1, p2, s.dp.take blockSize.toNat, ne⟩
      have hlength : command.data.length ≤ blockSize.toNat := List.length_take_le _ _
      by_cases hlong : blockSize.toNat < s.dp.length
      · have hmore := (hready'.lc_ne_zero_iff hdp).2 hlong
        obtain ⟨n, commands, houtcome, hcommands, hblocks, hcarries⟩ := ih s'.dp.length
          (by rw [hdp, List.length_drop]; omega) hready' rfl
        refine ⟨n + 1, command :: commands, ?_, ?_, List.forall_mem_cons.2 ⟨hlength, hblocks⟩, ?_⟩
        · rw [List.replicate_succ, sending_ok hblock, if_pos hmore]
          exact houtcome
        · rw [List.replicate_succ, sending_ok hblock, if_pos hmore]
          exact Traverse.mapM_eq_some_iff.2 (.cons hparse (Traverse.mapM_eq_some_iff.1 hcommands))
        · rw [List.flatMap_cons, hcarries, hdp, List.take_append_drop]
      · have hlast : ¬ s'.lc ≠ 0 := fun hmore => hlong ((hready'.lc_ne_zero_iff hdp).1 hmore)
        refine ⟨1, [command], ?_, ?_, List.forall_mem_cons.2 ⟨hlength, by simp⟩, ?_⟩
        · rw [List.replicate_one, sending_ok hblock, if_neg hlast]
          rfl
        · rw [List.replicate_one, sending_ok hblock, if_neg hlast]
          exact Traverse.mapM_eq_some_iff.2 (.cons hparse .nil)
        · rw [List.flatMap_singleton]
          exact List.take_of_length_le (by omega)

/-! ### The function -/

/-- The loop starts with the header in the array. -/
theorem xchgAPDUShort_eq (blockSize : UInt16) (cla ins p1 p2 : UInt32) (data : List UInt8)
    (rapduLen : ℕ) (capdu : Capdu) :
    ∃ capdu', Sending.Ready (ins &&& 0xff).toUInt8 (p1 &&& 0xff).toUInt8 (p2 &&& 0xff).toUInt8
        ⟨cla, data.length, data, capdu'⟩ ∧
      ∀ card, xchgAPDUShort blockSize cla ins p1 p2 data rapduLen capdu card =
        sending blockSize rapduLen ⟨cla, data.length, data, capdu'⟩ card := by
  have hlength : (capdu.front 1).length = 1 := Buffer.length_front (by decide)
  obtain ⟨capdu', h⟩ := capdu.exists_write INS [(ins &&& 0xff).toUInt8, (p1 &&& 0xff).toUInt8,
    (p2 &&& 0xff).toUInt8] (by
      have hsize : INS + 3 ≤ APDU_BUFFER_SIZE := by decide
      exact hsize)
  refine ⟨capdu', ⟨?_, rfl⟩, fun card => by rw [xchgAPDUShort, h]⟩
  have hfront : capdu'.front 4 = _ := Buffer.front_write h
  obtain ⟨cla', hcla⟩ := List.length_eq_one_iff.1 hlength
  rw [INS, hcla] at hfront
  rw [HasHeader, hfront]
  rfl

/-- **The data are sent as a chain exactly if they fit into one block of less than 256 bytes, and
the class byte is not that of a chain already.** -/
theorem delivers_iff {size : UInt16} (hpos : 0 < size) (hsize : size ≤ 256)
    (cla ins p1 p2 : UInt32) (data : List UInt8) (rapduLen : ℕ) (capdu : Capdu) :
    (∃ n, Delivers (setChainingLc size) data (xchgAPDUShort (setChainingLc size) cla ins p1 p2 data
        rapduLen capdu (List.replicate n ok))) ↔
      data.length ≤ size.toNat ∧ data.length < 256 ∧ cla &&& 0x10 = 0 := by
  have hblock : setChainingLc size = size := if_pos hsize
  rw [UInt16.lt_iff_toNat_lt] at hpos
  rw [UInt16.le_iff_toNat_le] at hsize
  have h256 : (256 : UInt16).toNat = 256 := rfl
  obtain ⟨capdu', hready, hxchg⟩ := xchgAPDUShort_eq size cla ins p1 p2 data rapduLen capdu
  simp only [hblock, hxchg]
  constructor
  · rintro ⟨n, hdelivers⟩
    by_cases hforever : size = 256 ∧ 256 ≤ data.length
    · obtain ⟨rfl, hlong⟩ := hforever
      cases (outcome_sending_256 hready.header hlong n).symm.trans hdelivers.1
    rw [← UInt16.toNat_inj] at hforever
    by_cases hlong : size.toNat < data.length
    · exact absurd hdelivers (not_delivers_sending hready hpos (by omega) hlong n)
    have hfits : data.length ≤ size.toNat := by omega
    have hlt : data.length < 256 := by omega
    refine ⟨hfits, hlt, ?_⟩
    cases n with
    | zero =>
        obtain ⟨s', len, hblock, -⟩ := hready.block hpos (.inr hlt)
        rw [List.replicate_zero, sending, hblock] at hdelivers
        cases hdelivers.1
    | succ n => exact (delivers_sending_one_iff hready hpos hlt hfits _).1 hdelivers
  · rintro ⟨hfits, hlt, hcla⟩
    exact ⟨1, (delivers_sending_one_iff hready hpos hlt hfits []).2 hcla⟩

/-- A short command in one block. -/
theorem delivers_one_block :
    (∃ n, Delivers (setChainingLc 256) [1, 2, 3] (xchgAPDUShort (setChainingLc 256) 0 1 0 0
        [1, 2, 3] 256 (Buffer.filled APDU_BUFFER_SIZE 0) (List.replicate n ok))) ↔
      [(1 : UInt8), 2, 3].length ≤ (256 : UInt16).toNat ∧ [(1 : UInt8), 2, 3].length < 256 ∧
        (0 : UInt32) &&& 0x10 = 0 :=
  delivers_iff (by decide) (by decide) 0 1 0 0 [1, 2, 3] 256 (Buffer.filled APDU_BUFFER_SIZE 0)

/-- With blocks of 2 bytes, a command with 3 bytes of data is not sent as a chain; and with blocks
of 256 bytes, one with 256 bytes is sent for ever. -/
theorem not_delivers_two_blocks :
    (∀ n, ¬ Delivers (setChainingLc 2) [1, 2, 3] (xchgAPDUShort (setChainingLc 2) 0 1 0 0 [1, 2, 3]
        256 (Buffer.filled APDU_BUFFER_SIZE 0) (List.replicate n ok))) ∧
      ∀ n, (xchgAPDUShort (setChainingLc 256) 0 1 0 0 (List.replicate 256 1) 256
        (Buffer.filled APDU_BUFFER_SIZE 0) (List.replicate n ok)).outcome = .waiting := by
  constructor
  · intro n
    obtain ⟨capdu, hready, hxchg⟩ := xchgAPDUShort_eq (setChainingLc 2) 0 1 0 0 [1, 2, 3] 256
      (Buffer.filled APDU_BUFFER_SIZE 0)
    rw [hxchg]
    have hlong : (setChainingLc 2).toNat < [(1 : UInt8), 2, 3].length := by decide
    exact not_delivers_sending hready (by decide) (by decide) hlong n
  · intro n
    obtain ⟨capdu, hready, hxchg⟩ := xchgAPDUShort_eq (setChainingLc 256) 0 1 0 0
      (List.replicate 256 1) 256 (Buffer.filled APDU_BUFFER_SIZE 0)
    rw [hxchg]
    exact outcome_sending_256 hready.header (List.length_replicate.ge) n

end Nfc
