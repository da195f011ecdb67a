/-
**The chaining of responses to short commands.**

The card may answer a command in several blocks.  Each of them but the last ends with a status whose
first byte is `61`, and the next one is asked for by a command of its own.  The blocks are collected
in the array of the caller, and the status of the last one is returned.

Here the card does what it likes: it may send blocks that are too long or too short, or too late, or
none, and it may give any answer to a block of the command that is not the last.

Main definitions:

* `ResponseChain` — the blocks of a response, with the data and the status that they stand for;
* `getResponse` — the command that asks for the next block;
* `Progresses` — no pass of the sending loop sends an empty block with data left;
* `Exchanges` — what the card has to do for a response to be returned.

Main results:

* `receiving_of_chain`, `chain_of_receiving` — the receiving loop returns what a chain stands for,
  and nothing else;
* `exchange_returned_iff` — **a response is returned exactly if the card has answered each block of the
  command in time and with at most the length that was asked for, and its answers from the last of
  them on are a chain for the response that fits into the array**.
-/

import U2F.Nfc.OutputChaining

set_option relaxedAutoImplicit false
set_option autoImplicit false

namespace Nfc

/-! ### Responses in blocks -/

/-- The blocks of a response, the data that they carry, and the status at the end. -/
inductive ResponseChain (blockSize : ℕ) : List (List UInt8) → List UInt8 → ℕ → Prop
  | last {body : List UInt8} {sw1 sw2 : UInt8} (hbody : body.length ≤ blockSize)
      (hlast : sw1 ≠ 0x61) :
      ResponseChain blockSize [body ++ [sw1, sw2]] body (sw1.toNat * 256 + sw2.toNat)
  | more {body : List UInt8} {sw2 : UInt8} {blocks : List (List UInt8)} {data : List UInt8}
      {sw12 : ℕ} (hbody : body.length ≤ blockSize) (hmore : ResponseChain blockSize blocks data sw12) :
      ResponseChain blockSize ((body ++ [0x61, sw2]) :: blocks) (body ++ data) sw12

theorem ResponseChain.ne_nil {blockSize : ℕ} {blocks : List (List UInt8)} {data : List UInt8}
    {sw12 : ℕ} (h : ResponseChain blockSize blocks data sw12) : blocks ≠ [] := by
  cases h <;> exact List.cons_ne_nil _ _

/-- Each block is of a length that was asked for. -/
theorem ResponseChain.length_head_le {blockSize : ℕ} {block : List UInt8}
    {blocks : List (List UInt8)} {data : List UInt8} {sw12 : ℕ}
    (h : ResponseChain blockSize (block :: blocks) data sw12) : block.length ≤ blockSize + 2 := by
  cases h with
  | last hbody _ =>
      rw [List.length_append]
      exact Nat.add_le_add_right hbody 2
  | more hbody _ =>
      rw [List.length_append]
      exact Nat.add_le_add_right hbody 2

/-- A response that comes in time. -/
def inTime (rapdu : List UInt8) : Transmission := .response rapdu true

/-- The command that asks for the next block. -/
def getResponse (blockSize : UInt16) : CommandApdu :=
  ⟨0, 0xc0, 0, 0, [], if expected blockSize = 0 then 256 else (expected blockSize).toNat⟩

theorem accept_eq_ok_iff {blockSize : UInt16} {transmission : Transmission} {rapdu : List UInt8} :
    accept blockSize transmission = .ok rapdu ↔
      transmission = inTime rapdu ∧ rapdu.length ≤ blockSize.toNat + 2 := by
  cases transmission with
  | pcscError => simp [accept, inTime]
  | response rapdu' timely =>
      rw [accept, inTime]
      constructor
      · intro h
        split at h
        · cases h
        split at h
        · cases h
        · obtain rfl := Except.ok.inj h
          simp_all
      · rintro ⟨h, hlength⟩
        obtain ⟨rfl, rfl⟩ := Transmission.response.inj h
        rw [if_neg (by omega)]
        rfl

/-- What is not accepted ends the exchange without a response. -/
theorem accept_ne_returned {blockSize : UInt16} {transmission : Transmission} {outcome : Outcome}
    (h : accept blockSize transmission = .error outcome) (sw12 : ℕ) (rapdu : List UInt8) :
    outcome ≠ .returned sw12 rapdu := by
  rintro rfl
  cases transmission with
  | pcscError => cases h
  | response rapdu' timely =>
      rw [accept] at h
      split at h
      · cases h
      split at h <;> cases h

/-! ### The receiving loop -/

variable {blockSize : UInt16} {rapduLen sw12 : ℕ} {capdu : Capdu} {out rapdu data : List UInt8}

/-- A block with its status taken apart. -/
theorem eq_append_status (hlength : 2 ≤ rapdu.length) :
    ∃ body sw1 sw2, rapdu = body ++ [sw1, sw2] := by
  have hdrop : (rapdu.drop (rapdu.length - 2)).length = 2 := by
    rw [List.length_drop]
    omega
  obtain ⟨sw1, sw2, hstatus⟩ := List.length_eq_two.1 hdrop
  exact ⟨rapdu.take (rapdu.length - 2), sw1, sw2, by rw [← hstatus, List.take_append_drop]⟩

/-- One pass of the loop. -/
theorem receiving_append (body : List UInt8) (sw1 sw2 : UInt8) (card : List Transmission) :
    ∃ capdu', capdu'.front 5 = [0, 0xc0, 0, 0, expected blockSize] ∧
      receiving blockSize rapduLen capdu out (body ++ [sw1, sw2]) card =
        if out.length + body.length > rapduLen then ⟨[], .failed⟩
        else if sw1 ≠ 0x61 then ⟨[], .returned (sw1.toNat * 256 + sw2.toNat) (out ++ body)⟩
        else match card with
          | [] => ⟨[(capdu', 5)], .waiting⟩
          | transmission :: card => .cons (capdu', 5)
              (match accept blockSize transmission with
              | .error outcome => ⟨[], outcome⟩
              | .ok rapdu => receiving blockSize rapduLen capdu' (out ++ body) rapdu card) := by
  obtain ⟨capdu', hwrite⟩ := capdu.exists_write CLA [0, 0xc0, 0, 0, expected blockSize] (by
    have hroom : CLA + 5 ≤ APDU_BUFFER_SIZE := by decide
    exact hroom)
  have hfront : capdu'.front 5 = [0, 0xc0, 0, 0, expected blockSize] := Buffer.front_write hwrite
  refine ⟨capdu', hfront, ?_⟩
  have hlength : (body ++ [sw1, sw2]).length = body.length + 2 := List.length_append
  have hrlen : (body ++ [sw1, sw2]).length - 2 = body.length := by omega
  have hsw1 : (body ++ [sw1, sw2]).getD body.length 0 = sw1 := by simp
  have hsw2 : (body ++ [sw1, sw2]).getD (body.length + 1) 0 = sw2 := by simp
  have htake : (body ++ [sw1, sw2]).take body.length = body := List.take_left
  rw [receiving.eq_def, if_neg (by omega)]
  simp only [hrlen, hsw1, hsw2, htake, hwrite]
  cases card <;> rfl

/-- **What a chain stands for is returned**, and each block but the first is asked for. -/
theorem receiving_of_chain {blocks : List (List UInt8)} {later : List Transmission}
    (hchain : ResponseChain blockSize.toNat (rapdu :: blocks) data sw12)
    (hfits : (out ++ data).length ≤ rapduLen) :
    (receiving blockSize rapduLen capdu out rapdu (blocks.map inTime ++ later)).outcome =
        .returned sw12 (out ++ data) ∧
      (receiving blockSize rapduLen capdu out rapdu
        (blocks.map inTime ++ later)).transmitted.mapM CommandApdu.parseShort =
          some (List.replicate blocks.length (getResponse blockSize)) := by
  rw [List.length_append] at hfits
  generalize hall : rapdu :: blocks = all at hchain
  induction hchain generalizing capdu out rapdu blocks with
  | @last body sw1 sw2 hbody hlast =>
      obtain ⟨rfl, rfl⟩ := List.cons.inj hall
      obtain ⟨capdu', -, hpass⟩ := receiving_append body sw1 sw2 later
      rw [List.map_nil, List.nil_append, hpass, if_neg (by omega), if_pos hlast]
      exact ⟨rfl, rfl⟩
  | @more body sw2 rest data sw12 hbody hmore ih =>
      obtain ⟨rfl, rfl⟩ := List.cons.inj hall
      obtain ⟨next, blocks, rfl⟩ := List.exists_cons_of_ne_nil hmore.ne_nil
      obtain ⟨capdu', hfront, hpass⟩ := receiving_append body 0x61 sw2
        ((next :: blocks).map inTime ++ later)
      have haccept : accept blockSize (inTime next) = .ok next :=
        accept_eq_ok_iff.2 ⟨rfl, hmore.length_head_le⟩
      rw [List.length_append] at hfits
      have hfits' : (out ++ body).length + data.length ≤ rapduLen := by
        rw [List.length_append]
        omega
      obtain ⟨houtcome, hcommands⟩ := @ih capdu' _ _ _ hfits' rfl
      rw [hpass, if_neg (by omega), if_neg (by simp), List.map_cons, List.cons_append]
      simp only [haccept]
      refine ⟨?_, Traverse.mapM_eq_some_iff.2 (.cons ?_ (Traverse.mapM_eq_some_iff.1 hcommands))⟩
      · rw [← List.append_assoc]
        exact houtcome
      · change CommandApdu.parseShort (capdu'.front 5) = some (getResponse blockSize)
        rw [hfront]
        rfl

/-- What one pass needs for the loop to return: a block with a status, which is that of the last
block or is followed by another one. -/
theorem pass_of_receiving {card : List Transmission} {response : List UInt8}
    (hshort : rapdu.length ≤ blockSize.toNat + 2)
    (houtcome : (receiving blockSize rapduLen capdu out rapdu card).outcome =
      .returned sw12 response) :
    ∃ body sw1 sw2, rapdu = body ++ [sw1, sw2] ∧ body.length ≤ blockSize.toNat ∧
      (sw1 ≠ 0x61 ∧ sw12 = sw1.toNat * 256 + sw2.toNat ∧ response = out ++ body ∧
          response.length ≤ rapduLen ∨
        sw1 = 0x61 ∧ ∃ next card' capdu', card = inTime next :: card' ∧
          next.length ≤ blockSize.toNat + 2 ∧
          (receiving blockSize rapduLen capdu' (out ++ body) next card').outcome =
            .returned sw12 response) := by
  have hlong : 2 ≤ rapdu.length := by
    by_contra hmalformed
    rw [receiving.eq_def, if_pos (by omega)] at houtcome
    cases houtcome
  obtain ⟨body, sw1, sw2, rfl⟩ := eq_append_status hlong
  rw [List.length_append] at hshort
  refine ⟨body, sw1, sw2, rfl, Nat.le_of_add_le_add_right hshort, ?_⟩
  obtain ⟨capdu', -, hpass⟩ := receiving_append body sw1 sw2 card
  rw [hpass] at houtcome
  split at houtcome
  · cases houtcome
  rename_i hfits
  split at houtcome
  · rename_i hlast
    obtain ⟨rfl, rfl⟩ := Outcome.returned.inj houtcome
    refine .inl ⟨hlast, rfl, rfl, ?_⟩
    rw [List.length_append]
    omega
  · rename_i hmore
    refine .inr ⟨not_not.1 hmore, ?_⟩
    cases card with
    | nil => cases houtcome
    | cons transmission card =>
        cases haccept : accept blockSize transmission with
        | error outcome =>
            simp only [haccept] at houtcome
            exact absurd houtcome (accept_ne_returned haccept _ _)
        | ok next =>
            simp only [haccept] at houtcome
            obtain ⟨rfl, hnext⟩ := accept_eq_ok_iff.1 haccept
            exact ⟨next, card, capdu', rfl, hnext, houtcome⟩

/-- **Nothing is returned but what a chain stands for.** -/
theorem chain_of_receiving {card : List Transmission} {response : List UInt8}
    (hshort : rapdu.length ≤ blockSize.toNat + 2)
    (houtcome : (receiving blockSize rapduLen capdu out rapdu card).outcome =
      .returned sw12 response) :
    ∃ blocks later data, card = blocks.map inTime ++ later ∧
      ResponseChain blockSize.toNat (rapdu :: blocks) data sw12 ∧ response = out ++ data ∧
      response.length ≤ rapduLen := by
  induction card generalizing capdu out rapdu with
  | nil =>
      obtain ⟨body, sw1, sw2, rfl, hbody, ⟨hlast, rfl, rfl, hroom⟩ | ⟨-, _, _, _, hcard, -⟩⟩ :=
        pass_of_receiving hshort houtcome
      · exact ⟨[], [], body, rfl, .last hbody hlast, rfl, hroom⟩
      · cases hcard
  | cons transmission card ih =>
      obtain ⟨body, sw1, sw2, rfl, hbody, ⟨hlast, rfl, rfl, hroom⟩ |
        ⟨rfl, next, card', capdu', hcard, hnext, hrest⟩⟩ := pass_of_receiving hshort houtcome
      · exact ⟨[], transmission :: card, body, rfl, .last hbody hlast, rfl, hroom⟩
      · obtain ⟨rfl, rfl⟩ := List.cons.inj hcard
        obtain ⟨blocks, later, data, rfl, hchain, rfl, hroom⟩ := ih hnext hrest
        exact ⟨next :: blocks, later, body ++ data, rfl, .more hbody hchain,
          List.append_assoc out body data, hroom⟩

/-! ### The sending loop -/

variable {ins p1 p2 : UInt8} {s : Sending} {card : List Transmission}

/-- No block is empty while there are data left: the size of a block is its length byte. -/
def Progresses (blockSize : UInt16) (n : ℕ) : Prop :=
  n = 0 ∨ 0 < blockSize.toNat ∧ (blockSize.toNat < 256 ∨ n < 256)

/-- **What a pass sends**, also if there is nothing to send. -/
theorem Sending.Ready.block_of_progresses (h : s.Ready ins p1 p2)
    (hprogresses : Progresses blockSize s.dp.length) :
    ∃ s' len, s.block blockSize = some (s', len) ∧ s'.Ready ins p1 p2 ∧
      s'.dp = s.dp.drop blockSize.toNat ∧
      ∃ ne, CommandApdu.parseShort (s'.capdu.front len) =
        some ⟨(s.cla &&& 0xff).toUInt8, ins, p1, p2, s.dp.take blockSize.toNat, ne⟩ := by
  rcases hprogresses with hzero | ⟨hpos, hbyte⟩
  · obtain ⟨hheader, hleft⟩ := h
    obtain ⟨capdu, hblock, hheader', hfront⟩ :=
      Sending.block_empty blockSize hheader (hleft.trans hzero)
    have hnil : s.dp = [] := List.eq_nil_of_length_eq_zero hzero
    refine ⟨_, 5, hblock, ⟨hheader', hleft⟩, ?_, ?_⟩
    · rw [hnil, List.drop_nil]
    · rw [hfront, hnil, List.take_nil]
      exact ⟨_, rfl⟩
  · rw [← h.left] at hbyte
    obtain ⟨s', len, hblock, hready, -, hdp, hparse⟩ := h.block hpos hbyte
    exact ⟨s', len, hblock, hready, hdp, hparse⟩

/-- An answer to a block of the command. -/
theorem sending_inTime {s' : Sending} {len : ℕ} (hblock : s.block blockSize = some (s', len))
    (hshort : rapdu.length ≤ blockSize.toNat + 2) (card : List Transmission) :
    sending blockSize rapduLen s (inTime rapdu :: card) = .cons (s'.capdu, len)
      (if s'.lc ≠ 0 then sending blockSize rapduLen s' card
        else receiving blockSize rapduLen s'.capdu [] rapdu card) := by
  have haccept : accept blockSize (inTime rapdu) = .ok rapdu := accept_eq_ok_iff.2 ⟨rfl, hshort⟩
  rw [sending, hblock]
  simp only [haccept]

/-- The commands carry the data in blocks. -/
structure Carry (blockSize : ℕ) (ins p1 p2 : UInt8) (data : List UInt8)
    (commands : List CommandApdu) : Prop where
  header : ∀ command ∈ commands, command.ins = ins ∧ command.p1 = p1 ∧ command.p2 = p2
  blocks : ∀ command ∈ commands, command.data.length ≤ blockSize
  carries : commands.flatMap CommandApdu.data = data

/-- What the card has to do for a response to be returned: it answers all blocks of the command in
time, whatever the answers are, and from the last of them on they are a chain for the response. -/
structure Exchanges (blockSize rapduLen n : ℕ) (acks blocks : List (List UInt8)) (sw12 : ℕ)
    (response : List UInt8) : Prop where
  passes : acks.length = (n - 1) / blockSize
  short : ∀ ack ∈ acks, ack.length ≤ blockSize + 2
  chain : ResponseChain blockSize blocks response sw12
  room : response.length ≤ rapduLen

/-- One block is enough exactly if no answer comes before that to the last block. -/
theorem Progresses.pred_div_eq_zero_iff {n : ℕ} (h : Progresses blockSize n) :
    (n - 1) / blockSize.toNat = 0 ↔ n ≤ blockSize.toNat := by
  rcases h with rfl | ⟨hpos, -⟩
  · simp
  · rw [Nat.div_eq_zero_iff_lt hpos]
    omega

/-- After a block there is one answer less to come. -/
theorem pred_div_eq_succ {n blockSize : ℕ} (hpos : 0 < blockSize) (hmore : blockSize < n) :
    (n - 1) / blockSize = (n - blockSize - 1) / blockSize + 1 := by
  rw [Nat.div_eq_sub_div hpos (by omega)]
  congr 2
  omega

theorem Progresses.sub {n : ℕ} (h : Progresses blockSize n) :
    Progresses blockSize (n - blockSize.toNat) := by
  rcases h with rfl | ⟨hpos, hbyte⟩
  · exact .inl (Nat.zero_sub _)
  · exact .inr ⟨hpos, by omega⟩

theorem Progresses.pos {n : ℕ} (h : Progresses blockSize n) (hmore : blockSize.toNat < n) :
    0 < blockSize.toNat := by
  rcases h with rfl | ⟨hpos, -⟩
  · exact absurd hmore (Nat.not_lt_zero _)
  · exact hpos

/-- **Whatever the card answers along the way, the response is returned.** -/
theorem sending_of_exchanges {acks blocks : List (List UInt8)} {response : List UInt8}
    (hready : s.Ready ins p1 p2) (hprogresses : Progresses blockSize s.dp.length)
    (hexchanges : Exchanges blockSize.toNat rapduLen s.dp.length acks blocks sw12 response)
    (later : List Transmission) :
    (sending blockSize rapduLen s ((acks ++ blocks).map inTime ++ later)).outcome =
        .returned sw12 response ∧
      ∃ commands, (sending blockSize rapduLen s
          ((acks ++ blocks).map inTime ++ later)).transmitted.mapM CommandApdu.parseShort =
            some (commands ++ List.replicate (blocks.length - 1) (getResponse blockSize)) ∧
        commands.length = acks.length + 1 ∧
        Carry blockSize.toNat ins p1 p2 s.dp commands := by
  obtain ⟨hpasses, hshort, hchain, hroom⟩ := hexchanges
  induction acks generalizing s with
  | nil =>
      obtain ⟨s', len, hblock, hready', hdp, ne, hparse⟩ := hready.block_of_progresses hprogresses
      have hfits : s.dp.length ≤ blockSize.toNat := hprogresses.pred_div_eq_zero_iff.1 hpasses.symm
      have hlast : ¬ s'.lc ≠ 0 := fun hmore =>
        absurd ((hready'.lc_ne_zero_iff hdp).1 hmore) (not_lt.2 hfits)
      obtain ⟨block, blocks, rfl⟩ := List.exists_cons_of_ne_nil hchain.ne_nil
      obtain ⟨houtcome, hcommands⟩ := @receiving_of_chain _ _ _ s'.capdu [] _ _ _ later hchain hroom
      rw [List.nil_append, List.map_cons, List.cons_append,
        sending_inTime hblock hchain.length_head_le, if_neg hlast]
      rw [List.take_of_length_le hfits] at hparse
      exact ⟨houtcome, [_], Traverse.mapM_eq_some_iff.2
        (.cons hparse (Traverse.mapM_eq_some_iff.1 hcommands)), rfl, by simp, by simpa, by simp⟩
  | cons ack acks ih =>
      obtain ⟨s', len, hblock, hready', hdp, ne, hparse⟩ := hready.block_of_progresses hprogresses
      have hlong : blockSize.toNat < s.dp.length := by
        by_contra hfits
        rw [hprogresses.pred_div_eq_zero_iff.2 (not_lt.1 hfits)] at hpasses
        cases hpasses
      have hpasses' : acks.length = (s'.dp.length - 1) / blockSize.toNat := by
        rw [pred_div_eq_succ (hprogresses.pos hlong) hlong] at hpasses
        rw [hdp, List.length_drop]
        exact Nat.succ.inj hpasses
      have hprogresses' : Progresses blockSize s'.dp.length := by
        rw [hdp, List.length_drop]
        exact hprogresses.sub
      obtain ⟨hack, hacks⟩ := List.forall_mem_cons.1 hshort
      obtain ⟨houtcome, commands, hcommands, hlength, hcarry⟩ :=
        ih hready' hprogresses' hpasses' hacks
      rw [List.cons_append, List.map_cons, List.cons_append, sending_inTime hblock hack,
        if_pos ((hready'.lc_ne_zero_iff hdp).2 hlong)]
      refine ⟨houtcome, _ :: commands, Traverse.mapM_eq_some_iff.2
        (.cons hparse (Traverse.mapM_eq_some_iff.1 hcommands)), congrArg (· + 1) hlength, ?_, ?_, ?_⟩
      · exact List.forall_mem_cons.2 ⟨⟨rfl, rfl, rfl⟩, hcarry.header⟩
      · exact List.forall_mem_cons.2 ⟨List.length_take_le _ _, hcarry.blocks⟩
      · rw [List.flatMap_cons, hcarry.carries, hdp, List.take_append_drop]

/-- **A response that is returned is that of an exchange.** -/
theorem exchanges_of_sending {response : List UInt8} (hready : s.Ready ins p1 p2)
    (hprogresses : Progresses blockSize s.dp.length)
    (houtcome : (sending blockSize rapduLen s card).outcome = .returned sw12 response) :
    ∃ acks blocks later, card = (acks ++ blocks).map inTime ++ later ∧
      Exchanges blockSize.toNat rapduLen s.dp.length acks blocks sw12 response := by
  induction card generalizing s with
  | nil =>
      obtain ⟨s', len, hblock, -⟩ := hready.block_of_progresses hprogresses
      rw [sending, hblock] at houtcome
      cases houtcome
  | cons transmission card ih =>
      obtain ⟨s', len, hblock, hready', hdp, -⟩ := hready.block_of_progresses hprogresses
      cases haccept : accept blockSize transmission with
      | error outcome =>
          rw [sending, hblock] at houtcome
          simp only [haccept] at houtcome
          exact absurd houtcome (accept_ne_returned haccept _ _)
      | ok rapdu =>
          obtain ⟨rfl, hshort⟩ := accept_eq_ok_iff.1 haccept
          rw [sending_inTime hblock hshort] at houtcome
          by_cases hlong : blockSize.toNat < s.dp.length
          · rw [if_pos ((hready'.lc_ne_zero_iff hdp).2 hlong)] at houtcome
            have hleft : s'.dp.length = s.dp.length - blockSize.toNat := by
              rw [hdp, List.length_drop]
            obtain ⟨acks, blocks, later, rfl, hpasses, hacks, hchain, hroom⟩ :=
              ih hready' (hleft ▸ hprogresses.sub) houtcome
            refine ⟨rapdu :: acks, blocks, later, rfl, ?_,
              List.forall_mem_cons.2 ⟨hshort, hacks⟩, hchain, hroom⟩
            rw [pred_div_eq_succ (hprogresses.pos hlong) hlong, ← hleft, ← hpasses,
              List.length_cons]
          · rw [if_neg fun hmore => hlong ((hready'.lc_ne_zero_iff hdp).1 hmore)] at houtcome
            obtain ⟨blocks, later, data, rfl, hchain, rfl, hroom⟩ :=
              chain_of_receiving hshort houtcome
            exact ⟨[], rapdu :: blocks, later, rfl,
              (hprogresses.pred_div_eq_zero_iff.2 (not_lt.1 hlong)).symm, by simp, hchain, hroom⟩

/-- The length byte of a block with data in it is zero when there is no progress. -/
theorem Sending.count_eq_zero (hblockSize : blockSize.toNat ≤ 256)
    (hprogresses : ¬ Progresses blockSize s.lc) : s.count blockSize = 0 := by
  have hdata : s.lc ≠ 0 := fun hzero => hprogresses (.inl hzero)
  have hbyte : ¬ (0 < blockSize.toNat ∧ (blockSize.toNat < 256 ∨ s.lc < 256)) :=
    fun h => hprogresses (.inr h)
  have hcount : (if s.lc > blockSize.toNat then blockSize.toNat else s.lc) = 0 ∨
      (if s.lc > blockSize.toNat then blockSize.toNat else s.lc) = 256 := by
    split <;> omega
  rcases hcount with h | h <;> rw [Sending.count, h] <;> rfl

/-- **Without progress every pass leaves everything to be sent**, and no response is returned. -/
theorem not_returned_of_not_progresses {response : List UInt8} (hblockSize : blockSize.toNat ≤ 256)
    (hheader : HasHeader ins p1 p2 s.capdu) (hprogresses : ¬ Progresses blockSize s.lc) :
    (sending blockSize rapduLen s card).outcome ≠ .returned sw12 response := by
  induction card generalizing s with
  | nil =>
      rw [sending]
      cases s.block blockSize <;> exact Outcome.noConfusion
  | cons transmission card ih =>
      have hdata : s.lc ≠ 0 := fun hzero => hprogresses (.inl hzero)
      have hcount : (s.count blockSize).toNat = 0 := by
        rw [Sending.count_eq_zero hblockSize hprogresses]
        rfl
      obtain ⟨capdu, hblock, hheader', -⟩ :=
        Sending.block_data blockSize hheader hdata (by rw [hcount]; exact Nat.zero_le _)
      rw [hcount] at hblock
      cases haccept : accept blockSize transmission with
      | error outcome =>
          rw [sending, hblock]
          simp only [haccept]
          exact accept_ne_returned haccept _ _
      | ok rapdu =>
          obtain ⟨rfl, hshort⟩ := accept_eq_ok_iff.1 haccept
          rw [sending_inTime hblock hshort, if_pos (by exact hdata)]
          exact ih hheader' hprogresses

/-! ### The function -/

/-- **A response is returned exactly if the command can be sent, the card has answered each of its
blocks in time and with at most what was asked for, and the answers from the last of them on are a
chain for the response, which fits into the array of the caller.**  Then the card has got the data,
block by block, and has been asked for each further block of the response once. -/
theorem exchange_returned_iff (size : UInt16) (cla ins p1 p2 : UInt32) (data : List UInt8) (rapduLen : ℕ)
    (capdu : Capdu) (card : List Transmission) (sw12 : ℕ) (response : List UInt8) :
    (xchgAPDUShort (setChainingLc size) cla ins p1 p2 data rapduLen capdu card).outcome =
        .returned sw12 response ↔
      Progresses (setChainingLc size) data.length ∧ ∃ acks blocks later,
        card = (acks ++ blocks).map inTime ++ later ∧
        Exchanges (setChainingLc size).toNat rapduLen data.length acks blocks sw12 response ∧
        ∃ commands, (xchgAPDUShort (setChainingLc size) cla ins p1 p2 data rapduLen capdu
              card).transmitted.mapM CommandApdu.parseShort =
            some (commands ++
              List.replicate (blocks.length - 1) (getResponse (setChainingLc size))) ∧
          commands.length = acks.length + 1 ∧
          Carry (setChainingLc size).toNat (ins &&& 0xff).toUInt8 (p1 &&& 0xff).toUInt8
            (p2 &&& 0xff).toUInt8 data commands := by
  have hblockSize : (setChainingLc size).toNat ≤ 256 := by
    rw [setChainingLc]
    split
    · rename_i hsize
      exact UInt16.le_iff_toNat_le.1 hsize
    · exact le_rfl
  obtain ⟨capdu', hready, hxchg⟩ :=
    xchgAPDUShort_eq (setChainingLc size) cla ins p1 p2 data rapduLen capdu
  rw [hxchg]
  constructor
  · intro houtcome
    have hprogresses : Progresses (setChainingLc size) data.length := by
      by_contra hprogresses
      exact not_returned_of_not_progresses hblockSize hready.header hprogresses houtcome
    obtain ⟨acks, blocks, later, rfl, hexchanges⟩ :=
      exchanges_of_sending hready hprogresses houtcome
    exact ⟨hprogresses, acks, blocks, later, rfl, hexchanges,
      (sending_of_exchanges hready hprogresses hexchanges later).2⟩
  · rintro ⟨hprogresses, acks, blocks, later, rfl, hexchanges, -⟩
    exact (sending_of_exchanges hready hprogresses hexchanges later).1

end Nfc
