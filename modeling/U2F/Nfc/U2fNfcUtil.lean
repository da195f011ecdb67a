/-
**Commands to a card (`u2f_nfc_util.c`).**

`xchgAPDUShort` sends a command in blocks of the size that `setChainingLc` sets, and reads the
response in blocks too.  `xchgAPDUExtended` sends a command of extended length in one piece.  Both
lay the command out in a local array, and hand the array and a length to `printCmdAPDU` and to the
card.

The card is given by what it does with each of the commands that it gets.  If there are fewer
answers than commands, the program is left waiting for the next one.

Main definitions:

* `setChainingLc` — the size of the blocks;
* `Sending.block` — the body of the sending loop;
* `sending`, `receiving` — the two loops;
* `xchgAPDUShort`, `xchgAPDUExtended` — the functions;
* `Trace` — the commands that are sent, and how it ends.
-/

import U2F.Lib.Buffer

set_option relaxedAutoImplicit false
set_option autoImplicit false

namespace Nfc

def APDU_BUFFER_SIZE : ℕ := 5000

def CLA : ℕ := 0

def INS : ℕ := 1

def LC : ℕ := 4

def DATA_NON_EXTENDED : ℕ := 5

/-- The size of the blocks, after `setChainingLc(size)`. -/
def setChainingLc (size : UInt16) : UInt16 := if size ≤ 256 then size else 256

/-- `blockSize == 256 ? 0 : blockSize`, as a byte -/
def expected (blockSize : UInt16) : UInt8 := (if blockSize = 256 then 0 else blockSize).toUInt8

/-- The array in which a command is laid out. -/
abbrev Capdu : Type := Buffer APDU_BUFFER_SIZE

/-- What `SCardTransmit` does. -/
inductive Transmission
  | pcscError
  /-- The response, and whether the time that it took is above zero and below the limit. -/
  | response (rapdu : List UInt8) (inTime : Bool)

/-- How an exchange ends. -/
inductive Outcome
  /-- The response to the last command has not come yet. -/
  | waiting
  /-- `check` has left the program. -/
  | exited
  /-- `SW_ERROR_ANY` is returned. -/
  | failed
  /-- A byte outside an array is written or read. -/
  | outOfBounds
  /-- The status is returned, and the response is in the array of the caller. -/
  | returned (sw12 : ℕ) (rapdu : List UInt8)

/-- The commands of an exchange, each as it is handed over: the array, and a length. -/
structure Trace where
  log : List (Capdu × ℕ)
  outcome : Outcome

/-- One more command at the beginning. -/
def Trace.cons (command : Capdu × ℕ) (trace : Trace) : Trace :=
  ⟨command :: trace.log, trace.outcome⟩

/-- The bytes that the card gets. -/
def Trace.transmitted (trace : Trace) : List (List UInt8) :=
  trace.log.map fun command => command.1.front command.2

/-- What is done with a response before it is looked into. -/
def accept (blockSize : UInt16) : Transmission → Except Outcome (List UInt8)
  | .pcscError => .error .exited
  | .response rapdu inTime =>
      -- longer than Le
      if rapdu.length > blockSize.toNat + 2 then .error .failed
      else if !inTime then .error .failed
      else .ok rapdu

/-! ### Short commands -/

/-- The variables of the sending loop. -/
structure Sending where
  cla : UInt32
  lc : ℕ
  dp : List UInt8
  capdu : Capdu

/-- The body of the sending loop up to the transmission: the variables after it, and `len`. -/
def Sending.block (blockSize : UInt16) (s : Sending) : Option (Sending × ℕ) := do
  let capdu ← s.capdu.write CLA [(s.cla &&& 0xff).toUInt8]
  let cla := if s.lc > blockSize.toNat then s.cla ||| 0x10 else s.cla
  if s.lc ≠ 0 then
    let count := UInt8.ofNat (if s.lc > blockSize.toNat then blockSize.toNat else s.lc)
    let capdu ← capdu.write LC [count]
    let capdu ← capdu.write DATA_NON_EXTENDED (s.dp.take count.toNat)
    let capdu ← capdu.write (DATA_NON_EXTENDED + count.toNat) [expected blockSize]
    return (⟨cla, s.lc - count.toNat, s.dp.drop blockSize.toNat, capdu⟩, 6 + count.toNat)
  else
    let capdu ← capdu.write LC [expected blockSize]
    return (⟨cla, s.lc, s.dp, capdu⟩, 5)

/-- The loop that reads the response: `out` has been read before, and `rapdu` is the next block. -/
def receiving (blockSize : UInt16) (rapduLen : ℕ) (capdu : Capdu) (out rapdu : List UInt8)
    (card : List Transmission) : Trace :=
  if rapdu.length < 2 then ⟨[], .failed⟩ -- malformed
  else
    let rlen := rapdu.length - 2
    let sw1 := rapdu.getD rlen 0
    let sw2 := rapdu.getD (rlen + 1) 0
    if out.length + rlen > rapduLen then ⟨[], .failed⟩ -- buffer overflow
    else if sw1 ≠ 0x61 then
      ⟨[], .returned (sw1.toNat * 256 + sw2.toNat) (out ++ rapdu.take rlen)⟩
    else
      -- read the next block
      match capdu.write CLA [0, 0xc0, 0, 0, expected blockSize] with
      | none => ⟨[], .outOfBounds⟩
      | some capdu =>
          match card with
          | [] => ⟨[(capdu, 5)], .waiting⟩
          | transmission :: card => .cons (capdu, 5)
              (match accept blockSize transmission with
              | .error outcome => ⟨[], outcome⟩
              | .ok rapdu' =>
                  receiving blockSize rapduLen capdu (out ++ rapdu.take rlen) rapdu' card)

/-- The loop that sends the command in blocks.  A block may be answered by anything: that the answer
to one that is not the last is not `90 00` is only printed. -/
def sending (blockSize : UInt16) (rapduLen : ℕ) (s : Sending) : List Transmission → Trace
  | [] =>
      match s.block blockSize with
      | none => ⟨[], .outOfBounds⟩
      | some (s', len) => ⟨[(s'.capdu, len)], .waiting⟩
  | transmission :: card =>
      match s.block blockSize with
      | none => ⟨[], .outOfBounds⟩
      | some (s', len) => .cons (s'.capdu, len)
          (match accept blockSize transmission with
          | .error outcome => ⟨[], outcome⟩
          | .ok rapdu =>
              if s'.lc ≠ 0 then sending blockSize rapduLen s' card
              else receiving blockSize rapduLen s'.capdu [] rapdu card)

/-- `rapduLen` is the size of the caller's array, and `capdu` what is in the local one at first. -/
def xchgAPDUShort (blockSize : UInt16) (cla ins p1 p2 : UInt32) (data : List UInt8)
    (rapduLen : ℕ) (capdu : Capdu) (card : List Transmission) : Trace :=
  match capdu.write INS [(ins &&& 0xff).toUInt8, (p1 &&& 0xff).toUInt8, (p2 &&& 0xff).toUInt8] with
  | none => ⟨[], .outOfBounds⟩
  | some capdu => sending blockSize rapduLen ⟨cla, data.length, data, capdu⟩ card

/-! ### Extended commands -/

/-- A length in two bytes. -/
def lengthBytes (n : ℕ) : List UInt8 := [UInt8.ofNat (n / 256), UInt8.ofNat n]

/-- The command of `xchgAPDUExtended`, and its length. -/
def extendedCommand (cla ins p1 p2 : UInt32) (data : List UInt8) (rapduLen : ℕ) (capdu : Capdu) :
    Option (Capdu × ℕ) := do
  let capdu ← capdu.write CLA [(cla &&& 0xff).toUInt8, (ins &&& 0xff).toUInt8,
    (p1 &&& 0xff).toUInt8, (p2 &&& 0xff).toUInt8]
  let lc := data.length
  if lc ≠ 0 then
    -- Case 4E, lc coded on 3 bytes, le coded on 2 bytes
    let capdu ← capdu.write 4 (0 :: lengthBytes lc)
    let capdu ← capdu.write 7 data
    let capdu ← capdu.write (7 + lc) (lengthBytes rapduLen)
    return (capdu, lc + 9)
  else
    -- Case 2E, lc omitted, le coded on 3 bytes
    let capdu ← capdu.write 4 (0 :: lengthBytes rapduLen)
    return (capdu, 7)

/-- The card writes its response to the array of the caller, which has room for the status too. -/
def xchgAPDUExtended (cla ins p1 p2 : UInt32) (data : List UInt8) (rapduLen : ℕ) (capdu : Capdu)
    (card : List Transmission) : Trace :=
  match extendedCommand cla ins p1 p2 data rapduLen capdu with
  | none => ⟨[], .outOfBounds⟩
  | some command =>
      match card with
      | [] => ⟨[command], .waiting⟩
      | .pcscError :: _ => ⟨[command], .exited⟩
      | .response rapdu inTime :: _ =>
          let rlen := rapdu.length
          let sw1 := rapdu.getD (rlen - 2) 0
          let sw2 := rapdu.getD (rlen - 1) 0
          -- a chained response to an extended command
          if 2 ≤ rlen ∧ sw1 = 0x61 then ⟨[command], .failed⟩
          else if !inTime then ⟨[command], .failed⟩
          else if rlen < 2 then ⟨[command], .outOfBounds⟩
          else ⟨[command], .returned (sw1.toNat * 256 + sw2.toNat) (rapdu.take (rlen - 2))⟩

end Nfc
