/-
**Commands of the HID tests.**

`U2Fob_apdu` of `u2f_util.cc` lays a command out in an array, by a running offset that is a byte.
From 247 bytes of data on the offset does not reach the end of the command: the length of the answer
is written somewhere before it, and a length below 256 is handed over.

Main definitions:

* `outgoingMessage` — the array and the offset that are handed over;
* `U2Fob_exchange_apdu_buffer`, `U2Fob_apdu` — the functions.

Main results:

* `outgoingMessage_fits` — no byte is written outside the array;
* `outgoingMessage_iff` — **what is handed over is the command exactly if it has at most 246 bytes
  of data**;
* `U2Fob_apdu_sends` — such a command is sent to the device as one message.
-/

import U2F.Hid.U2Fob
import U2F.Lib.Buffer
import U2F.Lib.CommandApdu

set_option relaxedAutoImplicit false
set_option autoImplicit false

namespace U2F.Hid

/-! ### The code -/

/-- `buf` and `offs` -/
structure Message where
  buf : Buffer 4096
  offs : UInt8

/-- Bytes are written at the offset, which goes on by their number. -/
def Message.append (message : Message) (part : List UInt8) : Option Message :=
  (message.buf.write message.offs.toNat part).map
    (⟨·, message.offs + UInt8.ofNat part.length⟩)

/-- Construct outgoing message. -/
def outgoingMessage (CLA INS P1 P2 : UInt8) (out : List UInt8) : Option Message := do
  let nc := if out.length ≠ 0 then 3 + out.length else 0
  let buf ← (Buffer.filled 4096 0xEE).write 0 [CLA, INS, P1, P2]
  let message : Message := ⟨buf, 4⟩
  -- Encode lc.
  let message ← if nc ≠ 0 then do
      let message ← message.append [0] -- extended length
      let message ← message.append [UInt8.ofNat (out.length / 256)]
      let message ← message.append [UInt8.ofNat out.length]
      message.append out
    else some message
  -- Encode le.
  let message ← if nc = 0 then message.append [0] else some message
  let message ← message.append [0]
  message.append [0]

def U2FHID_MSG : UInt8 := TYPE_INIT ||| 0x03

/-- What is returned, the reports that are sent, and the contents of `in` if they are set. -/
structure Exchanged where
  result : ℤ
  reports : List (List UInt8)
  in_ : Option (List UInt8)

def U2Fob_exchange_apdu_buffer (device : U2Fob) (data : List UInt8) (input : List (List UInt8)) :
    Exchanged :=
  let (res, reports) := U2Fob_send device U2FHID_MSG data
  if res ≠ 0 then ⟨res, reports, none⟩
  else
    let received := U2Fob_recv device 4096 input
    if received.result < 0 then ⟨received.result, reports, none⟩
    else if received.cmd ≠ some U2FHID_MSG then ⟨-ERR_OTHER, reports, none⟩
    else if received.result < 2 then ⟨-ERR_OTHER, reports, none⟩
    else
      let res := received.result.toNat - 2
      let sw12 := (received.data.getD res 0).toNat * 256 + (received.data.getD (res + 1) 0).toNat
      ⟨sw12, reports, some (received.data.take res)⟩

/-- `none` if a byte is written outside the array. -/
def U2Fob_apdu (device : U2Fob) (CLA INS P1 P2 : UInt8) (out : List UInt8)
    (input : List (List UInt8)) : Option Exchanged :=
  (outgoingMessage CLA INS P1 P2 out).map fun message =>
    U2Fob_exchange_apdu_buffer device (message.buf.front message.offs.toNat) input

/-! ### One part after the other -/

/-- What is handed over. -/
def Message.handed (message : Message) : List UInt8 := message.buf.front message.offs.toNat

@[simp] theorem Message.length_handed (message : Message) :
    message.handed.length = message.offs.toNat := by
  have hlt : message.offs.toNat < 256 := message.offs.toNat_lt
  exact Buffer.length_front (by omega)

/-- A part that fits into the array is written. -/
theorem Message.exists_append (message : Message) (part : List UInt8)
    (h : message.offs.toNat + part.length ≤ 4096) :
    ∃ buf, message.append part = some ⟨buf, message.offs + UInt8.ofNat part.length⟩ := by
  obtain ⟨buf, hwrite⟩ := message.buf.exists_write message.offs.toNat part h
  exact ⟨buf, by rw [Message.append, hwrite]; rfl⟩

/-- **A part is appended to what is handed over**, if the offset is still a byte. -/
theorem Message.append_spec (message : Message) (part : List UInt8)
    (h : message.offs.toNat + part.length < 256) :
    ∃ message', message.append part = some message' ∧
      message'.handed = message.handed ++ part := by
  have hlength : (UInt8.ofNat part.length).toNat = part.length :=
    UInt8.toNat_ofNat_of_lt' (Nat.lt_of_le_of_lt (Nat.le_add_left _ _) h)
  have hoffs : (message.offs + UInt8.ofNat part.length).toNat =
      message.offs.toNat + part.length := by
    rw [UInt8.toNat_add, hlength, Nat.mod_eq_of_lt h]
  obtain ⟨buf, hwrite⟩ := message.buf.exists_write message.offs.toNat part (by omega)
  refine ⟨⟨buf, _⟩, by rw [Message.append, hwrite]; rfl, ?_⟩
  rw [Message.handed, hoffs, Buffer.front_write hwrite, Message.handed]

/-- Parts are appended one after the other. -/
theorem Message.foldlM_append (parts : List (List UInt8)) (message : Message)
    (h : message.offs.toNat + parts.flatten.length < 256) :
    ∃ message', parts.foldlM Message.append message = some message' ∧
      message'.handed = message.handed ++ parts.flatten := by
  induction parts generalizing message with
  | nil => exact ⟨message, rfl, (List.append_nil _).symm⟩
  | cons part parts ih =>
      rw [List.flatten_cons, List.length_append] at h
      obtain ⟨message₁, happend, hhanded⟩ := message.append_spec part (by omega)
      have hoffs := congrArg List.length hhanded
      rw [List.length_append, Message.length_handed, Message.length_handed] at hoffs
      have hrest : message₁.offs.toNat + parts.flatten.length < 256 := by omega
      obtain ⟨message', hparts, hhanded'⟩ := ih message₁ hrest
      refine ⟨message', ?_, ?_⟩
      · rw [List.foldlM_cons, happend]
        exact hparts
      · rw [hhanded', hhanded, List.flatten_cons, List.append_assoc]

/-! ### The message -/

/-- What is written after the header. -/
def parts (out : List UInt8) : List (List UInt8) :=
  if out = [] then [[0], [0], [0]]
  else [[0], [UInt8.ofNat (out.length / 256)], [UInt8.ofNat out.length], out, [0], [0]]

theorem length_parts (out : List UInt8) :
    (parts out).flatten.length = if out = [] then 3 else out.length + 5 := by
  rw [parts]
  split
  · rfl
  · simp

variable (CLA INS P1 P2 : UInt8) (out : List UInt8)

/-- The header, and then the parts one after the other. -/
theorem outgoingMessage_eq :
    ∃ buf : Buffer 4096, buf.front 4 = [CLA, INS, P1, P2] ∧
      outgoingMessage CLA INS P1 P2 out = (parts out).foldlM Message.append ⟨buf, 4⟩ := by
  have hroom : 0 + [CLA, INS, P1, P2].length ≤ 4096 := by
    rw [Nat.zero_add]
    exact Nat.le_of_ble_eq_true rfl
  obtain ⟨buf, hwrite⟩ := (Buffer.filled 4096 0xEE).exists_write 0 [CLA, INS, P1, P2] hroom
  refine ⟨buf, Buffer.front_write hwrite, ?_⟩
  cases out with
  | nil => simp [outgoingMessage, parts, hwrite]
  | cons b out => simp [outgoingMessage, parts, hwrite]

theorem encodeExtended_eq :
    CommandApdu.encodeExtended ⟨CLA, INS, P1, P2, out, 65536⟩ =
      [CLA, INS, P1, P2] ++ (parts out).flatten := by
  -- the length of the answer is the largest, which is zero in two bytes
  have hhi : UInt8.ofNat (65536 / 256) = 0 := rfl
  have hlo : UInt8.ofNat 65536 = 0 := rfl
  rw [CommandApdu.encodeExtended, parts]
  cases out with
  | nil => simp only [hhi, hlo, if_pos]; rfl
  | cons b out => simp [hhi, hlo]

/-- **No byte is written outside the array.** -/
theorem outgoingMessage_fits (h : out.length ≤ 4087) :
    ∃ message, outgoingMessage CLA INS P1 P2 out = some message := by
  have hone : ∀ (message : Message) (b : UInt8), ∃ buf,
      message.append [b] = some ⟨buf, message.offs + 1⟩ := by
    intro message b
    have hlt : message.offs.toNat < 256 := message.offs.toNat_lt
    exact message.exists_append [b] (by rw [List.length_singleton]; omega)
  obtain ⟨buf, -, heq⟩ := outgoingMessage_eq CLA INS P1 P2 out
  rw [heq, parts]
  obtain ⟨buf₁, h₁⟩ := hone ⟨buf, 4⟩ 0
  split
  · obtain ⟨buf₂, h₂⟩ := hone ⟨buf₁, 4 + 1⟩ 0
    obtain ⟨buf₃, h₃⟩ := hone ⟨buf₂, 4 + 1 + 1⟩ 0
    simp only [List.foldlM_cons, List.foldlM_nil, Option.bind_eq_bind, h₁, h₂, h₃,
      Option.bind_some]
    exact ⟨_, rfl⟩
  · obtain ⟨buf₂, h₂⟩ := hone ⟨buf₁, 4 + 1⟩ (UInt8.ofNat (out.length / 256))
    obtain ⟨buf₃, h₃⟩ := hone ⟨buf₂, 4 + 1 + 1⟩ (UInt8.ofNat out.length)
    -- the payload starts at the eighth byte
    have hseven : (4 + 1 + 1 + 1 : UInt8).toNat = 7 := rfl
    obtain ⟨buf₄, h₄⟩ := Message.exists_append ⟨buf₃, 4 + 1 + 1 + 1⟩ out (by
      rw [hseven]
      omega)
    obtain ⟨buf₅, h₅⟩ := hone ⟨buf₄, 4 + 1 + 1 + 1 + UInt8.ofNat out.length⟩ 0
    obtain ⟨buf₆, h₆⟩ := hone ⟨buf₅, 4 + 1 + 1 + 1 + UInt8.ofNat out.length + 1⟩ 0
    simp only [List.foldlM_cons, List.foldlM_nil, Option.bind_eq_bind, h₁, h₂, h₃, h₄, h₅, h₆,
      Option.bind_some]
    exact ⟨_, rfl⟩

/-- **What is handed over is the command exactly if it has at most 246 bytes of data.** -/
theorem outgoingMessage_iff :
    (∃ message, outgoingMessage CLA INS P1 P2 out = some message ∧
      message.buf.front message.offs.toNat =
        CommandApdu.encodeExtended ⟨CLA, INS, P1, P2, out, 65536⟩) ↔ out.length ≤ 246 := by
  have hlength := length_parts out
  have hfour : (4 : UInt8).toNat = 4 := rfl
  have hheader : [CLA, INS, P1, P2].length = 4 := rfl
  rw [encodeExtended_eq]
  constructor
  · rintro ⟨message, -, hhanded⟩
    have hlt : message.offs.toNat < 256 := message.offs.toNat_lt
    have hsize := congrArg List.length hhanded
    rw [← Message.handed, Message.length_handed, List.length_append, hheader, hlength] at hsize
    by_cases hnil : out = []
    · rw [hnil]
      exact Nat.zero_le 246
    · rw [if_neg hnil] at hsize
      omega
  · intro hle
    obtain ⟨buf, hfront, heq⟩ := outgoingMessage_eq CLA INS P1 P2 out
    have hshort : 4 + (parts out).flatten.length < 256 := by
      rw [hlength]
      split <;> omega
    obtain ⟨message, hmessage, hhanded⟩ := Message.foldlM_append (parts out) ⟨buf, 4⟩ hshort
    refine ⟨message, heq.trans hmessage, hhanded.trans ?_⟩
    rw [Message.handed, hfour, hfront]

/-- With 247 bytes of data the offset is zero in the end, and what is handed over is not the
command. -/
theorem outgoingMessage_247 :
    ¬ ∃ message, outgoingMessage 0 2 3 0 (List.replicate 247 1) = some message ∧
      message.buf.front message.offs.toNat =
        CommandApdu.encodeExtended ⟨0, 2, 3, 0, List.replicate 247 1, 65536⟩ := by
  rintro ⟨message, -, hhanded⟩
  have hlt : message.offs.toNat < 256 := message.offs.toNat_lt
  have hsize := congrArg List.length hhanded
  have hne : List.replicate 247 (1 : UInt8) ≠ [] := List.cons_ne_nil 1 _
  rw [encodeExtended_eq, ← Message.handed, Message.length_handed, List.length_append, length_parts,
    if_neg hne, List.length_replicate] at hsize
  simp only [List.length_cons, List.length_nil] at hsize
  omega

/-- What is handed over is sent as one message. -/
theorem reports_exchange {device : U2Fob} (hopened : device.opened = true) (data : List UInt8)
    (input : List (List UInt8)) :
    (U2Fob_exchange_apdu_buffer device data input).reports =
      frames 0xEE device.cid.toInt32 (TYPE_INIT ||| U2FHID_MSG) data := by
  rw [U2Fob_exchange_apdu_buffer, U2Fob_send_eq hopened]
  dsimp only
  rw [if_neg (not_not.2 rfl)]
  split_ifs <;> rfl

/-- A command with at most 246 bytes of data is sent to the device. -/
theorem U2Fob_apdu_sends {device : U2Fob} (hopened : device.opened = true)
    (h : out.length ≤ 246) (input : List (List UInt8)) :
    ∃ exchanged, U2Fob_apdu device CLA INS P1 P2 out input = some exchanged ∧
      exchanged.reports = frames 0xEE device.cid.toInt32 (TYPE_INIT ||| U2FHID_MSG)
        (CommandApdu.encodeExtended ⟨CLA, INS, P1, P2, out, 65536⟩) := by
  obtain ⟨message, hmessage, hfront⟩ := (outgoingMessage_iff CLA INS P1 P2 out).2 h
  refine ⟨U2Fob_exchange_apdu_buffer device (message.buf.front message.offs.toNat) input, ?_, ?_⟩
  · rw [U2Fob_apdu, hmessage]
    rfl
  · rw [reports_exchange hopened, hfront]

end U2F.Hid
