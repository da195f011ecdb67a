/-
**Messages of the HID tests.**

`u2f_util.cc` sends a message to a device in frames and receives one.  Between the test and the
device are reports of 64 bytes, with the channel in network order.  A device that is opened takes
every report that is written; the input is the list of the reports that come before the timeout.

Main definitions:

* `U2FHID_FRAME` — a frame: the channel, and the 60 bytes of the union;
* `U2Fob_send`, `U2Fob_recv` — a message is sent, and received;
* `IsCont` — a continuation frame with a sequence number.

Main results:

* `U2Fob_send_eq` — **what is sent are the frames of the message**;
* `recv_filter` — frames of other channels do not matter;
* `recv_inverse` — **sending and receiving are inverse to each other**, and a frame out of sequence
  is an error; `recv_of_error_command` — but the error command is not received as it is sent.
-/

import Mathlib.Data.Int.Notation
import U2F.Hid.Frames

set_option relaxedAutoImplicit false
set_option autoImplicit false

namespace U2F.Hid

open Fragments

/-! ### Frames and constants -/

/-- A frame.  The fields of `init` and `cont` lie in the same bytes. -/
structure U2FHID_FRAME where
  cid : UInt32
  bytes : List UInt8

namespace U2FHID_FRAME

variable (f : U2FHID_FRAME)

def type : UInt8 := f.bytes.getD 0 0

def init_cmd : UInt8 := f.bytes.getD 0 0

def init_bcnth : UInt8 := f.bytes.getD 1 0

def init_bcntl : UInt8 := f.bytes.getD 2 0

def init_data : List UInt8 := f.bytes.drop 3

def cont_seq : UInt8 := f.bytes.getD 0 0

def cont_data : List UInt8 := f.bytes.drop 1

end U2FHID_FRAME

def TYPE_MASK : UInt8 := 0x80

def TYPE_INIT : UInt8 := 0x80

def TYPE_CONT : UInt8 := 0x00

def FRAME_TYPE (f : U2FHID_FRAME) : UInt8 := f.type &&& TYPE_MASK

def FRAME_SEQ (f : U2FHID_FRAME) : UInt8 := f.cont_seq &&& ~~~TYPE_MASK

def MSG_LEN (f : U2FHID_FRAME) : ℕ := f.init_bcnth.toNat * 256 + f.init_bcntl.toNat

def U2FHID_ERROR : UInt8 := TYPE_INIT ||| 0x3f

def ERR_INVALID_SEQ : ℤ := 4

def ERR_MSG_TIMEOUT : ℤ := 5

def ERR_OTHER : ℤ := 127

/-- A device that is opened, or not. -/
structure U2Fob where
  opened : Bool
  cid : UInt32

/-! ### Sending -/

/-- The report of a frame. -/
def report (f : U2FHID_FRAME) : List UInt8 := putInt f.cid.toInt32 ++ f.bytes

/-- The rest of the loop of `U2Fob_send`: a frame for what is left, and so on. -/
def sendCont (device : U2Fob) (seq : UInt8) (pData : List UInt8) : List (List UInt8) :=
  if pData.length = 0 then []
  else
    let frameLen := min pData.length CONT_DATA
    report ⟨device.cid, seq :: fill 0xEE CONT_DATA (pData.take frameLen)⟩ ::
      sendCont device (seq + 1) (pData.drop frameLen)
  termination_by pData.length
  decreasing_by
    rw [List.length_drop]
    have : 0 < CONT_DATA := by decide
    omega

/-- The result, and the reports that are written. -/
def U2Fob_send (device : U2Fob) (cmd : UInt8) (data : List UInt8) : ℤ × List (List UInt8) :=
  if !device.opened then (-ERR_OTHER, [])
  else
    let size := data.length
    let frameLen := min size INIT_DATA
    (0, report ⟨device.cid, (TYPE_INIT ||| cmd) :: UInt8.ofNat ((size >>> 8) &&& 255) ::
        UInt8.ofNat (size &&& 255) :: fill 0xEE INIT_DATA (data.take frameLen)⟩ ::
      sendCont device 0 (data.drop frameLen))

/-! ### Receiving -/

/-- The next report, if one comes before the timeout. -/
def U2Fob_receiveHidFrame (device : U2Fob) (input : Option (List UInt8)) :
    Except ℤ U2FHID_FRAME :=
  if !device.opened then .error (-ERR_OTHER)
  else
    match input with
    | none => .error (-ERR_MSG_TIMEOUT)
    | some r =>
      if r.length = 64 then .ok ⟨(channel r).toUInt32, r.drop 4⟩ else .error (-ERR_MSG_TIMEOUT)

/-- The first loop of `U2Fob_recv`: the first frame of a message, and the input that is left. -/
def recvInit (device : U2Fob) : List (List UInt8) → Except ℤ (U2FHID_FRAME × List (List UInt8))
  | [] => (·, []) <$> U2Fob_receiveHidFrame device none
  | r :: input =>
    match U2Fob_receiveHidFrame device (some r) with
    | .error res => .error res
    | .ok frame =>
      if frame.cid ≠ device.cid ∨ FRAME_TYPE frame ≠ TYPE_INIT then recvInit device input
      else .ok (frame, input)

/-- The second loop of `U2Fob_recv`, with what has been copied to the buffer: the error, or none,
and what is in the buffer then. -/
def recvCont (device : U2Fob) :
    ℕ → UInt8 → List UInt8 → List (List UInt8) → Option ℤ × List UInt8
  | totalLen, seq, data, input =>
    if totalLen = 0 then (none, data)
    else
      match input with
      | [] =>
        match U2Fob_receiveHidFrame device none with
        | .error res => (some res, data)
        | .ok _ => (none, data)
      | r :: input =>
        match U2Fob_receiveHidFrame device (some r) with
        | .error res => (some res, data)
        | .ok frame =>
          if frame.cid ≠ device.cid then recvCont device totalLen seq data input
          else if FRAME_TYPE frame ≠ TYPE_CONT then (some (-ERR_INVALID_SEQ), data)
          else if FRAME_SEQ frame ≠ seq then (some (-ERR_INVALID_SEQ), data)
          else
            let frameLen := min CONT_DATA totalLen
            recvCont device (totalLen - frameLen) (seq + 1)
              (data ++ frame.cont_data.take frameLen) input

/-- The result of `U2Fob_recv`, the command if it is set, and what is in the buffer. -/
structure Received where
  result : ℤ
  cmd : Option UInt8
  data : List UInt8
  deriving DecidableEq

def U2Fob_recv (device : U2Fob) (max : ℕ) (input : List (List UInt8)) : Received :=
  match recvInit device input with
  | .error res => ⟨res, none, []⟩
  | .ok (frame, input) =>
    if frame.init_cmd = U2FHID_ERROR then ⟨-((frame.init_data.getD 0 0).toNat : ℤ), none, []⟩
    else
      let totalLen := min max (MSG_LEN frame)
      let frameLen := min INIT_DATA totalLen
      match recvCont device (totalLen - frameLen) 0 (frame.init_data.take frameLen) input with
      | (some res, data) => ⟨res, some frame.init_cmd, data⟩
      | (none, data) => ⟨totalLen, some frame.init_cmd, data⟩

/-! ### What is sent -/

theorem putShort_eq (n : ℕ) :
    [UInt8.ofNat ((n >>> 8) &&& 255), UInt8.ofNat (n &&& 255)] = putShort n := by
  have hmask : ∀ m, UInt8.ofNat (m &&& 255) = UInt8.ofNat m := by
    intro m
    refine UInt8.toNat_inj.1 ?_
    rw [UInt8.toNat_ofNat', UInt8.toNat_ofNat', show 255 = 2 ^ 8 - 1 from rfl,
      Nat.and_two_pow_sub_one_eq_mod, Nat.mod_mod]
  rw [hmask, hmask, Nat.shiftRight_eq_div_pow]
  rfl

theorem take_min (n : ℕ) (data : List UInt8) : data.take (min data.length n) = data.take n := by
  rw [Nat.min_comm, ← List.take_take, List.take_length]

theorem drop_min (n : ℕ) (data : List UInt8) : data.drop (min data.length n) = data.drop n := by
  rcases Nat.le_total n data.length with h | h
  · rw [Nat.min_eq_right h]
  · rw [Nat.min_eq_left h, List.drop_length, List.drop_of_length_le h]

/-- The frames from number `k` on. -/
theorem sendCont_eq (device : U2Fob) (data : List UInt8) (m : ℕ) :
    ∀ k, contCount data = k + m →
      sendCont device (UInt8.ofNat k) (data.drop (INIT_DATA + CONT_DATA * k)) =
        (List.range' k m).map (contFrame 0xEE device.cid.toInt32 data) := by
  induction m with
  | zero =>
      intro k hk
      have hnot : ¬ k < contCount data := by omega
      rw [lt_contCount_iff] at hnot
      rw [sendCont, if_pos (by rw [List.length_drop]; omega)]
      rfl
  | succ m ih =>
      intro k hk
      have hlt : INIT_DATA + CONT_DATA * k < data.length := lt_contCount_iff.1 (by omega)
      have hnext := ih (k + 1) (by omega)
      rw [Nat.mul_succ, ← Nat.add_assoc, ← List.drop_drop] at hnext
      rw [sendCont, if_neg (by rw [List.length_drop]; omega)]
      dsimp only
      rw [take_min, drop_min, show UInt8.ofNat k + 1 = UInt8.ofNat (k + 1) from ?_, hnext]
      · rfl
      · exact UInt8.toNat_inj.1 (by simp)

/-- **What is sent are the frames of the message.** -/
theorem U2Fob_send_eq {device : U2Fob} (hopened : device.opened = true) (cmd : UInt8)
    (data : List UInt8) :
    U2Fob_send device cmd data =
      (0, frames 0xEE device.cid.toInt32 (TYPE_INIT ||| cmd) data) := by
  have hrest := sendCont_eq device data (contCount data) 0 (Nat.zero_add _).symm
  rw [show INIT_DATA + CONT_DATA * 0 = INIT_DATA from rfl, ← List.range_eq_range'] at hrest
  rw [U2Fob_send, hopened]
  dsimp only
  rw [if_neg (by decide), take_min, drop_min, show (0 : UInt8) = UInt8.ofNat 0 from rfl, hrest]
  have hlength := putShort_eq data.length
  rw [frames, initFrame, ← hlength]
  rfl

/-! ### Frames of other channels do not matter -/

/-- The frame of a report. -/
def frameOf (r : List UInt8) : U2FHID_FRAME := ⟨(channel r).toUInt32, r.drop 4⟩

/-- The reports of a channel. -/
def ownReports (cid : UInt32) (input : List (List UInt8)) : List (List UInt8) :=
  input.filter fun r => (channel r).toUInt32 = cid

section

variable {device : U2Fob} (hopened : device.opened = true) {input : List (List UInt8)}
include hopened

theorem receiveHidFrame_none : U2Fob_receiveHidFrame device none = .error (-ERR_MSG_TIMEOUT) := by
  rw [U2Fob_receiveHidFrame, hopened]
  rfl

theorem receiveHidFrame_some {r : List UInt8} (h : r.length = 64) :
    U2Fob_receiveHidFrame device (some r) = .ok (frameOf r) := by
  simp [U2Fob_receiveHidFrame, hopened, h, frameOf]

theorem recvInit_filter (hlength : ∀ r ∈ input, r.length = 64) :
    recvInit device (ownReports device.cid input) =
      (recvInit device input).map fun p => (p.1, ownReports device.cid p.2) := by
  induction input with
  | nil => simp [recvInit, ownReports, receiveHidFrame_none hopened, Except.map]
  | cons r input ih =>
      have hr := receiveHidFrame_some hopened (hlength r List.mem_cons_self)
      have ih := ih fun r hr => hlength r (List.mem_cons_of_mem _ hr)
      by_cases hown : (channel r).toUInt32 = device.cid
      · have hcons : ownReports device.cid (r :: input) = r :: ownReports device.cid input := by
          simp [ownReports, hown]
        rw [hcons, recvInit, recvInit, hr]
        dsimp only
        split
        · exact ih
        · rfl
      · have hcons : ownReports device.cid (r :: input) = ownReports device.cid input := by
          simp [ownReports, hown]
        rw [hcons, ih, recvInit, hr]
        dsimp only
        rw [if_pos (.inl hown)]

omit hopened in
theorem recvCont_zero (seq : UInt8) (data : List UInt8) :
    recvCont device 0 seq data input = (none, data) := by
  cases input <;> rw [recvCont.eq_def] <;> rfl

/-- A report of another channel. -/
theorem recvCont_other {r : List UInt8} (hr : r.length = 64)
    (hother : (channel r).toUInt32 ≠ device.cid) (totalLen : ℕ) (seq : UInt8) (data : List UInt8) :
    recvCont device totalLen seq data (r :: input) = recvCont device totalLen seq data input := by
  by_cases hzero : totalLen = 0
  · rw [hzero, recvCont_zero, recvCont_zero]
  · rw [recvCont.eq_def]
    dsimp only
    rw [if_neg hzero, receiveHidFrame_some hopened hr]
    dsimp only
    rw [if_pos (show (frameOf r).cid ≠ device.cid from hother)]

/-- The next continuation frame. -/
theorem recvCont_cont {r : List UInt8} (hr : r.length = 64)
    (hown : (channel r).toUInt32 = device.cid) {totalLen : ℕ} (hzero : totalLen ≠ 0) {seq : UInt8}
    (htype : FRAME_TYPE (frameOf r) = TYPE_CONT) (hseq : FRAME_SEQ (frameOf r) = seq)
    (data : List UInt8) :
    recvCont device totalLen seq data (r :: input) =
      recvCont device (totalLen - min CONT_DATA totalLen) (seq + 1)
        (data ++ (frameOf r).cont_data.take (min CONT_DATA totalLen)) input := by
  rw [recvCont.eq_def]
  dsimp only
  rw [if_neg hzero, receiveHidFrame_some hopened hr]
  dsimp only
  rw [if_neg (not_not.2 (show (frameOf r).cid = device.cid from hown)), if_neg (not_not.2 htype),
    if_neg (not_not.2 hseq)]

/-- Any other frame of the channel. -/
theorem recvCont_invalid {r : List UInt8} (hr : r.length = 64)
    (hown : (channel r).toUInt32 = device.cid) {totalLen : ℕ} (hzero : totalLen ≠ 0) {seq : UInt8}
    (hbad : ¬ (FRAME_TYPE (frameOf r) = TYPE_CONT ∧ FRAME_SEQ (frameOf r) = seq))
    (data : List UInt8) :
    recvCont device totalLen seq data (r :: input) = (some (-ERR_INVALID_SEQ), data) := by
  rw [recvCont.eq_def]
  dsimp only
  rw [if_neg hzero, receiveHidFrame_some hopened hr]
  dsimp only
  rw [if_neg (not_not.2 (show (frameOf r).cid = device.cid from hown))]
  split
  · rfl
  · next htype =>
    rw [if_pos fun hseq => hbad ⟨not_not.1 htype, hseq⟩]

theorem recvCont_filter (hlength : ∀ r ∈ input, r.length = 64) :
    ∀ (totalLen : ℕ) (seq : UInt8) (data : List UInt8),
      recvCont device totalLen seq data (ownReports device.cid input) =
        recvCont device totalLen seq data input := by
  induction input with
  | nil => exact fun _ _ _ => rfl
  | cons r input ih =>
      intro totalLen seq data
      have hr := receiveHidFrame_some hopened (hlength r List.mem_cons_self)
      have ih := ih fun r hr => hlength r (List.mem_cons_of_mem _ hr)
      by_cases hown : (channel r).toUInt32 = device.cid
      · have hcons : ownReports device.cid (r :: input) = r :: ownReports device.cid input := by
          simp [ownReports, hown]
        rw [hcons, recvCont, recvCont, hr]
        dsimp only
        simp only [ih]
      · have hcons : ownReports device.cid (r :: input) = ownReports device.cid input := by
          simp [ownReports, hown]
        rw [hcons, ih, recvCont_other hopened (hlength r List.mem_cons_self) hown]

/-- **Only the reports of the channel matter.** -/
theorem recv_filter (hlength : ∀ r ∈ input, r.length = 64) (max : ℕ) :
    U2Fob_recv device max (ownReports device.cid input) = U2Fob_recv device max input := by
  have hinit := recvInit_filter hopened hlength
  have hsub : ∀ frame rest, recvInit device input = .ok (frame, rest) →
      ∀ r ∈ rest, r.length = 64 := by
    clear hinit
    induction input with
    | nil => simp [recvInit, receiveHidFrame_none hopened]
    | cons r input ih =>
        intro frame rest h
        rw [recvInit, receiveHidFrame_some hopened (hlength r List.mem_cons_self)] at h
        dsimp only at h
        have htail : ∀ r ∈ input, r.length = 64 := fun r hr => hlength r (List.mem_cons_of_mem _ hr)
        split at h
        · exact ih htail frame rest h
        · obtain ⟨-, rfl⟩ := Prod.mk.inj (Except.ok.inj h)
          exact htail
  unfold U2Fob_recv
  rw [hinit]
  rcases h : recvInit device input with res | ⟨frame, rest⟩
  · rfl
  · have := recvCont_filter hopened (hsub frame rest h)
    simp only [Except.map, this]

/-- A message that starts with its first frame. -/
theorem recv_init {r : List UInt8} (hr : r.length = 64)
    (hown : (channel r).toUInt32 = device.cid) (htype : FRAME_TYPE (frameOf r) = TYPE_INIT)
    (herror : (frameOf r).init_cmd ≠ U2FHID_ERROR) {max : ℕ} (hmax : MSG_LEN (frameOf r) ≤ max) :
    U2Fob_recv device max (r :: input) =
      match recvCont device (MSG_LEN (frameOf r) - min INIT_DATA (MSG_LEN (frameOf r))) 0
        ((frameOf r).init_data.take (min INIT_DATA (MSG_LEN (frameOf r)))) input with
      | (some res, data) => ⟨res, some (frameOf r).init_cmd, data⟩
      | (none, data) => ⟨MSG_LEN (frameOf r), some (frameOf r).init_cmd, data⟩ := by
  rw [U2Fob_recv, recvInit, receiveHidFrame_some hopened hr]
  dsimp only
  rw [if_neg]
  · dsimp only
    rw [if_neg herror, Nat.min_eq_right hmax]
  · rintro (h | h)
    · exact h hown
    · exact h htype

/-! ### A message that is received -/

/-- A continuation frame with this sequence number. -/
def IsCont (k : ℕ) (r : List UInt8) : Prop :=
  FRAME_TYPE (frameOf r) = TYPE_CONT ∧ FRAME_SEQ (frameOf r) = UInt8.ofNat k

omit hopened in
theorem isCont_contFrame {pad : UInt8} (cid : Int32) (data : List UInt8) {k : ℕ} (hk : k < 128) :
    IsCont k (contFrame pad cid data k) := by
  have hbits : ∀ k < 128, UInt8.ofNat k &&& TYPE_MASK = TYPE_CONT ∧
      UInt8.ofNat k &&& ~~~TYPE_MASK = UInt8.ofNat k := by decide
  exact hbits k hk

omit hopened in
theorem channel_toUInt32 {pad cmd : UInt8} {data r : List UInt8}
    (h : r ∈ frames pad device.cid.toInt32 cmd data) : (channel r).toUInt32 = device.cid := by
  rw [channel_frames h, UInt32.toUInt32_toInt32]

/-- The frames from number `k` on complete the message. -/
theorem recvCont_frames {pad : UInt8} {data : List UInt8} (hdata : data.length ≤ 7609)
    (later : List (List UInt8)) (m : ℕ) :
    ∀ k, contCount data = k + m →
      recvCont device (data.length - (INIT_DATA + CONT_DATA * k)) (UInt8.ofNat k)
        (receivedPayload data k)
        ((List.range' k m).map (contFrame pad device.cid.toInt32 data) ++ later) =
      (none, data) := by
  induction m with
  | zero =>
      intro k hk
      -- no frame is missing, and everything has been received
      have hnot : ¬ k < contCount data := by omega
      have hall : receivedPayload data k = data :=
        received_of_count_le data (by decide) (Nat.le_of_not_lt hnot)
      rw [lt_contCount_iff] at hnot
      rw [hall, Nat.sub_eq_zero_of_le (Nat.le_of_not_lt hnot), recvCont_zero]
  | succ m ih =>
      intro k hk
      have hk' : k < contCount data := by omega
      have hlt := lt_contCount_iff.1 hk'
      have hseq : k < 128 := Nat.lt_of_lt_of_le hk' (contCount_le hdata)
      have hown : (channel (contFrame pad device.cid.toInt32 data k)).toUInt32 = device.cid := by
        rw [contFrame, channel_putInt, UInt32.toUInt32_toInt32]
      obtain ⟨htype, hnumber⟩ := isCont_contFrame device.cid.toInt32 data hseq
      have hdata : ((frameOf (contFrame pad device.cid.toInt32 data k)).cont_data).take
          (min CONT_DATA (data.length - (INIT_DATA + CONT_DATA * k))) =
          fragment INIT_DATA CONT_DATA data k := by
        have hfragment := length_fragment (a := INIT_DATA) (b := CONT_DATA) data k
        change (fill pad CONT_DATA (fragment INIT_DATA CONT_DATA data k)).take _ = _
        rw [take_fill (by omega), List.take_of_length_le (by omega)]
      -- the frame adds its fragment, and less is left to come
      have hleft : data.length - (INIT_DATA + CONT_DATA * k) -
          min CONT_DATA (data.length - (INIT_DATA + CONT_DATA * k)) =
          data.length - (INIT_DATA + CONT_DATA * (k + 1)) := by
        rw [Nat.mul_succ]
        omega
      have hnext : UInt8.ofNat k + 1 = UInt8.ofNat (k + 1) := UInt8.toNat_inj.1 (by simp)
      rw [List.range'_succ, List.map_cons, List.cons_append, recvCont_cont hopened
        (length_contFrame _ _ _ _) hown (by omega) htype hnumber, hdata, hleft, hnext,
        ← received_succ]
      exact ih (k + 1) (by omega)

/-- **A message is received**, whatever its last frame is filled up with. -/
theorem recv_frames_of_pad {pad cmd : UInt8} (htype : cmd &&& TYPE_MASK = TYPE_INIT)
    (herror : cmd ≠ U2FHID_ERROR) {data : List UInt8} (hdata : data.length ≤ 7609) {max : ℕ}
    (hmax : data.length ≤ max) (later : List (List UInt8)) :
    U2Fob_recv device max (frames pad device.cid.toInt32 cmd data ++ later) =
      ⟨data.length, some cmd, data⟩ := by
  have hlen : MSG_LEN (frameOf (initFrame pad device.cid.toInt32 cmd data)) = data.length := by
    change (UInt8.ofNat (data.length / 256)).toNat * 256 + (UInt8.ofNat data.length).toNat = _
    rw [UInt8.toNat_ofNat', UInt8.toNat_ofNat']
    omega
  have hown : (channel (initFrame pad device.cid.toInt32 cmd data)).toUInt32 = device.cid :=
    channel_toUInt32 List.mem_cons_self
  have hfirst : ((frameOf (initFrame pad device.cid.toInt32 cmd data)).init_data).take
      (min INIT_DATA data.length) = receivedPayload data 0 := by
    change (fill pad INIT_DATA (data.take INIT_DATA)).take _ = data.take INIT_DATA
    rw [take_fill (List.length_take.symm ▸ Nat.le_refl _),
      List.take_of_length_le (List.length_take.symm ▸ Nat.le_refl _)]
  have hrest := @recvCont_frames device hopened pad data hdata later (contCount data) 0
    (Nat.zero_add _).symm
  have hleft : data.length - min INIT_DATA data.length =
      data.length - (INIT_DATA + CONT_DATA * 0) := by omega
  rw [frames, List.cons_append, recv_init hopened (length_initFrame _ _ _ _) hown htype herror
    (hlen.symm ▸ hmax), hlen, hfirst, hleft, List.range_eq_range', show (0 : UInt8) =
    UInt8.ofNat 0 from rfl, hrest]
  rfl

/-- **A message that is sent is received.** -/
theorem recv_frames {cmd : UInt8} (htype : cmd &&& TYPE_MASK = TYPE_INIT)
    (herror : cmd ≠ U2FHID_ERROR) {data : List UInt8} (hdata : data.length ≤ 7609) {max : ℕ}
    (hmax : data.length ≤ max) (later : List (List UInt8)) :
    U2Fob_recv device max (frames 0xEE device.cid.toInt32 cmd data ++ later) =
      ⟨data.length, some cmd, data⟩ :=
  recv_frames_of_pad hopened htype herror hdata hmax later

/-- A frame out of sequence ends the message. -/
theorem recvCont_outOfSequence {bad : List UInt8} (hbad : bad.length = 64)
    (hown : (channel bad).toUInt32 = device.cid) (later : List (List UInt8)) {total : ℕ}
    (conts : List (List UInt8)) :
    ∀ (k : ℕ) (data : List UInt8),
      (∀ r ∈ conts, r.length = 64 ∧ (channel r).toUInt32 = device.cid) →
      (∀ i (h : i < conts.length), IsCont (k + i) conts[i]) →
      INIT_DATA + CONT_DATA * (k + conts.length) < total → ¬ IsCont (k + conts.length) bad →
      ∃ data', recvCont device (total - (INIT_DATA + CONT_DATA * k)) (UInt8.ofNat k) data
        (conts ++ bad :: later) = (some (-ERR_INVALID_SEQ), data') := by
  induction conts with
  | nil =>
      intro k data _ _ htotal hseq
      rw [List.length_nil, Nat.add_zero] at htotal hseq
      exact ⟨data, recvCont_invalid hopened hbad hown (by omega) hseq data⟩
  | cons r conts ih =>
      intro k data hconts hseq htotal hnot
      obtain ⟨hr, hrown⟩ := hconts r List.mem_cons_self
      obtain ⟨htype, hnumber⟩ := hseq 0 (Nat.succ_pos _)
      rw [Nat.add_zero] at hnumber
      rw [List.length_cons] at htotal hnot
      have hindex : k + 1 + conts.length = k + (conts.length + 1) := by omega
      -- the frame is in sequence: less is left to come, and the next number is expected
      have hleft : total - (INIT_DATA + CONT_DATA * k) -
          min CONT_DATA (total - (INIT_DATA + CONT_DATA * k)) =
          total - (INIT_DATA + CONT_DATA * (k + 1)) := by
        rw [Nat.mul_succ]
        omega
      have hzero : total - (INIT_DATA + CONT_DATA * k) ≠ 0 := by
        rw [Nat.mul_add] at htotal
        omega
      have hnext : UInt8.ofNat k + 1 = UInt8.ofNat (k + 1) := UInt8.toNat_inj.1 (by simp)
      rw [List.cons_append, recvCont_cont hopened hr hrown hzero htype hnumber, hleft, hnext]
      refine ih (k + 1) _ (fun r hr => hconts r (List.mem_cons_of_mem _ hr)) (fun i hi => ?_)
        (hindex ▸ htotal) (hindex ▸ hnot)
      have := hseq (i + 1) (by rw [List.length_cons]; omega)
      rw [show k + (i + 1) = k + 1 + i by omega] at this
      exact this

end

/-- **Sending and receiving are inverse to each other.**  The reports of a message, among reports
of other channels, give the message; and when a frame of the channel comes out of sequence, the
result is an error. -/
theorem recv_inverse {device : U2Fob} (hopened : device.opened = true) :
    (∀ (cmd : UInt8) (data : List UInt8) (max : ℕ) (input : List (List UInt8)),
      TYPE_INIT ||| cmd ≠ U2FHID_ERROR → data.length ≤ 7609 → data.length ≤ max →
      (∀ r ∈ input, r.length = 64) →
      ownReports device.cid input = (U2Fob_send device cmd data).2 →
      U2Fob_recv device max input = ⟨data.length, some (TYPE_INIT ||| cmd), data⟩) ∧
    (∀ (max : ℕ) (input : List (List UInt8)) (first : List UInt8) (conts : List (List UInt8))
      (bad : List UInt8) (later : List (List UInt8)),
      (∀ r ∈ input, r.length = 64) →
      ownReports device.cid input = first :: (conts ++ bad :: later) →
      FRAME_TYPE (frameOf first) = TYPE_INIT → (frameOf first).init_cmd ≠ U2FHID_ERROR →
      MSG_LEN (frameOf first) ≤ 7609 → MSG_LEN (frameOf first) ≤ max →
      (∀ i (h : i < conts.length), IsCont i conts[i]) →
      INIT_DATA + CONT_DATA * conts.length < MSG_LEN (frameOf first) →
      ¬ IsCont conts.length bad →
      (U2Fob_recv device max input).result = -ERR_INVALID_SEQ) := by
  constructor
  · intro cmd data max input herror hdata hmax hlength hown
    have htype : ∀ c : UInt8, (TYPE_INIT ||| c) &&& TYPE_MASK = TYPE_INIT := by
      intro c
      refine UInt8.toBitVec_inj.1 ?_
      rw [UInt8.toBitVec_and, UInt8.toBitVec_or]
      generalize c.toBitVec = b
      revert b
      decide
    -- reports of other channels are skipped
    rw [← recv_filter hopened hlength, hown, U2Fob_send_eq hopened]
    have := recv_frames hopened (htype cmd) herror hdata hmax []
    rwa [List.append_nil] at this
  · intro max input first conts bad later hlength hown htype herror _ hmax hconts htotal hbad
    -- the reports of the channel are whole reports of the input
    have hmem : ∀ r ∈ first :: (conts ++ bad :: later),
        r.length = 64 ∧ (channel r).toUInt32 = device.cid := by
      intro r hr
      rw [← hown] at hr
      obtain ⟨hr, hcid⟩ := List.mem_filter.1 hr
      exact ⟨hlength r hr, of_decide_eq_true hcid⟩
    obtain ⟨hfirst, hfirstOwn⟩ := hmem first List.mem_cons_self
    obtain ⟨hbadLength, hbadOwn⟩ := hmem bad (by simp)
    obtain ⟨data', hrest⟩ := recvCont_outOfSequence hopened hbadLength hbadOwn later conts 0
      ((frameOf first).init_data.take (min INIT_DATA (MSG_LEN (frameOf first))))
      (fun r hr => hmem r (by simp [hr])) (by simpa using hconts) (by simpa using htotal)
      (by simpa using hbad)
    have hleft : MSG_LEN (frameOf first) - min INIT_DATA (MSG_LEN (frameOf first)) =
        MSG_LEN (frameOf first) - (INIT_DATA + CONT_DATA * 0) := by omega
    rw [← recv_filter hopened hlength, hown,
      recv_init hopened hfirst hfirstOwn htype herror hmax, hleft,
      show (0 : UInt8) = UInt8.ofNat 0 from rfl, hrest]

/-- A message of 120 bytes in three reports, between reports of another channel. -/
theorem recv_three_reports :
    U2Fob_recv ⟨true, 7⟩ 200
      [initFrame 0xEE 9 0x81 [3], initFrame 0xEE 7 0x81 (List.replicate 120 5),
        contFrame 0xEE 9 (List.replicate 60 3) 0, contFrame 0xEE 7 (List.replicate 120 5) 0,
        initFrame 0xEE 9 0xbf [3], contFrame 0xEE 7 (List.replicate 120 5) 1] =
      ⟨120, some 0x81, List.replicate 120 5⟩ := by
  refine (@recv_inverse ⟨true, 7⟩ rfl).1 0x01 (List.replicate 120 5) 200 _ (by decide) (by decide)
    (by decide) ?_ ?_
  · intro r hr
    simp only [List.mem_cons, List.not_mem_nil, or_false] at hr
    rcases hr with rfl | rfl | rfl | rfl | rfl | rfl
    · exact length_initFrame _ _ _ _
    · exact length_initFrame _ _ _ _
    · exact length_contFrame _ _ _ _
    · exact length_contFrame _ _ _ _
    · exact length_initFrame _ _ _ _
    · exact length_contFrame _ _ _ _
  · rw [U2Fob_send_eq rfl]
    decide +kernel

/-- The error command, with or without the high bit, is received as an error. -/
theorem recv_of_error_command :
    (0x3f : UInt8) ≠ U2FHID_ERROR ∧
      U2Fob_recv ⟨true, 7⟩ 1 (U2Fob_send ⟨true, 7⟩ 0x3f [9]).2 ≠
        ⟨1, some (TYPE_INIT ||| 0x3f), [9]⟩ := by
  refine ⟨by decide, ?_⟩
  rw [U2Fob_send_eq rfl]
  decide

end U2F.Hid
