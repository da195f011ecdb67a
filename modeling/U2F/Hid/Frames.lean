/-
**Messages in HID frames.**

A message on a channel of a device is cut into frames of 64 bytes.  The first has a command and the
length of the payload in front, with the high bit of the command set; the others have a sequence
number, which counts from 0.  The last frame is filled up with a byte that does not matter.

Main definitions:

* `Hid.initFrame`, `Hid.contFrame` — a frame;
* `Hid.frames` — the frames of a message;
* `Hid.channel` — the channel a frame is for.

Main results:

* `Hid.length_frames` — every frame has 64 bytes;
* `Hid.channel_frames` — every frame is for the channel of the message.
-/

import U2F.Lib.ByteStream
import U2F.Lib.Fragments

set_option relaxedAutoImplicit false
set_option autoImplicit false

namespace U2F.Hid

open Fragments

/-- The number of payload bytes in the first frame, and in the others. -/
def INIT_DATA : ℕ := 57

def CONT_DATA : ℕ := 59

/-- What is received of a payload with the first frame and `k` more. -/
abbrev receivedPayload (payload : List UInt8) (k : ℕ) : List UInt8 :=
  received INIT_DATA CONT_DATA payload k

/-- The number of frames after the first. -/
abbrev contCount (payload : List UInt8) : ℕ := count INIT_DATA CONT_DATA payload.length

def initFrame (pad : UInt8) (cid : Int32) (cmd : UInt8) (payload : List UInt8) : List UInt8 :=
  putInt cid ++ cmd :: putShort payload.length ++ fill pad INIT_DATA (payload.take INIT_DATA)

def contFrame (pad : UInt8) (cid : Int32) (payload : List UInt8) (seq : ℕ) : List UInt8 :=
  putInt cid ++ UInt8.ofNat seq ::
    fill pad CONT_DATA (fragment INIT_DATA CONT_DATA payload seq)

/-- **The frames of a message.** -/
def frames (pad : UInt8) (cid : Int32) (cmd : UInt8) (payload : List UInt8) : List (List UInt8) :=
  initFrame pad cid cmd payload ::
    (List.range (contCount payload)).map (contFrame pad cid payload)

/-- The channel of a frame. -/
def channel (f : List UInt8) : Int32 :=
  getInt (f.getD 0 0) (f.getD 1 0) (f.getD 2 0) (f.getD 3 0)

theorem channel_putInt (cid : Int32) (rest : List UInt8) : channel (putInt cid ++ rest) = cid :=
  getInt_putInt cid

theorem length_initFrame (pad : UInt8) (cid : Int32) (cmd : UInt8) (payload : List UInt8) :
    (initFrame pad cid cmd payload).length = 64 := by
  simp only [initFrame, putInt, putShort, List.cons_append, List.nil_append, List.length_cons,
    length_fill (List.length_take_le _ _), INIT_DATA]

theorem length_contFrame (pad : UInt8) (cid : Int32) (payload : List UInt8) (seq : ℕ) :
    (contFrame pad cid payload seq).length = 64 := by
  simp only [contFrame, putInt, List.cons_append, List.nil_append, List.length_cons,
    length_fill (length_fragment_le _ _), CONT_DATA]

theorem length_frames {pad : UInt8} {cid : Int32} {cmd : UInt8} {payload f : List UInt8}
    (h : f ∈ frames pad cid cmd payload) : f.length = 64 := by
  rcases List.mem_cons.1 h with rfl | h
  · exact length_initFrame pad cid cmd payload
  · obtain ⟨seq, -, rfl⟩ := List.mem_map.1 h
    exact length_contFrame pad cid payload seq

theorem channel_frames {pad : UInt8} {cid : Int32} {cmd : UInt8} {payload f : List UInt8}
    (h : f ∈ frames pad cid cmd payload) : channel f = cid := by
  rcases List.mem_cons.1 h with rfl | h
  · rw [initFrame, List.append_assoc]
    exact channel_putInt cid _
  · obtain ⟨seq, -, rfl⟩ := List.mem_map.1 h
    exact channel_putInt cid _

theorem lt_contCount_iff {payload : List UInt8} {k : ℕ} :
    k < contCount payload ↔ INIT_DATA + CONT_DATA * k < payload.length :=
  lt_count_iff (by decide)

/-- There are at most 128 frames after the first, when the payload is not too long. -/
theorem contCount_le {payload : List UInt8} (h : payload.length ≤ 7609) :
    contCount payload ≤ 128 := by
  refine Nat.le_of_not_lt fun hlt => ?_
  rw [lt_contCount_iff, INIT_DATA, CONT_DATA] at hlt
  omega

end U2F.Hid
