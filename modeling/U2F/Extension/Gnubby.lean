/-
**A client of a gnubby reads a reply.**

`gnubby.js` collects the frames of its channel and puts the reply to a command together.  The frames
wait in a queue, and one callback waits for the next frame; it is called from a timer of zero
delay, and so is the callback of the caller in the end.  All that happens is in the events: a frame
comes from the device, or one of the scheduled callbacks is called, whichever it is.

Main definitions:

* `Gnubby` — a client between two commands; `Gnubby.Reading` — a client with an outstanding `read_`
  and the calls of the caller's callback;
* `Gnubby.Reading.init_frame`, `Gnubby.Reading.cont_frame` — what happens to a frame that is read;
* `Gnubby.read_` — a read is started;
* `Gnubby.machine` — the events.
-/

import U2F.Lib.Machine
import U2F.Extension.GnubbyClient

set_option relaxedAutoImplicit false
set_option autoImplicit false

namespace U2F

open Hid GnubbyDevice

/-- A callback that is given to `window.setTimeout`, or waits for a frame. -/
inductive Gnubby.Callback
  | init_frame
  | cont_frame
  /-- The callback of the caller of `read_`, with its arguments. -/
  | caller (rc : ℤ) (data : Option (List UInt8))

/-- A client between two commands: no callback is scheduled. -/
structure Gnubby where
  cid : Int32
  /-- Whether the client has a device. -/
  dev : Bool
  rxframes : List (List UInt8)
  rxcb : Option Gnubby.Callback
  closed : Bool
  commandPending : Bool
  closingWhenIdle : Bool
  notifyOnClose : List ℕ

namespace Gnubby

/-- The client when a command is begun. -/
def toClient (g : Gnubby) : GnubbyClient Callback :=
  { g with scheduled := [], notified := [] }

/-- A client and the variables of an outstanding `read_`. -/
structure Reading extends GnubbyClient Callback where
  /-- Whether the read timer is armed. -/
  tid : Bool
  /-- Whether the callback of the caller is still to be scheduled. -/
  callback : Bool
  cmd : UInt8
  msg : List UInt8
  seqno : ℕ
  count : ℕ
  called : List (ℤ × Option (List UInt8))

/-- The length that a first frame announces; it is no number when the frame is too short. -/
def totalLen (f : List UInt8) : ℕ :=
  if 6 < f.length then ((f.getD 5 0).toNat <<< 8) + (f.getD 6 0).toNat else 0

/-- The loop that copies the payload of a frame into the message. -/
def copyPayload : List UInt8 → ℕ → List UInt8 → List UInt8 × ℕ
  | msg, count, [] => (msg, count)
  | msg, count, b :: f =>
    if count < msg.length then copyPayload (msg.set count b) (count + 1) f else (msg, count)

namespace Reading

def notifyFrame_ (r : Reading) (cb : Callback) : Reading :=
  { r with toGnubbyClient := r.toGnubbyClient.notifyFrame_ cb }

def receivedFrame (r : Reading) (frame : List UInt8) : Reading :=
  { r with toGnubbyClient := r.toGnubbyClient.receivedFrame frame }

def idleClose_ (r : Reading) : Reading :=
  { r with toGnubbyClient := r.toGnubbyClient.idleClose_ }

def schedule_cb (r : Reading) (a : ℤ) (b : Option (List UInt8)) : Reading :=
  let r := { r with commandPending := false, tid := false }
  let r :=
    if r.callback then { r with callback := false, scheduled := r.scheduled ++ [.caller a b] } else r
  if r.closingWhenIdle then r.idleClose_ else r

/-- An error from the device is forwarded. -/
def error_frame (r : Reading) (f : List UInt8) : Reading :=
  let rc := (f.getD 7 0).toNat
  schedule_cb { r with closed := r.closed || rc = GONE } (-rc) none

/-- The payload of a frame is copied; then the message is complete, or more frames are needed. -/
def copy (r : Reading) (payload : List UInt8) : Reading :=
  let (msg, count) := copyPayload r.msg r.count payload
  let r := { r with msg := msg, count := count }
  if count = msg.length then r.schedule_cb (-OK) (some msg) else r.notifyFrame_ .cont_frame

def cont_frame (r : Reading) : Reading :=
  if !r.callback || !r.tid then r
  else
    match r.rxframes with
    | [] => r  -- `readFrame_` throws
    | f :: rxframes =>
      let r := { r with rxframes := rxframes }
      let rcmd := f.getD 4 0
      if rcmd = CMD_ERROR ∧ totalLen f = 1 then r.error_frame f
      else if rcmd &&& 0x80 ≠ 0 then r.notifyFrame_ .cont_frame
      else
        let seq := (rcmd &&& 0x7f).toNat
        let seqno := r.seqno
        let r := { r with seqno := seqno + 1 }
        if seq ≠ seqno then r.schedule_cb (-INVALID_SEQ) none else r.copy (f.drop 5)

def init_frame (r : Reading) : Reading :=
  if !r.callback || !r.tid then r
  else
    match r.rxframes with
    | [] => r  -- `readFrame_` throws
    | f :: rxframes =>
      let r := { r with rxframes := rxframes }
      let rcmd := f.getD 4 0
      if rcmd = CMD_ERROR ∧ totalLen f = 1 then r.error_frame f
      else if rcmd &&& 0x80 = 0 then r.notifyFrame_ .init_frame
      else if rcmd ≠ r.cmd then r.notifyFrame_ .init_frame
      else copy { r with msg := List.replicate (totalLen f) 0 } (f.drop 7)

/-- A callback is called. -/
def call (r : Reading) : Callback → Reading
  | .init_frame => r.init_frame
  | .cont_frame => r.cont_frame
  | .caller rc data => { r with called := r.called ++ [(rc, data)] }

end Reading

/-- A read is started.  The caller's callback is called at once if the client has no device. -/
def read_ (g : Gnubby) (cmd : UInt8) : Reading :=
  let r : Reading :=
    { g.toClient with
      tid := false, callback := true, cmd := cmd, msg := [], seqno := 0, count := 0, called := [] }
  if g.closed || !g.dev then { r with called := [(-GONE, none)] }
  else Reading.notifyFrame_ { r with tid := true } .init_frame

/-- What happens while a read is outstanding. -/
inductive Event
  /-- The device has a frame. -/
  | receivedFrame (frame : List UInt8)
  /-- One of the scheduled callbacks is called, the one at this position. -/
  | timer (i : ℕ)

def machine : Machine Reading Event Unit where
  step r
    | .receivedFrame frame => ((), r.receivedFrame frame)
    | .timer i =>
      match r.scheduled[i]? with
      | none => ((), r)
      | some cb => ((), Reading.call { r with scheduled := r.scheduled.eraseIdx i } cb)

end Gnubby

end U2F
