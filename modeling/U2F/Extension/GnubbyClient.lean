/-
**What the commands of a client share.**

The commands of `gnubby.js` run one after another on one client, and what they leave behind is in the
fields of the client: the frames that have come and are not read, the callback that waits for the
next frame, and whether the client is closed or will be.  The callbacks of a command are a parameter
here, so that a command is described by what its own callbacks do.

Main definitions:

* `GnubbyClient` — the fields, and the callbacks that are scheduled with no delay;
* `GnubbyClient.notifyFrame_`, `GnubbyClient.receivedFrame` — a callback waits for a frame, and a
  frame comes;
* `GnubbyClient.close`, `GnubbyClient.closeWhenIdle`, `GnubbyClient.idleClose_` — the ways to close
  the client.
-/

import U2F.Extension.HidGnubbyDevice

set_option relaxedAutoImplicit false
set_option autoImplicit false

namespace U2F

open Hid GnubbyDevice

/-- A client whose commands have the callbacks `κ`. -/
structure GnubbyClient (κ : Type) where
  /-- Whether the client has a device. -/
  dev : Bool
  cid : Int32
  rxframes : List (List UInt8)
  rxcb : Option κ
  closed : Bool
  commandPending : Bool
  closingWhenIdle : Bool
  /-- The callbacks that `closeWhenIdle` has been given and that wait, by number. -/
  notifyOnClose : List ℕ
  /-- The callbacks that are given to `window.setTimeout` with no delay. -/
  scheduled : List κ
  /-- The callbacks of `closeWhenIdle` that have been called. -/
  notified : List ℕ

namespace GnubbyClient

variable {κ : Type}

def NOTIFICATION_CID : Int32 := 0

def BROADCAST_CID : Int32 := -1

def checkCID_ (g : GnubbyClient κ) (frame : List UInt8) : Bool :=
  channel frame = g.cid || channel frame = NOTIFICATION_CID

def inUse_ (g : GnubbyClient κ) : Bool := g.commandPending

/-- `window.setTimeout(cb, 0)` -/
def schedule (g : GnubbyClient κ) (cb : κ) : GnubbyClient κ :=
  { g with scheduled := g.scheduled ++ [cb] }

def notifyFrame_ (g : GnubbyClient κ) (cb : κ) : GnubbyClient κ :=
  if g.rxframes.length ≠ 0 then g.schedule cb else { g with rxcb := some cb }

/-- Whether the client is still interested in the frames of its device, which `receivedFrame`
returns. -/
def isInterested (g : GnubbyClient κ) : Bool := !g.closed

/-- A frame comes from the device. -/
def receivedFrame (g : GnubbyClient κ) (frame : List UInt8) : GnubbyClient κ :=
  if g.closed then g
  else if !g.checkCID_ frame then g
  else
    { g with
      rxframes := g.rxframes ++ [frame], rxcb := none, scheduled := g.scheduled ++ g.rxcb.toList }

/-- The device is removed later, by a timer that concerns the device only. -/
def close (g : GnubbyClient κ) : GnubbyClient κ :=
  let g := { g with closed := true }
  if g.dev then { g with rxframes := [], rxcb := none, dev := false } else g

def idleClose_ (g : GnubbyClient κ) : GnubbyClient κ :=
  let g := g.close
  { g with notified := g.notified ++ g.notifyOnClose, notifyOnClose := [] }

/-- The client is asked to close, with a callback. -/
def closeWhenIdle (g : GnubbyClient κ) (cb : ℕ) : GnubbyClient κ :=
  if !g.inUse_ then
    let g := g.close
    { g with notified := g.notified ++ [cb] }
  else { g with closingWhenIdle := true, notifyOnClose := g.notifyOnClose ++ [cb] }

/-- The next one of the scheduled callbacks is no longer scheduled. -/
def unschedule (g : GnubbyClient κ) (i : ℕ) : GnubbyClient κ :=
  { g with scheduled := g.scheduled.eraseIdx i }

/-! ### Closing -/

section Close

variable (g : GnubbyClient κ)

@[simp] theorem close_dev : g.close.dev = false := by
  unfold close
  dsimp only
  split
  · rfl
  · simp_all

@[simp] theorem close_closed : g.close.closed = true := by
  unfold close
  dsimp only
  split <;> rfl

@[simp] theorem close_scheduled : g.close.scheduled = g.scheduled := by
  unfold close
  dsimp only
  split <;> rfl

@[simp] theorem close_commandPending : g.close.commandPending = g.commandPending := by
  unfold close
  dsimp only
  split <;> rfl

@[simp] theorem close_notifyOnClose : g.close.notifyOnClose = g.notifyOnClose := by
  unfold close
  dsimp only
  split <;> rfl

@[simp] theorem close_notified : g.close.notified = g.notified := by
  unfold close
  dsimp only
  split <;> rfl

@[simp] theorem idleClose_scheduled : g.idleClose_.scheduled = g.scheduled := close_scheduled g

end Close

end GnubbyClient

end U2F
