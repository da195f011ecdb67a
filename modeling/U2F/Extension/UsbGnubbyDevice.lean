/-
**A USB device takes one request at a time.**

`usbgnubbydevice.js` writes the first request of its queue, reads a reply, drops the request and writes
the next one.  Each of these steps is taken by the callback of a transfer or by a timer with no delay,
and each of them stops when the device is being closed.

Main definitions:

* `UsbGnubbyDevice` — the state of a device, with the transfers and timers that it waits for; `log` is
  what has happened on its endpoints and `queued` what has been queued;
* `UsbGnubbyDevice.writeOneRequest_`, `UsbGnubbyDevice.readOneReply_`, `UsbGnubbyDevice.queueCommand` —
  its functions;
* `UsbGnubbyDevice.machine` — what happens to it.

Main results:

* `UsbGnubbyDevice.queueCommand_dead`, `UsbGnubbyDevice.queueCommand_refused`,
  `UsbGnubbyDevice.queueCommand_live` — what a command does.
-/

import U2F.Extension.ChannelLock
import U2F.Lib.Machine

set_option relaxedAutoImplicit false
set_option autoImplicit false

namespace U2F

/-- What happens on the endpoints of a device. -/
inductive Transfer
  | writes (frame : List UInt8)
  | written
  | reads
  | read

/-- A device that has a connection, or is destroyed. -/
structure UsbGnubbyDevice extends ChannelLock where
  dev : Bool
  closing : Bool
  updating : Bool
  txqueue : List (List UInt8)
  inTransferPending : Bool
  outTransferPending : Bool
  /-- What it has given to its clients. -/
  published : List (List UInt8)
  /-- Whether one of its functions has thrown an exception. -/
  thrown : Bool
  /-- How many transfers are outstanding, in both directions. -/
  outs : ℕ
  ins : ℕ
  /-- How many timers with no delay will call `readOneReply_`, drop a request and call
  `writeOneRequest_`, and call `destroy`. -/
  readTimers : ℕ
  writeTimers : ℕ
  destroyTimers : ℕ
  log : List Transfer
  queued : List (List UInt8)
  /-- Whether a transfer has failed. -/
  failed : Bool

namespace UsbGnubbyDevice

open GnubbyDevice

/-- The constructor of the device. -/
def new : UsbGnubbyDevice :=
  { toChannelLock := .unlocked, dev := true, closing := false, updating := false, txqueue := []
    inTransferPending := false, outTransferPending := false, published := [], thrown := false
    outs := 0, ins := 0, readTimers := 0, writeTimers := 0, destroyTimers := 0
    log := [], queued := [], failed := false }

def publishFrame_ (d : UsbGnubbyDevice) (f : List UInt8) : UsbGnubbyDevice :=
  { d with published := d.published ++ [f] }

def readyToUse_ (d : UsbGnubbyDevice) : Bool :=
  if d.closing then false
  else if !d.dev then false
  else true

def readOneReply_ (d : UsbGnubbyDevice) : UsbGnubbyDevice :=
  if !d.readyToUse_ then d
  else if d.updating then d
  else if d.inTransferPending = false then
    { d with inTransferPending := true, ins := d.ins + 1, log := d.log ++ [Transfer.reads] }
  else { d with thrown := true }

/-- The callback of a transfer to the host. -/
def inTransferComplete (lastError : Bool) (data : Option (List UInt8)) (d : UsbGnubbyDevice) :
    UsbGnubbyDevice :=
  let d := { d with inTransferPending := false }
  if !d.readyToUse_ then d
  else if lastError then { d with destroyTimers := d.destroyTimers + 1 }
  else
    match data with
    | some f => { d.publishFrame_ f with writeTimers := d.writeTimers + 1 }
    | none => { d with destroyTimers := d.destroyTimers + 1 }

def writeOneRequest_ (d : UsbGnubbyDevice) : UsbGnubbyDevice :=
  if !d.readyToUse_ then d
  else
    match d.txqueue with
    | [] => d
    | frame :: _ =>
      if d.outTransferPending = false then
        { d with outTransferPending := true, outs := d.outs + 1, log := d.log ++ [Transfer.writes frame] }
      else { d with thrown := true }

/-- The callback of a transfer to the device. -/
def outTransferComplete (lastError : Bool) (d : UsbGnubbyDevice) : UsbGnubbyDevice :=
  let d := { d with outTransferPending := false }
  if !d.readyToUse_ then d
  else if lastError then { d with destroyTimers := d.destroyTimers + 1 }
  else { d with readTimers := d.readTimers + 1 }

/-- The timer that goes on to the next request. -/
def writeNext (d : UsbGnubbyDevice) : UsbGnubbyDevice :=
  { d with txqueue := d.txqueue.tail }.writeOneRequest_

def checkLock_ (d : UsbGnubbyDevice) (cid : Int32) (cmd : UInt8) : Bool × UsbGnubbyDevice :=
  if d.Refuses cid cmd then (false, d.publishFrame_ (ChannelLock.busy cid)) else (true, d)

def updateLock_ (d : UsbGnubbyDevice) (cid : Int32) (cmd arg : ℕ) : UsbGnubbyDevice :=
  { d with toChannelLock := d.toChannelLock.updateLock_ cid cmd arg }

/-- The frame of a command. -/
def request (cid : Int32) (cmd : UInt8) (data : List UInt8) : List UInt8 :=
  putInt cid ++ cmd :: UInt8.ofNat (data.length >>> 8) :: UInt8.ofNat (data.length &&& 255) :: data

def queueCommand (d : UsbGnubbyDevice) (cid : Int32) (cmd : UInt8) (data : List UInt8) :
    UsbGnubbyDevice :=
  if !d.dev then d
  else
    let (unlocked, d) := d.checkLock_ cid cmd
    if !unlocked then d
    else
      let frame := request cid cmd data
      let lockArg := if data.length > 0 then (data.getD 0 0).toNat else 0
      let d := d.updateLock_ cid cmd.toNat lockArg
      let wasEmpty := d.txqueue.length = 0
      let d := { d with txqueue := d.txqueue ++ [frame], queued := d.queued ++ [frame] }
      if wasEmpty then d.writeOneRequest_ else d

/-- `destroy`, as far as the clients are told; they may queue commands then. -/
def destroy (d : UsbGnubbyDevice) : UsbGnubbyDevice :=
  if !d.dev then d
  else
    { d with closing := true }.publishFrame_ [0, 0, 0, 0, CMD_ERROR, 0, 1, UInt8.ofNat GONE]

/-- The rest of `destroy`. -/
def destroyed (d : UsbGnubbyDevice) : UsbGnubbyDevice :=
  if d.dev && d.closing then { d with toChannelLock := d.toChannelLock.clearTimeout, dev := false }
  else d

/-- What happens to a device. -/
inductive Event
  | queueCommand (cid : Int32) (cmd : UInt8) (data : List UInt8)
  /-- A transfer that is outstanding is over. -/
  | outTransferComplete (lastError : Bool)
  | inTransferComplete (lastError : Bool) (data : Option (List UInt8))
  /-- A timer fires, if there is one. -/
  | readOneReply
  | writeNext
  | destroyTimer
  | lockExpired (tid : ℕ)
  | destroy
  | destroyed

/-- **A device as a reactive machine.**  A transfer is over when it has failed, too, and a reply has
data unless it has failed. -/
def machine : Machine UsbGnubbyDevice Event Unit where
  step d
    | .queueCommand cid cmd data => ((), d.queueCommand cid cmd data)
    | .outTransferComplete lastError =>
      ((), if d.outs = 0 then d
      else
        { d with
          outs := d.outs - 1
          log := if lastError then d.log else d.log ++ [Transfer.written]
          failed := d.failed || lastError }.outTransferComplete lastError)
    | .inTransferComplete lastError data =>
      ((), if d.ins = 0 then d
      else
        { d with
          ins := d.ins - 1
          log := if lastError || data.isNone then d.log else d.log ++ [Transfer.read]
          failed := d.failed || lastError || data.isNone }.inTransferComplete lastError data)
    | .readOneReply =>
      ((), if d.readTimers = 0 then d else { d with readTimers := d.readTimers - 1 }.readOneReply_)
    | .writeNext =>
      ((), if d.writeTimers = 0 then d else { d with writeTimers := d.writeTimers - 1 }.writeNext)
    | .destroyTimer =>
      ((), if d.destroyTimers = 0 then d else { d with destroyTimers := d.destroyTimers - 1 }.destroy)
    | .lockExpired tid => ((), { d with toChannelLock := d.toChannelLock.lockExpired tid })
    | .destroy => ((), d.destroy)
    | .destroyed => ((), d.destroyed)

/-! ### Commands -/

theorem queueCommand_dead {d : UsbGnubbyDevice} (hdev : d.dev = false) (cid : Int32) (cmd : UInt8)
    (data : List UInt8) : d.queueCommand cid cmd data = d := by
  rw [queueCommand, hdev]
  rfl

/-- A command that is refused is answered and queues nothing. -/
theorem queueCommand_refused {d : UsbGnubbyDevice} {cid : Int32} {cmd : UInt8} (data : List UInt8)
    (hdev : d.dev = true) (hlock : d.Refuses cid cmd) :
    d.queueCommand cid cmd data = d.publishFrame_ (ChannelLock.busy cid) := by
  have hcheck : d.checkLock_ cid cmd = (false, d.publishFrame_ (ChannelLock.busy cid)) := if_pos hlock
  rw [queueCommand, hdev, hcheck]
  rfl

/-- A command that is not refused queues its frame, and starts to write if the queue was empty. -/
theorem queueCommand_live {d e : UsbGnubbyDevice} {cid : Int32} {cmd : UInt8} {data : List UInt8}
    (hdev : d.dev = true) (hlock : ¬ d.Refuses cid cmd)
    (he : e = { d with
      toChannelLock := d.toChannelLock.updateLock_ cid cmd.toNat
        (if data.length > 0 then (data.getD 0 0).toNat else 0)
      txqueue := d.txqueue ++ [request cid cmd data]
      queued := d.queued ++ [request cid cmd data] }) :
    d.queueCommand cid cmd data = if d.txqueue = [] then e.writeOneRequest_ else e := by
  have hcheck : d.checkLock_ cid cmd = (true, d) := if_neg hlock
  have hlive : ¬ (!d.dev) = true := by simp [hdev]
  subst he
  unfold queueCommand
  rw [if_neg hlive, hcheck]
  by_cases hempty : d.txqueue = []
  · rw [if_pos hempty]
    exact if_pos (List.length_eq_zero_iff.2 hempty)
  · rw [if_neg hempty]
    exact if_neg fun hlength => hempty (List.length_eq_zero_iff.1 hlength)

end UsbGnubbyDevice

end U2F
