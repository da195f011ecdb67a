/-
**The devices that are open, and who waits for them.**

`gnubbies.js` keeps the devices that have been enumerated and those that are open.  A client that asks
for a device that is being opened waits in a list, and so does whoever asks for an enumeration while one
goes on.  The lists are drained by loops that call back; a callback may ask again, and what it does
happens in the middle of the loop.  So the loops that have not come to their end are kept on a stack, and
between two of their rounds everything may happen.

A client is closed by its owner, by the destruction of its device or by a frame: an error frame with the
code GONE closes the client that reads it, and starts no timer that would remove it.

Main definitions:

* `Gnubbies` — the manager, its devices and clients, and the loops that go on;
* `Gnubbies.publishFrame_`, `Gnubbies.readFrame` — a device gives a frame to its clients, and a client
  reads one;
* `Gnubbies.removeClient`, `Gnubbies.destroy` — a client leaves, and a device is destroyed;
* `Gnubbies.addClient`, `Gnubbies.openCb` — a client asks for a device, and the device is open;
* `Gnubbies.enumerate`, `Gnubbies.enumerated` — the devices are enumerated;
* `Gnubbies.resume` — a loop goes on;
* `Gnubbies.machine` — what happens to a manager.
-/

import U2F.Extension.DeviceClients
import U2F.Extension.GnubbyClient
import U2F.Extension.MultipleSigner

set_option relaxedAutoImplicit false
set_option autoImplicit false

namespace U2F

namespace GnubbyDevice

def NODEVICE : ℕ := 512

end GnubbyDevice

open Hid GnubbyDevice

/-- A low-level device, as far as the manager is concerned. -/
structure LowLevelDevice where
  id : GnubbyDeviceId
  dev : Bool
  closing : Bool
  clients : List ℕ
  /-- The clients that have ever been registered. -/
  served : List ℕ

/-- Who waits for a device to be opened: the client, and the call of `addClient` by number. -/
structure Opener where
  who : ℕ
  call : ℕ

/-- The callback of `addClient` is called, and the device is in this state. -/
structure ToldClient where
  call : ℕ
  who : ℕ
  rc : ℤ
  device : Option ℕ
  closing : Bool
  registered : Bool

/-- The variables that the callbacks of an enumeration share. -/
structure EnumerateRound where
  namespacesEnumerated : ℕ
  /-- The namespaces whose enumerators have been called and have not called back. -/
  awaited : List JSString
  existingDeviceIds : List GnubbyDeviceId

/-- A loop that has not come to its end. -/
inductive DrainLoop
  /-- The loop of `openCb` with the device that has been opened. -/
  | opened (id : GnubbyDeviceId) (device : ℕ)
  /-- The loop of `notifyOpenResult`. -/
  | notifyOpenResult (id : GnubbyDeviceId) (rc : ℤ)
  /-- The loop of `enumerate` over the enumerators, with those that are left. -/
  | enumerators (round : ℕ) (left : List JSString)
  /-- The loop over those who wait for the enumeration. -/
  | enumerated (existingDeviceIds : List GnubbyDeviceId)

/-- Who waits for a manager, and the loops that call them back. -/
structure Waiters where
  namespaces_ : List JSString
  pendingOpens_ : GnubbyDeviceId → Option (List Opener)
  /-- The calls of `enumerate` that wait. -/
  pendingEnumerate : List ℕ
  /-- The devices that are being opened. -/
  opens : List GnubbyDeviceId
  rounds : ℕ → EnumerateRound
  begun : ℕ
  loops : List DrainLoop
  /-- How often `addClient` has been called, and how its callbacks have been called. -/
  adds : ℕ
  told : List ToldClient
  /-- How often `enumerate` has been called, and whose callbacks have been called. -/
  enumerates : ℕ
  answered : List ℕ

/-- A manager of opened devices, with its devices and clients by number. -/
structure Gnubbies extends Waiters where
  /-- The devices of a namespace that have been enumerated. -/
  devs_ : JSString → Option (List ℕ)
  openDevs_ : List (GnubbyDeviceId × ℕ)
  devices : ℕ → LowLevelDevice
  made : ℕ
  /-- Whether a client is closed, and its device. -/
  closed : ℕ → Bool
  dev : ℕ → Option ℕ
  /-- The timers that will remove a client from the device that it had. -/
  removals : List (ℕ × ℕ)
  /-- The channel of a client, and the frames for it that it has not read. -/
  cid : ℕ → Int32
  rxframes : ℕ → List (List UInt8)
  closingWhenIdle : ℕ → Bool

namespace Gnubbies

/-! ### Clients and devices -/

def setDevice (s : Gnubbies) (D : ℕ) (d : LowLevelDevice) : Gnubbies :=
  { s with devices := Function.update s.devices D d }

def removeOpenDevice (which : GnubbyDeviceId) (s : Gnubbies) : Gnubbies :=
  { s with openDevs_ := s.openDevs_.filter fun entry => entry.1 ≠ which }

/-- `receivedFrame` of a client. -/
def receivedFrame (frame : List UInt8) (s : Gnubbies) (who : ℕ) : List (List UInt8) :=
  if s.closed who then s.rxframes who
  else if channel frame ≠ s.cid who ∧ channel frame ≠ GnubbyClient.NOTIFICATION_CID then s.rxframes who
  else s.rxframes who ++ [frame]

/-- A device gives a frame to its clients. -/
def publishFrame_ (D : ℕ) (frame : List UInt8) (s : Gnubbies) : Gnubbies :=
  let d := s.devices D
  { s.setDevice D { d with clients := DeviceClients.publishFrame_ s.closed d.clients } with
    rxframes := fun who => if who ∈ d.clients then receivedFrame frame s who else s.rxframes who }

/-- `destroy` of the device `D`. -/
def destroy (D : ℕ) (s : Gnubbies) : Gnubbies :=
  if !(s.devices D).dev then s
  else
    let s := s.removeOpenDevice (s.devices D).id
    let s := s.setDevice D { s.devices D with closing := true }
    let s := s.publishFrame_ D goneFrame
    let clients := (s.devices D).clients
    let s := s.setDevice D { s.devices D with clients := [], dev := false }
    { s with closed := fun who => s.closed who || who ∈ clients }

/-- A client leaves one of the open devices, if it is there. -/
def deregister (who : ℕ) (s : Gnubbies) (entry : GnubbyDeviceId × ℕ) : Gnubbies :=
  let d := s.devices entry.2
  if DeviceClients.hasClient d.clients who then
    let (remaining, clients) := DeviceClients.deregisterClient d.clients who
    let s := s.setDevice entry.2 { d with clients := clients }
    if remaining = 0 then s.destroy entry.2 else s
  else s

/-- De-register a client from all known devices.  (The device that is given is only compared, for a
warning.) -/
def removeClient (who : ℕ) (s : Gnubbies) : Gnubbies := s.openDevs_.foldl (deregister who) s

/-- The callback of `addClient` is called; it keeps the device. -/
def callBack (o : Opener) (rc : ℤ) (device : Option ℕ) (s : Gnubbies) : Gnubbies :=
  let told : ToldClient :=
    { call := o.call, who := o.who, rc := rc, device := device
      closing := device.any fun D => (s.devices D).closing
      registered := device.any fun D => DeviceClients.hasClient (s.devices D).clients o.who }
  { s with told := s.told ++ [told], dev := Function.update s.dev o.who device }

def registerClient (D : ℕ) (who : ℕ) (s : Gnubbies) : Gnubbies :=
  let d := s.devices D
  s.setDevice D
    { d with
      clients := DeviceClients.registerClient d.clients who
      served := DeviceClients.registerClient d.served who }

def opened (D : ℕ) (o : Opener) (s : Gnubbies) : Gnubbies :=
  if (s.devices D).closing then (s.removeClient o.who).callBack o (-(NODEVICE : ℤ)) none
  else (s.registerClient D o.who).callBack o (-(OK : ℤ)) (some D)

/-! ### The loops -/

def setPending (s : Gnubbies) (id : GnubbyDeviceId) (openers : Option (List Opener)) : Gnubbies :=
  { s with pendingOpens_ := Function.update s.pendingOpens_ id openers }

/-- The innermost loop goes on for one round, or comes to its end.  It would throw if its list was
not there, which ends all the loops. -/
def resume (s : Gnubbies) : Gnubbies :=
  match s.loops with
  | [] => s
  | .opened id D :: loops =>
    match s.pendingOpens_ id with
    | none => { s with loops := [] }
    | some [] => { s.setPending id none with loops := loops }
    | some (client :: openers) => (s.setPending id (some openers)).opened D client
  | .notifyOpenResult id rc :: loops =>
    match s.pendingOpens_ id with
    | none => { s with loops := [] }
    | some [] => { s.setPending id none with loops := loops }
    | some (client :: openers) => (s.setPending id (some openers)).callBack client rc none
  | .enumerators _ [] :: loops => { s with loops := loops }
  | .enumerators round (nameSpace :: left) :: loops =>
    let r := s.rounds round
    { s with
      rounds := Function.update s.rounds round { r with awaited := r.awaited ++ [nameSpace] }
      loops := .enumerators round left :: loops }
  | .enumerated _ :: loops =>
    match s.pendingEnumerate with
    | [] => { s with loops := loops }
    | cb :: pending => { s with pendingEnumerate := pending, answered := s.answered ++ [cb] }

/-- A loop is entered. -/
def enter (loop : DrainLoop) (s : Gnubbies) : Gnubbies :=
  resume { s with loops := loop :: s.loops }

/-! ### Opening a device -/

def addClient (which : GnubbyDeviceId) (who : ℕ) (s : Gnubbies) : Gnubbies :=
  let o : Opener := { who := who, call := s.adds }
  let s := { s with adds := s.adds + 1 }
  if which.device ∉ (s.devs_ which.nameSpace).getD [] then
    (s.removeClient who).callBack o (-(NODEVICE : ℤ)) none
  else
    match s.openDevs_.find? fun entry => entry.1 = which with
    | some (_, D) => s.opened D o
    | none =>
      match s.pendingOpens_ which with
      | some openers => s.setPending which (some (openers ++ [o]))
      | none => { s.setPending which (some [o]) with opens := s.opens ++ [which] }

/-- An implementation has opened a device, or has failed to. -/
def openCb (which : GnubbyDeviceId) (rc : ℤ) (gnubby : Bool) (s : Gnubbies) : Gnubbies :=
  if rc ≠ 0 then s.enter (.notifyOpenResult which rc)
  else if !gnubby then s.enter (.notifyOpenResult which (-(NODEVICE : ℤ)))
  else
    let D := s.made
    let s := s.setDevice D { id := which, dev := true, closing := false, clients := [], served := [] }
    let s := { s with made := D + 1, openDevs_ := (s.removeOpenDevice which).openDevs_ ++ [(which, D)] }
    s.enter (.opened which D)

/-! ### Enumerating the devices -/

def enumerate (s : Gnubbies) : Gnubbies :=
  let cb := s.enumerates
  let s := { s with enumerates := cb + 1 }
  if s.namespaces_.length = 0 then { s with answered := s.answered ++ [cb] }
  else
    let s := { s with pendingEnumerate := s.pendingEnumerate ++ [cb] }
    if s.pendingEnumerate.length = 1 then
      let round := s.begun
      let r : EnumerateRound := { namespacesEnumerated := 0, awaited := [], existingDeviceIds := [] }
      { s with rounds := Function.update s.rounds round r, begun := round + 1 }.enter
        (.enumerators round s.namespaces_)
    else s

/-- A device that is no longer present is destroyed. -/
def destroyAbsent (s : Gnubbies) (entry : GnubbyDeviceId × ℕ) : Gnubbies :=
  (s.destroy entry.2).removeOpenDevice entry.1

/-- The enumerator of a namespace calls back. -/
def enumerated (round : ℕ) (nameSpace : JSString) (devs : List ℕ) (s : Gnubbies) : Gnubbies :=
  let r := s.rounds round
  let r : EnumerateRound :=
    { namespacesEnumerated := r.namespacesEnumerated + 1
      awaited := r.awaited.erase nameSpace
      existingDeviceIds := r.existingDeviceIds ++ devs.map fun device => ⟨nameSpace, device⟩ }
  let absent := s.openDevs_.filter fun entry =>
    entry.1.nameSpace = nameSpace ∧ entry.1.device ∉ devs
  let s := absent.foldl destroyAbsent s
  let s :=
    { s with
      devs_ := Function.update s.devs_ nameSpace (some devs)
      rounds := Function.update s.rounds round r }
  if r.namespacesEnumerated = s.namespaces_.length then s.enter (.enumerated r.existingDeviceIds)
  else s

/-! ### The manager as a machine -/

/-- Close all enumerated devices. -/
def closeAll (s : Gnubbies) : Gnubbies :=
  let s := s.openDevs_.foldl (fun s entry => s.destroy entry.2) s
  { s with devs_ := fun _ => none, openDevs_ := [] }

/-- `close` of a client. -/
def close (who : ℕ) (s : Gnubbies) : Gnubbies :=
  let s := { s with closed := Function.update s.closed who true }
  match s.dev who with
  | none => s
  | some D =>
    { s with
      rxframes := Function.update s.rxframes who []
      dev := Function.update s.dev who none
      removals := s.removals ++ [(D, who)] }

/-- A frame says that the device is gone. -/
def isGone (f : List UInt8) : Bool :=
  f.getD 4 0 = CMD_ERROR ∧ f[5]? = some 0 ∧ f[6]? = some 1 ∧ (f[7]?.map UInt8.toNat) = some GONE

/-- The client reads its oldest frame, in `init_frame`, `cont_frame` or `checkSentinel`.  If the device
is gone it is closed, and the command ends: a client that closes when it is idle then does so. -/
def readFrame (who : ℕ) (s : Gnubbies) : Gnubbies :=
  match s.rxframes who with
  | [] => s
  | f :: rxframes =>
    let s := { s with rxframes := Function.update s.rxframes who rxframes }
    if isGone f then
      let s := { s with closed := Function.update s.closed who true }
      if s.closingWhenIdle who then s.close who else s
    else s

/-- What happens to a manager: between two events, and also between the rounds of its loops. -/
inductive Event
  | addClient (which : GnubbyDeviceId) (who : ℕ)
  /-- A device that is being opened is open, or cannot be opened. -/
  | openCb (which : GnubbyDeviceId) (rc : ℤ) (gnubby : Bool)
  | enumerate
  /-- An enumerator calls back. -/
  | enumerated (round : ℕ) (nameSpace : JSString) (devs : List ℕ)
  /-- Who was called by the innermost loop returns. -/
  | resume
  | destroy (D : ℕ)
  | closeAll
  | close (who : ℕ)
  /-- A timer that removes a client fires, the one at this position. -/
  | removeClient (i : ℕ)
  | publishFrame (D : ℕ) (frame : List UInt8)
  | readFrame (who : ℕ)
  /-- A client is given a channel. -/
  | setCid (who : ℕ) (cid : Int32)
  /-- A client that has a command outstanding is asked to close when it is idle.  (One that is idle is
  closed, and so is one whose command ends.) -/
  | closeWhenIdle (who : ℕ)

/-- **A manager as a reactive machine.**  A device has a namespace that is registered, and an open or an
enumerator calls back once. -/
def machine : Machine Gnubbies Event Unit where
  step s
    | .addClient which who => ((), if which.nameSpace ∈ s.namespaces_ then s.addClient which who else s)
    | .openCb which rc gnubby =>
      ((), if which ∈ s.opens then { s with opens := s.opens.erase which }.openCb which rc gnubby else s)
    | .enumerate => ((), s.enumerate)
    | .enumerated round nameSpace devs =>
      ((), if nameSpace ∈ (s.rounds round).awaited then s.enumerated round nameSpace devs else s)
    | .resume => ((), s.resume)
    | .destroy D => ((), s.destroy D)
    | .closeAll => ((), s.closeAll)
    | .close who => ((), s.close who)
    | .removeClient i =>
      match s.removals[i]? with
      | none => ((), s)
      | some (_, who) => ((), { s with removals := s.removals.eraseIdx i }.removeClient who)
    | .publishFrame D frame => ((), s.publishFrame_ D frame)
    | .readFrame who => ((), s.readFrame who)
    | .setCid who cid => ((), { s with cid := Function.update s.cid who cid })
    | .closeWhenIdle who =>
      ((), { s with closingWhenIdle := Function.update s.closingWhenIdle who true })

/-- The constructor, with the namespaces that are registered and the devices that have been
enumerated. -/
def new (namespaces : List JSString) (devs : JSString → Option (List ℕ)) : Gnubbies :=
  { namespaces_ := namespaces, devs_ := devs, openDevs_ := [], pendingOpens_ := fun _ => none
    pendingEnumerate := []
    devices := fun _ => { id := ⟨[], 0⟩, dev := false, closing := true, clients := [], served := [] }
    made := 0, opens := []
    rounds := fun _ => { namespacesEnumerated := 0, awaited := [], existingDeviceIds := [] }
    begun := 0, loops := [], adds := 0, told := [], enumerates := 0, answered := []
    closed := fun _ => false, dev := fun _ => none, removals := []
    cid := fun _ => 0, rxframes := fun _ => [], closingWhenIdle := fun _ => false }

end Gnubbies

end U2F
