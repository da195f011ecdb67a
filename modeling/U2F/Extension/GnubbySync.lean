/-
**A client gets in step with its device.**

`Gnubby.sync` sends a sentinel to the device and reads frames until the device has answered it.  A
timer sends the sentinel again, up to six times; where the device is shared, the sentinel asks for a
channel first, and the sync falls back to the other kind of sentinel when the device does not have
that command.  `checkSentinel` waits for a frame, and stays registered when the timer fires.

Main definitions:

* `Gnubby.Syncing` — a client and the variables of a sync, with what the sync has done to the device
  and the frames;
* `Gnubby.Syncing.checkSentinel`, `Gnubby.Syncing.timeoutLoop` — the callbacks of the sync;
* `Gnubby.sync` — a sync is started; `Gnubby.syncMachine` — what happens to it;
* `Gnubby.Syncing.Clean` — the sync finishes once and leaves the channel clean.

Main results:

* `Gnubby.Syncing.Kept.next` — what a step in good order keeps;
* `Gnubby.sync_clean` — **a sync whose steps are in good order finishes once and leaves the channel
  clean**;
* `Gnubby.not_sync_clean` — a sync that times out calls back again when the device answers late, and
  a sync whose client is closed never calls back.
-/

import U2F.Extension.GnubbyClient
import U2F.Lib.Machine

set_option relaxedAutoImplicit false
set_option autoImplicit false

namespace U2F

namespace GnubbyDevice

def INVALID_CMD : ℕ := 1

def INVALID_PAR : ℕ := 2

def INVALID_LEN : ℕ := 3

def TIMEOUT : ℕ := 5

end GnubbyDevice

namespace Gnubby

open GnubbyDevice

/-- A callback of a sync. -/
inductive SyncCallback
  | checkSentinel
  /-- The callback of the caller, with its argument. -/
  | caller (rc : ℤ)
  deriving DecidableEq

/-- The kind of sentinel that a sync uses. -/
inductive Sentinel
  | init
  | sync
  deriving DecidableEq

/-- An exception. -/
inductive SyncError
  /-- `readFrame_` is called and there is no frame. -/
  | rxframesEmpty
  /-- A command is queued and the client has no device. -/
  | noDevice
  deriving DecidableEq

/-- A client and the variables of a sync. -/
structure Syncing where
  client : GnubbyClient SyncCallback
  /-- `Gnubby.defaultChannelId_` of the client. -/
  defaultChannelId : Int32
  synccnt : ℕ
  nonce : List UInt8
  sentinel : Sentinel
  done : Bool
  trycount : ℕ
  /-- Whether the timer is armed. -/
  tid : Bool
  /-- The commands that the device has been given: channel, command and data. -/
  queued : List (Int32 × UInt8 × List UInt8)
  /-- The arguments that the callback of the caller has been called with. -/
  called : List ℤ
  threw : List SyncError
  /-- For every frame that was read, whether the sync was done. -/
  reads : List Bool

namespace Syncing

def notifyFrame_ (s : Syncing) (cb : SyncCallback) : Syncing :=
  { s with client := s.client.notifyFrame_ cb }

def throw (s : Syncing) (error : SyncError) : Syncing := { s with threw := s.threw ++ [error] }

/-- The oldest frame is read, and the callback goes on with it. -/
def readFrame_ (k : List UInt8 → Syncing → Syncing) (s : Syncing) : Syncing :=
  match s.client.rxframes with
  | [] => s.throw .rxframesEmpty
  | f :: rxframes =>
      k f { s with client := { s.client with rxframes := rxframes }, reads := s.reads ++ [s.done] }

/-- A command is given to the device, and the callback goes on. -/
def queueCommand (cid : Int32) (cmd : UInt8) (data : List UInt8) (k : Syncing → Syncing)
    (s : Syncing) : Syncing :=
  if s.client.dev then k { s with queued := s.queued ++ [(cid, cmd, data)] } else s.throw .noDevice

def returnValue (rc : ℤ) (s : Syncing) : Syncing :=
  let s := { s with done := true, client := s.client.schedule (.caller rc) }
  if s.client.closingWhenIdle then { s with client := s.client.idleClose_ } else s

def sendSyncSentinel (k : Syncing → Syncing) (s : Syncing) : Syncing :=
  let s := { s with synccnt := s.synccnt + 1 }
  s.queueCommand s.client.cid CMD_SYNC [UInt8.ofNat s.synccnt] k

def syncSentinelEquals (s : Syncing) (f : List UInt8) : Bool :=
  f.getD 4 0 = CMD_SYNC ∧ (f.length = 7 ∨ (f.getD 7 0).toNat = s.synccnt)

def syncCompletionAction (rc : ℤ) (s : Syncing) : Syncing := s.returnValue rc

/-- A client without a channel of its own asks for one on the broadcast channel. -/
def sendInitSentinel (k : Syncing → Syncing) (s : Syncing) : Syncing :=
  let s :=
    if s.client.cid = s.defaultChannelId then
      { s with client := { s.client with cid := GnubbyClient.BROADCAST_CID } }
    else s
  s.queueCommand s.client.cid CMD_INIT s.nonce k

def initSentinelEquals (s : Syncing) (f : List UInt8) : Bool :=
  f.getD 4 0 = CMD_INIT ∧ s.nonce.length + 7 ≤ f.length ∧
    (f.drop 7).take s.nonce.length = s.nonce

def initCmdUnsupported (rc : ℤ) : Bool :=
  rc = -INVALID_CMD || rc = -INVALID_PAR || rc = -INVALID_LEN

def sendSentinel (k : Syncing → Syncing) (s : Syncing) : Syncing :=
  match s.sentinel with
  | .init => s.sendInitSentinel k
  | .sync => s.sendSyncSentinel k

def sentinelEquals (s : Syncing) (f : List UInt8) : Bool :=
  match s.sentinel with
  | .init => s.initSentinelEquals f
  | .sync => s.syncSentinelEquals f

/-- The body of `timeoutLoop`, given what `callback(-TIMEOUT)` does. -/
def tryAgain (giveUp : Syncing → Syncing) (s : Syncing) : Syncing :=
  if s.done then s
  else if s.trycount = 0 then giveUp s
  else
    { s with trycount := s.trycount - 1 }.sendSentinel fun s =>
      { s.notifyFrame_ .checkSentinel with tid := true }

/-- What `callback` does before the completion action. -/
def clear (s : Syncing) : Syncing :=
  { s with client := { s.client with commandPending := false }, tid := false }

/-- `timeoutLoop` after `setSync()`. -/
def timeoutLoopSync : Syncing → Syncing :=
  tryAgain fun s => s.clear.syncCompletionAction (-TIMEOUT)

/-- A channel is picked at random, and synced with. -/
def fallBack (rnd : UInt8 × UInt8) (s : Syncing) : Syncing :=
  let cid := s.defaultChannelId ^^^ (rnd.1.toUInt32.toInt32 <<< 16 ||| rnd.2.toUInt32.toInt32 <<< 8)
  { s with client := { s.client with cid := cid }, sentinel := .sync }.timeoutLoopSync

/-- The channel that the reply to an `INIT` has after the nonce. -/
def providedCid (s : Syncing) (f : List UInt8) : Int32 :=
  let offs := 7 + s.nonce.length
  getInt (f.getD offs 0) (f.getD (offs + 1) 0) (f.getD (offs + 2) 0) (f.getD (offs + 3) 0)

/-- An actual failure is returned; the function goes on all the same. -/
def initCompletionAction (rnd : UInt8 × UInt8) (rc : ℤ) (frame : Option (List UInt8))
    (s : Syncing) : Syncing :=
  let s := if rc ≠ 0 ∧ !initCmdUnsupported rc then s.returnValue rc else s
  match frame with
  | none => s.fallBack rnd
  | some f =>
      if rc ≠ 0 ∨ f.length < s.nonce.length + 11 then s.fallBack rnd
      else { s with client := { s.client with cid := s.providedCid f } }.returnValue rc

def callback (rnd : UInt8 × UInt8) (rc : ℤ) (frame : Option (List UInt8)) (s : Syncing) :
    Syncing :=
  let s := s.clear
  match s.sentinel with
  | .init => s.initCompletionAction rnd rc frame
  | .sync => s.syncCompletionAction rc

def timeoutLoop (rnd : UInt8 × UInt8) : Syncing → Syncing :=
  tryAgain (callback rnd (-TIMEOUT) none)

/-- An error frame that has no code gives no number, which is as good as 0 here. -/
def checkSentinel (rnd : UInt8 × UInt8) : Syncing → Syncing :=
  readFrame_ fun f s =>
    if f.getD 4 0 = CMD_ERROR ∧ f.getD 5 0 = 0 ∧ f.getD 6 0 = 1 then
      let code := (f.getD 7 0).toNat
      if code = BUSY then s.sendSentinel fun s => s.notifyFrame_ .checkSentinel
      else
        callback rnd (-code) none
          { s with client := { s.client with closed := s.client.closed || code = GONE } }
    else if !s.sentinelEquals f then s.notifyFrame_ .checkSentinel
    else s.callback rnd (-OK) (some f)

/-- A scheduled callback is called. -/
def call (rnd : UInt8 × UInt8) (s : Syncing) : SyncCallback → Syncing
  | .checkSentinel => s.checkSentinel rnd
  | .caller rc => { s with called := s.called ++ [rc] }

end Syncing

/-- The channel that a client has as long as it has no better one. -/
def defaultChannelId_ (gnubbyInstance device : ℕ) : Int32 :=
  (Int32.ofNat gnubbyInstance &&& (0x00ffffff : Int32)) |||
    Int32.ofNat (device + 1) <<< (24 : Int32)

/-- The variables of a new sync. -/
def newSync (g : GnubbyClient SyncCallback) (gnubbyInstance device synccnt : ℕ)
    (sharedAccess : Bool) (nonce : List UInt8) : Syncing :=
  { client := g, defaultChannelId := defaultChannelId_ gnubbyInstance device, synccnt := synccnt
    nonce := nonce, sentinel := if sharedAccess then .init else .sync, done := false
    trycount := 6, tid := false, queued := [], called := [], threw := [], reads := [] }

/-- A sync is started, with the nonce and the random numbers that it would draw. -/
def sync (g : GnubbyClient SyncCallback) (gnubbyInstance device synccnt : ℕ) (sharedAccess : Bool)
    (nonce : List UInt8) (rnd : UInt8 × UInt8) : Syncing :=
  let s := newSync g gnubbyInstance device synccnt sharedAccess nonce
  if g.closed then { s with done := true, called := [-GONE] } else s.timeoutLoop rnd

/-- What happens during a sync.  Random numbers are drawn in the events that need them. -/
inductive SyncEvent
  | receivedFrame (frame : List UInt8)
  /-- One of the scheduled callbacks is called, the one at this position. -/
  | scheduled (i : ℕ) (rnd : UInt8 × UInt8)
  /-- The timer fires, if it is armed. -/
  | timeout (rnd : UInt8 × UInt8)
  | close
  | closeWhenIdle (cb : ℕ)

/-- **A sync as a reactive machine.** -/
def syncMachine : Machine Syncing SyncEvent Unit where
  step s
    | .receivedFrame frame => ((), { s with client := s.client.receivedFrame frame })
    | .scheduled i rnd =>
      match s.client.scheduled[i]? with
      | none => ((), s)
      | some cb => ((), { s with client := s.client.unschedule i }.call rnd cb)
    | .timeout rnd => ((), if s.tid then { s with tid := false }.timeoutLoop rnd else s)
    | .close => ((), { s with client := s.client.close })
    | .closeWhenIdle cb => ((), { s with client := s.client.closeWhenIdle cb })

namespace Syncing

/-! ### A sync in good order -/

/-- The sync finishes once and leaves the channel clean. -/
structure Clean (s : Syncing) : Prop where
  once : s.called.length ≤ 1
  called : s.tid = false → s.client.scheduled = [] → s.called ≠ []
  buffered : .rxframesEmpty ∉ s.threw
  device : .noDevice ∉ s.threw
  /-- Every frame was read before the callback was scheduled. -/
  unread : ∀ done ∈ s.reads, done = false

/-- The client may be closed: the sync is done, or it only waits for its last timeout. -/
def MayClose (s : Syncing) : Prop :=
  s.done = true ∨ s.trycount = 0 ∧ .checkSentinel ∉ s.client.scheduled

/-- A step is in good order: the timer does not fire while `checkSentinel` is scheduled, the client
is not closed before the sync is done, and no frame comes for a callback that a sync has left when it
timed out. -/
def InOrder (s : Syncing) : SyncEvent → Prop
  | .receivedFrame frame => s.done = true →
      s.client.rxcb = none ∨ s.client.closed = true ∨ s.client.checkCID_ frame = false
  | .scheduled .. => True
  | .timeout _ => s.tid = true → .checkSentinel ∉ s.client.scheduled
  | .close => s.MayClose
  | .closeWhenIdle _ => s.client.commandPending = true ∨ s.MayClose

/-- Nothing has gone wrong, and the caller has not been called. -/
structure Quiet (s : Syncing) : Prop where
  threw : s.threw = []
  reads : ∀ done ∈ s.reads, done = false
  called : s.called = []

/-- `checkSentinel` waits for a frame, or is scheduled and there is one. -/
def Listening (g : GnubbyClient SyncCallback) : Prop :=
  g.scheduled = [] ∧ g.rxcb = some .checkSentinel ∧ g.rxframes = [] ∨
    g.scheduled = [.checkSentinel] ∧ g.rxcb = none ∧ g.rxframes ≠ []

/-- The sync waits for a frame or for the timer. -/
structure Waiting (s : Syncing) : Prop extends Quiet s where
  notDone : s.done = false
  armed : s.tid = true
  dev : s.client.dev = true
  notClosed : s.client.closed = false
  listening : Listening s.client

/-- The client has been closed, and the sync waits for its last timeout. -/
structure CutOff (s : Syncing) : Prop extends Quiet s where
  notDone : s.done = false
  armed : s.tid = true
  last : s.trycount = 0
  scheduled : s.client.scheduled = []
  closed : s.client.closed = true

/-- The callback of the caller is scheduled or has been called, and nothing else is scheduled. -/
structure Finished (s : Syncing) : Prop where
  threw : s.threw = []
  reads : ∀ done ∈ s.reads, done = false
  done : s.done = true
  disarmed : s.tid = false
  once : (∃ rc, s.client.scheduled = [.caller rc]) ∧ s.called = [] ∨
    s.client.scheduled = [] ∧ ∃ rc, s.called = [rc]

/-- What holds at every point of a sync whose steps are in good order. -/
inductive Kept (s : Syncing) : Prop
  | waiting (h : s.Waiting)
  | cutOff (h : s.CutOff)
  | finished (h : s.Finished)

theorem Kept.clean {s : Syncing} (h : s.Kept) : s.Clean := by
  cases h with
  | waiting h =>
      have harmed := h.armed
      exact ⟨by simp [h.called], by simp [harmed], by simp [h.threw], by simp [h.threw], h.reads⟩
  | cutOff h =>
      have harmed := h.armed
      exact ⟨by simp [h.called], by simp [harmed], by simp [h.threw], by simp [h.threw], h.reads⟩
  | finished h =>
      refine ⟨?_, ?_, by simp [h.threw], by simp [h.threw], h.reads⟩
      · rcases h.once with ⟨-, hcalled⟩ | ⟨-, rc, hcalled⟩ <;> simp [hcalled]
      · intro _ hscheduled
        rcases h.once with ⟨⟨rc, hrc⟩, -⟩ | ⟨-, rc, hcalled⟩
        · simp [hrc] at hscheduled
        · simp [hcalled]

/-! ### What the parts of a step do -/

/-- A sync that may go on: nothing is scheduled. -/
structure Idle (s : Syncing) : Prop extends Quiet s where
  notDone : s.done = false
  scheduled : s.client.scheduled = []

/-- A sync that may send a sentinel and wait for a frame. -/
structure Ready (s : Syncing) : Prop extends Idle s where
  dev : s.client.dev = true
  notClosed : s.client.closed = false
  rxcb : s.client.rxframes ≠ [] → s.client.rxcb = none

theorem Idle.returnValue {s : Syncing} (hs : s.Idle) (htid : s.tid = false) (rc : ℤ) :
    (s.returnValue rc).Finished := by
  have hscheduled : (s.client.schedule (.caller rc)).scheduled = [.caller rc] := by
    simp [GnubbyClient.schedule, hs.scheduled]
  unfold Syncing.returnValue
  dsimp only
  split
  · exact ⟨hs.threw, hs.reads, rfl, htid,
      .inl ⟨⟨rc, (GnubbyClient.idleClose_scheduled _).trans hscheduled⟩, hs.called⟩⟩
  · exact ⟨hs.threw, hs.reads, rfl, htid, .inl ⟨⟨rc, hscheduled⟩, hs.called⟩⟩

theorem Idle.clear {s : Syncing} (hs : s.Idle) : s.clear.Idle :=
  ⟨⟨hs.threw, hs.reads, hs.called⟩, hs.notDone, hs.scheduled⟩

theorem Ready.clear {s : Syncing} (hs : s.Ready) : s.clear.Ready :=
  ⟨hs.toIdle.clear, hs.dev, hs.notClosed, hs.rxcb⟩

/-- A sync that is done does not try again. -/
theorem tryAgain_of_done {s : Syncing} (hs : s.done = true) (giveUp : Syncing → Syncing) :
    s.tryAgain giveUp = s := by
  rw [tryAgain, if_pos hs]

theorem Finished.fallBack {s : Syncing} (hs : s.Finished) (rnd : UInt8 × UInt8) :
    (s.fallBack rnd).Finished := by
  unfold Syncing.fallBack timeoutLoopSync
  dsimp only
  rw [tryAgain_of_done (by exact hs.done)]
  exact ⟨hs.threw, hs.reads, hs.done, hs.disarmed, hs.once⟩

theorem Ready.listening {s : Syncing} (hs : s.Ready) :
    Listening (s.client.notifyFrame_ .checkSentinel) := by
  unfold GnubbyClient.notifyFrame_
  by_cases hframes : s.client.rxframes = []
  · rw [if_neg (by simp [hframes])]
    exact .inl ⟨hs.scheduled, rfl, hframes⟩
  · rw [if_pos (by simpa using hframes)]
    exact .inr ⟨by simp [GnubbyClient.schedule, hs.scheduled], hs.rxcb hframes, hframes⟩

/-- `checkSentinel` waits for the next frame. -/
theorem Ready.wait {s : Syncing} (hs : s.Ready) :
    { s.notifyFrame_ .checkSentinel with tid := true }.Waiting := by
  have hdev : (s.client.notifyFrame_ .checkSentinel).dev = true := by
    unfold GnubbyClient.notifyFrame_
    split <;> exact hs.dev
  have hnotClosed : (s.client.notifyFrame_ .checkSentinel).closed = false := by
    unfold GnubbyClient.notifyFrame_
    split <;> exact hs.notClosed
  exact ⟨⟨hs.threw, hs.reads, hs.called⟩, hs.notDone, rfl, hdev, hnotClosed, hs.listening⟩

theorem Ready.queueCommand {s : Syncing} (hs : s.Ready) (cid : Int32) (cmd : UInt8)
    (data : List UInt8) (k : Syncing → Syncing) :
    ∃ t : Syncing, t.Ready ∧ t.tid = s.tid ∧ s.queueCommand cid cmd data k = k t :=
  ⟨{ s with queued := s.queued ++ [(cid, cmd, data)] },
    ⟨⟨⟨hs.threw, hs.reads, hs.called⟩, hs.notDone, hs.scheduled⟩, hs.dev, hs.notClosed, hs.rxcb⟩,
    rfl, if_pos hs.dev⟩

/-- Sending a sentinel changes nothing that matters when there is a device. -/
theorem Ready.sendSentinel {s : Syncing} (hs : s.Ready) (k : Syncing → Syncing) :
    ∃ t : Syncing, t.Ready ∧ t.tid = s.tid ∧ s.sendSentinel k = k t := by
  have hready : ∀ (cid : Int32) (synccnt : ℕ),
      { s with client := { s.client with cid := cid }, synccnt := synccnt }.Ready := fun _ _ =>
    ⟨⟨⟨hs.threw, hs.reads, hs.called⟩, hs.notDone, hs.scheduled⟩, hs.dev, hs.notClosed, hs.rxcb⟩
  unfold Syncing.sendSentinel
  split
  · unfold sendInitSentinel
    dsimp only
    split
    · exact (hready GnubbyClient.BROADCAST_CID s.synccnt).queueCommand _ _ _ k
    · exact (hready s.client.cid s.synccnt).queueCommand _ _ _ k
  · exact (hready s.client.cid (s.synccnt + 1)).queueCommand _ _ _ k

/-- A sync that tries again waits, and one that has no try left gives up. -/
theorem Ready.tryAgain {s : Syncing} (hs : s.Ready) {giveUp : Syncing → Syncing}
    (hgiveUp : (giveUp s).Kept) : (s.tryAgain giveUp).Kept := by
  unfold Syncing.tryAgain
  split
  · rename_i hdone
    exact absurd hdone (by simp [hs.notDone])
  · split
    · exact hgiveUp
    · have hready : { s with trycount := s.trycount - 1 }.Ready :=
        ⟨⟨⟨hs.threw, hs.reads, hs.called⟩, hs.notDone, hs.scheduled⟩, hs.dev, hs.notClosed, hs.rxcb⟩
      obtain ⟨t, ht, -, heq⟩ := hready.sendSentinel fun s =>
        { s.notifyFrame_ .checkSentinel with tid := true }
      rw [heq]
      exact .waiting ht.wait

/-- With the other kind of sentinel. -/
theorem Ready.fallBack {s : Syncing} (hs : s.Ready) (rnd : UInt8 × UInt8) :
    (s.fallBack rnd).Kept := by
  unfold Syncing.fallBack timeoutLoopSync
  have hready : ∀ cid : Int32,
      { s with client := { s.client with cid := cid }, sentinel := .sync }.Ready := fun _ =>
    ⟨⟨⟨hs.threw, hs.reads, hs.called⟩, hs.notDone, hs.scheduled⟩, hs.dev, hs.notClosed, hs.rxcb⟩
  refine (hready _).tryAgain (.finished ?_)
  exact (hready _).toIdle.clear.returnValue rfl _

/-- **A failure finishes the sync**, unless it is one of a device without the `INIT` command. -/
theorem Idle.callback {s : Syncing} (hs : s.Idle) (rnd : UInt8 × UInt8) {rc : ℤ}
    (hrc : rc ≠ 0 ∧ initCmdUnsupported rc = false) : (s.callback rnd rc none).Finished := by
  have hfinished : (s.clear.returnValue rc).Finished := hs.clear.returnValue rfl rc
  unfold Syncing.callback
  dsimp only
  split
  · unfold initCompletionAction
    dsimp only
    rw [if_pos (by simpa using hrc)]
    exact hfinished.fallBack rnd
  · exact hfinished

/-- Any result leaves a sync that may go on in order. -/
theorem Ready.callback {s : Syncing} (hs : s.Ready) (rnd : UInt8 × UInt8) (rc : ℤ)
    (frame : Option (List UInt8)) : (s.callback rnd rc frame).Kept := by
  have hfinished : ∀ cid : Int32,
      ({ s.clear with client := { s.clear.client with cid := cid } }.returnValue rc).Finished := by
    intro cid
    have hidle : { s.clear with client := { s.clear.client with cid := cid } }.Idle :=
      ⟨⟨hs.threw, hs.reads, hs.called⟩, hs.notDone, hs.scheduled⟩
    exact hidle.returnValue rfl rc
  unfold Syncing.callback
  dsimp only
  split
  case h_2 => exact .finished (hfinished s.client.cid)
  case h_1 =>
    unfold initCompletionAction
    by_cases hrc : rc ≠ 0 ∧ (!initCmdUnsupported rc) = true
    · -- the failure is returned, and nothing more is done
      dsimp only
      rw [if_pos hrc]
      have hfell := (hfinished s.client.cid).fallBack rnd
      split
      · exact .finished hfell
      · rw [if_pos (.inl hrc.1)]
        exact .finished hfell
    · dsimp only
      rw [if_neg hrc]
      split
      · exact hs.clear.fallBack rnd
      · split
        · exact hs.clear.fallBack rnd
        · exact .finished (hfinished _)

/-! ### The steps -/

/-- `checkSentinel` reads the frame that it has been scheduled for. -/
theorem Waiting.checkSentinel {s : Syncing} (hs : s.Waiting) (hnone : s.client.rxcb = none)
    (hframes : s.client.rxframes ≠ []) (rnd : UInt8 × UInt8) :
    ({ s with client := s.client.unschedule 0 }.checkSentinel rnd).Kept := by
  have hunscheduled : (s.client.unschedule 0).scheduled = [] := by
    rcases hs.listening with ⟨hscheduled, -, -⟩ | ⟨hscheduled, -, -⟩ <;>
      simp [GnubbyClient.unschedule, hscheduled]
  unfold Syncing.checkSentinel readFrame_
  dsimp only
  split
  case h_1 hempty => exact absurd hempty hframes
  case h_2 f rxframes hrxframes =>
    have hreads : ∀ done ∈ s.reads ++ [s.done], done = false := by
      intro done hdone
      rcases List.mem_append.1 hdone with hdone | hdone
      · exact hs.reads done hdone
      · rw [List.mem_singleton.1 hdone, hs.notDone]
    have hidle : ∀ closed : Bool, Idle { s with
        client := { s.client.unschedule 0 with rxframes := rxframes, closed := closed }
        reads := s.reads ++ [s.done] } :=
      fun _ => ⟨⟨hs.threw, hreads, hs.called⟩, hs.notDone, hunscheduled⟩
    have hready : Ready { s with
        client := { s.client.unschedule 0 with rxframes := rxframes }, reads := s.reads ++ [s.done] } :=
      ⟨hidle s.client.closed, hs.dev, hs.notClosed, fun _ => hnone⟩
    have hwait : ∀ {t : Syncing}, t.Ready → t.tid = true → (t.notifyFrame_ .checkSentinel).Kept := by
      intro t ht htid
      have hsame : { t.notifyFrame_ .checkSentinel with tid := true } =
          t.notifyFrame_ .checkSentinel := by
        rw [← htid]
        rfl
      exact .waiting (hsame ▸ ht.wait)
    split
    · generalize (f.getD 7 0).toNat = code
      split
      · obtain ⟨t, ht, htid, heq⟩ := hready.sendSentinel fun s => s.notifyFrame_ .checkSentinel
        rw [heq]
        exact hwait ht (htid.trans hs.armed)
      · by_cases hgone : code = GONE
        · -- the client is closed, and the sync finishes
          subst hgone
          exact .finished ((hidle _).callback rnd ⟨by decide, by decide⟩)
        · have hsame : (s.client.closed || decide (code = GONE)) = s.client.closed := by
            simp [hgone]
          have hstill : Ready _ :=
            ⟨hidle (s.client.closed || decide (code = GONE)), hs.dev, hsame.trans hs.notClosed,
              fun _ => hnone⟩
          exact hstill.callback rnd (-code) none
    · split
      · exact hwait hready hs.armed
      · exact hready.callback rnd _ _

/-- Closing the client in order. -/
theorem Kept.close {s : Syncing} (hs : s.Kept) (hclose : s.MayClose) {client : GnubbyClient SyncCallback}
    (hscheduled : client.scheduled = s.client.scheduled) (hclosed : client.closed = true) :
    { s with client := client }.Kept := by
  cases hs with
  | waiting h =>
      rcases hclose with hdone | ⟨hlast, hnot⟩
      · exact absurd hdone (by simp [h.notDone])
      · rcases h.listening with ⟨hnone, -, -⟩ | ⟨hcheck, -, -⟩
        · exact .cutOff ⟨⟨h.threw, h.reads, h.called⟩, h.notDone, h.armed, hlast,
            hscheduled.trans hnone, hclosed⟩
        · exact absurd (by simp [hcheck]) hnot
  | cutOff h =>
      exact .cutOff ⟨⟨h.threw, h.reads, h.called⟩, h.notDone, h.armed, h.last,
        hscheduled.trans h.scheduled, hclosed⟩
  | finished h =>
      refine .finished ⟨h.threw, h.reads, h.done, h.disarmed, ?_⟩
      dsimp only
      rw [hscheduled]
      exact h.once

theorem Kept.receivedFrame {s : Syncing} (hs : s.Kept) {frame : List UInt8}
    (horder : s.InOrder (.receivedFrame frame)) :
    { s with client := s.client.receivedFrame frame }.Kept := by
  by_cases hclosed : s.client.closed = true
  · have hsame : s.client.receivedFrame frame = s.client := if_pos hclosed
    rw [hsame]
    exact hs
  by_cases hcid : s.client.checkCID_ frame = true
  · have hframe : s.client.receivedFrame frame = { s.client with
        rxframes := s.client.rxframes ++ [frame], rxcb := none
        scheduled := s.client.scheduled ++ s.client.rxcb.toList } := by
      rw [GnubbyClient.receivedFrame, if_neg hclosed, if_neg (by simp [hcid])]
    rw [hframe]
    cases hs with
    | waiting h =>
        refine .waiting ⟨⟨h.threw, h.reads, h.called⟩, h.notDone, h.armed, h.dev, h.notClosed,
          .inr ⟨?_, rfl, by simp⟩⟩
        rcases h.listening with ⟨hnone, hwaits, -⟩ | ⟨hcheck, hnobody, -⟩
        · simp [hnone, hwaits]
        · simp [hcheck, hnobody]
    | cutOff h => exact absurd h.closed hclosed
    | finished h =>
        -- nobody waits for a frame
        have hnone : s.client.rxcb = none := by
          rcases horder h.done with hnone | h | h
          · exact hnone
          · exact absurd h hclosed
          · exact absurd hcid (by simp [h])
        refine .finished ⟨h.threw, h.reads, h.done, h.disarmed, ?_⟩
        simpa [hnone] using h.once
  · have hsame : s.client.receivedFrame frame = s.client := by
      rw [GnubbyClient.receivedFrame, if_neg hclosed, if_pos (by simpa using hcid)]
    rw [hsame]
    exact hs

theorem Kept.timeout {s : Syncing} (hs : s.Kept) (rnd : UInt8 × UInt8)
    (horder : s.InOrder (.timeout rnd)) (htid : s.tid = true) :
    ({ s with tid := false }.timeoutLoop rnd).Kept := by
  have hgiveUp : ∀ {t : Syncing}, t.Idle → (t.callback rnd (-TIMEOUT) none).Kept :=
    fun ht => .finished (ht.callback rnd ⟨by decide, by decide⟩)
  cases hs with
  | waiting h =>
      rcases h.listening with ⟨hnone, -, hframes⟩ | ⟨hcheck, -, -⟩
      · have hready : { s with tid := false }.Ready :=
          ⟨⟨⟨h.threw, h.reads, h.called⟩, h.notDone, hnone⟩, h.dev, h.notClosed,
            fun hne => absurd hframes hne⟩
        exact hready.tryAgain (hgiveUp hready.toIdle)
      · exact absurd (by simp [hcheck]) (horder htid)
  | cutOff h =>
      have hidle : { s with tid := false }.Idle :=
        ⟨⟨h.threw, h.reads, h.called⟩, h.notDone, h.scheduled⟩
      unfold timeoutLoop Syncing.tryAgain
      rw [if_neg (by simp [h.notDone]), if_pos h.last]
      exact hgiveUp hidle
  | finished h => exact absurd htid (by simp [h.disarmed])

theorem Kept.call {s : Syncing} (hs : s.Kept) (rnd : UInt8 × UInt8) {i : ℕ} {cb : SyncCallback}
    (hcb : s.client.scheduled[i]? = some cb) :
    ({ s with client := s.client.unschedule i }.call rnd cb).Kept := by
  -- at most one callback is scheduled
  have hsingle : ∀ {c : SyncCallback}, s.client.scheduled = [c] → i = 0 ∧ cb = c := by
    intro c hc
    rw [hc] at hcb
    obtain ⟨hi, heq⟩ := List.getElem?_eq_some_iff.1 hcb
    obtain rfl : i = 0 := by simpa using hi
    exact ⟨rfl, heq.symm⟩
  have hsome : s.client.scheduled ≠ [] := by
    intro hnil
    simp [hnil] at hcb
  cases hs with
  | waiting h =>
      rcases h.listening with ⟨hnone, -, -⟩ | ⟨hcheck, hnobody, hframes⟩
      · exact absurd hnone hsome
      · obtain ⟨rfl, rfl⟩ := hsingle hcheck
        exact h.checkSentinel hnobody hframes rnd
  | cutOff h => exact absurd h.scheduled hsome
  | finished h =>
      rcases h.once with ⟨⟨rc, hrc⟩, hcalled⟩ | ⟨hnone, -⟩
      · obtain ⟨rfl, rfl⟩ := hsingle hrc
        have hnone : (s.client.unschedule 0).scheduled = [] := by simp [GnubbyClient.unschedule, hrc]
        have hcalled' : s.called ++ [rc] = [rc] := by rw [hcalled, List.nil_append]
        exact .finished ⟨h.threw, h.reads, h.done, h.disarmed, .inr ⟨hnone, rc, hcalled'⟩⟩
      · exact absurd hnone hsome

/-- **What a step in good order keeps.** -/
theorem Kept.next {s : Syncing} (hs : s.Kept) {e : SyncEvent} (horder : s.InOrder e) :
    (syncMachine.next s e).Kept := by
  cases e with
  | receivedFrame frame => exact hs.receivedFrame horder
  | scheduled i rnd =>
      simp only [Machine.next, syncMachine]
      split
      · exact hs
      · rename_i cb hcb
        exact hs.call rnd hcb
  | timeout rnd =>
      simp only [Machine.next, syncMachine]
      split
      · rename_i htid
        exact hs.timeout rnd horder htid
      · exact hs
  | close =>
      exact hs.close horder (GnubbyClient.close_scheduled _) (GnubbyClient.close_closed _)
  | closeWhenIdle cb =>
      by_cases hpending : s.client.commandPending = true
      · have hwaits : s.client.closeWhenIdle cb = { s.client with
            closingWhenIdle := true, notifyOnClose := s.client.notifyOnClose ++ [cb] } :=
          if_neg (by simp [GnubbyClient.inUse_, hpending])
        simp only [Machine.next, syncMachine, hwaits]
        cases hs with
        | waiting h =>
            exact .waiting ⟨⟨h.threw, h.reads, h.called⟩, h.notDone, h.armed, h.dev, h.notClosed,
              h.listening⟩
        | cutOff h =>
            exact .cutOff ⟨⟨h.threw, h.reads, h.called⟩, h.notDone, h.armed, h.last, h.scheduled,
              h.closed⟩
        | finished h => exact .finished ⟨h.threw, h.reads, h.done, h.disarmed, h.once⟩
      · have hcloses : s.client.closeWhenIdle cb =
            { s.client.close with notified := s.client.close.notified ++ [cb] } :=
          if_pos (by simpa [GnubbyClient.inUse_] using hpending)
        simp only [Machine.next, syncMachine, hcloses]
        exact hs.close (horder.resolve_left hpending) (GnubbyClient.close_scheduled _)
          (GnubbyClient.close_closed _)

end Syncing

open Syncing

/-- A sync of a client that is closed or has its device begins in order. -/
theorem kept_sync {g : GnubbyClient SyncCallback} (hscheduled : g.scheduled = [])
    (hrxcb : g.rxcb = none) (hdev : g.closed = true ∨ g.dev = true)
    (gnubbyInstance device synccnt : ℕ) (sharedAccess : Bool) (nonce : List UInt8)
    (rnd : UInt8 × UInt8) :
    (sync g gnubbyInstance device synccnt sharedAccess nonce rnd).Kept := by
  have hidle : (newSync g gnubbyInstance device synccnt sharedAccess nonce).Idle :=
    ⟨⟨rfl, nofun, rfl⟩, rfl, hscheduled⟩
  unfold sync
  dsimp only
  split
  · exact .finished ⟨rfl, hidle.reads, rfl, rfl, .inr ⟨hscheduled, _, rfl⟩⟩
  · rename_i hopen
    have hnotClosed : g.closed = false := by simpa using hopen
    have hready : (newSync g gnubbyInstance device synccnt sharedAccess nonce).Ready :=
      ⟨hidle, hdev.resolve_left hopen, hnotClosed, fun _ => hrxcb⟩
    exact hready.tryAgain (.finished (hidle.callback rnd ⟨by decide, by decide⟩))

/-- **A sync whose steps are in good order finishes once and leaves the channel clean**: at every
point of every run. -/
theorem sync_clean {g : GnubbyClient SyncCallback} (hscheduled : g.scheduled = [])
    (hrxcb : g.rxcb = none) (hdev : g.closed = true ∨ g.dev = true)
    (gnubbyInstance device synccnt : ℕ) (sharedAccess : Bool) (nonce : List UInt8)
    (rnd : UInt8 × UInt8) {es : List SyncEvent}
    (horder : syncMachine.AllSteps InOrder
      (sync g gnubbyInstance device synccnt sharedAccess nonce rnd) es) :
    syncMachine.Always Clean (sync g gnubbyInstance device synccnt sharedAccess nonce rnd) es :=
  Machine.always_of_invariant (fun _ _ hs he => Kept.next hs he) (fun _ => Kept.clean) horder
    (kept_sync hscheduled hrxcb hdev gnubbyInstance device synccnt sharedAccess nonce rnd)

/-- A client that has just been opened. -/
def openedClient : GnubbyClient SyncCallback :=
  { dev := true, cid := 5, rxframes := [], rxcb := none, closed := false, commandPending := false
    closingWhenIdle := false, notifyOnClose := [], scheduled := [], notified := [] }

/-- The reply to the sentinel with the number `n`, on the channel of the client. -/
def syncReply (n : UInt8) : List UInt8 := [0, 0, 0, 5, CMD_SYNC, 0, 1, n]

/-- The first sentinel is lost; the device answers the second one, and then the client is closed. -/
def retriedSync : List SyncEvent :=
  [.timeout (0, 0), .receivedFrame (syncReply 2), .scheduled 0 (0, 0), .scheduled 0 (0, 0), .close]

theorem sync_clean_retried :
    syncMachine.Always Clean (sync openedClient 5 0 0 false [] (0, 0)) retriedSync ∧
      (syncMachine.exec (sync openedClient 5 0 0 false [] (0, 0)) retriedSync).called = [0] := by
  refine ⟨sync_clean rfl rfl (.inr rfl) 5 0 0 false [] (0, 0) ?_, by decide⟩
  refine ⟨fun _ => by decide, nofun, trivial, trivial, .inl rfl, trivial⟩

/-- The device answers after the last timeout. -/
def lateReply : List SyncEvent :=
  List.replicate 6 (.timeout (0, 0)) ++
    [.scheduled 0 (0, 0), .receivedFrame (syncReply 6), .scheduled 0 (0, 0), .scheduled 0 (0, 0)]

/-- **A sync that times out calls back again when the device answers late**, and a sync whose client
is closed has the timer queue a command on no device and never calls back. -/
theorem not_sync_clean :
    (¬ syncMachine.Always Clean (sync openedClient 5 0 0 false [] (0, 0)) lateReply ∧
      (syncMachine.exec (sync openedClient 5 0 0 false [] (0, 0)) lateReply).called = [-5, 0] ∧
      true ∈ (syncMachine.exec (sync openedClient 5 0 0 false [] (0, 0)) lateReply).reads) ∧
    ¬ syncMachine.Always Clean (sync openedClient 5 0 0 false [] (0, 0)) [.close, .timeout (0, 0)] ∧
      (syncMachine.exec (sync openedClient 5 0 0 false [] (0, 0)) [.close, .timeout (0, 0)]).threw =
        [.noDevice] := by
  refine ⟨⟨fun h => ?_, by decide, by decide⟩, fun h => ?_, by decide⟩
  · have honce := (h lateReply (List.prefix_refl _)).once
    revert honce
    decide
  · have hdevice := (h _ (List.prefix_refl _)).device
    revert hdevice
    decide

end Gnubby

end U2F
