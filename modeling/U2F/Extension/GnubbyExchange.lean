/-
**An exchange with a gnubby.**

`Gnubby.exchange_` queues a command, reads the reply and starts again as long as the device is busy.
A read has a timer and waits for the frames of its reply one after another: it is called back when a
frame is there, from a timer with no delay.  Meanwhile the client can be closed, at once or when the
command is over, and the device can be destroyed.  Frame callbacks and timers of a read that is over
stay around; they find its callback gone.

Main definitions:

* `Gnubby.Exchanging` — a client with its exchanges and the reads that they have begun;
* `Gnubby.Exchanging.init_frame`, `Gnubby.Exchanging.cont_frame`, `Gnubby.Exchanging.read_timeout` —
  the callbacks of a read;
* `Gnubby.Exchanging.retryBusy`, `Gnubby.Exchanging.exchange_` — an exchange;
* `Gnubby.exchangeMachine` — what happens to a client that has one exchange at a time;
* `Gnubby.Exchanging.EndsOnce` — every exchange ends exactly once.

Main results:

* `Gnubby.Exchanging.Kept.next` — what a step keeps;
* `Gnubby.exchange_endsOnce_iff` — **every exchange ends exactly once, exactly if no frame callback
  that a read still waits for is called after the client was closed**.
-/

import U2F.Extension.Gnubby
import U2F.Extension.GnubbySync
import U2F.Extension.Watchdog
import Mathlib.Data.List.Perm.Basic

set_option relaxedAutoImplicit false
set_option autoImplicit false

namespace U2F

namespace Gnubby

open GnubbyDevice

/-- A callback of an exchange. -/
inductive ExchangeCallback
  | init_frame (read : ℕ)
  | cont_frame (read : ℕ)
  /-- `retryBusy` of an exchange with its arguments.  A status that is no number is left out. -/
  | retryBusy (exchange : ℕ) (rc : Option ℤ) (rc_data : Option (List UInt8))
  deriving DecidableEq

/-- The variables of a `read_`. -/
structure Read where
  cmd : UInt8
  /-- Whether the timer of the read is armed. -/
  tid : Bool
  /-- The exchange whose `retryBusy` is called when the read is over. -/
  callback : Option ℕ
  msg : List UInt8
  seqno : ℕ
  count : ℕ

/-- The variables of an `exchange_`. -/
structure Exchange where
  cmd : UInt8
  data : List UInt8
  busyWait : CountdownTimer

/-- A client with its exchanges and the reads that they have begun, both by number. -/
structure Exchanging where
  client : GnubbyClient ExchangeCallback
  busyMillis : ℚ
  /-- Whether the device of the client has been destroyed. -/
  destroyed : Bool
  reads : ℕ → Read
  begun : ℕ
  exchanges : ℕ → Exchange
  started : ℕ
  /-- The commands that the device has been given: channel, command and data. -/
  queued : List (Int32 × UInt8 × List UInt8)
  /-- The calls of the callbacks of the exchanges. -/
  called : List (ℕ × Option ℤ × Option (List UInt8))
  /-- Whether `readFrame_` has found no frame. -/
  threw : Bool
  /-- How many callbacks `closeWhenIdle` has been given. -/
  closers : ℕ

namespace Exchanging

def setRead (s : Exchanging) (i : ℕ) (r : Read) : Exchanging :=
  { s with reads := Function.update s.reads i r }

def notifyFrame_ (s : Exchanging) (cb : ExchangeCallback) : Exchanging :=
  { s with client := s.client.notifyFrame_ cb }

def receivedFrame (s : Exchanging) (frame : List UInt8) : Exchanging :=
  { s with client := s.client.receivedFrame frame }

/-- The oldest frame is read, and the callback goes on with it. -/
def readFrame_ (k : List UInt8 → Exchanging → Exchanging) (s : Exchanging) : Exchanging :=
  match s.client.rxframes with
  | [] => { s with threw := true }
  | f :: rxframes => k f { s with client := { s.client with rxframes := rxframes } }

/-- The device is destroyed, as far as this client is concerned. -/
def destroy (s : Exchanging) : Exchanging :=
  if s.destroyed then s
  else
    let s := { s with destroyed := true }.receivedFrame goneFrame
    { s with client := { s.client with closed := true } }

/-- The callback of the exchange is called. -/
def callBack (x : ℕ) (rc : Option ℤ) (rc_data : Option (List UInt8)) (s : Exchanging) : Exchanging :=
  let exchange := s.exchanges x
  { s with
    exchanges :=
      Function.update s.exchanges x { exchange with busyWait := exchange.busyWait.clearTimeout }
    called := s.called ++ [(x, rc, rc_data)] }

/-! ### The callbacks of a read -/

section

variable (i : ℕ)

def schedule_cb (a : Option ℤ) (b : Option (List UInt8)) (s : Exchanging) : Exchanging :=
  let s := { s with client := { s.client with commandPending := false } }
  let s := s.setRead i { s.reads i with tid := false }
  let s :=
    match (s.reads i).callback with
    | none => s
    | some x =>
        { s.setRead i { s.reads i with callback := none } with
          client := s.client.schedule (.retryBusy x a b) }
  if s.client.closingWhenIdle then { s with client := s.client.idleClose_ } else s

def read_timeout (s : Exchanging) : Exchanging :=
  if (s.reads i).callback.isNone || !(s.reads i).tid then s
  else
    let s := if s.client.dev then s.destroy else s
    let s := s.setRead i { s.reads i with tid := false }
    s.schedule_cb i (some (-(TIMEOUT : ℤ))) none

/-- An error from the device is forwarded; it may be too short to have a code. -/
def error_frame (f : List UInt8) (s : Exchanging) : Exchanging :=
  let code := f[7]?.map UInt8.toNat
  let s := { s with client := { s.client with closed := s.client.closed || code = some GONE } }
  s.schedule_cb i (code.map fun code => -(code : ℤ)) none

/-- The payload of a frame is copied; then the message is there, or more frames are needed. -/
def copy (payload : List UInt8) (s : Exchanging) : Exchanging :=
  let (msg, count) := copyPayload (s.reads i).msg (s.reads i).count payload
  let s := s.setRead i { s.reads i with msg := msg, count := count }
  if count = msg.length then s.schedule_cb i (some (-(OK : ℤ))) (some msg)
  else s.notifyFrame_ (.cont_frame i)

def cont_frame (s : Exchanging) : Exchanging :=
  if (s.reads i).callback.isNone || !(s.reads i).tid then s
  else
    s.readFrame_ fun f s =>
      let rcmd := f.getD 4 0
      if rcmd = CMD_ERROR ∧ totalLen f = 1 then s.error_frame i f
      else if rcmd &&& 0x80 ≠ 0 then s.notifyFrame_ (.cont_frame i)
      else
        let seq := (rcmd &&& 0x7f).toNat
        let seqno := (s.reads i).seqno
        let s := s.setRead i { s.reads i with seqno := seqno + 1 }
        if seq ≠ seqno then s.schedule_cb i (some (-(INVALID_SEQ : ℤ))) none
        else s.copy i (f.drop 5)

def init_frame (s : Exchanging) : Exchanging :=
  if (s.reads i).callback.isNone || !(s.reads i).tid then s
  else
    s.readFrame_ fun f s =>
      let rcmd := f.getD 4 0
      if rcmd = CMD_ERROR ∧ totalLen f = 1 then s.error_frame i f
      else if rcmd &&& 0x80 = 0 then s.notifyFrame_ (.init_frame i)
      else if rcmd ≠ (s.reads i).cmd then s.notifyFrame_ (.init_frame i)
      else
        (s.setRead i { s.reads i with msg := List.replicate (totalLen f) 0 }).copy i (f.drop 7)

end

/-! ### Exchanges -/

/-- The command is queued.  The device may have frames for its clients at once. -/
def write_ (cmd : UInt8) (data : List UInt8) (frames : List (List UInt8)) (s : Exchanging) :
    Exchanging :=
  if s.client.closed then s
  else if !s.client.dev then s
  else
    let s := { s with client := { s.client with commandPending := true } }
    let s := { s with queued := s.queued ++ [(s.client.cid, cmd, data)] }
    frames.foldl receivedFrame s

/-- A read of the exchange `x` is begun.  If there is no device, `retryBusy` gets `GONE`, which ends the
exchange. -/
def read_ (x : ℕ) (cmd : UInt8) (s : Exchanging) : Exchanging :=
  if s.client.closed || !s.client.dev then s.callBack x (some (-(GONE : ℤ))) none
  else
    let i := s.begun
    let r : Read := { cmd := cmd, tid := true, callback := some x, msg := [], seqno := 0, count := 0 }
    { s.setRead i r with begun := i + 1 }.notifyFrame_ (.init_frame i)

def retryBusy (x : ℕ) (rc : Option ℤ) (rc_data : Option (List UInt8)) (frames : List (List UInt8))
    (s : Exchanging) : Exchanging :=
  let exchange := s.exchanges x
  if rc = some (-(BUSY : ℤ)) ∧ !exchange.busyWait.expired then
    (s.write_ exchange.cmd exchange.data frames).read_ x exchange.cmd
  else s.callBack x rc rc_data

def exchange_ (cmd : UInt8) (data : List UInt8) (frames : List (List UInt8)) (s : Exchanging) :
    Exchanging :=
  let x := s.started
  let exchange : Exchange := { cmd := cmd, data := data, busyWait := .new s.busyMillis }
  { s with exchanges := Function.update s.exchanges x exchange, started := x + 1 }.retryBusy x
    (some (-(BUSY : ℤ))) none frames

/-- A scheduled callback is called. -/
def call (frames : List (List UInt8)) (s : Exchanging) : ExchangeCallback → Exchanging
  | .init_frame i => s.init_frame i
  | .cont_frame i => s.cont_frame i
  | .retryBusy x rc rc_data => s.retryBusy x rc rc_data frames

/-- Every exchange that has been started has been called back. -/
def Done (s : Exchanging) : Prop := ∀ x < s.started, x ∈ s.called.map Prod.fst

instance (s : Exchanging) : Decidable s.Done :=
  inferInstanceAs (Decidable (∀ x < s.started, x ∈ s.called.map Prod.fst))

end Exchanging

/-- What happens to a client.  Where a command may be queued, the event has the frames that the device
has for its clients while it is given the command. -/
inductive ExchangeEvent
  | exchange (cmd : UInt8) (data : List UInt8) (frames : List (List UInt8))
  | receivedFrame (frame : List UInt8)
  /-- One of the scheduled callbacks is called, the one at this position. -/
  | scheduled (k : ℕ) (frames : List (List UInt8))
  /-- The timer of a read fires, if it is armed. -/
  | timeout (read : ℕ)
  /-- The countdown of an exchange goes on. -/
  | timerTick (exchange : ℕ)
  | destroy
  | close
  | closeWhenIdle

/-- **A client that has one exchange at a time, as a reactive machine.** -/
def exchangeMachine : Machine Exchanging ExchangeEvent Unit where
  step s
    | .exchange cmd data frames => ((), if s.Done then s.exchange_ cmd data frames else s)
    | .receivedFrame frame => ((), s.receivedFrame frame)
    | .scheduled k frames =>
      match s.client.scheduled[k]? with
      | none => ((), s)
      | some cb => ((), { s with client := s.client.unschedule k }.call frames cb)
    | .timeout i => ((), if (s.reads i).tid then s.read_timeout i else s)
    | .timerTick x =>
      let exchange := s.exchanges x
      ((), { s with exchanges := Function.update s.exchanges x
                      { exchange with busyWait := exchange.busyWait.timerTick.1 } })
    | .destroy => ((), s.destroy)
    | .close => ((), { s with client := s.client.close })
    | .closeWhenIdle =>
      ((), { s with client := s.client.closeWhenIdle s.closers, closers := s.closers + 1 })

/-- A client that has no exchange yet.  A client that has no device has none that is destroyed. -/
def newExchanging (g : GnubbyClient ExchangeCallback) (busyMillis : ℚ) : Exchanging :=
  { client := g, busyMillis := busyMillis, destroyed := !g.dev
    reads := fun _ =>
      { cmd := 0, tid := false, callback := none, msg := [], seqno := 0, count := 0 }
    begun := 0, exchanges := fun _ => { cmd := 0, data := [], busyWait := ⟨0, false⟩ }, started := 0
    queued := [], called := [], threw := false, closers := 0 }

end Gnubby

namespace GnubbyClient

variable {κ : Type} {g : GnubbyClient κ}

/-! ### Who is told that the client is closed -/

/-- A frame is not for the client, or it is buffered and the callback that waits is scheduled. -/
theorem receivedFrame_cases (g : GnubbyClient κ) (frame : List UInt8) :
    g.receivedFrame frame = g ∨ g.closed = false ∧ g.receivedFrame frame = { g with
      rxframes := g.rxframes ++ [frame], rxcb := none, scheduled := g.scheduled ++ g.rxcb.toList } := by
  unfold receivedFrame
  split
  · exact .inl rfl
  · rename_i hclosed
    split
    · exact .inl rfl
    · exact .inr ⟨by simpa using hclosed, rfl⟩

/-- Of `n` callbacks given to `closeWhenIdle`, some have been called, and the others wait for the end of
a command. -/
structure Closing (g : GnubbyClient κ) (n : ℕ) : Prop where
  all : g.notified ++ g.notifyOnClose = List.range n
  waits : g.notifyOnClose ≠ [] → g.commandPending = true ∧ g.closingWhenIdle = true
  closed : g.notified ≠ [] → g.closed = true

variable {n : ℕ}

theorem Closing.receivedFrame (hg : g.Closing n) (frame : List UInt8) :
    (g.receivedFrame frame).Closing n := by
  rcases g.receivedFrame_cases frame with heq | ⟨-, heq⟩ <;> rw [heq]
  · exact hg
  · exact ⟨hg.all, hg.waits, hg.closed⟩

theorem Closing.notifyFrame (hg : g.Closing n) (cb : κ) : (g.notifyFrame_ cb).Closing n := by
  unfold GnubbyClient.notifyFrame_
  split
  · exact ⟨hg.all, hg.waits, hg.closed⟩
  · exact ⟨hg.all, hg.waits, hg.closed⟩

theorem close_closingWhenIdle (g : GnubbyClient κ) : g.close.closingWhenIdle = g.closingWhenIdle := by
  unfold close
  dsimp only
  split <;> rfl

theorem Closing.close (hg : g.Closing n) : g.close.Closing n := by
  refine ⟨?_, ?_, fun _ => close_closed g⟩
  · rw [close_notified, close_notifyOnClose]
    exact hg.all
  · rw [close_notifyOnClose, close_commandPending, close_closingWhenIdle]
    exact hg.waits

/-- The client is closed at once, or when the command that is pending is over. -/
theorem closeWhenIdle_cases (g : GnubbyClient κ) (cb : ℕ) :
    g.closeWhenIdle cb = { g.close with notified := g.close.notified ++ [cb] } ∨
      g.closeWhenIdle cb =
        { g with closingWhenIdle := true, notifyOnClose := g.notifyOnClose ++ [cb] } := by
  unfold closeWhenIdle
  split
  · exact .inl rfl
  · exact .inr rfl

theorem Closing.closeWhenIdle (hg : g.Closing n) : (g.closeWhenIdle n).Closing (n + 1) := by
  unfold GnubbyClient.closeWhenIdle
  by_cases hpending : g.commandPending = true
  · rw [if_neg (by simp [inUse_, hpending])]
    refine ⟨?_, fun _ => ⟨hpending, rfl⟩, hg.closed⟩
    rw [List.range_succ, ← hg.all, List.append_assoc]
  · -- no callback waits, so this one is the next
    have hnone : g.notifyOnClose = [] := by
      by_contra hne
      exact hpending (hg.waits hne).1
    have hall : g.notified = List.range n := by
      have hall := hg.all
      rwa [hnone, List.append_nil] at hall
    rw [if_pos (by simpa [inUse_] using hpending)]
    refine ⟨?_, ?_, fun _ => close_closed g⟩
    · simp [hall, hnone, List.range_succ]
    · simp [hnone]

/-- What the end of a command does: its callback is scheduled, and the client may close. -/
def endCommand (g : GnubbyClient κ) (cb : κ) : GnubbyClient κ :=
  let g := { g with commandPending := false }.schedule cb
  if g.closingWhenIdle then g.idleClose_ else g

@[simp] theorem endCommand_scheduled (g : GnubbyClient κ) (cb : κ) :
    (g.endCommand cb).scheduled = g.scheduled ++ [cb] := by
  unfold endCommand
  dsimp only
  split
  · exact idleClose_scheduled _
  · rfl

@[simp] theorem endCommand_commandPending (g : GnubbyClient κ) (cb : κ) :
    (g.endCommand cb).commandPending = false := by
  unfold endCommand
  dsimp only
  split
  · exact close_commandPending _
  · rfl

theorem Closing.endCommand (hg : g.Closing n) (cb : κ) : (g.endCommand cb).Closing n := by
  unfold GnubbyClient.endCommand
  dsimp only
  split
  · rename_i hidle
    refine ⟨?_, fun hne => absurd rfl hne, fun _ => close_closed _⟩
    simp only [idleClose_, close_notified, close_notifyOnClose, List.append_nil]
    exact hg.all
  · rename_i hidle
    refine ⟨hg.all, fun hne => absurd (hg.waits hne).2 hidle, hg.closed⟩

theorem close_rxcb (g : GnubbyClient κ) {cb : κ} (h : g.close.rxcb = some cb) : g.rxcb = some cb := by
  unfold close at h
  dsimp only at h
  split at h
  · cases h
  · exact h

theorem endCommand_rxcb {g : GnubbyClient κ} {cb cb' : κ} (h : (g.endCommand cb').rxcb = some cb) :
    g.rxcb = some cb := by
  unfold endCommand at h
  dsimp only at h
  split at h
  · have hbefore := close_rxcb _ h
    exact hbefore
  · exact h

end GnubbyClient

/-- No command and no request to close is pending. -/
structure GnubbyClient.Fresh {κ : Type} (g : GnubbyClient κ) : Prop where
  rxcb : g.rxcb = none
  scheduled : g.scheduled = []
  commandPending : g.commandPending = false
  notifyOnClose : g.notifyOnClose = []
  notified : g.notified = []

namespace Gnubby

namespace Exchanging

/-! ### An exchange ends exactly once -/

/-- Nothing is left that could call something later: no timer of a read, and no scheduled callback. -/
def Quiescent (s : Exchanging) : Prop :=
  (∀ i, (s.reads i).tid = false) ∧ s.client.scheduled = []

/-- **Every exchange ends exactly once**, every read finds a frame, and every callback of
`closeWhenIdle` is called exactly once and finds the client closed. -/
structure EndsOnce (s : Exchanging) : Prop where
  once : (s.called.map Prod.fst).Nodup
  ended : s.Quiescent → ∀ x < s.started, x ∈ s.called.map Prod.fst
  buffered : s.threw = false
  notifiedOnce : s.client.notified.Nodup
  notified : s.Quiescent → ∀ cb < s.closers, cb ∈ s.client.notified
  closed : s.client.notified ≠ [] → s.client.closed = true

/-- The read is not over. -/
def Waits (s : Exchanging) (i : ℕ) : Prop :=
  (s.reads i).callback.isSome = true ∧ (s.reads i).tid = true

/-- No frame callback of a read that is not over is called after `close` has taken the device. -/
def NotAfterClose (s : Exchanging) : ExchangeEvent → Prop
  | .scheduled k _ => ∀ i, s.Waits i →
      s.client.scheduled[k]? = some (.init_frame i) ∨ s.client.scheduled[k]? = some (.cont_frame i) →
        s.client.dev = true
  | _ => True

end Exchanging

namespace ExchangeCallback

def isRetry : ExchangeCallback → Bool
  | .retryBusy .. => true
  | _ => false

/-- A frame callback of the read `i`. -/
def isFrame (i : ℕ) : ExchangeCallback → Bool
  | .init_frame j => j = i
  | .cont_frame j => j = i
  | .retryBusy .. => false

/-- A frame callback of one of the first `n` reads, or `retryBusy` of the exchange `x`. -/
def Fits (n x : ℕ) : ExchangeCallback → Prop
  | .init_frame i => i < n
  | .cont_frame i => i < n
  | .retryBusy y .. => y = x

variable {n x : ℕ} {cb : ExchangeCallback}

theorem Fits.next (h : cb.Fits n x) (hretry : cb.isRetry = false) (y : ℕ) : cb.Fits n y := by
  cases cb with
  | retryBusy => cases hretry
  | _ => exact h

theorem Fits.begun (h : cb.Fits n x) : cb.Fits (n + 1) x := by
  cases cb with
  | retryBusy => exact h
  | _ => exact Nat.lt_succ_of_lt h

theorem Fits.not_isFrame (h : cb.Fits n x) : cb.isFrame n = false := by
  cases cb with
  | retryBusy => rfl
  | _ => exact decide_eq_false (Nat.ne_of_lt h)

theorem isFrame_init_frame (i : ℕ) : (init_frame i).isFrame i = true := decide_eq_true rfl

theorem isFrame_cont_frame (i : ℕ) : (cont_frame i).isFrame i = true := decide_eq_true rfl

theorem isRetry_of_isFrame {i : ℕ} (h : cb.isFrame i = true) : cb.isRetry = false := by
  cases cb with
  | retryBusy => cases h
  | _ => rfl

end ExchangeCallback

open ExchangeCallback

/-! ### Callbacks that are scheduled or wait for a frame -/

/-- The callbacks of a client belong to reads that have been begun and to the exchange `x`, and only
frame callbacks wait for a frame. -/
structure Callbacks (n x : ℕ) (g : GnubbyClient ExchangeCallback) : Prop where
  scheduled : ∀ cb ∈ g.scheduled, cb.Fits n x
  rxcb : ∀ cb, g.rxcb = some cb → cb.isRetry = false ∧ cb.Fits n x

/-- The turn of the read `i`: one of its callbacks waits for a frame, or one is scheduled and there is a
frame.  When the device is gone, there is no frame any more. -/
structure ReadTurn (i : ℕ) (g : GnubbyClient ExchangeCallback) : Prop where
  cut : g.dev = false → g.closed = true ∧ g.rxframes = []
  one : g.dev = true → g.scheduled.countP (isFrame i) + g.rxcb.toList.countP (isFrame i) ≤ 1
  buffered : g.dev = true → 0 < g.scheduled.countP (isFrame i) → g.rxframes ≠ []

/-- How many calls of `retryBusy` are scheduled. -/
def retries (g : GnubbyClient ExchangeCallback) : ℕ := g.scheduled.countP isRetry

section

variable {n x i : ℕ} {g : GnubbyClient ExchangeCallback}

theorem Callbacks.receivedFrame (hg : Callbacks n x g) (frame : List UInt8) :
    Callbacks n x (g.receivedFrame frame) := by
  rcases g.receivedFrame_cases frame with heq | ⟨-, heq⟩ <;> rw [heq]
  · exact hg
  · refine ⟨fun cb hcb => ?_, nofun⟩
    rcases List.mem_append.1 hcb with hcb | hcb
    · exact hg.scheduled cb hcb
    · exact (hg.rxcb cb (Option.mem_toList.1 hcb)).2

theorem Callbacks.close (hg : Callbacks n x g) : Callbacks n x g.close := by
  refine ⟨?_, fun cb hcb => hg.rxcb cb (g.close_rxcb hcb)⟩
  rw [GnubbyClient.close_scheduled]
  exact hg.scheduled

theorem Callbacks.unschedule (hg : Callbacks n x g) (k : ℕ) : Callbacks n x (g.unschedule k) :=
  ⟨fun cb hcb => hg.scheduled cb (List.mem_of_mem_eraseIdx hcb), hg.rxcb⟩

theorem Callbacks.endCommand (hg : Callbacks n x g) (rc : Option ℤ) (data : Option (List UInt8)) :
    Callbacks n x (g.endCommand (.retryBusy x rc data)) := by
  refine ⟨?_, fun cb hcb => hg.rxcb cb (GnubbyClient.endCommand_rxcb hcb)⟩
  rw [GnubbyClient.endCommand_scheduled]
  intro cb hcb
  rcases List.mem_append.1 hcb with hcb | hcb
  · exact hg.scheduled cb hcb
  · rw [List.mem_singleton.1 hcb]
    exact rfl

theorem Callbacks.notifyFrame (hg : Callbacks n x g) {cb : ExchangeCallback}
    (hretry : cb.isRetry = false) (hfits : cb.Fits n x) : Callbacks n x (g.notifyFrame_ cb) := by
  unfold GnubbyClient.notifyFrame_
  split
  · refine ⟨fun cb' hcb => ?_, hg.rxcb⟩
    rcases List.mem_append.1 hcb with hcb | hcb
    · exact hg.scheduled cb' hcb
    · rw [List.mem_singleton.1 hcb]
      exact hfits
  · refine ⟨hg.scheduled, fun cb' hcb => ?_⟩
    obtain rfl := Option.some_inj.1 hcb
    exact ⟨hretry, hfits⟩

/-- No exchange is called back, so the callbacks are those of reads. -/
theorem Callbacks.next (hg : Callbacks n x g) (hretries : retries g = 0) (y : ℕ) :
    Callbacks n y g := by
  refine ⟨fun cb hcb => ?_, fun cb hcb => ⟨(hg.rxcb cb hcb).1, ?_⟩⟩
  · have hretry := List.countP_eq_zero.1 hretries cb hcb
    exact (hg.scheduled cb hcb).next (by simpa using hretry) y
  · exact (hg.rxcb cb hcb).2.next (hg.rxcb cb hcb).1 y

theorem Callbacks.begun (hg : Callbacks n x g) : Callbacks (n + 1) x g :=
  ⟨fun cb hcb => (hg.scheduled cb hcb).begun, fun cb hcb => (hg.rxcb cb hcb).imp_right Fits.begun⟩

/-- No callback of a read that has not begun is there. -/
theorem Callbacks.fresh (hg : Callbacks n x g) :
    g.scheduled.countP (isFrame n) = 0 ∧ g.rxcb.toList.countP (isFrame n) = 0 := by
  constructor
  · rw [List.countP_eq_zero]
    intro cb hcb
    simp [(hg.scheduled cb hcb).not_isFrame]
  · rw [List.countP_eq_zero]
    intro cb hcb
    simp [(hg.rxcb cb (Option.mem_toList.1 hcb)).2.not_isFrame]

/-- A callback that is no longer scheduled is counted no more. -/
theorem countP_unschedule {k : ℕ} {cb : ExchangeCallback} (hcb : g.scheduled[k]? = some cb)
    (p : ExchangeCallback → Bool) :
    g.scheduled.countP p = (g.unschedule k).scheduled.countP p + if p cb then 1 else 0 := by
  obtain ⟨hk, rfl⟩ := List.getElem?_eq_some_iff.1 hcb
  rw [← (List.getElem_cons_eraseIdx_perm hk).countP_eq p, List.countP_cons]
  rfl

theorem retries_receivedFrame (hg : Callbacks n x g) (frame : List UInt8) :
    retries (g.receivedFrame frame) = retries g := by
  rcases g.receivedFrame_cases frame with heq | ⟨-, heq⟩ <;> rw [heq]
  have hrxcb : g.rxcb.toList.countP isRetry = 0 := by
    rw [List.countP_eq_zero]
    intro cb hcb
    simp [(hg.rxcb cb (Option.mem_toList.1 hcb)).1]
  unfold retries
  rw [List.countP_append, hrxcb, Nat.add_zero]

theorem ReadTurn.receivedFrame (hg : ReadTurn i g) (frame : List UInt8) :
    ReadTurn i (g.receivedFrame frame) := by
  rcases g.receivedFrame_cases frame with heq | ⟨hopen, heq⟩ <;> rw [heq]
  · exact hg
  · refine ⟨fun hdev => ?_, fun hdev => ?_, fun _ _ => by simp⟩
    · rw [(hg.cut hdev).1] at hopen
      cases hopen
    · rw [List.countP_append]
      exact hg.one hdev

/-- A frame callback of the read is scheduled if there is a frame, and waits for one otherwise. -/
theorem ReadTurn.notifyFrame (hdev : g.dev = true)
    (hnone : g.scheduled.countP (isFrame i) = 0) (hrxcb : g.rxcb.toList.countP (isFrame i) = 0)
    (cb : ExchangeCallback) : ReadTurn i (g.notifyFrame_ cb) := by
  have hle : [cb].countP (isFrame i) ≤ 1 := List.countP_le_length
  unfold GnubbyClient.notifyFrame_
  split
  · rename_i hframes
    refine ⟨fun hno => absurd (hdev.symm.trans hno) (by simp), fun _ => ?_,
      fun _ _ hnil => hframes (by rw [← List.length_eq_zero_iff] at hnil; exact hnil)⟩
    simp only [GnubbyClient.schedule, List.countP_append, hnone, hrxcb]
    omega
  · refine ⟨fun hno => absurd (hdev.symm.trans hno) (by simp), fun _ => ?_, fun _ hpos => ?_⟩
    · simp only [hnone, Option.toList_some]
      omega
    · exact absurd hnone (by simpa using Nat.pos_iff_ne_zero.1 hpos)

theorem retries_notifyFrame {cb : ExchangeCallback} (hretry : cb.isRetry = false) :
    retries (g.notifyFrame_ cb) = retries g := by
  unfold GnubbyClient.notifyFrame_ retries
  split
  · simp [GnubbyClient.schedule, hretry]
  · rfl

theorem ReadTurn.close (hg : ReadTurn i g) : ReadTurn i g.close := by
  refine ⟨fun _ => ⟨GnubbyClient.close_closed g, ?_⟩, ?_, ?_⟩
  · unfold GnubbyClient.close
    dsimp only
    split
    · rfl
    · rename_i hdev
      exact (hg.cut (by simpa using hdev)).2
  · rw [GnubbyClient.close_dev]
    nofun
  · rw [GnubbyClient.close_dev]
    nofun

theorem ReadTurn.unschedule (hg : ReadTurn i g) {k : ℕ} {cb : ExchangeCallback}
    (hcb : g.scheduled[k]? = some cb) : ReadTurn i (g.unschedule k) := by
  have hcount := countP_unschedule hcb (isFrame i)
  refine ⟨hg.cut, fun hdev => ?_, fun hdev hpos => hg.buffered hdev (by omega)⟩
  have hone := hg.one hdev
  have hrxcb : (g.unschedule k).rxcb = g.rxcb := rfl
  rw [hrxcb]
  omega

end

namespace Exchanging

/-! ### The phases of an exchange -/

/-- The read is over, or has not begun. -/
def Over (s : Exchanging) (i : ℕ) : Prop := (s.reads i).callback = none ∧ (s.reads i).tid = false

/-- What holds in every phase. -/
structure Base (s : Exchanging) : Prop where
  called : s.called.map Prod.fst = List.range s.called.length
  threw : s.threw = false
  closing : s.client.Closing s.closers
  callbacks : Callbacks s.begun s.called.length s.client

/-- Every exchange has been called back. -/
structure Idle (s : Exchanging) : Prop extends Base s where
  started : s.started = s.called.length
  readsOver : ∀ i, s.Over i
  pending : s.client.commandPending = false
  retries : retries s.client = 0

/-- An exchange may begin a read. -/
structure Starting (s : Exchanging) : Prop extends Base s where
  started : s.started = s.called.length + 1
  readsOver : ∀ i, s.Over i
  pending : s.client.commandPending = true → s.client.closed = false ∧ s.client.dev = true
  retries : Gnubby.retries s.client = 0

/-- The read `i` has not called back. -/
structure Outstanding (i : ℕ) (s : Exchanging) : Prop extends Base s where
  started : s.started = s.called.length + 1
  begun : i < s.begun
  callback : (s.reads i).callback = some s.called.length
  others : ∀ j, j ≠ i → s.Over j
  retries : Gnubby.retries s.client = 0

/-- The read `i` waits for frames and for its timer. -/
structure InRead (i : ℕ) (s : Exchanging) : Prop extends Outstanding i s where
  armed : (s.reads i).tid = true
  turn : ReadTurn i s.client

/-- The call of `retryBusy` is scheduled. -/
structure Returning (s : Exchanging) : Prop extends Base s where
  started : s.started = s.called.length + 1
  readsOver : ∀ i, s.Over i
  pending : s.client.commandPending = false
  retries : Gnubby.retries s.client = 1

/-- What holds at every point of a run. -/
inductive Kept (s : Exchanging) : Prop
  | idle (h : s.Idle)
  | inRead (i : ℕ) (h : s.InRead i)
  | returning (h : s.Returning)

/-- A callback that is not waited for any more would have been called already. -/
theorem Base.notified {s : Exchanging} (hs : s.Base) (hpending : s.client.commandPending = false) :
    s.client.notified = List.range s.closers := by
  have hnone : s.client.notifyOnClose = [] := by
    by_contra hne
    rw [(hs.closing.waits hne).1] at hpending
    cases hpending
  have hall := hs.closing.all
  rwa [hnone, List.append_nil] at hall

theorem Kept.base {s : Exchanging} (hs : s.Kept) : s.Base := by
  cases hs with
  | idle h => exact h.toBase
  | inRead i h => exact h.toBase
  | returning h => exact h.toBase

/-- Where nothing is left to be called, every exchange has been called back. -/
theorem Kept.idle_of_quiescent {s : Exchanging} (hs : s.Kept) (hquiet : s.Quiescent) : s.Idle := by
  cases hs with
  | idle h => exact h
  | inRead i h =>
      have harmed := h.armed
      rw [hquiet.1 i] at harmed
      cases harmed
  | returning h =>
      have hone := h.retries
      rw [Gnubby.retries, hquiet.2] at hone
      cases hone

theorem Kept.endsOnce {s : Exchanging} (hs : s.Kept) : s.EndsOnce := by
  have hnodup : s.client.notified.Nodup := by
    have hrange := List.nodup_range (n := s.closers)
    rw [← hs.base.closing.all] at hrange
    exact (List.nodup_append.1 hrange).1
  refine ⟨?_, fun hquiet x hx => ?_, hs.base.threw, hnodup, fun hquiet cb hcb => ?_,
    hs.base.closing.closed⟩
  · rw [hs.base.called]
    exact List.nodup_range
  · have hidle := hs.idle_of_quiescent hquiet
    rw [hidle.called, List.mem_range, ← hidle.started]
    exact hx
  · have hidle := hs.idle_of_quiescent hquiet
    rw [hidle.toBase.notified hidle.pending]
    exact List.mem_range.2 hcb

/-! ### Steps that only concern the client -/

section

variable {s : Exchanging} {g : GnubbyClient ExchangeCallback} {n : ℕ}

theorem Base.client (hs : s.Base) (hclosing : g.Closing n)
    (hcallbacks : Callbacks s.begun s.called.length g) :
    { s with client := g, closers := n }.Base :=
  ⟨hs.called, hs.threw, hclosing, hcallbacks⟩

theorem Outstanding.client {i : ℕ} (hs : s.Outstanding i) (hclosing : g.Closing n)
    (hcallbacks : Callbacks s.begun s.called.length g)
    (hretries : Gnubby.retries g = Gnubby.retries s.client) :
    { s with client := g, closers := n }.Outstanding i :=
  ⟨hs.toBase.client hclosing hcallbacks, hs.started, hs.begun, hs.callback, hs.others,
    hretries.trans hs.retries⟩

/-- A step that keeps what a phase says of the client keeps the phase. -/
theorem Kept.client (hs : s.Kept) (hclosing : g.Closing n)
    (hcallbacks : Callbacks s.begun s.called.length g)
    (hpending : g.commandPending = s.client.commandPending)
    (hretries : Gnubby.retries g = Gnubby.retries s.client)
    (hturn : ∀ i, ReadTurn i s.client → ReadTurn i g) : { s with client := g, closers := n }.Kept := by
  cases hs with
  | idle h =>
      exact .idle ⟨h.toBase.client hclosing hcallbacks, h.started, h.readsOver, hpending.trans h.pending,
        hretries.trans h.retries⟩
  | inRead i h =>
      exact .inRead i ⟨h.toOutstanding.client hclosing hcallbacks hretries, h.armed,
        hturn i h.turn⟩
  | returning h =>
      exact .returning ⟨h.toBase.client hclosing hcallbacks, h.started, h.readsOver,
        hpending.trans h.pending, hretries.trans h.retries⟩

theorem Kept.receivedFrame (hs : s.Kept) (frame : List UInt8) : (s.receivedFrame frame).Kept := by
  refine hs.client (n := s.closers) (hs.base.closing.receivedFrame frame)
    (hs.base.callbacks.receivedFrame frame) ?_ (retries_receivedFrame hs.base.callbacks frame)
    fun i hturn => hturn.receivedFrame frame
  rcases s.client.receivedFrame_cases frame with heq | ⟨-, heq⟩ <;> rw [heq]

theorem Kept.closed (hs : s.Kept) (closed : Bool) (hclosed : s.client.closed = true → closed = true) :
    { s with client := { s.client with closed := closed } }.Kept := by
  have hclosing : { s.client with closed := closed }.Closing s.closers :=
    ⟨hs.base.closing.all, hs.base.closing.waits, fun hne => hclosed (hs.base.closing.closed hne)⟩
  refine hs.client hclosing ⟨hs.base.callbacks.scheduled, hs.base.callbacks.rxcb⟩ rfl rfl ?_
  exact fun i hturn => ⟨fun hdev => ⟨hclosed (hturn.cut hdev).1, (hturn.cut hdev).2⟩, hturn.one,
    hturn.buffered⟩

/-- The device and the countdowns do not matter. -/
theorem Kept.other (hs : s.Kept) (destroyed : Bool) (exchanges : ℕ → Exchange) :
    { s with destroyed := destroyed, exchanges := exchanges }.Kept := by
  cases hs with
  | idle h =>
      exact .idle ⟨⟨h.called, h.threw, h.closing, h.callbacks⟩, h.started, h.readsOver, h.pending,
        h.retries⟩
  | inRead i h =>
      exact .inRead i ⟨⟨⟨h.called, h.threw, h.closing, h.callbacks⟩, h.started, h.begun, h.callback,
        h.others, h.retries⟩, h.armed, h.turn⟩
  | returning h =>
      exact .returning ⟨⟨h.called, h.threw, h.closing, h.callbacks⟩, h.started, h.readsOver, h.pending,
        h.retries⟩

theorem Kept.destroy (hs : s.Kept) : s.destroy.Kept := by
  unfold Exchanging.destroy
  split
  · exact hs
  · exact ((hs.other true s.exchanges).receivedFrame GnubbyDevice.goneFrame).closed true fun _ => rfl

theorem Kept.close (hs : s.Kept) : { s with client := s.client.close }.Kept := by
  have hretries : Gnubby.retries s.client.close = Gnubby.retries s.client := by
    rw [Gnubby.retries, GnubbyClient.close_scheduled]
    rfl
  exact hs.client (n := s.closers) hs.base.closing.close hs.base.callbacks.close
    (GnubbyClient.close_commandPending _) hretries fun _ => ReadTurn.close

theorem Kept.closeWhenIdle (hs : s.Kept) :
    { s with client := s.client.closeWhenIdle s.closers, closers := s.closers + 1 }.Kept := by
  have hclosing := hs.base.closing.closeWhenIdle
  rcases s.client.closeWhenIdle_cases s.closers with heq | heq <;> rw [heq] at hclosing ⊢
  · have hclose := hs.close
    refine hclose.client hclosing ⟨hclose.base.callbacks.scheduled, hclose.base.callbacks.rxcb⟩ rfl
      rfl ?_
    exact fun i hturn => ⟨hturn.cut, hturn.one, hturn.buffered⟩
  · refine hs.client hclosing ⟨hs.base.callbacks.scheduled, hs.base.callbacks.rxcb⟩ rfl rfl ?_
    exact fun i hturn => ⟨hturn.cut, hturn.one, hturn.buffered⟩

/-- A frame callback is no longer scheduled. -/
theorem Kept.unschedule (hs : s.Kept) {k : ℕ} {cb : ExchangeCallback}
    (hcb : s.client.scheduled[k]? = some cb) (hretry : cb.isRetry = false) :
    { s with client := s.client.unschedule k }.Kept := by
  have hretries : Gnubby.retries (s.client.unschedule k) = Gnubby.retries s.client := by
    have hcount := countP_unschedule hcb isRetry
    rw [if_neg (by simp [hretry])] at hcount
    exact hcount.symm
  have hclosing : (s.client.unschedule k).Closing s.closers :=
    ⟨hs.base.closing.all, hs.base.closing.waits, hs.base.closing.closed⟩
  exact hs.client hclosing (hs.base.callbacks.unschedule k) rfl hretries
    fun i hturn => hturn.unschedule hcb

/-! ### A read begins -/

theorem Starting.callBack (hs : s.Starting) (hpending : s.client.commandPending = false)
    (rc : Option ℤ) (data : Option (List UInt8)) : (s.callBack s.called.length rc data).Idle := by
  have hlength : (s.called ++ [(s.called.length, rc, data)]).length = s.called.length + 1 := by simp
  have hcalled : (s.called ++ [(s.called.length, rc, data)]).map Prod.fst =
      List.range (s.called ++ [(s.called.length, rc, data)]).length := by
    rw [hlength, List.map_append, hs.called, List.range_succ]
    rfl
  exact ⟨⟨hcalled, hs.threw, hs.closing, hs.callbacks.next hs.retries _⟩,
    hs.started.trans hlength.symm, hs.readsOver, hpending, hs.retries⟩

theorem Starting.receivedFrame (hs : s.Starting) (frame : List UInt8) :
    (s.receivedFrame frame).Starting := by
  have hbase := hs.toBase.client (hs.closing.receivedFrame frame) (hs.callbacks.receivedFrame frame)
  refine ⟨hbase, hs.started, hs.readsOver, ?_,
    (retries_receivedFrame hs.callbacks frame).trans hs.retries⟩
  unfold Exchanging.receivedFrame
  rcases s.client.receivedFrame_cases frame with heq | ⟨-, heq⟩ <;> rw [heq] <;> exact hs.pending

theorem called_foldl_receivedFrame (frames : List (List UInt8)) (s : Exchanging) :
    (frames.foldl Exchanging.receivedFrame s).called = s.called := by
  induction frames generalizing s with
  | nil => rfl
  | cons frame frames ih => exact ih (s.receivedFrame frame)

theorem Starting.foldl_receivedFrame (hs : s.Starting) (frames : List (List UInt8)) :
    (frames.foldl Exchanging.receivedFrame s).Starting := by
  induction frames generalizing s with
  | nil => exact hs
  | cons frame frames ih => exact ih (hs.receivedFrame frame)

theorem Starting.write (hs : s.Starting) (cmd : UInt8) (data : List UInt8)
    (frames : List (List UInt8)) :
    (s.write_ cmd data frames).Starting ∧ (s.write_ cmd data frames).called = s.called := by
  unfold write_
  split
  · exact ⟨hs, rfl⟩
  · rename_i hclosed
    split
    · exact ⟨hs, rfl⟩
    · rename_i hdev
      have hopen : s.client.closed = false ∧ s.client.dev = true := by
        simpa using And.intro hclosed hdev
      have hclosing : { s.client with commandPending := true }.Closing s.closers :=
        ⟨hs.closing.all, fun hne => ⟨rfl, (hs.closing.waits hne).2⟩, hs.closing.closed⟩
      have hcallbacks : Callbacks s.begun s.called.length { s.client with commandPending := true } :=
        ⟨hs.callbacks.scheduled, hs.callbacks.rxcb⟩
      have hpending : { s with
          client := { s.client with commandPending := true }
          queued := s.queued ++ [(s.client.cid, cmd, data)] }.Starting :=
        ⟨⟨hs.called, hs.threw, hclosing, hcallbacks⟩, hs.started, hs.readsOver, fun _ => hopen, hs.retries⟩
      exact ⟨hpending.foldl_receivedFrame frames, called_foldl_receivedFrame frames _⟩

theorem Starting.read (hs : s.Starting) (cmd : UInt8) : (s.read_ s.called.length cmd).Kept := by
  unfold read_
  split
  · rename_i hgone
    have hpending : s.client.commandPending = false := by
      by_contra hpending
      obtain ⟨hclosed, hdev⟩ := hs.pending (by simpa using hpending)
      simp [hclosed, hdev] at hgone
    exact .idle (hs.callBack hpending _ _)
  · rename_i hopen
    have hdev : s.client.dev = true := by
      by_contra hdev
      simp [hdev] at hopen
    obtain ⟨hnone, hrxcb⟩ := hs.callbacks.fresh
    have hcallbacks : Callbacks (s.begun + 1) s.called.length
        (s.client.notifyFrame_ (.init_frame s.begun)) :=
      hs.callbacks.begun.notifyFrame rfl (Nat.lt_succ_self _)
    refine .inRead s.begun ⟨⟨⟨hs.called, hs.threw, hs.closing.notifyFrame _, hcallbacks⟩,
      hs.started, Nat.lt_succ_self _, ?_, fun j hj => ?_,
      (retries_notifyFrame rfl).trans hs.retries⟩, ?_, ReadTurn.notifyFrame hdev hnone hrxcb _⟩
    · simp [notifyFrame_, setRead]
    · simpa [notifyFrame_, setRead, Over, hj] using hs.readsOver j
    · simp [notifyFrame_, setRead]

theorem Starting.retryBusy (hs : s.Starting) (hpending : s.client.commandPending = false)
    (rc : Option ℤ) (data : Option (List UInt8)) (frames : List (List UInt8)) :
    (s.retryBusy s.called.length rc data frames).Kept := by
  unfold Exchanging.retryBusy
  dsimp only
  split
  · obtain ⟨hwrite, hcalled⟩ := hs.write (s.exchanges s.called.length).cmd
      (s.exchanges s.called.length).data frames
    have hread := hwrite.read (s.exchanges s.called.length).cmd
    rwa [hcalled] at hread
  · exact .idle (hs.callBack hpending rc data)

theorem Idle.exchange (hs : s.Idle) (cmd : UInt8) (data : List UInt8) (frames : List (List UInt8)) :
    (s.exchange_ cmd data frames).Kept := by
  have hstarting : { s with
      exchanges := Function.update s.exchanges s.called.length ⟨cmd, data, .new s.busyMillis⟩
      started := s.called.length + 1 }.Starting :=
    ⟨⟨hs.called, hs.threw, hs.closing, hs.callbacks⟩, rfl, hs.readsOver,
      fun hpending => absurd (hpending.symm.trans hs.pending) (by simp), hs.retries⟩
  unfold exchange_
  rw [hs.started]
  exact hstarting.retryBusy hs.pending _ _ _

/-- Exchanges that have all been called back leave the client idle. -/
theorem Kept.idle_of_done (hs : s.Kept) (hdone : s.Done) : s.Idle := by
  have hlt : ¬ s.called.length < s.started := by
    intro hlt
    have hmem := hdone _ hlt
    rw [hs.base.called, List.mem_range] at hmem
    exact Nat.lt_irrefl _ hmem
  cases hs with
  | idle h => exact h
  | inRead i h => exact absurd h.started (by omega)
  | returning h => exact absurd h.started (by omega)

/-! ### A read ends -/

section

variable {i : ℕ}

theorem schedule_cb_of_callback {x : ℕ} (h : (s.reads i).callback = some x) (a : Option ℤ)
    (b : Option (List UInt8)) : s.schedule_cb i a b = { s with
      reads := Function.update s.reads i { s.reads i with tid := false, callback := none }
      client := s.client.endCommand (.retryBusy x a b) } := by
  unfold schedule_cb GnubbyClient.endCommand setRead
  simp only [Function.update_self, Function.update_idem, h]
  split <;> rfl

theorem Outstanding.schedule_cb (hs : s.Outstanding i) (a : Option ℤ) (b : Option (List UInt8)) :
    (s.schedule_cb i a b).Returning := by
  have hretries : Gnubby.retries (s.client.endCommand (.retryBusy s.called.length a b)) = 1 := by
    have hbefore := hs.retries
    unfold Gnubby.retries at hbefore ⊢
    rw [GnubbyClient.endCommand_scheduled, List.countP_append, hbefore]
    rfl
  rw [schedule_cb_of_callback hs.callback]
  refine ⟨⟨hs.called, hs.threw, hs.closing.endCommand _, hs.callbacks.endCommand a b⟩, hs.started, fun j => ?_,
    GnubbyClient.endCommand_commandPending _ _, hretries⟩
  by_cases hj : j = i
  · subst hj
    simp [Over]
  · simpa [Over, hj] using hs.others j hj

theorem Outstanding.setRead (hs : s.Outstanding i) {r : Read}
    (hcallback : r.callback = (s.reads i).callback) : (s.setRead i r).Outstanding i := by
  refine ⟨⟨hs.called, hs.threw, hs.closing, hs.callbacks⟩, hs.started, hs.begun, ?_, fun j hj => ?_,
    hs.retries⟩
  · simpa [Exchanging.setRead] using hcallback.trans hs.callback
  · simpa [Exchanging.setRead, Over, hj] using hs.others j hj

/-- The read whose timer is armed is the one that is waited for. -/
theorem Kept.inRead_of_armed (hs : s.Kept) (harmed : (s.reads i).tid = true) : s.InRead i := by
  have hnot : ¬ s.Over i := fun hover => by
    rw [hover.2] at harmed
    cases harmed
  cases hs with
  | idle h => exact absurd (h.readsOver i) hnot
  | returning h => exact absurd (h.readsOver i) hnot
  | inRead j h =>
      by_cases hij : i = j
      · exact hij ▸ h
      · exact absurd (h.others i hij) hnot

theorem destroy_reads (s : Exchanging) : s.destroy.reads = s.reads := by
  unfold Exchanging.destroy
  split
  · rfl
  · rfl

theorem Kept.read_timeout (hs : s.Kept) : (s.read_timeout i).Kept := by
  unfold Exchanging.read_timeout
  split
  · exact hs
  · rename_i hwaits
    have harmed : (s.reads i).tid = true := by
      by_contra hno
      simp [hno] at hwaits
    have hdestroy : (if s.client.dev = true then s.destroy else s).InRead i := by
      split
      · exact hs.destroy.inRead_of_armed (by rw [destroy_reads]; exact harmed)
      · exact hs.inRead_of_armed harmed
    have hdisarm : ∀ t : Exchanging, t.Outstanding i →
        (t.setRead i { t.reads i with tid := false }).Outstanding i := fun t ht => ht.setRead rfl
    exact .returning ((hdisarm _ hdestroy.toOutstanding).schedule_cb _ _)

/-! ### A frame is read -/

/-- The callback of the read has been called, and the next one is not chosen yet. -/
structure Reads (i : ℕ) (s : Exchanging) : Prop extends Outstanding i s where
  armed : (s.reads i).tid = true
  dev : s.client.dev = true
  scheduled : s.client.scheduled.countP (isFrame i) = 0
  nobody : s.client.rxcb.toList.countP (isFrame i) = 0

theorem Reads.setRead (hs : s.Reads i) {r : Read} (hcallback : r.callback = (s.reads i).callback)
    (htid : r.tid = (s.reads i).tid) : (s.setRead i r).Reads i := by
  refine ⟨hs.toOutstanding.setRead hcallback, ?_, hs.dev, hs.scheduled, hs.nobody⟩
  simpa [Exchanging.setRead] using htid.trans hs.armed

/-- The message is changed. -/
theorem Reads.message (hs : s.Reads i) (msg : List UInt8) (count : ℕ) :
    (s.setRead i { s.reads i with msg := msg, count := count }).Reads i :=
  hs.setRead rfl rfl

theorem Reads.notifyFrame (hs : s.Reads i) {cb : ExchangeCallback} (hcb : cb.isFrame i = true) :
    (s.notifyFrame_ cb).Kept := by
  have hretry := isRetry_of_isFrame hcb
  have hfits : cb.Fits s.begun s.called.length := by
    cases cb with
    | retryBusy => cases hcb
    | init_frame j => exact of_decide_eq_true hcb ▸ hs.begun
    | cont_frame j => exact of_decide_eq_true hcb ▸ hs.begun
  have houtstanding := hs.toOutstanding.client (hs.closing.notifyFrame cb)
    (hs.callbacks.notifyFrame hretry hfits) (retries_notifyFrame hretry)
  exact .inRead i ⟨houtstanding, hs.armed, ReadTurn.notifyFrame hs.dev hs.scheduled hs.nobody cb⟩

theorem Reads.error_frame (hs : s.Reads i) (f : List UInt8) : (s.error_frame i f).Kept := by
  have hclosing : ∀ closed, { s.client with closed := s.client.closed || closed }.Closing s.closers :=
    fun closed => ⟨hs.closing.all, hs.closing.waits, fun hne => by simp [hs.closing.closed hne]⟩
  have houtstanding := hs.toOutstanding.client (hclosing (f[7]?.map UInt8.toNat = some GnubbyDevice.GONE))
    ⟨hs.callbacks.scheduled, hs.callbacks.rxcb⟩ rfl
  exact .returning (houtstanding.schedule_cb _ _)

theorem Reads.copy (hs : s.Reads i) (payload : List UInt8) : (s.copy i payload).Kept := by
  have hmessage := hs.message (copyPayload (s.reads i).msg (s.reads i).count payload).1
    (copyPayload (s.reads i).msg (s.reads i).count payload).2
  unfold Exchanging.copy
  dsimp only
  split
  · exact .returning (hmessage.toOutstanding.schedule_cb _ _)
  · exact hmessage.notifyFrame (isFrame_cont_frame i)

/-- The read is waited for, so its callback reads a frame. -/
theorem Outstanding.waits (hs : s.Outstanding i) (harmed : (s.reads i).tid = true) :
    ¬ ((s.reads i).callback.isNone || !(s.reads i).tid) = true := by
  simp [hs.callback, harmed]

theorem Outstanding.readFrame (hs : s.Outstanding i) (harmed : (s.reads i).tid = true)
    (hdev : s.client.dev = true) (hscheduled : s.client.scheduled.countP (isFrame i) = 0)
    (hnobody : s.client.rxcb.toList.countP (isFrame i) = 0) (hframes : s.client.rxframes ≠ [])
    {k : List UInt8 → Exchanging → Exchanging}
    (hk : ∀ f (t : Exchanging), t.Reads i → (k f t).Kept) : (s.readFrame_ k).Kept := by
  unfold readFrame_
  split
  · rename_i hnil
    exact absurd hnil hframes
  · rename_i f rxframes _
    have hclosing : { s.client with rxframes := rxframes }.Closing s.closers :=
      ⟨hs.closing.all, hs.closing.waits, hs.closing.closed⟩
    have houtstanding := hs.client hclosing ⟨hs.callbacks.scheduled, hs.callbacks.rxcb⟩ rfl
    exact hk f _ ⟨houtstanding, harmed, hdev, hscheduled, hnobody⟩

theorem Outstanding.cont_frame (hs : s.Outstanding i) (harmed : (s.reads i).tid = true)
    (hdev : s.client.dev = true) (hscheduled : s.client.scheduled.countP (isFrame i) = 0)
    (hnobody : s.client.rxcb.toList.countP (isFrame i) = 0) (hframes : s.client.rxframes ≠ []) :
    (s.cont_frame i).Kept := by
  unfold Exchanging.cont_frame
  rw [if_neg (hs.waits harmed)]
  refine hs.readFrame harmed hdev hscheduled hnobody hframes fun f t ht => ?_
  dsimp only
  split
  · exact ht.error_frame f
  split
  · exact ht.notifyFrame (isFrame_cont_frame i)
  have hnext := ht.setRead (r := { t.reads i with seqno := (t.reads i).seqno + 1 }) rfl rfl
  split
  · exact .returning (hnext.toOutstanding.schedule_cb _ _)
  · exact hnext.copy _

theorem Outstanding.init_frame (hs : s.Outstanding i) (harmed : (s.reads i).tid = true)
    (hdev : s.client.dev = true) (hscheduled : s.client.scheduled.countP (isFrame i) = 0)
    (hnobody : s.client.rxcb.toList.countP (isFrame i) = 0) (hframes : s.client.rxframes ≠ []) :
    (s.init_frame i).Kept := by
  unfold Exchanging.init_frame
  rw [if_neg (hs.waits harmed)]
  refine hs.readFrame harmed hdev hscheduled hnobody hframes fun f t ht => ?_
  dsimp only
  split
  · exact ht.error_frame f
  split
  · exact ht.notifyFrame (isFrame_init_frame i)
  split
  · exact ht.notifyFrame (isFrame_init_frame i)
  · exact (ht.message (List.replicate (totalLen f) 0) (t.reads i).count).copy _

end

/-! ### The steps -/

/-- A frame callback of a read that is over does nothing. -/
theorem call_of_not_waits {i : ℕ} (h : ¬ s.Waits i) (frames : List (List UInt8)) :
    s.call frames (.init_frame i) = s ∧ s.call frames (.cont_frame i) = s := by
  have hover : ((s.reads i).callback.isNone || !(s.reads i).tid) = true := by
    by_contra hno
    refine h ?_
    simpa [Waits, ← Option.isSome_iff_ne_none] using hno
  exact ⟨if_pos hover, if_pos hover⟩

/-- A frame callback is called in order, and reads a frame. -/
theorem Kept.frame (hs : s.Kept) {k i : ℕ} {cb : ExchangeCallback} (frames : List (List UInt8))
    (hcb : s.client.scheduled[k]? = some cb) (hframe : cb = .init_frame i ∨ cb = .cont_frame i)
    (horder : s.Waits i → s.client.dev = true) :
    ({ s with client := s.client.unschedule k }.call frames cb).Kept := by
  have hisFrame : cb.isFrame i = true := by
    rcases hframe with rfl | rfl
    · exact isFrame_init_frame i
    · exact isFrame_cont_frame i
  have hrest := hs.unschedule hcb (isRetry_of_isFrame hisFrame)
  by_cases hwaits : s.Waits i
  · have hread := hs.inRead_of_armed hwaits.2
    have hdev := horder hwaits
    have hcount := countP_unschedule hcb (isFrame i)
    rw [if_pos hisFrame] at hcount
    have hone := hread.turn.one hdev
    have hframes := hread.turn.buffered hdev (by omega)
    have hread' := hrest.inRead_of_armed (i := i) hwaits.2
    have hscheduled : (s.client.unschedule k).scheduled.countP (isFrame i) = 0 := by omega
    have hnobody : s.client.rxcb.toList.countP (isFrame i) = 0 := by omega
    rcases hframe with rfl | rfl
    · exact hread'.init_frame hwaits.2 hdev hscheduled hnobody hframes
    · exact hread'.cont_frame hwaits.2 hdev hscheduled hnobody hframes
  · have hnothing := call_of_not_waits (s := { s with client := s.client.unschedule k }) hwaits frames
    rcases hframe with rfl | rfl
    · rw [hnothing.1]
      exact hrest
    · rw [hnothing.2]
      exact hrest

/-- The call of `retryBusy` that was scheduled ends the exchange or begins another read. -/
theorem Kept.retry (hs : s.Kept) {k x : ℕ} {rc : Option ℤ} {data : Option (List UInt8)}
    (frames : List (List UInt8)) (hcb : s.client.scheduled[k]? = some (.retryBusy x rc data)) :
    ({ s with client := s.client.unschedule k }.call frames (.retryBusy x rc data)).Kept := by
  have hmem : .retryBusy x rc data ∈ s.client.scheduled := List.mem_of_getElem? hcb
  have hcount : Gnubby.retries s.client = Gnubby.retries (s.client.unschedule k) + 1 :=
    countP_unschedule hcb isRetry
  obtain rfl : x = s.called.length := hs.base.callbacks.scheduled _ hmem
  cases hs with
  | idle h => exact absurd (hcount.symm.trans h.retries) (Nat.succ_ne_zero _)
  | inRead i h => exact absurd (hcount.symm.trans h.retries) (Nat.succ_ne_zero _)
  | returning h =>
      have hclosing : (s.client.unschedule k).Closing s.closers :=
        ⟨h.closing.all, h.closing.waits, h.closing.closed⟩
      have hstarting : { s with client := s.client.unschedule k }.Starting :=
        ⟨h.toBase.client hclosing (h.callbacks.unschedule k), h.started, h.readsOver,
          fun hpending => absurd (hpending.symm.trans h.pending) (by simp),
          Nat.succ.inj (hcount.symm.trans h.retries)⟩
      exact hstarting.retryBusy h.pending rc data frames

/-- **What a step in order keeps.** -/
theorem Kept.next (hs : s.Kept) {e : ExchangeEvent} (horder : s.NotAfterClose e) :
    (exchangeMachine.next s e).Kept := by
  cases e with
  | exchange cmd data frames =>
      simp only [Machine.next, exchangeMachine]
      split
      · rename_i hdone
        exact (hs.idle_of_done hdone).exchange cmd data frames
      · exact hs
  | receivedFrame frame => exact hs.receivedFrame frame
  | scheduled k frames =>
      simp only [Machine.next, exchangeMachine]
      split
      · exact hs
      · rename_i cb hcb
        cases cb with
        | init_frame i => exact hs.frame frames hcb (.inl rfl) fun hwaits => horder i hwaits (.inl hcb)
        | cont_frame i => exact hs.frame frames hcb (.inr rfl) fun hwaits => horder i hwaits (.inr hcb)
        | retryBusy x rc data => exact hs.retry frames hcb
  | timeout i =>
      simp only [Machine.next, exchangeMachine]
      split
      · exact hs.read_timeout
      · exact hs
  | timerTick x => exact hs.other s.destroyed _
  | destroy => exact hs.destroy
  | close => exact hs.close
  | closeWhenIdle => exact hs.closeWhenIdle

/-- A frame callback that is called after the client was closed finds no frame. -/
theorem Kept.threw_of_afterClose (hs : s.Kept) {e : ExchangeEvent} (hlate : ¬ s.NotAfterClose e) :
    (exchangeMachine.next s e).threw = true := by
  cases e with
  | scheduled k frames =>
      simp only [NotAfterClose, not_forall] at hlate
      obtain ⟨i, hwaits, hcb, hdev⟩ := hlate
      have hread := hs.inRead_of_armed hwaits.2
      have hframes : s.client.rxframes = [] := (hread.turn.cut (by simpa using hdev)).2
      have hgoes := hread.waits hwaits.2
      have hthrows : ∀ K, (readFrame_ K { s with client := s.client.unschedule k }).threw = true := by
        intro K
        have hnil : (s.client.unschedule k).rxframes = [] := hframes
        unfold readFrame_
        dsimp only
        rw [hnil]
      simp only [Machine.next, exchangeMachine]
      rcases hcb with hcb | hcb <;> rw [hcb] <;> dsimp only [call]
      · unfold Exchanging.init_frame
        rw [if_neg hgoes]
        exact hthrows _
      · unfold Exchanging.cont_frame
        rw [if_neg hgoes]
        exact hthrows _
  | _ => exact absurd trivial hlate

end

end Exchanging

open Exchanging

theorem kept_newExchanging {g : GnubbyClient ExchangeCallback} (hg : g.Fresh) (busyMillis : ℚ) :
    (newExchanging g busyMillis).Kept := by
  have hclosing : g.Closing 0 :=
    ⟨by simp [hg.notified, hg.notifyOnClose], fun hne => absurd hg.notifyOnClose hne,
      fun hne => absurd hg.notified hne⟩
  have hcallbacks : Callbacks 0 0 g :=
    ⟨by simp [hg.scheduled], by simp [hg.rxcb]⟩
  refine .idle ⟨⟨rfl, rfl, hclosing, hcallbacks⟩, rfl, fun _ => ⟨rfl, rfl⟩, hg.commandPending, ?_⟩
  simp [Gnubby.retries, newExchanging, hg.scheduled]

/-- **Every exchange ends exactly once, exactly if no frame callback that a read still waits for is
called after the client was closed**: at every point of every run. -/
theorem exchange_endsOnce_iff {g : GnubbyClient ExchangeCallback} (hg : g.Fresh) (busyMillis : ℚ)
    (es : List ExchangeEvent) :
    exchangeMachine.Always EndsOnce (newExchanging g busyMillis) es ↔
      exchangeMachine.AllSteps NotAfterClose (newExchanging g busyMillis) es := by
  have hkept := kept_newExchanging hg busyMillis
  constructor
  · intro halways
    by_contra hlate
    obtain ⟨pre, e, post, rfl, horder, hstep⟩ := Machine.not_allSteps hlate
    have hpre : (exchangeMachine.exec (newExchanging g busyMillis) pre).Kept :=
      Machine.exec_invariant (fun _ _ hs he => hs.next he) horder hkept
    have hbad := (halways (pre ++ [e]) ⟨post, by simp⟩).buffered
    rw [Machine.exec_concat, hpre.threw_of_afterClose hstep] at hbad
    cases hbad
  · intro horder
    exact Machine.always_of_invariant (fun _ _ hs he => hs.next he) (fun _ => Kept.endsOnce) horder
      hkept

/-- A client that has just been opened. -/
def idleClient : GnubbyClient ExchangeCallback :=
  { dev := true, cid := 5, rxframes := [], rxcb := none, closed := false, commandPending := false
    closingWhenIdle := false, notifyOnClose := [], scheduled := [], notified := [] }

/-- The device is busy at first; the client is asked to close before the reply comes. -/
def busyExchange : List ExchangeEvent :=
  [.exchange 0x83 [] [[0, 0, 0, 5, GnubbyDevice.CMD_ERROR, 0, 1, 6]], .scheduled 0 [],
    .timerTick 0, .scheduled 0 [], .closeWhenIdle, .receivedFrame [0, 0, 0, 5, 0x83, 0, 1, 7],
    .scheduled 0 [], .scheduled 0 []]

theorem exchange_endsOnce_busy :
    exchangeMachine.Always EndsOnce (newExchanging idleClient 9500) busyExchange ∧
      (exchangeMachine.exec (newExchanging idleClient 9500) busyExchange).called =
        [(0, some 0, some [7])] := by
  refine ⟨(exchange_endsOnce_iff ⟨rfl, rfl, rfl, rfl, rfl⟩ 9500 busyExchange).2 ?_, by decide +kernel⟩
  have hlast : (exchangeMachine.exec (newExchanging idleClient 9500)
      (busyExchange.take 7)).client.scheduled[0]? = some (.retryBusy 0 (some 0) (some [7])) := by
    decide +kernel
  refine ⟨trivial, fun _ _ _ => rfl, trivial, fun _ _ _ => rfl, trivial, trivial,
    fun _ _ _ => by decide +kernel, fun i _ hcb => ?_, trivial⟩
  -- the callback that is called is no frame callback
  rcases hcb with hcb | hcb
  · cases hlast.symm.trans hcb
  · cases hlast.symm.trans hcb

/-- The client is closed when the reply has come and has not been read. -/
def closedExchange : List ExchangeEvent :=
  [.exchange 0x83 [] [], .receivedFrame [0, 0, 0, 5, 0x83, 0, 0], .close, .scheduled 0 []]

/-- **A client that is closed when a reply has come reads a frame that is not there.** -/
theorem not_exchange_endsOnce :
    ¬ exchangeMachine.Always EndsOnce (newExchanging idleClient 9500) closedExchange := by
  intro h
  have hbuffered := (h closedExchange (List.prefix_refl _)).buffered
  revert hbuffered
  decide +kernel

end Gnubby

end U2F
