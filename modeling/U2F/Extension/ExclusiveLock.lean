/-
**The lock of a device is exclusive and always expires.**

Every frame of a command updates the lock, and the frames after the first pass their sequence number
where a command is expected; in a command of at most 7609 bytes no sequence number is a lock command.

Main definitions:

* `ChannelLock.Exclusive` — what a command does to a lock that a channel may hold;
* `ChannelLock.Expires` — what a timer does;
* `HidGnubbyDevice.LockStep`, `UsbGnubbyDevice.LockStep` — what a step of a device does.

Main results:

* `HidGnubbyDevice.exclusive_queueCommand`, `UsbGnubbyDevice.exclusive_queueCommand` — commands;
* `ChannelLock.exclusive_and_expires` — **the lock is exclusive and always expires**, in every run of
  both devices.
-/

import U2F.Extension.HidWritePump
import U2F.Extension.UsbGnubbyDevice

set_option relaxedAutoImplicit false
set_option autoImplicit false

namespace U2F

open GnubbyDevice Hid

namespace ChannelLock

/-- Only a lock command takes the lock or gives it back, and only for its own channel. -/
def Changes (l l' : ChannelLock) (cid : Int32) (cmd : UInt8) : Prop :=
  l'.lockCID ≠ l.lockCID → cmd = CMD_LOCK ∧
    (l.lockCID = cid ∧ l'.lockCID = 0 ∨ l.lockCID = 0 ∧ l'.lockCID = cid)

/-- A command of the channel `cid` queues these frames and is answered with these. -/
structure Exclusive (l l' : ChannelLock) (cid : Int32) (cmd : UInt8)
    (frames answers : List (List UInt8)) : Prop where
  /-- While another channel holds the lock, the command is answered to its channel and not queued. -/
  refused : l.Refuses cid cmd → frames = [] ∧ answers = [busy cid]
  accepted : ¬ l.Refuses cid cmd → answers = []
  /-- The frames are frames of the channel. -/
  channel : ∀ f ∈ frames, channel f = cid
  /-- They are queued while no other channel holds the lock, or for a `SYNC` or an `INIT`. -/
  holder : ∀ f ∈ frames, ∀ c ≠ 0, l.lockCID = c ∨ l'.lockCID = c →
    Hid.channel f = c ∨ cmd = CMD_SYNC ∨ cmd = CMD_INIT
  changes : Changes l l' cid cmd

/-- A timer fires: the lock timer releases the lock, and no other timer does. -/
structure Expires (l l' : ChannelLock) (tid : ℕ) : Prop where
  released : l.lockTID = some tid → l'.lockCID = 0
  changes : l'.lockCID ≠ l.lockCID → l.lockTID = some tid ∧ l'.lockCID = 0

/-- A device whose lock was `l` adds nothing to its queue, and its lock stays the same while it is
alive. -/
structure Rests (l l' : ChannelLock) (queue queue' : List (List UInt8)) (dev dev' : Bool) : Prop where
  lockCID : l'.lockCID = l.lockCID
  queue : queue' <:+ queue
  alive : dev' = true → dev = true ∧ l' = l

variable {l l' l'' : ChannelLock} {cid : Int32} {cmd : UInt8}

theorem Changes.refl (l : ChannelLock) (cid : Int32) (cmd : UInt8) : Changes l l cid cmd :=
  fun hne => absurd rfl hne

theorem Changes.trans (h : Changes l l' cid cmd) (h' : Changes l' l'' cid cmd) :
    Changes l l'' cid cmd := by
  intro hne
  by_cases hfirst : l'.lockCID = l.lockCID
  · rw [← hfirst] at hne ⊢
    exact h' hne
  · by_cases hsecond : l''.lockCID = l'.lockCID
    · rw [hsecond]
      exact h hfirst
    · -- the lock is taken and given back, or the other way
      obtain ⟨hlock, hown⟩ := h hfirst
      refine ⟨hlock, ?_⟩
      rcases hown with ⟨hcid, hzero⟩ | ⟨hzero, hcid⟩
      · rcases (h' hsecond).2 with ⟨-, hzero'⟩ | ⟨-, hcid'⟩
        · exact absurd (hzero'.trans hzero.symm) hsecond
        · exact absurd (hcid'.trans hcid.symm) hne
      · rcases (h' hsecond).2 with ⟨-, hzero'⟩ | ⟨-, hcid'⟩
        · exact absurd (hzero'.trans hzero.symm) hne
        · exact absurd (hcid'.trans hcid.symm) hsecond

theorem Exclusive.of_refused (h : l.Refuses cid cmd) : Exclusive l l cid cmd [] [busy cid] :=
  ⟨fun _ => ⟨rfl, rfl⟩, fun hno => absurd h hno, nofun, nofun, .refl l cid cmd⟩

theorem Exclusive.of_accepted {frames : List (List UInt8)} (h : ¬ l.Refuses cid cmd)
    (hchannel : ∀ f ∈ frames, Hid.channel f = cid) (hchanges : Changes l l' cid cmd) :
    Exclusive l l' cid cmd frames [] := by
  refine ⟨fun hrefused => absurd hrefused h, fun _ => rfl, hchannel, fun f hf c hc hheld => ?_, hchanges⟩
  rw [hchannel f hf]
  have hbefore : l.lockCID = c → cid = c ∨ cmd = CMD_SYNC ∨ cmd = CMD_INIT := by
    intro hlock
    by_contra hother
    obtain ⟨hne, hsync, hinit⟩ : cid ≠ c ∧ cmd ≠ CMD_SYNC ∧ cmd ≠ CMD_INIT := by
      simpa only [not_or] using hother
    exact h ⟨hlock ▸ hc, fun heq => hne (heq.symm.trans hlock), hsync, hinit⟩
  rcases hheld with hlock | hlock
  · exact hbefore hlock
  · by_cases hsame : l'.lockCID = l.lockCID
    · exact hbefore (hsame.symm.trans hlock)
    · -- the channel has just taken the lock
      rcases (hchanges hsame).2 with ⟨-, hzero⟩ | ⟨-, hcid⟩
      · exact absurd (hlock.symm.trans hzero) hc
      · exact .inl (hcid.symm.trans hlock)

theorem Rests.refl (l : ChannelLock) (queue : List (List UInt8)) (dev : Bool) :
    Rests l l queue queue dev dev :=
  ⟨rfl, List.suffix_refl _, fun hdev => ⟨hdev, rfl⟩⟩

theorem Rests.armed {queue queue' : List (List UInt8)} {dev dev' : Bool}
    (h : Rests l l' queue queue' dev dev') (harmed : dev = true → l.Armed) (halive : dev' = true) :
    l'.Armed := by
  obtain ⟨hdev, rfl⟩ := h.alive halive
  exact harmed hdev

theorem Armed.expires (h : l.Armed) (tid : ℕ) : Expires l (l.lockExpired tid) tid := by
  refine ⟨fun htid => ?_, h.lockTID_of_lockExpired⟩
  have hmem : tid ∈ l.timers.map Prod.fst := by simp [h.timers, htid]
  unfold ChannelLock.lockExpired
  rw [if_pos hmem]

/-- A frame changes who holds the lock only if it has a lock command. -/
theorem changes_updateLock (l : ChannelLock) (cid : Int32) (arg : ℕ) {c : ℕ}
    (hcmd : c = CMD_LOCK.toNat → cmd = CMD_LOCK) : Changes l (l.updateLock_ cid c arg) cid cmd := by
  intro hchange
  rw [updateLock_lockCID] at hchange ⊢
  by_cases hlock : (l.lockCID = 0 ∨ l.lockCID = cid) ∧ c = CMD_LOCK.toNat
  · rw [if_pos hlock] at hchange ⊢
    refine ⟨hcmd hlock.2, ?_⟩
    by_cases harg : arg ≠ 0
    · rw [if_pos harg] at hchange ⊢
      exact .inr ⟨hlock.1.resolve_right fun hcid => hchange hcid.symm, rfl⟩
    · rw [if_neg harg] at hchange ⊢
      exact .inl ⟨hlock.1.resolve_left fun hzero => hchange hzero.symm, rfl⟩
  · rw [if_neg hlock] at hchange
    exact absurd rfl hchange

end ChannelLock

/-! ### The HID device -/

namespace HidGnubbyDevice

open ChannelLock

theorem queueFrame_lock (d : HidGnubbyDevice) (f : List UInt8) (cid : Int32) (c arg : ℕ) :
    (d.queueFrame_ f cid c arg).toChannelLock = d.toChannelLock.updateLock_ cid c arg := by
  unfold queueFrame_
  dsimp only
  split
  · rw [writePump_eq]
    rfl
  · rfl

/-- A frame of a command of at most 7609 bytes is a lock command only if the command is. -/
theorem lock_frame {cmd : UInt8} {length c : ℕ} (hlength : length ≤ 7609)
    (hc : c = cmd.toNat ∨ 59 * (c + 1) ≤ length + 2) (hlock : c = CMD_LOCK.toNat) : cmd = CMD_LOCK := by
  have hvalue : CMD_LOCK.toNat = 132 := rfl
  rcases hc with hc | hc
  · exact UInt8.toNat_inj.1 (hc.symm.trans hlock)
  · omega

/-- **A command of a HID device and the lock.** -/
theorem exclusive_queueCommand {d : HidGnubbyDevice} (cid : Int32) (cmd : UInt8) {data : List UInt8}
    (hlength : data.length ≤ 7609) (hdev : d.dev = true) (harmed : d.toChannelLock.Armed) :
    (d.queueCommand cid cmd data).toChannelLock.Armed ∧
    ∃ frames answers, (d.queueCommand cid cmd data).txqueue = d.txqueue ++ frames ∧
      (d.queueCommand cid cmd data).published = d.published ++ answers ∧
      Exclusive d.toChannelLock (d.queueCommand cid cmd data).toChannelLock cid cmd frames answers := by
  by_cases hrefused : d.Refuses cid cmd
  · rw [queueCommand_refused data hdev hrefused]
    exact ⟨harmed, [], [busy cid], (List.append_nil _).symm, rfl, .of_refused hrefused⟩
  · obtain ⟨frames, hqueues⟩ := queueCommand_queues data hdev hrefused
    have hlock : (d.queueCommand cid cmd data).toChannelLock.Armed ∧
        Changes d.toChannelLock (d.queueCommand cid cmd data).toChannelLock cid cmd := by
      refine queueCommand_invariant (I := fun d' => d'.toChannelLock.Armed ∧
        Changes d.toChannelLock d'.toChannelLock cid cmd) ?_ hdev hrefused ⟨harmed, .refl _ cid cmd⟩
      rintro d' f c - - hc ⟨harmed', hchanges⟩
      rw [queueFrame_lock]
      exact ⟨harmed'.updateLock cid c _,
        hchanges.trans (changes_updateLock _ cid _ (lock_frame hlength hc))⟩
    exact ⟨hlock.1, frames, [], hqueues.txqueue, by simpa using hqueues.published,
      .of_accepted hrefused hqueues.cid hlock.2⟩

/-- Commands have at most 7609 bytes. -/
def WriteEvent.Fits : WriteEvent → Prop
  | .queueCommand _ _ data => data.length ≤ 7609
  | _ => True

/-- **A step of a device that is alive**: what a command and a timer do to the lock; nothing else changes
who holds the lock, or adds to the queue. -/
def LockStep (d : WritePump) (e : WriteEvent) : Prop :=
  d.dev = true →
    match e with
    | .queueCommand cid cmd _ =>
      ∃ frames answers, (writeMachine.next d e).txqueue = d.txqueue ++ frames ∧
        (writeMachine.next d e).published = d.published ++ answers ∧
        Exclusive d.toChannelLock (writeMachine.next d e).toChannelLock cid cmd frames answers
    | .lockExpired tid =>
      (writeMachine.next d e).txqueue = d.txqueue ∧
        Expires d.toChannelLock (writeMachine.next d e).toChannelLock tid
    | _ => (writeMachine.next d e).lockCID = d.lockCID ∧ (writeMachine.next d e).txqueue <:+ d.txqueue

theorem destroy_lockCID (d : HidGnubbyDevice) : d.destroy.lockCID = d.lockCID := by
  unfold destroy
  split
  · rfl
  · exact clearTimeout_lockCID _

theorem destroy_dead (d : HidGnubbyDevice) : d.destroy.dev = false := by
  unfold destroy
  split
  · rename_i hdead
    simpa using hdead
  · rfl

theorem writePump_lock (d : HidGnubbyDevice) : d.writePump_.toChannelLock = d.toChannelLock := by
  unfold writePump_
  split
  · split <;> rfl
  · rfl

/-- A step that leaves the lock alone. -/
abbrev Rests (d d' : HidGnubbyDevice) : Prop :=
  ChannelLock.Rests d.toChannelLock d'.toChannelLock d.txqueue d'.txqueue d.dev d'.dev

theorem rests_destroy (d : HidGnubbyDevice) : Rests d d.destroy := by
  refine ⟨destroy_lockCID d, ?_, fun halive => ?_⟩
  · rw [destroy_txqueue]
  · exact absurd ((destroy_dead d).symm.trans halive) (by simp)

theorem rests_writePump (d : HidGnubbyDevice) : Rests d d.writePump_ := by
  refine ⟨by rw [writePump_lock], by rw [writePump_txqueue], fun halive => ⟨?_, writePump_lock d⟩⟩
  unfold writePump_ at halive
  split at halive
  · rename_i hdev
    exact hdev
  · exact halive

theorem rests_transferComplete (d : WritePump) (lastError : Bool) :
    Rests d.toHidGnubbyDevice (d.transferComplete lastError).toHidGnubbyDevice := by
  unfold WritePump.transferComplete
  split
  · exact .refl _ _ _
  · dsimp only
    split
    · exact ⟨rfl, List.tail_suffix _, fun hdev => ⟨hdev, rfl⟩⟩
    · exact ⟨rfl, List.tail_suffix _, fun hdev => ⟨hdev, rfl⟩⟩

/-- **What a step of a HID device does to the lock and keeps.** -/
theorem lockStep_next {d : WritePump} {e : WriteEvent} (he : e.Fits)
    (harmed : d.dev = true → d.toChannelLock.Armed) :
    LockStep d e ∧
      ((writeMachine.next d e).dev = true → (writeMachine.next d e).toChannelLock.Armed) := by
  cases e with
  | queueCommand cid cmd data =>
      cases hdev : d.dev with
      | false =>
          have hsame : (writeMachine.next d (.queueCommand cid cmd data)).toHidGnubbyDevice =
              d.toHidGnubbyDevice := queueCommand_dead hdev cid cmd data
          rw [hsame]
          exact ⟨fun halive => absurd (hdev.symm.trans halive) (by simp), harmed⟩
      | true =>
          obtain ⟨harmed', hstep⟩ := exclusive_queueCommand cid cmd he hdev (harmed hdev)
          exact ⟨fun _ => hstep, fun _ => harmed'⟩
  | transferComplete lastError =>
      have h : Rests d.toHidGnubbyDevice
          (writeMachine.next d (.transferComplete lastError)).toHidGnubbyDevice := by
        simp only [Machine.next, writeMachine]
        split
        · exact rests_transferComplete
            { d with completed := d.completed + 1, failed := d.failed || lastError } lastError
        · exact .refl _ _ _
      exact ⟨fun _ => ⟨h.lockCID, h.queue⟩, h.armed harmed⟩
  | writePump =>
      have h : Rests d.toHidGnubbyDevice (writeMachine.next d .writePump).toHidGnubbyDevice := by
        simp only [Machine.next, writeMachine]
        split
        · exact .refl _ _ _
        · exact rests_writePump _
      exact ⟨fun _ => ⟨h.lockCID, h.queue⟩, h.armed harmed⟩
  | destroyTimer =>
      have h : Rests d.toHidGnubbyDevice (writeMachine.next d .destroyTimer).toHidGnubbyDevice := by
        simp only [Machine.next, writeMachine]
        split
        · exact .refl _ _ _
        · exact rests_destroy _
      exact ⟨fun _ => ⟨h.lockCID, h.queue⟩, h.armed harmed⟩
  | lockExpired tid =>
      exact ⟨fun hdev => ⟨rfl, (harmed hdev).expires tid⟩, fun hdev => (harmed hdev).lockExpired tid⟩
  | destroy =>
      have h := rests_destroy d.toHidGnubbyDevice
      exact ⟨fun _ => ⟨h.lockCID, h.queue⟩, h.armed harmed⟩

end HidGnubbyDevice

/-! ### The USB device -/

namespace UsbGnubbyDevice

open ChannelLock

/-- Writing and reading leave the lock and the queue alone. -/
theorem writeOneRequest_eq (d : UsbGnubbyDevice) :
    d.writeOneRequest_.toChannelLock = d.toChannelLock ∧ d.writeOneRequest_.txqueue = d.txqueue ∧
      d.writeOneRequest_.published = d.published ∧ d.writeOneRequest_.dev = d.dev := by
  unfold writeOneRequest_
  split
  · exact ⟨rfl, rfl, rfl, rfl⟩
  · split
    · exact ⟨rfl, rfl, rfl, rfl⟩
    · split
      · exact ⟨rfl, rfl, rfl, rfl⟩
      · exact ⟨rfl, rfl, rfl, rfl⟩

/-- **A command of a USB device and the lock.** -/
theorem exclusive_queueCommand {d : UsbGnubbyDevice} (cid : Int32) (cmd : UInt8) (data : List UInt8)
    (hdev : d.dev = true) (harmed : d.toChannelLock.Armed) :
    (d.queueCommand cid cmd data).toChannelLock.Armed ∧
    ∃ frames answers, (d.queueCommand cid cmd data).txqueue = d.txqueue ++ frames ∧
      (d.queueCommand cid cmd data).published = d.published ++ answers ∧
      Exclusive d.toChannelLock (d.queueCommand cid cmd data).toChannelLock cid cmd frames answers := by
  by_cases hrefused : d.Refuses cid cmd
  · rw [queueCommand_refused data hdev hrefused]
    exact ⟨harmed, [], [busy cid], (List.append_nil _).symm, rfl, .of_refused hrefused⟩
  · obtain ⟨e, he⟩ : ∃ e : UsbGnubbyDevice, e = { d with
        toChannelLock := d.toChannelLock.updateLock_ cid cmd.toNat
          (if data.length > 0 then (data.getD 0 0).toNat else 0)
        txqueue := d.txqueue ++ [request cid cmd data]
        queued := d.queued ++ [request cid cmd data] } := ⟨_, rfl⟩
    have hsame : (d.queueCommand cid cmd data).toChannelLock = e.toChannelLock ∧
        (d.queueCommand cid cmd data).txqueue = e.txqueue ∧
        (d.queueCommand cid cmd data).published = e.published := by
      rw [queueCommand_live hdev hrefused he]
      split
      · obtain ⟨hlock, htxqueue, hpublished, -⟩ := writeOneRequest_eq e
        exact ⟨hlock, htxqueue, hpublished⟩
      · exact ⟨rfl, rfl, rfl⟩
    have hchannel : Hid.channel (request cid cmd data) = cid := channel_putInt cid _
    rw [hsame.1, hsame.2.1, hsame.2.2, he]
    refine ⟨harmed.updateLock cid _ _, [request cid cmd data], [], rfl, (List.append_nil _).symm,
      .of_accepted hrefused (by simpa using hchannel) (changes_updateLock _ cid _ fun hlock => ?_)⟩
    exact UInt8.toNat_inj.1 hlock

/-- **A step of a device that is alive**: what a command and a timer do to the lock; nothing else changes
who holds the lock, or adds to the queue. -/
def LockStep (d : UsbGnubbyDevice) (e : Event) : Prop :=
  d.dev = true →
    match e with
    | .queueCommand cid cmd _ =>
      ∃ frames answers, (machine.next d e).txqueue = d.txqueue ++ frames ∧
        (machine.next d e).published = d.published ++ answers ∧
        Exclusive d.toChannelLock (machine.next d e).toChannelLock cid cmd frames answers
    | .lockExpired tid =>
      (machine.next d e).txqueue = d.txqueue ∧
        Expires d.toChannelLock (machine.next d e).toChannelLock tid
    | _ => (machine.next d e).lockCID = d.lockCID ∧ (machine.next d e).txqueue <:+ d.txqueue

/-- A step that leaves the lock alone. -/
abbrev Rests (d d' : UsbGnubbyDevice) : Prop :=
  ChannelLock.Rests d.toChannelLock d'.toChannelLock d.txqueue d'.txqueue d.dev d'.dev

theorem rests_of_eq {d d' : UsbGnubbyDevice} (hlock : d'.toChannelLock = d.toChannelLock)
    (hqueue : d'.txqueue <:+ d.txqueue) (hdev : d'.dev = d.dev) : Rests d d' :=
  ⟨by rw [hlock], hqueue, fun halive => ⟨hdev ▸ halive, hlock⟩⟩

theorem rests_outTransferComplete (d : UsbGnubbyDevice) (lastError : Bool) :
    Rests d (d.outTransferComplete lastError) := by
  unfold outTransferComplete
  dsimp only
  split
  · exact rests_of_eq rfl (List.suffix_refl _) rfl
  · split <;> exact rests_of_eq rfl (List.suffix_refl _) rfl

theorem rests_inTransferComplete (d : UsbGnubbyDevice) (lastError : Bool) (data : Option (List UInt8)) :
    Rests d (d.inTransferComplete lastError data) := by
  unfold inTransferComplete
  dsimp only
  split
  · exact rests_of_eq rfl (List.suffix_refl _) rfl
  · split
    · exact rests_of_eq rfl (List.suffix_refl _) rfl
    · split <;> exact rests_of_eq rfl (List.suffix_refl _) rfl

theorem rests_readOneReply (d : UsbGnubbyDevice) : Rests d d.readOneReply_ := by
  unfold readOneReply_
  split_ifs <;> exact rests_of_eq rfl (List.suffix_refl _) rfl

theorem rests_writeNext (d : UsbGnubbyDevice) : Rests d d.writeNext := by
  obtain ⟨hlock, htxqueue, -, hdev⟩ := writeOneRequest_eq { d with txqueue := d.txqueue.tail }
  exact rests_of_eq hlock (htxqueue ▸ List.tail_suffix _) hdev

theorem rests_destroy (d : UsbGnubbyDevice) : Rests d d.destroy := by
  unfold destroy
  split <;> exact rests_of_eq rfl (List.suffix_refl _) rfl

theorem rests_destroyed (d : UsbGnubbyDevice) : Rests d d.destroyed := by
  unfold destroyed
  split
  · exact ⟨clearTimeout_lockCID _, List.suffix_refl _, nofun⟩
  · exact .refl _ _ _

/-- **What a step of a USB device does to the lock and keeps.** -/
theorem lockStep_next {d : UsbGnubbyDevice} {e : Event} (harmed : d.dev = true → d.toChannelLock.Armed) :
    LockStep d e ∧ ((machine.next d e).dev = true → (machine.next d e).toChannelLock.Armed) := by
  cases e with
  | queueCommand cid cmd data =>
      cases hdev : d.dev with
      | false =>
          have hsame : machine.next d (.queueCommand cid cmd data) = d := queueCommand_dead hdev cid cmd data
          rw [hsame]
          exact ⟨fun halive => absurd (hdev.symm.trans halive) (by simp), harmed⟩
      | true =>
          obtain ⟨harmed', hstep⟩ := exclusive_queueCommand cid cmd data hdev (harmed hdev)
          exact ⟨fun _ => hstep, fun _ => harmed'⟩
  | outTransferComplete lastError =>
      have h : Rests d (machine.next d (.outTransferComplete lastError)) := by
        simp only [Machine.next, machine]
        generalize (if lastError then d.log else d.log ++ [Transfer.written]) = log
        split
        · exact .refl _ _ _
        · exact rests_outTransferComplete { d with
            outs := d.outs - 1, log := log, failed := d.failed || lastError } lastError
      exact ⟨fun _ => ⟨h.lockCID, h.queue⟩, h.armed harmed⟩
  | inTransferComplete lastError data =>
      have h : Rests d (machine.next d (.inTransferComplete lastError data)) := by
        simp only [Machine.next, machine]
        generalize (if lastError || data.isNone then d.log else d.log ++ [Transfer.read]) = log
        split
        · exact .refl _ _ _
        · exact rests_inTransferComplete { d with
            ins := d.ins - 1, log := log, failed := d.failed || lastError || data.isNone } lastError data
      exact ⟨fun _ => ⟨h.lockCID, h.queue⟩, h.armed harmed⟩
  | readOneReply =>
      have h : Rests d (machine.next d .readOneReply) := by
        simp only [Machine.next, machine]
        split
        · exact .refl _ _ _
        · exact rests_readOneReply { d with readTimers := d.readTimers - 1 }
      exact ⟨fun _ => ⟨h.lockCID, h.queue⟩, h.armed harmed⟩
  | writeNext =>
      have h : Rests d (machine.next d .writeNext) := by
        simp only [Machine.next, machine]
        split
        · exact .refl _ _ _
        · exact rests_writeNext { d with writeTimers := d.writeTimers - 1 }
      exact ⟨fun _ => ⟨h.lockCID, h.queue⟩, h.armed harmed⟩
  | destroyTimer =>
      have h : Rests d (machine.next d .destroyTimer) := by
        simp only [Machine.next, machine]
        split
        · exact .refl _ _ _
        · exact rests_destroy { d with destroyTimers := d.destroyTimers - 1 }
      exact ⟨fun _ => ⟨h.lockCID, h.queue⟩, h.armed harmed⟩
  | lockExpired tid =>
      exact ⟨fun hdev => ⟨rfl, (harmed hdev).expires tid⟩, fun hdev => (harmed hdev).lockExpired tid⟩
  | destroy =>
      have h := rests_destroy d
      exact ⟨fun _ => ⟨h.lockCID, h.queue⟩, h.armed harmed⟩
  | destroyed =>
      have h := rests_destroyed d
      exact ⟨fun _ => ⟨h.lockCID, h.queue⟩, h.armed harmed⟩

end UsbGnubbyDevice

/-- **The lock is exclusive and always expires.**  In every run of a HID device whose commands have at most
7609 bytes, and in every run of a USB device: while the device is alive, the lock is held exactly if its
timer is set, which is the only one; and every step is a step that respects the lock. -/
theorem ChannelLock.exclusive_and_expires :
    (∀ es : List HidGnubbyDevice.WriteEvent, (∀ e ∈ es, e.Fits) →
      HidGnubbyDevice.writeMachine.Always (fun d => d.dev = true → d.toChannelLock.Armed) .new es ∧
      HidGnubbyDevice.writeMachine.AllSteps HidGnubbyDevice.LockStep .new es) ∧
    (∀ es : List UsbGnubbyDevice.Event,
      UsbGnubbyDevice.machine.Always (fun d => d.dev = true → d.toChannelLock.Armed) .new es ∧
      UsbGnubbyDevice.machine.AllSteps UsbGnubbyDevice.LockStep .new es) := by
  constructor
  · intro es hes
    have hfits : HidGnubbyDevice.writeMachine.AllSteps (fun _ e => e.Fits) .new es :=
      Machine.allSteps_of_forall_mem (fun e he _ => hes e he) _
    exact ⟨Machine.always_of_invariant (fun _ _ h he => (HidGnubbyDevice.lockStep_next he h).2)
        (fun _ h => h) hfits fun _ => armed_unlocked,
      Machine.allSteps_of_invariant (fun _ _ h he => HidGnubbyDevice.lockStep_next he h) hfits
        fun _ => armed_unlocked⟩
  · intro es
    have htrue : UsbGnubbyDevice.machine.AllSteps (fun _ _ => True) .new es :=
      Machine.allSteps_of_forall_mem (fun _ _ _ => trivial) _
    exact ⟨Machine.always_of_invariant (fun _ _ h _ => (UsbGnubbyDevice.lockStep_next h).2)
        (fun _ h => h) htrue fun _ => armed_unlocked,
      Machine.allSteps_of_invariant (fun _ _ h _ => UsbGnubbyDevice.lockStep_next h) htrue
        fun _ => armed_unlocked⟩

/-- A channel takes the lock, another is refused, and the lock expires. -/
theorem ChannelLock.exclusive_and_expires_once :
    HidGnubbyDevice.writeMachine.AllSteps HidGnubbyDevice.LockStep .new
      [.queueCommand 5 CMD_LOCK [1], .queueCommand 6 0x83 [], .lockExpired 0] :=
  (exclusive_and_expires.1 _ (by simp [HidGnubbyDevice.WriteEvent.Fits])).2

end U2F
