/-
**The transfers of a USB device alternate.**

Between two events a device is in one of a few phases: it waits for nothing, for a transfer, or for a
timer that goes on with the next transfer, until the cycle is stopped by a failure or because the device
is being closed.

Main definitions:

* `UsbGnubbyDevice.roundTrip` — what a request is on the endpoints;
* `UsbGnubbyDevice.Alternates` — what has happened on the endpoints is what was queued, and one transfer
  or timer is pending;
* `UsbGnubbyDevice.Phase`, `UsbGnubbyDevice.At` — where a device is in its cycle.

Main results:

* `UsbGnubbyDevice.At.queueCommand`, `UsbGnubbyDevice.At.outTransferComplete`, … — from phase to phase;
* `UsbGnubbyDevice.transfers_alternate` — **writes and reads alternate**, in every run.
-/

import U2F.Extension.UsbGnubbyDevice

set_option relaxedAutoImplicit false
set_option autoImplicit false

namespace U2F

namespace UsbGnubbyDevice

open GnubbyDevice

/-- A request is written, and a reply is read. -/
def roundTrip (frame : List UInt8) : List Transfer := [.writes frame, .written, .reads, .read]

/-- **No exception has been thrown; the requests that were queued have been written in their order and
once each, with one reply read after each of them; and a device that can be used, none of whose transfers
has failed, waits for one transfer or timer if requests are queued.** -/
structure Alternates (d : UsbGnubbyDevice) : Prop where
  thrown : d.thrown = false
  log : d.log <+: d.queued.flatMap roundTrip
  pending : d.readyToUse_ = true → d.failed = false → d.txqueue ≠ [] →
    d.outs + d.ins + d.readTimers + d.writeTimers + d.destroyTimers = 1

/-! ### The phases of a device -/

/-- Where a device is in its cycle. -/
inductive Phase
  | idle
  | writing
  | written
  | reading
  | replied
  | stopped
  deriving DecidableEq

/-- What has happened with the request that is being served. -/
def Phase.log (frame : List UInt8) : Phase → List Transfer
  | .idle | .stopped => []
  | .writing => [.writes frame]
  | .written => [.writes frame, .written]
  | .reading => [.writes frame, .written, .reads]
  | .replied => [.writes frame, .written, .reads, .read]

theorem Phase.log_prefix (p : Phase) (frame : List UInt8) : p.log frame <+: roundTrip frame := by
  cases p
  · exact ⟨_, rfl⟩
  · exact ⟨_, rfl⟩
  · exact ⟨_, rfl⟩
  · exact ⟨_, rfl⟩
  · exact ⟨[], rfl⟩
  · exact ⟨_, rfl⟩

/-- The first request of the queue is being served, and those in front of it have been. -/
def Serves (d : UsbGnubbyDevice) (p : Phase) : Prop :=
  ∃ served frame rest, d.txqueue = frame :: rest ∧ d.queued = served ++ frame :: rest ∧
    d.log = served.flatMap roundTrip ++ p.log frame

/-- What has been queued and what has happened. -/
def Logged (d : UsbGnubbyDevice) : Phase → Prop
  | .idle => (d.readyToUse_ = true → d.txqueue = []) ∧
      ∃ served, d.queued = served ++ d.txqueue ∧ d.log = served.flatMap roundTrip
  | .stopped => (d.readyToUse_ = true → d.failed = true ∧ d.txqueue ≠ []) ∧
      d.log <+: d.queued.flatMap roundTrip
  | p => d.Serves p

/-- What a device waits for in a phase. -/
structure Waits (d : UsbGnubbyDevice) (p : Phase) : Prop where
  outs : d.outs = if p = .writing then 1 else 0
  ins : d.ins = if p = .reading then 1 else 0
  readTimers : d.readTimers = if p = .written then 1 else 0
  writeTimers : d.writeTimers = if p = .replied then 1 else 0
  outTransferPending : d.outTransferPending = decide (p = .writing)
  inTransferPending : d.inTransferPending = decide (p = .reading)
  thrown : d.thrown = false
  updating : d.updating = false
  destroyTimers : d.failed = false → d.destroyTimers = 0

/-- **A device is in a phase of its cycle.** -/
structure At (p : Phase) (d : UsbGnubbyDevice) : Prop where
  waits : d.Waits p
  logged : d.Logged p

variable {p : Phase} {d : UsbGnubbyDevice}

/-- What happens with the request that is being served. -/
theorem served_prefix {served rest : List (List UInt8)} {frame : List UInt8}
    (hqueued : d.queued = served ++ frame :: rest) {log : List Transfer}
    (hlog : log <+: roundTrip frame) :
    served.flatMap roundTrip ++ log <+: d.queued.flatMap roundTrip := by
  rw [hqueued, List.flatMap_append, List.flatMap_cons]
  exact (List.prefix_append_right_inj _).2 (hlog.trans (List.prefix_append _ _))

theorem Serves.log_prefix (h : d.Serves p) : d.log <+: d.queued.flatMap roundTrip := by
  obtain ⟨served, frame, rest, -, hqueued, hlog⟩ := h
  rw [hlog]
  exact served_prefix hqueued (p.log_prefix frame)

theorem Logged.log_prefix (h : d.Logged p) : d.log <+: d.queued.flatMap roundTrip := by
  cases p with
  | idle =>
      obtain ⟨-, served, hqueued, hlog⟩ := h
      rw [hqueued, hlog, List.flatMap_append]
      exact List.prefix_append _ _
  | stopped => exact h.2
  | writing | written | reading | replied => exact Serves.log_prefix h

theorem At.alternates (h : At p d) : d.Alternates := by
  have hwaits := h.waits
  have hlogged := h.logged
  refine ⟨hwaits.thrown, hlogged.log_prefix, fun hready hfailed hmore => ?_⟩
  rw [hwaits.outs, hwaits.ins, hwaits.readTimers, hwaits.writeTimers, hwaits.destroyTimers hfailed]
  cases p with
  | idle => exact absurd (hlogged.1 hready) hmore
  | stopped => exact absurd ((hlogged.1 hready).1.symm.trans hfailed) (by simp)
  | writing | written | reading | replied => rfl

/-! ### From phase to phase -/

/-- What the device gives to its clients and the lock do not matter, nor that it is closed. -/
theorem At.of_same (h : At p d) {e : UsbGnubbyDevice} {n : ℕ} (hn : n ≤ d.destroyTimers)
    (he : e = { d with
      toChannelLock := e.toChannelLock, published := e.published, dev := e.dev, closing := e.closing
      destroyTimers := n })
    (hready : e.readyToUse_ = true → d.readyToUse_ = true) : At p e := by
  have hwaits := h.waits
  have hlogged := h.logged
  have hqueued : e.queued = d.queued := by rw [he]
  have htxqueue : e.txqueue = d.txqueue := by rw [he]
  have hlog : e.log = d.log := by rw [he]
  have hfailed : e.failed = d.failed := by rw [he]
  constructor
  · rw [he]
    exact ⟨hwaits.outs, hwaits.ins, hwaits.readTimers, hwaits.writeTimers, hwaits.outTransferPending,
      hwaits.inTransferPending, hwaits.thrown, hwaits.updating,
      fun hfailed => Nat.le_zero.1 (hn.trans (hwaits.destroyTimers hfailed).le)⟩
  · unfold Logged at hlogged ⊢
    rw [hqueued, htxqueue, hlog, hfailed]
    cases p with
    | idle => exact hlogged.imp_left fun hidle he => hidle (hready he)
    | stopped => exact hlogged.imp_left fun hstopped he => hstopped (hready he)
    | writing | written | reading | replied =>
        unfold Serves at hlogged ⊢
        rw [hqueued, htxqueue, hlog]
        exact hlogged

/-- The first request of the queue is written, if the device can be used. -/
theorem At.writeOneRequest (h : d.Waits .idle) (served : List (List UInt8))
    (hqueued : d.queued = served ++ d.txqueue) (hlog : d.log = served.flatMap roundTrip) :
    ∃ q, At q d.writeOneRequest_ := by
  unfold writeOneRequest_
  split
  · rename_i hready
    refine ⟨.idle, h, fun hyes => ?_, served, hqueued, hlog⟩
    simp [hyes] at hready
  · split
    · rename_i hempty
      exact ⟨.idle, h, fun _ => hempty, served, hqueued, hlog⟩
    · rename_i frame rest hrest
      have hfree : d.outTransferPending = false := h.outTransferPending
      rw [if_pos hfree]
      refine ⟨.writing, ⟨?_, h.ins, h.readTimers, h.writeTimers, rfl, h.inTransferPending, h.thrown,
        h.updating, h.destroyTimers⟩, served, frame, rest, hrest, hrest ▸ hqueued, ?_⟩
      · dsimp only
        rw [h.outs]
        rfl
      · dsimp only
        rw [hlog]
        rfl

theorem At.queueCommand (h : At p d) (cid : Int32) (cmd : UInt8) (data : List UInt8) :
    ∃ q, At q (d.queueCommand cid cmd data) := by
  cases hdev : d.dev with
  | false => exact ⟨p, (queueCommand_dead hdev cid cmd data).symm ▸ h⟩
  | true =>
      by_cases hrefused : d.Refuses cid cmd
      · rw [queueCommand_refused data hdev hrefused]
        exact ⟨p, h.of_same (Nat.le_refl _) rfl id⟩
      · have hwaits := h.waits
        have hlogged := h.logged
        obtain ⟨e, he⟩ : ∃ e : UsbGnubbyDevice, e = { d with
            toChannelLock := d.toChannelLock.updateLock_ cid cmd.toNat
              (if data.length > 0 then (data.getD 0 0).toNat else 0)
            txqueue := d.txqueue ++ [request cid cmd data]
            queued := d.queued ++ [request cid cmd data] } := ⟨_, rfl⟩
        have hwaits' : e.Waits p := by
          rw [he]
          exact ⟨hwaits.outs, hwaits.ins, hwaits.readTimers, hwaits.writeTimers,
            hwaits.outTransferPending, hwaits.inTransferPending, hwaits.thrown, hwaits.updating,
            hwaits.destroyTimers⟩
        have hready : e.readyToUse_ = d.readyToUse_ := by
          rw [he]
          rfl
        have htxqueue : e.txqueue = d.txqueue ++ [request cid cmd data] := by rw [he]
        have hqueued : e.queued = d.queued ++ [request cid cmd data] := by rw [he]
        have hlog : e.log = d.log := by rw [he]
        have hfailed : e.failed = d.failed := by rw [he]
        rw [queueCommand_live hdev hrefused he]
        have hserving : ∀ q, d.Serves q → d.txqueue ≠ [] ∧ e.Serves q := by
          rintro q ⟨served, frame, rest, hrest, hqueue, hlogged⟩
          refine ⟨by simp [hrest], served, frame, rest ++ [request cid cmd data], ?_, ?_, ?_⟩
          · rw [htxqueue, hrest, List.cons_append]
          · rw [hqueued, hqueue, List.append_assoc, List.cons_append]
          · rw [hlog, hlogged]
        cases p with
        | idle =>
            obtain ⟨hidle, served, hqueue, hlogged⟩ := hlogged
            by_cases hempty : d.txqueue = []
            · rw [if_pos hempty]
              refine At.writeOneRequest hwaits' served ?_ (hlog.trans hlogged)
              rw [hqueued, hqueue, htxqueue, List.append_assoc]
            · rw [if_neg hempty]
              refine ⟨.idle, hwaits', fun hyes => absurd (hidle (hready ▸ hyes)) hempty, served, ?_,
                hlog.trans hlogged⟩
              rw [hqueued, hqueue, htxqueue, List.append_assoc]
        | stopped =>
            obtain ⟨hstopped, hlogged⟩ := hlogged
            have hstops : At .stopped e := by
              refine ⟨hwaits', fun hyes => ⟨hfailed.trans (hstopped (hready ▸ hyes)).1, ?_⟩, ?_⟩
              · rw [htxqueue]
                simp
              · rw [hlog, hqueued, List.flatMap_append]
                exact hlogged.trans (List.prefix_append _ _)
            split
            · rename_i hempty
              have hno : d.readyToUse_ = false := by
                by_contra hyes
                exact (hstopped (by simpa using hyes)).2 hempty
              refine ⟨.stopped, ?_⟩
              unfold writeOneRequest_
              rw [hready, hno]
              exact hstops
            · exact ⟨.stopped, hstops⟩
        | writing | written | reading | replied =>
            obtain ⟨hmore, hserves⟩ := hserving _ hlogged
            rw [if_neg hmore]
            exact ⟨_, hwaits', hserves⟩

/-- A device that is writing, reading or between the two comes to its end. -/
theorem At.stop {e : UsbGnubbyDevice} (hwaits : e.Waits .stopped)
    (hlog : e.log <+: e.queued.flatMap roundTrip)
    (hstopped : e.readyToUse_ = true → e.failed = true ∧ e.txqueue ≠ []) : ∃ q, At q e :=
  ⟨.stopped, hwaits, hstopped, hlog⟩

/-- A write is over. -/
theorem At.outTransferComplete (h : At p d) (houts : d.outs ≠ 0) (lastError : Bool) :
    ∃ q, At q ({ d with
      outs := d.outs - 1
      log := if lastError then d.log else d.log ++ [Transfer.written]
      failed := d.failed || lastError }.outTransferComplete lastError) := by
  obtain ⟨hwaits, hlogged⟩ := h
  obtain rfl : p = .writing := by
    by_contra hp
    exact houts (hwaits.outs.trans (if_neg hp))
  obtain ⟨served, frame, rest, hrest, hqueued, hlog⟩ := hlogged
  have hzero : d.outs - 1 = 0 := by
    rw [hwaits.outs]
    rfl
  have hlogs : (if lastError then d.log else d.log ++ [Transfer.written]) <+:
      d.queued.flatMap roundTrip := by
    rw [hlog]
    split
    · exact served_prefix hqueued (Phase.log_prefix .writing frame)
    · rw [List.append_assoc]
      exact served_prefix hqueued (Phase.log_prefix .written frame)
  generalize hnext : (if lastError then d.log else d.log ++ [Transfer.written]) = log at hlogs ⊢
  unfold UsbGnubbyDevice.outTransferComplete
  dsimp only
  split
  · -- the device is being closed
    rename_i hno
    refine At.stop ⟨hzero, hwaits.ins, hwaits.readTimers, hwaits.writeTimers, rfl,
      hwaits.inTransferPending, hwaits.thrown, hwaits.updating, fun hfailed => ?_⟩ hlogs fun hyes => ?_
    · exact hwaits.destroyTimers (Bool.or_eq_false_iff.1 hfailed).1
    · simp [hyes] at hno
  · split
    · rename_i herror
      subst herror
      refine At.stop ⟨hzero, hwaits.ins, hwaits.readTimers, hwaits.writeTimers, rfl,
        hwaits.inTransferPending, hwaits.thrown, hwaits.updating, fun hfailed => ?_⟩ hlogs
        fun _ => ⟨by simp, by simp [hrest]⟩
      simp at hfailed
    · rename_i herror
      obtain rfl : lastError = false := by simpa using herror
      refine ⟨.written, ⟨hzero, hwaits.ins, ?_, hwaits.writeTimers, rfl, hwaits.inTransferPending,
        hwaits.thrown, hwaits.updating, fun hfailed => ?_⟩, served, frame, rest, hrest, hqueued, ?_⟩
      · dsimp only
        rw [hwaits.readTimers]
        rfl
      · exact hwaits.destroyTimers (Bool.or_eq_false_iff.1 hfailed).1
      · rw [hlog, if_neg (by simp)] at hnext
        rw [← hnext, List.append_assoc]
        rfl

/-- A read is over. -/
theorem At.inTransferComplete (h : At p d) (hins : d.ins ≠ 0) (lastError : Bool)
    (data : Option (List UInt8)) :
    ∃ q, At q ({ d with
      ins := d.ins - 1
      log := if lastError || data.isNone then d.log else d.log ++ [Transfer.read]
      failed := d.failed || lastError || data.isNone }.inTransferComplete lastError data) := by
  obtain ⟨hwaits, hlogged⟩ := h
  obtain rfl : p = .reading := by
    by_contra hp
    exact hins (hwaits.ins.trans (if_neg hp))
  obtain ⟨served, frame, rest, hrest, hqueued, hlog⟩ := hlogged
  have hzero : d.ins - 1 = 0 := by
    rw [hwaits.ins]
    rfl
  have hlogs : (if lastError || data.isNone then d.log else d.log ++ [Transfer.read]) <+:
      d.queued.flatMap roundTrip := by
    rw [hlog]
    split
    · exact served_prefix hqueued (Phase.log_prefix .reading frame)
    · rw [List.append_assoc]
      exact served_prefix hqueued (Phase.log_prefix .replied frame)
  generalize hnext : (if lastError || data.isNone then d.log else d.log ++ [Transfer.read]) = log
    at hlogs ⊢
  unfold UsbGnubbyDevice.inTransferComplete
  dsimp only
  split
  · -- the device is being closed
    rename_i hno
    refine At.stop ⟨hwaits.outs, hzero, hwaits.readTimers, hwaits.writeTimers, hwaits.outTransferPending,
      rfl, hwaits.thrown, hwaits.updating, fun hfailed => ?_⟩ hlogs fun hyes => ?_
    · exact hwaits.destroyTimers (Bool.or_eq_false_iff.1 (Bool.or_eq_false_iff.1 hfailed).1).1
    · simp [hyes] at hno
  · split
    · rename_i herror
      subst herror
      refine At.stop ⟨hwaits.outs, hzero, hwaits.readTimers, hwaits.writeTimers,
        hwaits.outTransferPending, rfl, hwaits.thrown, hwaits.updating, fun hfailed => ?_⟩ hlogs
        fun _ => ⟨by simp, by simp [hrest]⟩
      simp at hfailed
    · rename_i herror
      obtain rfl : lastError = false := by simpa using herror
      split
      · -- the reply is given to the clients
        refine ⟨.replied, ⟨hwaits.outs, hzero, hwaits.readTimers, ?_, hwaits.outTransferPending, rfl,
          hwaits.thrown, hwaits.updating, fun hfailed => ?_⟩, served, frame, rest, hrest, hqueued, ?_⟩
        · dsimp only [publishFrame_]
          rw [hwaits.writeTimers]
          rfl
        · exact hwaits.destroyTimers (Bool.or_eq_false_iff.1 (Bool.or_eq_false_iff.1 hfailed).1).1
        · rw [hlog, if_neg (by simp)] at hnext
          rw [publishFrame_, ← hnext, List.append_assoc]
          rfl
      · refine At.stop ⟨hwaits.outs, hzero, hwaits.readTimers, hwaits.writeTimers,
          hwaits.outTransferPending, rfl, hwaits.thrown, hwaits.updating, fun hfailed => ?_⟩ hlogs
          fun _ => ⟨by simp, by simp [hrest]⟩
        simp at hfailed

/-- A timer reads the reply to the request that has been written. -/
theorem At.readOneReply (h : At p d) (htimers : d.readTimers ≠ 0) :
    ∃ q, At q { d with readTimers := d.readTimers - 1 }.readOneReply_ := by
  obtain ⟨hwaits, hlogged⟩ := h
  obtain rfl : p = .written := by
    by_contra hp
    exact htimers (hwaits.readTimers.trans (if_neg hp))
  obtain ⟨served, frame, rest, hrest, hqueued, hlog⟩ := hlogged
  have hzero : d.readTimers - 1 = 0 := by
    rw [hwaits.readTimers]
    rfl
  have hupdating : ¬ d.updating = true := by simp [hwaits.updating]
  have hfree : d.inTransferPending = false := hwaits.inTransferPending
  unfold readOneReply_
  split
  · rename_i hno
    refine At.stop ⟨hwaits.outs, hwaits.ins, hzero, hwaits.writeTimers, hwaits.outTransferPending,
      hwaits.inTransferPending, hwaits.thrown, hwaits.updating, hwaits.destroyTimers⟩ ?_ fun hyes => ?_
    · dsimp only
      rw [hlog]
      exact served_prefix hqueued (Phase.log_prefix .written frame)
    · simp [hyes] at hno
  · refine ⟨.reading, ⟨hwaits.outs, ?_, hzero, hwaits.writeTimers, hwaits.outTransferPending, rfl,
      hwaits.thrown, hwaits.updating, hwaits.destroyTimers⟩, served, frame, rest, hrest, hqueued, ?_⟩
    · dsimp only
      rw [hwaits.ins]
      rfl
    · dsimp only
      rw [hlog, List.append_assoc]
      rfl

/-- A timer drops the request that has been served, and goes on. -/
theorem At.writeNext (h : At p d) (htimers : d.writeTimers ≠ 0) :
    ∃ q, At q { d with writeTimers := d.writeTimers - 1 }.writeNext := by
  obtain ⟨hwaits, hlogged⟩ := h
  obtain rfl : p = .replied := by
    by_contra hp
    exact htimers (hwaits.writeTimers.trans (if_neg hp))
  obtain ⟨served, frame, rest, hrest, hqueued, hlog⟩ := hlogged
  have hzero : d.writeTimers - 1 = 0 := by
    rw [hwaits.writeTimers]
    rfl
  refine At.writeOneRequest ⟨hwaits.outs, hwaits.ins, hwaits.readTimers, hzero,
    hwaits.outTransferPending, hwaits.inTransferPending, hwaits.thrown, hwaits.updating,
    hwaits.destroyTimers⟩ (served ++ [frame]) ?_ ?_
  · dsimp only
    rw [hqueued, hrest, List.append_assoc]
    rfl
  · dsimp only
    rw [hlog, List.flatMap_append]
    simp [Phase.log, roundTrip]

theorem readyToUse_iff : d.readyToUse_ = true ↔ d.closing = false ∧ d.dev = true := by
  unfold readyToUse_
  cases d.closing <;> cases d.dev <;> simp

theorem At.destroy (h : At p d) {n : ℕ} (hn : n ≤ d.destroyTimers) :
    At p { d with destroyTimers := n }.destroy := by
  unfold UsbGnubbyDevice.destroy
  split
  · exact h.of_same hn rfl id
  · refine h.of_same hn rfl fun hyes => ?_
    exact absurd (readyToUse_iff.1 hyes).1 (by simp [publishFrame_])

theorem At.destroyed (h : At p d) : At p d.destroyed := by
  unfold UsbGnubbyDevice.destroyed
  split
  · refine h.of_same (Nat.le_refl _) rfl fun hyes => ?_
    exact absurd (readyToUse_iff.1 hyes).2 (by simp)
  · exact h

/-- **From phase to phase.** -/
theorem At.next (h : At p d) (e : Event) : ∃ q, At q (machine.next d e) := by
  cases e with
  | queueCommand cid cmd data => exact h.queueCommand cid cmd data
  | outTransferComplete lastError =>
      simp only [Machine.next, machine]
      split
      · exact ⟨p, h⟩
      · rename_i houts
        exact h.outTransferComplete houts lastError
  | inTransferComplete lastError data =>
      simp only [Machine.next, machine]
      split
      · exact ⟨p, h⟩
      · rename_i hins
        exact h.inTransferComplete hins lastError data
  | readOneReply =>
      simp only [Machine.next, machine]
      split
      · exact ⟨p, h⟩
      · rename_i htimers
        exact h.readOneReply htimers
  | writeNext =>
      simp only [Machine.next, machine]
      split
      · exact ⟨p, h⟩
      · rename_i htimers
        exact h.writeNext htimers
  | destroyTimer =>
      simp only [Machine.next, machine]
      split
      · exact ⟨p, h⟩
      · exact ⟨p, h.destroy (Nat.sub_le _ _)⟩
  | lockExpired tid => exact ⟨p, h.of_same (Nat.le_refl _) rfl id⟩
  | destroy => exact ⟨p, h.destroy (Nat.le_refl _)⟩
  | destroyed => exact ⟨p, h.destroyed⟩

theorem at_new : At .idle new :=
  ⟨⟨rfl, rfl, rfl, rfl, rfl, rfl, rfl, rfl, fun _ => rfl⟩, fun _ => rfl, [], rfl, rfl⟩

/-- **Writes and reads alternate**: at every point of every run. -/
theorem transfers_alternate (es : List Event) : machine.Always Alternates new es := by
  intro pre _
  obtain ⟨p, h⟩ := Machine.exec_invariant' (M := machine) (I := fun d => ∃ p, At p d)
    (fun d e ⟨_, h⟩ => h.next e) pre ⟨.idle, at_new⟩
  exact h.alternates

end UsbGnubbyDevice

end U2F
