/-
**The frames of a HID device are sent once each and in order.**

The frame that is being sent stays at the head of the queue until the send is over.  A frame that joins
an empty queue is sent at once; when a send is over and frames are left, a timer sends the next one.

Main definitions:

* `HidGnubbyDevice.WritePump` — a device with its outstanding sends and timers, and what has been queued;
* `HidGnubbyDevice.writeMachine` — what happens to it;
* `HidGnubbyDevice.WritePump.SendsInOrder` — what is sent, and when the pump runs.

Main results:

* `HidGnubbyDevice.WritePump.Kept.queueCommand`, `HidGnubbyDevice.WritePump.Kept.transferComplete`,
  `HidGnubbyDevice.WritePump.Kept.writePump` — what the steps keep;
* `HidGnubbyDevice.sends_in_order` — **frames are sent once each and in order**, in every run;
* `HidGnubbyDevice.sent_prefix_framesQueued` — they are the frames of the commands of the run.
-/

import U2F.Extension.HidGnubbyDevice
import U2F.Lib.Machine

set_option relaxedAutoImplicit false
set_option autoImplicit false

namespace U2F

namespace HidGnubbyDevice

open GnubbyDevice Fragments

/-- The device is given up; its clients are told. -/
def destroy (d : HidGnubbyDevice) : HidGnubbyDevice :=
  if !d.dev then d
  else
    let d := d.publishFrame_ [0, 0, 0, 0, CMD_ERROR, 0, 1, UInt8.ofNat GONE]
    { d with toChannelLock := d.toChannelLock.clearTimeout, dev := false }

@[simp] theorem destroy_txqueue (d : HidGnubbyDevice) : d.destroy.txqueue = d.txqueue := by
  unfold destroy
  split <;> rfl

@[simp] theorem destroy_sent (d : HidGnubbyDevice) : d.destroy.sent = d.sent := by
  unfold destroy
  split <;> rfl

theorem destroy_dev {d : HidGnubbyDevice} (halive : d.destroy.dev = true) : d.dev = true := by
  unfold destroy at halive
  split at halive
  · exact halive
  · cases halive

/-- A device with the sends and timers that it waits for. -/
structure WritePump extends HidGnubbyDevice where
  /-- The frames that each call of `queueCommand` has queued. -/
  queued : List (List (List UInt8))
  /-- How many of the sends are over. -/
  completed : ℕ
  /-- Whether one of them has failed. -/
  failed : Bool
  /-- How many timers with no delay will call `writePump_`, and `destroy`. -/
  pumps : ℕ
  destroys : ℕ

namespace WritePump

/-- The constructor of the device. -/
def new : WritePump :=
  { toChannelLock := .unlocked, dev := true, txqueue := [], sent := [], published := []
    queued := [], completed := 0, failed := false, pumps := 0, destroys := 0 }

/-- How many sends are outstanding. -/
def sending (d : WritePump) : ℕ := d.sent.length - d.completed

def queueCommand (d : WritePump) (cid : Int32) (cmd : UInt8) (data : List UInt8) : WritePump :=
  { d with
    toHidGnubbyDevice := d.toHidGnubbyDevice.queueCommand cid cmd data
    queued := d.queued ++ [d.queuedFrames cid cmd data] }

/-- The callback of a send. -/
def transferComplete (lastError : Bool) (d : WritePump) : WritePump :=
  if lastError then { d with destroys := d.destroys + 1 }
  else
    let d := { d with txqueue := d.txqueue.tail }
    if d.txqueue.length ≠ 0 then { d with pumps := d.pumps + 1 } else d

end WritePump

/-- What happens to a device. -/
inductive WriteEvent
  | queueCommand (cid : Int32) (cmd : UInt8) (data : List UInt8)
  /-- A send that is outstanding is over. -/
  | transferComplete (lastError : Bool)
  /-- A timer fires, if there is one. -/
  | writePump
  | destroyTimer
  | lockExpired (tid : ℕ)
  | destroy

/-- **The write pump as a reactive machine.** -/
def writeMachine : Machine WritePump WriteEvent Unit where
  step d
    | .queueCommand cid cmd data => ((), d.queueCommand cid cmd data)
    | .transferComplete lastError =>
      ((), if d.completed < d.sent.length then
        { d with completed := d.completed + 1, failed := d.failed || lastError }.transferComplete lastError
      else d)
    | .writePump =>
      ((), if d.pumps = 0 then d
      else { d with toHidGnubbyDevice := d.toHidGnubbyDevice.writePump_, pumps := d.pumps - 1 })
    | .destroyTimer =>
      ((), if d.destroys = 0 then d
      else { d with toHidGnubbyDevice := d.toHidGnubbyDevice.destroy, destroys := d.destroys - 1 })
    | .lockExpired tid => ((), { d with toChannelLock := d.toChannelLock.lockExpired tid })
    | .destroy => ((), { d with toHidGnubbyDevice := d.toHidGnubbyDevice.destroy })

namespace WritePump

/-- **Frames are sent once each and in order, command by command; one send is outstanding at most, and a
live device whose sends have not failed is sending, or will send, exactly if frames are queued.** -/
structure SendsInOrder (d : WritePump) : Prop where
  sent : d.sent <+: d.queued.flatten
  completed : d.completed ≤ d.sent.length
  sending : d.sending ≤ 1
  pumping : d.dev = true → d.failed = false → (d.txqueue ≠ [] ↔ d.sending + d.pumps = 1)

/-- What holds at every point of a run. -/
structure Kept (d : WritePump) : Prop where
  full : ∀ f ∈ d.txqueue, f.length = 64
  sent : d.sent <+: d.queued.flatten
  completed : d.completed ≤ d.sent.length
  one : d.sending + d.pumps ≤ 1
  /-- The queue is what has not been sent, behind the frame that is being sent. -/
  queue : d.failed = false → d.queued.flatten = d.sent.take d.completed ++ d.txqueue
  busy : d.sending + d.pumps = 1 → d.txqueue ≠ []
  waits : d.dev = true → d.failed = false → d.txqueue ≠ [] → d.sending + d.pumps = 1
  /-- A frame that could not be sent stays at the head of the queue. -/
  stuck : d.failed = true → d.sending + d.pumps = 0 ∧ d.txqueue ≠ []

variable {d : WritePump}

theorem Kept.sendsInOrder (h : d.Kept) : d.SendsInOrder := by
  have hone := h.one
  exact ⟨h.sent, h.completed, by omega, fun hdev hfailed => ⟨h.waits hdev hfailed, h.busy⟩⟩

/-- The queue and the sends are the same, and a device does not come back to life. -/
theorem Kept.of_same (h : d.Kept) {e : HidGnubbyDevice} (htxqueue : e.txqueue = d.txqueue)
    (hsent : e.sent = d.sent) (hdev : e.dev = true → d.dev = true) (destroys : ℕ) :
    Kept { d with toHidGnubbyDevice := e, destroys := destroys } := by
  have hsending : sending { d with toHidGnubbyDevice := e, destroys := destroys } = d.sending := by
    simp only [sending, hsent]
  refine ⟨?_, ?_, ?_, ?_, ?_, ?_, fun halive => ?_, ?_⟩
  · simpa only [htxqueue] using h.full
  · simpa only [hsent] using h.sent
  · simpa only [hsent] using h.completed
  · simpa only [hsending] using h.one
  · simpa only [hsent, htxqueue] using h.queue
  · simpa only [hsending, htxqueue] using h.busy
  · simpa only [hsending, htxqueue] using h.waits (hdev halive)
  · simpa only [hsending, htxqueue] using h.stuck

/-- A live device queues the frames of a command. -/
theorem Kept.queues (h : d.Kept) {cid : Int32} {e : HidGnubbyDevice} {frames : List (List UInt8)}
    (hdev : d.dev = true) (hqueues : Queues cid d.toHidGnubbyDevice e frames) :
    Kept { d with toHidGnubbyDevice := e, queued := d.queued ++ [frames] } := by
  have hflatten : (d.queued ++ [frames]).flatten = d.queued.flatten ++ frames := by simp
  have hfull : ∀ f ∈ e.txqueue, f.length = 64 := by
    intro f hf
    rw [hqueues.txqueue] at hf
    exact (List.mem_append.1 hf).elim (h.full f) (hqueues.full f)
  by_cases hempty : d.txqueue = []
  · -- the pump does not run, and is started
    have hfailed : d.failed = false := by
      by_contra hfailed
      exact (h.stuck (by simpa using hfailed)).2 hempty
    have hidle : d.sending + d.pumps = 0 := by
      have hone := h.one
      have hbusy : ¬ d.sending + d.pumps = 1 := fun hone => h.busy hone hempty
      omega
    have hcompleted : d.completed = d.sent.length := by
      have hle := h.completed
      unfold sending at hidle
      omega
    have hqueue := h.queue hfailed
    rw [hempty, hcompleted, List.take_length, List.append_nil] at hqueue
    have hsent : e.sent = d.sent ++ frames.take 1 := by rw [hqueues.sent, if_pos hempty]
    have htxqueue : e.txqueue = frames := by rw [hqueues.txqueue, hempty, List.nil_append]
    have hsending : sending { d with toHidGnubbyDevice := e, queued := d.queued ++ [frames] } =
        (frames.take 1).length := by
      simp only [sending, hsent, List.length_append]
      omega
    have hpumps : d.pumps = 0 := by omega
    refine ⟨hfull, ?_, ?_, ?_, fun _ => ?_, fun hrun => ?_, fun _ _ hmore => ?_, fun hno => ?_⟩
    · rw [hflatten, hqueue]
      dsimp only
      rw [hsent]
      exact (List.prefix_append_right_inj _).2 (List.take_prefix _ _)
    · dsimp only
      rw [hsent, List.length_append]
      omega
    · rw [hsending, List.length_take]
      dsimp only
      omega
    · rw [hflatten, hqueue]
      dsimp only
      rw [hsent, htxqueue, hcompleted, List.take_left]
    · rw [hsending] at hrun
      dsimp only at hrun ⊢
      rw [htxqueue]
      rintro rfl
      simp [hpumps] at hrun
    · rw [hsending]
      dsimp only at hmore ⊢
      rw [htxqueue] at hmore
      have hpos := List.length_pos_iff.2 hmore
      rw [List.length_take]
      omega
    · exact absurd (hfailed.symm.trans hno) (by simp)
  · have hsent : e.sent = d.sent := by rw [hqueues.sent, if_neg hempty]
    have hsending : sending { d with toHidGnubbyDevice := e, queued := d.queued ++ [frames] } =
        d.sending := by
      simp only [sending, hsent]
    have hmore : e.txqueue ≠ [] := by
      rw [hqueues.txqueue]
      simp [hempty]
    refine ⟨hfull, ?_, ?_, ?_, fun hfailed => ?_, fun _ => hmore, fun _ hfailed _ => ?_,
      fun hfailed => ?_⟩
    · rw [hflatten]
      dsimp only
      rw [hsent]
      exact h.sent.trans (List.prefix_append _ _)
    · simpa only [hsent] using h.completed
    · simpa only [hsending] using h.one
    · rw [hflatten, h.queue hfailed]
      dsimp only
      rw [hsent, hqueues.txqueue, List.append_assoc]
    · rw [hsending]
      exact h.waits hdev hfailed hempty
    · rw [hsending]
      exact ⟨(h.stuck hfailed).1, hmore⟩

theorem Kept.queueCommand (h : d.Kept) (cid : Int32) (cmd : UInt8) (data : List UInt8) :
    (d.queueCommand cid cmd data).Kept := by
  have hsame : ∀ {e : HidGnubbyDevice}, d.toHidGnubbyDevice.queueCommand cid cmd data = e →
      e.txqueue = d.txqueue → e.sent = d.sent → e.dev = d.dev → (d.queueCommand cid cmd data).Kept := by
    rintro e rfl htxqueue hsent hdev
    have hqueued : d.queuedFrames cid cmd data = [] := by
      rw [queuedFrames, htxqueue, List.drop_length]
    have hkept := h.of_same htxqueue hsent (fun halive => hdev ▸ halive) d.destroys
    unfold WritePump.queueCommand
    rw [hqueued]
    exact ⟨hkept.full, by simpa using hkept.sent, hkept.completed, hkept.one,
      by simpa using hkept.queue, hkept.busy, hkept.waits, hkept.stuck⟩
  cases hdev : d.dev with
  | false => exact hsame (queueCommand_dead hdev cid cmd data) rfl rfl rfl
  | true =>
      by_cases hrefused : d.Refuses cid cmd
      · exact hsame (queueCommand_refused data hdev hrefused) rfl rfl rfl
      · obtain ⟨frames, hqueues⟩ := queueCommand_queues data hdev hrefused
        have hqueued : d.queuedFrames cid cmd data = frames := by
          rw [queuedFrames, hqueues.txqueue, List.drop_left]
        unfold WritePump.queueCommand
        rw [hqueued]
        exact h.queues hdev hqueues

/-- A send that is outstanding is over. -/
theorem Kept.transferComplete (h : d.Kept) (hsends : d.completed < d.sent.length) (lastError : Bool) :
    ({ d with completed := d.completed + 1, failed := d.failed || lastError }.transferComplete
      lastError).Kept := by
  have hone := h.one
  have hsending : d.sent.length = d.completed + 1 ∧ d.pumps = 0 := by
    unfold sending at hone
    omega
  have hbusy : d.txqueue ≠ [] := h.busy (by unfold sending; omega)
  have hfailed : d.failed = false := by
    by_contra hfailed
    have hstuck := (h.stuck (by simpa using hfailed)).1
    unfold sending at hstuck
    omega
  have hqueue := h.queue hfailed
  have hidle : d.sent.length - (d.completed + 1) + d.pumps = 0 := by omega
  unfold WritePump.transferComplete
  cases lastError with
  | true =>
      -- the frame stays where it is
      refine ⟨h.full, h.sent, hsends, hidle.trans_le (Nat.zero_le 1), fun hno => ?_,
        fun _ => hbusy, fun _ hno => ?_, fun _ => ⟨hidle, hbusy⟩⟩
      · simp at hno
      · simp at hno
  | false =>
      -- the frame that was sent is dropped
      obtain ⟨f, rest, hrest⟩ := List.exists_cons_of_ne_nil hbusy
      have hlength : (d.sent.take d.completed).length = d.completed := by
        rw [List.length_take]
        omega
      have hsent : d.sent = d.sent.take d.completed ++ [f] := by
        calc d.sent = d.queued.flatten.take (d.completed + 1) := by
              rw [← hsending.1]
              exact List.prefix_iff_eq_take.1 h.sent
          _ = d.sent.take d.completed ++ [f] := by
              rw [hqueue, hrest, List.take_append, hlength, Nat.add_sub_cancel_left, List.take_take]
              simp
      have hnext : d.queued.flatten = d.sent.take (d.completed + 1) ++ rest := by
        rw [← hsending.1, List.take_length, hqueue, hrest]
        conv => rhs; rw [hsent]
        simp
      have hfull : ∀ f ∈ rest, f.length = 64 := fun f hf =>
        h.full f (hrest ▸ List.mem_cons_of_mem _ hf)
      simp only [Bool.false_eq_true, if_false, hrest, List.tail_cons, Bool.or_false]
      by_cases hmore : rest.length ≠ 0
      · have hne : rest ≠ [] := fun hnil => hmore (by rw [hnil]; rfl)
        have hrun : d.sent.length - (d.completed + 1) + (d.pumps + 1) = 1 := by omega
        rw [if_pos hmore]
        exact ⟨hfull, h.sent, hsends, hrun.le, fun _ => hnext, fun _ => hne, fun _ _ _ => hrun,
          fun hno => absurd (hfailed.symm.trans hno) (by simp)⟩
      · have hnil : rest = [] := List.length_eq_zero_iff.1 (not_not.1 hmore)
        rw [if_neg hmore]
        refine ⟨hfull, h.sent, hsends, hidle.trans_le (Nat.zero_le 1), fun _ => hnext, fun hrun => ?_,
          fun _ _ hne => absurd hnil hne, fun hno => absurd (hfailed.symm.trans hno) (by simp)⟩
        exact absurd (hidle.symm.trans hrun) (by decide)

/-- A timer sends the next frame. -/
theorem Kept.writePump (h : d.Kept) (hpumps : d.pumps ≠ 0) :
    Kept { d with toHidGnubbyDevice := d.toHidGnubbyDevice.writePump_, pumps := d.pumps - 1 } := by
  have hone := h.one
  have hcompleted := h.completed
  have hidle : d.sent.length = d.completed ∧ d.pumps - 1 = 0 := by
    unfold sending at hone
    omega
  have hbusy : d.txqueue ≠ [] := h.busy (by omega)
  have hfailed : d.failed = false := by
    by_contra hfailed
    have hstuck := (h.stuck (by simpa using hfailed)).1
    omega
  have hqueue := h.queue hfailed
  rw [← hidle.1, List.take_length] at hqueue
  unfold HidGnubbyDevice.writePump_
  cases hdev : d.dev with
  | false =>
      have hzero : d.sent.length - d.completed + (d.pumps - 1) = 0 := by omega
      refine ⟨h.full, h.sent, h.completed, hzero.trans_le (Nat.zero_le 1), fun _ => h.queue hfailed,
        fun _ => hbusy, fun halive => ?_, fun hno => absurd (hfailed.symm.trans hno) (by simp)⟩
      exact absurd (hdev.symm.trans halive) (by simp)
  | true =>
      obtain ⟨f, rest, hrest⟩ := List.exists_cons_of_ne_nil hbusy
      have hfull : f.length = 64 := h.full f (hrest ▸ List.mem_cons_self)
      have hreport : fill 0 64 (f.take 64) = f := by
        rw [List.take_of_length_le (Nat.le_of_eq hfull), fill_of_length_eq hfull]
      have hrun : (d.sent ++ [f]).length - d.completed + (d.pumps - 1) = 1 := by
        rw [List.length_append, List.length_singleton]
        omega
      simp only [if_true, hrest, hreport]
      refine ⟨hrest ▸ h.full, ?_, ?_, hrun.le, fun _ => ?_, fun _ => by simp, fun _ _ _ => hrun,
        fun hno => absurd (hfailed.symm.trans hno) (by simp)⟩
      · dsimp only
        rw [hqueue, hrest]
        exact ⟨rest, by simp⟩
      · dsimp only
        rw [List.length_append]
        omega
      · dsimp only
        rw [hqueue, hrest, ← hidle.1, List.take_left]

/-- **What a step keeps.** -/
theorem Kept.next (h : d.Kept) (e : WriteEvent) : (writeMachine.next d e).Kept := by
  cases e with
  | queueCommand cid cmd data => exact h.queueCommand cid cmd data
  | transferComplete lastError =>
      simp only [Machine.next, writeMachine]
      split
      · rename_i hsends
        exact h.transferComplete hsends lastError
      · exact h
  | writePump =>
      simp only [Machine.next, writeMachine]
      split
      · exact h
      · rename_i hpumps
        exact h.writePump hpumps
  | destroyTimer =>
      simp only [Machine.next, writeMachine]
      split
      · exact h
      · exact h.of_same (destroy_txqueue _) (destroy_sent _) destroy_dev _
  | lockExpired tid =>
      exact h.of_same (e := { d.toHidGnubbyDevice with toChannelLock := d.toChannelLock.lockExpired tid })
        rfl rfl id d.destroys
  | destroy => exact h.of_same (destroy_txqueue _) (destroy_sent _) destroy_dev d.destroys

theorem kept_new : new.Kept :=
  ⟨nofun, List.prefix_refl _, Nat.le_refl _, Nat.zero_le _, fun _ => rfl, nofun, fun _ _ => absurd rfl,
    nofun⟩

end WritePump

/-- **Frames are sent once each and in order**, and the pump runs exactly while frames are queued: at
every point of every run. -/
theorem sends_in_order (es : List WriteEvent) :
    writeMachine.Always WritePump.SendsInOrder WritePump.new es :=
  fun pre _ => WritePump.Kept.sendsInOrder (Machine.exec_invariant' (M := writeMachine)
    (I := WritePump.Kept) (fun _ e h => h.next e) pre WritePump.kept_new)

/-! ### The frames of the commands -/

/-- What an event queues: the frames of its command, unless the device is gone or the lock refuses it. -/
def WriteEvent.queues (d : WritePump) : WriteEvent → List (List (List UInt8))
  | .queueCommand cid cmd data =>
      if d.dev = true ∧ ¬ d.Refuses cid cmd then [Hid.frames 0 cid cmd data] else [[]]
  | _ => []

/-- What the events of a run queue. -/
def framesQueued (d : WritePump) : List WriteEvent → List (List (List UInt8))
  | [] => []
  | e :: es => e.queues d ++ framesQueued (writeMachine.next d e) es

theorem queued_next (d : WritePump) (e : WriteEvent) :
    (writeMachine.next d e).queued = d.queued ++ e.queues d := by
  cases e with
  | queueCommand cid cmd data =>
      have hqueued : (writeMachine.next d (.queueCommand cid cmd data)).queued =
          d.queued ++ [d.queuedFrames cid cmd data] := rfl
      rw [hqueued, WriteEvent.queues]
      congr 1
      split
      case isTrue h => rw [queuedFrames_eq cmd data h.1 h.2]
      case isFalse h =>
        have hsame : (d.toHidGnubbyDevice.queueCommand cid cmd data).txqueue = d.txqueue := by
          cases hdev : d.dev with
          | false => rw [queueCommand_dead hdev]
          | true =>
              have hrefused : d.Refuses cid cmd := by
                by_contra hrefused
                exact h ⟨hdev, hrefused⟩
              rw [queueCommand_refused data hdev hrefused]
              rfl
        rw [queuedFrames, hsame, List.drop_length]
  | transferComplete lastError =>
      simp only [Machine.next, writeMachine, WriteEvent.queues, List.append_nil]
      split
      · unfold WritePump.transferComplete
        split
        · rfl
        · dsimp only
          split <;> rfl
      · rfl
  | writePump | destroyTimer =>
      simp only [Machine.next, writeMachine, WriteEvent.queues, List.append_nil]
      split <;> rfl
  | lockExpired tid => exact (List.append_nil _).symm
  | destroy => exact (List.append_nil _).symm

/-- **What has been queued are the frames of the commands of the run**, and what is sent is a prefix of
them. -/
theorem sent_prefix_framesQueued (es : List WriteEvent) :
    (writeMachine.exec WritePump.new es).queued = framesQueued .new es ∧
      (writeMachine.exec WritePump.new es).sent <+: (framesQueued .new es).flatten := by
  have hqueued : ∀ (es : List WriteEvent) (d : WritePump),
      (writeMachine.exec d es).queued = d.queued ++ framesQueued d es := by
    intro es
    induction es with
    | nil => exact fun d => (List.append_nil _).symm
    | cons e es ih =>
        intro d
        rw [Machine.exec_cons, ih, queued_next, List.append_assoc]
        rfl
  have hnew : (writeMachine.exec WritePump.new es).queued = framesQueued .new es := hqueued es .new
  have hkept : (writeMachine.exec WritePump.new es).Kept :=
    Machine.exec_invariant' (fun _ e h => h.next e) es WritePump.kept_new
  exact ⟨hnew, hnew ▸ hkept.sent⟩

end HidGnubbyDevice

end U2F
