/-
**HID framing carries messages intact.**

The frames that a device queues for a command are read back by a client with an outstanding read,
whatever the frames of other channels and the order in which callbacks are called.  The invariant
says how many of the frames have been read, and whose turn it is: either no frame is there and the
read waits for one, or frames are there and the read is scheduled.

Main definitions:

* `Gnubby.Waiting` — the read has got some of the frames;
* `Gnubby.Finished` — the read has got all of them;
* `Gnubby.ownFrames` — the frames of a channel among the events.

Main results:

* `Gnubby.copyPayload_fill` — what a frame adds to the message;
* `Gnubby.waiting_call` — a frame is read;
* `Gnubby.reads_queued_frames` — **the caller gets the message, once**.
-/

import U2F.Extension.Gnubby

set_option relaxedAutoImplicit false
set_option autoImplicit false

namespace U2F.Gnubby

open Hid GnubbyDevice GnubbyClient Fragments

/-! ### The parts of a frame -/

/-- What a frame adds to the message. -/
theorem copyPayload_fill (n : ℕ) (bytes : List UInt8) :
    ∀ (acc : List UInt8) (m : ℕ), bytes.length = min n m →
      copyPayload (acc ++ List.replicate m 0) acc.length (fill 0 n bytes) =
        (fill 0 (acc.length + m) (acc ++ bytes), (acc ++ bytes).length) := by
  induction bytes generalizing n with
  | nil =>
      intro acc m hlength
      have hsize : (acc ++ List.replicate m 0).length = acc.length + m := by simp
      have hfill : fill 0 (acc.length + m) (acc ++ []) = acc ++ List.replicate m 0 := by
        simp [fill]
      rw [hfill, List.append_nil]
      rcases n with _ | n
      · rfl
      · -- the message is complete, and the rest of the frame is not looked at
        obtain rfl : m = 0 := by
          rw [List.length_nil] at hlength
          omega
        rw [show fill (0 : UInt8) (n + 1) [] = 0 :: List.replicate n 0 from rfl, copyPayload,
          if_neg (by omega)]
  | cons b bytes ih =>
      intro acc m hlength
      rw [List.length_cons] at hlength
      obtain ⟨n, rfl⟩ : ∃ n', n = n' + 1 := ⟨n - 1, by omega⟩
      obtain ⟨m, rfl⟩ : ∃ m', m = m' + 1 := ⟨m - 1, by omega⟩
      have hset : (acc ++ List.replicate (m + 1) 0).set acc.length b =
          (acc ++ [b]) ++ List.replicate m 0 := by
        rw [List.set_append_right _ _ (Nat.le_refl _), Nat.sub_self, List.replicate_succ,
          List.set_cons_zero, List.append_assoc]
        rfl
      have hfill : fill 0 (n + 1) (b :: bytes) = b :: fill 0 n bytes := by
        simp [fill]
      have hcopy := ih n (acc ++ [b]) m (by omega)
      rw [List.length_append, List.length_singleton] at hcopy
      rw [hfill, copyPayload, if_pos (by simp), hset, hcopy]
      simp [Nat.add_assoc, Nat.add_comm 1]

theorem initFrame_eq (cid : Int32) (cmd : UInt8) (payload : List UInt8) :
    initFrame 0 cid cmd payload = putInt cid ++ cmd :: UInt8.ofNat (payload.length / 256) ::
      UInt8.ofNat payload.length :: fill 0 INIT_DATA (receivedPayload payload 0) := rfl

theorem initFrame_cmd (cid : Int32) (cmd : UInt8) (payload : List UInt8) :
    (initFrame 0 cid cmd payload).getD 4 0 = cmd := rfl

theorem initFrame_drop (cid : Int32) (cmd : UInt8) (payload : List UInt8) :
    (initFrame 0 cid cmd payload).drop 7 = fill 0 INIT_DATA (receivedPayload payload 0) := rfl

theorem totalLen_initFrame (cid : Int32) (cmd : UInt8) {payload : List UInt8}
    (h : payload.length < 65536) : totalLen (initFrame 0 cid cmd payload) = payload.length := by
  rw [totalLen, if_pos (by rw [length_initFrame]; decide), initFrame_eq]
  simp only [putInt, List.cons_append, List.nil_append, List.getD_cons_succ, List.getD_cons_zero,
    UInt8.toNat_ofNat', Nat.shiftLeft_eq]
  omega

theorem contFrame_cmd (cid : Int32) (payload : List UInt8) (k : ℕ) :
    (contFrame 0 cid payload k).getD 4 0 = UInt8.ofNat k := rfl

theorem contFrame_drop (cid : Int32) (payload : List UInt8) (k : ℕ) :
    (contFrame 0 cid payload k).drop 5 =
      fill 0 CONT_DATA (fragment INIT_DATA CONT_DATA payload k) := rfl

/-- A sequence number has no high bit. -/
theorem seq_bits {k : ℕ} (h : k < 128) :
    UInt8.ofNat k &&& 0x80 = 0 ∧ (UInt8.ofNat k &&& 0x7f).toNat = k := by
  revert k
  decide

/-- The frame with number `k`. -/
theorem drop_frames (cid : Int32) (cmd : UInt8) (payload : List UInt8) {k : ℕ}
    (h : k < contCount payload) :
    (frames 0 cid cmd payload).drop (k + 1) =
      contFrame 0 cid payload k :: (frames 0 cid cmd payload).drop (k + 2) := by
  have hlength : k < ((List.range (contCount payload)).map (contFrame 0 cid payload)).length := by
    rw [List.length_map, List.length_range]
    exact h
  rw [frames, List.drop_succ_cons, List.drop_succ_cons, List.drop_eq_getElem_cons hlength,
    List.getElem_map, List.getElem_range]

/-! ### The read, frame by frame -/

section

variable (cid : Int32) (cmd : UInt8) (payload : List UInt8)

/-- The callback that reads the frame with number `k`. -/
def reader : ℕ → Callback
  | 0 => .init_frame
  | _ + 1 => .cont_frame

/-- The message after `k` frames. -/
def Progress (r : Reading) : ℕ → Prop
  | 0 => r.seqno = 0 ∧ r.count = 0
  | k + 1 => r.seqno = k ∧ r.msg = fill 0 payload.length (receivedPayload payload k) ∧
      r.count = (receivedPayload payload k).length

/-- The read has got `k` frames of the message.  The next ones are in the queue or still to come. -/
structure Reads (k : ℕ) (todo : List (List UInt8)) (r : Reading) : Prop where
  closed : r.closed = false
  channel : r.cid = cid
  command : r.cmd = cmd
  callback : r.callback = true
  tid : r.tid = true
  le : k ≤ contCount payload
  frames : r.rxframes ++ todo = (frames 0 cid cmd payload).drop k
  progress : Progress payload r k
  called : r.called = []

/-- Either a callback waits for a frame, or frames are there and it is scheduled. -/
def Turn (cb : Callback) (r : Reading) : Prop :=
  (r.rxframes = [] ∧ r.rxcb = some cb ∧ r.scheduled = []) ∨
    (r.rxframes ≠ [] ∧ r.rxcb = none ∧ r.scheduled = [cb])

/-- **The read waits for the frame with number `k`.** -/
structure Waiting (k : ℕ) (todo : List (List UInt8)) (r : Reading) : Prop where
  reads : Reads cid cmd payload k todo r
  turn : Turn (reader k) r

/-- **The read has got the message**, and calls back once. -/
structure Finished (todo : List (List UInt8)) (r : Reading) : Prop where
  complete : todo = []
  channel : r.cid = cid
  rxcb : r.rxcb = none
  calls : (r.scheduled = [.caller (-(OK : ℤ)) (some payload)] ∧ r.called = []) ∨
    (r.scheduled = [] ∧ r.called = [(-(OK : ℤ), some payload)])

end

section

variable {cid : Int32} {cmd : UInt8} {payload : List UInt8} {k : ℕ} {todo : List (List UInt8)}
  {r : Reading}

theorem turn_notifyFrame (cb : Callback) (hrxcb : r.rxcb = none) (hscheduled : r.scheduled = []) :
    Turn cb (r.notifyFrame_ cb) := by
  unfold Reading.notifyFrame_ GnubbyClient.notifyFrame_ GnubbyClient.schedule
  by_cases h : r.rxframes = []
  · rw [if_neg (by simp [h])]
    exact .inl ⟨h, rfl, hscheduled⟩
  · rw [if_pos (by simpa using h)]
    exact .inr ⟨h, hrxcb, by simp [hscheduled]⟩

theorem Reads.notifyFrame (h : Reads cid cmd payload k todo r) (cb : Callback) :
    Reads cid cmd payload k todo (r.notifyFrame_ cb) := by
  obtain ⟨hclosed, hcid, hcmd, hcallback, htid, hle, hframes, hprogress, hcalled⟩ := h
  unfold Reading.notifyFrame_ GnubbyClient.notifyFrame_
  split
  all_goals
    refine ⟨hclosed, hcid, hcmd, hcallback, htid, hle, hframes, ?_, hcalled⟩
    cases k <;> exact hprogress

/-- When the message is complete, the caller's callback is scheduled. -/
theorem finished_schedule_cb (hcid : r.cid = cid) (hcallback : r.callback = true)
    (hrxcb : r.rxcb = none) (hscheduled : r.scheduled = []) (hcalled : r.called = []) :
    Finished cid payload [] (r.schedule_cb (-(OK : ℤ)) (some payload)) := by
  unfold Reading.schedule_cb
  dsimp only
  rw [if_pos hcallback, hscheduled]
  split
  · -- the client closes when it is idle
    unfold Reading.idleClose_ GnubbyClient.idleClose_ GnubbyClient.close
    dsimp only
    split
    · exact ⟨rfl, hcid, rfl, .inl ⟨rfl, hcalled⟩⟩
    · exact ⟨rfl, hcid, hrxcb, .inl ⟨rfl, hcalled⟩⟩
  · exact ⟨rfl, hcid, hrxcb, .inl ⟨rfl, hcalled⟩⟩

/-- A frame is copied: more frames are needed, or the message is complete. -/
theorem copy_spec {bytes : List UInt8}
    (hcopy : copyPayload r.msg r.count bytes =
      (fill 0 payload.length (receivedPayload payload k), (receivedPayload payload k).length)) :
    r.copy bytes =
      if k < contCount payload then
        Reading.notifyFrame_ { r with
          msg := fill 0 payload.length (receivedPayload payload k)
          count := (receivedPayload payload k).length } .cont_frame
      else Reading.schedule_cb { r with msg := payload, count := payload.length }
        (-(OK : ℤ)) (some payload) := by
  have hreceived : (receivedPayload payload k).length ≤ payload.length := by
    rw [length_received]
    omega
  unfold Reading.copy
  rw [hcopy]
  dsimp only
  rw [length_fill hreceived]
  by_cases hk : k < contCount payload
  · have hlt := lt_contCount_iff.1 hk
    rw [if_pos hk, if_neg]
    rw [length_received]
    omega
  · have hall : receivedPayload payload k = payload :=
      received_of_count_le payload (by decide) (Nat.le_of_not_lt hk)
    rw [if_neg hk, hall, if_pos rfl, fill_of_length_eq rfl]

theorem length_frames_eq : (frames 0 cid cmd payload).length = contCount payload + 1 := by
  rw [frames, List.length_cons, List.length_map, List.length_range]

/-- After a frame has been copied, the read waits for the next one, or has got the message. -/
theorem waiting_or_finished_copy {bytes : List UInt8}
    (hcopy : copyPayload r.msg r.count bytes =
      (fill 0 payload.length (receivedPayload payload k), (receivedPayload payload k).length))
    (hclosed : r.closed = false) (hcid : r.cid = cid) (hcmd : r.cmd = cmd)
    (hcallback : r.callback = true) (htid : r.tid = true)
    (hframes : r.rxframes ++ todo = (frames 0 cid cmd payload).drop (k + 1))
    (hseqno : r.seqno = k) (hcalled : r.called = []) (hrxcb : r.rxcb = none)
    (hscheduled : r.scheduled = []) :
    Waiting cid cmd payload (k + 1) todo (r.copy bytes) ∨
      Finished cid payload todo (r.copy bytes) := by
  rw [copy_spec hcopy]
  split
  · next hk =>
    refine .inl ⟨Reads.notifyFrame ?_ _, turn_notifyFrame _ hrxcb hscheduled⟩
    exact ⟨hclosed, hcid, hcmd, hcallback, htid, hk, hframes, ⟨hseqno, rfl, rfl⟩, hcalled⟩
  · next hk =>
    -- there are no more frames
    have hnil : r.rxframes ++ todo = [] := by
      rw [hframes]
      exact List.drop_of_length_le (by rw [length_frames_eq]; omega)
    obtain rfl : todo = [] := (List.append_eq_nil_iff.1 hnil).2
    exact .inr (finished_schedule_cb hcid hcallback hrxcb hscheduled hcalled)

/-- The first frame copied into an empty message. -/
theorem copyPayload_initFrame (payload : List UInt8) :
    copyPayload (List.replicate payload.length 0) 0 (fill 0 INIT_DATA (receivedPayload payload 0)) =
      (fill 0 payload.length (receivedPayload payload 0), (receivedPayload payload 0).length) := by
  have hlength : (receivedPayload payload 0).length = min INIT_DATA payload.length :=
    length_received payload 0
  have hcopy := copyPayload_fill INIT_DATA (receivedPayload payload 0) [] payload.length hlength
  rw [List.nil_append, List.nil_append, List.length_nil, Nat.zero_add] at hcopy
  exact hcopy

/-- The next frame copied behind what has been received. -/
theorem copyPayload_contFrame (hk : k < contCount payload) :
    copyPayload (fill 0 payload.length (receivedPayload payload k))
        (receivedPayload payload k).length
        (fill 0 CONT_DATA (fragment INIT_DATA CONT_DATA payload k)) =
      (fill 0 payload.length (receivedPayload payload (k + 1)),
        (receivedPayload payload (k + 1)).length) := by
  have hlt : INIT_DATA + CONT_DATA * k < payload.length := lt_contCount_iff.1 hk
  have hlength := length_fragment (a := INIT_DATA) (b := CONT_DATA) payload k
  have hreceived : (receivedPayload payload k).length =
      min (INIT_DATA + CONT_DATA * k) payload.length := length_received payload k
  have hsize : (receivedPayload payload k).length = INIT_DATA + CONT_DATA * k := by omega
  have hnext : receivedPayload payload (k + 1) =
      receivedPayload payload k ++ fragment INIT_DATA CONT_DATA payload k :=
    received_succ payload k
  have hcopy := copyPayload_fill CONT_DATA (fragment INIT_DATA CONT_DATA payload k)
    (receivedPayload payload k) (payload.length - (INIT_DATA + CONT_DATA * k)) hlength
  rw [hsize, Nat.add_sub_cancel' hlt.le] at hcopy
  rw [hnext, fill, hsize]
  exact hcopy

/-- The first frame announces the length of the message, and is copied. -/
theorem call_init_frame {rest : List (List UInt8)} (hcmd : cmd &&& 0x80 ≠ 0)
    (herror : cmd ≠ CMD_ERROR) (hpayload : payload.length < 65536) (hcmd' : r.cmd = cmd)
    (hcallback : r.callback = true) (htid : r.tid = true)
    (hrest : r.rxframes = initFrame 0 cid cmd payload :: rest) :
    r.call .init_frame = Reading.copy { r with
      rxframes := rest, msg := List.replicate payload.length 0 }
      (fill 0 INIT_DATA (receivedPayload payload 0)) := by
  have htotal := totalLen_initFrame cid cmd hpayload
  simp only [Reading.call, Reading.init_frame, hcallback, htid, hrest, initFrame_cmd,
    initFrame_drop, htotal, herror, hcmd, hcmd', Bool.not_true, Bool.or_false, Bool.false_eq_true,
    if_false, false_and, ne_eq, not_true_eq_false]

/-- A frame with the sequence number that is expected is copied. -/
theorem call_cont_frame {rest : List (List UInt8)} (hk : k < 128) (hseqno : r.seqno = k)
    (hcallback : r.callback = true) (htid : r.tid = true)
    (hrest : r.rxframes = contFrame 0 cid payload k :: rest) :
    r.call .cont_frame = Reading.copy { r with rxframes := rest, seqno := k + 1 }
      (fill 0 CONT_DATA (fragment INIT_DATA CONT_DATA payload k)) := by
  obtain ⟨htype, hseq⟩ := seq_bits hk
  have hnotError : UInt8.ofNat k ≠ CMD_ERROR := by
    intro heq
    rw [heq] at htype
    exact absurd htype (by decide)
  simp only [Reading.call, Reading.cont_frame, hcallback, htid, hrest, contFrame_cmd,
    contFrame_drop, hnotError, htype, hseq, hseqno, Bool.not_true, Bool.or_false,
    Bool.false_eq_true, if_false, false_and, ne_eq, not_true_eq_false]

/-- **A frame is read.** -/
theorem reads_call (hcmd : cmd &&& 0x80 ≠ 0) (herror : cmd ≠ CMD_ERROR)
    (hpayload : payload.length ≤ 7609) (h : Reads cid cmd payload k todo r)
    (hrxframes : r.rxframes ≠ []) (hrxcb : r.rxcb = none) (hscheduled : r.scheduled = []) :
    Waiting cid cmd payload (k + 1) todo (r.call (reader k)) ∨
      Finished cid payload todo (r.call (reader k)) := by
  obtain ⟨hclosed, hcid, hcmd', hcallback, htid, hle, hframes, hprogress, hcalled⟩ := h
  obtain ⟨f, rest, hrest⟩ := List.exists_cons_of_ne_nil hrxframes
  rw [hrest] at hframes
  cases k with
  | zero =>
      obtain ⟨hseqno, hcount⟩ := hprogress
      have htail : rest ++ todo = (frames 0 cid cmd payload).drop (0 + 1) :=
        (List.cons.inj hframes).2
      obtain rfl : f = initFrame 0 cid cmd payload := (List.cons.inj hframes).1
      rw [reader, call_init_frame hcmd herror (by omega) hcmd' hcallback htid hrest]
      refine waiting_or_finished_copy ?_ hclosed hcid hcmd' hcallback htid htail hseqno hcalled
        hrxcb hscheduled
      dsimp only
      rw [hcount]
      exact copyPayload_initFrame payload
  | succ k =>
      obtain ⟨hseqno, hmsg, hcount⟩ := hprogress
      rw [drop_frames cid cmd payload hle] at hframes
      have htail : rest ++ todo = (frames 0 cid cmd payload).drop (k + 1 + 1) :=
        (List.cons.inj hframes).2
      obtain rfl : f = contFrame 0 cid payload k := (List.cons.inj hframes).1
      -- a message of at most 7609 bytes has a sequence number for every frame
      have hk : k < 128 := Nat.lt_of_lt_of_le hle (contCount_le hpayload)
      rw [reader, call_cont_frame hk hseqno hcallback htid hrest]
      refine waiting_or_finished_copy ?_ hclosed hcid hcmd' hcallback htid htail rfl hcalled
        hrxcb hscheduled
      dsimp only
      rw [hcount, hmsg]
      exact copyPayload_contFrame hle

/-! ### Events -/

/-- The frames of a channel among the events. -/
def ownFrames (cid : Int32) (events : List Event) : List (List UInt8) :=
  events.filterMap fun
    | .receivedFrame f => if channel f = cid then some f else none
    | .timer _ => none

/-- A frame of another channel is ignored. -/
theorem receivedFrame_other {f : List UInt8} (hcid : r.cid = cid) (hother : channel f ≠ cid)
    (hzero : channel f ≠ NOTIFICATION_CID) : r.receivedFrame f = r := by
  have hcheck : r.checkCID_ f = false := by
    simp [checkCID_, hcid, hother, hzero]
  unfold Reading.receivedFrame GnubbyClient.receivedFrame
  rw [hcheck]
  split <;> rfl

theorem Waiting.receivedFrame {f : List UInt8} (hf : channel f = cid)
    (h : Waiting cid cmd payload k (f :: todo) r) :
    Waiting cid cmd payload k todo (r.receivedFrame f) := by
  obtain ⟨⟨hclosed, hcid, hcmd, hcallback, htid, hle, hframes, hprogress, hcalled⟩, hturn⟩ := h
  have hcheck : r.checkCID_ f = true := by
    simp [checkCID_, hcid, hf]
  have hreceived : r.receivedFrame f = { r with
      rxframes := r.rxframes ++ [f], rxcb := none,
      scheduled := r.scheduled ++ r.rxcb.toList } := by
    simp [Reading.receivedFrame, GnubbyClient.receivedFrame, hclosed, hcheck]
  rw [hreceived]
  refine ⟨⟨hclosed, hcid, hcmd, hcallback, htid, hle, ?_, ?_, hcalled⟩, .inr ⟨by simp, rfl, ?_⟩⟩
  · rw [← hframes]
    simp
  · cases k <;> exact hprogress
  · -- the callback that has waited is scheduled, unless it is already
    rcases hturn with ⟨-, hrxcb, hscheduled⟩ | ⟨-, hrxcb, hscheduled⟩ <;> simp [hrxcb, hscheduled]

/-- What is called from a timer, if anything is. -/
theorem next_timer (i : ℕ) :
    machine.next r (.timer i) = r ∨ ∃ cb, r.scheduled[i]? = some cb ∧
      machine.next r (.timer i) =
        Reading.call { r with scheduled := r.scheduled.eraseIdx i } cb := by
  rcases h : r.scheduled[i]? with _ | cb
  · exact .inl (by simp only [machine, Machine.next, h])
  · exact .inr ⟨cb, rfl, by simp only [machine, Machine.next, h]⟩

/-- A list of one element at a position. -/
theorem getElem?_singleton_eq_some {α : Type} {x y : α} {i : ℕ} (h : [x][i]? = some y) :
    y = x ∧ i = 0 := by
  rcases i with _ | i
  · exact ⟨(Option.some.inj h).symm, rfl⟩
  · nomatch h

/-- The callback that is scheduled reads the next frame. -/
theorem Waiting.read (hcmd : cmd &&& 0x80 ≠ 0) (herror : cmd ≠ CMD_ERROR)
    (hpayload : payload.length ≤ 7609) (h : Waiting cid cmd payload k todo r)
    (hscheduled : r.scheduled = [reader k]) :
    Waiting cid cmd payload (k + 1) todo (Reading.call { r with scheduled := [] } (reader k)) ∨
      Finished cid payload todo (Reading.call { r with scheduled := [] } (reader k)) := by
  obtain ⟨hreads, ⟨-, -, hnil⟩ | ⟨hrxframes, hrxcb, -⟩⟩ := h
  · rw [hscheduled] at hnil
    nomatch hnil
  · obtain ⟨hclosed, hcid, hcmd', hcallback, htid, hle, hframes, hprogress, hcalled⟩ := hreads
    refine reads_call hcmd herror hpayload ⟨hclosed, hcid, hcmd', hcallback, htid, hle, hframes, ?_,
      hcalled⟩ hrxframes hrxcb rfl
    cases k <;> exact hprogress

theorem Waiting.timer (hcmd : cmd &&& 0x80 ≠ 0) (herror : cmd ≠ CMD_ERROR)
    (hpayload : payload.length ≤ 7609) (h : Waiting cid cmd payload k todo r) (i : ℕ) :
    (∃ k', Waiting cid cmd payload k' todo (machine.next r (.timer i))) ∨
      Finished cid payload todo (machine.next r (.timer i)) := by
  rcases next_timer (r := r) i with hnext | ⟨cb, hcb, hnext⟩
  · rw [hnext]
    exact .inl ⟨k, h⟩
  · rcases h.turn with ⟨-, -, hscheduled⟩ | ⟨-, -, hscheduled⟩
    · rw [hscheduled] at hcb
      nomatch hcb
    · rw [hscheduled] at hcb
      obtain ⟨rfl, rfl⟩ := getElem?_singleton_eq_some hcb
      have hread := h.read hcmd herror hpayload hscheduled
      rw [hnext, hscheduled]
      exact hread.imp (fun h => ⟨k + 1, h⟩) id

theorem Finished.timer (h : Finished cid payload todo r) (i : ℕ) :
    Finished cid payload todo (machine.next r (.timer i)) := by
  rcases next_timer (r := r) i with hnext | ⟨cb, hcb, hnext⟩
  · rw [hnext]
    exact h
  · obtain ⟨hcomplete, hcid, hrxcb, ⟨hscheduled, hcalled⟩ | ⟨hscheduled, hcalled⟩⟩ := h
    · rw [hscheduled] at hcb
      obtain ⟨rfl, rfl⟩ := getElem?_singleton_eq_some hcb
      rw [hnext, hscheduled]
      refine ⟨hcomplete, hcid, hrxcb, .inr ⟨rfl, ?_⟩⟩
      rw [Reading.call, hcalled]
      rfl
    · rw [hscheduled] at hcb
      nomatch hcb

/-- **The read goes on**, whatever happens. -/
theorem exec_waiting_or_finished (hcmd : cmd &&& 0x80 ≠ 0) (herror : cmd ≠ CMD_ERROR)
    (hpayload : payload.length ≤ 7609) (events : List Event) :
    ∀ r, (∀ f, .receivedFrame f ∈ events → channel f ≠ NOTIFICATION_CID) →
      (∃ k, Waiting cid cmd payload k (ownFrames cid events) r) ∨
        Finished cid payload (ownFrames cid events) r →
      (∃ k, Waiting cid cmd payload k [] (machine.exec r events)) ∨
        Finished cid payload [] (machine.exec r events) := by
  induction events with
  | nil => exact fun r _ h => h
  | cons e events ih =>
      intro r hothers h
      refine ih _ (fun f hf => hothers f (List.mem_cons_of_mem _ hf)) ?_
      cases e with
      | timer i =>
          rcases h with ⟨k, h⟩ | h
          · exact h.timer hcmd herror hpayload i
          · exact .inr (h.timer i)
      | receivedFrame f =>
          by_cases hf : channel f = cid
          · have hown : ownFrames cid (.receivedFrame f :: events) = f :: ownFrames cid events := by
              simp [ownFrames, hf]
            rw [hown] at h
            rcases h with ⟨k, h⟩ | h
            · exact .inl ⟨k, h.receivedFrame hf⟩
            · exact absurd h.complete (List.cons_ne_nil _ _)
          · have hown : ownFrames cid (.receivedFrame f :: events) = ownFrames cid events := by
              simp [ownFrames, hf]
            have hcid : r.cid = cid := by
              rcases h with ⟨k, h⟩ | h
              · exact h.reads.channel
              · exact h.channel
            have hnext : machine.next r (.receivedFrame f) = r :=
              receivedFrame_other hcid hf (hothers f List.mem_cons_self)
            rw [hnext, ← hown]
            exact h

/-- When every frame has come, a read that waits for one is scheduled. -/
theorem Waiting.scheduled (h : Waiting cid cmd payload k [] r) :
    r.scheduled = [reader k] := by
  obtain ⟨hreads, ⟨hnil, -, -⟩ | ⟨-, -, hscheduled⟩⟩ := h
  · have hlength := congrArg List.length hreads.frames
    rw [hnil, List.append_nil, List.length_drop, length_frames_eq, List.length_nil] at hlength
    have := hreads.le
    omega
  · exact hscheduled

/-- The scheduled callbacks come to an end. -/
theorem exists_exec_scheduled_nil (hcmd : cmd &&& 0x80 ≠ 0) (herror : cmd ≠ CMD_ERROR)
    (hpayload : payload.length ≤ 7609) (m : ℕ) :
    ∀ r, (∃ k, k + m = contCount payload + 1 ∧ Waiting cid cmd payload k [] r) ∨
        Finished cid payload [] r →
      ∃ n, (machine.exec r (List.replicate n (.timer 0))).scheduled = [] := by
  induction m with
  | zero =>
      rintro r (⟨k, hk, h⟩ | h)
      · have := h.reads.le
        omega
      · rcases h.calls with ⟨hscheduled, -⟩ | ⟨hscheduled, -⟩
        · refine ⟨1, ?_⟩
          simp [machine, Machine.next, hscheduled, Reading.call]
        · exact ⟨0, hscheduled⟩
  | succ m ih =>
      rintro r (⟨k, hk, h⟩ | h)
      · -- the next frame is read
        have hscheduled := h.scheduled
        have hnext : machine.next r (.timer 0) =
            Reading.call { r with scheduled := [] } (reader k) := by
          simp [machine, Machine.next, hscheduled]
        have hread := h.read hcmd herror hpayload hscheduled
        rw [← hnext] at hread
        obtain ⟨n, hn⟩ := ih _ (hread.imp (fun h => ⟨k + 1, by omega, h⟩) id)
        exact ⟨n + 1, hn⟩
      · exact ih r (.inr h)

end

/-- A read that has been started waits for the first frame. -/
theorem waiting_read {g : Gnubby} {cid : Int32} (cmd : UInt8) (payload : List UInt8)
    (hclosed : g.closed = false) (hdev : g.dev = true) (hcid : g.cid = cid)
    (hrxframes : g.rxframes = []) :
    Waiting cid cmd payload 0 (frames 0 cid cmd payload) (g.read_ cmd) := by
  have hread : g.read_ cmd =
      { g.toClient with
        rxcb := some .init_frame, tid := true, callback := true, cmd := cmd, msg := [],
        seqno := 0, count := 0, called := [] } := by
    simp [read_, Reading.notifyFrame_, GnubbyClient.notifyFrame_, toClient, hclosed, hdev, hrxframes]
  rw [hread]
  refine ⟨⟨hclosed, hcid, rfl, rfl, rfl, Nat.zero_le _, ?_, ⟨rfl, rfl⟩, rfl⟩,
    .inl ⟨hrxframes, rfl, rfl⟩⟩
  rw [toClient, hrxframes]
  rfl

/-- **HID framing carries a message intact.**  The frames that are queued for a command have 64
bytes each, and a client with an outstanding read for the command gets the payload, once, when all
the scheduled callbacks have been called; and they come to an end. -/
theorem reads_queued_frames {d : HidGnubbyDevice} {cid : Int32} {cmd : UInt8}
    {payload : List UInt8} (hdevice : d.dev = true) (hlock : d.lockCID = 0 ∨ d.lockCID = cid)
    (hcmd : cmd &&& 0x80 ≠ 0) (herror : cmd ≠ CMD_ERROR) (hpayload : payload.length ≤ 7609)
    {g : Gnubby} (hclosed : g.closed = false) (hdev : g.dev = true) (hcid : g.cid = cid)
    (hrxframes : g.rxframes = []) {events : List Event}
    (hown : ownFrames cid events = d.queuedFrames cid cmd payload)
    (hothers : ∀ f, .receivedFrame f ∈ events → channel f ≠ NOTIFICATION_CID) :
    (d.queueCommand cid cmd payload).txqueue = d.txqueue ++ d.queuedFrames cid cmd payload ∧
    (∀ f ∈ d.queuedFrames cid cmd payload, f.length = 64) ∧
    ((machine.exec (g.read_ cmd) events).scheduled = [] →
      (machine.exec (g.read_ cmd) events).called = [(-(OK : ℤ), some payload)]) ∧
    ∃ n, (machine.exec (g.read_ cmd) (events ++ List.replicate n (.timer 0))).scheduled = [] := by
  have hunlocked := ChannelLock.not_refuses_of_own cmd hlock
  have hqueued := HidGnubbyDevice.queuedFrames_eq cmd payload hdevice hunlocked
  rw [hqueued] at hown ⊢
  have hstart : (∃ k, Waiting cid cmd payload k (ownFrames cid events) (g.read_ cmd)) ∨
      Finished cid payload (ownFrames cid events) (g.read_ cmd) :=
    .inl ⟨0, hown ▸ waiting_read cmd payload hclosed hdev hcid hrxframes⟩
  have hend := exec_waiting_or_finished hcmd herror hpayload events _ hothers hstart
  refine ⟨HidGnubbyDevice.queueCommand_txqueue cmd payload hdevice hunlocked, fun f => length_frames,
    fun hscheduled => ?_, ?_⟩
  · rcases hend with ⟨k, h⟩ | h
    · have := h.scheduled
      rw [hscheduled] at this
      nomatch this
    · rcases h.calls with ⟨hcall, -⟩ | ⟨-, hcalled⟩
      · rw [hscheduled] at hcall
        nomatch hcall
      · exact hcalled
  · -- what remains is to call what is scheduled
    simp only [Machine.exec_append]
    rcases hend with ⟨k, h⟩ | h
    · have hle := h.reads.le
      exact exists_exec_scheduled_nil hcmd herror hpayload (contCount payload + 1 - k) _
        (.inl ⟨k, by omega, h⟩)
    · exact exists_exec_scheduled_nil hcmd herror hpayload 0 _ (.inr h)

/-- A reply of 120 bytes in three frames, between frames of another channel; the callbacks are called
as the frames come. -/
theorem reads_three_frames :
    (machine.exec (Gnubby.read_ ⟨1, true, [], none, false, false, false, []⟩ 0x83)
      [.receivedFrame (initFrame 0 2 0x83 [1]),
        .receivedFrame (initFrame 0 1 0x83 (List.replicate 120 9)),
        .receivedFrame (contFrame 0 2 (List.replicate 60 1) 0), .timer 0,
        .receivedFrame (contFrame 0 1 (List.replicate 120 9) 0),
        .receivedFrame (contFrame 0 1 (List.replicate 120 9) 1), .timer 0, .timer 0,
        .receivedFrame (initFrame 0 2 0xbf [8]), .timer 0]).called =
      [(-(OK : ℤ), some (List.replicate 120 9))] := by
  refine (reads_queued_frames (d := ⟨.unlocked, true, [], [], []⟩) rfl (.inl rfl)
    (by decide) (by decide) (by decide) rfl rfl rfl rfl (by decide) ?_).2.2.1 (by decide)
  intro f hf
  simp only [List.mem_cons, List.not_mem_nil, or_false, reduceCtorEq, false_or,
    Event.receivedFrame.injEq] at hf
  rcases hf with rfl | rfl | rfl | rfl | rfl | rfl <;> decide

end U2F.Gnubby
