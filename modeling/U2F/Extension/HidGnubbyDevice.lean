/-
**Commands are queued for a HID device in frames.**

`hidgnubbydevice.js` cuts a command into frames, byte by byte, and queues each frame when it is
full.  A channel can lock the device; while another channel has the lock, a command is answered
with a synthesized busy frame and not queued, unless it is a `SYNC` or an `INIT`.

Main definitions:

* `HidGnubbyDevice` — the state of a device; `sent` and `published` are what it has given to
  `chrome.hid.send` and to its clients;
* `HidGnubbyDevice.queueCommand` — a command of a client.

Main results:

* `HidGnubbyDevice.queueCommand_txqueue` — **the frames of the message are queued**, unless the lock
  refuses the command;
* `HidGnubbyDevice.queueCommand_invariant` — what every frame of a command keeps, the command keeps;
* `HidGnubbyDevice.queueCommand_queues`, `HidGnubbyDevice.queueCommand_refused` — what a command does.
-/

import U2F.Extension.ChannelLock

set_option relaxedAutoImplicit false
set_option autoImplicit false

namespace U2F

open Hid Fragments

/-- A device that has a connection, or is destroyed. -/
structure HidGnubbyDevice extends ChannelLock where
  dev : Bool
  txqueue : List (List UInt8)
  sent : List (List UInt8)
  published : List (List UInt8)

namespace HidGnubbyDevice

open GnubbyDevice

def publishFrame_ (d : HidGnubbyDevice) (f : List UInt8) : HidGnubbyDevice :=
  { d with published := d.published ++ [f] }

def checkLock_ (d : HidGnubbyDevice) (cid : Int32) (cmd : UInt8) : Bool × HidGnubbyDevice :=
  if d.Refuses cid cmd then (false, d.publishFrame_ (ChannelLock.busy cid)) else (true, d)

def updateLock_ (d : HidGnubbyDevice) (cid : Int32) (cmd arg : ℕ) : HidGnubbyDevice :=
  { d with toChannelLock := d.toChannelLock.updateLock_ cid cmd arg }

/-- The first frame of the queue is given to the device, in a report of 64 bytes. -/
def writePump_ (d : HidGnubbyDevice) : HidGnubbyDevice :=
  if d.dev then
    match d.txqueue with
    | [] => d
    | frame :: _ => { d with sent := d.sent ++ [fill 0 64 (frame.take 64)] }
  else d

def queueFrame_ (d : HidGnubbyDevice) (frame : List UInt8) (cid : Int32) (cmd arg : ℕ) :
    HidGnubbyDevice :=
  let d := d.updateLock_ cid cmd arg
  let wasEmpty := d.txqueue.length = 0
  let d := { d with txqueue := d.txqueue ++ [frame] }
  if wasEmpty then d.writePump_ else d

def setCid_ (frame : List UInt8) (cid : Int32) : List UInt8 :=
  (((frame.set 0 (cid.toUInt32 >>> 24).toUInt8).set 1 (cid.toUInt32 >>> 16).toUInt8).set 2
    (cid.toUInt32 >>> 8).toUInt8).set 3 cid.toUInt32.toUInt8

/-- The variables of the loop of `queueCommand`. -/
structure Fragmenter where
  f : List UInt8
  n : ℕ
  seq : ℕ
  cmd : ℕ

/-- The loop of `queueCommand`: a byte goes into the frame, and a full frame is queued. -/
def fragment (cid : Int32) (lockArg : ℕ) :
    HidGnubbyDevice → Fragmenter → List UInt8 → HidGnubbyDevice × Fragmenter
  | d, s, [] => (d, s)
  | d, s, b :: u8 =>
    let f := s.f.set s.n b
    if s.n + 1 = f.length then
      fragment cid lockArg (d.queueFrame_ f cid s.cmd lockArg)
        { f := (setCid_ (List.replicate 64 0) cid).set 4 (UInt8.ofNat s.seq)
          n := 5
          seq := s.seq + 1
          cmd := s.seq } u8
    else fragment cid lockArg d { s with f := f, n := s.n + 1 } u8

def queueCommand (d : HidGnubbyDevice) (cid : Int32) (cmd : UInt8) (data : List UInt8) :
    HidGnubbyDevice :=
  if !d.dev then d
  else
    let (unlocked, d) := d.checkLock_ cid cmd
    if !unlocked then d
    else
      let f := (((setCid_ (List.replicate 64 0) cid).set 4 cmd).set 5
        (UInt8.ofNat (data.length >>> 8))).set 6 (UInt8.ofNat (data.length &&& 255))
      let lockArg := if data.length > 0 then (data.getD 0 0).toNat else 0
      let (d, s) := fragment cid lockArg d { f := f, n := 7, seq := 0, cmd := cmd.toNat } data
      if s.n ≠ 5 then d.queueFrame_ s.f cid s.cmd lockArg else d

/-! ### The frames that are queued -/

/-- The frames that a command adds to the queue. -/
def queuedFrames (d : HidGnubbyDevice) (cid : Int32) (cmd : UInt8) (data : List UInt8) :
    List (List UInt8) :=
  (d.queueCommand cid cmd data).txqueue.drop d.txqueue.length

@[simp] theorem updateLock_txqueue (d : HidGnubbyDevice) (cid : Int32) (cmd arg : ℕ) :
    (d.updateLock_ cid cmd arg).txqueue = d.txqueue := rfl

/-- The pump changes nothing but what has been sent. -/
theorem writePump_eq (d : HidGnubbyDevice) :
    d.writePump_ = { d with sent := d.writePump_.sent } := by
  unfold writePump_
  split
  · split <;> rfl
  · rfl

@[simp] theorem writePump_txqueue (d : HidGnubbyDevice) : d.writePump_.txqueue = d.txqueue := by
  rw [writePump_eq]

@[simp] theorem queueFrame_txqueue (d : HidGnubbyDevice) (frame : List UInt8) (cid : Int32)
    (cmd arg : ℕ) : (d.queueFrame_ frame cid cmd arg).txqueue = d.txqueue ++ [frame] := by
  unfold queueFrame_
  dsimp only
  split_ifs <;> simp

/-- A full frame is queued, and the loop goes on with an empty one; what does not fill the frame
stays in it. -/
theorem fragment_frame (cid : Int32) (lockArg : ℕ) (d : HidGnubbyDevice) (seq cmd : ℕ)
    (u8 head : List UInt8) (room : ℕ) (hroom : head.length + (room + 1) = 64) :
    fragment cid lockArg d ⟨head ++ List.replicate (room + 1) 0, head.length, seq, cmd⟩ u8 =
      if u8.length < room + 1 then
        (d, ⟨head ++ fill 0 (room + 1) u8, head.length + u8.length, seq, cmd⟩)
      else
        fragment cid lockArg (d.queueFrame_ (head ++ u8.take (room + 1)) cid cmd lockArg)
          ⟨(setCid_ (List.replicate 64 0) cid).set 4 (UInt8.ofNat seq), 5, seq + 1, seq⟩
          (u8.drop (room + 1)) := by
  induction u8 generalizing head room with
  | nil =>
      rw [if_pos (by rw [List.length_nil]; omega)]
      rfl
  | cons b u8 ih =>
      have hset : (head ++ List.replicate (room + 1) 0).set head.length b =
          (head ++ [b]) ++ List.replicate room 0 := by
        rw [List.set_append_right _ _ (Nat.le_refl _), Nat.sub_self, List.replicate_succ,
          List.set_cons_zero, List.append_assoc]
        rfl
      have hlength : ((head ++ [b]) ++ List.replicate room 0).length = 64 := by
        simp only [List.length_append, List.length_replicate, List.length_singleton]
        omega
      rw [fragment]
      dsimp only
      rw [hset, hlength]
      cases room with
      | zero =>
          -- the byte fills the frame
          rw [if_pos (by omega), if_neg (by simp)]
          simp
      | succ room =>
          have hhead : (head ++ [b]).length + (room + 1) = 64 := by
            rw [List.length_append, List.length_singleton]
            omega
          have := ih (head ++ [b]) room hhead
          rw [List.length_append, List.length_singleton] at this
          rw [if_neg (by omega), this]
          by_cases hlt : u8.length < room + 1
          · rw [if_pos hlt, if_pos (by rw [List.length_cons]; omega)]
            simp [fill, Nat.add_assoc, Nat.add_comm 1]
          · rw [if_neg hlt, if_neg (by rw [List.length_cons]; omega)]
            simp

/-- The end of `queueCommand`: a frame that is not empty is queued. -/
def finish (cid : Int32) (lockArg : ℕ) (r : HidGnubbyDevice × Fragmenter) : HidGnubbyDevice :=
  if r.2.n ≠ 5 then r.1.queueFrame_ r.2.f cid r.2.cmd lockArg else r.1

/-- An empty frame after the first. -/
theorem nextFrame_eq (cid : Int32) (seq : ℕ) :
    (setCid_ (List.replicate 64 0) cid).set 4 (UInt8.ofNat seq) =
      (putInt cid ++ [UInt8.ofNat seq]) ++ List.replicate (58 + 1) 0 := rfl

/-- The frames from number `k` on are queued for the rest of the data. -/
theorem finish_contFrames (cid : Int32) (lockArg : ℕ) (data : List UInt8) (m : ℕ) :
    ∀ (k : ℕ) (d : HidGnubbyDevice) (cmd : ℕ), contCount data = k + m →
      (finish cid lockArg (fragment cid lockArg d
        ⟨(setCid_ (List.replicate 64 0) cid).set 4 (UInt8.ofNat k), 5, k + 1, cmd⟩
        (data.drop (INIT_DATA + CONT_DATA * k)))).txqueue =
        d.txqueue ++ (List.range' k m).map (contFrame 0 cid data) := by
  induction m with
  | zero =>
      intro k d cmd hk
      -- nothing is left, and the frame is empty
      have hnil : data.drop (INIT_DATA + CONT_DATA * k) = [] := by
        refine List.drop_of_length_le (Nat.le_of_not_lt fun h => ?_)
        have := lt_contCount_iff.2 h
        omega
      rw [hnil]
      simp [fragment, finish]
  | succ m ih =>
      intro k d cmd hk
      have hmore : INIT_DATA + CONT_DATA * k < data.length := lt_contCount_iff.1 (by omega)
      have hframe := fragment_frame cid lockArg d (k + 1) cmd
        (data.drop (INIT_DATA + CONT_DATA * k)) (putInt cid ++ [UInt8.ofNat k]) 58 rfl
      have hlength : (putInt cid ++ [UInt8.ofNat k]).length = 5 := rfl
      rw [hlength, List.length_drop, List.drop_drop] at hframe
      rw [nextFrame_eq, hframe, List.range'_succ, List.map_cons]
      by_cases hlast : data.length - (INIT_DATA + CONT_DATA * k) < 58 + 1
      · -- the last frame is filled up when it is queued
        have hm : m = 0 := by
          by_contra hm
          have := lt_contCount_iff.1 (show k + 1 < contCount data by omega)
          rw [Nat.mul_succ, CONT_DATA] at this
          rw [CONT_DATA] at hlast
          omega
        have hfragment : Fragments.fragment INIT_DATA CONT_DATA data k =
            data.drop (INIT_DATA + CONT_DATA * k) := by
          refine List.take_of_length_le ?_
          rw [List.length_drop]
          exact Nat.le_of_lt_succ (Nat.lt_succ_of_lt hlast)
        subst hm
        rw [if_pos hlast, finish, if_pos (by dsimp only; omega), queueFrame_txqueue, contFrame,
          hfragment]
        simp [CONT_DATA]
      · rw [if_neg hlast]
        have hfull : (Fragments.fragment INIT_DATA CONT_DATA data k).length = CONT_DATA := by
          rw [length_fragment, CONT_DATA]
          rw [CONT_DATA] at hlast
          omega
        have hdrop : INIT_DATA + CONT_DATA * k + (58 + 1) = INIT_DATA + CONT_DATA * (k + 1) := by
          rw [Nat.mul_succ, CONT_DATA]
          omega
        rw [hdrop, ih (k + 1) _ _ (by omega), queueFrame_txqueue, contFrame,
          fill_of_length_eq hfull]
        simp [Fragments.fragment, CONT_DATA]

/-- **The frames of the message are queued**, unless the lock refuses the command. -/
theorem queueCommand_txqueue {d : HidGnubbyDevice} {cid : Int32} (cmd : UInt8) (data : List UInt8)
    (hdev : d.dev = true) (hlock : ¬ d.Refuses cid cmd) :
    (d.queueCommand cid cmd data).txqueue = d.txqueue ++ frames 0 cid cmd data := by
  have hcheck : d.checkLock_ cid cmd = (true, d) := if_neg hlock
  have hhigh : data.length >>> 8 = data.length / 256 := Nat.shiftRight_eq_div_pow _ 8
  have hlow : UInt8.ofNat (data.length &&& 255) = UInt8.ofNat data.length := by
    refine UInt8.toNat_inj.1 ?_
    rw [UInt8.toNat_ofNat', UInt8.toNat_ofNat', show 255 = 2 ^ 8 - 1 from rfl,
      Nat.and_two_pow_sub_one_eq_mod, Nat.mod_mod]
  have hfirst : (((setCid_ (List.replicate 64 0) cid).set 4 cmd).set 5
      (UInt8.ofNat (data.length >>> 8))).set 6 (UInt8.ofNat (data.length &&& 255)) =
      (putInt cid ++ cmd :: putShort data.length) ++ List.replicate (56 + 1) 0 := by
    rw [hhigh, hlow]
    rfl
  generalize hlockArg : (if data.length > 0 then (data.getD 0 0).toNat else 0) = lockArg
  have hcommand : d.queueCommand cid cmd data = finish cid lockArg (fragment cid lockArg d
      ⟨(putInt cid ++ cmd :: putShort data.length) ++ List.replicate (56 + 1) 0, 7, 0,
        cmd.toNat⟩ data) := by
    rw [queueCommand, hdev, hcheck, ← hfirst, ← hlockArg]
    rfl
  have hframe := fragment_frame cid lockArg d 0 cmd.toNat data
    (putInt cid ++ cmd :: putShort data.length) 56 rfl
  have hlength : (putInt cid ++ cmd :: putShort data.length).length = 7 := rfl
  rw [hlength] at hframe
  rw [hcommand, hframe, frames, initFrame]
  by_cases hshort : data.length < 56 + 1
  · -- everything goes into the first frame
    have hcount : contCount data = 0 := by
      refine Nat.eq_zero_of_not_pos fun hpos => ?_
      rw [lt_contCount_iff, INIT_DATA] at hpos
      omega
    rw [if_pos hshort, finish, if_pos (by dsimp only; omega), queueFrame_txqueue, hcount,
      List.take_of_length_le (by rw [INIT_DATA]; omega)]
    simp [INIT_DATA]
  · have hfull : (data.take INIT_DATA).length = INIT_DATA :=
      List.length_take_of_le (by rw [INIT_DATA]; omega)
    have hrest := finish_contFrames cid lockArg data (contCount data) 0
      (d.queueFrame_ ((putInt cid ++ cmd :: putShort data.length) ++ data.take (56 + 1)) cid
        cmd.toNat lockArg) 0 (Nat.zero_add _).symm
    rw [show INIT_DATA + CONT_DATA * 0 = INIT_DATA from rfl] at hrest
    rw [if_neg hshort, show 56 + 1 = INIT_DATA from rfl, fill_of_length_eq hfull]
    rw [show 56 + 1 = INIT_DATA from rfl, queueFrame_txqueue, ← List.range_eq_range'] at hrest
    rw [hrest]
    simp

theorem queuedFrames_eq {d : HidGnubbyDevice} {cid : Int32} (cmd : UInt8) (data : List UInt8)
    (hdev : d.dev = true) (hlock : ¬ d.Refuses cid cmd) :
    d.queuedFrames cid cmd data = frames 0 cid cmd data := by
  rw [queuedFrames, queueCommand_txqueue cmd data hdev hlock, List.drop_left]

/-! ### What every frame of a command keeps -/

/-- The variables of the loop, with some bytes left of a command of the given length. -/
structure Fragmenter.Fits (s : Fragmenter) (cid : Int32) (cmd length left : ℕ) : Prop where
  full : s.f.length = 64
  cid : s.f.take 4 = putInt cid
  room : 5 ≤ s.n ∧ s.n < 64
  cmd : s.cmd = cmd ∨ s.cmd < s.seq
  count : 59 * s.seq + s.n + left = length + 7

/-- The command of a frame is the command, or the number of a frame before it. -/
theorem Fragmenter.Fits.cmd_or {s : Fragmenter} {cid : Int32} {cmd length left : ℕ}
    (h : s.Fits cid cmd length left) : s.cmd = cmd ∨ 59 * (s.cmd + 1) ≤ length + 2 := by
  rcases h.cmd with hcmd | hcmd
  · exact .inl hcmd
  · have hcount := h.count
    have hroom := h.room
    exact .inr (by omega)

section

variable {I : HidGnubbyDevice → Prop} {cid : Int32} {cmd lockArg length : ℕ}

/-- A frame of a command keeps `I`. -/
def KeptByFrames (I : HidGnubbyDevice → Prop) (cid : Int32) (cmd lockArg length : ℕ) : Prop :=
  ∀ d f c, f.length = 64 → f.take 4 = putInt cid → (c = cmd ∨ 59 * (c + 1) ≤ length + 2) → I d →
    I (d.queueFrame_ f cid c lockArg)

theorem KeptByFrames.fragment (hI : KeptByFrames I cid cmd lockArg length) (u8 : List UInt8) :
    ∀ (d : HidGnubbyDevice) (s : Fragmenter), s.Fits cid cmd length u8.length → I d →
      I (fragment cid lockArg d s u8).1 ∧ (fragment cid lockArg d s u8).2.Fits cid cmd length 0 := by
  induction u8 with
  | nil => exact fun d s hs hd => ⟨hd, hs⟩
  | cons b u8 ih =>
      intro d s hs hd
      have hcount := hs.count
      have hroom := hs.room
      rw [List.length_cons] at hcount
      have hfull : (s.f.set s.n b).length = 64 := by rw [List.length_set, hs.full]
      have hcid : (s.f.set s.n b).take 4 = putInt cid := by
        rw [List.take_set_of_le (by omega), hs.cid]
      rw [HidGnubbyDevice.fragment]
      split
      · -- the byte fills the frame
        rename_i hlast
        rw [hfull] at hlast
        refine ih _ _ ⟨rfl, rfl, by dsimp only; omega, .inr (Nat.lt_succ_self _), ?_⟩
          (hI _ _ _ hfull hcid hs.cmd_or hd)
        dsimp only
        omega
      · rename_i hmore
        rw [hfull] at hmore
        exact ih _ _ ⟨hfull, hcid, by dsimp only; omega, hs.cmd, by dsimp only; omega⟩ hd

/-- **What every frame of a command keeps, the command keeps.** -/
theorem queueCommand_invariant {d : HidGnubbyDevice} {cmd : UInt8} {data : List UInt8}
    (hI : KeptByFrames I cid cmd.toNat (if data.length > 0 then (data.getD 0 0).toNat else 0) data.length)
    (hdev : d.dev = true) (hlock : ¬ d.Refuses cid cmd) (hd : I d) :
    I (d.queueCommand cid cmd data) := by
  have hcheck : d.checkLock_ cid cmd = (true, d) := if_neg hlock
  generalize hlockArg : (if data.length > 0 then (data.getD 0 0).toNat else 0) = lockArg at hI
  generalize hf : (((setCid_ (List.replicate 64 0) cid).set 4 cmd).set 5
    (UInt8.ofNat (data.length >>> 8))).set 6 (UInt8.ofNat (data.length &&& 255)) = f
  have hcommand : d.queueCommand cid cmd data =
      finish cid lockArg (HidGnubbyDevice.fragment cid lockArg d ⟨f, 7, 0, cmd.toNat⟩ data) := by
    rw [queueCommand, hdev, hcheck, ← hf, ← hlockArg]
    rfl
  have hfits : Fragmenter.Fits ⟨f, 7, 0, cmd.toNat⟩ cid cmd.toNat data.length data.length :=
    ⟨by rw [← hf]; rfl, by rw [← hf]; rfl, by dsimp only; omega, .inl rfl, by dsimp only; omega⟩
  obtain ⟨hloop, hs⟩ := hI.fragment data d _ hfits hd
  rw [hcommand, finish]
  split
  · exact hI _ _ _ hs.full hs.cid hs.cmd_or hloop
  · exact hloop

end

/-- From `d` to `d'` these frames are queued for a channel, and the first of them is sent if the queue
was empty. -/
structure Queues (cid : Int32) (d d' : HidGnubbyDevice) (frames : List (List UInt8)) : Prop where
  dev : d'.dev = d.dev
  published : d'.published = d.published
  txqueue : d'.txqueue = d.txqueue ++ frames
  sent : d'.sent = if d.txqueue = [] then d.sent ++ frames.take 1 else d.sent
  full : ∀ f ∈ frames, f.length = 64
  cid : ∀ f ∈ frames, channel f = cid

theorem Queues.refl (cid : Int32) (d : HidGnubbyDevice) : Queues cid d d [] :=
  ⟨rfl, rfl, by simp, by simp, nofun, nofun⟩

theorem Queues.trans {cid : Int32} {d d' d'' : HidGnubbyDevice} {frames frames' : List (List UInt8)}
    (h : Queues cid d d' frames) (h' : Queues cid d' d'' frames') :
    Queues cid d d'' (frames ++ frames') := by
  refine ⟨h'.dev.trans h.dev, h'.published.trans h.published, ?_, ?_, ?_, ?_⟩
  · rw [h'.txqueue, h.txqueue, List.append_assoc]
  · rw [h'.sent, h.sent, h.txqueue]
    cases frames with
    | nil =>
        by_cases hempty : d.txqueue = []
        · simp [hempty]
        · simp [hempty]
    | cons f frames => simp
  · intro f hf
    exact (List.mem_append.1 hf).elim (h.full f) (h'.full f)
  · intro f hf
    exact (List.mem_append.1 hf).elim (h.cid f) (h'.cid f)

theorem queueFrame_queues {d : HidGnubbyDevice} {cid : Int32} {f : List UInt8} (hdev : d.dev = true)
    (hfull : f.length = 64) (hcid : f.take 4 = putInt cid) (cmd arg : ℕ) :
    Queues cid d (d.queueFrame_ f cid cmd arg) [f] := by
  have hchannel : channel f = cid := by
    rw [← List.take_append_drop 4 f, hcid, channel_putInt]
  have hreport : fill 0 64 (f.take 64) = f := by
    rw [List.take_of_length_le (Nat.le_of_eq hfull), fill_of_length_eq hfull]
  refine ⟨?_, ?_, queueFrame_txqueue d f cid cmd arg, ?_, by simpa using hfull, by simpa using hchannel⟩
  · unfold queueFrame_
    dsimp only
    split
    · rw [writePump_eq]
      rfl
    · rfl
  · unfold queueFrame_
    dsimp only
    split
    · rw [writePump_eq]
      rfl
    · rfl
  · by_cases hempty : d.txqueue = []
    · simp [queueFrame_, writePump_, updateLock_, hempty, hdev, hreport]
    · simp [queueFrame_, updateLock_, hempty]

/-- **A command that is not refused queues its frames**, for its channel. -/
theorem queueCommand_queues {d : HidGnubbyDevice} {cid : Int32} {cmd : UInt8} (data : List UInt8)
    (hdev : d.dev = true) (hlock : ¬ d.Refuses cid cmd) :
    ∃ frames, Queues cid d (d.queueCommand cid cmd data) frames := by
  refine queueCommand_invariant (I := fun d' => ∃ frames, Queues cid d d' frames) ?_ hdev hlock
    ⟨[], Queues.refl cid d⟩
  rintro d' f c hfull hcid - ⟨frames, h⟩
  exact ⟨_, h.trans (queueFrame_queues (h.dev.trans hdev) hfull hcid c _)⟩

/-- A command that is refused is answered and queues nothing. -/
theorem queueCommand_refused {d : HidGnubbyDevice} {cid : Int32} {cmd : UInt8} (data : List UInt8)
    (hdev : d.dev = true) (hlock : d.Refuses cid cmd) :
    d.queueCommand cid cmd data = d.publishFrame_ (ChannelLock.busy cid) := by
  have hcheck : d.checkLock_ cid cmd = (false, d.publishFrame_ (ChannelLock.busy cid)) := if_pos hlock
  rw [queueCommand, hdev, hcheck]
  rfl

theorem queueCommand_dead {d : HidGnubbyDevice} (hdev : d.dev = false) (cid : Int32) (cmd : UInt8)
    (data : List UInt8) : d.queueCommand cid cmd data = d := by
  rw [queueCommand, hdev]
  rfl

end HidGnubbyDevice

end U2F
