/-
**The lock that the channels of a device share.**

A channel takes the lock with a command, for some seconds; while it holds the lock, the commands of the
other channels are answered with a busy frame, unless they are a `SYNC` or an `INIT`.  A timer releases
the lock.  Both drivers have the same two functions for it, which are modelled here with the timers
that have been set, so that a timer that is not cleared would be seen.

Main definitions:

* `GnubbyDevice.CMD_LOCK`, `GnubbyDevice.OK`, … — commands and result codes;
* `ChannelLock` — the lock and its timers;
* `ChannelLock.Refuses`, `ChannelLock.updateLock_`, `ChannelLock.lockExpired` — what is done with it;
* `ChannelLock.Armed` — a lock that is held has one timer.

Main results:

* `ChannelLock.updateLock_lockCID` — who holds the lock after a frame;
* `ChannelLock.Armed.updateLock`, `ChannelLock.Armed.lockExpired` — there is no other timer than that of
  the channel that holds the lock.
-/

import U2F.Hid.Frames

set_option relaxedAutoImplicit false
set_option autoImplicit false

namespace U2F

namespace GnubbyDevice

def CMD_LOCK : UInt8 := 0x84

def CMD_INIT : UInt8 := 0x86

def CMD_SYNC : UInt8 := 0xbc

def CMD_ERROR : UInt8 := 0xbf

def OK : ℕ := 0

def INVALID_SEQ : ℕ := 4

def BUSY : ℕ := 6

def GONE : ℕ := 8

/-- The frame that a device sends to all its clients when it is destroyed. -/
def goneFrame : List UInt8 := [0, 0, 0, 0, CMD_ERROR, 0, 1, UInt8.ofNat GONE]

end GnubbyDevice

/-- The lock of a device, and the timers that have been set for it. -/
structure ChannelLock where
  /-- The channel that holds the lock, 0 for none. -/
  lockCID : Int32
  lockMillis : ℕ
  /-- The number of the lock timer. -/
  lockTID : Option ℕ
  /-- The timers that are set, with their periods. -/
  timers : List (ℕ × ℕ)
  /-- How many timers have been set. -/
  timersSet : ℕ

namespace ChannelLock

open GnubbyDevice

/-- The lock of a new device. -/
def unlocked : ChannelLock :=
  { lockCID := 0, lockMillis := 0, lockTID := none, timers := [], timersSet := 0 }

/-- Whether a command has to wait for another channel. -/
def Refuses (l : ChannelLock) (cid : Int32) (cmd : UInt8) : Prop :=
  l.lockCID ≠ 0 ∧ l.lockCID ≠ cid ∧ cmd ≠ CMD_SYNC ∧ cmd ≠ CMD_INIT

instance (l : ChannelLock) (cid : Int32) (cmd : UInt8) : Decidable (l.Refuses cid cmd) :=
  inferInstanceAs (Decidable (_ ∧ _ ∧ _ ∧ _))

/-- The channel that holds the lock does not wait, and neither does any while it is free. -/
theorem not_refuses_of_own {l : ChannelLock} {cid : Int32} (cmd : UInt8)
    (h : l.lockCID = 0 ∨ l.lockCID = cid) : ¬ l.Refuses cid cmd := by
  rintro ⟨hheld, hother, -⟩
  rcases h with h | h
  · exact hheld h
  · exact hother h

/-- The frame that answers it. -/
def busy (cid : Int32) : List UInt8 := putInt cid ++ [CMD_ERROR, 0, 1, UInt8.ofNat BUSY]

/-- The lock timer is cleared, if there is one. -/
def clearTimeout (l : ChannelLock) : ChannelLock :=
  match l.lockTID with
  | none => l
  | some tid => { l with timers := l.timers.filter fun timer => timer.1 ≠ tid, lockTID := none }

def setTimeout (l : ChannelLock) : ChannelLock :=
  { l with
    lockTID := some l.timersSet
    timers := l.timers ++ [(l.timersSet, l.lockMillis)]
    timersSet := l.timersSet + 1 }

/-- The command is a number here: for the frames after the first it is the sequence number. -/
def updateLock_ (l : ChannelLock) (cid : Int32) (cmd arg : ℕ) : ChannelLock :=
  if l.lockCID = 0 ∨ l.lockCID = cid then
    let l := l.clearTimeout
    let l :=
      if cmd = CMD_LOCK.toNat then
        if arg ≠ 0 then { l with lockCID := cid, lockMillis := arg * 1000 + 100 }
        else { l with lockCID := 0 }
      else l
    if l.lockCID ≠ 0 then l.setTimeout else l
  else l

/-- A timer fires, and the lock is free, whoever held it. -/
def lockExpired (l : ChannelLock) (tid : ℕ) : ChannelLock :=
  if tid ∈ l.timers.map Prod.fst then
    { l with
      timers := l.timers.filter fun timer => timer.1 ≠ tid
      lockTID := none
      lockCID := 0 }
  else l

/-! ### Who holds the lock -/

/-- A lock that is held has a timer with its period, and no other timer is set. -/
structure Armed (l : ChannelLock) : Prop where
  held : l.lockTID.isSome = true ↔ l.lockCID ≠ 0
  timers : l.timers = l.lockTID.toList.map fun tid => (tid, l.lockMillis)

theorem armed_unlocked : unlocked.Armed := ⟨by decide, rfl⟩

variable {l : ChannelLock}

@[simp] theorem clearTimeout_lockCID (l : ChannelLock) : l.clearTimeout.lockCID = l.lockCID := by
  unfold clearTimeout
  split <;> rfl

@[simp] theorem setTimeout_lockCID (l : ChannelLock) : l.setTimeout.lockCID = l.lockCID := rfl

/-- **Who holds the lock after a frame.** -/
theorem updateLock_lockCID (l : ChannelLock) (cid : Int32) (cmd arg : ℕ) :
    (l.updateLock_ cid cmd arg).lockCID =
      if (l.lockCID = 0 ∨ l.lockCID = cid) ∧ cmd = CMD_LOCK.toNat then
        if arg ≠ 0 then cid else 0
      else l.lockCID := by
  have htimer : ∀ l : ChannelLock, (if l.lockCID ≠ 0 then l.setTimeout else l).lockCID = l.lockCID := by
    intro l
    split <;> rfl
  unfold updateLock_
  dsimp only
  by_cases hmine : l.lockCID = 0 ∨ l.lockCID = cid
  · rw [if_pos hmine, htimer]
    by_cases hlock : cmd = CMD_LOCK.toNat
    · rw [if_pos hlock, if_pos (And.intro hmine hlock)]
      split <;> rfl
    · rw [if_neg hlock, if_neg fun h : _ ∧ _ => hlock h.2, clearTimeout_lockCID]
  · rw [if_neg hmine, if_neg fun h : _ ∧ _ => hmine h.1]

/-- No timer is left when the lock timer is cleared. -/
theorem Armed.clearTimeout (h : l.Armed) :
    l.clearTimeout.lockTID = none ∧ l.clearTimeout.timers = [] := by
  have htimers := h.timers
  unfold ChannelLock.clearTimeout
  cases htid : l.lockTID with
  | none =>
      rw [htid] at htimers
      exact ⟨htid, htimers⟩
  | some tid =>
      rw [htid] at htimers
      simp [htimers]

/-- A lock that is free when its timers have been cleared, or is given a timer. -/
theorem armed_of_cleared (hnone : l.lockTID = none) (htimers : l.timers = []) :
    (if l.lockCID ≠ 0 then l.setTimeout else l).Armed := by
  by_cases hheld : l.lockCID ≠ 0
  · rw [if_pos hheld]
    exact ⟨by simpa [ChannelLock.setTimeout] using hheld, by simp [ChannelLock.setTimeout, htimers]⟩
  · rw [if_neg hheld]
    exact ⟨by simpa [hnone] using hheld, by simp [hnone, htimers]⟩

/-- **There is no other timer than that of the channel that holds the lock**, after a frame. -/
theorem Armed.updateLock (h : l.Armed) (cid : Int32) (cmd arg : ℕ) :
    (l.updateLock_ cid cmd arg).Armed := by
  obtain ⟨hnone, htimers⟩ := h.clearTimeout
  unfold updateLock_
  split
  · refine armed_of_cleared ?_ ?_
    · split_ifs <;> exact hnone
    · split_ifs <;> exact htimers
  · exact h

theorem Armed.lockExpired (h : l.Armed) (tid : ℕ) : (l.lockExpired tid).Armed := by
  have htimers := h.timers
  unfold ChannelLock.lockExpired
  split
  · rename_i hmem
    refine ⟨by simp, ?_⟩
    -- the timer that fires is the lock timer
    cases htid : l.lockTID with
    | none => simp [htimers, htid]
    | some tid' =>
        obtain rfl : tid = tid' := by simpa [htimers, htid] using hmem
        simp [htimers, htid]
  · exact h

/-- The timer that releases a lock is the one of the channel that holds it. -/
theorem Armed.lockTID_of_lockExpired (h : l.Armed) {tid : ℕ}
    (hchange : (l.lockExpired tid).lockCID ≠ l.lockCID) :
    l.lockTID = some tid ∧ (l.lockExpired tid).lockCID = 0 := by
  have htimers := h.timers
  unfold ChannelLock.lockExpired at hchange ⊢
  split at hchange
  · rename_i hmem
    rw [if_pos hmem]
    refine ⟨?_, rfl⟩
    cases htid : l.lockTID with
    | none => simp [htimers, htid] at hmem
    | some tid' =>
        obtain rfl : tid = tid' := by simpa [htimers, htid] using hmem
        rfl
  · exact absurd rfl hchange

end ChannelLock

end U2F
