/-
**The countdown timer (`countdowntimer.js`).**

A countdown is driven by one timer of the system: a repeating one, that ticks every 200 milliseconds,
or a one-shot timer if not more than that is to be counted down.  The object forgets the id of its
timer before it calls back, so that it can be set again from inside the callback.

The history of the object is made of the calls of its methods, the ticks of its timer and the calls
of its callbacks.  Numbers are exact.

Main definitions:

* `Countdown` — the object, the timers of the system that it has set, and its history;
* `Countdown.setTimeout`, `Countdown.clearTimeout`, `Countdown.expired`, `Countdown.timerTick`,
  `Countdown.clone` — the methods;
* `Countdown.machine` — the object under any calls and ticks;
* `Active`, `Due` — what a history says about the countdown;
* `FiresWhenDue` — what is to hold at every point of a history;
* `Countdown.Inv` — the invariant.

Main results:

* `Countdown.firesWhenDue_exec` — **a countdown fires exactly when it is due**;
* `Countdown.view_timerTick` — the timer of a watchdog is a countdown whose callback is not followed.
-/

import Mathlib.Algebra.Order.Floor.Semiring
import Mathlib.Data.Rat.Floor
import Mathlib.Tactic.Linarith
import U2F.Extension.Watchdog
import U2F.Lib.History
import U2F.Lib.Machine

set_option relaxedAutoImplicit false
set_option autoImplicit false

namespace U2F

/-! ### The system timer -/

/-- The ids that the system timer gives to the timers that are set, one after the other. -/
structure TimerIds where
  id : ℕ → ℕ
  ne_zero : ∀ n, id n ≠ 0

/-- The timers of the system that the object has set: how many, and those that are still running,
each with whether it repeats. -/
structure SystemTimers where
  started : ℕ
  running : List (ℕ × Bool)

namespace SystemTimers

def start (ids : TimerIds) (repeats : Bool) (timers : SystemTimers) : ℕ × SystemTimers :=
  let id := ids.id timers.started
  (id, ⟨timers.started + 1, timers.running ++ [(id, repeats)]⟩)

def setInterval (ids : TimerIds) : SystemTimers → ℕ × SystemTimers := start ids true

def setTimeout (ids : TimerIds) : SystemTimers → ℕ × SystemTimers := start ids false

/-- Stops a timer, of either kind. -/
def clearTimeout (timeoutId : Option ℕ) (timers : SystemTimers) : SystemTimers :=
  { timers with running := timers.running.filter fun timer => some timer.1 ≠ timeoutId }

/-- The timer fires: unless it repeats, it does not run any more. -/
def fire (id : ℕ) (timers : SystemTimers) : SystemTimers :=
  { timers with running := timers.running.filter fun timer => timer.1 ≠ id ∨ timer.2 }

end SystemTimers

/-! ### The object -/

/-- An entry of the history.  Callbacks are known by their names. -/
inductive CountdownEntry (κ : Type)
  | setTimeout (timeoutMillis : ℚ) (cb : Option κ) (result : Bool)
  | clearTimeout
  | tick
  | callback (cb : κ)
  | expired (result : Bool)
  deriving DecidableEq

/-- A call of a method. -/
inductive CountdownCall (κ : Type)
  | setTimeout (timeoutMillis : ℚ) (cb : Option κ)
  | clearTimeout
  | expired

/-- A call from outside, or a tick of a timer of the system; `inside` are the calls that the
callback makes, if there is one. -/
inductive CountdownEvent (κ : Type)
  | call (c : CountdownCall κ)
  | tick (id : ℕ) (inside : List (CountdownCall κ))

/-- The object, with its history. -/
structure Countdown (κ : Type) where
  remainingMillis : ℚ
  timeoutId : Option ℕ
  cb : Option κ
  sysTimer : SystemTimers
  history : List (CountdownEntry κ)

namespace Countdown

open CountdownTimer (TIMER_INTERVAL_MILLIS)

variable {κ : Type} (ids : TimerIds)

def record (e : CountdownEntry κ) (s : Countdown κ) : Countdown κ :=
  { s with history := s.history ++ [e] }

/-- `if (this.timeoutId)` -/
def isSet (s : Countdown κ) : Bool := s.timeoutId.any (· ≠ 0)

def setTimeout (timeoutMillis : ℚ) (cb : Option κ) (s : Countdown κ) : Bool × Countdown κ :=
  if s.isSet then (false, s)
  else if timeoutMillis = 0 ∨ timeoutMillis < 0 then (false, s)
  else
    let s := { s with remainingMillis := timeoutMillis, cb := cb }
    if s.remainingMillis > TIMER_INTERVAL_MILLIS then
      let (id, sysTimer) := s.sysTimer.setInterval ids
      (true, { s with timeoutId := some id, sysTimer := sysTimer })
    else
      -- a one-shot timer for the last interval
      let (id, sysTimer) := s.sysTimer.setTimeout ids
      (true, { s with timeoutId := some id, sysTimer := sysTimer })

def clearTimeout (s : Countdown κ) : Countdown κ :=
  let s := if s.isSet then
      { s with sysTimer := s.sysTimer.clearTimeout s.timeoutId, timeoutId := none }
    else s
  { s with remainingMillis := 0 }

def expired (s : Countdown κ) : Bool := s.remainingMillis ≤ 0

/-- A call, with what it returns in the history. -/
def perform (s : Countdown κ) : CountdownCall κ → Countdown κ
  | .setTimeout timeoutMillis cb =>
      let (result, s) := s.setTimeout ids timeoutMillis cb
      s.record (.setTimeout timeoutMillis cb result)
  | .clearTimeout => s.clearTimeout.record .clearTimeout
  | .expired => s.record (.expired s.expired)

/-- The object before its constructor sets the timeout. -/
def initial : Countdown κ := ⟨0, none, none, ⟨0, []⟩, []⟩

/-- The constructor. -/
def new (timeoutMillis : ℚ) (cb : Option κ) : Countdown κ :=
  perform ids initial (.setTimeout timeoutMillis cb)

def clone (cb : Option κ) (s : Countdown κ) : Countdown κ := new ids s.remainingMillis cb

def timerTick (inside : List (CountdownCall κ)) (s : Countdown κ) : Countdown κ :=
  let s := { s with remainingMillis := s.remainingMillis - TIMER_INTERVAL_MILLIS }
  if s.expired then
    let s := { s with sysTimer := s.sysTimer.clearTimeout s.timeoutId, timeoutId := none }
    match s.cb with
    | some cb => inside.foldl (perform ids) (s.record (.callback cb))
    | none => s
  else s

/-- **The object under any calls and ticks.**  Only a timer that is running ticks. -/
def machine : Machine (Countdown κ) (CountdownEvent κ) Unit :=
  ⟨fun s event => ((), match event with
    | .call c => s.perform ids c
    | .tick id inside =>
        if s.sysTimer.running.any (·.1 = id) then
          timerTick ids inside ({ s with sysTimer := s.sysTimer.fire id }.record .tick)
        else s)⟩

end Countdown

/-! ### What a history says -/

section History

open CountdownTimer (TIMER_INTERVAL_MILLIS)

variable {κ : Type}

/-- A countdown that is set. -/
def CountdownEntry.begins : CountdownEntry κ → Option (ℚ × Option κ)
  | .setTimeout timeoutMillis cb true => some (timeoutMillis, cb)
  | _ => none

/-- A countdown that is cleared, or has called back. -/
def CountdownEntry.ends : CountdownEntry κ → Bool
  | .clearTimeout => true
  | .callback _ => true
  | _ => false

def CountdownEntry.isTick : CountdownEntry κ → Bool
  | .tick => true
  | _ => false

/-- A countdown of `t` milliseconds with the callback `cb` has been set successfully; since then no
other has been, it has neither been cleared nor called back, and the timer has ticked `n` times. -/
def SetSince (history : List (CountdownEntry κ)) (t : ℚ) (cb : Option κ) (n : ℕ) : Prop :=
  History.CountedSince CountdownEntry.begins CountdownEntry.ends CountdownEntry.isTick history
    (t, cb) n

/-- The number of the tick at which a countdown is due. -/
def ticksOf (t : ℚ) : ℕ := ⌈t / TIMER_INTERVAL_MILLIS⌉₊

/-- A countdown is active: it is not due yet. -/
def Active (history : List (CountdownEntry κ)) : Prop :=
  ∃ t cb n, SetSince history t cb n ∧ n < ticksOf t

/-- A callback is due: the timer has just ticked, for the last time of its countdown. -/
def Due (history : List (CountdownEntry κ)) (cb : κ) : Prop :=
  ∃ front t, history = front ++ [.tick] ∧ SetSince history t (some cb) (ticksOf t)

/-- What is to hold of an entry and the history before it. -/
structure FiresWhenDue (history : List (CountdownEntry κ)) (e : CountdownEntry κ) : Prop where
  /-- A countdown is set exactly if it has some time, and none is active. -/
  setTimeout : ∀ t cb result, e = .setTimeout t cb result →
    (result = true ↔ 0 < t ∧ ¬ Active history)
  /-- The countdown has expired exactly if none is active. -/
  expired : ∀ result, e = .expired result → (result = true ↔ ¬ Active history)
  /-- A callback is called only when it is due. -/
  callback : ∀ cb, e = .callback cb → Due history cb
  /-- A callback that is due is called next. -/
  due : ∀ cb, Due history cb → e = .callback cb

variable {history : List (CountdownEntry κ)} {e : CountdownEntry κ} {t : ℚ} {cb : Option κ} {n : ℕ}

/-- An entry that neither sets, nor ends, nor ticks. -/
def CountdownEntry.Neutral (e : CountdownEntry κ) : Prop :=
  e.begins = none ∧ e.ends = false ∧ e.isTick = false

theorem setSince_concat_neutral (he : e.Neutral) :
    SetSince (history ++ [e]) t cb n ↔ SetSince history t cb n := by
  obtain ⟨hbegins, hends, htick⟩ := he
  rw [SetSince, History.countedSince_concat_iff hbegins hends, htick]
  simp [SetSince]

theorem setSince_concat_tick :
    SetSince (history ++ [.tick]) t cb n ↔ ∃ m, n = m + 1 ∧ SetSince history t cb m :=
  History.countedSince_concat_iff rfl rfl

theorem setSince_concat_setTimeout {t' : ℚ} {cb' : Option κ} :
    SetSince (history ++ [.setTimeout t cb true]) t' cb' n ↔ (t', cb') = (t, cb) ∧ n = 0 :=
  History.countedSince_concat_begin rfl

theorem active_concat_neutral (he : e.Neutral) : Active (history ++ [e]) ↔ Active history := by
  simp only [Active, setSince_concat_neutral he]

theorem not_active_of_ends (hbegins : e.begins = none) (hends : e.ends = true) :
    ¬ Active (history ++ [e]) := by
  rintro ⟨t, cb, n, hsince, -⟩
  exact History.not_countedSince_concat_end hbegins hends hsince

theorem not_due_concat (he : e ≠ .tick) (cb : κ) : ¬ Due (history ++ [e]) cb := by
  rintro ⟨front, t, hsplit, -⟩
  exact he (List.singleton_inj.1 (List.append_inj' hsplit rfl).2)

theorem active_iff (h : SetSince history t cb n) : Active history ↔ n < ticksOf t := by
  constructor
  · rintro ⟨t', cb', n', h', hlt⟩
    obtain ⟨hpair, rfl⟩ := History.CountedSince.unique h h'
    obtain ⟨rfl, rfl⟩ := Prod.mk.inj hpair
    exact hlt
  · exact fun hlt => ⟨t, cb, n, h, hlt⟩

theorem lt_ticksOf_iff : n < ticksOf t ↔ 0 < t - n * TIMER_INTERVAL_MILLIS := by
  have hpos : (0 : ℚ) < TIMER_INTERVAL_MILLIS := by norm_num [TIMER_INTERVAL_MILLIS]
  rw [ticksOf, Nat.lt_ceil, lt_div_iff₀ hpos, sub_pos]

end History

/-! ### The invariant -/

namespace Countdown

open CountdownTimer (TIMER_INTERVAL_MILLIS)

variable {κ : Type} {ids : TimerIds} {s : Countdown κ}

/-- No countdown is active, and nothing runs. -/
structure Idle (s : Countdown κ) : Prop where
  timeoutId : s.timeoutId = none
  remaining : s.remainingMillis ≤ 0
  running : s.sysTimer.running = []
  inactive : ¬ Active s.history

/-- A countdown of `t` milliseconds is active, and has ticked `n` times. -/
structure Counting (t : ℚ) (cb : Option κ) (n : ℕ) (s : Countdown κ) : Prop where
  since : SetSince s.history t cb n
  remaining : s.remainingMillis = t - n * TIMER_INTERVAL_MILLIS
  positive : 0 < s.remainingMillis
  running : ∃ id, id ≠ 0 ∧ s.timeoutId = some id ∧
    s.sysTimer.running = [(id, decide (t > TIMER_INTERVAL_MILLIS))]
  callback : s.cb = cb

/-- **The invariant**: the history is as it should be, no callback is outstanding, and the object is
idle or counting. -/
structure Inv (s : Countdown κ) : Prop where
  along : History.Along FiresWhenDue s.history
  notDue : ∀ cb, ¬ Due s.history cb
  phase : s.Idle ∨ ∃ t cb n, s.Counting t cb n

theorem Counting.active {t : ℚ} {cb : Option κ} {n : ℕ} (h : s.Counting t cb n) :
    Active s.history := by
  rw [active_iff h.since, lt_ticksOf_iff, ← h.remaining]
  exact h.positive

theorem Inv.expired_iff (h : s.Inv) : s.expired = true ↔ ¬ Active s.history := by
  rw [expired, decide_eq_true_iff]
  rcases h.phase with hidle | ⟨t, cb, n, hcounting⟩
  · exact iff_of_true hidle.remaining hidle.inactive
  · exact iff_of_false (not_le.2 hcounting.positive) (not_not.2 hcounting.active)

theorem Inv.isSet_iff (h : s.Inv) : s.isSet = true ↔ Active s.history := by
  rw [isSet]
  rcases h.phase with hidle | ⟨t, cb, n, hcounting⟩
  · rw [hidle.timeoutId]
    exact iff_of_false (by simp) hidle.inactive
  · obtain ⟨id, hne, hid, -⟩ := hcounting.running
    rw [hid]
    exact iff_of_true (by simpa using hne) hcounting.active

/-- An entry that is neither a callback nor made when a callback is due. -/
theorem Inv.along_concat (h : s.Inv) {e : CountdownEntry κ}
    (hset : ∀ t cb result, e = .setTimeout t cb result →
      (result = true ↔ 0 < t ∧ ¬ Active s.history))
    (hexpired : ∀ result, e = .expired result → (result = true ↔ ¬ Active s.history))
    (hcallback : ∀ cb, e ≠ .callback cb) :
    History.Along FiresWhenDue (s.history ++ [e]) :=
  History.along_concat_iff.2 ⟨h.along, hset, hexpired, fun cb he => absurd he (hcallback cb),
    fun cb hdue => absurd hdue (h.notDue cb)⟩

theorem Inv.along_tick (h : s.Inv) : History.Along FiresWhenDue (s.history ++ [.tick]) := by
  refine h.along_concat ?_ ?_ ?_
  · intro t cb result he
    cases he
  · intro result he
    cases he
  · intro cb he
    cases he

/-- An entry that leaves the object alone. -/
theorem Inv.record (h : s.Inv) {e : CountdownEntry κ} (hneutral : e.Neutral)
    (hset : ∀ t cb result, e = .setTimeout t cb result →
      (result = true ↔ 0 < t ∧ ¬ Active s.history))
    (hexpired : ∀ result, e = .expired result → (result = true ↔ ¬ Active s.history)) :
    (s.record e).Inv := by
  have hcallback : ∀ cb, e ≠ .callback cb := by
    rintro cb rfl
    cases hneutral.2.1
  have htick : e ≠ .tick := by
    rintro rfl
    cases hneutral.2.2
  refine ⟨h.along_concat hset hexpired hcallback, not_due_concat htick, ?_⟩
  rcases h.phase with hidle | ⟨t, cb, n, hcounting⟩
  · exact .inl ⟨hidle.timeoutId, hidle.remaining, hidle.running,
      fun hactive => hidle.inactive ((active_concat_neutral hneutral).1 hactive)⟩
  · exact .inr ⟨t, cb, n, (setSince_concat_neutral hneutral).2 hcounting.since,
      hcounting.remaining, hcounting.positive, hcounting.running, hcounting.callback⟩

/-! ### Calls -/

/-- A countdown that is not set. -/
theorem setTimeout_eq_false (h : s.Inv) {t : ℚ} (cb : Option κ)
    (hfails : ¬(0 < t ∧ ¬ Active s.history)) : s.setTimeout ids t cb = (false, s) := by
  rw [setTimeout]
  split
  · rfl
  · rename_i hset
    rw [h.isSet_iff] at hset
    have hle : t = 0 ∨ t < 0 := (not_lt.1 fun hpos => hfails ⟨hpos, hset⟩).eq_or_lt
    rw [if_pos hle]

/-- A countdown that is set: a timer of the system is started. -/
theorem setTimeout_eq_true (ids : TimerIds) (h : s.Inv) {t : ℚ} (cb : Option κ) (hpos : 0 < t)
    (hinactive : ¬ Active s.history) :
    ∃ id, id ≠ 0 ∧ ∃ started, s.setTimeout ids t cb = (true,
      ⟨t, some id, cb, ⟨started, [(id, decide (t > TIMER_INTERVAL_MILLIS))]⟩, s.history⟩) := by
  have hidle : s.Idle := h.phase.resolve_right fun ⟨_, _, _, hcounting⟩ =>
    hinactive hcounting.active
  have hset : ¬ s.isSet = true := fun hset => hinactive (h.isSet_iff.1 hset)
  have hzero : ¬(t = 0 ∨ t < 0) := by
    rintro (rfl | hneg)
    · exact lt_irrefl _ hpos
    · exact lt_asymm hneg hpos
  refine ⟨ids.id s.sysTimer.started, ids.ne_zero _, s.sysTimer.started + 1, ?_⟩
  rw [setTimeout, if_neg hset, if_neg hzero]
  by_cases hlong : t > TIMER_INTERVAL_MILLIS
  · simp [hlong, SystemTimers.setInterval, SystemTimers.start, hidle.running]
  · simp [hlong, SystemTimers.setTimeout, SystemTimers.start, hidle.running]

theorem inv_setTimeout (h : s.Inv) (t : ℚ) (cb : Option κ) :
    (s.perform ids (.setTimeout t cb)).Inv := by
  by_cases hsets : 0 < t ∧ ¬ Active s.history
  · obtain ⟨id, hne, started, heq⟩ := setTimeout_eq_true ids h cb hsets.1 hsets.2
    rw [perform, heq]
    refine ⟨h.along_concat ?_ ?_ ?_, not_due_concat (by simp), .inr ⟨t, cb, 0, ?_⟩⟩
    · intro t' cb' result he
      obtain ⟨rfl, rfl, rfl⟩ := CountdownEntry.setTimeout.inj he
      exact iff_of_true rfl hsets
    · intro result he
      cases he
    · intro cb' he
      cases he
    · exact ⟨setSince_concat_setTimeout.2 ⟨rfl, rfl⟩, by simp [record], hsets.1,
        ⟨id, hne, rfl, rfl⟩, rfl⟩
  · rw [perform, setTimeout_eq_false h cb hsets]
    refine h.record ⟨rfl, rfl, rfl⟩ ?_ ?_
    · intro t' cb' result he
      obtain ⟨rfl, rfl, rfl⟩ := CountdownEntry.setTimeout.inj he
      exact iff_of_false (by simp) hsets
    · intro result he
      cases he

/-- Whatever runs is stopped. -/
theorem clearTimeout_eq (h : s.Inv) :
    s.clearTimeout = ⟨0, none, s.cb, ⟨s.sysTimer.started, []⟩, s.history⟩ := by
  rcases h.phase with hidle | ⟨t, cb, n, hcounting⟩
  · have hset : s.isSet = false := by
      rw [isSet, hidle.timeoutId]
      rfl
    have hrunning : s.sysTimer = ⟨s.sysTimer.started, []⟩ := by
      rw [← hidle.running]
    rw [clearTimeout, hset]
    simp only [Bool.false_eq_true, if_false]
    rw [hidle.timeoutId, ← hrunning]
  · obtain ⟨id, hne, hid, hrunning⟩ := hcounting.running
    have hset : s.isSet = true := by
      rw [isSet, hid]
      simpa using hne
    rw [clearTimeout, hset, SystemTimers.clearTimeout, hrunning, hid]
    simp

theorem inv_clearTimeout (h : s.Inv) : (s.perform ids .clearTimeout).Inv := by
  rw [perform, clearTimeout_eq h]
  refine ⟨h.along_concat ?_ ?_ ?_, not_due_concat (by simp),
    .inl ⟨rfl, le_refl _, rfl, not_active_of_ends rfl rfl⟩⟩
  · intro t cb result he
    cases he
  · intro result he
    cases he
  · intro cb he
    cases he

theorem inv_expired (h : s.Inv) : (s.perform ids .expired).Inv := by
  refine h.record ⟨rfl, rfl, rfl⟩ ?_ ?_
  · intro t cb result he
    cases he
  · intro result he
    obtain rfl := CountdownEntry.expired.inj he
    exact h.expired_iff

/-- **The step lemma for calls**, from outside or from inside a callback. -/
theorem Inv.perform (h : s.Inv) (c : CountdownCall κ) : (s.perform ids c).Inv := by
  cases c with
  | setTimeout t cb => exact inv_setTimeout h t cb
  | clearTimeout => exact inv_clearTimeout h
  | expired => exact inv_expired h

theorem Inv.foldl_perform (h : s.Inv) (calls : List (CountdownCall κ)) :
    (calls.foldl (Countdown.perform ids) s).Inv := by
  induction calls generalizing s with
  | nil => exact h
  | cons c calls ih => exact ih (h.perform c)

/-! ### Ticks -/

/-- The timer that drives the countdown is the only one that runs. -/
theorem Counting.of_running {id : ℕ} (h : s.Inv)
    (hid : s.sysTimer.running.any (·.1 = id) = true) :
    ∃ t cb n, s.Counting t cb n ∧ id ≠ 0 ∧ s.timeoutId = some id ∧
      s.sysTimer.running = [(id, decide (t > TIMER_INTERVAL_MILLIS))] := by
  rcases h.phase with hidle | ⟨t, cb, n, hcounting⟩
  · rw [hidle.running] at hid
    cases hid
  · obtain ⟨id', hne, htimeoutId, hrunning⟩ := hcounting.running
    rw [hrunning] at hid
    obtain rfl : id' = id := by simpa using hid
    exact ⟨t, cb, n, hcounting, hne, htimeoutId, hrunning⟩

/-- The state after a tick with some time left. -/
theorem timerTick_eq_early {id : ℕ} (hearly : 0 < s.remainingMillis - TIMER_INTERVAL_MILLIS)
    (inside : List (CountdownCall κ)) :
    timerTick ids inside ({ s with sysTimer := s.sysTimer.fire id }.record .tick) =
      ⟨s.remainingMillis - TIMER_INTERVAL_MILLIS, s.timeoutId, s.cb, s.sysTimer.fire id,
        s.history ++ [.tick]⟩ :=
  if_neg (by simpa [expired, record] using hearly)

/-- The state after the last tick of a countdown, before its callback is called. -/
def stopped (id : ℕ) (s : Countdown κ) : Countdown κ :=
  ⟨s.remainingMillis - TIMER_INTERVAL_MILLIS, none, s.cb,
    (s.sysTimer.fire id).clearTimeout (some id), s.history ++ [.tick]⟩

theorem timerTick_eq_last {id : ℕ} (hid : s.timeoutId = some id)
    (hlast : s.remainingMillis - TIMER_INTERVAL_MILLIS ≤ 0) (inside : List (CountdownCall κ)) :
    timerTick ids inside ({ s with sysTimer := s.sysTimer.fire id }.record .tick) =
      match s.cb with
      | some cb => inside.foldl (Countdown.perform ids) ((s.stopped id).record (.callback cb))
      | none => s.stopped id := by
  rw [timerTick]
  simp only [record, expired, decide_eq_true hlast, if_true, hid]
  rfl

/-- A tick that is not the last one of its countdown. -/
theorem inv_tick_early {id : ℕ} {t : ℚ} {cb : Option κ} {n : ℕ} (h : s.Inv)
    (hcounting : s.Counting t cb n) (hne : id ≠ 0) (hid : s.timeoutId = some id)
    (hrunning : s.sysTimer.running = [(id, decide (t > TIMER_INTERVAL_MILLIS))])
    (hearly : 0 < s.remainingMillis - TIMER_INTERVAL_MILLIS)
    (inside : List (CountdownCall κ)) :
    (timerTick ids inside ({ s with sysTimer := s.sysTimer.fire id }.record .tick)).Inv := by
  have hsince : SetSince (s.history ++ [.tick]) t cb (n + 1) :=
    setSince_concat_tick.2 ⟨n, rfl, hcounting.since⟩
  have hremaining : s.remainingMillis - TIMER_INTERVAL_MILLIS =
      t - (n + 1 : ℕ) * TIMER_INTERVAL_MILLIS := by
    rw [hcounting.remaining]
    push_cast
    ring
  -- what is left after the tick has been there before, and more
  have hlong : t > TIMER_INTERVAL_MILLIS := by
    have hnonneg : (0 : ℚ) ≤ n * TIMER_INTERVAL_MILLIS :=
      mul_nonneg n.cast_nonneg (by norm_num [TIMER_INTERVAL_MILLIS])
    rw [hcounting.remaining] at hearly
    linarith
  have hfire : (s.sysTimer.fire id).running = [(id, decide (t > TIMER_INTERVAL_MILLIS))] := by
    rw [SystemTimers.fire, hrunning]
    simp [hlong]
  rw [timerTick_eq_early hearly]
  refine ⟨h.along_tick, fun cb' => ?_, .inr ⟨t, cb, n + 1, hsince, hremaining, hearly,
    ⟨id, hne, hid, hfire⟩, hcounting.callback⟩⟩
  rintro ⟨front, t', hsplit, hdue⟩
  obtain ⟨hpair, hn⟩ := History.CountedSince.unique hsince hdue
  obtain ⟨rfl, -⟩ := Prod.mk.inj hpair
  have hlt : n + 1 < ticksOf t := lt_ticksOf_iff.2 (hremaining ▸ hearly)
  omega

/-- **The last tick of a countdown.**  Its callback is called, and it may set the next one. -/
theorem inv_tick_last {id : ℕ} {t : ℚ} {cb : Option κ} {n : ℕ} (h : s.Inv)
    (hcounting : s.Counting t cb n) (hid : s.timeoutId = some id)
    (hrunning : s.sysTimer.running = [(id, decide (t > TIMER_INTERVAL_MILLIS))])
    (hlast : s.remainingMillis - TIMER_INTERVAL_MILLIS ≤ 0)
    (inside : List (CountdownCall κ)) :
    (timerTick ids inside ({ s with sysTimer := s.sysTimer.fire id }.record .tick)).Inv := by
  have hsince : SetSince (s.history ++ [.tick]) t cb (n + 1) :=
    setSince_concat_tick.2 ⟨n, rfl, hcounting.since⟩
  have hticks : ticksOf t = n + 1 := by
    have hbefore : n < ticksOf t := lt_ticksOf_iff.2 (hcounting.remaining ▸ hcounting.positive)
    have hafter : ¬ n + 1 < ticksOf t := by
      rw [lt_ticksOf_iff]
      rw [hcounting.remaining] at hlast
      push_cast
      linarith
    omega
  have hstopped : ((s.sysTimer.fire id).clearTimeout (some id)).running = [] := by
    rw [SystemTimers.clearTimeout, SystemTimers.fire, hrunning, List.filter_eq_nil_iff]
    intro timer hmem
    obtain rfl := List.mem_singleton.1 (List.mem_filter.1 hmem).1
    simp
  rw [timerTick_eq_last hid hlast, hcounting.callback]
  cases cb with
  | none =>
      -- nobody is to be called back
      refine ⟨h.along_tick, ?_, .inl ⟨rfl, hlast, hstopped, ?_⟩⟩
      · rintro cb ⟨front, t', -, hdue⟩
        cases (Prod.mk.inj (History.CountedSince.unique hsince hdue).1).2
      · change ¬ Active (s.history ++ [.tick])
        rw [active_iff hsince, hticks]
        exact lt_irrefl _
  | some cb =>
      refine Inv.foldl_perform ⟨?_, not_due_concat (by simp),
        .inl ⟨rfl, hlast, hstopped, not_active_of_ends rfl rfl⟩⟩ inside
      have hdue : Due (s.history ++ [.tick]) cb := ⟨s.history, t, rfl, hticks ▸ hsince⟩
      refine History.along_concat_iff.2 ⟨h.along_tick, ?_, ?_, ?_, ?_⟩
      · intro t' cb' result he
        cases he
      · intro result he
        cases he
      · intro cb' he
        obtain rfl := CountdownEntry.callback.inj he
        exact hdue
      · rintro cb' ⟨front, t', -, hdue'⟩
        obtain ⟨-, hcb⟩ := Prod.mk.inj (History.CountedSince.unique hsince hdue').1
        rw [Option.some_inj.1 hcb]

/-! ### Runs -/

/-- **The step lemma.** -/
theorem Inv.next (h : s.Inv) (event : CountdownEvent κ) : ((machine ids).next s event).Inv := by
  cases event with
  | call c => exact h.perform c
  | tick id inside =>
      change Inv (if _ then _ else _)
      split
      · rename_i hid
        obtain ⟨t, cb, n, hcounting, hne, htimeoutId, hrunning⟩ := Counting.of_running h hid
        rcases lt_or_ge 0 (s.remainingMillis - TIMER_INTERVAL_MILLIS) with hearly | hlast
        · exact inv_tick_early h hcounting hne htimeoutId hrunning hearly inside
        · exact inv_tick_last h hcounting htimeoutId hrunning hlast inside
      · exact h

theorem not_active_nil : ¬ Active ([] : List (CountdownEntry κ)) := by
  rintro ⟨t, cb, n, hsince, -⟩
  exact History.not_countedSince_nil hsince

theorem inv_initial : (initial : Countdown κ).Inv := by
  refine ⟨History.along_nil _, ?_, .inl ⟨rfl, le_refl _, rfl, not_active_nil⟩⟩
  rintro cb ⟨front, t, hsplit, -⟩
  exact absurd hsplit (by simp [initial])

/-- **A countdown fires exactly when it is due**: at every point of every run of a new timer, a
countdown is set if and only if it has some time and none is active, its callback is called at the
tick at which it is due and at no other, and the timer has expired if and only if no countdown is
active. -/
theorem firesWhenDue_exec (ids : TimerIds) (timeoutMillis : ℚ) (cb : Option κ)
    (events : List (CountdownEvent κ)) :
    let s := (machine ids).exec (new ids timeoutMillis cb) events
    History.Along FiresWhenDue s.history ∧ (∀ cb, ¬ Due s.history cb) ∧
      (s.expired = true ↔ ¬ Active s.history) := by
  have hinv : ((machine ids).exec (new ids timeoutMillis cb) events).Inv :=
    Machine.exec_invariant' (I := Inv) (fun _ event h => h.next event) events
      (inv_initial.perform _)
  exact ⟨hinv.along, hinv.notDue, hinv.expired_iff⟩

/-- The ids of a browser, which begin with 1. -/
def browserIds : TimerIds := ⟨fun n => n + 1, fun n => Nat.succ_ne_zero n⟩

/-- A countdown of 500 milliseconds is due at its third tick; its callback sets the next one. -/
example : ((machine browserIds).exec (new browserIds 500 (some 'a'))
    [.tick 1 [], .tick 1 [], .call (.setTimeout 50 none), .tick 1 [.setTimeout 50 (some 'b')],
      .tick 1 [], .tick 2 [], .call .expired]).history =
    [.setTimeout 500 (some 'a') true, .tick, .tick, .setTimeout 50 none false, .tick, .callback 'a',
      .setTimeout 50 (some 'b') true, .tick, .callback 'b', .expired true] := by
  decide +kernel

/-! ### The timer of a watchdog -/

/-- What the timer of a watchdog keeps of a countdown. -/
def view (s : Countdown κ) : CountdownTimer := ⟨s.remainingMillis, s.isSet⟩

theorem view_new (ids : TimerIds) (timeoutMillis : ℚ) (cb : Option κ) :
    (new ids timeoutMillis cb).view = CountdownTimer.new timeoutMillis := by
  rcases le_or_gt timeoutMillis 0 with hle | hpos
  · have hfails : ¬(0 < timeoutMillis ∧ ¬ Active (initial : Countdown κ).history) :=
      fun h => not_lt.2 hle h.1
    rw [new, perform, setTimeout_eq_false inv_initial cb hfails, CountdownTimer.new, if_pos hle]
    rfl
  · obtain ⟨id, hne, started, heq⟩ :=
      setTimeout_eq_true ids inv_initial cb hpos not_active_nil
    rw [new, perform, heq, CountdownTimer.new, if_neg (not_le.2 hpos)]
    simp [view, record, isSet, hne]

theorem view_clearTimeout (h : s.Inv) : s.clearTimeout.view = s.view.clearTimeout := by
  rw [clearTimeout_eq h]
  rfl

/-- **The timer of a watchdog is a countdown whose callback is not followed.** -/
theorem view_timerTick (h : s.Inv) {id : ℕ}
    (hid : s.sysTimer.running.any (·.1 = id) = true) :
    ((machine ids).next s (.tick id [])).view = s.view.timerTick.1 := by
  obtain ⟨t, cb, n, hcounting, hne, htimeoutId, -⟩ := Counting.of_running h hid
  have hticking : s.view.ticking = true := h.isSet_iff.2 hcounting.active
  have hnext : (machine ids).next s (.tick id []) =
      timerTick ids [] ({ s with sysTimer := s.sysTimer.fire id }.record .tick) := if_pos hid
  rw [hnext, CountdownTimer.timerTick, if_pos hticking]
  rcases lt_or_ge 0 (s.remainingMillis - TIMER_INTERVAL_MILLIS) with hearly | hlast
  · rw [timerTick_eq_early hearly]
    have hexpired : ¬ s.view.remainingMillis - TIMER_INTERVAL_MILLIS ≤ 0 := not_le.2 hearly
    simp only [CountdownTimer.expired, decide_eq_false hexpired, Bool.false_eq_true, if_false]
    rfl
  · rw [timerTick_eq_last htimeoutId hlast]
    have hexpired : s.view.remainingMillis - TIMER_INTERVAL_MILLIS ≤ 0 := hlast
    simp only [CountdownTimer.expired, decide_eq_true hexpired, if_true]
    cases s.cb <;> rfl

end Countdown

end U2F
