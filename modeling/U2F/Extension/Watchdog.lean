/-
**Timers, the watchdog of a request and its responses.**

`countdowntimer.js`, `watchdog.js` and `sendResponseOnce` of `webrequest.js`.  A request of a page is
looked after by a watchdog, which closes what works on the request and answers when nothing else has
answered in time.

Main definitions:

* `CountdownTimer` — a timer, with the time that is left and whether it ticks;
* `WatchdogRequestHandler` — the watchdog;
* `PageRequest` — the watchdog of a request, what it watches, and the responses sent;
* `PageRequest.sendResponseOnce`, `PageRequest.wrapCallback`, `PageRequest.watchdogTick`;
* `PageRequest.view` — the request as a cell that is open until its watchdog is closed.

Main results:

* `PageRequest.refines_sendResponseOnce`, `PageRequest.refines_wrapCallback` — a response of an open
  request answers it, if closing what is watched does not send one too.
-/

import U2F.Extension.WebRequest
import U2F.Lib.OneShot

set_option relaxedAutoImplicit false
set_option autoImplicit false

namespace U2F

/-! ### Timers -/

/-- A countdown timer.  It ticks while the system timer that drives it is set. -/
structure CountdownTimer where
  remainingMillis : ℚ
  /-- Whether `timeoutId` is set. -/
  ticking : Bool

namespace CountdownTimer

def TIMER_INTERVAL_MILLIS : ℚ := 200

/-- A new timer; it never ticks if there is no time to count down. -/
def new (timeoutMillis : ℚ) : CountdownTimer :=
  if timeoutMillis ≤ 0 then ⟨0, false⟩ else ⟨timeoutMillis, true⟩

def clearTimeout (_ : CountdownTimer) : CountdownTimer := ⟨0, false⟩

def expired (t : CountdownTimer) : Bool := t.remainingMillis ≤ 0

def millisecondsUntilExpired (t : CountdownTimer) : ℚ :=
  if 0 < t.remainingMillis then t.remainingMillis else 0

def clone (t : CountdownTimer) : CountdownTimer := new t.remainingMillis

/-- A tick of the timer, and whether it calls its callback. -/
def timerTick (t : CountdownTimer) : CountdownTimer × Bool :=
  if t.ticking then
    let t := { t with remainingMillis := t.remainingMillis - TIMER_INTERVAL_MILLIS }
    if t.expired then ({ t with ticking := false }, true) else (t, false)
  else (t, false)

end CountdownTimer

def MINIMUM_TIMEOUT_ATTENUATION_SECONDS : ℚ := 1

def attenuateTimeoutInSeconds (timeoutSeconds attenuationSeconds : ℚ) : ℚ :=
  if timeoutSeconds < attenuationSeconds then 0 else timeoutSeconds - attenuationSeconds

def DEFAULT_REQUEST_TIMEOUT_SECONDS : ℚ := 30

def getTimeoutValueFromRequest (request : U2fRequest) : ℚ :=
  match request.timeoutSeconds, request.timeout with
  | some timeoutSeconds, _ => timeoutSeconds
  | none, some timeout => timeout
  | none, none => DEFAULT_REQUEST_TIMEOUT_SECONDS

def createAttenuatedTimer (timeoutValueSeconds : ℚ) : CountdownTimer :=
  .new (attenuateTimeoutInSeconds timeoutValueSeconds MINIMUM_TIMEOUT_ATTENUATION_SECONDS * 1000)

/-! ### The watchdog -/

structure WatchdogRequestHandler where
  calledBack : Bool
  timer : CountdownTimer
  /-- Whether the closeable is set. -/
  closeable : Bool
  closed : Bool

/-- The constructor. -/
def WatchdogRequestHandler.new (timeoutValueSeconds : ℚ) : WatchdogRequestHandler :=
  ⟨false, .new (timeoutValueSeconds * 1000), false, false⟩

/-- A request that has a watchdog.  `work` is the closeable that the watchdog watches. -/
structure PageRequest (κ : Type) where
  watchdog : WatchdogRequestHandler
  work : κ
  /-- The responses sent. -/
  sent : List Response

namespace PageRequest

variable {κ : Type}

section

variable (closeWork : PageRequest κ → PageRequest κ)

/-- Closes the watchdog, and then what it watches. -/
def close (s : PageRequest κ) : PageRequest κ :=
  let s := { s with watchdog :=
    { s.watchdog with closed := true, timer := s.watchdog.timer.clearTimeout } }
  if s.watchdog.closeable then
    let s := closeWork s
    { s with watchdog := { s.watchdog with closeable := false } }
  else s

/-- Sends a response after closing the watchdog.  The sentinel is passed by value, so the caller's
one is always false. -/
def sendResponseOnce (response : Response) (s : PageRequest κ) : PageRequest κ :=
  let s := s.close closeWork
  { s with sent := s.sent ++ [response] }

end

/-- A callback that is wrapped by the watchdog. -/
def wrapCallback (cb : PageRequest κ → PageRequest κ) (s : PageRequest κ) : PageRequest κ :=
  if s.watchdog.closed then s
  else
    cb { s with watchdog :=
      { s.watchdog with calledBack := true, timer := s.watchdog.timer.clearTimeout } }

/-- A tick of the watchdog's timer; when it expires, `timeout_` is called. -/
def watchdogTick (timeoutCb : PageRequest κ → PageRequest κ) (s : PageRequest κ) :
    PageRequest κ :=
  let (timer, fires) := s.watchdog.timer.timerTick
  let s := { s with watchdog := { s.watchdog with timer := timer } }
  if fires ∧ ¬ s.watchdog.calledBack ∧ ¬ s.watchdog.closed then timeoutCb s else s

/-- **A request as a machine.**  Without a handler, the one response has been sent. -/
def machine {ε : Type} (handle : PageRequest κ → ε → PageRequest κ) :
    Machine (Except Response (PageRequest κ)) ε Unit :=
  ⟨fun s e => ((), s.map fun s => handle s e)⟩

/-- The responses sent to a request. -/
def responses : Except Response (PageRequest κ) → List Response
  | .error response => [response]
  | .ok s => s.sent

/-- Closing depends only on how a closed request closes what it watches. -/
theorem close_congr {closeWork closeWork' : PageRequest κ → PageRequest κ}
    (h : ∀ s, s.watchdog.closed = true → closeWork s = closeWork' s) :
    close closeWork = close closeWork' := by
  funext s
  dsimp only [close]
  rw [h _ rfl]

/-! ### The request as a cell -/

/-- **The request as a cell**: open until its watchdog is closed. -/
def view : OneShot.View (PageRequest κ) Response := ⟨fun s => !s.watchdog.closed, sent⟩

/-- Nothing that the cell shows changes. -/
def Same (s t : PageRequest κ) : Prop :=
  t.watchdog.closed = s.watchdog.closed ∧ t.sent = s.sent

theorem Same.refines {s t : PageRequest κ} (h : Same s t) : view.Refines s t :=
  .of_eq (by simp [view, h.1]) h.2

theorem Same.trans {s t u : PageRequest κ} (hst : Same s t) (htu : Same t u) : Same s u :=
  ⟨htu.1.trans hst.1, htu.2.trans hst.2⟩

variable {closeWork : PageRequest κ → PageRequest κ}

/-- Closing sends nothing, if closing what is watched does not once the watchdog is closed. -/
theorem close_spec (hclose : ∀ s, s.watchdog.closed = true → Same s (closeWork s))
    (s : PageRequest κ) : (s.close closeWork).watchdog.closed = true ∧
      (s.close closeWork).sent = s.sent := by
  dsimp only [close]
  split
  · obtain ⟨hclosed, hsent⟩ := hclose { s with watchdog :=
      { s.watchdog with closed := true, timer := s.watchdog.timer.clearTimeout } } rfl
    exact ⟨hclosed, hsent⟩
  · exact ⟨rfl, rfl⟩

theorem refines_close (hclose : ∀ s, s.watchdog.closed = true → Same s (closeWork s))
    (s : PageRequest κ) : view.Refines s (s.close closeWork) := by
  obtain ⟨hclosed, hsent⟩ := close_spec hclose s
  cases h : s.watchdog.closed with
  | false => exact .of_dismiss (by simp [view, h]) (by simp [view, hclosed]) hsent
  | true => exact .of_eq (by simp [view, h, hclosed]) hsent

/-- The response of an open request answers it. -/
theorem refines_sendResponseOnce (hclose : ∀ s, s.watchdog.closed = true → Same s (closeWork s))
    (response : Response) {s : PageRequest κ} (hs : s.watchdog.closed = false) :
    view.Refines s (s.sendResponseOnce closeWork response) := by
  obtain ⟨hclosed, hsent⟩ := close_spec hclose s
  refine .of_answer (r := response) (by simp [view, hs]) ?_ ?_
  · simpa [view, sendResponseOnce] using hclosed
  · simp [view, sendResponseOnce, hsent]

theorem wrapCallback_of_closed {cb : PageRequest κ → PageRequest κ} {s : PageRequest κ}
    (hs : s.watchdog.closed = true) : s.wrapCallback cb = s := by
  simp [wrapCallback, hs]

theorem refines_wrapCallback {cb : PageRequest κ → PageRequest κ}
    (hcb : ∀ s, s.watchdog.closed = false → view.Refines s (cb s)) (s : PageRequest κ) :
    view.Refines s (s.wrapCallback cb) := by
  unfold wrapCallback
  split
  case isTrue => exact .refl s
  case isFalse h =>
    refine .trans ?_ (hcb _ (by simpa using h))
    exact .of_eq rfl rfl

theorem refines_watchdogTick {timeoutCb : PageRequest κ → PageRequest κ}
    (hcb : ∀ s, s.watchdog.closed = false → view.Refines s (timeoutCb s)) (s : PageRequest κ) :
    view.Refines s (s.watchdogTick timeoutCb) := by
  dsimp only [watchdogTick]
  split
  case isTrue h =>
    refine .trans ?_ (hcb _ (by simpa using h.2.2))
    exact .of_eq rfl rfl
  case isFalse => exact .of_eq rfl rfl

end PageRequest

end U2F
