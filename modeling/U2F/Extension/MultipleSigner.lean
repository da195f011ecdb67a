/-
**The signer for all gnubbies.**

`multiplesigner.js`: a `MultipleGnubbySigner` enumerates the gnubbies again and again, starts a
`SingleGnubbySigner` on each new one, passes their results on to its owner, and tells its owner when
the time is over and all of them have completed.

The signers of the gnubbies are part of its state, and what happens to one of them is one of its
steps.  The owner is what is on the other side of its two callbacks: in each of them it may call
methods of the signer.  A signer may call back while its `doSign` runs, since a device that is not
there is noticed at once.

Main definitions:

* `MultipleGnubbySigner` — the signer; `MultipleGnubbySigner.Owner` — its owner;
* `MultipleGnubbySigner.signCompletedCallback_`, `MultipleGnubbySigner.addGnubby_` — the bookkeeping;
* `MultipleGnubbySigner.step` — what can happen to it.

Main results:

* `MultipleGnubbySigner.inv_step` — **every gnubby is either counted or still going, and at most one
  `allCompleteCb` is scheduled**, whatever the owner does;
* `MultipleGnubbySigner.step_owner` — what a step is to the owner.
-/

import U2F.Extension.B64
import U2F.Extension.SingleSigner

set_option relaxedAutoImplicit false
set_option autoImplicit false

namespace U2F

/-! ### The signers of the gnubbies -/

namespace SingleGnubbySigner

/-- The signer after a callback. -/
def callback (e : Event) (s : SingleGnubbySigner) : SingleGnubbySigner :=
  if e.isCallback then s.handle e else s

/-- The result with which the signer is calling its `completeCb`. -/
def reports (s : SingleGnubbySigner) : Option SingleSignerResult :=
  match s.awaiting with
  | .completeCb _ => s.completions.head?
  | _ => none

end SingleGnubbySigner

/-- The id of a device.  (Its JSON is the index of the gnubby, which tells ids apart.) -/
structure GnubbyDeviceId where
  nameSpace : JSString
  device : ℕ
  deriving DecidableEq

structure GnubbyTracker where
  index : GnubbyDeviceId
  signer : SingleGnubbySigner
  stillGoing : Bool
  errorStatus : ℤ

/-- A gnubby that was opened for a device: the gnubby with a number that the signer of the device was
handed. -/
structure OpenGnubby where
  gnubbyId : GnubbyDeviceId
  number : ℕ
  deriving DecidableEq

structure MultipleSignerResult where
  code : ℤ
  gnubby : Option OpenGnubby
  gnubbyId : GnubbyDeviceId
  challenge : Option DecodedChallenge
  info : Option (List UInt8)
  deriving DecidableEq

structure MultipleGnubbySigner where
  forEnroll : Bool
  challenges : List DecodedChallenge
  challengesSet : Bool
  complete : Bool
  numComplete : ℕ
  gnubbies : List GnubbyTracker
  timerExpired : Bool
  reenumerateTimerExpired : Bool
  /-- How many enumerations are under way. -/
  enumerations : ℕ
  /-- Whether `reenumerateIntervalTimer_` is running. -/
  intervalTimer : Bool
  /-- How many interval timers are running that were replaced. -/
  otherIntervalTimers : ℕ
  /-- The calls of `allCompleteCb` that are scheduled. -/
  deferred : List Bool
  /-- The calls of `allCompleteCb` that were made. -/
  allCompleteCalls : List Bool
  /-- Whether an enumeration callback or a completion was processed when the time was over. -/
  processedAfterTimeout : Bool

namespace MultipleGnubbySigner

/-- The constructor. -/
def new (forEnroll : Bool) : MultipleGnubbySigner :=
  { forEnroll := forEnroll, challenges := [], challengesSet := false, complete := false
    numComplete := 0, gnubbies := [], timerExpired := false, reenumerateTimerExpired := false
    enumerations := 0, intervalTimer := false, otherIntervalTimers := 0, deferred := []
    allCompleteCalls := [], processedAfterTimeout := false }

/-! ### Trackers -/

/-- `this.gnubbies_[index]` -/
def tracker (index : GnubbyDeviceId) (s : MultipleGnubbySigner) : Option GnubbyTracker :=
  s.gnubbies.find? (·.index = index)

/-- Changes the tracker of an index. -/
def changeTracker (index : GnubbyDeviceId) (f : GnubbyTracker → GnubbyTracker) :
    List GnubbyTracker → List GnubbyTracker
  | [] => []
  | tracker :: gnubbies =>
      if tracker.index = index then f tracker :: gnubbies
      else tracker :: changeTracker index f gnubbies

def change (index : GnubbyDeviceId) (f : GnubbyTracker → GnubbyTracker)
    (s : MultipleGnubbySigner) : MultipleGnubbySigner :=
  { s with gnubbies := changeTracker index f s.gnubbies }

/-- The tracker after something has happened to its signer. -/
def onSigner (f : SingleGnubbySigner → SingleGnubbySigner) (tracker : GnubbyTracker) :
    GnubbyTracker :=
  { tracker with signer := f tracker.signer }

/-! ### Methods -/

/-- Closes this signer's gnubbies, if any are open.  Timers that are cleared become expired.  The
gnubbies of the given ids are done with their commands. -/
def close (idle : List GnubbyDeviceId) (s : MultipleGnubbySigner) : MultipleGnubbySigner :=
  { s with
    gnubbies := s.gnubbies.map fun tracker =>
      onSigner (·.handle (.close (tracker.index ∈ idle))) tracker
    timerExpired := true
    reenumerateTimerExpired := true
    intervalTimer := false }

/-- Whether more gnubbies are still running. -/
def anyPending_ (s : MultipleGnubbySigner) : Bool := s.numComplete < s.gnubbies.length

/-- Called upon timeout.  Notifying the caller is deferred. -/
def timeout_ (anyPending : Bool) (s : MultipleGnubbySigner) : MultipleGnubbySigner :=
  if s.complete then s
  else { s with complete := true, deferred := s.deferred ++ [anyPending] }

/-- Enumerates gnubbies. -/
def enumerateGnubbies_ (s : MultipleGnubbySigner) : MultipleGnubbySigner :=
  { s with enumerations := s.enumerations + 1 }

/-- Reenumerates gnubbies if there's still time.  (How long it waits depends on `activeScan`.) -/
def maybeReEnumerateGnubbies_ (_activeScan : Bool) (s : MultipleGnubbySigner) :
    MultipleGnubbySigner :=
  if s.reenumerateTimerExpired then
    if !s.anyPending_ then s.timeout_ false else s
  else
    { s with
      intervalTimer := true
      otherIntervalTimers :=
        if s.intervalTimer then s.otherIntervalTimers + 1 else s.otherIntervalTimers }

/-- Signals this signer to rescan for gnubbies. -/
def reScanDevices (s : MultipleGnubbySigner) : MultipleGnubbySigner :=
  { s with intervalTimer := false }.maybeReEnumerateGnubbies_ true

/-- A challenge as it is decoded; `none` is the exception for a missing key handle. -/
def decodeChallenge (challenge : SignHelperChallenge) : Option DecodedChallenge :=
  challenge.keyHandle.map fun keyHandle =>
    { challengeHash := B64_decode challenge.challengeHash
      appIdHash := B64_decode challenge.appIdHash
      keyHandle := B64_decode keyHandle
      version := if challenge.version ≠ [] then some challenge.version else none }

/-- The challenges that are decoded before one throws. -/
def decodeChallenges : List SignHelperChallenge → List DecodedChallenge
  | [] => []
  | challenge :: challenges =>
      match decodeChallenge challenge with
      | none => []
      | some decodedChallenge => decodedChallenge :: decodeChallenges challenges

/-- Begins signing the given challenges, and returns whether they were successfully added.  No answer
is an exception. -/
def doSign (challenges : Option (List SignHelperChallenge)) (s : MultipleGnubbySigner) :
    Option Bool × MultipleGnubbySigner :=
  if s.challengesSet then (some false, s)
  else
    let given := challenges.getD []
    let s := { s with challenges := s.challenges ++ decodeChallenges given }
    if given.all fun challenge => (decodeChallenge challenge).isSome then
      (some true, { s with challengesSet := true }.enumerateGnubbies_)
    else (none, s)

/-! ### The owner -/

/-- A call of a method by the owner. -/
inductive Call
  | close (idle : List GnubbyDeviceId)
  | reScanDevices
  deriving DecidableEq

def call (s : MultipleGnubbySigner) : Call → MultipleGnubbySigner
  | .close idle => s.close idle
  | .reScanDevices => s.reScanDevices

def calls (s : MultipleGnubbySigner) (cs : List Call) : MultipleGnubbySigner := cs.foldl call s

/-- What an owner does in a callback: the calls that it makes, its state afterwards, and whether it
throws in the end. -/
structure Reaction (σ : Type) where
  calls : List Call
  owner : σ
  throws : Bool

namespace Reaction

variable {σ : Type}

/-- Nothing happens. -/
def done (owner : σ) : Reaction σ := ⟨[], owner, false⟩

/-- An exception is thrown. -/
def throw (owner : σ) : Reaction σ := ⟨[], owner, true⟩

/-- One thing after another, unless the first one throws. -/
def andThen (reaction : Reaction σ) (f : σ → Reaction σ) : Reaction σ :=
  if reaction.throws then reaction
  else
    let next := f reaction.owner
    ⟨reaction.calls ++ next.calls, next.owner, next.throws⟩

@[simp] theorem done_andThen (owner : σ) (f : σ → Reaction σ) : (done owner).andThen f = f owner :=
  rfl

@[simp] theorem throw_andThen (owner : σ) (f : σ → Reaction σ) :
    (throw owner).andThen f = throw owner := rfl

/-- What both parts of a reaction keep. -/
theorem andThen_keeps {P : σ → Prop} {reaction : Reaction σ} {f : σ → Reaction σ}
    (h : P reaction.owner) (hf : P reaction.owner → P (f reaction.owner).owner) :
    P (reaction.andThen f).owner := by
  unfold andThen
  split
  · exact h
  · exact hf h

end Reaction

/-- An owner with a state of type `σ`. -/
structure Owner (σ : Type) where
  gnubbyCompleteCb : MultipleSignerResult → (moreExpected : Bool) → σ → Reaction σ
  allCompleteCb : (anyPending : Bool) → σ → Reaction σ

variable {σ : Type}

/-! ### Completions -/

/-- Counts another gnubby as having completed, and returns whether more results are expected. -/
def tallyCompletedGnubby_ (s : MultipleGnubbySigner) : Bool × MultipleGnubbySigner :=
  let s := { s with numComplete := s.numComplete + 1 }
  (s.anyPending_, s)

/-- The result that the owner is told. -/
def signResult (index : GnubbyDeviceId) (result : SingleSignerResult) : MultipleSignerResult :=
  { code := result.code
    gnubby := result.gnubby.map (⟨index, ·⟩)
    gnubbyId := index
    challenge := result.challenge
    info := result.info }

/-- Notifies the owner, and says whether it throws. -/
def notifyGnubbyComplete_ (O : Owner σ) (index : GnubbyDeviceId) (result : SingleSignerResult)
    (moreExpected : Bool) (s : MultipleGnubbySigner × σ) : (MultipleGnubbySigner × σ) × Bool :=
  let reaction := O.gnubbyCompleteCb (signResult index result) moreExpected s.2
  ((s.1.calls reaction.calls, reaction.owner), reaction.throws)

/-- Called by a `SingleGnubbySigner` upon completion.  It throws if the owner does. -/
def signCompletedCallback_ (O : Owner σ) (index : GnubbyDeviceId) (result : SingleSignerResult)
    (s : MultipleGnubbySigner × σ) : (MultipleGnubbySigner × σ) × Bool :=
  match s.1.tracker index with
  | none => (s, false)
  | some tracker =>
      -- "Shouldn't ever happen? Disregard."
      if !tracker.stillGoing then (s, false)
      else
        let (moreExpected, m) :=
          (s.1.change index fun tracker =>
            { tracker with stillGoing := false, errorStatus := result.code }).tallyCompletedGnubby_
        let (s, throws) :=
          if result.code = GONE_STATUS then
            ((if !moreExpected then m.maybeReEnumerateGnubbies_ true else m, s.2), false)
          else notifyGnubbyComplete_ O index result moreExpected (m, s.2)
        if throws then (s, true)
        else if !moreExpected && s.1.timerExpired then ((s.1.timeout_ false, s.2), false)
        else (s, false)

/-- Whether both timers have expired. -/
def timedOut (s : MultipleGnubbySigner) : Bool := s.timerExpired && s.reenumerateTimerExpired

/-- The record of what was processed when the time was over. -/
def processed (timedOut : Bool) (s : MultipleGnubbySigner) : MultipleGnubbySigner :=
  { s with processedAfterTimeout := s.processedAfterTimeout || timedOut }

/-- A callback of the signer of a gnubby, in which this may complete.  The signer does no more if its
`completeCb` throws. -/
def signerCallback (O : Owner σ) (index : GnubbyDeviceId) (e : SingleGnubbySigner.Event)
    (s : MultipleGnubbySigner × σ) : MultipleGnubbySigner × σ :=
  let m := s.1.change index (onSigner (·.callback e))
  match (m.tracker index).bind (·.signer.reports) with
  | none => (m, s.2)
  | some result =>
      let (s, throws) := signCompletedCallback_ O index result (m, s.2)
      if throws then (s.1.change index (onSigner (·.called)), s.2)
      else ((s.1.change index (onSigner (·.handle .returned))).processed m.timedOut, s.2)

/-! ### Enumerations -/

/-- A signer for another gnubby. -/
def newSigner (s : MultipleGnubbySigner) : SingleGnubbySigner :=
  { SingleGnubbySigner.new s.forEnroll with timerExpired := s.timerExpired }

/-- Adds a new gnubby to this signer's list of gnubbies, and begins signing on it.  The callbacks of
its signer that are given come while `doSign` runs. -/
def addGnubby_ (O : Owner σ) (gnubbyId : GnubbyDeviceId) (during : List SingleGnubbySigner.Event)
    (s : MultipleGnubbySigner × σ) : MultipleGnubbySigner × σ :=
  match s.1.tracker gnubbyId with
  | some _ => s
  | none =>
      let (stillGoing, signer) := s.1.newSigner.doSign s.1.challenges
      let tracker : GnubbyTracker :=
        { index := gnubbyId, signer := signer, stillGoing := false, errorStatus := 0 }
      let m := { s.1 with gnubbies := s.1.gnubbies ++ [tracker] }
      let s := during.foldl (fun s e => signerCallback O gnubbyId e s) (m, s.2)
      (s.1.change gnubbyId ({ · with stillGoing := stillGoing }), s.2)

/-- Called with the result of enumerating gnubbies. -/
def enumerateCallback_ (O : Owner σ) (rc : ℤ)
    (ids : Option (List (GnubbyDeviceId × List SingleGnubbySigner.Event)))
    (s : MultipleGnubbySigner × σ) : MultipleGnubbySigner × σ :=
  if s.1.complete then s
  else if rc ≠ 0 ∨ ids.getD [] = [] then (s.1.maybeReEnumerateGnubbies_ true, s.2)
  else
    let s := (ids.getD []).foldl (fun s id => addGnubby_ O id.1 id.2 s) s
    (s.1.maybeReEnumerateGnubbies_ false, s.2)

/-! ### Steps -/

/-- What can happen to a signer. -/
inductive Event
  /-- An enumeration is done.  The signer of a new gnubby has callbacks while its `doSign` runs. -/
  | enumerated (rc : ℤ) (ids : Option (List (GnubbyDeviceId × List SingleGnubbySigner.Event)))
  /-- A callback of the signer of a gnubby. -/
  | signer (index : GnubbyDeviceId) (e : SingleGnubbySigner.Event)
  /-- `reenumerateIntervalTimer_` expires. -/
  | intervalTimer
  /-- An interval timer expires that was replaced. -/
  | otherIntervalTimer
  | timerExpires
  /-- `reenumerateTimer_` expires, not before `timer_`. -/
  | reenumerateTimerExpires
  /-- The scheduled call of `allCompleteCb`. -/
  | allComplete
  deriving DecidableEq

/-- The signer and its owner after an event.  An event that cannot happen changes nothing. -/
def step (O : Owner σ) (s : MultipleGnubbySigner × σ) : Event → MultipleGnubbySigner × σ
  | .enumerated rc ids =>
      if s.1.enumerations = 0 then s
      else
        let m := { s.1 with enumerations := s.1.enumerations - 1 }
        let s := enumerateCallback_ O rc ids (m, s.2)
        (s.1.processed m.timedOut, s.2)
  | .signer index e => signerCallback O index e s
  | .intervalTimer =>
      if s.1.intervalTimer then ({ s.1 with intervalTimer := false }.enumerateGnubbies_, s.2) else s
  | .otherIntervalTimer =>
      if s.1.otherIntervalTimers = 0 then s
      else
        ({ s.1 with otherIntervalTimers := s.1.otherIntervalTimers - 1 }.enumerateGnubbies_, s.2)
  | .timerExpires => ({ s.1 with timerExpired := true }, s.2)
  | .reenumerateTimerExpires =>
      if s.1.timerExpired then ({ s.1 with reenumerateTimerExpired := true }, s.2) else s
  | .allComplete =>
      match s.1.deferred with
      | [] => s
      | anyPending :: deferred =>
          let m :=
            { s.1 with
              deferred := deferred, allCompleteCalls := anyPending :: s.1.allCompleteCalls }
          let reaction := O.allCompleteCb anyPending s.2
          (m.calls reaction.calls, reaction.owner)

end MultipleGnubbySigner

/-! ### What a callback does to the signer of a gnubby -/

namespace SingleGnubbySigner

variable {s : SingleGnubbySigner}

theorem AtMostOnce.callback (h : s.AtMostOnce) (e : Event) : (s.callback e).AtMostOnce := by
  unfold SingleGnubbySigner.callback
  split
  · exact atMostOnce_handle e h
  · exact h

/-- Nothing is outstanding any more. -/
theorem AtMostOnce.called (h : s.AtMostOnce) : s.called.AtMostOnce := by
  refine ⟨fun hne => absurd rfl hne, ?_⟩
  rcases h.once with hnone | ⟨hset, hresult, -⟩
  · exact .inl ⟨hnone.1, by simp [SingleGnubbySigner.called]⟩
  · exact .inr ⟨hset, hresult, .inl rfl⟩

/-- A signer that waits for nothing has no callbacks. -/
theorem callback_of_nothing (h : s.awaiting = .nothing) (e : Event) :
    (s.callback e).awaiting = .nothing ∧ (s.callback e).completions = s.completions := by
  unfold callback
  split
  · rename_i he
    rcases handle_of_idle (.inl h) he with heq | heq
    · rw [heq]
      exact ⟨h, rfl⟩
    · rw [heq]
      exact ⟨h, rfl⟩
  · exact ⟨h, rfl⟩

/-- A signer that has completed, and is not calling its `completeCb`, waits for nothing. -/
theorem AtMostOnce.awaiting_of_completed (h : s.AtMostOnce) (hcompletions : s.completions ≠ [])
    (hnot : ∀ givesUp, s.awaiting ≠ .completeCb givesUp) : s.awaiting = .nothing := by
  rcases h.once with ⟨hnone, -⟩ | ⟨-, -, hnothing | ⟨givesUp, hcompleteCb⟩⟩
  · exact absurd hnone hcompletions
  · exact hnothing
  · exact absurd hcompleteCb (hnot givesUp)

/-- A signer that does not report is not calling its `completeCb`. -/
theorem AtMostOnce.not_of_reports (h : s.AtMostOnce) (hreports : s.reports = none) :
    ∀ givesUp, s.awaiting ≠ .completeCb givesUp := by
  intro givesUp hawaiting
  rcases h.once with ⟨-, hnot⟩ | ⟨-, ⟨result, hcompletions⟩, -⟩
  · exact hnot givesUp hawaiting
  · simp [reports, hawaiting, hcompletions] at hreports

theorem reports_eq_some {result : SingleSignerResult} (h : s.reports = some result) :
    (∃ givesUp, s.awaiting = .completeCb givesUp) ∧ s.completions ≠ [] := by
  unfold reports at h
  split at h
  · rename_i givesUp hawaiting
    refine ⟨⟨givesUp, hawaiting⟩, ?_⟩
    rintro hnone
    simp [hnone] at h
  · simp at h

/-- When `completeCb` has returned, the signer waits for nothing. -/
theorem handle_returned (h : ∃ givesUp, s.awaiting = .completeCb givesUp) :
    (s.handle .returned).awaiting = .nothing ∧
      (s.handle .returned).completions = s.completions := by
  obtain ⟨givesUp, hawaiting⟩ := h
  simp only [handle, hawaiting]
  split
  · exact ⟨rfl, rfl⟩
  · exact ⟨rfl, rfl⟩

end SingleGnubbySigner

namespace MultipleGnubbySigner

/-! ### Trackers, changed -/

section Trackers

variable {s : MultipleGnubbySigner} {index : GnubbyDeviceId} {t : GnubbyTracker}
  {f : GnubbyTracker → GnubbyTracker} {l r : List GnubbyTracker}

/-- The tracker of an index is the first one with it. -/
theorem tracker_eq_some :
    s.tracker index = some t ↔
      t.index = index ∧ ∃ l r, s.gnubbies = l ++ t :: r ∧ ∀ u ∈ l, u.index ≠ index := by
  simp [tracker, List.find?_eq_some_iff_append]

theorem changeTracker_append (hl : ∀ u ∈ l, u.index ≠ index) (ht : t.index = index) :
    changeTracker index f (l ++ t :: r) = l ++ f t :: r := by
  induction l with
  | nil => simp [changeTracker, ht]
  | cons u l ih =>
      rw [List.forall_mem_cons] at hl
      rw [List.cons_append, changeTracker, if_neg hl.1, ih hl.2, List.cons_append]

theorem length_changeTracker (index : GnubbyDeviceId) (f : GnubbyTracker → GnubbyTracker)
    (l : List GnubbyTracker) : (changeTracker index f l).length = l.length := by
  induction l with
  | nil => rfl
  | cons u l ih =>
      rw [changeTracker]
      split
      · rfl
      · simp [ih]

theorem changeTracker_eq_self (h : ∀ u ∈ l, u.index ≠ index) : changeTracker index f l = l := by
  induction l with
  | nil => rfl
  | cons u l ih =>
      rw [List.forall_mem_cons] at h
      rw [changeTracker, if_neg h.1, ih h.2]

theorem change_of_none (h : s.tracker index = none) : s.change index f = s := by
  have hnone : ∀ u ∈ s.gnubbies, u.index ≠ index := by simpa [tracker] using h
  rw [change, changeTracker_eq_self hnone]

/-- The tracker of an index after it was changed. -/
theorem tracker_of_append (hgnubbies : s.gnubbies = l ++ t :: r) (hl : ∀ u ∈ l, u.index ≠ index)
    (ht : t.index = index) : s.tracker index = some t :=
  tracker_eq_some.2 ⟨ht, l, r, hgnubbies, hl⟩

end Trackers

/-! ### What the owner's calls change -/

/-- Two trackers that tell the same about the completions of a signer. -/
structure SameReports (t t' : GnubbyTracker) : Prop where
  index : t'.index = t.index
  stillGoing : t'.stillGoing = t.stillGoing
  completions : t'.signer.completions = t.signer.completions
  awaiting : t'.signer.awaiting = t.signer.awaiting
  challengesSet : t'.signer.challengesSet = t.signer.challengesSet

/-- One call of `allCompleteCb` was scheduled, if the signer is complete. -/
def Scheduled (s : MultipleGnubbySigner) : Prop :=
  s.deferred.length + s.allCompleteCalls.length = if s.complete then 1 else 0

/-- What a call of a method leaves as it is: the completions and what is counted. -/
structure Quiet (s s' : MultipleGnubbySigner) : Prop where
  gnubbies : ∃ g : GnubbyTracker → GnubbyTracker, (∀ t, SameReports t (g t)) ∧
    s'.gnubbies = s.gnubbies.map g
  numComplete : s'.numComplete = s.numComplete
  timer : s.timerExpired = true → s'.timerExpired = true
  reenumerateTimer : s.reenumerateTimerExpired = true → s'.reenumerateTimerExpired = true
  complete : s.complete = true → s'.complete = true
  finished : s'.complete = true → s.complete = true ∨ s.anyPending_ = false
  scheduled : s.Scheduled → s'.Scheduled
  processed : s'.processedAfterTimeout = s.processedAfterTimeout
  forEnroll : s'.forEnroll = s.forEnroll
  allCompleteCalls : s'.allCompleteCalls = s.allCompleteCalls

section Quiet

variable {s s' s'' : MultipleGnubbySigner}

/-- Whether gnubbies are pending is a matter of what is counted. -/
theorem Quiet.anyPending (h : Quiet s s') : s'.anyPending_ = s.anyPending_ := by
  obtain ⟨g, -, hgnubbies⟩ := h.gnubbies
  simp [anyPending_, h.numComplete, hgnubbies]

theorem same_id : ∀ t, SameReports t (id t) := fun _ => ⟨rfl, rfl, rfl, rfl, rfl⟩

theorem Quiet.refl (s : MultipleGnubbySigner) : Quiet s s :=
  ⟨⟨id, same_id, by rw [List.map_id]⟩, rfl, id, id, id, .inl, id, rfl, rfl, rfl⟩

theorem Quiet.trans (h : Quiet s s') (h' : Quiet s' s'') : Quiet s s'' := by
  obtain ⟨g, hg, hgnubbies⟩ := h.gnubbies
  obtain ⟨g', hg', hgnubbies'⟩ := h'.gnubbies
  refine ⟨⟨g' ∘ g, ?_, ?_⟩, h'.numComplete.trans h.numComplete, h'.timer ∘ h.timer,
    h'.reenumerateTimer ∘ h.reenumerateTimer, h'.complete ∘ h.complete, ?_,
    h'.scheduled ∘ h.scheduled, h'.processed.trans h.processed, h'.forEnroll.trans h.forEnroll,
    h'.allCompleteCalls.trans h.allCompleteCalls⟩
  · intro t
    have h₁ := hg t
    have h₂ := hg' (g t)
    exact ⟨h₂.index.trans h₁.index, h₂.stillGoing.trans h₁.stillGoing,
      h₂.completions.trans h₁.completions, h₂.awaiting.trans h₁.awaiting,
      h₂.challengesSet.trans h₁.challengesSet⟩
  · rw [hgnubbies', hgnubbies, List.map_map]
  · intro hcomplete
    rcases h'.finished hcomplete with hc | hp
    · exact h.finished hc
    · exact .inr (h.anyPending.symm.trans hp)

/-- The signer is complete when no gnubbies are pending. -/
theorem quiet_timeout (anyPending : Bool) (h : s.anyPending_ = false) :
    Quiet s (s.timeout_ anyPending) := by
  unfold timeout_
  split
  · exact Quiet.refl s
  · rename_i hcomplete
    refine ⟨⟨id, same_id, by rw [List.map_id]⟩, rfl, id, id, fun _ => rfl, fun _ => .inr h, ?_, rfl,
      rfl, rfl⟩
    intro hscheduled
    simp only [Scheduled, hcomplete, Bool.false_eq_true, if_false] at hscheduled
    simp only [Scheduled, List.length_append, List.length_cons, List.length_nil, if_true]
    omega

theorem quiet_maybeReEnumerate (activeScan : Bool) (s : MultipleGnubbySigner) :
    Quiet s (s.maybeReEnumerateGnubbies_ activeScan) := by
  unfold maybeReEnumerateGnubbies_
  split
  · split
    · rename_i hpending
      exact quiet_timeout false (by simpa using hpending)
    · exact Quiet.refl s
  · exact ⟨⟨id, same_id, by rw [List.map_id]⟩, rfl, id, id, id, .inl, id, rfl, rfl, rfl⟩

theorem quiet_reScanDevices (s : MultipleGnubbySigner) : Quiet s s.reScanDevices := by
  have hclear : Quiet s { s with intervalTimer := false } :=
    ⟨⟨id, same_id, by rw [List.map_id]⟩, rfl, id, id, id, .inl, id, rfl, rfl, rfl⟩
  exact hclear.trans (quiet_maybeReEnumerate true _)

/-- Closing the signer of a gnubby does not make it complete. -/
theorem quiet_close (idle : List GnubbyDeviceId) (s : MultipleGnubbySigner) :
    Quiet s (s.close idle) := by
  refine ⟨⟨_, ?_, rfl⟩, rfl, fun _ => rfl, fun _ => rfl, id, .inl, id, rfl, rfl, rfl⟩
  intro t
  obtain ⟨hcompletions, hset, hawaiting⟩ := SingleGnubbySigner.completions_close
    (decide (t.index ∈ idle)) (t.signer.did .closed)
  exact ⟨rfl, rfl, hcompletions, hawaiting, hset⟩

theorem quiet_calls (cs : List Call) (s : MultipleGnubbySigner) : Quiet s (s.calls cs) := by
  induction cs generalizing s with
  | nil => exact Quiet.refl s
  | cons c cs ih =>
      have hcall : Quiet s (s.call c) := by
        cases c with
        | close idle => exact quiet_close idle s
        | reScanDevices => exact quiet_reScanDevices s
      exact hcall.trans (ih (s.call c))

end Quiet

/-! ### The invariant -/

/-- A tracker between two steps: its signer is not calling its `completeCb`, and one that is no longer
going has completed. -/
structure Settled (t : GnubbyTracker) : Prop where
  atMostOnce : t.signer.AtMostOnce
  notReporting : ∀ givesUp, t.signer.awaiting ≠ .completeCb givesUp
  counted : t.stillGoing = false → t.signer.completions ≠ []

/-- A tracker whose signer is calling its `completeCb`. -/
structure Reporting (t : GnubbyTracker) : Prop where
  atMostOnce : t.signer.AtMostOnce
  completeCb : ∃ givesUp, t.signer.awaiting = .completeCb givesUp
  completions : t.signer.completions ≠ []

/-- **The invariant**: every gnubby is counted or still going. -/
structure Inv (s : MultipleGnubbySigner) : Prop where
  settled : ∀ t ∈ s.gnubbies, Settled t
  count : s.numComplete + s.gnubbies.countP (·.stillGoing) = s.gnubbies.length
  scheduled : s.Scheduled
  finished : s.complete = true → s.anyPending_ = false

section Inv

variable {σ : Type} {s s' : MultipleGnubbySigner} {t : GnubbyTracker}

/-- What a signer reports is the same for its owner. -/
theorem atMostOnce_same {t' : GnubbyTracker} (h : t.signer.AtMostOnce)
    (hcompletions : t'.signer.completions = t.signer.completions)
    (hawaiting : t'.signer.awaiting = t.signer.awaiting)
    (hset : t'.signer.challengesSet = t.signer.challengesSet) : t'.signer.AtMostOnce := by
  refine ⟨?_, ?_⟩
  · rw [hawaiting, hset]
    exact h.set
  · rw [hcompletions, hawaiting, hset]
    exact h.once

theorem Settled.same {t' : GnubbyTracker} (h : Settled t) (hsame : SameReports t t') :
    Settled t' := by
  refine ⟨atMostOnce_same h.atMostOnce hsame.completions hsame.awaiting hsame.challengesSet, ?_, ?_⟩
  · rw [hsame.awaiting]
    exact h.notReporting
  · rw [hsame.stillGoing, hsame.completions]
    exact h.counted

theorem Reporting.same {t' : GnubbyTracker} (h : Reporting t)
    (hcompletions : t'.signer.completions = t.signer.completions)
    (hawaiting : t'.signer.awaiting = t.signer.awaiting)
    (hset : t'.signer.challengesSet = t.signer.challengesSet) : Reporting t' :=
  ⟨atMostOnce_same h.atMostOnce hcompletions hawaiting hset, by rw [hawaiting]; exact h.completeCb,
    by rw [hcompletions]; exact h.completions⟩

/-- The call of `completeCb` returns. -/
theorem Reporting.returned (h : Reporting t) : Settled (onSigner (·.handle .returned) t) := by
  obtain ⟨hawaiting, hkept⟩ := SingleGnubbySigner.handle_returned h.completeCb
  refine ⟨SingleGnubbySigner.atMostOnce_handle .returned h.atMostOnce, ?_, fun _ => ?_⟩
  · intro givesUp
    simp [onSigner, hawaiting]
  · show (t.signer.handle .returned).completions ≠ []
    rw [hkept]
    exact h.completions

/-- The call of `completeCb` throws. -/
theorem Reporting.thrown (h : Reporting t) : Settled (onSigner (·.called) t) :=
  ⟨h.atMostOnce.called, by simp [onSigner, SingleGnubbySigner.called], fun _ => h.completions⟩

theorem countP_map_same {g : GnubbyTracker → GnubbyTracker} (hg : ∀ t, SameReports t (g t))
    (l : List GnubbyTracker) :
    (l.map g).countP (·.stillGoing) = l.countP (·.stillGoing) := by
  rw [List.countP_map]
  exact List.countP_congr fun t _ => by simp [(hg t).stillGoing]

theorem Quiet.inv (h : Quiet s s') (hs : s.Inv) : s'.Inv := by
  obtain ⟨g, hg, hgnubbies⟩ := h.gnubbies
  refine ⟨?_, ?_, h.scheduled hs.scheduled, ?_⟩
  · intro t ht
    rw [hgnubbies, List.mem_map] at ht
    obtain ⟨u, hu, rfl⟩ := ht
    exact (hs.settled u hu).same (hg u)
  · rw [h.numComplete, hgnubbies, countP_map_same hg, List.length_map]
    exact hs.count
  · intro hcomplete
    rw [h.anyPending]
    rcases h.finished hcomplete with hc | hp
    · exact hs.finished hc
    · exact hp

/-- A new state of one signer. -/
theorem Inv.replace {l r : List GnubbyTracker} {t' : GnubbyTracker} (h : s.Inv)
    (hgnubbies : s.gnubbies = l ++ t :: r) (hgoing : t'.stillGoing = t.stillGoing)
    (hsettled : Settled t') : Inv { s with gnubbies := l ++ t' :: r } := by
  refine ⟨?_, ?_, h.scheduled, ?_⟩
  · intro u hu
    rcases List.mem_append.1 hu with hu | hu
    · exact h.settled u (by simp [hgnubbies, hu])
    · rcases List.mem_cons.1 hu with rfl | hu
      · exact hsettled
      · exact h.settled u (by simp [hgnubbies, hu])
  · have hcount := h.count
    rw [hgnubbies] at hcount
    simpa [List.countP_append, List.countP_cons, hgoing] using hcount
  · intro hcomplete
    simpa [anyPending_, hgnubbies] using h.finished hcomplete

/-- The tracker of an index is no longer going, and counted. -/
def counts (index : GnubbyDeviceId) (code : ℤ) (s : MultipleGnubbySigner) : MultipleGnubbySigner :=
  { s.change index ({ · with stillGoing := false, errorStatus := code }) with
    numComplete := s.numComplete + 1 }

/-- What comes after a completion was counted: the signer enumerates again if the gnubby is gone, and
otherwise the owner is told and may call. -/
def notified (O : Owner σ) (index : GnubbyDeviceId) (result : SingleSignerResult)
    (s : MultipleGnubbySigner × σ) : (MultipleGnubbySigner × σ) × Bool :=
  if result.code = GONE_STATUS then
    ((if !s.1.anyPending_ then s.1.maybeReEnumerateGnubbies_ true else s.1, s.2), false)
  else notifyGnubbyComplete_ O index result s.1.anyPending_ s

/-- **The completion of a signer that is going**, read once. -/
theorem signCompleted_eq (O : Owner σ) {index : GnubbyDeviceId} (result : SingleSignerResult)
    (owner : σ) (ht : s.tracker index = some t) (hgoing : t.stillGoing = true) :
    signCompletedCallback_ O index result (s, owner) =
      let u := notified O index result (s.counts index result.code, owner)
      if u.2 then (u.1, true)
      else if !(s.counts index result.code).anyPending_ && u.1.1.timerExpired then
        ((u.1.1.timeout_ false, u.1.2), false)
      else (u.1, false) := by
  simp only [signCompletedCallback_, ht, hgoing, Bool.not_true, Bool.false_eq_true, if_false]
  rfl

theorem quiet_notified (O : Owner σ) (index : GnubbyDeviceId) (result : SingleSignerResult)
    (s : MultipleGnubbySigner) (owner : σ) :
    Quiet s (notified O index result (s, owner)).1.1 := by
  unfold notified
  split
  · dsimp only
    split
    · exact quiet_maybeReEnumerate true s
    · exact Quiet.refl s
  · exact quiet_calls _ s

/-- The signer of a gnubby is counted once it completes.  The rest is up to the owner; unless it
throws, this signer is complete or waits for others if its time is over. -/
theorem signCompleted_spec (O : Owner σ) {index : GnubbyDeviceId} (result : SingleSignerResult)
    (owner : σ) (ht : s.tracker index = some t) (hgoing : t.stillGoing = true)
    {u : (MultipleGnubbySigner × σ) × Bool}
    (hu : signCompletedCallback_ O index result (s, owner) = u) :
    Quiet (s.counts index result.code) u.1.1 ∧
      u.2 = (notified O index result (s.counts index result.code, owner)).2 ∧
      u.1.2 = (notified O index result (s.counts index result.code, owner)).1.2 ∧
      (u.2 = false → u.1.1.timerExpired = true →
        u.1.1.complete = true ∨ u.1.1.anyPending_ = true) := by
  have hquiet := quiet_notified O index result (s.counts index result.code) owner
  rw [signCompleted_eq O result owner ht hgoing] at hu
  generalize notified O index result (s.counts index result.code, owner) = v at hquiet hu ⊢
  obtain ⟨⟨m, owner'⟩, throws⟩ := v
  dsimp only at hu hquiet ⊢
  split at hu
  case isTrue hthrows =>
    subst hu
    exact ⟨hquiet, hthrows.symm, rfl, fun h => by simp at h⟩
  case isFalse hthrows =>
    have hthrows : throws = false := by simpa using hthrows
    split at hu
    case isTrue hlast =>
      subst hu
      have hpending : m.anyPending_ = false := by
        rw [hquiet.anyPending]
        simpa using (Bool.and_eq_true_iff.1 hlast).1
      refine ⟨hquiet.trans (quiet_timeout false hpending), hthrows.symm, rfl, fun _ _ => .inl ?_⟩
      simp only [timeout_]
      split
      · assumption
      · rfl
    case isFalse hlast =>
      subst hu
      refine ⟨hquiet, hthrows.symm, rfl, fun _ hexpired => .inr ?_⟩
      have hexpired' : m.timerExpired = true := hexpired
      show m.anyPending_ = true
      rw [hquiet.anyPending]
      simpa [hexpired'] using hlast

/-- The trackers after an owner has seen a report of one of them. -/
theorem gnubbies_signCompleted (O : Owner σ) {index : GnubbyDeviceId} (result : SingleSignerResult)
    (owner : σ) {l r : List GnubbyTracker} (hgnubbies : s.gnubbies = l ++ t :: r)
    (hl : ∀ u ∈ l, u.index ≠ index) (ht : t.index = index) (hgoing : t.stillGoing = true)
    (hreporting : Reporting t) {u : (MultipleGnubbySigner × σ) × Bool}
    (hu : signCompletedCallback_ O index result (s, owner) = u)
    {f : SingleGnubbySigner → SingleGnubbySigner}
    (hf : ∀ v, Reporting v → Settled (onSigner f v)) :
    ∃ (g : GnubbyTracker → GnubbyTracker) (t' : GnubbyTracker), (∀ v, SameReports v (g v)) ∧
      Settled t' ∧ t'.stillGoing = false ∧
      (u.1.1.change index (onSigner f)).gnubbies = l.map g ++ t' :: r.map g := by
  obtain ⟨hquiet, -⟩ :=
    signCompleted_spec O result owner (tracker_of_append hgnubbies hl ht) hgoing hu
  obtain ⟨g, hg, hmap⟩ := hquiet.gnubbies
  have hcounts : (s.counts index result.code).gnubbies =
      l ++ { t with stillGoing := false, errorStatus := result.code } :: r := by
    show changeTracker index _ s.gnubbies = _
    rw [hgnubbies, changeTracker_append hl ht]
  rw [hcounts, List.map_append, List.map_cons] at hmap
  have hsame := hg { t with stillGoing := false, errorStatus := result.code }
  have hl' : ∀ v ∈ l.map g, v.index ≠ index := by
    intro v hv
    obtain ⟨w, hw, rfl⟩ := List.mem_map.1 hv
    rw [(hg w).index]
    exact hl w hw
  refine ⟨g, _, hg, hf _ (hreporting.same hsame.completions hsame.awaiting hsame.challengesSet),
    hsame.stillGoing, ?_⟩
  show changeTracker index _ u.1.1.gnubbies = _
  rw [hmap, changeTracker_append hl' (hsame.index.trans ht)]

/-- **A signer that completes is taken off those that are going**, and counted. -/
theorem inv_signCompleted (O : Owner σ) {index : GnubbyDeviceId} (result : SingleSignerResult)
    (owner : σ) {l r : List GnubbyTracker} (hs : s.Inv) (hgnubbies : s.gnubbies = l ++ t :: r)
    (hl : ∀ u ∈ l, u.index ≠ index) (htgoing : t.stillGoing = true) {v : GnubbyTracker}
    (hv : v.index = index) (hgoing : v.stillGoing = true) (hreporting : Reporting v)
    {u : (MultipleGnubbySigner × σ) × Bool}
    (hu : signCompletedCallback_ O index result ({ s with gnubbies := l ++ v :: r }, owner) = u)
    {f : SingleGnubbySigner → SingleGnubbySigner}
    (hf : ∀ v, Reporting v → Settled (onSigner f v)) :
    (u.1.1.change index (onSigner f)).Inv ∧
      (u.1.1.change index (onSigner f)).anyPending_ = u.1.1.anyPending_ := by
  obtain ⟨hquiet, -⟩ := signCompleted_spec O result owner
    (tracker_of_append (s := { s with gnubbies := l ++ v :: r }) rfl hl hv) hgoing hu
  obtain ⟨g, t', hg, hsettled, hgoing', hchange⟩ := gnubbies_signCompleted O result owner
    (s := { s with gnubbies := l ++ v :: r }) rfl hl hv hgoing hreporting hu hf
  have hnumComplete : u.1.1.numComplete = s.numComplete + 1 := hquiet.numComplete
  have hlength : u.1.1.gnubbies.length = (l ++ v :: r).length := by
    obtain ⟨g', -, hmap⟩ := hquiet.gnubbies
    rw [hmap, List.length_map]
    exact length_changeTracker _ _ _
  have hanyPending : (u.1.1.change index (onSigner f)).anyPending_ = u.1.1.anyPending_ := by
    simp only [anyPending_, hchange, hlength]
    simp [change]
  refine ⟨⟨?_, ?_, hquiet.scheduled hs.scheduled, ?_⟩, hanyPending⟩
  · intro w hw
    have hold : ∀ x ∈ s.gnubbies, Settled (g x) := fun x hx => (hs.settled x hx).same (hg x)
    rw [hgnubbies] at hold
    simp only [List.forall_mem_append, List.forall_mem_cons] at hold
    rw [hchange] at hw
    simp only [List.mem_append, List.mem_cons, List.mem_map] at hw
    rcases hw with ⟨x, hx, rfl⟩ | rfl | ⟨x, hx, rfl⟩
    · exact hold.1 x hx
    · exact hsettled
    · exact hold.2.2 x hx
  · have hcount := hs.count
    rw [hgnubbies] at hcount
    rw [hchange]
    show u.1.1.numComplete + _ = _
    simp only [hnumComplete, List.countP_append, List.countP_cons, countP_map_same hg, hgoing', htgoing,
      if_true, List.length_append, List.length_map, List.length_cons, Bool.false_eq_true, if_false]
      at hcount ⊢
    omega
  · intro hcomplete
    rw [hanyPending, hquiet.anyPending]
    -- a gnubby was going, so the signer was not complete before
    rcases hquiet.finished hcomplete with hc | hp
    · have hpending := hs.finished hc
      have hcount := hs.count
      rw [hgnubbies] at hcount
      simp only [anyPending_, hgnubbies, List.countP_append, List.countP_cons, htgoing, if_true,
        List.length_append, List.length_cons, decide_eq_false_iff_not] at hpending hcount
      omega
    · exact hp

/-- A settled tracker after a callback of its signer that reports nothing. -/
theorem Settled.callback (h : Settled t) (e : SingleGnubbySigner.Event)
    (hreports : (t.signer.callback e).reports = none) : Settled (onSigner (·.callback e) t) := by
  refine ⟨h.atMostOnce.callback e, (h.atMostOnce.callback e).not_of_reports hreports, ?_⟩
  intro hgoing
  have hcompleted := h.counted hgoing
  have hnothing := h.atMostOnce.awaiting_of_completed hcompleted h.notReporting
  show (t.signer.callback e).completions ≠ []
  rw [(SingleGnubbySigner.callback_of_nothing hnothing e).2]
  exact hcompleted

/-- A settled tracker after a callback in which its signer completes. -/
theorem Settled.callback_reports (h : Settled t) {e : SingleGnubbySigner.Event}
    {result : SingleSignerResult} (hreports : (t.signer.callback e).reports = some result) :
    t.stillGoing = true ∧ Reporting (onSigner (·.callback e) t) := by
  obtain ⟨hcompleteCb, hcompletions⟩ := SingleGnubbySigner.reports_eq_some hreports
  refine ⟨?_, h.atMostOnce.callback e, hcompleteCb, hcompletions⟩
  by_contra hgoing
  have hcompleted := h.counted (by simpa using hgoing)
  have hnothing := h.atMostOnce.awaiting_of_completed hcompleted h.notReporting
  obtain ⟨givesUp, hawaiting⟩ := hcompleteCb
  rw [(SingleGnubbySigner.callback_of_nothing hnothing e).1] at hawaiting
  simp at hawaiting

/-- **A callback of the signer of a gnubby**, read once: there is no such gnubby, or the signer reports
nothing, or it completes. -/
theorem signerCallback_cases (O : Owner σ) (index : GnubbyDeviceId) (e : SingleGnubbySigner.Event)
    (owner : σ) (h : s.Inv) :
    s.tracker index = none ∧ signerCallback O index e (s, owner) = (s, owner) ∨
    ∃ l t r, s.gnubbies = l ++ t :: r ∧ t.index = index ∧ (∀ u ∈ l, u.index ≠ index) ∧
      ((t.signer.callback e).reports = none ∧ signerCallback O index e (s, owner) =
          ({ s with gnubbies := l ++ onSigner (·.callback e) t :: r }, owner) ∨
        ∃ result u, (t.signer.callback e).reports = some result ∧ t.stillGoing = true ∧
          Reporting (onSigner (·.callback e) t) ∧
          signCompletedCallback_ O index result
            ({ s with gnubbies := l ++ onSigner (·.callback e) t :: r }, owner) = u ∧
          signerCallback O index e (s, owner) =
            if u.2 then (u.1.1.change index (onSigner (·.called)), u.1.2)
            else ((u.1.1.change index (onSigner (·.handle .returned))).processed s.timedOut,
              u.1.2)) := by
  cases htracker : s.tracker index with
  | none =>
      have hsame : s.change index (onSigner (·.callback e)) = s := change_of_none htracker
      exact .inl ⟨rfl, by simp [signerCallback, hsame, htracker]⟩
  | some t =>
      obtain ⟨ht, l, r, hgnubbies, hl⟩ := tracker_eq_some.1 htracker
      have hsettled : Settled t := h.settled t (by simp [hgnubbies])
      have hchange : s.change index (onSigner (·.callback e)) =
          { s with gnubbies := l ++ onSigner (·.callback e) t :: r } := by
        rw [change, hgnubbies, changeTracker_append hl ht]
      have hfound : tracker index { s with gnubbies := l ++ onSigner (·.callback e) t :: r } =
          some (onSigner (·.callback e) t) :=
        tracker_of_append rfl hl ht
      refine .inr ⟨l, t, r, hgnubbies, ht, hl, ?_⟩
      simp only [signerCallback, hchange, hfound, Option.bind_some]
      split
      · rename_i hreports
        exact .inl ⟨hreports, rfl⟩
      · rename_i result hreports
        obtain ⟨hgoing, hreporting⟩ := hsettled.callback_reports hreports
        exact .inr ⟨result, _, hreports, hgoing, hreporting, rfl, rfl⟩

theorem inv_processed (timedOut : Bool) (h : s.Inv) : (s.processed timedOut).Inv :=
  ⟨h.settled, h.count, h.scheduled, h.finished⟩

theorem inv_signerCallback (O : Owner σ) (index : GnubbyDeviceId)
    (e : SingleGnubbySigner.Event) (owner : σ) (h : s.Inv) :
    (signerCallback O index e (s, owner)).1.Inv := by
  rcases signerCallback_cases O index e owner h with ⟨-, heq⟩ | ⟨l, t, r, hgnubbies, ht, hl, hcases⟩
  · rw [heq]
    exact h
  rcases hcases with ⟨hreports, heq⟩ | ⟨result, u, hreports, hgoing, hreporting, hu, heq⟩
  · rw [heq]
    have hsettled : Settled t := h.settled t (by simp [hgnubbies])
    exact h.replace hgnubbies rfl (hsettled.callback e hreports)
  · rw [heq]
    split
    · exact (inv_signCompleted O result owner h hgnubbies hl hgoing (v := onSigner (·.callback e) t) ht
        hgoing hreporting hu fun _ hv => hv.thrown).1
    · exact inv_processed _ (inv_signCompleted O result owner h hgnubbies hl hgoing
        (v := onSigner (·.callback e) t) ht hgoing hreporting hu fun _ hv => hv.returned).1

/-! ### What the signers keep -/

/-- A property of signers that is kept by all but calls of methods. -/
structure Kept (P : SingleGnubbySigner → Prop) : Prop where
  callback : ∀ s e, P s → P (s.callback e)
  returned : ∀ s, P s → P (s.handle .returned)
  called : ∀ s, P s → P s.called

/-- The signers of all gnubbies have a property. -/
def AllSigners (P : SingleGnubbySigner → Prop) (s : MultipleGnubbySigner) : Prop :=
  ∀ t ∈ s.gnubbies, P t.signer

/-- Calls that keep a property of the signers. -/
def Harmless (P : SingleGnubbySigner → Prop) (cs : List Call) : Prop :=
  (∃ idle, .close idle ∈ cs) → ∀ s idle, P s → P (s.handle (.close idle))

theorem harmless_nil (P : SingleGnubbySigner → Prop) : Harmless P [] := by
  rintro ⟨idle, hmem⟩
  exact absurd hmem List.not_mem_nil

theorem AllSigners.change {P : SingleGnubbySigner → Prop} (h : s.AllSigners P)
    (index : GnubbyDeviceId) {f : GnubbyTracker → GnubbyTracker}
    (hf : ∀ t, P t.signer → P (f t).signer) : (s.change index f).AllSigners P := by
  have hlist : ∀ l : List GnubbyTracker, (∀ t ∈ l, P t.signer) →
      ∀ t ∈ changeTracker index f l, P t.signer := by
    intro l hl
    induction l with
    | nil => exact hl
    | cons u l ih =>
        rw [List.forall_mem_cons] at hl
        rw [changeTracker]
        split
        · exact List.forall_mem_cons.2 ⟨hf u hl.1, hl.2⟩
        · exact List.forall_mem_cons.2 ⟨hl.1, ih hl.2⟩
  exact hlist s.gnubbies h

theorem gnubbies_timeout (anyPending : Bool) (s : MultipleGnubbySigner) :
    (s.timeout_ anyPending).gnubbies = s.gnubbies := by
  unfold timeout_
  split
  · rfl
  · rfl

theorem gnubbies_maybeReEnumerate (activeScan : Bool) (s : MultipleGnubbySigner) :
    (s.maybeReEnumerateGnubbies_ activeScan).gnubbies = s.gnubbies := by
  unfold maybeReEnumerateGnubbies_
  split
  · split
    · exact gnubbies_timeout false s
    · rfl
  · rfl

/-- The signers after calls of methods. -/
theorem AllSigners.calls {P : SingleGnubbySigner → Prop} {cs : List Call} (hP : Harmless P cs)
    (h : s.AllSigners P) : (s.calls cs).AllSigners P := by
  induction cs generalizing s with
  | nil => exact h
  | cons c cs ih =>
      have hrest : Harmless P cs := fun ⟨idle, hmem⟩ => hP ⟨idle, List.mem_cons_of_mem c hmem⟩
      refine ih hrest ?_
      cases c with
      | close idle =>
          intro t ht
          obtain ⟨u, hu, rfl⟩ := List.mem_map.1 ht
          exact hP ⟨idle, List.mem_cons_self⟩ u.signer _ (h u hu)
      | reScanDevices =>
          show (reScanDevices s).AllSigners P
          rw [AllSigners, reScanDevices, gnubbies_maybeReEnumerate]
          exact h

/-- The signers after a completion was counted. -/
theorem AllSigners.signCompleted {P : SingleGnubbySigner → Prop} (h : s.AllSigners P) (O : Owner σ)
    {index : GnubbyDeviceId} (result : SingleSignerResult) (owner : σ)
    (ht : s.tracker index = some t) (hgoing : t.stillGoing = true)
    (hcalls : result.code ≠ GONE_STATUS → Harmless P (O.gnubbyCompleteCb (signResult index result)
      (s.counts index result.code).anyPending_ owner).calls) :
    (signCompletedCallback_ O index result (s, owner)).1.1.AllSigners P := by
  have hcounts : (s.counts index result.code).AllSigners P := h.change index fun _ ht => ht
  have hnotified : (notified O index result (s.counts index result.code, owner)).1.1.AllSigners P := by
    unfold notified
    split
    · dsimp only
      split
      · rw [AllSigners, gnubbies_maybeReEnumerate]
        exact hcounts
      · exact hcounts
    · rename_i hgone
      exact hcounts.calls (hcalls hgone)
  rw [signCompleted_eq O result owner ht hgoing]
  dsimp only
  split
  · exact hnotified
  · split
    · rw [AllSigners, gnubbies_timeout]
      exact hnotified
    · exact hnotified

/-! ### Adding gnubbies -/

/-- A tracker that has been added, while `doSign` of its signer runs: that the signer is going has not
been recorded. -/
structure Starting (gnubbyId : GnubbyDeviceId) (t : GnubbyTracker) : Prop where
  index : t.index = gnubbyId
  stillGoing : t.stillGoing = false
  atMostOnce : t.signer.AtMostOnce
  notReporting : ∀ givesUp, t.signer.awaiting ≠ .completeCb givesUp

/-- What the signer of a gnubby reports while its `doSign` runs is disregarded. -/
theorem signerCallback_starting (O : Owner σ) {gnubbyId : GnubbyDeviceId}
    (e : SingleGnubbySigner.Event) (owner : σ) (hnone : s.tracker gnubbyId = none)
    (ht : Starting gnubbyId t) :
    ∃ timedOut t', Starting gnubbyId t' ∧ (timedOut = true → s.timedOut = true) ∧
      ((t.signer.callback e).completions = [] → t'.signer = t.signer.callback e) ∧
      (∀ P, Kept P → P t.signer → P t'.signer) ∧
      signerCallback O gnubbyId e ({ s with gnubbies := s.gnubbies ++ [t] }, owner) =
        ({ s.processed timedOut with gnubbies := s.gnubbies ++ [t'] }, owner) := by
  have hl : ∀ u ∈ s.gnubbies, u.index ≠ gnubbyId := by simpa [tracker] using hnone
  have hchange : ∀ u f, u.index = gnubbyId →
      change gnubbyId f { s with gnubbies := s.gnubbies ++ [u] } =
        { s with gnubbies := s.gnubbies ++ [f u] } := by
    intro u f hu
    rw [change, changeTracker_append hl hu]
  have hfound : ∀ u, u.index = gnubbyId →
      tracker gnubbyId { s with gnubbies := s.gnubbies ++ [u] } = some u :=
    fun u hu => tracker_of_append rfl hl hu
  simp only [signerCallback, hchange t _ ht.index,
    hfound (onSigner (·.callback e) t) ht.index, Option.bind_some]
  split
  · rename_i hreports
    refine ⟨false, onSigner (·.callback e) t,
      ⟨ht.index, ht.stillGoing, ht.atMostOnce.callback e,
        (ht.atMostOnce.callback e).not_of_reports hreports⟩, by simp, fun _ => rfl,
      fun P hP => hP.callback t.signer e, ?_⟩
    simp [MultipleGnubbySigner.processed]
  · rename_i result hreports
    obtain ⟨hcompleteCb, hcompletions⟩ := SingleGnubbySigner.reports_eq_some hreports
    have hreporting : Reporting (onSigner (·.callback e) t) :=
      ⟨ht.atMostOnce.callback e, hcompleteCb, hcompletions⟩
    have hreturned := hreporting.returned
    refine ⟨s.timedOut, onSigner (·.handle .returned) (onSigner (·.callback e) t),
      ⟨ht.index, ht.stillGoing, hreturned.atMostOnce, hreturned.notReporting⟩, id,
      fun hnone => absurd hnone hcompletions,
      fun P hP h => hP.returned _ (hP.callback t.signer e h), ?_⟩
    have hdisregarded : signCompletedCallback_ O gnubbyId result
        ({ s with gnubbies := s.gnubbies ++ [onSigner (·.callback e) t] }, owner) =
        (({ s with gnubbies := s.gnubbies ++ [onSigner (·.callback e) t] }, owner), false) := by
      have hgoing : (onSigner (·.callback e) t).stillGoing = false := ht.stillGoing
      simp [signCompletedCallback_, hfound (onSigner (·.callback e) t) ht.index, hgoing]
    have hindex : (onSigner (·.callback e) t).index = gnubbyId := ht.index
    rw [hdisregarded]
    simp only [hchange _ _ hindex, Bool.false_eq_true, if_false]
    rfl

/-- All that happens while `doSign` runs. -/
theorem foldl_starting (O : Owner σ) {gnubbyId : GnubbyDeviceId}
    (during : List SingleGnubbySigner.Event) (owner : σ) (hnone : s.tracker gnubbyId = none)
    (ht : Starting gnubbyId t) :
    ∃ timedOut t', Starting gnubbyId t' ∧ (timedOut = true → s.timedOut = true) ∧
      ((∀ pre, pre <+: during →
          (pre.foldl (fun signer e => signer.callback e) t.signer).completions = []) →
        t'.signer.completions = []) ∧
      (∀ P, Kept P → P t.signer → P t'.signer) ∧
      during.foldl (fun s e => signerCallback O gnubbyId e s)
          ({ s with gnubbies := s.gnubbies ++ [t] }, owner) =
        ({ s.processed timedOut with gnubbies := s.gnubbies ++ [t'] }, owner) := by
  induction during generalizing s t with
  | nil =>
      refine ⟨false, t, ht, by simp, fun h => h [] (List.prefix_refl _), fun P _ h => h, ?_⟩
      simp [MultipleGnubbySigner.processed]
  | cons e during ih =>
      obtain ⟨timedOut, t', ht', htimedOut, hsigner, hkept, heq⟩ :=
        signerCallback_starting O e owner hnone ht
      have hnone' : (s.processed timedOut).tracker gnubbyId = none := hnone
      obtain ⟨timedOut', t'', ht'', htimedOut', hcompletions, hkept', heq'⟩ := ih hnone' ht'
      refine ⟨timedOut || timedOut', t'', ht'', ?_, ?_, fun P hP h => hkept' P hP (hkept P hP h), ?_⟩
      · intro h
        rcases (Bool.or_eq_true_iff).1 h with h | h
        · exact htimedOut h
        · exact htimedOut' h
      · intro hquiet
        refine hcompletions ?_
        rw [hsigner (hquiet [e] (by simp))]
        intro pre hpre
        exact hquiet (e :: pre) (by simpa using hpre)
      · rw [List.foldl_cons, heq]
        refine heq'.trans ?_
        simp [MultipleGnubbySigner.processed, Bool.or_assoc]

theorem newSigner_atMostOnce (s : MultipleGnubbySigner) :
    (s.newSigner.doSign s.challenges).2.AtMostOnce :=
  SingleGnubbySigner.atMostOnce_doSign ⟨fun h => absurd rfl h, .inl ⟨rfl, by
    simp [newSigner, SingleGnubbySigner.new]⟩⟩ s.challenges

/-- **Adding a gnubby** leaves the signer as it was, but for a new tracker, which is going. -/
theorem addGnubby_spec (O : Owner σ) {gnubbyId : GnubbyDeviceId}
    (during : List SingleGnubbySigner.Event) (owner : σ) (hnone : s.tracker gnubbyId = none) :
    ∃ timedOut t', Starting gnubbyId t' ∧ (timedOut = true → s.timedOut = true) ∧
      ((∀ pre, pre <+: during → (pre.foldl (fun signer e => signer.callback e)
          (s.newSigner.doSign s.challenges).2).completions = []) → t'.signer.completions = []) ∧
      (∀ P, Kept P → P (s.newSigner.doSign s.challenges).2 → P t'.signer) ∧
      addGnubby_ O gnubbyId during (s, owner) =
        ({ s.processed timedOut with
          gnubbies := s.gnubbies ++ [{ t' with stillGoing := true }] }, owner) := by
  have hstarting : Starting gnubbyId
      ⟨gnubbyId, (s.newSigner.doSign s.challenges).2, false, 0⟩ :=
    ⟨rfl, rfl, newSigner_atMostOnce s, by
      simp [newSigner, SingleGnubbySigner.new, SingleGnubbySigner.doSign, SingleGnubbySigner.open_]⟩
  obtain ⟨timedOut, t', ht', htimedOut, hcompletions, hkept, heq⟩ :=
    foldl_starting O during owner hnone hstarting
  refine ⟨timedOut, t', ht', htimedOut, hcompletions, hkept, ?_⟩
  have hl : ∀ u ∈ s.gnubbies, u.index ≠ gnubbyId := by simpa [tracker] using hnone
  have hgoing : (s.newSigner.doSign s.challenges).1 = true := rfl
  simp only [addGnubby_, hnone, heq, hgoing, change, changeTracker_append hl ht'.index]

theorem inv_addGnubby (O : Owner σ) (gnubbyId : GnubbyDeviceId)
    (during : List SingleGnubbySigner.Event) (owner : σ) (h : s.Inv) (hcomplete : s.complete = false) :
    (addGnubby_ O gnubbyId during (s, owner)).1.Inv := by
  cases hnone : s.tracker gnubbyId with
  | some t => simpa [addGnubby_, hnone] using h
  | none =>
      obtain ⟨timedOut, t', ht', -, -, -, heq⟩ := addGnubby_spec O during owner hnone
      rw [heq]
      have hcount := h.count
      refine ⟨?_, ?_, h.scheduled, ?_⟩
      · intro u hu
        rcases List.mem_append.1 hu with hu | hu
        · exact h.settled u hu
        · obtain rfl := List.mem_singleton.1 hu
          exact ⟨ht'.atMostOnce, ht'.notReporting, by simp⟩
      · show s.numComplete + _ = _
        simp only [List.countP_append, List.countP_singleton, List.length_append, if_true,
          List.length_singleton]
        omega
      · intro hc
        have hc' : s.complete = true := hc
        rw [hcomplete] at hc'
        simp at hc'

/-! ### The invariant along a run -/

/-- Adding a gnubby changes neither the timers nor the owner, and completes nothing. -/
theorem same_addGnubby (O : Owner σ) (gnubbyId : GnubbyDeviceId)
    (during : List SingleGnubbySigner.Event) (owner : σ) :
    ∃ m, addGnubby_ O gnubbyId during (s, owner) = (m, owner) ∧ m.timedOut = s.timedOut ∧
      m.complete = s.complete ∧ m.newSigner = s.newSigner ∧ m.challenges = s.challenges ∧
      m.allCompleteCalls = s.allCompleteCalls ∧ ∀ index, m.tracker index = none → s.tracker index = none := by
  cases hnone : s.tracker gnubbyId with
  | some t => exact ⟨s, by simp [addGnubby_, hnone], rfl, rfl, rfl, rfl, rfl, fun _ => id⟩
  | none =>
      obtain ⟨timedOut, t', -, -, -, -, heq⟩ := addGnubby_spec O during owner hnone
      refine ⟨_, heq, rfl, rfl, rfl, rfl, rfl, ?_⟩
      intro index hindex
      simp only [tracker, List.find?_append, Option.or_eq_none_iff] at hindex
      exact hindex.1

theorem same_addGnubbies (O : Owner σ) (ids : List (GnubbyDeviceId × List SingleGnubbySigner.Event))
    (owner : σ) :
    ∃ m, ids.foldl (fun s id => addGnubby_ O id.1 id.2 s) (s, owner) = (m, owner) ∧
      m.allCompleteCalls = s.allCompleteCalls ∧ m.newSigner = s.newSigner := by
  induction ids generalizing s with
  | nil => exact ⟨s, rfl, rfl, rfl⟩
  | cons id ids ih =>
      obtain ⟨m, heq, -, -, hnew, -, hcalls, -⟩ := same_addGnubby (s := s) O id.1 id.2 owner
      obtain ⟨m', heq', hcalls', hnew'⟩ := ih (s := m)
      refine ⟨m', ?_, hcalls'.trans hcalls, hnew'.trans hnew⟩
      rw [List.foldl_cons, heq]
      exact heq'

theorem inv_addGnubbies (O : Owner σ) (ids : List (GnubbyDeviceId × List SingleGnubbySigner.Event))
    (owner : σ) (h : s.Inv) (hcomplete : s.complete = false) :
    ∃ m, ids.foldl (fun s id => addGnubby_ O id.1 id.2 s) (s, owner) = (m, owner) ∧ m.Inv ∧
      m.timedOut = s.timedOut := by
  induction ids generalizing s with
  | nil => exact ⟨s, rfl, h, rfl⟩
  | cons id ids ih =>
      have hinv := inv_addGnubby O id.1 id.2 owner h hcomplete
      obtain ⟨m, heq, htimedOut, hc, -⟩ := same_addGnubby (s := s) O id.1 id.2 owner
      rw [heq] at hinv
      obtain ⟨m', heq', hinv', htimedOut'⟩ := ih hinv (hc.trans hcomplete)
      refine ⟨m', ?_, hinv', htimedOut'.trans htimedOut⟩
      rw [List.foldl_cons, heq]
      exact heq'

/-- An enumeration does not concern the owner. -/
theorem inv_enumerateCallback (O : Owner σ) (rc : ℤ)
    (ids : Option (List (GnubbyDeviceId × List SingleGnubbySigner.Event))) (owner : σ)
    (h : s.Inv) :
    ∃ m, enumerateCallback_ O rc ids (s, owner) = (m, owner) ∧ m.Inv := by
  unfold enumerateCallback_
  split
  · exact ⟨s, rfl, h⟩
  · rename_i hcomplete
    split
    · exact ⟨_, rfl, (quiet_maybeReEnumerate true s).inv h⟩
    · obtain ⟨m, heq, hinv, -⟩ := inv_addGnubbies O (ids.getD []) owner h (by simpa using hcomplete)
      simp only [heq]
      exact ⟨_, rfl, (quiet_maybeReEnumerate false m).inv hinv⟩

theorem inv_new (forEnroll : Bool) : (new forEnroll).Inv :=
  ⟨by simp [new], rfl, rfl, by simp [new]⟩

/-- Fields that the invariant does not speak about. -/
theorem Inv.same (h : s.Inv) (hgnubbies : s'.gnubbies = s.gnubbies)
    (hnumComplete : s'.numComplete = s.numComplete) (hcomplete : s'.complete = s.complete)
    (hdeferred : s'.deferred = s.deferred) (hcalls : s'.allCompleteCalls = s.allCompleteCalls) :
    s'.Inv := by
  refine ⟨by rw [hgnubbies]; exact h.settled, by rw [hgnubbies, hnumComplete]; exact h.count, ?_, ?_⟩
  · rw [Scheduled, hcomplete, hdeferred, hcalls]
    exact h.scheduled
  · rw [hcomplete, anyPending_, hgnubbies, hnumComplete]
    exact h.finished

theorem inv_doSign (challenges : Option (List SignHelperChallenge)) (h : s.Inv) :
    (s.doSign challenges).2.Inv := by
  unfold doSign
  split
  · exact h
  · dsimp only
    split
    · exact h.same rfl rfl rfl rfl rfl
    · exact h.same rfl rfl rfl rfl rfl

theorem inv_calls (cs : List Call) (h : s.Inv) : (s.calls cs).Inv := (quiet_calls cs s).inv h

/-- **Every gnubby stays counted or still going**, whatever the owner does. -/
theorem inv_step (O : Owner σ) (e : Event) (owner : σ) (h : s.Inv) :
    (step O (s, owner) e).1.Inv := by
  cases e with
  | enumerated rc ids =>
      simp only [step]
      split
      · exact h
      · have hinv : Inv { s with enumerations := s.enumerations - 1 } := h.same rfl rfl rfl rfl rfl
        obtain ⟨m, heq, hm⟩ := inv_enumerateCallback O rc ids owner hinv
        rw [heq]
        exact inv_processed _ hm
  | signer index e => exact inv_signerCallback O index e owner h
  | intervalTimer =>
      simp only [step]
      split
      · exact h.same rfl rfl rfl rfl rfl
      · exact h
  | otherIntervalTimer =>
      simp only [step]
      split
      · exact h
      · exact h.same rfl rfl rfl rfl rfl
  | timerExpires => exact h.same rfl rfl rfl rfl rfl
  | reenumerateTimerExpires =>
      simp only [step]
      split
      · exact h.same rfl rfl rfl rfl rfl
      · exact h
  | allComplete =>
      simp only [step]
      split
      · exact h
      · rename_i anyPending deferred hdeferred
        refine inv_calls _ ⟨h.settled, h.count, ?_, h.finished⟩
        have hscheduled := h.scheduled
        simp only [Scheduled, hdeferred, List.length_cons] at hscheduled ⊢
        omega

/-- A signer is for enrolling or for signing all its life, and calls `allCompleteCb` in one kind of step
only. -/
theorem same_step (O : Owner σ) (e : Event) (owner : σ) (h : s.Inv) :
    (step O (s, owner) e).1.forEnroll = s.forEnroll ∧
      (e ≠ .allComplete → (step O (s, owner) e).1.allCompleteCalls = s.allCompleteCalls) := by
  cases e with
  | enumerated rc ids =>
      simp only [step]
      split
      · exact ⟨rfl, fun _ => rfl⟩
      · unfold enumerateCallback_
        split
        · exact ⟨rfl, fun _ => rfl⟩
        · split
          · have hquiet := quiet_maybeReEnumerate true { s with enumerations := s.enumerations - 1 }
            exact ⟨hquiet.forEnroll, fun _ => hquiet.allCompleteCalls⟩
          · obtain ⟨m, heq, hcalls, hnew⟩ := same_addGnubbies
              (s := { s with enumerations := s.enumerations - 1 }) O (ids.getD []) owner
            have hquiet := quiet_maybeReEnumerate false m
            simp only [heq]
            exact ⟨hquiet.forEnroll.trans (congrArg SingleGnubbySigner.forEnroll hnew),
              fun _ => hquiet.allCompleteCalls.trans hcalls⟩
  | signer index e =>
      rcases signerCallback_cases O index e owner h with
        ⟨-, heq⟩ | ⟨l, t, r, -, ht, hl, ⟨-, heq⟩ | ⟨result, u, -, hgoing, -, hu, heq⟩⟩
      · rw [step, heq]
        exact ⟨rfl, fun _ => rfl⟩
      · rw [step, heq]
        exact ⟨rfl, fun _ => rfl⟩
      · have hfound : tracker index { s with gnubbies := l ++ onSigner (·.callback e) t :: r } =
            some (onSigner (·.callback e) t) :=
          tracker_of_append rfl hl ht
        have hquiet := (signCompleted_spec O result owner hfound hgoing hu).1
        simp only [step, heq]
        split
        · exact ⟨hquiet.forEnroll, fun _ => hquiet.allCompleteCalls⟩
        · exact ⟨hquiet.forEnroll, fun _ => hquiet.allCompleteCalls⟩
  | intervalTimer =>
      simp only [step]
      split
      · exact ⟨rfl, fun _ => rfl⟩
      · exact ⟨rfl, fun _ => rfl⟩
  | otherIntervalTimer =>
      simp only [step]
      split
      · exact ⟨rfl, fun _ => rfl⟩
      · exact ⟨rfl, fun _ => rfl⟩
  | timerExpires => exact ⟨rfl, fun _ => rfl⟩
  | reenumerateTimerExpires =>
      simp only [step]
      split
      · exact ⟨rfl, fun _ => rfl⟩
      · exact ⟨rfl, fun _ => rfl⟩
  | allComplete =>
      simp only [step]
      split
      · exact ⟨rfl, fun _ => rfl⟩
      · exact ⟨(quiet_calls _ _).forEnroll, fun hne => absurd rfl hne⟩

/-! ### What the owner is told -/

/-- The result that the owner is told in a step, and whether more are expected. -/
def told (s : MultipleGnubbySigner) : Event → Option (MultipleSignerResult × Bool)
  | .signer index e =>
      match s.tracker index with
      | none => none
      | some t =>
          match (t.signer.callback e).reports with
          | none => none
          | some result =>
              if t.stillGoing = true ∧ result.code ≠ GONE_STATUS then
                some (signResult index result, decide (s.numComplete + 1 < s.gnubbies.length))
              else none
  | _ => none

/-- **The owner after a step**: it is told a result, or that all is complete, or nothing. -/
theorem step_owner (O : Owner σ) (e : Event) (owner : σ) (h : s.Inv) :
    (step O (s, owner) e).2 =
      match s.told e with
      | some (result, moreExpected) => (O.gnubbyCompleteCb result moreExpected owner).owner
      | none =>
          match e, s.deferred with
          | .allComplete, anyPending :: _ => (O.allCompleteCb anyPending owner).owner
          | _, _ => owner := by
  cases e with
  | enumerated rc ids =>
      simp only [step, told]
      split
      · rfl
      · have hinv : Inv { s with enumerations := s.enumerations - 1 } := h.same rfl rfl rfl rfl rfl
        obtain ⟨m, heq, -⟩ := inv_enumerateCallback O rc ids owner hinv
        rw [heq]
  | signer index e =>
      simp only [step, told]
      rcases signerCallback_cases O index e owner h with
        ⟨hnone, heq⟩ | ⟨l, t, r, hgnubbies, ht, hl, hcases⟩
      · rw [heq, hnone]
      have htracker := tracker_of_append hgnubbies hl ht
      rcases hcases with ⟨hreports, heq⟩ | ⟨result, u, hreports, hgoing, -, hu, heq⟩
      · rw [heq, htracker]
        simp only [hreports]
      · have hfound : tracker index { s with gnubbies := l ++ onSigner (·.callback e) t :: r } =
            some (onSigner (·.callback e) t) :=
          tracker_of_append rfl hl ht
        obtain ⟨-, -, howner, -⟩ := signCompleted_spec O result owner hfound hgoing hu
        have hstep : (signerCallback O index e (s, owner)).2 = u.1.2 := by
          rw [heq]
          split
          · rfl
          · rfl
        have hlength : (changeTracker index ({ · with stillGoing := false, errorStatus := result.code })
            (l ++ onSigner (·.callback e) t :: r)).length = s.gnubbies.length := by
          rw [length_changeTracker, hgnubbies]
          simp
        rw [hstep, howner, htracker]
        simp only [hreports, hgoing, true_and, notified]
        by_cases hgone : result.code = GONE_STATUS
        · simp [hgone]
        · simp only [hgone, if_false, ne_eq, not_false_eq_true, if_true, notifyGnubbyComplete_, counts,
            change, anyPending_, hlength]
  | intervalTimer =>
      simp only [step, told]
      split
      · rfl
      · rfl
  | otherIntervalTimer =>
      simp only [step, told]
      split
      · rfl
      · rfl
  | timerExpires => rfl
  | reenumerateTimerExpires =>
      simp only [step, told]
      split
      · rfl
      · rfl
  | allComplete =>
      simp only [step, told]
      split
      · rename_i hdeferred
        simp [hdeferred]
      · rename_i anyPending deferred hdeferred
        simp [hdeferred]

/-- When all is complete, the owner is told nothing any more. -/
theorem told_of_complete (h : s.Inv) (hcomplete : s.complete = true) (e : Event) :
    s.told e = none := by
  cases e with
  | signer index e =>
      simp only [told]
      split
      · rfl
      · rename_i t htracker
        split
        · rfl
        · -- no gnubby is going
          obtain ⟨-, l, r, hgnubbies, -⟩ := tracker_eq_some.1 htracker
          have hpending := h.finished hcomplete
          have hcount := h.count
          simp only [anyPending_, decide_eq_false_iff_not] at hpending
          have hnone : s.gnubbies.countP (·.stillGoing) = 0 := by omega
          have hgoing : t.stillGoing = false := by
            have hall := List.countP_eq_zero.1 hnone t (by simp [hgnubbies])
            simpa using hall
          simp [hgoing]
  | _ => rfl

/-! ### What the signers keep along a run -/

/-- The signers after a callback of one of them. -/
theorem AllSigners.signerCallback {P : SingleGnubbySigner → Prop} (hs : s.AllSigners P) (hP : Kept P)
    (O : Owner σ) (index : GnubbyDeviceId) (e : SingleGnubbySigner.Event) (owner : σ) (h : s.Inv)
    (hcalls : ∀ result moreExpected, s.told (.signer index e) = some (result, moreExpected) →
      Harmless P (O.gnubbyCompleteCb result moreExpected owner).calls) :
    (signerCallback O index e (s, owner)).1.AllSigners P := by
  rcases signerCallback_cases O index e owner h with ⟨-, heq⟩ | ⟨l, t, r, hgnubbies, ht, hl, hcases⟩
  · rw [heq]
    exact hs
  have hcallback : AllSigners P { s with gnubbies := l ++ onSigner (·.callback e) t :: r } := by
    rw [AllSigners, hgnubbies] at hs
    intro u hu
    rcases List.mem_append.1 hu with hu | hu
    · exact hs u (List.mem_append_left _ hu)
    · rcases List.mem_cons.1 hu with rfl | hu
      · exact hP.callback t.signer e (hs t (by simp))
      · exact hs u (by simp [hu])
  rcases hcases with ⟨-, heq⟩ | ⟨result, u, hreports, hgoing, -, hu, heq⟩
  · rw [heq]
    exact hcallback
  · have hlength : (changeTracker index ({ · with stillGoing := false, errorStatus := result.code })
        (l ++ onSigner (·.callback e) t :: r)).length = s.gnubbies.length := by
      rw [length_changeTracker, hgnubbies]
      simp
    have hcompleted := hcallback.signCompleted O (t := onSigner (·.callback e) t) result
      owner (tracker_of_append rfl hl ht) hgoing (by
        intro hgone
        refine hcalls _ _ ?_
        simp only [told, tracker_of_append hgnubbies hl ht, hreports, hgoing, hgone, ne_eq,
          not_false_eq_true, and_self, if_true, counts, MultipleGnubbySigner.change, anyPending_,
          hlength])
    rw [hu] at hcompleted
    rw [heq]
    split
    · exact hcompleted.change index fun v hv => hP.called v.signer hv
    · exact hcompleted.change index fun v hv => hP.returned v.signer hv

theorem AllSigners.addGnubbies {P : SingleGnubbySigner → Prop} (hs : s.AllSigners P) (hP : Kept P)
    (O : Owner σ) (ids : List (GnubbyDeviceId × List SingleGnubbySigner.Event)) (owner : σ)
    (hstart : P (s.newSigner.doSign s.challenges).2) :
    (ids.foldl (fun s id => addGnubby_ O id.1 id.2 s) (s, owner)).1.AllSigners P := by
  induction ids generalizing s with
  | nil => exact hs
  | cons id ids ih =>
      have hadd : (addGnubby_ O id.1 id.2 (s, owner)).1.AllSigners P := by
        cases hnone : s.tracker id.1 with
        | some t => simpa [addGnubby_, hnone] using hs
        | none =>
            obtain ⟨timedOut, t', -, -, -, hkept, heq⟩ := addGnubby_spec O id.2 owner hnone
            rw [heq]
            intro u hu
            rcases List.mem_append.1 hu with hu | hu
            · exact hs u hu
            · obtain rfl := List.mem_singleton.1 hu
              exact hkept P hP hstart
      obtain ⟨m, heq, -, -, hnew, hchallenges, -⟩ := same_addGnubby (s := s) O id.1 id.2 owner
      rw [List.foldl_cons, heq]
      rw [heq] at hadd
      exact ih hadd (by rw [hnew, hchallenges]; exact hstart)

/-- **What the signers keep**, they keep in a step in which the calls of the owner are harmless. -/
theorem AllSigners.step {P : SingleGnubbySigner → Prop} (hs : s.AllSigners P) (hP : Kept P)
    (O : Owner σ) (e : Event) (owner : σ) (h : s.Inv) (hstart : P (s.newSigner.doSign s.challenges).2)
    (hfound : ∀ result moreExpected, s.told e = some (result, moreExpected) →
      Harmless P (O.gnubbyCompleteCb result moreExpected owner).calls)
    (hcomplete : ∀ anyPending deferred, e = .allComplete → s.deferred = anyPending :: deferred →
      Harmless P (O.allCompleteCb anyPending owner).calls) :
    (MultipleGnubbySigner.step O (s, owner) e).1.AllSigners P := by
  cases e with
  | enumerated rc ids =>
      simp only [MultipleGnubbySigner.step]
      split
      · exact hs
      · unfold enumerateCallback_
        split
        · exact hs
        · split
          · simp only [AllSigners, MultipleGnubbySigner.processed, gnubbies_maybeReEnumerate]
            exact hs
          · simp only [AllSigners, MultipleGnubbySigner.processed, gnubbies_maybeReEnumerate]
            exact AllSigners.addGnubbies (s := { s with enumerations := s.enumerations - 1 })
              hs hP O (ids.getD []) owner hstart
  | signer index e => exact hs.signerCallback hP O index e owner h hfound
  | intervalTimer =>
      simp only [MultipleGnubbySigner.step]
      split
      · exact hs
      · exact hs
  | otherIntervalTimer =>
      simp only [MultipleGnubbySigner.step]
      split
      · exact hs
      · exact hs
  | timerExpires => exact hs
  | reenumerateTimerExpires =>
      simp only [MultipleGnubbySigner.step]
      split
      · exact hs
      · exact hs
  | allComplete =>
      simp only [MultipleGnubbySigner.step]
      split
      · exact hs
      · rename_i anyPending deferred hdeferred
        exact hs.calls (hcomplete anyPending deferred rfl hdeferred)

end Inv

end MultipleGnubbySigner

end U2F
