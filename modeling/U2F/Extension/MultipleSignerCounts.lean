/-
**What a signer for all gnubbies counts.**

A `MultipleGnubbySigner` tells its owner that all is complete when the time is over and it has counted
as many completions as it has gnubbies.  The completion of a signer is not counted if it comes while
its `doSign` runs, since that it is going is recorded afterwards; then this signer is taken to be going
for ever.

Main definitions:

* `MultipleGnubbySigner.machine` — the signer, with any owner, as a reactive machine;
* `MultipleGnubbySigner.CountsCorrectly` — what is expected;
* `MultipleGnubbySigner.CompletesLater` — no signer completes before its `doSign` returns.

Main results:

* `MultipleGnubbySigner.countsCorrectly_of_completesLater` — **a signer whose signers complete later
  counts correctly**.
-/

import U2F.Extension.MultipleSigner
import U2F.Lib.Machine

set_option relaxedAutoImplicit false
set_option autoImplicit false

namespace U2F.MultipleGnubbySigner

/-! ### Any owner -/

/-- An owner that makes the given calls in a callback. -/
def caller (calls : List Call) : Owner Unit :=
  ⟨fun _ _ _ => ⟨calls, (), false⟩, fun _ _ => ⟨calls, (), false⟩⟩

/-- What can happen to a signer whose owner may do anything. -/
inductive Input
  /-- Something happens, and the owner makes calls in its callback, if there is one. -/
  | event (e : Event) (calls : List Call)
  | doSign (challenges : Option (List SignHelperChallenge))
  | call (c : Call)

def handle (s : MultipleGnubbySigner) : Input → MultipleGnubbySigner
  | .event e calls => (step (caller calls) (s, ()) e).1
  | .doSign challenges => (s.doSign challenges).2
  | .call c => s.call c

/-- **A signer as a reactive machine.** -/
def machine : Machine MultipleGnubbySigner Input Unit := ⟨fun s i => ((), s.handle i)⟩

/-! ### What is expected -/

/-- Whether the signer of a gnubby has called its `completeCb`. -/
def completed (t : GnubbyTracker) : Bool := !t.signer.completions.isEmpty

/-- **What is expected of a signer in every state.** -/
structure CountsCorrectly (s : MultipleGnubbySigner) : Prop where
  count : s.numComplete = s.gnubbies.countP completed
  once : s.allCompleteCalls.length ≤ 1
  /-- When the time is over, something was processed after that, and all have completed, then the
  call of `allCompleteCb` was scheduled. -/
  scheduled : s.timedOut = true → s.processedAfterTimeout = true →
    (∀ t ∈ s.gnubbies, completed t = true) → s.deferred ≠ [] ∨ s.allCompleteCalls ≠ []

/-- The steps at which no signer of a new gnubby completes before its `doSign` returns. -/
def CompletesLater (s : MultipleGnubbySigner) : Input → Prop
  | .event (.enumerated rc ids) _ =>
      s.complete = false → rc = 0 → ∀ id ∈ ids.getD [], s.tracker id.1 = none →
        ∀ pre, pre <+: id.2 → (pre.foldl (fun signer e => signer.callback e)
          (s.newSigner.doSign s.challenges).2).completions = []
  | _ => True

/-! ### Signers that are going -/

/-- Each signer that is taken to be going has not completed. -/
def Going (s : MultipleGnubbySigner) : Prop :=
  ∀ t ∈ s.gnubbies, t.stillGoing = true → t.signer.completions = []

section Going

variable {σ : Type} {s s' : MultipleGnubbySigner} {t : GnubbyTracker}

theorem going_of_same (h : t.stillGoing = true → t.signer.completions = []) {t' : GnubbyTracker}
    (hsame : SameReports t t') : t'.stillGoing = true → t'.signer.completions = [] := by
  rw [hsame.stillGoing, hsame.completions]
  exact h

theorem Quiet.going (h : Quiet s s') (hs : s.Going) : s'.Going := by
  obtain ⟨g, hg, hgnubbies⟩ := h.gnubbies
  intro t ht
  rw [hgnubbies, List.mem_map] at ht
  obtain ⟨u, hu, rfl⟩ := ht
  exact going_of_same (hs u hu) (hg u)

/-- A callback that reports nothing is no completion. -/
theorem completions_callback (h : Settled t) (hnone : t.signer.completions = [])
    {e : SingleGnubbySigner.Event} (hreports : (t.signer.callback e).reports = none) :
    (t.signer.callback e).completions = [] := by
  unfold SingleGnubbySigner.callback at hreports ⊢
  split
  case isFalse => exact hnone
  case isTrue he =>
    rw [if_pos he] at hreports
    by_cases hnothing : t.signer.awaiting = .nothing
    · rcases SingleGnubbySigner.handle_of_idle (.inl hnothing) he with heq | heq
      · rw [heq]
        exact hnone
      · rw [heq]
        exact hnone
    · rcases (h.atMostOnce.working hnothing h.notReporting).handle he with
        hworking | ⟨-, ⟨result, hcompletions⟩, givesUp, hawaiting⟩
      · exact hworking.none
      · simp [SingleGnubbySigner.reports, hawaiting, hcompletions] at hreports

theorem going_signerCallback (O : Owner σ) (index : GnubbyDeviceId)
    (e : SingleGnubbySigner.Event) (owner : σ) (h : s.Inv) (hs : s.Going) :
    (signerCallback O index e (s, owner)).1.Going := by
  rcases signerCallback_cases O index e owner h with ⟨-, heq⟩ | ⟨l, t, r, hgnubbies, ht, hl, hcases⟩
  · rw [heq]
    exact hs
  have hmem : t ∈ s.gnubbies := by simp [hgnubbies]
  have hothers : ∀ u ∈ l ++ r, u.stillGoing = true → u.signer.completions = [] := by
    intro u hu
    refine hs u ?_
    rw [hgnubbies]
    rcases List.mem_append.1 hu with hu | hu
    · simp [hu]
    · simp [hu]
  rcases hcases with ⟨hreports, heq⟩ | ⟨result, u, hreports, hgoing, hreporting, hu, heq⟩
  · rw [heq]
    intro v hv
    rcases List.mem_append.1 hv with hv | hv
    · exact hothers v (by simp [hv])
    · rcases List.mem_cons.1 hv with rfl | hv
      · intro hgoing
        exact completions_callback (h.settled t hmem) (hs t hmem hgoing) hreports
      · exact hothers v (by simp [hv])
  · -- the owner may have closed signers, which completes none of them
    have hgone : ∀ f : SingleGnubbySigner → SingleGnubbySigner,
        (∀ v, Reporting v → Settled (onSigner f v)) → (u.1.1.change index (onSigner f)).Going := by
      intro f hf
      obtain ⟨g, t', hg, -, hstopped, hchange⟩ := gnubbies_signCompleted O result owner
        (s := { s with gnubbies := l ++ onSigner (·.callback e) t :: r }) rfl hl ht hgoing hreporting
        hu hf
      intro v hv
      rw [hchange] at hv
      simp only [List.mem_append, List.mem_cons, List.mem_map] at hv
      rcases hv with ⟨w, hw, rfl⟩ | rfl | ⟨w, hw, rfl⟩
      · exact going_of_same (hothers w (by simp [hw])) (hg w)
      · intro hgoing'
        simp [hstopped] at hgoing'
      · exact going_of_same (hothers w (by simp [hw])) (hg w)
    rw [heq]
    split
    · exact hgone _ fun _ hv => hv.thrown
    · exact hgone _ fun _ hv => hv.returned

/-- A gnubby that is added does not disturb the others. -/
theorem going_addGnubby (O : Owner σ) (gnubbyId : GnubbyDeviceId)
    (during : List SingleGnubbySigner.Event) (owner : σ) (hs : s.Going)
    (hlater : s.tracker gnubbyId = none → ∀ pre, pre <+: during →
      (pre.foldl (fun signer e => signer.callback e)
        (s.newSigner.doSign s.challenges).2).completions = []) :
    (addGnubby_ O gnubbyId during (s, owner)).1.Going := by
  cases hnone : s.tracker gnubbyId with
  | some t => simpa [addGnubby_, hnone] using hs
  | none =>
      obtain ⟨timedOut, t', -, -, hcompletions, -, heq⟩ := addGnubby_spec O during owner hnone
      rw [heq]
      intro u hu
      rcases List.mem_append.1 hu with hu | hu
      · exact hs u hu
      · obtain rfl := List.mem_singleton.1 hu
        exact fun _ => hcompletions (hlater hnone)

theorem going_addGnubbies (O : Owner σ)
    (ids : List (GnubbyDeviceId × List SingleGnubbySigner.Event)) (owner : σ) (hs : s.Going)
    (hlater : ∀ id ∈ ids, s.tracker id.1 = none → ∀ pre, pre <+: id.2 →
      (pre.foldl (fun signer e => signer.callback e)
        (s.newSigner.doSign s.challenges).2).completions = []) :
    (ids.foldl (fun s id => addGnubby_ O id.1 id.2 s) (s, owner)).1.Going := by
  induction ids generalizing s owner with
  | nil => exact hs
  | cons id ids ih =>
      rw [List.forall_mem_cons] at hlater
      have hadded := going_addGnubby O id.1 id.2 owner hs hlater.1
      obtain ⟨m, heq, -, -, hnewSigner, hchallenges, -, htracker⟩ :=
        same_addGnubby (s := s) O id.1 id.2 owner
      rw [heq] at hadded
      rw [List.foldl_cons, heq]
      refine ih owner hadded ?_
      intro id' hid' hnone
      rw [hnewSigner, hchallenges]
      exact hlater.2 id' hid' (htracker _ hnone)

theorem going_enumerateCallback (O : Owner σ) (rc : ℤ)
    (ids : Option (List (GnubbyDeviceId × List SingleGnubbySigner.Event))) (owner : σ)
    (hs : s.Going)
    (hlater : s.complete = false → rc = 0 → ∀ id ∈ ids.getD [], s.tracker id.1 = none →
      ∀ pre, pre <+: id.2 → (pre.foldl (fun signer e => signer.callback e)
        (s.newSigner.doSign s.challenges).2).completions = []) :
    (enumerateCallback_ O rc ids (s, owner)).1.Going := by
  unfold enumerateCallback_
  split
  · exact hs
  · rename_i hcomplete
    split
    · exact (quiet_maybeReEnumerate true s).going hs
    · rename_i hids
      rw [not_or, not_not] at hids
      exact (quiet_maybeReEnumerate false _).going
        (going_addGnubbies O _ owner hs (hlater (by simpa using hcomplete) hids.1))

/-! ### When the time is over -/

/-- If something was processed when the time was over, then the signer is complete or waits for
gnubbies. -/
def Timely (s : MultipleGnubbySigner) : Prop :=
  s.processedAfterTimeout = true → s.timedOut = true ∧ (s.complete = true ∨ s.anyPending_ = true)

theorem Quiet.timedOut (h : Quiet s s') (hs : s.timedOut = true) : s'.timedOut = true := by
  rw [MultipleGnubbySigner.timedOut, Bool.and_eq_true] at hs ⊢
  exact ⟨h.timer hs.1, h.reenumerateTimer hs.2⟩

theorem Quiet.timely (h : Quiet s s') (hs : s.Timely) : s'.Timely := by
  intro hprocessed
  rw [h.processed] at hprocessed
  obtain ⟨htimedOut, hpending⟩ := hs hprocessed
  exact ⟨h.timedOut htimedOut, hpending.imp h.complete fun hp => h.anyPending.trans hp⟩

/-- Fields that this does not speak about. -/
theorem Timely.same (h : s.Timely) (hlength : s'.gnubbies.length = s.gnubbies.length)
    (hnumComplete : s'.numComplete = s.numComplete) (hcomplete : s'.complete = s.complete)
    (hprocessed : s'.processedAfterTimeout = s.processedAfterTimeout)
    (htimedOut : s.timedOut = true → s'.timedOut = true) : s'.Timely := by
  intro hp
  rw [hprocessed] at hp
  rw [hcomplete, anyPending_, hlength, hnumComplete]
  exact ⟨htimedOut (h hp).1, (h hp).2⟩

theorem timely_signerCallback (calls : List Call) (index : GnubbyDeviceId)
    (e : SingleGnubbySigner.Event) (h : s.Inv) (hs : s.Timely) :
    (signerCallback (caller calls) index e (s, ())).1.Timely := by
  rcases signerCallback_cases (caller calls) index e () h with
    ⟨-, heq⟩ | ⟨l, t, r, hgnubbies, ht, hl, hcases⟩
  · rw [heq]
    exact hs
  rcases hcases with ⟨hreports, heq⟩ | ⟨result, u, hreports, hgoing, hreporting, hu, heq⟩
  · rw [heq]
    exact hs.same (by simp [hgnubbies]) rfl rfl rfl id
  · obtain ⟨hquiet, hthrows, -, hlast⟩ := signCompleted_spec (caller calls) result ()
      (tracker_of_append (s := { s with gnubbies := l ++ onSigner (·.callback e) t :: r }) rfl hl ht)
      hgoing hu
    have hnot : u.2 = false := by
      rw [hthrows, notified]
      split
      · rfl
      · rfl
    rw [heq, if_neg (by simp [hnot])]
    obtain ⟨-, hanyPending⟩ := inv_signCompleted (caller calls) result () h hgnubbies hl hgoing
      (v := onSigner (·.callback e) t) ht hgoing hreporting hu fun _ hv => hv.returned
    intro hprocessed
    have hover : s.timedOut = true := by
      rcases Bool.or_eq_true_iff.1 hprocessed with hp | hp
      · exact (hs (hquiet.processed.symm.trans hp)).1
      · exact hp
    have hover' : u.1.1.timedOut = true := hquiet.timedOut hover
    refine ⟨hover', ?_⟩
    rw [MultipleGnubbySigner.timedOut, Bool.and_eq_true] at hover'
    exact (hlast hnot hover'.1).imp id fun hp => hanyPending.trans hp

/-- A gnubby that is added is pending. -/
theorem timely_addGnubby (O : Owner σ) (gnubbyId : GnubbyDeviceId)
    (during : List SingleGnubbySigner.Event) (owner : σ) (h : s.Inv) (hs : s.Timely) :
    (addGnubby_ O gnubbyId during (s, owner)).1.Timely := by
  cases hnone : s.tracker gnubbyId with
  | some t => simpa [addGnubby_, hnone] using hs
  | none =>
      obtain ⟨timedOut, t', ht', htimedOut, -, -, heq⟩ := addGnubby_spec O during owner hnone
      rw [heq]
      intro hp
      have hover : s.timedOut = true := by
        rcases Bool.or_eq_true_iff.1 hp with hp | hp
        · exact (hs hp).1
        · exact htimedOut hp
      refine ⟨hover, .inr ?_⟩
      have hcount := h.count
      show decide (s.numComplete < _) = true
      simp only [List.length_append, List.length_singleton, decide_eq_true_eq]
      omega

theorem timely_addGnubbies (O : Owner σ)
    (ids : List (GnubbyDeviceId × List SingleGnubbySigner.Event)) (owner : σ) (h : s.Inv)
    (hcomplete : s.complete = false) (hs : s.Timely) :
    (ids.foldl (fun s id => addGnubby_ O id.1 id.2 s) (s, owner)).1.Timely := by
  induction ids generalizing s with
  | nil => exact hs
  | cons id ids ih =>
      have hinv := inv_addGnubby O id.1 id.2 owner h hcomplete
      have htimely := timely_addGnubby O id.1 id.2 owner h hs
      obtain ⟨m, heq, -, hc, -⟩ := same_addGnubby (s := s) O id.1 id.2 owner
      rw [heq] at hinv htimely
      rw [List.foldl_cons, heq]
      exact ih hinv (hc.trans hcomplete) htimely

/-- After the time is over, the last gnubby has completed or the signer is complete. -/
theorem maybeReEnumerate_timedOut (activeScan : Bool) (h : s.timedOut = true) :
    (s.maybeReEnumerateGnubbies_ activeScan).complete = true ∨
      (s.maybeReEnumerateGnubbies_ activeScan).anyPending_ = true := by
  have hexpired : s.reenumerateTimerExpired = true := (Bool.and_eq_true_iff.1 h).2
  rw [(quiet_maybeReEnumerate activeScan s).anyPending]
  simp only [maybeReEnumerateGnubbies_, hexpired, if_true]
  split
  · refine .inl ?_
    simp only [timeout_]
    split
    · assumption
    · rfl
  · rename_i hpending
    exact .inr (by simpa using hpending)

/-- What is processed when the time is over leaves the signer complete, or waiting. -/
theorem Timely.mark (h : s.Timely) {timedOut : Bool}
    (hmark : timedOut = true →
      s.timedOut = true ∧ (s.complete = true ∨ s.anyPending_ = true)) :
    (s.processed timedOut).Timely := by
  intro hprocessed
  rcases Bool.or_eq_true_iff.1 hprocessed with hp | hp
  · exact h hp
  · exact hmark hp

theorem timely_enumerateCallback (O : Owner σ) (rc : ℤ)
    (ids : Option (List (GnubbyDeviceId × List SingleGnubbySigner.Event))) (owner : σ)
    (h : s.Inv) (hs : s.Timely) :
    ((enumerateCallback_ O rc ids (s, owner)).1.processed s.timedOut).Timely := by
  have hlast : ∀ (activeScan : Bool) (m : MultipleGnubbySigner), m.Timely →
      m.timedOut = s.timedOut →
      ((m.maybeReEnumerateGnubbies_ activeScan).processed s.timedOut).Timely := by
    intro activeScan m hm htimedOut
    have hquiet := quiet_maybeReEnumerate activeScan m
    refine (hquiet.timely hm).mark fun hover => ?_
    have hover' : m.timedOut = true := htimedOut.trans hover
    exact ⟨hquiet.timedOut hover', maybeReEnumerate_timedOut activeScan hover'⟩
  unfold enumerateCallback_
  split
  · rename_i hcomplete
    exact hs.mark fun hover => ⟨hover, .inl hcomplete⟩
  · rename_i hcomplete
    have hcomplete : s.complete = false := by simpa using hcomplete
    split
    · exact hlast true s hs rfl
    · have htimely := timely_addGnubbies O (ids.getD []) owner h hcomplete hs
      obtain ⟨m, heq, -, htimedOut⟩ := inv_addGnubbies O (ids.getD []) owner h hcomplete
      rw [heq] at htimely
      simp only [heq]
      exact hlast false m htimely htimedOut

/-! ### Runs -/

/-- The invariant of a run in which signers complete later. -/
structure Counting (s : MultipleGnubbySigner) : Prop where
  inv : s.Inv
  going : s.Going
  timely : s.Timely

theorem timely_handle {i : Input} (h : s.Inv) (hs : s.Timely) : (s.handle i).Timely := by
  cases i with
  | event e calls =>
      cases e with
      | enumerated rc ids =>
          simp only [handle, step]
          split
          · exact hs
          · have hinv : Inv { s with enumerations := s.enumerations - 1 } :=
              h.same rfl rfl rfl rfl rfl
            exact timely_enumerateCallback (caller calls) rc ids () hinv
              (hs.same rfl rfl rfl rfl id)
      | signer index e => exact timely_signerCallback calls index e h hs
      | intervalTimer =>
          simp only [handle, step]
          split
          · exact hs.same rfl rfl rfl rfl id
          · exact hs
      | otherIntervalTimer =>
          simp only [handle, step]
          split
          · exact hs
          · exact hs.same rfl rfl rfl rfl id
      | timerExpires =>
          refine hs.same rfl rfl rfl rfl ?_
          intro hover
          simp only [handle, step, timedOut, Bool.and_eq_true] at hover ⊢
          exact ⟨trivial, hover.2⟩
      | reenumerateTimerExpires =>
          simp only [handle, step]
          split
          · refine hs.same rfl rfl rfl rfl ?_
            intro hover
            simp only [timedOut, Bool.and_eq_true] at hover ⊢
            exact ⟨hover.1, trivial⟩
          · exact hs
      | allComplete =>
          simp only [handle, step]
          split
          · exact hs
          · exact (quiet_calls _ _).timely (hs.same rfl rfl rfl rfl id)
  | doSign challenges =>
      simp only [handle, doSign]
      split
      · exact hs
      · split
        · exact hs.same rfl rfl rfl rfl id
        · exact hs.same rfl rfl rfl rfl id
  | call c => exact (quiet_calls [c] s).timely hs

/-- **A step after which the signer counts on.** -/
theorem counting_handle {i : Input} (h : s.Counting) (hi : s.CompletesLater i) :
    (s.handle i).Counting := by
  refine ⟨?_, ?_, timely_handle h.inv h.timely⟩
  · cases i with
    | event e calls => exact inv_step (caller calls) e () h.inv
    | doSign challenges => exact inv_doSign challenges h.inv
    | call c => exact inv_calls [c] h.inv
  · cases i with
    | event e calls =>
        cases e with
        | enumerated rc ids =>
            simp only [handle, step]
            split
            · exact h.going
            · exact going_enumerateCallback (caller calls) rc ids () h.going hi
        | signer index e => exact going_signerCallback (caller calls) index e () h.inv h.going
        | intervalTimer =>
            simp only [handle, step]
            split
            · exact h.going
            · exact h.going
        | otherIntervalTimer =>
            simp only [handle, step]
            split
            · exact h.going
            · exact h.going
        | timerExpires => exact h.going
        | reenumerateTimerExpires =>
            simp only [handle, step]
            split
            · exact h.going
            · exact h.going
        | allComplete =>
            simp only [handle, step]
            split
            · exact h.going
            · exact (quiet_calls _ _).going h.going
    | doSign challenges =>
        simp only [handle, doSign]
        split
        · exact h.going
        · split
          · exact h.going
          · exact h.going
    | call c => exact (quiet_calls [c] s).going h.going

/-- A signer that counts on has counted the completions. -/
theorem Counting.countsCorrectly (h : s.Counting) : s.CountsCorrectly := by
  have hgoing : s.gnubbies.countP completed = s.gnubbies.countP (fun t => !t.stillGoing) := by
    refine List.countP_congr fun t ht => ?_
    cases hstill : t.stillGoing with
    | true => simp [completed, h.going t ht hstill]
    | false => simpa [completed] using (h.inv.settled t ht).counted hstill
  have hlength := List.length_eq_countP_add_countP (fun t : GnubbyTracker => t.stillGoing)
    (l := s.gnubbies)
  have hnot : s.gnubbies.countP (fun t => decide ¬ t.stillGoing = true) =
      s.gnubbies.countP (fun t => !t.stillGoing) :=
    List.countP_congr fun t _ => by simp
  have hcount := h.inv.count
  have hnumComplete : s.numComplete = s.gnubbies.countP completed := by omega
  have hscheduled := h.inv.scheduled
  refine ⟨hnumComplete, ?_, ?_⟩
  · simp only [Scheduled] at hscheduled
    split at hscheduled
    · omega
    · omega
  · intro htimedOut hprocessed hall
    have hcomplete : s.complete = true := by
      refine (h.timely hprocessed).2.resolve_right ?_
      have heq : s.gnubbies.countP completed = s.gnubbies.length := List.countP_eq_length.2 hall
      simp [anyPending_, hnumComplete, heq]
    by_contra hnone
    rw [not_or, not_not, not_not] at hnone
    simp [Scheduled, hcomplete, hnone.1, hnone.2] at hscheduled

end Going

/-- **A signer whose signers complete later counts correctly**, in every state of a run. -/
theorem countsCorrectly_of_completesLater (forEnroll : Bool) (is : List Input)
    (h : machine.AllSteps CompletesLater (new forEnroll) is) :
    machine.Always CountsCorrectly (new forEnroll) is :=
  Machine.always_of_invariant (M := machine) (fun _ _ hs hi => counting_handle hs hi)
    (fun _ hs => hs.countsCorrectly) h
    ⟨inv_new forEnroll, by simp [Going, new], by simp [Timely, new]⟩

/-! ### Runs with one gnubby -/

/-- The status of a device that is not there. -/
def NODEVICE_STATUS : ℤ := -512

def exampleId : GnubbyDeviceId := ⟨js "usb", 1⟩

/-- A signer that finds one gnubby, which cannot be opened: this is noticed while `doSign` runs, or
later.  Then the time is over, and there is another enumeration. -/
def noDevice (during later : List SingleGnubbySigner.Event) : List Input :=
  [.doSign (some []), .event (.enumerated 0 (some [(exampleId, during)])) []] ++
    later.map (fun e => .event (.signer exampleId e) []) ++
    [.event .intervalTimer [], .event .timerExpires [], .event .reenumerateTimerExpires [],
      .event (.enumerated 0 (some [(exampleId, [])])) []]

theorem countsCorrectly_noDevice :
    machine.AllSteps CompletesLater (new false) (noDevice [] [.opened NODEVICE_STATUS]) ∧
      machine.Always CountsCorrectly (new false) (noDevice [] [.opened NODEVICE_STATUS]) := by
  have hlater : machine.AllSteps CompletesLater (new false)
      (noDevice [] [.opened NODEVICE_STATUS]) := by
    refine ⟨trivial, ?_, trivial, trivial, trivial, trivial, ?_, trivial⟩
    · intro _ _ id hid _ pre hpre
      obtain rfl : id = (exampleId, []) := by simpa using hid
      obtain rfl : pre = [] := by simpa using hpre
      rfl
    · intro _ _ id hid _ pre hpre
      obtain rfl : id = (exampleId, []) := by simpa using hid
      obtain rfl : pre = [] := by simpa using hpre
      rfl
  exact ⟨hlater, countsCorrectly_of_completesLater false _ hlater⟩

/-- A device that is noticed not to be there while `doSign` runs is never counted, and the owner is
never told that all is complete. -/
theorem not_countsCorrectly_noDevice :
    ¬ machine.Always CountsCorrectly (new false) (noDevice [.opened NODEVICE_STATUS] []) := by
  intro h
  have hcounts := h _ (List.prefix_refl _)
  rcases hcounts.scheduled (by decide) (by decide) (by decide) with hdeferred | hcalls
  · exact hdeferred (by decide)
  · exact hcalls (by decide)

end U2F.MultipleGnubbySigner
