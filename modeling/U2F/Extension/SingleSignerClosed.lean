/-
**A closed signer.**

After `close()` a `SingleGnubbySigner` should send no version or sign command and not complete, and
each gnubby that the factory has handed to it should be asked to close, unless it was passed on
through `completeCb`.  The signer does not notice `close()` while the factory opens a gnubby, and a
version or sync command that fails afterwards still completes it; a gnubby that comes with an
error, or instead of a busy one, is lost.

Main definitions:

* `SingleGnubbySigner.StaysClosed` — what is expected of the record of a signer;
* `SingleGnubbySigner.Notices` — the steps at which the signer notices that it is closed.

Main results:

* `SingleGnubbySigner.inv_handle` — such a step keeps every gnubby accounted for;
* `SingleGnubbySigner.staysClosed_of_notices` — **a run of such steps stays closed**.
-/

import U2F.Extension.SingleSigner

set_option relaxedAutoImplicit false
set_option autoImplicit false

namespace U2F.SingleGnubbySigner

/-! ### What is expected -/

/-- A deed that a closed signer should not do. -/
def Deed.Forbidden : Deed → Prop
  | .version _ | .sign _ _ | .completed _ => True
  | _ => False

/-- No forbidden deed comes after `close()`.  The last deed comes first. -/
def Quiet : List Deed → Prop
  | [] => True
  | deed :: earlier => (.closed ∈ earlier → ¬ deed.Forbidden) ∧ Quiet earlier

/-- A gnubby was asked to close, or was passed on through `completeCb`. -/
def Released (deeds : List Deed) (gnubby : ℕ) : Prop :=
  .closeWhenIdle gnubby ∈ deeds ∨
    ∃ result, .completed result ∈ deeds ∧ result.gnubby = some gnubby

/-- **What is expected of a signer that is closed.** -/
structure StaysClosed (deeds : List Deed) : Prop where
  quiet : Quiet deeds
  released : .closed ∈ deeds → ∀ gnubby, .handed gnubby ∈ deeds → Released deeds gnubby

theorem quiet_of_not_mem {deeds : List Deed} (h : .closed ∉ deeds) : Quiet deeds := by
  induction deeds with
  | nil => trivial
  | cons deed earlier ih =>
      have hearlier : .closed ∉ earlier := fun hmem => h (List.mem_cons_of_mem _ hmem)
      exact ⟨fun hmem => absurd hmem hearlier, ih hearlier⟩

theorem Released.cons {deeds : List Deed} {gnubby : ℕ} (h : Released deeds gnubby) (deed : Deed) :
    Released (deed :: deeds) gnubby := by
  rcases h with h | ⟨result, h, hgnubby⟩
  · exact .inl (List.mem_cons_of_mem _ h)
  · exact .inr ⟨result, List.mem_cons_of_mem _ h, hgnubby⟩

/-- The steps at which a signer notices `close()`: no open completes once it is closed, and what it
has asked of its gnubby then does not fail.  An open that completes earlier does not fail either, and
is the first one. -/
def Notices (s : SingleGnubbySigner) : Event → Prop
  | .opened rc =>
      s.awaiting = .opening →
        .closed ∉ s.deeds ∧ s.gnubby = none ∧ (rc = OK_STATUS ∨ rc = BUSY_STATUS)
  | .versioned rc _ =>
      s.awaiting = .version → .closed ∈ s.deeds →
        rc = OK_STATUS ∨ rc = BUSY_STATUS ∧ s.timerExpired = false
  | .synced code =>
      s.awaiting = .versionSync ∨ s.awaiting = .signSync → .closed ∈ s.deeds → code = OK_STATUS
  | _ => True

/-! ### The gnubbies of a signer that is not closed -/

/-- Each gnubby that was handed over has been released or is held. -/
def Accounted (s : SingleGnubbySigner) : Prop :=
  ∀ gnubby, .handed gnubby ∈ s.deeds → Released s.deeds gnubby ∨ s.gnubby = some gnubby

/-- Whether what is outstanding is an answer of the gnubby, or a delay before it is asked again. -/
def usesGnubby (s : SingleGnubbySigner) : Bool :=
  match s.awaiting with
  | .version | .versionSync | .sign _ | .signDelay | .signSync => true
  | _ => false

/-- A signer that has its challenges, is not closed, and has nothing outstanding. -/
structure Free (s : SingleGnubbySigner) : Prop where
  set : s.challengesSet = true
  notClosed : .closed ∉ s.deeds
  notClosing : s.state ≠ .CLOSING
  awaiting : s.awaiting = .nothing
  accounted : s.Accounted

/-- A signer that has its challenges and is not closed. -/
structure Held (s : SingleGnubbySigner) : Prop where
  set : s.challengesSet = true
  notClosed : .closed ∉ s.deeds
  notClosing : s.state ≠ .CLOSING
  accounted : s.Accounted
  opening : s.awaiting = .opening → s.state = .OPENING ∨ s.state = .BUSY
  openDelay : s.awaiting = .openDelay → s.state = .BUSY
  noChallenges : s.awaiting ≠ .noChallenges
  holding : s.usesGnubby = true → s.gnubby.isSome = true
  /-- A gnubby that the signer is about to give up has been passed on. -/
  passedOn : s.awaiting = .completeCb true → ∀ gnubby, s.gnubby = some gnubby →
    Released s.deeds gnubby

section Held

variable {s t : SingleGnubbySigner} {code : ℤ}

theorem Free.held (h : s.Free) : s.Held := by
  refine ⟨h.set, h.notClosed, h.notClosing, h.accounted, ?_, ?_, ?_, ?_, ?_⟩
  all_goals simp [h.awaiting, usesGnubby]

theorem Held.free (h : s.Held) : s.called.Free :=
  ⟨h.set, h.notClosed, h.notClosing, rfl, h.accounted⟩

/-- A deed that hands over no gnubby keeps the gnubbies accounted for. -/
theorem Accounted.did (h : s.Accounted) {deed : Deed} (hdeed : ∀ gnubby, deed ≠ .handed gnubby) :
    (s.did deed).Accounted := by
  intro gnubby hmem
  have hearlier : Deed.handed gnubby ∈ s.deeds := by
    rcases List.mem_cons.1 hmem with heq | hmem
    · exact absurd heq.symm (hdeed gnubby)
    · exact hmem
  exact (h gnubby hearlier).imp_left fun hreleased => hreleased.cons deed

/-- Closing a signer of its own accord releases its gnubby. -/
theorem Free.close (h : s.Free) :
    Deed.closed ∉ (s.close true).deeds ∧ (s.close true).challengesSet = true ∧
      (s.close true).state ≠ .CLOSING ∧ (s.close true).Accounted ∧
      (s.close true).gnubby = none := by
  unfold SingleGnubbySigner.close
  split
  case h_1 hnone => exact ⟨h.notClosed, h.set, h.notClosing, h.accounted, hnone⟩
  case h_2 held hheld =>
    simp only [Bool.not_true, Bool.and_false, Bool.false_eq_true, if_false]
    refine ⟨?_, h.set, by simp [closed_], ?_, rfl⟩
    · have hnotClosed := h.notClosed
      simpa [did, closed_] using hnotClosed
    · intro gnubby hmem
      have hearlier : Deed.handed gnubby ∈ s.deeds := by simpa [did, closed_] using hmem
      rcases h.accounted gnubby hearlier with hreleased | hgnubby
      · exact .inl (hreleased.cons _)
      · -- the gnubby that is held is the one that is asked to close
        obtain rfl : held = gnubby := by simpa [hheld] using hgnubby
        exact .inl (.inl (by simp [did, closed_]))

theorem Free.goToError (code : ℤ) (h : s.Free) : (s.goToError_ code).Held := by
  unfold goToError_
  dsimp only
  split
  case isTrue =>
    refine ⟨h.set, ?_, by simp [complete, did], ?_, ?_, ?_, ?_, ?_, ?_⟩
    · simpa [complete, did] using h.notClosed
    · exact (show Accounted { s with state := .COMPLETE } from h.accounted).did (by simp)
    all_goals simp [complete, usesGnubby]
  case isFalse =>
    have hcomplete : Free { s with state := .COMPLETE } :=
      ⟨h.set, h.notClosed, by simp, h.awaiting, h.accounted⟩
    obtain ⟨hnotClosed, hset, hnotClosing, haccounted, -⟩ := hcomplete.close
    refine ⟨hset, ?_, hnotClosing, haccounted.did (by simp), ?_, ?_, ?_, ?_, ?_⟩
    · simpa [complete, did] using hnotClosed
    all_goals simp [complete, usesGnubby]

theorem Free.goToSuccess (code : ℤ) (challenge : Option DecodedChallenge)
    (info : Option (List UInt8)) (h : s.Free) : (s.goToSuccess_ code challenge info).Held := by
  unfold goToSuccess_
  refine ⟨h.set, ?_, by simp [complete, did], ?_, ?_, ?_, ?_, ?_, ?_⟩
  · simpa [complete, did] using h.notClosed
  · exact (show Accounted { s with state := .COMPLETE } from h.accounted).did (by simp)
  · simp [complete]
  · simp [complete]
  · simp [complete]
  · simp [complete, usesGnubby]
  · intro _ gnubby hgnubby
    exact .inr ⟨⟨code, s.gnubby, challenge, info⟩, List.mem_cons_self, hgnubby⟩

theorem Free.askVersion (h : s.Free) : s.askVersion.Held := by
  unfold SingleGnubbySigner.askVersion
  split
  case h_1 => exact h.held
  case h_2 gnubby hgnubby =>
    refine ⟨h.set, ?_, h.notClosing, h.accounted.did (by simp), ?_, ?_, ?_, ?_, ?_⟩
    · simpa [did] using h.notClosed
    all_goals simp [did, hgnubby]

theorem Free.askSync (awaiting : Awaiting)
    (hawaiting : awaiting = .versionSync ∨ awaiting = .signSync) (h : s.Free) :
    (s.askSync awaiting).Held := by
  unfold SingleGnubbySigner.askSync
  split
  case h_1 => exact h.held
  case h_2 gnubby hgnubby =>
    refine ⟨h.set, ?_, h.notClosing, h.accounted.did (by simp), ?_, ?_, ?_, ?_, ?_⟩
    · simpa [did] using h.notClosed
    all_goals rcases hawaiting with rfl | rfl <;> simp [did, hgnubby]

/-- The loop keeps the gnubbies accounted for. -/
theorem Free.signs (ht : Signs s t) (h : s.Free) (hgnubby : s.gnubby.isSome = true) : t.Held := by
  have hloop : ∀ state k cache, state ≠ State.CLOSING → (s.inLoop state k cache).Free := by
    intro state k cache hstate
    exact ⟨h.set, h.notClosed, hstate, h.awaiting, h.accounted⟩
  cases ht with
  | still state k cache hstate =>
      refine (hloop state k cache ?_).held
      rcases hstate with rfl | rfl | rfl
      · exact h.notClosing
      · simp
      · simp
  | asked k cache gnubby challenge =>
      have hsigning := hloop .SIGNING k cache (by simp)
      refine ⟨h.set, ?_, hsigning.notClosing, hsigning.accounted.did (by simp), ?_, ?_, ?_, ?_, ?_⟩
      · simpa [did, inLoop] using h.notClosed
      · simp
      · simp
      · simp
      · exact fun _ => hgnubby
      · simp
  | timedOut k cache => exact (hloop .SIGNING k cache (by simp)).askSync _ (.inr rfl)
  | touch k cache =>
      have hsigning := hloop .SIGNING k cache (by simp)
      refine ⟨h.set, h.notClosed, hsigning.notClosing, hsigning.accounted, ?_, ?_, ?_, ?_, ?_⟩
      · simp
      · simp
      · simp
      · exact fun _ => hgnubby
      · simp
  | failed code state k cache =>
      -- the state of the loop is overwritten
      exact (hloop .COMPLETE k cache (by simp)).goToError code
  | notEnrolled code state k cache =>
      exact (hloop .COMPLETE k cache (by simp)).goToSuccess _ _ _

theorem Held.openCallback (rc : ℤ) (h : s.Held) (hawaiting : s.awaiting = .opening)
    (hgnubby : s.gnubby = none) (hrc : rc = OK_STATUS ∨ rc = BUSY_STATUS) :
    (s.handOver.openCallback_ rc s.handed).Held := by
  -- the new gnubby is held, and there was none before
  have hfree : ∀ state, state ≠ State.CLOSING →
      Free { s.handOver with gnubby := some s.handed, state := state } := by
    intro state hstate
    refine ⟨h.set, ?_, hstate, rfl, ?_⟩
    · simpa [handOver, did, called] using h.notClosed
    · intro gnubby hmem
      rcases List.mem_cons.1 hmem with heq | hmem
      · obtain rfl : gnubby = s.handed := by simpa using heq
        exact .inr rfl
      · rcases h.accounted gnubby hmem with hreleased | hheld
        · exact .inl (hreleased.cons _)
        · simp [hgnubby] at hheld
  have hstate : ¬ (s.handOver.state ≠ .OPENING ∧ s.handOver.state ≠ .BUSY) := by
    have hstate : s.state = .OPENING ∨ s.state = .BUSY := h.opening hawaiting
    simp [handOver, did, called]
    grind
  unfold openCallback_
  rw [if_neg hstate]
  rcases hrc with rfl | rfl
  · exact (hfree s.state h.notClosing).askVersion
  · simp only [BUSY_STATUS, OK_STATUS, Int.reduceNeg, Int.reduceEq, if_false, if_true]
    have hbusy := hfree .BUSY (by simp)
    split
    · exact hbusy.goToError _
    · refine ⟨h.set, hbusy.notClosed, hbusy.notClosing, hbusy.accounted, ?_, ?_, ?_, ?_, ?_⟩
      all_goals simp [usesGnubby]

theorem Free.versionCallback (rc : ℤ) (data : Option (List UInt8)) (h : s.Free)
    (hgnubby : s.gnubby.isSome = true) : (s.versionCallback_ rc data).Held := by
  unfold versionCallback_
  split
  · split
    · exact h.goToError _
    · exact h.askSync _ (.inl rfl)
  split
  · exact h.goToError _
  · refine Free.signs (signs_doSign _) ⟨h.set, h.notClosed, ?_, h.awaiting, h.accounted⟩ hgnubby
    simp

theorem Free.versionSynced (code : ℤ) (h : s.Free) : (s.versionSynced code).Held := by
  unfold SingleGnubbySigner.versionSynced
  split
  · exact h.goToError _
  · exact h.askVersion

theorem Free.synced (code : ℤ) (h : s.Free) (hgnubby : s.gnubby.isSome = true) :
    (s.synced_ code).Held := by
  unfold synced_
  split
  · exact h.goToError _
  · exact h.signs (signs_doSign _) hgnubby

/-- A gnubby of a signer that is not closed replies. -/
theorem Held.replied (h : s.Held) : s.replied = s.called := by
  unfold SingleGnubbySigner.replied
  rw [if_neg h.notClosing]

end Held

/-! ### A signer that is closed -/

/-- A signer that has its challenges and is closed: it has no gnubby, or one that closes when the
command that is outstanding is done. -/
structure Shut (s : SingleGnubbySigner) : Prop where
  set : s.challengesSet = true
  closed : .closed ∈ s.deeds
  quiet : Quiet s.deeds
  released : ∀ gnubby, .handed gnubby ∈ s.deeds → Released s.deeds gnubby
  gnubby : s.gnubby = none ∨ s.state = .CLOSING ∧ s.commandPending = true
  notSigning : ∀ k, s.awaiting = .sign k → s.state ≠ .SIGNING
  noChallenges : s.awaiting ≠ .noChallenges

/-- A signer without challenges has done nothing. -/
structure Unset (s : SingleGnubbySigner) : Prop where
  set : s.challengesSet = false
  state : s.state = .INIT
  gnubby : s.gnubby = none
  awaiting : s.awaiting = .nothing
  deeds : ∀ deed ∈ s.deeds, deed = .closed

/-- The invariant. -/
def Inv (s : SingleGnubbySigner) : Prop := s.Unset ∨ s.Held ∨ s.Shut

section Shut

variable {s : SingleGnubbySigner}

/-- Without a command, a closed signer has no gnubby. -/
theorem Shut.gnubby_eq_none (h : s.Shut) (hpending : s.commandPending = false) :
    s.gnubby = none := by
  rcases h.gnubby with hnone | ⟨-, hpending'⟩
  · exact hnone
  · rw [hpending] at hpending'
    cases hpending'

theorem Shut.called (h : s.Shut) (hgnubby : s.gnubby = none) : s.called.Shut :=
  ⟨h.set, h.closed, h.quiet, h.released, .inl hgnubby, by simp [SingleGnubbySigner.called],
    by simp [SingleGnubbySigner.called]⟩

/-- When the command is done, the gnubby has closed. -/
theorem Shut.replied (h : s.Shut) : s.replied.Shut ∧ s.replied.gnubby = none := by
  unfold SingleGnubbySigner.replied
  split
  case isTrue =>
    refine ⟨⟨h.set, h.closed, h.quiet, h.released, .inl rfl, ?_, ?_⟩, rfl⟩
    · simp [closed_]
    · simp [SingleGnubbySigner.called, closed_]
  case isFalse hstate =>
    have hgnubby : s.gnubby = none := h.gnubby.resolve_right fun hclosing => hstate hclosing.1
    exact ⟨h.called hgnubby, hgnubby⟩

theorem askVersion_of_none (h : s.gnubby = none) : s.askVersion = s := by
  simp [askVersion, h]

theorem askSync_of_none (awaiting : Awaiting) (h : s.gnubby = none) : s.askSync awaiting = s := by
  simp [askSync, h]

theorem Shut.versionCallback (h : s.Shut) (hgnubby : s.gnubby = none) {rc : ℤ}
    (data : Option (List UInt8)) (hrc : rc = OK_STATUS ∨ rc = BUSY_STATUS ∧ s.timerExpired = false) :
    (s.versionCallback_ rc data).Shut := by
  unfold versionCallback_
  rcases hrc with rfl | ⟨rfl, htimer⟩
  · simp only [OK_STATUS, BUSY_STATUS, Int.reduceNeg, Int.reduceEq, if_false, ne_eq,
      not_true_eq_false]
    -- the signer has no gnubby to go on with
    rw [doSign_of_none (by exact hgnubby)]
    exact ⟨h.set, h.closed, h.quiet, h.released, .inl hgnubby, fun k hk => by simp, h.noChallenges⟩
  · simp only [htimer, if_true, Bool.false_eq_true, if_false]
    rw [askSync_of_none _ hgnubby]
    exact h

theorem Shut.close (idle : Bool) (h : s.Shut) : ((s.did .closed).close idle).Shut := by
  have hquiet : Quiet (.closed :: s.deeds) := ⟨fun _ hforbidden => hforbidden, h.quiet⟩
  have hclosed : (s.did .closed).Shut := by
    refine ⟨h.set, List.mem_cons_self, hquiet, ?_, h.gnubby, h.notSigning, h.noChallenges⟩
    intro gnubby hmem
    have hearlier : Deed.handed gnubby ∈ s.deeds := by simpa [did] using hmem
    exact (h.released gnubby hearlier).cons _
  unfold SingleGnubbySigner.close
  split
  case h_1 => exact hclosed
  case h_2 gnubby hgnubby =>
    have hpending : s.commandPending = true := by
      rcases h.gnubby with hnone | ⟨-, hpending⟩
      · rw [show (s.did .closed).gnubby = s.gnubby from rfl, hnone] at hgnubby
        cases hgnubby
      · exact hpending
    have hasked : Quiet (.closeWhenIdle gnubby :: .closed :: s.deeds) :=
      ⟨fun _ hforbidden => hforbidden, hquiet⟩
    have hreleased : ∀ g, .handed g ∈ Deed.closeWhenIdle gnubby :: Deed.closed :: s.deeds →
        Released (.closeWhenIdle gnubby :: .closed :: s.deeds) g := by
      intro g hmem
      have hearlier : Deed.handed g ∈ s.deeds := by simpa using hmem
      exact ((h.released g hearlier).cons _).cons _
    dsimp only
    split
    · exact ⟨h.set, by simp [did], hasked, hreleased, .inr ⟨rfl, hpending⟩,
        fun k _ => by simp [did], h.noChallenges⟩
    · exact ⟨h.set, by simp [did, closed_], hasked, hreleased, .inl rfl,
        fun k _ => by simp [closed_], h.noChallenges⟩

/-- The owner closes a signer that was not closed. -/
theorem Held.close (idle : Bool) (h : s.Held) : ((s.did .closed).close idle).Shut := by
  have hquiet : Quiet (.closed :: s.deeds) :=
    ⟨fun hmem => absurd hmem h.notClosed, quiet_of_not_mem h.notClosed⟩
  unfold SingleGnubbySigner.close
  split
  case h_1 hnone =>
    have hnone' : s.gnubby = none := hnone
    refine ⟨h.set, by simp [did], hquiet, ?_, .inl hnone', ?_, h.noChallenges⟩
    · intro gnubby hmem
      have hearlier : Deed.handed gnubby ∈ s.deeds := by simpa [did] using hmem
      rcases h.accounted gnubby hearlier with hreleased | hheld
      · exact hreleased.cons _
      · rw [hnone'] at hheld
        cases hheld
    · intro k hk
      -- a sign command is outstanding only at a gnubby that is held
      have hsome : s.gnubby.isSome = true := h.holding (by simp [usesGnubby, show s.awaiting = _ from hk])
      rw [hnone'] at hsome
      cases hsome
  case h_2 held hheld =>
    have hheld' : s.gnubby = some held := hheld
    have hasked : Quiet (.closeWhenIdle held :: .closed :: s.deeds) :=
      ⟨fun _ hforbidden => hforbidden, hquiet⟩
    have hreleased : ∀ g, .handed g ∈ Deed.closeWhenIdle held :: Deed.closed :: s.deeds →
        Released (.closeWhenIdle held :: .closed :: s.deeds) g := by
      intro g hmem
      have hearlier : Deed.handed g ∈ s.deeds := by simpa using hmem
      rcases h.accounted g hearlier with hreleased | hgnubby
      · exact (hreleased.cons _).cons _
      · obtain rfl : held = g := by simpa [hheld'] using hgnubby
        exact .inl (by simp)
    dsimp only
    split
    case isTrue hpending =>
      have hpending' : s.commandPending = true := by
        have hand := Bool.and_eq_true_iff.1 hpending
        exact hand.1
      exact ⟨h.set, by simp [did], hasked, hreleased, .inr ⟨rfl, hpending'⟩,
        fun k _ => by simp [did], h.noChallenges⟩
    case isFalse =>
      exact ⟨h.set, by simp [did, closed_], hasked, hreleased, .inl rfl,
        fun k _ => by simp [closed_], h.noChallenges⟩

end Shut

/-! ### The invariant -/

section Invariant

variable {s : SingleGnubbySigner}

theorem Inv.staysClosed (h : s.Inv) : StaysClosed s.deeds := by
  rcases h with h | h | h
  · refine ⟨?_, ?_⟩
    · have hdeeds := h.deeds
      generalize s.deeds = deeds at hdeeds
      induction deeds with
      | nil => trivial
      | cons deed earlier ih =>
          obtain ⟨rfl, hearlier⟩ := List.forall_mem_cons.1 hdeeds
          exact ⟨fun _ hforbidden => hforbidden, ih hearlier⟩
    · intro _ gnubby hmem
      cases h.deeds _ hmem
  · exact ⟨quiet_of_not_mem h.notClosed, fun hclosed => absurd hclosed h.notClosed⟩
  · exact ⟨h.quiet, fun _ => h.released⟩

/-- Nothing happens to a signer without challenges but that it is given some, or is closed. -/
theorem Unset.handle (h : s.Unset) (e : Event) : (s.handle e).Inv := by
  cases e with
  | doSign challenges =>
      simp only [SingleGnubbySigner.handle, doSign, h.set, h.state, open_, Bool.false_eq_true,
        if_false, if_true]
      by_cases hclosed : .closed ∈ s.deeds
      · refine .inr (.inr ⟨rfl, hclosed, (Inv.staysClosed (.inl h)).quiet, ?_, .inl h.gnubby, ?_, ?_⟩)
        · intro gnubby hmem
          cases h.deeds _ hmem
        · simp
        · simp
      · refine .inr (.inl ⟨rfl, hclosed, by simp, ?_, by simp, by simp, by simp, ?_, by simp⟩)
        · intro gnubby hmem
          cases h.deeds _ hmem
        · simp [usesGnubby]
  | timerExpires => exact .inl ⟨h.set, h.state, h.gnubby, h.awaiting, h.deeds⟩
  | close idle =>
      have hgnubby : (s.did .closed).gnubby = none := h.gnubby
      simp only [SingleGnubbySigner.handle, close, hgnubby]
      refine .inl ⟨h.set, h.state, h.gnubby, h.awaiting, ?_⟩
      simpa [did] using h.deeds
  | _ =>
      simp only [SingleGnubbySigner.handle, h.awaiting]
      exact .inl h

theorem Held.handle (h : s.Held) {e : Event} (he : s.Notices e) : (s.handle e).Inv := by
  cases e with
  | doSign challenges =>
      simp only [SingleGnubbySigner.handle, doSign, h.set, if_true]
      exact .inr (.inl h)
  | opened rc =>
      simp only [SingleGnubbySigner.handle]
      split
      · rename_i hawaiting
        obtain ⟨-, hgnubby, hrc⟩ := he hawaiting
        exact .inr (.inl (h.openCallback rc hawaiting hgnubby hrc))
      · exact .inr (.inl h)
  | openDelayOver =>
      simp only [SingleGnubbySigner.handle]
      split
      · rename_i hawaiting
        have hstate : s.state = .BUSY := h.openDelay hawaiting
        split
        · refine .inr (.inl ⟨h.set, h.notClosed, h.notClosing, h.accounted, ?_, ?_, ?_, ?_, ?_⟩)
          · exact fun _ => .inr hstate
          all_goals simp [usesGnubby]
        · exact .inr (.inl h.free.held)
      · exact .inr (.inl h)
  | versioned rc data =>
      simp only [SingleGnubbySigner.handle]
      split
      · rename_i hawaiting
        rw [h.replied]
        have hgnubby := h.holding (by simp [usesGnubby, hawaiting])
        exact .inr (.inl (h.free.versionCallback rc data hgnubby))
      · exact .inr (.inl h)
  | synced code =>
      simp only [SingleGnubbySigner.handle]
      split
      · exact .inr (.inl (h.free.versionSynced code))
      · rename_i hawaiting
        have hgnubby := h.holding (by simp [usesGnubby, hawaiting])
        exact .inr (.inl (h.free.synced code hgnubby))
      · exact .inr (.inl h)
  | signed code info =>
      simp only [SingleGnubbySigner.handle]
      split
      · rename_i k hawaiting
        rw [h.replied]
        have hgnubby := h.holding (by simp [usesGnubby, hawaiting])
        refine .inr (.inl ?_)
        rcases s.called.signCallback_cases k code info with hsigns | ⟨-, -, hsuccess⟩
        · exact h.free.signs hsigns hgnubby
        · rw [hsuccess]
          exact h.free.goToSuccess _ _ _
      · exact .inr (.inl h)
  | signDelayOver =>
      simp only [SingleGnubbySigner.handle]
      split
      · rename_i hawaiting
        have hgnubby := h.holding (by simp [usesGnubby, hawaiting])
        exact .inr (.inl (h.free.signs (signs_doSign _) hgnubby))
      · exact .inr (.inl h)
  | noChallenges =>
      simp only [SingleGnubbySigner.handle]
      split
      · rename_i hawaiting
        exact absurd hawaiting h.noChallenges
      · exact .inr (.inl h)
  | returned =>
      simp only [SingleGnubbySigner.handle]
      split
      · rename_i givesUp hawaiting
        split
        · rename_i hgivesUp
          -- the gnubby that is given up has been passed on
          have hfree : Free { s.called with gnubby := none } := by
            refine ⟨h.set, h.notClosed, h.notClosing, rfl, ?_⟩
            intro gnubby hmem
            rcases h.accounted gnubby hmem with hreleased | hgnubby
            · exact .inl hreleased
            · exact .inl (h.passedOn (by rw [hawaiting, hgivesUp]) gnubby hgnubby)
          exact .inr (.inl hfree.held)
        · exact .inr (.inl h.free.held)
      · exact .inr (.inl h)
  | timerExpires =>
      exact .inr (.inl ⟨h.set, h.notClosed, h.notClosing, h.accounted, h.opening, h.openDelay,
        h.noChallenges, h.holding, h.passedOn⟩)
  | close idle => exact .inr (.inr (h.close idle))

theorem Shut.handle (h : s.Shut) {e : Event} (he : s.Notices e) : (s.handle e).Inv := by
  cases e with
  | doSign challenges =>
      simp only [SingleGnubbySigner.handle, doSign, h.set, if_true]
      exact .inr (.inr h)
  | opened rc =>
      simp only [SingleGnubbySigner.handle]
      split
      · rename_i hawaiting
        exact absurd h.closed (he hawaiting).1
      · exact .inr (.inr h)
  | openDelayOver =>
      simp only [SingleGnubbySigner.handle]
      split
      · rename_i hawaiting
        have hgnubby := h.gnubby_eq_none (by simp [commandPending, hawaiting])
        rw [hgnubby]
        exact .inr (.inr (h.called hgnubby))
      · exact .inr (.inr h)
  | versioned rc data =>
      simp only [SingleGnubbySigner.handle]
      split
      · rename_i hawaiting
        obtain ⟨hshut, hgnubby⟩ := h.replied
        have htimer : s.replied.timerExpired = s.timerExpired := by
          unfold SingleGnubbySigner.replied
          split <;> rfl
        have hrc := he hawaiting h.closed
        rw [← htimer] at hrc
        exact .inr (.inr (hshut.versionCallback hgnubby data hrc))
      · exact .inr (.inr h)
  | synced code =>
      simp only [SingleGnubbySigner.handle]
      split
      · rename_i hawaiting
        have hgnubby := h.gnubby_eq_none (by simp [commandPending, hawaiting])
        rw [he (.inl hawaiting) h.closed, versionSynced, if_neg (by simp), askVersion_of_none]
        · exact .inr (.inr (h.called hgnubby))
        · exact hgnubby
      · rename_i hawaiting
        have hgnubby := h.gnubby_eq_none (by simp [commandPending, hawaiting])
        rw [he (.inr hawaiting) h.closed, synced_, if_neg (by simp), doSign_of_none]
        · exact .inr (.inr (h.called hgnubby))
        · exact hgnubby
      · exact .inr (.inr h)
  | signed code info =>
      simp only [SingleGnubbySigner.handle]
      split
      · rename_i k hawaiting
        obtain ⟨hshut, -⟩ := h.replied
        have hstate : s.replied.state ≠ .SIGNING := by
          unfold SingleGnubbySigner.replied
          split
          · simp [closed_]
          · exact h.notSigning k hawaiting
        rw [signCallback_, if_pos hstate]
        exact .inr (.inr hshut)
      · exact .inr (.inr h)
  | signDelayOver =>
      simp only [SingleGnubbySigner.handle]
      split
      · rename_i hawaiting
        have hgnubby := h.gnubby_eq_none (by simp [commandPending, hawaiting])
        rw [doSign_of_none (by exact hgnubby)]
        exact .inr (.inr (h.called hgnubby))
      · exact .inr (.inr h)
  | noChallenges =>
      simp only [SingleGnubbySigner.handle]
      split
      · rename_i hawaiting
        exact absurd hawaiting h.noChallenges
      · exact .inr (.inr h)
  | returned =>
      simp only [SingleGnubbySigner.handle]
      split
      · rename_i givesUp hawaiting
        have hgnubby := h.gnubby_eq_none (by simp [commandPending, hawaiting])
        have hcalled := h.called hgnubby
        split
        · exact .inr (.inr ⟨hcalled.set, hcalled.closed, hcalled.quiet, hcalled.released, .inl rfl,
            hcalled.notSigning, hcalled.noChallenges⟩)
        · exact .inr (.inr hcalled)
      · exact .inr (.inr h)
  | timerExpires =>
      exact .inr (.inr ⟨h.set, h.closed, h.quiet, h.released, h.gnubby, h.notSigning,
        h.noChallenges⟩)
  | close idle => exact .inr (.inr (h.close idle))

/-- **A step at which the signer notices that it is closed keeps its gnubbies accounted for.** -/
theorem inv_handle {e : Event} (h : s.Inv) (he : s.Notices e) : (s.handle e).Inv := by
  rcases h with h | h | h
  · exact h.handle e
  · exact h.handle he
  · exact h.handle he

end Invariant

theorem inv_new (forEnroll : Bool) : (new forEnroll).Inv :=
  .inl ⟨rfl, rfl, rfl, rfl, by simp [new]⟩

/-- **A run at each step of which the signer notices that it is closed stays closed.** -/
theorem staysClosed_of_notices (forEnroll : Bool) (es : List Event)
    (h : machine.AllSteps Notices (new forEnroll) es) :
    machine.Always (fun s => StaysClosed s.deeds) (new forEnroll) es :=
  Machine.always_of_invariant (M := machine) (fun _ _ hs he => inv_handle hs he)
    (fun _ hs => hs.staysClosed) h (inv_new forEnroll)

/-! ### Runs -/

def exampleChallenge : DecodedChallenge := ⟨[1], [2], [3], none⟩

/-- A signer that is closed while a sign command is outstanding; the gnubby closes, and then calls
back with a signature. -/
def closedWhileSigning : List Event :=
  [.doSign [exampleChallenge], .opened OK_STATUS, .versioned OK_STATUS none, .close false,
    .signed OK_STATUS (some [1, 2, 3, 4, 5, 6, 7])]

/-- A signer that is closed while the factory opens its gnubby. -/
def closedWhileOpening : List Event :=
  [.doSign [exampleChallenge], .close true, .opened OK_STATUS]

theorem staysClosed_closedWhileSigning :
    machine.AllSteps Notices (new false) closedWhileSigning ∧
      machine.Always (fun s => StaysClosed s.deeds) (new false) closedWhileSigning := by
  have hnotices : machine.AllSteps Notices (new false) closedWhileSigning := by
    refine ⟨trivial, ?_, ?_, trivial, trivial, trivial⟩
    · intro _
      exact ⟨by decide, by decide, .inl rfl⟩
    · intro _ _
      exact .inl rfl
  exact ⟨hnotices, staysClosed_of_notices false closedWhileSigning hnotices⟩

/-- The version command is sent after `close()`, to a gnubby that is not asked to close. -/
theorem not_staysClosed_closedWhileOpening :
    ¬ machine.Always (fun s => StaysClosed s.deeds) (new false) closedWhileOpening := by
  intro h
  have hrun := (h closedWhileOpening (List.prefix_refl _)).quiet
  have hdeeds : (machine.exec (new false) closedWhileOpening).deeds =
      [.version 0, .handed 0, .closed] := by decide
  rw [hdeeds] at hrun
  exact hrun.1 (by simp) trivial

end U2F.SingleGnubbySigner
