/-
**The gnubbies of an enroll handler.**

A gnubby that is passed to an enroll handler should be asked to close before the handler is done, and no
enroll command should be sent once the handler is closed.  A gnubby whose prerequisite check fails, or
is done when the time is over, is dropped as it is; one whose check is done after `close()` is asked to
enroll all the same; and a gnubby that is missing, but passes its check, makes `close()` throw.

Main definitions:

* `UsbEnrollHandler.LeaksNothing` — what is expected;
* `UsbEnrollHandler.Succeeds` — the steps in which the prerequisite checks succeed in time.

Main results:

* `UsbEnrollHandler.leaksNothing_of_succeeds` — **a handler leaks nothing in a run of such steps**.
-/

import U2F.Extension.SingleSignerResults
import U2F.Extension.UsbEnrollHandler

set_option relaxedAutoImplicit false
set_option autoImplicit false

namespace U2F.UsbEnrollHandler

open MultipleGnubbySigner (Call Reaction Owner)

/-! ### What is expected -/

/-- Nothing is outstanding. -/
structure Quiescent (s : MultipleGnubbySigner × UsbEnrollHandler) : Prop where
  deferred : s.1.deferred = []
  enumerations : s.1.enumerations = 0
  intervalTimer : s.1.intervalTimer = false
  otherIntervalTimers : s.1.otherIntervalTimers = 0
  timedOut : s.1.timedOut = true
  signers : ∀ t ∈ s.1.gnubbies, t.signer.awaiting = .nothing
  checks : s.2.checks = []
  versions : s.2.versions = []
  enrolls : s.2.enrolls = []
  delays : s.2.delays = []

/-- A gnubby was asked to close by the handler, or by the signer that has opened it. -/
def AskedToClose (s : MultipleGnubbySigner × UsbEnrollHandler) (gnubby : OpenGnubby) : Prop :=
  .closeWhenIdle gnubby ∈ s.2.deeds ∨
    ∃ t ∈ s.1.gnubbies, t.index = gnubby.gnubbyId ∧ .closeWhenIdle gnubby.number ∈ t.signer.deeds

/-- No enroll command comes after `close()`.  The last deed comes first. -/
def Quiet : List Deed → Prop
  | [] => True
  | deed :: earlier => (.closed ∈ earlier → ∀ command, deed ≠ .enroll command) ∧ Quiet earlier

/-- **What is expected of a handler.** -/
structure LeaksNothing (s : MultipleGnubbySigner × UsbEnrollHandler) : Prop where
  quiet : Quiet s.2.deeds
  released : s.2.closed = true → Quiescent s →
    ∀ gnubby, .passed gnubby ∈ s.2.deeds → AskedToClose s gnubby

/-- The end of a prerequisite check: of a gnubby it succeeds, before the time is over and before the
handler is closed; of a gnubby that is missing it does not. -/
def Answer.Succeeds (s : UsbEnrollHandler) : Answer → Prop
  | .checked i rc =>
      match s.checks[i]? with
      | none => True
      | some (some _) => rc = OK_STATUS ∧ s.timerExpired = false ∧ s.closed = false
      | some none => rc ≠ OK_STATUS ∨ s.timerExpired = true ∨ s.closed = true
  | _ => True

def AnswersSucceed (idle : List GnubbyDeviceId) : List Answer → UsbEnrollHandler → Prop
  | [], _ => True
  | a :: as, s =>
      a.Succeeds s ∧
        ((s.answered idle a).throws = false → AnswersSucceed idle as (s.answered idle a).owner)

/-- The steps in which the prerequisite checks that end succeed in time. -/
def Succeeds (s : MultipleGnubbySigner × UsbEnrollHandler) : Event → Prop
  | .signer e idle as =>
      ∀ result moreExpected, s.1.told e = some (result, moreExpected) →
        (s.2.signerFoundGnubby_ idle result).throws = false →
          AnswersSucceed idle as (s.2.signerFoundGnubby_ idle result).owner
  | .answers idle as => AnswersSucceed idle as s.2
  | .timerExpires => True
  | .close _ => True

/-! ### Accounts -/

/-- A gnubby waits for a touch, or was asked to close. -/
def WaitsOrCloses (s : UsbEnrollHandler) (gnubby : OpenGnubby) : Prop :=
  some gnubby ∈ s.waitingForTouchGnubbies ∨ .closeWhenIdle gnubby ∈ s.deeds

/-- **The accounts of a handler**: where each gnubby is. -/
structure Accounts (s : UsbEnrollHandler) : Prop where
  challenges : s.enrollChallenges ≠ []
  quiet : Quiet s.deeds
  closed : .closed ∈ s.deeds → s.closed = true
  passed : ∀ gnubby, .passed gnubby ∈ s.deeds → some gnubby ∈ s.checks ∨ s.WaitsOrCloses gnubby
  versions : ∀ gnubby ∈ s.versions, s.WaitsOrCloses gnubby
  enrolls : ∀ attempt ∈ s.enrolls, s.WaitsOrCloses attempt.gnubby
  delays : ∀ attempt ∈ s.delays, s.WaitsOrCloses attempt.gnubby
  opened : s.closed = false → ∀ gnubby ∈ s.waitingForTouchGnubbies, gnubby.isSome = true
  shut : s.closed = true → ∀ gnubby, some gnubby ∉ s.waitingForTouchGnubbies

section Accounts

variable {s t : UsbEnrollHandler}

/-- Another handler with the same gnubbies, which waits for no more. -/
structure SameGnubbies (s t : UsbEnrollHandler) : Prop where
  challenges : t.enrollChallenges = s.enrollChallenges
  deeds : t.deeds = s.deeds
  waiting : t.waitingForTouchGnubbies = s.waitingForTouchGnubbies
  closed : t.closed = s.closed
  checks : t.checks = s.checks
  versions : t.versions ⊆ s.versions
  enrolls : t.enrolls ⊆ s.enrolls
  delays : t.delays ⊆ s.delays

theorem Accounts.same (h : s.Accounts) (hsame : SameGnubbies s t) : t.Accounts := by
  have hwaits : ∀ gnubby, s.WaitsOrCloses gnubby → t.WaitsOrCloses gnubby := by
    intro gnubby
    rw [WaitsOrCloses, WaitsOrCloses, hsame.waiting, hsame.deeds]
    exact id
  refine ⟨by rw [hsame.challenges]; exact h.challenges, by rw [hsame.deeds]; exact h.quiet,
    by rw [hsame.deeds, hsame.closed]; exact h.closed, ?_,
    fun gnubby hmem => hwaits _ (h.versions gnubby (hsame.versions hmem)),
    fun attempt hmem => hwaits _ (h.enrolls attempt (hsame.enrolls hmem)),
    fun attempt hmem => hwaits _ (h.delays attempt (hsame.delays hmem)),
    by rw [hsame.closed, hsame.waiting]; exact h.opened,
    by rw [hsame.closed, hsame.waiting]; exact h.shut⟩
  rw [hsame.deeds, hsame.checks]
  exact fun gnubby hpassed => (h.passed gnubby hpassed).imp_right (hwaits gnubby)

/-- What happens to the gnubbies that a handler waits for: they still wait, or are asked to close. -/
structure Moves (s t : UsbEnrollHandler) : Prop where
  challenges : t.enrollChallenges = s.enrollChallenges
  checks : t.checks = s.checks
  versions : t.versions = s.versions
  enrolls : t.enrolls = s.enrolls
  delays : t.delays = s.delays
  waits : ∀ gnubby, s.WaitsOrCloses gnubby → t.WaitsOrCloses gnubby
  waiting : t.waitingForTouchGnubbies ⊆ s.waitingForTouchGnubbies
  passed : ∀ gnubby, .passed gnubby ∈ t.deeds → .passed gnubby ∈ s.deeds

theorem Accounts.moves (h : s.Accounts) (hmoves : Moves s t) (hquiet : Quiet t.deeds)
    (hclosed : .closed ∈ t.deeds → t.closed = true) (hopened : t.closed = false → s.closed = false)
    (hshut : t.closed = true → ∀ gnubby, some gnubby ∉ t.waitingForTouchGnubbies) : t.Accounts := by
  refine ⟨by rw [hmoves.challenges]; exact h.challenges, hquiet, hclosed, ?_, ?_, ?_, ?_,
    fun hopen gnubby hmem => h.opened (hopened hopen) gnubby (hmoves.waiting hmem), hshut⟩
  · intro gnubby hpassed
    rw [hmoves.checks]
    exact (h.passed gnubby (hmoves.passed gnubby hpassed)).imp_right (hmoves.waits gnubby)
  · rw [hmoves.versions]
    exact fun gnubby hmem => hmoves.waits _ (h.versions gnubby hmem)
  · rw [hmoves.enrolls]
    exact fun attempt hmem => hmoves.waits _ (h.enrolls attempt hmem)
  · rw [hmoves.delays]
    exact fun attempt hmem => hmoves.waits _ (h.delays attempt hmem)

/-- Closing gnubbies, one after the other. -/
theorem closeGnubbies_eq {gnubbies : List (Option OpenGnubby)}
    (h : ∀ gnubby ∈ gnubbies, gnubby.isSome = true) (s : UsbEnrollHandler) :
    ∃ deeds, closeGnubbies gnubbies s = .done { s with deeds := deeds ++ s.deeds } ∧
      (∀ gnubby, some gnubby ∈ gnubbies → .closeWhenIdle gnubby ∈ deeds) ∧
      ∀ deed ∈ deeds, ∃ gnubby, deed = .closeWhenIdle gnubby := by
  induction gnubbies generalizing s with
  | nil => exact ⟨[], rfl, by simp, by simp⟩
  | cons gnubby gnubbies ih =>
      rw [List.forall_mem_cons] at h
      obtain ⟨gnubby, rfl⟩ := Option.isSome_iff_exists.1 h.1
      obtain ⟨deeds, heq, hmem, hall⟩ := ih h.2 (s.did (.closeWhenIdle gnubby))
      refine ⟨deeds ++ [.closeWhenIdle gnubby], ?_, ?_, ?_⟩
      · rw [closeGnubbies, heq, List.append_assoc]
        rfl
      · intro gnubby' hgnubby'
        rcases List.mem_cons.1 hgnubby' with heq' | hgnubby'
        · obtain rfl := Option.some.inj heq'
          simp
        · exact List.mem_append_left _ (hmem gnubby' hgnubby')
      · intro deed hdeed
        rcases List.mem_append.1 hdeed with hdeed | hdeed
        · exact hall deed hdeed
        · exact ⟨gnubby, List.mem_singleton.1 hdeed⟩

theorem quiet_append {deeds earlier : List Deed}
    (hdeeds : ∀ deed ∈ deeds, ∃ gnubby, deed = .closeWhenIdle gnubby) (h : Quiet earlier) :
    Quiet (deeds ++ earlier) := by
  induction deeds with
  | nil => exact h
  | cons deed deeds ih =>
      rw [List.forall_mem_cons] at hdeeds
      obtain ⟨gnubby, rfl⟩ := hdeeds.1
      exact ⟨fun _ command => by simp, ih hdeeds.2⟩

/-- The handler is closed: every gnubby that waits for a touch is asked to close. -/
theorem Accounts.close (h : s.Accounts) (idle : List GnubbyDeviceId) : (s.close idle).owner.Accounts := by
  have hquiet : Quiet (.closed :: s.deeds) := ⟨fun _ command => by simp, h.quiet⟩
  cases hclosed : s.closed with
  | false =>
      obtain ⟨deeds, heq, hmem, hall⟩ := closeGnubbies_eq (h.opened hclosed)
        ({ s with closed := true }.did .closed)
      have hmoves : ∀ signer, Accounts { s with
          closed := true, deeds := deeds ++ .closed :: s.deeds, waitingForTouchGnubbies := []
          signer := signer } := by
        intro signer
        refine h.moves ⟨rfl, rfl, rfl, rfl, rfl, ?_, List.nil_subset _, ?_⟩ (quiet_append hall hquiet)
          (fun _ => rfl) (fun hopen => absurd hopen (by simp)) (fun _ _ => List.not_mem_nil)
        · rintro gnubby (hwaits | hcloses)
          · exact .inr (List.mem_append_left _ (hmem gnubby hwaits))
          · exact .inr (List.mem_append_right _ (List.mem_cons_of_mem _ hcloses))
        · intro gnubby hpassed
          rcases List.mem_append.1 hpassed with hpassed | hpassed
          · obtain ⟨gnubby', heq'⟩ := hall _ hpassed
            simp at heq'
          · simpa using hpassed
      unfold UsbEnrollHandler.close
      rw [show closeGnubbies s.waitingForTouchGnubbies _ = _ from heq, Reaction.done_andThen]
      dsimp only
      split
      · exact hmoves false
      · exact hmoves s.signer
  | true =>
      have hmoves : ∀ waiting signer, waiting ⊆ s.waitingForTouchGnubbies → Accounts { s with
          closed := true, deeds := .closed :: s.deeds, waitingForTouchGnubbies := waiting
          signer := signer } := by
        intro waiting signer hwaiting
        refine h.moves ⟨rfl, rfl, rfl, rfl, rfl, ?_, hwaiting, ?_⟩ hquiet (fun _ => rfl)
          (fun hopen => absurd hopen (by simp)) fun _ gnubby hmem => h.shut hclosed gnubby (hwaiting hmem)
        · rintro gnubby (hwaits | hcloses)
          · exact absurd hwaits (h.shut hclosed gnubby)
          · exact .inr (List.mem_cons_of_mem _ hcloses)
        · intro gnubby hpassed
          simpa using hpassed
      unfold UsbEnrollHandler.close
      match hwaiting : s.waitingForTouchGnubbies with
      | [] =>
          rw [closeGnubbies, Reaction.done_andThen]
          dsimp only
          split
          · exact hmoves [] false (List.nil_subset _)
          · exact hmoves [] s.signer (List.nil_subset _)
      | none :: gnubbies =>
          rw [closeGnubbies, Reaction.throw_andThen]
          exact hmoves (none :: gnubbies) s.signer (by rw [hwaiting]; exact List.Subset.refl _)
      | some gnubby :: gnubbies =>
          exact absurd (by simp [hwaiting]) (h.shut hclosed gnubby)

/-- A deed that is done to no gnubby that is passed, and that is no command. -/
theorem Accounts.did (h : s.Accounts) {deed : Deed} (henroll : ∀ command, deed ≠ .enroll command)
    (hpassed : ∀ gnubby, deed ≠ .passed gnubby) (hclosed : deed ≠ .closed) : (s.did deed).Accounts := by
  refine h.moves ⟨rfl, rfl, rfl, rfl, rfl, ?_, List.Subset.refl _, ?_⟩ ⟨fun _ => henroll, h.quiet⟩ ?_
    id h.shut
  · rintro gnubby (hwaits | hcloses)
    · exact .inl hwaits
    · exact .inr (List.mem_cons_of_mem _ hcloses)
  · intro gnubby hmem
    exact (List.mem_cons.1 hmem).resolve_left fun heq => hpassed gnubby heq.symm
  · intro hmem
    exact h.closed ((List.mem_cons.1 hmem).resolve_left fun heq => hclosed heq.symm)

theorem Accounts.notify (h : s.Accounts) (idle : List GnubbyDeviceId) (reply : EnrollHandlerReply) :
    (s.notify idle reply).owner.Accounts := by
  unfold UsbEnrollHandler.notify
  split
  · exact h
  · have hnotified : Accounts { s with notified := true } :=
      h.same ⟨rfl, rfl, rfl, rfl, rfl, List.Subset.refl _, List.Subset.refl _, List.Subset.refl _⟩
    exact Reaction.andThen_keeps (P := Accounts) (hnotified.close idle) fun hclose =>
      hclose.did (by simp) (by simp) (by simp)

theorem Accounts.removeWaitingGnubby (h : s.Accounts) (gnubby : OpenGnubby) :
    (s.removeWaitingGnubby_ gnubby).Accounts := by
  refine h.moves ⟨rfl, rfl, rfl, rfl, rfl, ?_, List.erase_subset, ?_⟩
    ⟨fun _ command => by simp, h.quiet⟩ ?_ id
    fun hclosed gnubby' hmem => h.shut hclosed gnubby' (List.mem_of_mem_erase hmem)
  · rintro gnubby' (hwaits | hcloses)
    · by_cases heq : gnubby' = gnubby
      · exact .inr (heq ▸ List.mem_cons_self)
      · exact .inl ((List.mem_erase_of_ne (by simpa using heq)).2 hwaits)
    · exact .inr (List.mem_cons_of_mem _ hcloses)
  · intro gnubby' hpassed
    exact (List.mem_cons.1 hpassed).resolve_left (by simp)
  · intro hmem
    exact h.closed ((List.mem_cons.1 hmem).resolve_left (by simp))

theorem Accounts.lastDropped (h : s.Accounts) (idle : List GnubbyDeviceId) :
    (s.lastDropped idle).owner.Accounts := by
  have hfound : Accounts { s with anyGnubbiesFound := false } :=
    h.same ⟨rfl, rfl, rfl, rfl, rfl, List.Subset.refl _, List.Subset.refl _, List.Subset.refl _⟩
  unfold UsbEnrollHandler.lastDropped
  dsimp only
  split
  · exact hfound.notify idle _
  · split
    · exact hfound
    · exact hfound

theorem Accounts.removeWrongVersionGnubby (h : s.Accounts) (idle : List GnubbyDeviceId)
    (gnubby : OpenGnubby) : (s.removeWrongVersionGnubby_ idle gnubby).owner.Accounts := by
  have hremoved := h.removeWaitingGnubby gnubby
  unfold removeWrongVersionGnubby_
  dsimp only
  split
  · exact hremoved.lastDropped idle
  · exact hremoved

/-- **No enroll command is sent by a handler that is closed**, since the gnubby was asked to close. -/
theorem Accounts.enroll (h : s.Accounts) (command : EnrollCommand) (version : JSString)
    (hwaits : s.WaitsOrCloses command.gnubby) : (s.enroll command version).owner.Accounts := by
  have henrolls : Accounts { s with enrolls := ⟨command.gnubby, version⟩ :: s.enrolls } :=
    ⟨h.challenges, h.quiet, h.closed, h.passed, h.versions,
      List.forall_mem_cons.2 ⟨hwaits, h.enrolls⟩, h.delays, h.opened, h.shut⟩
  unfold UsbEnrollHandler.enroll
  dsimp only
  split
  · exact henrolls
  · rename_i hasked
    refine henrolls.moves ⟨rfl, rfl, rfl, rfl, rfl, ?_, List.Subset.refl _, ?_⟩ ⟨?_, h.quiet⟩ ?_ id h.shut
    · rintro gnubby (hwaits | hcloses)
      · exact .inl hwaits
      · exact .inr (List.mem_cons_of_mem _ hcloses)
    · intro gnubby hpassed
      exact (List.mem_cons.1 hpassed).resolve_left (by simp)
    · intro hclosed
      rcases hwaits with hwaits | hcloses
      · exact absurd hwaits (h.shut (h.closed hclosed) _)
      · exact absurd hcloses hasked
    · intro hmem
      exact h.closed ((List.mem_cons.1 hmem).resolve_left (by simp))

theorem Accounts.tryEnroll (h : s.Accounts) (idle : List GnubbyDeviceId) (gnubby : OpenGnubby)
    (version : JSString) (hwaits : s.WaitsOrCloses gnubby) :
    (s.tryEnroll_ idle gnubby version).owner.Accounts := by
  unfold tryEnroll_
  split
  · exact h.removeWrongVersionGnubby idle gnubby
  · split
    · exact h
    · exact h.enroll _ version hwaits

theorem Accounts.gnubbyVersioned (h : s.Accounts) (idle : List GnubbyDeviceId) (gnubby : OpenGnubby)
    (rc : ℤ) (data : Option (List UInt8)) (hwaits : s.WaitsOrCloses gnubby) :
    (s.gnubbyVersioned_ idle gnubby rc data).owner.Accounts := by
  unfold gnubbyVersioned_
  split
  · exact h.removeWrongVersionGnubby idle gnubby
  · exact h.tryEnroll idle gnubby _ hwaits

theorem Accounts.enrollCallback (h : s.Accounts) (idle : List GnubbyDeviceId)
    (attempt : EnrollAttempt) (code : ℤ) (info : Option (List UInt8))
    (hwaits : s.WaitsOrCloses attempt.gnubby) :
    (s.enrollCallback_ idle attempt code info).owner.Accounts := by
  unfold enrollCallback_
  split
  · exact h
  split
  · have hremoved := h.removeWaitingGnubby attempt.gnubby
    dsimp only
    split
    · exact hremoved.lastDropped idle
    · exact hremoved
  split
  · split
    · have htimeout : Accounts { s with anyTimeout := true } :=
        h.same ⟨rfl, rfl, rfl, rfl, rfl, List.Subset.refl _, List.Subset.refl _, List.Subset.refl _⟩
      have hremoved := htimeout.removeWaitingGnubby attempt.gnubby
      dsimp only
      split
      · exact hremoved.notify idle _
      · exact hremoved
    · exact ⟨h.challenges, h.quiet, h.closed, h.passed, h.versions, h.enrolls,
        List.forall_mem_cons.2 ⟨hwaits, h.delays⟩, h.opened, h.shut⟩
  split
  · exact h.notify idle _
  · exact h.notify idle _

/-- A member of a list is at a position, or stays when that is taken out. -/
theorem mem_eraseIdx_or {α : Type} {l : List α} {i : ℕ} {x y : α} (hx : x ∈ l) (hy : l[i]? = some y) :
    x = y ∨ x ∈ l.eraseIdx i := by
  obtain ⟨j, hj⟩ := List.mem_iff_getElem?.1 hx
  by_cases hij : j = i
  · subst hij
    rw [hj] at hy
    exact .inl (Option.some.inj hy)
  · exact .inr (List.mem_eraseIdx_iff_getElem?.2 ⟨j, hij, hj⟩)

/-- A prerequisite check succeeds in time. -/
theorem Accounts.checked (h : s.Accounts) (idle : List GnubbyDeviceId) (i : ℕ) (rc : ℤ)
    (hsucceeds : (Answer.checked i rc).Succeeds s) :
    (s.answered idle (.checked i rc)).owner.Accounts := by
  simp only [answered]
  simp only [Answer.Succeeds] at hsucceeds
  cases hcheck : s.checks[i]? with
  | none => exact h
  | some gnubby =>
      rw [hcheck] at hsucceeds
      have hpassed : ∀ gnubby', .passed gnubby' ∈ s.deeds →
          (some gnubby' = gnubby ∨ some gnubby' ∈ s.checks.eraseIdx i) ∨ s.WaitsOrCloses gnubby' :=
        fun gnubby' hmem => (h.passed gnubby' hmem).imp_left fun hmem => mem_eraseIdx_or hmem hcheck
      cases gnubby with
      | some gnubby =>
          obtain ⟨rfl, hexpired, hopen⟩ := hsucceeds
          have hwaits : ∀ gnubby', s.WaitsOrCloses gnubby' → some gnubby' ∈ s.waitingForTouchGnubbies ++
              [some gnubby] ∨ .closeWhenIdle gnubby' ∈ s.deeds :=
            fun gnubby' hw => hw.imp_left fun hmem => List.mem_append_left _ hmem
          dsimp only [Reaction.done]
          rw [gnubbyPrerequisitesChecked_, if_neg (by simp [hexpired])]
          refine ⟨h.challenges, h.quiet, h.closed, ?_, ?_, fun attempt hmem => hwaits _ (h.enrolls attempt hmem),
            fun attempt hmem => hwaits _ (h.delays attempt hmem), ?_,
            fun hclosed => absurd hclosed (by simp [matchEnrollVersionToGnubby_, hopen])⟩
          · intro gnubby' hmem
            rcases hpassed gnubby' hmem with (heq | hmem) | hw
            · exact .inr (.inl (List.mem_append_right _ (by simp [heq])))
            · exact .inl hmem
            · exact .inr (hwaits gnubby' hw)
          · exact List.forall_mem_cons.2 ⟨.inl (List.mem_append_right _ (by simp)),
              fun gnubby' hmem => hwaits _ (h.versions gnubby' hmem)⟩
          · intro _ gnubby' hmem
            rcases List.mem_append.1 hmem with hmem | hmem
            · exact h.opened hopen gnubby' hmem
            · obtain rfl := List.mem_singleton.1 hmem
              rfl
      | none =>
          have herased : Accounts { s with checks := s.checks.eraseIdx i } := by
            refine ⟨h.challenges, h.quiet, h.closed, ?_, h.versions, h.enrolls, h.delays, h.opened, h.shut⟩
            intro gnubby' hmem
            exact (hpassed gnubby' hmem).imp_left fun hor => hor.resolve_left (by simp)
          dsimp only [Reaction.done]
          rw [gnubbyPrerequisitesChecked_]
          split
          · exact herased
          · rename_i hcase
            rw [not_or, not_not] at hcase
            have hclosed : s.closed = true :=
              (hsucceeds.resolve_left (not_not.2 hcase.1)).resolve_left hcase.2
            have hwaits : ∀ gnubby', s.WaitsOrCloses gnubby' → some gnubby' ∈ s.waitingForTouchGnubbies ++
                [none] ∨ .closeWhenIdle gnubby' ∈ s.deeds :=
              fun gnubby' hw => hw.imp_left fun hmem => List.mem_append_left _ hmem
            refine ⟨h.challenges, h.quiet, h.closed, fun gnubby' hmem => (herased.passed gnubby' hmem).imp_right
                (hwaits gnubby'), fun gnubby' hmem => hwaits _ (h.versions gnubby' hmem),
              fun attempt hmem => hwaits _ (h.enrolls attempt hmem),
              fun attempt hmem => hwaits _ (h.delays attempt hmem),
              fun hopen => absurd hopen (by simp [matchEnrollVersionToGnubby_, hclosed]), ?_⟩
            intro _ gnubby' hmem
            rcases List.mem_append.1 hmem with hmem | hmem
            · exact h.shut hclosed gnubby' hmem
            · simp at hmem

/-- The handler is called back. -/
theorem Accounts.answered (h : s.Accounts) (idle : List GnubbyDeviceId) (a : Answer)
    (hsucceeds : a.Succeeds s) :
    (s.answered idle a).owner.Accounts := by
  have herased : ∀ i, Accounts { s with versions := s.versions.eraseIdx i } ∧
      Accounts { s with enrolls := s.enrolls.eraseIdx i } ∧
      Accounts { s with delays := s.delays.eraseIdx i } :=
    fun i => ⟨h.same ⟨rfl, rfl, rfl, rfl, rfl, List.eraseIdx_subset, List.Subset.refl _,
      List.Subset.refl _⟩, h.same ⟨rfl, rfl, rfl, rfl, rfl, List.Subset.refl _, List.eraseIdx_subset,
      List.Subset.refl _⟩, h.same ⟨rfl, rfl, rfl, rfl, rfl, List.Subset.refl _, List.Subset.refl _,
      List.eraseIdx_subset⟩⟩
  cases a with
  | checked i rc => exact h.checked idle i rc hsucceeds
  | versioned i rc data =>
      simp only [UsbEnrollHandler.answered]
      split
      · exact h
      · rename_i gnubby hgnubby
        exact (herased i).1.gnubbyVersioned idle gnubby rc data
          (h.versions gnubby (List.mem_of_getElem? hgnubby))
  | enrolled i code info =>
      simp only [UsbEnrollHandler.answered]
      split
      · exact h
      · rename_i attempt hattempt
        exact (herased i).2.1.enrollCallback idle attempt code info
          (h.enrolls attempt (List.mem_of_getElem? hattempt))
  | delayOver i =>
      simp only [UsbEnrollHandler.answered]
      split
      · exact h
      · rename_i attempt hattempt
        exact (herased i).2.2.tryEnroll idle attempt.gnubby attempt.version
          (h.delays attempt (List.mem_of_getElem? hattempt))

theorem Accounts.answers (h : s.Accounts) (idle : List GnubbyDeviceId) (as : List Answer)
    (hsucceed : AnswersSucceed idle as s) :
    (answers idle as s).owner.Accounts := by
  induction as generalizing s with
  | nil => exact h
  | cons a as ih =>
      have hfirst := h.answered idle a hsucceed.1
      rw [UsbEnrollHandler.answers, Reaction.andThen]
      split
      · exact hfirst
      · rename_i hthrows
        exact ih hfirst (hsucceed.2 (by simpa using hthrows))

theorem Accounts.signerCompleted (h : s.Accounts) (idle : List GnubbyDeviceId) (anyPending : Bool) :
    (s.signerCompleted_ idle anyPending).owner.Accounts := by
  unfold signerCompleted_
  split
  · exact h.notify idle _
  · exact h

/-- A gnubby that is passed to the handler is checked. -/
theorem Accounts.signerFoundGnubby (h : s.Accounts) (idle : List GnubbyDeviceId)
    (signResult : MultipleSignerResult)
    (hresult : signResult.gnubby.isSome = true →
      signErrorIndicatesInvalidKeyHandle signResult.code = true) :
    (s.signerFoundGnubby_ idle signResult).owner.Accounts := by
  by_cases hinvalid : signErrorIndicatesInvalidKeyHandle signResult.code = true
  · have hok : signResult.code ≠ OK_STATUS := by
      intro heq
      rw [heq] at hinvalid
      exact absurd hinvalid (by decide)
    obtain ⟨challenge, challenges, hchallenges⟩ := List.exists_cons_of_ne_nil h.challenges
    unfold signerFoundGnubby_
    cases hgnubby : signResult.gnubby with
    | none =>
        simp only [hok, if_false, hinvalid, if_true, hchallenges]
        exact ⟨by simp [Reaction.done], h.quiet, h.closed, fun gnubby hmem =>
          (h.passed gnubby hmem).imp_left (List.mem_cons_of_mem _), h.versions, h.enrolls, h.delays, h.opened, h.shut⟩
    | some gnubby =>
        simp only [hok, if_false, hinvalid, if_true, UsbEnrollHandler.did, hchallenges]
        have hwaits : ∀ gnubby', s.WaitsOrCloses gnubby' →
            some gnubby' ∈ s.waitingForTouchGnubbies ∨
              .closeWhenIdle gnubby' ∈ Deed.passed gnubby :: s.deeds :=
          fun gnubby' hw => hw.imp_right (List.mem_cons_of_mem _)
        refine ⟨by simp [Reaction.done], ⟨fun _ command => by simp, h.quiet⟩, ?_, ?_,
          fun gnubby' hmem => hwaits _ (h.versions gnubby' hmem),
          fun attempt hmem => hwaits _ (h.enrolls attempt hmem),
          fun attempt hmem => hwaits _ (h.delays attempt hmem), h.opened, h.shut⟩
        · intro hmem
          exact h.closed ((List.mem_cons.1 hmem).resolve_left (by simp))
        · intro gnubby' hmem
          rcases List.mem_cons.1 hmem with heq | hmem
          · obtain rfl : gnubby' = gnubby := by simpa using heq
            exact .inl List.mem_cons_self
          · exact (h.passed gnubby' hmem).imp (List.mem_cons_of_mem _) (hwaits gnubby')
  · -- other results come without a gnubby
    have hnone : signResult.gnubby = none := by
      by_contra hsome
      exact hinvalid (hresult (Option.isSome_iff_ne_none.2 hsome))
    unfold signerFoundGnubby_
    rw [hnone]
    dsimp only
    split
    · exact h.notify idle _
    · exact h.notify idle _

end Accounts

/-! ### Runs -/

/-- The invariant: the signer is one for enrolling, and the handler has its accounts. -/
structure Inv (s : MultipleGnubbySigner × UsbEnrollHandler) : Prop where
  signer : s.1.Inv
  forEnroll : s.1.forEnroll = true
  searches : s.1.AllSigners SingleGnubbySigner.Searches
  accounts : s.2.Accounts

section Runs

variable {m : MultipleGnubbySigner} {s : UsbEnrollHandler} {request : HelperRequest}

/-- What the signer tells the handler. -/
theorem notEnrolled_told (hsearches : m.AllSigners SingleGnubbySigner.Searches)
    {e : MultipleGnubbySigner.Event} {result : MultipleSignerResult} {moreExpected : Bool}
    (htold : m.told e = some (result, moreExpected)) (hgnubby : result.gnubby.isSome = true) :
    signErrorIndicatesInvalidKeyHandle result.code = true := by
  cases e with
  | signer index e =>
      simp only [MultipleGnubbySigner.told] at htold
      split at htold
      · simp at htold
      · rename_i t htracker
        obtain ⟨-, l, r, hgnubbies, -⟩ := MultipleGnubbySigner.tracker_eq_some.1 htracker
        have ht : t ∈ m.gnubbies := by simp [hgnubbies]
        split at htold
        · simp at htold
        · rename_i result' hreports
          split at htold
          · obtain ⟨rfl, -⟩ := Prod.mk.inj (Option.some.inj htold)
            refine ((hsearches t ht).callback e).notEnrolled hreports ?_
            simpa [MultipleGnubbySigner.signResult] using hgnubby
          · simp at htold
  | _ => simp [MultipleGnubbySigner.told] at htold

theorem searches_newSigner (h : m.forEnroll = true) :
    (m.newSigner.doSign m.challenges).2.Searches :=
  ⟨h, by
    intro result hmem
    exact absurd hmem List.not_mem_nil⟩

/-- Closing a signer keeps what holds of its results. -/
theorem harmless_searches (cs : List Call) :
    MultipleGnubbySigner.Harmless SingleGnubbySigner.Searches cs :=
  fun _ _ idle h => h.handle (.close idle) (by simp)

/-- **The accounts are kept in a step in which the prerequisite checks succeed in time.** -/
theorem inv_step (h : Inv (m, s)) (e : Event) (hsucceeds : Succeeds (m, s) e) : Inv (handle (m, s) e) := by
  have haccounts : (handle (m, s) e).2.Accounts := by
    rw [handle_handler h.signer e]
    cases e with
    | signer e idle as =>
        dsimp only
        cases htold : m.told e with
        | some told =>
            obtain ⟨result, moreExpected⟩ := told
            have hfound := h.accounts.signerFoundGnubby idle result (notEnrolled_told h.searches htold)
            dsimp only
            rw [Reaction.andThen]
            split
            · exact hfound
            · rename_i hthrows
              exact hfound.answers idle as (hsucceeds result moreExpected htold (by simpa using hthrows))
        | none =>
            dsimp only
            split
            · exact h.accounts.signerCompleted idle _
            · exact h.accounts
    | answers idle as => exact h.accounts.answers idle as hsucceeds
    | timerExpires =>
        exact h.accounts.same ⟨rfl, rfl, rfl, rfl, rfl, List.Subset.refl _, List.Subset.refl _,
          List.Subset.refl _⟩
    | close idle => exact h.accounts.close idle
  have hcalls : ∀ cs : List Call, (m.calls cs).forEnroll = true ∧
      (m.calls cs).AllSigners SingleGnubbySigner.Searches :=
    fun cs => ⟨(MultipleGnubbySigner.quiet_calls cs m).forEnroll.trans h.forEnroll,
      h.searches.calls (harmless_searches cs)⟩
  cases e with
  | signer e idle as =>
      exact ⟨inv_handle h.signer _,
        (MultipleGnubbySigner.same_step (owner idle as) e s h.signer).1.trans h.forEnroll,
        h.searches.step SingleGnubbySigner.kept_searches (owner idle as) e s h.signer
          (searches_newSigner h.forEnroll) (fun _ _ _ => harmless_searches _)
          fun _ _ _ _ => harmless_searches _, haccounts⟩
  | answers idle as => exact ⟨inv_handle h.signer _, (hcalls _).1, (hcalls _).2, haccounts⟩
  | timerExpires => exact ⟨h.signer, h.forEnroll, h.searches, haccounts⟩
  | close idle => exact ⟨inv_handle h.signer _, (hcalls _).1, (hcalls _).2, haccounts⟩

theorem inv_run (hchallenges : request.enrollChallenges ≠ []) : Inv (run request).2 := by
  refine ⟨MultipleGnubbySigner.inv_doSign _ (MultipleGnubbySigner.inv_new true), ?_, ?_, ?_⟩
  · simp only [run, MultipleGnubbySigner.doSign, MultipleGnubbySigner.new, Bool.false_eq_true, if_false]
    split
    · rfl
    · rfl
  · intro t ht
    have hnone : (run request).2.1.gnubbies = [] := by
      simp only [run, MultipleGnubbySigner.doSign, MultipleGnubbySigner.new, Bool.false_eq_true, if_false]
      split
      · rfl
      · rfl
    rw [hnone] at ht
    exact absurd ht List.not_mem_nil
  · exact ⟨hchallenges, trivial, by simp [run, new], by simp [run, new], by simp [run, new],
      by simp [run, new], by simp [run, new], by simp [run, new], by simp [run, new]⟩

/-- **A handler leaks nothing** in a run in which the prerequisite checks succeed in time. -/
theorem leaksNothing_of_succeeds (hchallenges : request.enrollChallenges ≠ []) (es : List Event)
    (h : machine.AllSteps Succeeds (run request).2 es) :
    machine.Always LeaksNothing (run request).2 es := by
  refine Machine.always_of_invariant (M := machine) (I := Inv) ?_ ?_ h (inv_run hchallenges)
  · rintro ⟨m, s⟩ e hinv hsucceeds
    exact inv_step hinv e hsucceeds
  · rintro ⟨m, s⟩ hinv
    refine ⟨hinv.accounts.quiet, fun hclosed hquiescent gnubby hpassed => .inl ?_⟩
    rcases hinv.accounts.passed gnubby hpassed with hcheck | hwaits | hcloses
    · rw [hquiescent.checks] at hcheck
      exact absurd hcheck List.not_mem_nil
    · exact absurd hwaits (hinv.accounts.shut hclosed gnubby)
    · exact hcloses

end Runs

/-! ### Runs with one gnubby -/

/-- A request with one key handle, for gnubbies of version 2. -/
def exampleRequest : HelperRequest :=
  { UsbSignHandler.exampleRequest with
    type := js "enroll_helper_request"
    enrollChallenges := [⟨js "U2F_V2", some (js "Y2hhbGxlbmdl"), js "YXBw"⟩] }

def exampleGnubby : OpenGnubby := ⟨UsbSignHandler.exampleId, 0⟩

/-- The signer opens a gnubby of version 2. -/
def opens : List Event :=
  [.signer (.enumerated 0 (some [(exampleGnubby.gnubbyId, [])])) [] [],
    .signer (.signer exampleGnubby.gnubbyId (.opened OK_STATUS)) [] [],
    .signer (.signer exampleGnubby.gnubbyId (.versioned OK_STATUS (some [85, 50, 70, 95, 86, 50]))) [] []]

/-- The gnubby does not know the key handle, and it passes its prerequisite check at once. -/
def passes (as : List Answer) : Event :=
  .signer (.signer exampleGnubby.gnubbyId (.signed WRONG_DATA_STATUS none)) []
    (.checked 0 OK_STATUS :: as)

/-- A gnubby is touched and enrolls. -/
def enrollment : List Event :=
  opens ++ [passes [.versioned 0 OK_STATUS (some [85, 50, 70, 95, 86, 50])],
    .answers [] [.enrolled 0 WAIT_TOUCH_STATUS none], .answers [] [.delayOver 0],
    .answers [] [.enrolled 0 OK_STATUS (some [1, 2, 3])]]

theorem leaksNothing_enrollment :
    exampleRequest.enrollChallenges ≠ [] ∧
      machine.AllSteps Succeeds (run exampleRequest).2 enrollment ∧
      machine.Always LeaksNothing (run exampleRequest).2 enrollment := by
  have hchallenges : exampleRequest.enrollChallenges ≠ [] := by simp [exampleRequest]
  have hsucceeds : machine.AllSteps Succeeds (run exampleRequest).2 enrollment := by
    have hnone : ∀ (s : MultipleGnubbySigner × UsbEnrollHandler) (e : MultipleGnubbySigner.Event),
        s.1.told e = none → Succeeds s (.signer e [] []) := by
      intro s e htold result moreExpected heq
      rw [htold] at heq
      simp at heq
    refine ⟨hnone _ _ rfl, hnone _ _ rfl, hnone _ _ rfl, ?_, ⟨trivial, fun _ => trivial⟩,
      ⟨trivial, fun _ => trivial⟩, ⟨trivial, fun _ => trivial⟩, trivial⟩
    intro result moreExpected heq _
    have hresult : MultipleGnubbySigner.signResult exampleGnubby.gnubbyId
        ⟨WRONG_DATA_STATUS, some 0, none, none⟩ = result := (Prod.mk.inj (Option.some.inj heq)).1
    rw [← hresult]
    exact ⟨⟨rfl, rfl, rfl⟩, fun _ => ⟨trivial, fun _ => trivial⟩⟩
  exact ⟨hchallenges, hsucceeds, leaksNothing_of_succeeds hchallenges enrollment hsucceeds⟩

/-- The time is over when the gnubby passes its check.  Then the signer completes, and the handler
answers. -/
def passesLate : List Event :=
  opens ++ [.timerExpires, passes [], .signer .intervalTimer [] [], .signer .timerExpires [] [],
    .signer .reenumerateTimerExpires [] [], .signer (.enumerated 0 none) [] [],
    .signer .allComplete [] []]

/-- A gnubby that passes its check late is never asked to close. -/
theorem not_leaksNothing_passesLate :
    ¬ machine.Always LeaksNothing (run exampleRequest).2 passesLate := by
  intro h
  have hasked := (h _ (List.prefix_refl _)).released rfl
    ⟨rfl, rfl, rfl, rfl, rfl, by decide, rfl, rfl, rfl, rfl⟩ exampleGnubby (by decide)
  rcases hasked with hhandler | hsigner
  · exact absurd hhandler (by decide)
  · exact absurd hsigner (by decide)

end U2F.UsbEnrollHandler
