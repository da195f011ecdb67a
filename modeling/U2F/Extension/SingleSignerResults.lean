/-
**The results of a signer.**

What a `SingleGnubbySigner` hands to its `completeCb`.  If it signs and is not closed, a signature comes
with a gnubby and the challenge that was signed, and wrong data comes with a gnubby, unless the gnubby
could not be opened because of wrong data.  If it is for enrolling, a result comes with a gnubby only if
its code says that no key handle is known.

Main definitions:

* `SingleGnubbySigner.Complete` — a result with what its code promises;
* `SingleGnubbySigner.Fit` — a signer that has completed, or is in a state that it reaches without
  `close()`;
* `SingleGnubbySigner.Searches` — a signer for enrolling and its results.

Main results:

* `SingleGnubbySigner.Fit.callback` — such a signer stays so;
* `SingleGnubbySigner.Fit.reports` — **its results are complete**;
* `SingleGnubbySigner.kept_searches` — what holds of the results of a signer for enrolling.
-/

import U2F.Extension.MultipleSigner
import U2F.Extension.SingleSignerClosed

set_option relaxedAutoImplicit false
set_option autoImplicit false

namespace U2F.SingleGnubbySigner

/-! ### What is kept -/

/-- A result with what its code promises. -/
structure Complete (result : SingleSignerResult) : Prop where
  ok : result.code = OK_STATUS → result.gnubby.isSome = true ∧ result.challenge.isSome = true
  wrongData : result.code = WRONG_DATA_STATUS → result.gnubby.isSome = true

/-- A state that a signer for a sign request reaches without `close()`, before it completes. -/
structure Fine (s : SingleGnubbySigner) : Prop where
  forSign : s.forEnroll = false
  notClosing : s.state ≠ .CLOSING
  noChallenges : s.awaiting ≠ .noChallenges
  notReporting : ∀ givesUp, s.awaiting ≠ .completeCb givesUp
  holding : s.usesGnubby = true → s.gnubby.isSome = true
  asked : ∀ k, s.awaiting = .sign k → k < s.challenges.length

/-- A signer that was not closed before it completed. -/
def Fit (s : SingleGnubbySigner) : Prop := s.completions = [] → s.Fine

/-- After a callback: the signer goes on, or it completes with what is promised. -/
def Fares (s : SingleGnubbySigner) : Prop :=
  s.Fine ∨ ∃ result, s.reports = some result ∧ Complete result

section Results

variable {s t : SingleGnubbySigner} {code : ℤ}

/-- A signer that waits for nothing. -/
theorem Fine.called (h : s.Fine) : s.called.Fine :=
  ⟨h.forSign, h.notClosing, by simp [SingleGnubbySigner.called], by simp [SingleGnubbySigner.called],
    by simp [SingleGnubbySigner.called, usesGnubby], by simp [SingleGnubbySigner.called]⟩

theorem Fine.replied (h : s.Fine) : s.replied = s.called := by
  unfold SingleGnubbySigner.replied
  rw [if_neg h.notClosing]

theorem reports_complete (s : SingleGnubbySigner) (result : SingleSignerResult) (givesUp : Bool) :
    (s.complete result givesUp).reports = some result := rfl

/-- An error that is not OK is complete, if for wrong data there is a gnubby. -/
theorem fares_goToError (hcode : code ≠ OK_STATUS)
    (hwrong : code = WRONG_DATA_STATUS → s.forEnroll = false ∧ s.gnubby.isSome = true) :
    (s.goToError_ code).Fares := by
  unfold goToError_
  dsimp only
  split
  · rename_i hsign
    refine .inr ⟨_, reports_complete _ _ _, fun hok => absurd hok hcode, fun _ => ?_⟩
    exact (hwrong hsign.2).2
  · rename_i hsign
    refine .inr ⟨_, reports_complete _ _ _, fun hok => absurd hok hcode, fun heq => ?_⟩
    have hwrongData : code = WRONG_DATA_STATUS := heq
    exact absurd ⟨by simp [(hwrong hwrongData).1], hwrongData⟩ hsign

theorem Fine.askVersion (h : s.Fine) (hgnubby : s.gnubby.isSome = true) : s.askVersion.Fine := by
  unfold SingleGnubbySigner.askVersion
  split
  · exact h
  · exact ⟨h.forSign, h.notClosing, by simp, by simp, fun _ => hgnubby, by simp⟩

theorem Fine.askSync {awaiting : Awaiting}
    (hawaiting : awaiting = .versionSync ∨ awaiting = .signSync) (h : s.Fine)
    (hgnubby : s.gnubby.isSome = true) : (s.askSync awaiting).Fine := by
  unfold SingleGnubbySigner.askSync
  split
  · exact h
  · refine ⟨h.forSign, h.notClosing, ?_, ?_, fun _ => hgnubby, ?_⟩
    all_goals rcases hawaiting with rfl | rfl <;> simp

/-- The loop keeps a signer fit. -/
theorem Fine.signs (ht : Signs s t) (h : s.Fine) (hgnubby : s.gnubby.isSome = true) : t.Fares := by
  have hloop : ∀ state k cache, state ≠ State.CLOSING → (s.inLoop state k cache).Fine :=
    fun state k cache hstate =>
      ⟨h.forSign, hstate, h.noChallenges, h.notReporting, h.holding, h.asked⟩
  cases ht with
  | still state k cache hstate =>
      refine .inl (hloop state k cache ?_)
      rcases hstate with rfl | rfl | rfl
      · exact h.notClosing
      · simp
      · simp
  | asked k cache gnubby challenge _ hchallenge =>
      refine .inl ⟨h.forSign, by simp [did, inLoop], by simp, by simp, fun _ => hgnubby, ?_⟩
      intro k' hk'
      obtain rfl : k = k' := by simpa using hk'
      obtain ⟨hk, -⟩ := List.getElem?_eq_some_iff.1 hchallenge
      exact hk
  | timedOut k cache =>
      exact .inl ((hloop .SIGNING k cache (by simp)).askSync (.inr rfl) hgnubby)
  | touch k cache =>
      exact .inl ⟨h.forSign, by simp [inLoop], by simp, by simp, fun _ => hgnubby, by simp⟩
  | failed code state k cache hcode =>
      have hok : code ≠ OK_STATUS := hcode.resolve_left (by simp [h.forSign])
      exact fares_goToError hok fun _ => ⟨h.forSign, hgnubby⟩
  | notEnrolled code state k cache hforEnroll =>
      rw [h.forSign] at hforEnroll
      exact absurd hforEnroll (by simp)

/-- The open operation is done, and did not fail because of wrong data. -/
theorem Fine.openCallback (rc : ℤ) (gnubby : ℕ) (h : s.Fine) :
    (s.openCallback_ rc gnubby).Fine ∨
      ∃ result, (s.openCallback_ rc gnubby).reports = some result ∧
        (rc ≠ WRONG_DATA_STATUS → Complete result) := by
  have hgnubby : Fine { s with gnubby := some gnubby } :=
    ⟨h.forSign, h.notClosing, h.noChallenges, h.notReporting, fun _ => rfl, h.asked⟩
  unfold openCallback_
  split
  · exact .inl h
  split
  · exact .inl (hgnubby.askVersion rfl)
  rename_i hok
  split
  · dsimp only
    split
    · have hfares : (goToError_ BUSY_STATUS { s with gnubby := some gnubby, state := .BUSY }).Fares :=
        fares_goToError (by decide) fun hwrong => absurd hwrong (by decide)
      obtain hfine | ⟨result, hreports, hcomplete⟩ := hfares
      · exact .inl hfine
      · exact .inr ⟨result, hreports, fun _ => hcomplete⟩
    · exact .inl ⟨h.forSign, by simp, by simp, by simp, by simp [usesGnubby], by simp⟩
  · -- an error; wrong data comes without a gnubby if none was opened
    by_cases hwrong : rc = WRONG_DATA_STATUS
    · have hreports : ∃ result, (s.goToError_ rc).reports = some result := by
        unfold goToError_
        dsimp only
        split
        · exact ⟨_, reports_complete _ _ _⟩
        · exact ⟨_, reports_complete _ _ _⟩
      obtain ⟨result, hreports⟩ := hreports
      exact .inr ⟨result, hreports, fun hne => absurd hwrong hne⟩
    · obtain hfine | ⟨result, hreports, hcomplete⟩ :=
        fares_goToError (s := s) hok fun heq => absurd heq hwrong
      · exact .inl hfine
      · exact .inr ⟨result, hreports, fun _ => hcomplete⟩

theorem Fine.versionCallback (rc : ℤ) (data : Option (List UInt8)) (h : s.Fine)
    (hgnubby : s.gnubby.isSome = true) : (s.versionCallback_ rc data).Fares := by
  unfold versionCallback_
  split
  · split
    · exact fares_goToError (by decide) fun _ => ⟨h.forSign, hgnubby⟩
    · exact .inl (h.askSync (.inl rfl) hgnubby)
  split
  · rename_i hok
    exact fares_goToError hok fun _ => ⟨h.forSign, hgnubby⟩
  · have hidle : Fine { s with state := .IDLE, version := some (UTIL_BytesToString (data.getD [])) } :=
      ⟨h.forSign, by simp, h.noChallenges, h.notReporting, h.holding, h.asked⟩
    exact hidle.signs (signs_doSign _) hgnubby

theorem Fine.versionSynced (code : ℤ) (h : s.Fine) (hgnubby : s.gnubby.isSome = true) :
    (s.versionSynced code).Fares := by
  unfold SingleGnubbySigner.versionSynced
  split
  · rename_i hok
    exact fares_goToError hok fun _ => ⟨h.forSign, hgnubby⟩
  · exact .inl (h.askVersion hgnubby)

theorem Fine.synced (code : ℤ) (h : s.Fine) (hgnubby : s.gnubby.isSome = true) :
    (s.synced_ code).Fares := by
  unfold synced_
  split
  · rename_i hok
    exact fares_goToError hok fun _ => ⟨h.forSign, hgnubby⟩
  · exact h.signs (signs_doSign _) hgnubby

/-- A sign command for a challenge is done. -/
theorem Fine.signCallback (k : ℕ) (code : ℤ) (info : Option (List UInt8)) (h : s.Fine)
    (hgnubby : s.gnubby.isSome = true) (hk : k < s.challenges.length) :
    (s.signCallback_ doSign_ k code info).Fares := by
  rcases s.signCallback_cases k code info with hsigns | ⟨-, -, hsuccess⟩
  · exact h.signs hsigns hgnubby
  · rw [hsuccess, List.getElem?_eq_getElem hk]
    exact .inr ⟨_, reports_complete _ _ _, fun _ => ⟨hgnubby, rfl⟩, fun _ => hgnubby⟩

/-- **A callback of a signer that is fit.** -/
theorem Fine.handle (h : s.Fine) {e : Event} (he : e.isCallback = true) :
    (s.handle e).Fine ∨ ∃ result, (s.handle e).reports = some result ∧
      (e ≠ .opened WRONG_DATA_STATUS → Complete result) := by
  have hfares : ∀ t : SingleGnubbySigner, t.Fares → t.Fine ∨ ∃ result, t.reports = some result ∧
      (e ≠ .opened WRONG_DATA_STATUS → Complete result) := by
    rintro t (hfine | ⟨result, hreports, hcomplete⟩)
    · exact .inl hfine
    · exact .inr ⟨result, hreports, fun _ => hcomplete⟩
  cases e with
  | doSign => contradiction
  | returned => contradiction
  | close => contradiction
  | opened rc =>
      simp only [SingleGnubbySigner.handle]
      split
      · have hcalled := h.called
        have hhandOver : s.handOver.Fine := ⟨hcalled.forSign, hcalled.notClosing, hcalled.noChallenges,
          hcalled.notReporting, hcalled.holding, hcalled.asked⟩
        rcases hhandOver.openCallback rc s.handed with hfine | ⟨result, hreports, hcomplete⟩
        · exact .inl hfine
        · exact .inr ⟨result, hreports, fun hne => hcomplete fun heq => hne (heq ▸ rfl)⟩
      · exact .inl h
  | openDelayOver =>
      simp only [SingleGnubbySigner.handle]
      split
      · split
        · exact .inl ⟨h.forSign, h.notClosing, by simp, by simp, by simp [usesGnubby], by simp⟩
        · exact .inl h.called
      · exact .inl h
  | versioned rc data =>
      simp only [SingleGnubbySigner.handle]
      split
      · rename_i hawaiting
        rw [h.replied]
        exact hfares _ (h.called.versionCallback rc data (h.holding (by simp [usesGnubby, hawaiting])))
      · exact .inl h
  | synced code =>
      simp only [SingleGnubbySigner.handle]
      split
      · rename_i hawaiting
        exact hfares _ (h.called.versionSynced code (h.holding (by simp [usesGnubby, hawaiting])))
      · rename_i hawaiting
        exact hfares _ (h.called.synced code (h.holding (by simp [usesGnubby, hawaiting])))
      · exact .inl h
  | signed code info =>
      simp only [SingleGnubbySigner.handle]
      split
      · rename_i k hawaiting
        rw [h.replied]
        exact hfares _ (h.called.signCallback k code info
          (h.holding (by simp [usesGnubby, hawaiting])) (h.asked k hawaiting))
      · exact .inl h
  | signDelayOver =>
      simp only [SingleGnubbySigner.handle]
      split
      · rename_i hawaiting
        exact hfares _ (h.called.signs (signs_doSign _) (h.holding (by simp [usesGnubby, hawaiting])))
      · exact .inl h
  | noChallenges =>
      simp only [SingleGnubbySigner.handle]
      split
      · rename_i hawaiting
        exact absurd hawaiting h.noChallenges
      · exact .inl h
  | timerExpires =>
      exact .inl ⟨h.forSign, h.notClosing, h.noChallenges, h.notReporting, h.holding, h.asked⟩

/-- A signer that has completed has no callbacks. -/
theorem callback_of_completed (h : s.AtMostOnce) (hcompleted : s.completions ≠ []) (e : Event) :
    (s.callback e).completions = s.completions := by
  unfold SingleGnubbySigner.callback
  split
  · rename_i he
    have hidle : s.awaiting = .nothing ∨ ∃ givesUp, s.awaiting = .completeCb givesUp := by
      rcases h.once with hnone | ⟨-, -, hidle⟩
      · exact absurd hnone.1 hcompleted
      · exact hidle
    rcases handle_of_idle hidle he with heq | heq
    · rw [heq]
    · rw [heq]
      rfl
  · rfl

/-- A signer stays fit. -/
theorem Fit.callback (h : s.Fit) (honce : s.AtMostOnce) (e : Event) : (s.callback e).Fit := by
  intro hnone
  have hfine : s.Fine := h (by
    by_contra hcompleted
    rw [callback_of_completed honce hcompleted] at hnone
    exact hcompleted hnone)
  unfold SingleGnubbySigner.callback at hnone ⊢
  split
  · rename_i he
    rcases hfine.handle he with hfine | ⟨result, hreports, -⟩
    · exact hfine
    · rw [if_pos he] at hnone
      exact absurd hnone (reports_eq_some hreports).2
  · exact hfine

/-- The end of a call of `completeCb` is not noticed by a signer that has not completed. -/
theorem Fit.returned (h : s.Fit) : (s.handle .returned).Fit := by
  intro hnone
  simp only [handle] at hnone ⊢
  split at hnone
  · rename_i givesUp hawaiting
    have hnone' : s.completions = [] := by
      split at hnone
      · exact hnone
      · exact hnone
    exact absurd hawaiting ((h hnone').notReporting givesUp)
  · exact h hnone

theorem Fit.called (h : s.Fit) : s.called.Fit := fun hnone => (h hnone).called

/-- **The results of a signer that is fit are complete**, unless its gnubby could not be opened because
of wrong data. -/
theorem Fit.reports (h : s.Fit) (honce : s.AtMostOnce)
    (hsettled : ∀ givesUp, s.awaiting ≠ .completeCb givesUp) {e : Event}
    (he : e ≠ .opened WRONG_DATA_STATUS) {result : SingleSignerResult}
    (hreports : (s.callback e).reports = some result) : Complete result := by
  obtain ⟨⟨givesUp, hawaiting⟩, hcompleted⟩ := reports_eq_some hreports
  have hnone : s.completions = [] := by
    by_contra hcompletions
    have hnothing := honce.awaiting_of_completed hcompletions hsettled
    rw [(callback_of_nothing hnothing e).1] at hawaiting
    simp at hawaiting
  unfold SingleGnubbySigner.callback at hreports
  split at hreports
  · rename_i hcallback
    rcases (h hnone).handle hcallback with hfine | ⟨result', hreports', hcomplete⟩
    · obtain ⟨givesUp, hawaiting⟩ := (reports_eq_some hreports).1
      exact absurd hawaiting (hfine.notReporting givesUp)
    · rw [hreports] at hreports'
      obtain rfl := Option.some.inj hreports'
      exact hcomplete he
  · exact absurd (reports_eq_some hreports).1 (by simpa using hsettled)

end Results

/-! ### A signer for enrolling -/

/-- A result that comes with a gnubby only if no key handle is known. -/
def NotEnrolled (result : SingleSignerResult) : Prop :=
  result.gnubby.isSome = true → signErrorIndicatesInvalidKeyHandle result.code = true

/-- A signer for enrolling, and its results. -/
structure Searches (s : SingleGnubbySigner) : Prop where
  forEnroll : s.forEnroll = true
  results : ∀ result ∈ s.completions, NotEnrolled result

section Searches

variable {s t : SingleGnubbySigner}

theorem Searches.same (h : s.Searches) (hforEnroll : t.forEnroll = s.forEnroll)
    (hcompletions : t.completions = s.completions) : t.Searches :=
  ⟨hforEnroll.trans h.forEnroll, by rw [hcompletions]; exact h.results⟩

theorem Searches.completed (h : s.Searches) {result : SingleSignerResult} (hresult : NotEnrolled result)
    (givesUp : Bool) : (s.complete result givesUp).Searches :=
  ⟨h.forEnroll, List.forall_mem_cons.2 ⟨hresult, h.results⟩⟩

theorem Searches.close (h : s.Searches) (idle : Bool) : (s.close idle).Searches := by
  refine h.same ?_ (completions_close idle s).1
  unfold SingleGnubbySigner.close
  split
  · rfl
  · dsimp only
    split
    · rfl
    · rfl

theorem Searches.goToError (h : s.Searches) (code : ℤ) : (s.goToError_ code).Searches := by
  have hstate : Searches { s with state := .COMPLETE } := h.same rfl rfl
  unfold goToError_
  dsimp only
  rw [if_neg (by simp [h.forEnroll])]
  exact (hstate.close true).completed (fun hgnubby => absurd hgnubby (by simp)) false

theorem Searches.askVersion (h : s.Searches) : s.askVersion.Searches := by
  unfold SingleGnubbySigner.askVersion
  split
  · exact h
  · exact h.same rfl rfl

theorem Searches.askSync (h : s.Searches) (awaiting : Awaiting) : (s.askSync awaiting).Searches := by
  unfold SingleGnubbySigner.askSync
  split
  · exact h
  · exact h.same rfl rfl

theorem Searches.signs (ht : Signs s t) (h : s.Searches) : t.Searches := by
  have hloop : ∀ state k cache, (s.inLoop state k cache).Searches := fun _ _ _ => h.same rfl rfl
  cases ht with
  | still state k cache => exact hloop state k cache
  | asked k cache => exact (hloop .SIGNING k cache).same rfl rfl
  | timedOut k cache => exact (hloop .SIGNING k cache).askSync _
  | touch k cache => exact (hloop .SIGNING k cache).same rfl rfl
  | failed code state k cache => exact (hloop state k cache).goToError code
  | notEnrolled code state k cache _ hcode =>
      have hstate : Searches { s.inLoop state k cache with state := .COMPLETE } := h.same rfl rfl
      exact hstate.completed (fun _ => hcode) true

theorem Searches.doSign (h : s.Searches) : s.doSign_.Searches := h.signs (signs_doSign s)

theorem Searches.openCallback (h : s.Searches) (rc : ℤ) (gnubby : ℕ) :
    (s.openCallback_ rc gnubby).Searches := by
  have hgnubby : ∀ state, Searches { s with gnubby := some gnubby, state := state } :=
    fun _ => h.same rfl rfl
  unfold openCallback_
  split
  · exact h
  split
  · exact (hgnubby s.state).askVersion
  split
  · dsimp only
    split
    · exact (hgnubby .BUSY).goToError _
    · exact h.same rfl rfl
  · exact h.goToError rc

theorem Searches.versionCallback (h : s.Searches) (rc : ℤ) (data : Option (List UInt8)) :
    (s.versionCallback_ rc data).Searches := by
  unfold versionCallback_
  split
  · split
    · exact h.goToError _
    · exact h.askSync _
  split
  · exact h.goToError rc
  · have hidle : Searches
        { s with state := .IDLE, version := some (UTIL_BytesToString (data.getD [])) } :=
      h.same rfl rfl
    exact hidle.doSign

theorem Searches.signCallback (h : s.Searches) (k : ℕ) (code : ℤ) (info : Option (List UInt8)) :
    (s.signCallback_ doSign_ k code info).Searches := by
  rcases s.signCallback_cases k code info with hsigns | ⟨hsign, -, -⟩
  · exact h.signs hsigns
  · rw [h.forEnroll] at hsign
    simp at hsign

theorem Searches.called (h : s.Searches) : s.called.Searches := h.same rfl rfl

theorem Searches.replied (h : s.Searches) : s.replied.Searches := by
  unfold SingleGnubbySigner.replied
  split
  · exact h.same rfl rfl
  · exact h.called

/-- **Whatever happens to a signer for enrolling.** -/
theorem Searches.handle (h : s.Searches) (e : Event) (he : ∀ challenges, e ≠ .doSign challenges) :
    (s.handle e).Searches := by
  cases e with
  | doSign challenges => exact absurd rfl (he challenges)
  | opened rc =>
      simp only [SingleGnubbySigner.handle]
      split
      · have hhandOver : s.handOver.Searches := h.same rfl rfl
        exact hhandOver.openCallback rc s.handed
      · exact h
  | openDelayOver =>
      simp only [SingleGnubbySigner.handle]
      split
      · split
        · exact h.same rfl rfl
        · exact h.called
      · exact h
  | versioned rc data =>
      simp only [SingleGnubbySigner.handle]
      split
      · exact h.replied.versionCallback rc data
      · exact h
  | synced code =>
      simp only [SingleGnubbySigner.handle]
      split
      · unfold versionSynced
        split
        · exact h.called.goToError code
        · exact h.called.askVersion
      · unfold synced_
        split
        · exact h.called.goToError code
        · exact h.called.doSign
      · exact h
  | signed code info =>
      simp only [SingleGnubbySigner.handle]
      split
      · exact h.replied.signCallback _ code info
      · exact h
  | signDelayOver =>
      simp only [SingleGnubbySigner.handle]
      split
      · exact h.called.doSign
      · exact h
  | noChallenges =>
      simp only [SingleGnubbySigner.handle]
      split
      · exact h.called.goToError _
      · exact h
  | returned =>
      simp only [SingleGnubbySigner.handle]
      split
      · split
        · exact h.same rfl rfl
        · exact h.called
      · exact h
  | timerExpires => exact h.same rfl rfl
  | close idle =>
      have hclosed : (s.did .closed).Searches := h.same rfl rfl
      exact hclosed.close idle

theorem Searches.callback (h : s.Searches) (e : Event) : (s.callback e).Searches := by
  unfold SingleGnubbySigner.callback
  split
  · rename_i he
    refine h.handle e ?_
    rintro challenges rfl
    exact absurd he (by simp [Event.isCallback])
  · exact h

/-- What holds of the results of a signer for enrolling is kept. -/
theorem kept_searches : MultipleGnubbySigner.Kept Searches where
  callback _ e h := h.callback e
  returned _ h := h.handle .returned (by simp)
  called _ h := h.called

/-- What a signer for enrolling reports. -/
theorem Searches.notEnrolled (h : s.Searches) {result : SingleSignerResult}
    (hreports : s.reports = some result) : NotEnrolled result := by
  unfold reports at hreports
  split at hreports
  · exact h.results result (List.mem_of_head? hreports)
  · simp at hreports

end Searches

end U2F.SingleGnubbySigner
