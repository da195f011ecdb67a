/-
**A touch before a key is known not to be enrolled.**

A sign handler sends a bogus enroll command to a gnubby that knows none of the key handles, so that it
is touched before the page learns this.  It does so for wrong data only, and not for the two other codes
for an invalid key handle; these it reports as they come, from a signer or from a version command, and
one of them also for a version that it does not know.

Main definitions:

* `UsbSignHandler.TouchedFirst` — what is expected;
* `UsbSignHandler.HidesErrors` — steps at which no other way is taken to report an invalid key handle.

Main results:

* `UsbSignHandler.touchedFirst_of_hidesErrors` — **in a run of such steps, an invalid key handle is
  reported only after a touch**.
-/

import U2F.Extension.UsbSignHandler

set_option relaxedAutoImplicit false
set_option autoImplicit false

namespace U2F.UsbSignHandler

open MultipleGnubbySigner (Call Reaction Owner signResult)

/-! ### What is expected -/

/-- An invalid key handle is reported only after a gnubby has answered the bogus enroll command with
OK.  The last deed comes first. -/
def TouchedFirst : List Deed → Prop
  | [] => True
  | deed :: earlier =>
      (∀ reply, deed = .replied reply → signErrorIndicatesInvalidKeyHandle reply.code = true →
        ∃ gnubby, .touched gnubby ∈ earlier) ∧ TouchedFirst earlier

/-- An answer that is no error for an invalid key handle, and no unknown version. -/
def Answer.Hidden : Answer → Prop
  | .version _ rc data =>
      signErrorIndicatesInvalidKeyHandle rc = false ∧
        (rc = OK_STATUS → UTIL_BytesToString (data.getD []) = js "U2F_V1" ∨
          UTIL_BytesToString (data.getD []) = js "U2F_V2")
  | .enroll _ _ => True

/-- The steps at which a handler that has not answered gets no error for an invalid key handle that it
would report. -/
def HidesErrors (s : MultipleGnubbySigner × UsbSignHandler) : Event → Prop
  | .signer e _ as =>
      s.2.notified = false →
        -- the result of the last gnubby is no such error, but for wrong data
        (∀ result, s.1.told e = some (result, false) →
          signErrorIndicatesInvalidKeyHandle result.code = true → result.code = WRONG_DATA_STATUS) ∧
        -- the last error that was recorded is no such error when all is complete
        (e = .allComplete → s.1.deferred ≠ [] → ∀ code, s.2.signerError = some code →
          signErrorIndicatesInvalidKeyHandle code = false) ∧
        ∀ a ∈ as, a.Hidden
  | .answers _ as => s.2.notified = false → ∀ a ∈ as, a.Hidden
  | .close _ => True

/-! ### What a reaction keeps -/

section Keeps

variable {s : UsbSignHandler} {idle : List GnubbyDeviceId}

theorem close_deeds (idle : List GnubbyDeviceId) (s : UsbSignHandler) :
    (s.close idle).owner.deeds = s.deeds ∧ (s.close idle).owner.notified = s.notified := by
  unfold close
  dsimp only
  split
  · exact ⟨rfl, rfl⟩
  · split
    · exact ⟨rfl, rfl⟩
    · exact ⟨rfl, rfl⟩

theorem touchedFirst_reply (h : TouchedFirst s.deeds) (reply : SignHandlerReply)
    (hreply : signErrorIndicatesInvalidKeyHandle reply.code = true →
      ∃ gnubby, .touched gnubby ∈ s.deeds) :
    TouchedFirst (s.reply reply).owner.deeds := by
  refine ⟨?_, h⟩
  intro reply' heq
  obtain rfl : reply = reply' := by simpa using heq
  exact hreply

theorem touchedFirst_notifyError (h : TouchedFirst s.deeds) (code : ℤ)
    (hcode : s.notified = false → signErrorIndicatesInvalidKeyHandle code = true →
      ∃ gnubby, .touched gnubby ∈ s.deeds) :
    TouchedFirst (s.notifyError_ idle code).owner.deeds := by
  unfold notifyError_
  split
  · exact h
  · rename_i hnotified
    have hdeeds := (close_deeds idle { s with notified := true }).1
    refine Reaction.andThen_keeps (P := fun s : UsbSignHandler => TouchedFirst s.deeds) ?_ fun hclose => ?_
    · rw [hdeeds]
      exact h
    · refine touchedFirst_reply hclose _ fun hinvalid => ?_
      rw [hdeeds]
      exact hcode (by simpa using hnotified) hinvalid

theorem touchedFirst_notifySuccess (h : TouchedFirst s.deeds) (gnubby : Option OpenGnubby)
    (challenge : Option DecodedChallenge) (info : List UInt8) :
    TouchedFirst (s.notifySuccess_ idle gnubby challenge info).owner.deeds := by
  unfold notifySuccess_
  split
  · exact h
  · dsimp only
    split
    · exact h
    · refine Reaction.andThen_keeps (P := fun s : UsbSignHandler => TouchedFirst s.deeds) ?_
        fun hclose => ?_
      · rw [(close_deeds idle { s with notified := true }).1]
        exact h
      · split
        · exact hclose
        · rename_i challenge
          have hok : signErrorIndicatesInvalidKeyHandle (successReply challenge info).code = false := rfl
          refine touchedFirst_reply hclose _ fun hinvalid => ?_
          rw [hok] at hinvalid
          simp at hinvalid

theorem touchedFirst_versionCallback (h : TouchedFirst s.deeds) (gnubby : OpenGnubby) (rc : ℤ)
    (data : Option (List UInt8))
    (hhidden : s.notified = false → signErrorIndicatesInvalidKeyHandle rc = false ∧
      (rc = OK_STATUS → UTIL_BytesToString (data.getD []) = js "U2F_V1" ∨
        UTIL_BytesToString (data.getD []) = js "U2F_V2")) :
    TouchedFirst (s.versionCallback_ idle gnubby rc data).owner.deeds := by
  unfold versionCallback_
  split
  · refine touchedFirst_notifyError h rc fun hnotified hinvalid => ?_
    rw [(hhidden hnotified).1] at hinvalid
    simp at hinvalid
  · rename_i hrc
    dsimp only
    split
    · exact h
    · rename_i hv1
      split
      · exact h
      · rename_i hv2
        refine Reaction.andThen_keeps (P := fun s : UsbSignHandler => TouchedFirst s.deeds) ?_ id
        refine touchedFirst_notifyError h _ fun hnotified _ => ?_
        rcases (hhidden hnotified).2 (not_not.1 hrc) with hv | hv
        · exact absurd hv hv1
        · exact absurd hv hv2

theorem touchedFirst_enrollCallback (h : TouchedFirst s.deeds) (gnubby : OpenGnubby) (code : ℤ)
    (htouched : code = OK_STATUS → .touched gnubby ∈ s.deeds) :
    TouchedFirst (s.enrollCallback_ idle gnubby code).owner.deeds := by
  unfold enrollCallback_
  split
  · exact h
  · split
    · exact h
    · split
      · rename_i hok
        exact touchedFirst_notifyError h _ fun _ _ => ⟨gnubby, htouched hok⟩
      · exact h

theorem touchedFirst_answered (h : TouchedFirst s.deeds) (a : Answer)
    (ha : s.notified = false → a.Hidden) : TouchedFirst (s.answered idle a).owner.deeds := by
  cases a with
  | version i rc data =>
      simp only [answered]
      split
      · exact h
      · exact touchedFirst_versionCallback (s := { s with versions := s.versions.eraseIdx i })
          h _ rc data ha
  | enroll i code =>
      simp only [answered]
      split
      · exact h
      · rename_i command _
        split
        · have htouched : TouchedFirst (.touched command.gnubby :: s.deeds) :=
            ⟨fun reply heq => by simp at heq, h⟩
          exact touchedFirst_enrollCallback
            (s := { s with enrolls := s.enrolls.eraseIdx i }.did (.touched command.gnubby))
            htouched _ code fun _ => List.mem_cons_self
        · rename_i hcode
          exact touchedFirst_enrollCallback (s := { s with enrolls := s.enrolls.eraseIdx i })
            h _ code fun hok => absurd hok hcode

theorem touchedFirst_answers (h : TouchedFirst s.deeds) (as : List Answer)
    (has : s.notified = false → ∀ a ∈ as, a.Hidden) :
    TouchedFirst (answers idle as s).owner.deeds := by
  induction as generalizing s with
  | nil => exact h
  | cons a as ih =>
      -- a handler that has not answered after the first answer had not answered before it
      refine (Reaction.andThen_keeps (P := fun s' : UsbSignHandler => TouchedFirst s'.deeds ∧
        (s'.notified = false → s.notified = false)) ?_ fun hfirst => ?_).1
      · refine ⟨touchedFirst_answered h a fun hnotified => has hnotified a List.mem_cons_self, ?_⟩
        exact notified_of_silent (silent_answered a)
      · refine ⟨ih hfirst.1 fun hnotified a' ha' =>
          has (hfirst.2 hnotified) a' (List.mem_cons_of_mem a ha'), fun hnotified => hfirst.2 ?_⟩
        exact notified_of_silent (silent_answers as) hnotified

theorem touchedFirst_signerCompleted (h : TouchedFirst s.deeds) (anyPending : Bool)
    (hsigner : s.notified = false → ∀ code, s.signerError = some code →
      signErrorIndicatesInvalidKeyHandle code = false) :
    TouchedFirst (s.signerCompleted_ idle anyPending).owner.deeds := by
  unfold signerCompleted_
  split
  · exact touchedFirst_notifyError h _ fun _ hinvalid => absurd hinvalid (by decide)
  · split
    · rename_i code hcode
      refine touchedFirst_notifyError h code fun hnotified hinvalid => ?_
      rw [hsigner hnotified code hcode] at hinvalid
      simp at hinvalid
    · exact h

theorem touchedFirst_signerFoundGnubby (h : TouchedFirst s.deeds)
    (signResult : MultipleSignerResult) (moreExpected : Bool)
    (hresult : s.notified = false → moreExpected = false →
      signErrorIndicatesInvalidKeyHandle signResult.code = true →
        signResult.code = WRONG_DATA_STATUS) :
    TouchedFirst (s.signerFoundGnubby_ idle signResult moreExpected).owner.deeds := by
  unfold signerFoundGnubby_
  dsimp only
  split
  · exact touchedFirst_notifySuccess (s := { s with anyGnubbiesFound := true }) h _ _ _
  · split
    · unfold sendBogusEnroll_
      split
      · exact h
      · exact h
    · rename_i hcode
      split
      · rename_i hmore
        refine touchedFirst_notifyError (s := { s with anyGnubbiesFound := true }) h _ ?_
        intro hnotified hinvalid
        exact absurd (hresult hnotified (by simpa using hmore) hinvalid) hcode
      · exact h

end Keeps

/-! ### Runs -/

section Runs

variable {m : MultipleGnubbySigner} {s : UsbSignHandler} {request : HelperRequest}

/-- **A step that hides errors** reports an invalid key handle only after a touch. -/
theorem touchedFirst_handle (hinv : m.Inv) (h : TouchedFirst s.deeds) (e : Event)
    (hhides : HidesErrors (m, s) e) : TouchedFirst (handle (m, s) e).2.deeds := by
  rw [handle_handler hinv e]
  cases e with
  | signer e idle as =>
      dsimp only
      cases htold : m.told e with
      | some told =>
          obtain ⟨result, moreExpected⟩ := told
          have hfound : TouchedFirst (s.signerFoundGnubby_ idle result moreExpected).owner.deeds := by
            refine touchedFirst_signerFoundGnubby h result moreExpected fun hnotified hlast => ?_
            rw [hlast] at htold
            exact (hhides hnotified).1 result htold
          refine Reaction.andThen_keeps (P := fun s' : UsbSignHandler => TouchedFirst s'.deeds) hfound
            fun _ => ?_
          refine touchedFirst_answers hfound as fun hnotified => ?_
          exact (hhides (notified_of_silent (silent_signerFoundGnubby _ _) hnotified)).2.2
      | none =>
          dsimp only
          split
          · rename_i anyPending deferred hdeferred
            refine touchedFirst_signerCompleted h anyPending fun hnotified => ?_
            exact (hhides hnotified).2.1 rfl (by simp [hdeferred])
          · exact h
  | answers idle as => exact touchedFirst_answers h as hhides
  | close idle =>
      dsimp only
      rw [(close_deeds idle s).1]
      exact h

/-- A handler whose request was run has no deeds. -/
theorem deeds_run (request : HelperRequest) :
    (run request start).2.1.Inv ∧ (run request start).2.2.deeds = [] := by
  unfold run
  simp only [start, new, Bool.false_eq_true, if_false]
  split
  · exact ⟨MultipleGnubbySigner.inv_new false, rfl⟩
  · exact ⟨MultipleGnubbySigner.inv_doSign _ (MultipleGnubbySigner.inv_new false), rfl⟩

/-- **In a run whose steps hide errors, an invalid key handle is reported only after a touch.** -/
theorem touchedFirst_of_hidesErrors (request : HelperRequest) (es : List Event)
    (h : machine.AllSteps HidesErrors (run request start).2 es) :
    machine.Always (fun s => TouchedFirst s.2.deeds) (run request start).2 es := by
  refine Machine.always_of_invariant (M := machine) (I := fun s => s.1.Inv ∧ TouchedFirst s.2.deeds)
    ?_ (fun _ hs => hs.2) h ?_
  · rintro ⟨m, s⟩ e ⟨hinv, hs⟩ hhides
    exact ⟨inv_handle hinv e, touchedFirst_handle hinv hs e hhides⟩
  · obtain ⟨hinv, hdeeds⟩ := deeds_run request
    refine ⟨hinv, ?_⟩
    rw [hdeeds]
    trivial

end Runs

/-! ### Runs with one gnubby -/

/-- A gnubby that does not know the key handle is touched. -/
def touched : List Event :=
  signedWith WRONG_DATA_STATUS ++
    [.answers [] [.version 0 OK_STATUS (some [85, 50, 70, 95, 86, 50])],
      .answers [] [.enroll 0 WAIT_TOUCH_STATUS],
      .answers [] [.version 0 OK_STATUS (some [85, 50, 70, 95, 86, 50])],
      .answers [] [.enroll 0 OK_STATUS]]

theorem touchedFirst_touched :
    machine.AllSteps HidesErrors (run exampleRequest start).2 touched ∧
      machine.Always (fun s => TouchedFirst s.2.deeds) (run exampleRequest start).2 touched := by
  have hhides : machine.AllSteps HidesErrors (run exampleRequest start).2 touched := by
    -- what happens before the gnubby has signed tells the handler nothing
    have hnone : ∀ (s : MultipleGnubbySigner × UsbSignHandler) (e : MultipleGnubbySigner.Event),
        s.1.told e = none → e ≠ .allComplete → HidesErrors s (.signer e [] []) := by
      intro s e htold hne _
      refine ⟨fun result heq => ?_, fun heq => absurd heq hne, fun a ha => ?_⟩
      · rw [htold] at heq
        simp at heq
      · exact absurd ha List.not_mem_nil
    refine ⟨hnone _ _ rfl (by decide), hnone _ _ rfl (by decide), hnone _ _ rfl (by decide), ?_⟩
    refine ⟨fun _ => ⟨fun result heq _ => ?_, by simp, by simp⟩, ?_⟩
    · have hresult : signResult exampleId ⟨WRONG_DATA_STATUS, some 0, none, none⟩ = result :=
        (Prod.mk.inj (Option.some.inj heq)).1
      rw [← hresult]
      rfl
    · have hhidden : ∀ a ∈ [Answer.version 0 OK_STATUS (some [85, 50, 70, 95, 86, 50])], a.Hidden := by
        intro a ha
        obtain rfl := List.mem_singleton.1 ha
        exact ⟨rfl, fun _ => .inr (by decide)⟩
      refine ⟨fun _ => hhidden, fun _ => by simp [Answer.Hidden], fun _ => hhidden, ?_, trivial⟩
      exact fun _ => by simp [Answer.Hidden]
  exact ⟨hhides, touchedFirst_of_hidesErrors exampleRequest touched hhides⟩

/-- A key handle of the wrong length is reported at once, and without a touch. -/
theorem not_touchedFirst_wrongLength :
    ¬ machine.Always (fun s => TouchedFirst s.2.deeds) (run exampleRequest start).2
      (signedWith WRONG_LENGTH_STATUS) := by
  intro h
  have hfirst : TouchedFirst [.replied ⟨WRONG_LENGTH_STATUS, none⟩] := h _ (List.prefix_refl _)
  obtain ⟨gnubby, htouched⟩ := hfirst.1 _ rfl (by decide)
  exact List.not_mem_nil htouched

end U2F.UsbSignHandler
