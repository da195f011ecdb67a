/-
**One answer for a request of a page.**

A request refines a one-shot cell, which is open until the watchdog of the request is closed.  A sign
request sends a response only through the watchdog, which it closes before it sends.  A register
request sends from its enroller too, which is done as soon as the watchdog is closed, and an enroller
that is done calls nothing.

Main definitions:

* `PageRequest.OneAnswer` — at most one response, and none after the page has closed the handler.

Main results:

* `answersOnce` — **one answer for every sign or register request**, in every run.
-/

import U2F.Extension.Enroller
import U2F.Extension.QueuedSignRequest

set_option relaxedAutoImplicit false
set_option autoImplicit false

namespace U2F

/-! ### Requests in general -/

namespace PageRequest

variable {κ ε : Type}

/-- At most one response is sent, and none from the event `close` on. -/
def OneAnswer (M : Machine (Except Response (PageRequest κ)) ε Unit) (close : ε)
    (s : Except Response (PageRequest κ)) : Prop :=
  ∀ es, (responses (M.exec s es)).length ≤ 1 ∧
    ∀ pre post, es = pre ++ close :: post → responses (M.exec s es) = responses (M.exec s pre)

/-- A request without a handler is a cell that is answered. -/
def handledView : OneShot.View (Except Response (PageRequest κ)) Response where
  isOpen
    | .error _ => false
    | .ok s => view.isOpen s
  answers := responses

/-- What holds of a request if it has a handler. -/
def Handled (I : PageRequest κ → Prop) : Except Response (PageRequest κ) → Prop
  | .error _ => True
  | .ok s => I s

theorem Handled.next {I : PageRequest κ → Prop} {handle : PageRequest κ → ε → PageRequest κ}
    (hinv : ∀ s e, I s → I (handle s e)) (s : Except Response (PageRequest κ)) (e : ε)
    (hs : Handled I s) : Handled I ((machine handle).next s e) := by
  cases s with
  | error => trivial
  | ok s => exact hinv s e hs

theorem refines_next {I : PageRequest κ → Prop} {handle : PageRequest κ → ε → PageRequest κ}
    (href : ∀ s e, I s → view.Refines s (handle s e)) (s : Except Response (PageRequest κ)) (e : ε)
    (hs : Handled I s) : handledView.Refines s ((machine handle).next s e) := by
  cases s with
  | error => exact .refl _
  | ok s =>
      intro c hc
      obtain ⟨d, hcd, hd⟩ := href s e hs c ⟨hc.isOpen, hc.answers⟩
      exact ⟨d, hcd, hd.isOpen, hd.answers⟩

/-- The responses of a request whose steps refine a cell. -/
theorem oneAnswer_of_refines {I : PageRequest κ → Prop}
    {handle : PageRequest κ → ε → PageRequest κ} (close : ε)
    (hinv : ∀ s e, I s → I (handle s e)) (href : ∀ s e, I s → view.Refines s (handle s e))
    (hclose : ∀ s, (handle s close).watchdog.closed = true ∧ (handle s close).sent = s.sent)
    {s : Except Response (PageRequest κ)} (hs : Handled I s) {c : OneShot Response}
    (hc : handledView.Shows s c) : OneAnswer (machine handle) close s := by
  intro es
  refine ⟨OneShot.View.length_answers_exec_le_one (V := handledView) (Handled.next hinv)
    (refines_next href) hs hc es, ?_⟩
  rintro pre post rfl
  have hnext : handledView.isOpen ((machine handle).exec s (pre ++ [close])) = false ∧
      responses ((machine handle).exec s (pre ++ [close])) =
        responses ((machine handle).exec s pre) := by
    rw [Machine.exec_concat]
    cases (machine handle).exec s pre with
    | error => exact ⟨rfl, rfl⟩
    | ok t => exact ⟨by simp [machine, Machine.next, handledView, view, Except.map, hclose],
        (hclose t).2⟩
  have hafter := OneShot.View.answers_exec_of_not_isOpen (V := handledView) (Handled.next hinv)
    (refines_next href) hs hc hnext.1 post
  rw [List.append_assoc, List.singleton_append] at hafter
  exact hafter.trans hnext.2

/-- A request that has just been handed in. -/
theorem shows_start {s : Except Response (PageRequest κ)}
    (hs : ∀ t, s = .ok t → t.watchdog.closed = false ∧ t.sent = []) :
    ∃ c, handledView.Shows s c := by
  cases s with
  | error response => exact ⟨.answered response, rfl, rfl⟩
  | ok t =>
      obtain ⟨hclosed, hsent⟩ := hs t rfl
      refine ⟨.waiting, ?_, hsent⟩
      change (!t.watchdog.closed) = true
      simp [hclosed]

end PageRequest

/-! ### Sign requests -/

namespace SignPage

open PageRequest

/-! What only changes the queued request is not shown. -/

theorem same_setSigner (signer : Signer) (s : SignPage) : Same s (s.setSigner signer) := ⟨rfl, rfl⟩

theorem same_setBegun (s : SignPage) : Same s s.setBegun := ⟨rfl, rfl⟩

theorem same_setClosed (s : SignPage) : Same s s.setClosed := ⟨rfl, rfl⟩

theorem same_setTimer (timer : CountdownTimer) (s : SignPage) : Same s (s.setTimer timer) :=
  ⟨rfl, rfl⟩

theorem same_setTokenTimer (timer : CountdownTimer) (s : SignPage) :
    Same s (s.setTokenTimer timer) :=
  ⟨rfl, rfl⟩

theorem same_clearStart (s : SignPage) : Same s s.clearStart := ⟨rfl, rfl⟩

theorem same_tokenComplete (s : SignPage) : Same s s.tokenComplete := ⟨rfl, rfl⟩

variable {errorCb : U2fError → SignPage → SignPage}

theorem closeCalls_id (calls : List SignerCall) (s : SignPage) :
    Same s (closeCalls (fun _ s => s) calls s) := by
  induction calls generalizing s with
  | nil => exact ⟨rfl, rfl⟩
  | cons call rest ih =>
      cases call with
      | error error => exact ih (signerFailed (fun _ s => s) error s)
      | success => exact ih s

/-- Closing a queued request whose watchdog is closed sends nothing. -/
theorem same_closeQueued (hcb : ∀ error s, s.watchdog.closed = true → errorCb error s = s)
    (s : SignPage) (hs : s.watchdog.closed = true) : Same s (closeQueued errorCb s) := by
  rw [closeQueued_of_closed hcb hs]
  unfold closeQueued
  split
  · exact ⟨rfl, rfl⟩
  · dsimp only
    split
    · exact closeCalls_id _ (setSigner _ s)
    · exact ⟨rfl, rfl⟩

variable (request : U2fRequest)

/-- The error callback sends its response once. -/
theorem refines_errorCb (error : U2fError) (s : SignPage) :
    view.Refines s (SignPage.errorCb request error s) :=
  refines_wrapCallback (fun _ hs => refines_sendResponseOnce
    (same_closeQueued fun error _ => wrappedErrorCb_of_closed request 0 error) _ hs) s

theorem same_closeWork (s : SignPage) (hs : s.watchdog.closed = true) :
    Same s (closeWork request s) :=
  same_closeQueued (fun error _ => wrappedErrorCb_of_closed request 1 error) s hs

theorem refines_signerFailed (error : U2fError) (s : SignPage) :
    view.Refines s (signerFailed (SignPage.errorCb request) error s) :=
  (same_tokenComplete s).refines.trans (refines_errorCb request error s.tokenComplete)

theorem refines_closeCalls (calls : List SignerCall) (s : SignPage) :
    view.Refines s (closeCalls (SignPage.errorCb request) calls s) := by
  induction calls generalizing s with
  | nil => exact .refl s
  | cons call rest ih =>
      cases call with
      | error error => exact (refines_signerFailed request error s).trans (ih _)
      | success => exact ih s

theorem refines_closeWork (s : SignPage) : view.Refines s (closeWork request s) := by
  unfold closeWork closeQueued
  split
  · exact .refl s
  · refine .trans ?_ ((same_tokenComplete _).trans (same_setClosed _)).refines
    split
    · exact (same_setSigner _ s).refines.trans (refines_closeCalls request _ _)
    · exact .refl s

theorem refines_sendSuccessResponse (P : Primitives) (challenge : Option SignChallenge)
    (info : JSString) (browserData : Option JSString) {s : SignPage}
    (hs : s.watchdog.closed = false) :
    view.Refines s (sendSuccessResponse request P challenge info browserData s) := by
  cases browserData with
  | none => exact .refl s
  | some browserData => exact refines_sendResponseOnce (same_closeWork request) _ hs

theorem refines_signerCalls (P : Primitives) (call : SignerCall) (s : SignPage) :
    view.Refines s (signerCalls request P call s) := by
  cases call with
  | error error => exact refines_signerFailed request error s
  | success challenge info browserData =>
      refine (same_tokenComplete s).refines.trans (refines_wrapCallback (fun _ hs => ?_) _)
      exact refines_sendSuccessResponse request P challenge info browserData hs

theorem refines_runSigner (P : Primitives) (f : Signer → Signer × List SignerCall) (s : SignPage) :
    view.Refines s (runSigner request P f s) := by
  unfold runSigner
  split
  · exact .refl s
  · refine (same_setSigner _ s).refines.trans (OneShot.View.refines_foldl (fun s call => ?_) _ _)
    exact refines_signerCalls request P call s

theorem refines_begin (P : Primitives) (s : SignPage) :
    view.Refines s (begin request P s) := by
  unfold begin
  split
  · exact (refines_closeWork request s).trans (refines_errorCb request _ _)
  · refine .trans ?_ (same_setTimer _ _).refines
    have hset : ∀ f signer, view.Refines s (runSigner request P f (s.setBegun.setSigner signer)) :=
      fun f signer => ((same_setBegun s).trans (same_setSigner signer _)).refines.trans
        (refines_runSigner request P f _)
    split
    · exact hset _ _
    · exact (hset _ _).trans (refines_signerFailed request _ _)

/-- Every step of a sign request refines the cell. -/
theorem refines_handle (P : Primitives) (s : SignPage) (e : Event) :
    view.Refines s (handle request P s e) := by
  cases e with
  | queueStart =>
      simp only [handle, queueStart]
      split
      · split
        · exact (same_clearStart s).refines
        · exact (same_clearStart s).refines.trans (refines_begin request P _)
      · exact .refl s
  | begin => exact refines_begin request P s
  | watchdogTick =>
      refine refines_watchdogTick (fun s hs => ?_) s
      exact refines_sendResponseOnce (same_closeWork request) _ hs
  | queuedTick =>
      simp only [handle, queuedTick]
      split
      · exact (same_setTimer _ s).refines.trans (refines_closeWork request _)
      · exact (same_setTimer _ s).refines
  | tokenTick =>
      simp only [handle, tokenTick]
      split
      · exact ((same_setTokenTimer _ s).trans (same_tokenComplete _)).refines
      · exact (same_setTokenTimer _ s).refines
  | signer event =>
      simp only [handle]
      split
      · exact refines_runSigner request P _ s
      · exact .refl s
  | close => exact refines_close (same_closeWork request) s

/-- A handler that is returned is that of a new request. -/
theorem handleU2fSignRequest_ok {messageSender : MessageSender} {startNow : Bool} {s : SignPage}
    (h : handleU2fSignRequest messageSender request startNow = .ok s) :
    ∃ sender signChallenges appId,
      s = enqueueSignRequest sender request signChallenges appId startNow := by
  unfold handleU2fSignRequest at h
  split at h
  · cases h
  · split at h
    · cases h
    · unfold validateAndEnqueueSignRequest at h
      split at h
      · cases h
      · dsimp only at h
        split at h
        · cases h
        · cases h
          exact ⟨_, _, _, rfl⟩

theorem oneAnswer_sign (P : Primitives) (messageSender : MessageSender) (startNow : Bool) :
    OneAnswer (SignPage.machine request P) .close
      (handleU2fSignRequest messageSender request startNow) := by
  obtain ⟨c, hc⟩ := shows_start (s := handleU2fSignRequest messageSender request startNow) (by
    intro t ht
    obtain ⟨_, _, _, rfl⟩ := handleU2fSignRequest_ok request ht
    exact ⟨rfl, rfl⟩)
  refine oneAnswer_of_refines (I := fun _ => True) Event.close (fun _ _ _ => trivial)
    (fun s e _ => refines_handle request P s e) (close_spec (same_closeWork request)) ?_ hc
  cases handleU2fSignRequest messageSender request startNow <;> trivial

end SignPage

/-! ### Register requests -/

namespace EnrollPage

open PageRequest

/-- A closed watchdog has closed the enroller, and an open one still watches it. -/
structure Watched (s : EnrollPage) : Prop where
  done : s.watchdog.closed = true → s.work.done = true
  closeable : s.watchdog.closed = false → s.watchdog.closeable = true

theorem same_closeWork (s : EnrollPage) : Same s (closeWork s) := ⟨rfl, rfl⟩

theorem done_close {s : EnrollPage} (hs : s.watchdog.closeable = true ∨ s.work.done = true) :
    (PageRequest.close closeWork s).work.done = true := by
  dsimp only [PageRequest.close]
  split
  · rfl
  · exact hs.resolve_left ‹_›

theorem watched_close {s : EnrollPage} (hs : s.watchdog.closeable = true ∨ s.work.done = true) :
    Watched (PageRequest.close closeWork s) := by
  have hclosed : (PageRequest.close closeWork s).watchdog.closed = true :=
    (close_spec (fun s _ => same_closeWork s) s).1
  exact ⟨fun _ => done_close hs, fun hopen => absurd (hclosed.symm.trans hopen) (by simp)⟩

theorem Watched.canClose {s : EnrollPage} (hs : Watched s) :
    s.watchdog.closeable = true ∨ s.work.done = true := by
  cases h : s.watchdog.closed with
  | false => exact .inl (hs.closeable h)
  | true => exact .inr (hs.done h)

theorem Watched.close {s : EnrollPage} (hs : Watched s) :
    Watched (PageRequest.close closeWork s) :=
  watched_close hs.canClose

theorem watched_sendResponseOnce (response : Response) {s : EnrollPage}
    (hs : s.watchdog.closeable = true ∨ s.work.done = true) :
    Watched (s.sendResponseOnce closeWork response) :=
  ⟨(watched_close hs).done, (watched_close hs).closeable⟩

variable (request : U2fRequest)

/-- Whatever an enroller calls sends one response. -/
theorem enrollerCalls_eq (call : EnrollerCall) (s : EnrollPage) :
    ∃ response, enrollerCalls request call s = s.sendResponseOnce closeWork response := by
  cases call with
  | error error => exact ⟨_, rfl⟩
  | success u2fVersion info browserData =>
      simp only [enrollerCalls, sendSuccessResponse]
      split
      · exact ⟨_, rfl⟩
      · exact ⟨_, rfl⟩

/-- A step of the enroller that calls back at most once, and only if it was not done. -/
theorem step_runEnroller {f : Enroller → Enroller × List EnrollerCall} {s : EnrollPage}
    (hf : (f s.work).2 = [] ∧ (s.work.done = true → (f s.work).1.done = true) ∨
      Calls s.work.done (f s.work).1.done (f s.work).2)
    (hs : Watched s) :
    Watched (runEnroller request f s) ∧ view.Refines s (runEnroller request f s) := by
  unfold runEnroller
  have hquiet : (f s.work).2 = [] ∧ (s.work.done = true → (f s.work).1.done = true) ∨
      s.work.done = false ∧ (f s.work).1.done = true ∧ ∃ call, (f s.work).2 = [call] := by
    rcases hf with hf | ⟨hcalls, hdone⟩ | hf
    · exact .inl hf
    · exact .inl ⟨hcalls, fun h => hdone.trans h⟩
    · exact .inr hf
  rcases hquiet with ⟨hcalls, hdone⟩ | ⟨hbefore, hafter, call, hcall⟩
  · rw [hcalls]
    exact ⟨⟨fun h => hdone (hs.done h), hs.closeable⟩, .of_eq rfl rfl⟩
  · -- the watchdog is open, as a closed one has closed the enroller
    have hopen : s.watchdog.closed = false := by
      cases h : s.watchdog.closed with
      | false => rfl
      | true => exact absurd (hbefore.symm.trans (hs.done h)) (by simp)
    rw [hcall, List.foldl_cons, List.foldl_nil]
    obtain ⟨response, hresponse⟩ :=
      enrollerCalls_eq request call { s with work := (f s.work).1 }
    rw [hresponse]
    refine ⟨watched_sendResponseOnce response (.inr hafter), ?_⟩
    have hwork : Same s { s with work := (f s.work).1 } := ⟨rfl, rfl⟩
    exact hwork.refines.trans
      (refines_sendResponseOnce (fun s _ => same_closeWork s) response hopen)

theorem step_handle (P : Primitives) {s : EnrollPage} (hs : Watched s) (e : Event) :
    Watched (handle request P s e) ∧ view.Refines s (handle request P s e) := by
  cases e with
  | watchdogTick =>
      constructor
      · simp only [handle, watchdogTick]
        split
        · exact watched_sendResponseOnce _ hs.canClose
        · exact ⟨hs.done, hs.closeable⟩
      · refine refines_watchdogTick (fun s hs => ?_) s
        exact refines_sendResponseOnce (fun s _ => same_closeWork s) _ hs
  | enroller event =>
      simp only [handle]
      split
      · exact step_runEnroller request (Enroller.handle_calls P s.work event) hs
      · exact ⟨hs, .refl s⟩
  | close => exact ⟨hs.close, refines_close (fun s _ => same_closeWork s) s⟩

/-- A request that is handled is handed to an enroller. -/
theorem eq_startEnroller {messageSender : MessageSender} {request : U2fRequest} {t : EnrollPage}
    (ht : handleU2fEnrollRequest messageSender request = .ok t) :
    ∃ sender, t = startEnroller sender request := by
  unfold handleU2fEnrollRequest at ht
  split at ht
  · cases ht
  · split at ht
    · cases ht
    · split at ht
      · cases ht
      · cases ht
        exact ⟨_, rfl⟩

theorem watched_startEnroller (sender : WebRequestSender) : Watched (startEnroller sender request) :=
  ⟨fun hclosed => absurd hclosed (by simp [startEnroller, WatchdogRequestHandler.new]),
    fun _ => rfl⟩

theorem oneAnswer_enroll (P : Primitives) (messageSender : MessageSender) :
    OneAnswer (EnrollPage.machine request P) .close
      (handleU2fEnrollRequest messageSender request) := by
  obtain ⟨c, hc⟩ := shows_start (s := handleU2fEnrollRequest messageSender request) (by
    intro t ht
    obtain ⟨_, rfl⟩ := eq_startEnroller ht
    exact ⟨rfl, rfl⟩)
  refine oneAnswer_of_refines (I := Watched) Event.close
    (fun s e hs => (step_handle request P hs e).1) (fun s e hs => (step_handle request P hs e).2)
    (close_spec fun s _ => same_closeWork s) ?_ hc
  cases h : handleU2fEnrollRequest messageSender request with
  | error => trivial
  | ok t =>
      obtain ⟨sender, rfl⟩ := eq_startEnroller h
      exact watched_startEnroller request sender

end EnrollPage

/-- **One answer for every sign or register request.** -/
theorem answersOnce (P : Primitives) (messageSender : MessageSender) (request : U2fRequest) :
    (∀ startNow, PageRequest.OneAnswer (SignPage.machine request P) .close
      (handleU2fSignRequest messageSender request startNow)) ∧
    PageRequest.OneAnswer (EnrollPage.machine request P) .close
      (handleU2fEnrollRequest messageSender request) :=
  ⟨fun startNow => SignPage.oneAnswer_sign request P messageSender startNow,
    EnrollPage.oneAnswer_enroll request P messageSender⟩

end U2F
