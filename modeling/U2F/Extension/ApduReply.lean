/-
**The status of a reply.**

A reply to an APDU ends in a status word of two bytes.  `apduReply` strips the word `9000` and makes
any other word the status, which it gives its callback as a number; and every caller takes a status
for a success that is no true value.  The word is read at the end of an array that may be too short
for it.

Main definitions:

* `Gnubby.apduReply` — what the callback is given for a reply;
* `Gnubby.versioned`, `Gnubby.versionedAgain` — what `Gnubby.version` makes of it;
* `UsbEnrollHandler.enrolledWith` — what the handler makes of the status of an enroll command;
* `Gnubby.TakesOnly9000` — none of them takes any other reply for a success.

Main results:

* `Gnubby.apduReply_falsy_iff` — **the replies whose status is no true value**;
* `Gnubby.takesOnly9000_iff` — **only a reply that ends in 9000 is taken for a success, exactly if
  the reply has a status word and this is not 0000**.
-/

import U2F.Extension.Enroller
import U2F.Extension.GnubbyU2f
import U2F.Extension.UsbEnrollHandler

set_option relaxedAutoImplicit false
set_option autoImplicit false

namespace U2F

/-- A status that is no true value: zero, or not a number. -/
def Falsy (status : Option ℤ) : Prop := status.getD 0 = 0

instance (status : Option ℤ) : Decidable (Falsy status) :=
  inferInstanceAs (Decidable (status.getD 0 = 0))

namespace Gnubby

/-! ### Reading the status word -/

/-- What the callback of `apduReply` is given, and whether the gnubby winks before. -/
structure ApduAnswer where
  /-- The status; none is not a number. -/
  rc : Option ℤ
  data : Option (List UInt8)
  wink : Bool
  deriving DecidableEq

/-- `r8[i]`, which is undefined before the start and after the end. -/
def byteAt (r8 : List UInt8) (i : ℤ) : Option UInt8 := if 0 ≤ i then r8[i.toNat]? else none

/-- `r8[r8.length - 2] * 256 + r8[r8.length - 1]` -/
def statusWord (r8 : List UInt8) : Option ℤ := do
  let high ← byteAt r8 (r8.length - 2)
  let low ← byteAt r8 (r8.length - 1)
  return high.toNat * 256 + low.toNat

/-- APDU command with reply: what is made of the result of the exchange. -/
def apduReply (nowink : Bool) (rc : Option ℤ) (r8 : List UInt8) : ApduAnswer :=
  if rc = some 0 then
    if byteAt r8 (r8.length - 2) = some 0x90 ∧ byteAt r8 (r8.length - 1) = some 0x00 then
      ⟨some 0, some (r8.take (r8.length - 2)), false⟩
    else
      let rc := statusWord r8
      ⟨rc, none, rc = some WAIT_TOUCH_STATUS && !nowink⟩
  else ⟨rc, none, false⟩

/-! ### The callers -/

/-- What the callback of `version` is given, and the version that is kept. -/
structure VersionAnswer where
  rc : Option ℤ
  data : Option (List UInt8)
  version_ : Option (List UInt8)

def gotResponse (answer : ApduAnswer) : VersionAnswer :=
  ⟨answer.rc, answer.data, if Falsy answer.rc then answer.data else none⟩

/-- The bytes of `U2F_V1`. -/
def v1 : List UInt8 := (UTIL_StringToBytes U2F_V1).map UInt8.ofNat

/-- The first answer to a version command.  A gnubby that does not know the command has version 1; one
that finds the length wrong is asked again. -/
def versioned (answer : ApduAnswer) : Option VersionAnswer :=
  if answer.rc = some 0x6d00 then some ⟨some 0, some v1, some v1⟩
  else if answer.rc = some WRONG_LENGTH_STATUS then none
  else some (gotResponse answer)

/-- The answer to the second version command. -/
def versionedAgain (answer : ApduAnswer) : VersionAnswer := gotResponse answer

end Gnubby

namespace UsbEnrollHandler

/-- The reply of a handler, as the enroller is given it. -/
def toHelper (reply : EnrollHandlerReply) : EnrollHelperReply :=
  ⟨some reply.code, reply.version, reply.enrollData⟩

/-- The replies that are new in the record of a handler. -/
def NewReply (s t : UsbEnrollHandler) (reply : EnrollHandlerReply) : Prop :=
  .replied reply ∈ t.deeds ∧ .replied reply ∉ s.deeds

/-- The enroll callback of a handler is called with a status, and the enroller is given the reply.  A
status that is not a number is no case of the switch, and is reported as the code of an error. -/
def enrolledWith (idle : List GnubbyDeviceId) (attempt : EnrollAttempt) (answer : Gnubby.ApduAnswer)
    (s : UsbEnrollHandler) (reply : EnrollHelperReply) : Prop :=
  match answer.rc with
  | some code =>
      ∃ handlerReply, NewReply s (s.enrollCallback_ idle attempt code answer.data).owner handlerReply ∧
        reply = toHelper handlerReply
  | none =>
      s.notified = false ∧ ∃ handlerReply, NewReply s (s.notifyError_ idle 0).owner handlerReply ∧
        reply = { toHelper handlerReply with code := none }

end UsbEnrollHandler

/-- The call tells of a success. -/
def EnrollerCall.IsSuccess : EnrollerCall → Prop
  | .success .. => True
  | .error _ => False

namespace Gnubby

/-- The reply ends in the two bytes. -/
def EndsIn (r8 : List UInt8) (high low : UInt8) : Prop := [high, low] <:+ r8

instance (r8 : List UInt8) (high low : UInt8) : Decidable (EndsIn r8 high low) :=
  inferInstanceAs (Decidable ([high, low] <:+ r8))

/-- **Of the replies that the exchange delivers, this one is taken for a success only if it ends in
9000**, by `apduReply`, by `version` and by the enroller.  That a gnubby without the version command
has version 1 is not a success of the command. -/
structure TakesOnly9000 (nowink : Bool) (r8 : List UInt8) : Prop where
  apduReply : Falsy (apduReply nowink (some 0) r8).rc ↔ EndsIn r8 0x90 0x00
  data : EndsIn r8 0x90 0x00 →
    (Gnubby.apduReply nowink (some 0) r8).rc = some 0 ∧
      (Gnubby.apduReply nowink (some 0) r8).data = some (r8.take (r8.length - 2))
  version : ∀ answer, versioned (Gnubby.apduReply nowink (some 0) r8) = some answer →
    Falsy answer.rc → EndsIn r8 0x90 0x00 ∨ EndsIn r8 0x6d 0x00 ∧ answer.data = some v1
  versionAgain : Falsy (versionedAgain (Gnubby.apduReply nowink (some 0) r8)).rc → EndsIn r8 0x90 0x00
  enroll : ∀ (idle : List GnubbyDeviceId) (attempt : EnrollAttempt) (s : UsbEnrollHandler)
    (enroller : Enroller) (reply : EnrollHelperReply),
    s.enrolledWith idle attempt (Gnubby.apduReply nowink (some 0) r8) reply →
    (∃ call ∈ (enroller.helperComplete reply).2, call.IsSuccess) → EndsIn r8 0x90 0x00

/-! ### The replies whose status is no true value -/

theorem byteAt_append_right (front : List UInt8) (high low : UInt8) :
    byteAt (front ++ [high, low]) ((front ++ [high, low]).length - 2) = some high ∧
      byteAt (front ++ [high, low]) ((front ++ [high, low]).length - 1) = some low := by
  have hlength : ((front ++ [high, low]).length : ℤ) = front.length + 2 := by
    simp
  have hhigh : ((front.length : ℤ) + 2 - 2).toNat = front.length := by omega
  have hlow : ((front.length : ℤ) + 2 - 1).toNat = front.length + 1 := by omega
  unfold byteAt
  rw [hlength, if_pos (by omega), if_pos (by omega), hhigh, hlow]
  simp

/-- A reply has a status word, or is too short. -/
theorem exists_statusWord (r8 : List UInt8) :
    r8.length < 2 ∨ ∃ front high low, r8 = front ++ [high, low] := by
  rcases List.eq_nil_or_concat r8 with rfl | ⟨r8, low, rfl⟩
  · exact .inl (by decide)
  rcases List.eq_nil_or_concat r8 with rfl | ⟨front, high, rfl⟩
  · exact .inl (by simp)
  · exact .inr ⟨front, high, low, by simp⟩

theorem endsIn_append (front : List UInt8) (high low a b : UInt8) :
    EndsIn (front ++ [high, low]) a b ↔ high = a ∧ low = b := by
  constructor
  · rintro ⟨front', h⟩
    obtain ⟨-, h⟩ := List.append_inj' h rfl
    simp_all
  · rintro ⟨rfl, rfl⟩
    exact List.suffix_append _ _

theorem not_endsIn_of_short {r8 : List UInt8} (h : r8.length < 2) (a b : UInt8) : ¬ EndsIn r8 a b := by
  rintro ⟨front, rfl⟩
  simp at h

theorem statusWord_of_short {r8 : List UInt8} (h : r8.length < 2) : statusWord r8 = none := by
  have hhigh : byteAt r8 (r8.length - 2) = none := if_neg (by omega)
  rw [statusWord, hhigh]
  rfl

theorem statusWord_append (front : List UInt8) (high low : UInt8) :
    statusWord (front ++ [high, low]) = some (high.toNat * 256 + low.toNat : ℤ) := by
  obtain ⟨hhigh, hlow⟩ := byteAt_append_right front high low
  rw [statusWord, hhigh, hlow]
  rfl

/-- What the callback is given for a reply that ends in 9000. -/
theorem apduReply_of_endsIn {r8 : List UInt8} (h : EndsIn r8 0x90 0x00) (nowink : Bool) :
    apduReply nowink (some 0) r8 = ⟨some 0, some (r8.take (r8.length - 2)), false⟩ := by
  obtain ⟨front, rfl⟩ := h
  obtain ⟨hhigh, hlow⟩ := byteAt_append_right front 0x90 0x00
  unfold apduReply
  rw [if_pos rfl, if_pos ⟨hhigh, hlow⟩]

/-- And for any other reply. -/
theorem apduReply_of_not_endsIn {r8 : List UInt8} (h : ¬ EndsIn r8 0x90 0x00) (nowink : Bool) :
    (apduReply nowink (some 0) r8).rc = statusWord r8 := by
  unfold apduReply
  rw [if_pos rfl, if_neg]
  rintro ⟨hhigh, hlow⟩
  rcases exists_statusWord r8 with hshort | ⟨front, high, low, rfl⟩
  · rw [byteAt, if_neg (by omega)] at hhigh
    cases hhigh
  · obtain ⟨hhigh', hlow'⟩ := byteAt_append_right front high low
    rw [hhigh', Option.some_inj] at hhigh
    rw [hlow', Option.some_inj] at hlow
    exact h ((endsIn_append _ _ _ _ _).2 ⟨hhigh, hlow⟩)

theorem falsy_statusWord_iff (r8 : List UInt8) :
    Falsy (statusWord r8) ↔ r8.length < 2 ∨ EndsIn r8 0x00 0x00 := by
  rcases exists_statusWord r8 with hshort | ⟨front, high, low, rfl⟩
  · rw [statusWord_of_short hshort]
    simp [Falsy, hshort]
  · have hlength : ¬ (front ++ [high, low]).length < 2 := by simp
    rw [statusWord_append, endsIn_append, Falsy, Option.getD_some, ← UInt8.toNat_inj,
      ← UInt8.toNat_inj]
    simp only [hlength, false_or, UInt8.toNat_zero]
    omega

/-- **The replies whose status is no true value.** -/
theorem apduReply_falsy_iff (nowink : Bool) (r8 : List UInt8) :
    Falsy (apduReply nowink (some 0) r8).rc ↔
      EndsIn r8 0x90 0x00 ∨ r8.length < 2 ∨ EndsIn r8 0x00 0x00 := by
  by_cases h : EndsIn r8 0x90 0x00
  · rw [apduReply_of_endsIn h]
    exact iff_of_true rfl (.inl h)
  · rw [apduReply_of_not_endsIn h, falsy_statusWord_iff]
    exact (or_iff_right h).symm

/-! ### What the handler and the enroller make of it -/

end Gnubby

namespace UsbEnrollHandler

/-- Only replies with a property are new in the record. -/
def RepliesOnly (p : EnrollHandlerReply → Prop) (s t : UsbEnrollHandler) : Prop :=
  ∀ reply, .replied reply ∈ t.deeds → .replied reply ∈ s.deeds ∨ p reply

variable {p : EnrollHandlerReply → Prop}

theorem RepliesOnly.refl (s : UsbEnrollHandler) : RepliesOnly p s s := fun _ => .inl

theorem RepliesOnly.trans {s t u : UsbEnrollHandler} (h : RepliesOnly p s t)
    (h' : RepliesOnly p t u) : RepliesOnly p s u := by
  intro reply hreply
  rcases h' reply hreply with hreply | hp
  · exact h reply hreply
  · exact .inr hp

/-- A deed that is no reply. -/
theorem repliesOnly_did {deed : Deed} (h : ∀ reply, deed ≠ .replied reply) (s : UsbEnrollHandler) :
    RepliesOnly p s (s.did deed) := by
  intro reply hreply
  rcases List.mem_cons.1 hreply with heq | hreply
  · exact absurd heq.symm (h reply)
  · exact .inl hreply

theorem repliesOnly_closeGnubbies (gnubbies : List (Option OpenGnubby)) (s : UsbEnrollHandler) :
    RepliesOnly p s (closeGnubbies gnubbies s).owner := by
  induction gnubbies generalizing s with
  | nil => exact .refl s
  | cons gnubby gnubbies ih =>
      cases gnubby with
      | none => exact .refl s
      | some gnubby => exact (repliesOnly_did (by simp) s).trans (ih _)

theorem repliesOnly_close (idle : List GnubbyDeviceId) (s : UsbEnrollHandler) :
    RepliesOnly p s (s.close idle).owner := by
  have hclosed : RepliesOnly p s ({ s with closed := true }.did .closed) :=
    repliesOnly_did (by simp) _
  have hgnubbies := hclosed.trans (repliesOnly_closeGnubbies s.waitingForTouchGnubbies _)
  unfold UsbEnrollHandler.close
  generalize closeGnubbies s.waitingForTouchGnubbies _ = reaction at hgnubbies
  unfold MultipleGnubbySigner.Reaction.andThen
  split
  · exact hgnubbies
  · dsimp only
    split <;> exact hgnubbies

/-- The callback is given no other reply. -/
theorem repliesOnly_notify (idle : List GnubbyDeviceId) {reply : EnrollHandlerReply} (hp : p reply)
    (s : UsbEnrollHandler) : RepliesOnly p s (s.notify idle reply).owner := by
  have hclose : RepliesOnly p s ({ s with notified := true }.close idle).owner :=
    repliesOnly_close (p := p) idle { s with notified := true }
  unfold UsbEnrollHandler.notify
  split
  · exact .refl s
  · generalize UsbEnrollHandler.close idle _ = reaction at hclose
    unfold MultipleGnubbySigner.Reaction.andThen
    split
    · exact hclose
    · refine hclose.trans fun reply' hreply => ?_
      rcases List.mem_cons.1 hreply with heq | hreply
      · rw [Deed.replied.injEq] at heq
        exact .inr (heq ▸ hp)
      · exact .inl hreply

/-- **A status other than zero is replied as an error.** -/
theorem repliesOnly_enrollCallback (idle : List GnubbyDeviceId) (attempt : EnrollAttempt) {code : ℤ}
    (hcode : code ≠ 0) (info : Option (List UInt8)) (s : UsbEnrollHandler) :
    RepliesOnly (fun reply => reply.code ≠ 0) s (s.enrollCallback_ idle attempt code info).owner := by
  have hremove : ∀ anyTimeout anyGnubbiesFound, RepliesOnly (fun reply => reply.code ≠ 0) s
      { { s with anyTimeout := anyTimeout }.removeWaitingGnubby_ attempt.gnubby with
        anyGnubbiesFound := anyGnubbiesFound } :=
    fun anyTimeout _ => repliesOnly_did (by simp) s
  have htimeout : ∀ s : UsbEnrollHandler, RepliesOnly (fun reply => reply.code ≠ 0) s
      (s.notifyError_ idle TIMEOUT_STATUS).owner := repliesOnly_notify idle (by decide)
  unfold enrollCallback_
  split
  · exact .refl s
  split
  · -- the gnubby is gone
    dsimp only
    split
    · unfold lastDropped
      dsimp only
      split
      · exact (hremove s.anyTimeout false).trans (htimeout _)
      · split
        · exact hremove s.anyTimeout false
        · exact hremove s.anyTimeout false
    · exact hremove s.anyTimeout s.anyGnubbiesFound
  split
  · -- the gnubby waits for a touch
    split
    · dsimp only
      split
      · exact (hremove true s.anyGnubbiesFound).trans (htimeout _)
      · exact hremove true s.anyGnubbiesFound
    · exact .refl s
  split
  · rename_i hok
    exact absurd hok hcode
  · exact repliesOnly_notify idle hcode s

end UsbEnrollHandler

namespace Gnubby

/-- The enroller takes no reply with a code for a success. -/
theorem not_isSuccess_of_failed {enroller : Enroller} {reply : EnrollHelperReply}
    (hfailed : reply.failed = true) {call : EnrollerCall}
    (hcall : call ∈ (enroller.helperComplete reply).2) : ¬ call.IsSuccess := by
  unfold Enroller.helperComplete Enroller.notify at hcall
  rw [if_pos hfailed] at hcall
  split at hcall
  · cases hcall
  · rw [List.mem_singleton.1 hcall]
    exact id

/-- **Only a reply that ends in 9000 is taken for a success, exactly if the reply has a status word
and this is not 0000.** -/
theorem takesOnly9000_iff (nowink : Bool) (r8 : List UInt8) :
    TakesOnly9000 nowink r8 ↔ 2 ≤ r8.length ∧ ¬ EndsIn r8 0x00 0x00 := by
  constructor
  · intro h
    by_contra hbad
    have hfalsy : r8.length < 2 ∨ EndsIn r8 0x00 0x00 := by
      by_cases hshort : r8.length < 2
      · exact .inl hshort
      · exact .inr (by_contra fun hnot => hbad ⟨by omega, hnot⟩)
    have hends := h.apduReply.1 ((apduReply_falsy_iff nowink r8).2 (.inr hfalsy))
    -- the reply cannot end in both words, nor be too short
    rcases hfalsy with hshort | hzero
    · exact not_endsIn_of_short hshort _ _ hends
    · obtain ⟨front, rfl⟩ := hends
      have hsame := (endsIn_append _ _ _ _ _).1 hzero
      exact absurd hsame.1 (by decide)
  · rintro ⟨hlength, hzero⟩
    have hiff : Falsy (apduReply nowink (some 0) r8).rc ↔ EndsIn r8 0x90 0x00 := by
      rw [apduReply_falsy_iff]
      constructor
      · rintro (hends | hshort | hends)
        · exact hends
        · omega
        · exact absurd hends hzero
      · exact .inl
    refine ⟨hiff, fun hends => ?_, ?_, hiff.1, ?_⟩
    · rw [apduReply_of_endsIn hends]
      exact ⟨rfl, rfl⟩
    · intro answer hanswer hfalsy
      unfold versioned at hanswer
      split at hanswer
      · rename_i hunknown
        obtain rfl := Option.some_inj.1 hanswer
        refine .inr ⟨?_, rfl⟩
        by_cases hends : EndsIn r8 0x90 0x00
        · rw [apduReply_of_endsIn hends] at hunknown
          cases hunknown
        · rw [apduReply_of_not_endsIn hends] at hunknown
          rcases exists_statusWord r8 with hshort | ⟨front, high, low, rfl⟩
          · omega
          · rw [statusWord_append, Option.some_inj] at hunknown
            have hhigh := high.toNat_lt
            have hlow := low.toNat_lt
            have hhigh' : (0x6d : UInt8).toNat = 0x6d := rfl
            have hlow' : (0x00 : UInt8).toNat = 0x00 := rfl
            rw [endsIn_append, ← UInt8.toNat_inj, ← UInt8.toNat_inj, hhigh', hlow']
            omega
      · split at hanswer
        · cases hanswer
        · obtain rfl := Option.some_inj.1 hanswer
          exact .inl (hiff.1 hfalsy)
    · rintro idle attempt s enroller reply hreply ⟨call, hcall, hsuccess⟩
      by_contra hends
      rw [← hiff] at hends
      unfold UsbEnrollHandler.enrolledWith at hreply
      cases hrc : (apduReply nowink (some 0) r8).rc with
      | none =>
          rw [hrc] at hends
          exact hends rfl
      | some code =>
          rw [hrc] at hends hreply
          obtain ⟨handlerReply, ⟨hnew, hold⟩, rfl⟩ := hreply
          have hcode := (UsbEnrollHandler.repliesOnly_enrollCallback idle attempt hends _ s
            handlerReply hnew).resolve_left hold
          refine not_isSuccess_of_failed ?_ hcall hsuccess
          exact decide_eq_true hcode

/-- A reply that is empty, and one that ends in 0000, have statuses that are no true values. -/
theorem not_takesOnly9000 : ¬ TakesOnly9000 false [] ∧ ¬ TakesOnly9000 false [0x00, 0x00] := by
  constructor
  · intro h
    have hends : EndsIn [] 0x90 0x00 := h.apduReply.1 (by decide)
    exact absurd hends (by decide)
  · intro h
    have hends : EndsIn [0x00, 0x00] 0x90 0x00 := h.apduReply.1 (by decide)
    exact absurd hends (by decide)

end Gnubby

end U2F
