/-
**The signer for one gnubby.**

`singlesigner.js`: a `SingleGnubbySigner` opens a gnubby, asks for its version and has it sign one
challenge after the other, until one result is final, and hands this result to its `completeCb`.

At every point at most one callback of the signer is outstanding, and the signer is modelled with
the name of that callback.  A call of the `completeCb` lasts until it returns, since the owner may
close the signer in it.  A signer keeps a record of what it has done to its gnubbies and of its
completions; the gnubbies that the factory hands over are numbered.

Main definitions:

* `SingleGnubbySigner` — the signer;
* `SingleGnubbySigner.doSign_`, `SingleGnubbySigner.signCallback_` — its loop over the challenges;
* `SingleGnubbySigner.machine` — the signer as a reactive machine.

Main results:

* `SingleGnubbySigner.doSign_eq` — the loop over the challenges, read once;
* `SingleGnubbySigner.completes_at_most_once` — no run has more than one completion.
-/

import U2F.Extension.WebRequest
import U2F.Lib.Machine

set_option relaxedAutoImplicit false
set_option autoImplicit false

namespace U2F

/-! ### Status codes of a device -/

def OK_STATUS : ℤ := 0

def WRONG_LENGTH_STATUS : ℤ := 0x6700

def INVALID_DATA_STATUS : ℤ := 0x6984

def BUSY_STATUS : ℤ := -6

def GONE_STATUS : ℤ := -8

/-- Whether the error indicates the key handle is invalid for this gnubby. -/
def signErrorIndicatesInvalidKeyHandle (code : ℤ) : Bool :=
  code = WRONG_DATA_STATUS ∨ code = WRONG_LENGTH_STATUS ∨ code = INVALID_DATA_STATUS

/-- The codes that indicate an invalid key handle. -/
abbrev InvalidKeyHandleCode := { code : ℤ // signErrorIndicatesInvalidKeyHandle code = true }

/-- A string of one code unit for each byte. -/
def UTIL_BytesToString (b : List UInt8) : JSString := b.map UInt8.toUInt16

/-! ### The signer -/

/-- A sign challenge whose hashes and key handle have been decoded. -/
structure DecodedChallenge where
  challengeHash : List UInt8
  appIdHash : List UInt8
  keyHandle : List UInt8
  version : Option JSString
  deriving DecidableEq

/-- What the `completeCb` of a signer is called with.  A gnubby is known by its number. -/
structure SingleSignerResult where
  code : ℤ
  gnubby : Option ℕ
  challenge : Option DecodedChallenge
  info : Option (List UInt8)
  deriving DecidableEq

inductive SingleGnubbySigner.State
  | INIT
  | OPENING
  | BUSY
  | IDLE
  | SIGNING
  | COMPLETE
  | CLOSING
  | CLOSED
  deriving DecidableEq

/-- The callback of a signer that is outstanding. -/
inductive SingleGnubbySigner.Awaiting
  | nothing
  /-- The factory opens a gnubby. -/
  | opening
  /-- The delay before another attempt to open. -/
  | openDelay
  /-- A version command. -/
  | version
  /-- A sync, because the gnubby was busy when it was asked for its version. -/
  | versionSync
  /-- A sign command for the challenge of an index. -/
  | sign (challengeIndex : ℕ)
  /-- The delay before the gnubby is asked again, since it waits for a touch. -/
  | signDelay
  /-- A sync, because a sign command timed out. -/
  | signSync
  /-- The report that there are no challenges. -/
  | noChallenges
  /-- The call of `completeCb`, after which the signer may give up its gnubby. -/
  | completeCb (givesUp : Bool)
  deriving DecidableEq

/-- What the record of a signer holds. -/
inductive SingleGnubbySigner.Deed
  /-- The owner has called `close()`. -/
  | closed
  /-- The factory has handed over a gnubby. -/
  | handed (gnubby : ℕ)
  | version (gnubby : ℕ)
  | sync (gnubby : ℕ)
  | sign (gnubby : ℕ) (challenge : DecodedChallenge)
  | closeWhenIdle (gnubby : ℕ)
  | completed (result : SingleSignerResult)
  deriving DecidableEq

structure SingleGnubbySigner where
  forEnroll : Bool
  state : SingleGnubbySigner.State
  /-- Whether there is a timer that has expired. -/
  timerExpired : Bool
  challenges : List DecodedChallenge
  challengeIndex : ℕ
  challengesSet : Bool
  /-- The errors by key handle.  (A key handle is a property name through the text of its bytes,
  which tells key handles apart.) -/
  cachedError : List (List UInt8 × InvalidKeyHandleCode)
  gnubby : Option ℕ
  version : Option JSString
  awaiting : SingleGnubbySigner.Awaiting
  /-- How many gnubbies the factory has handed over. -/
  handed : ℕ
  /-- The record, the last deed first. -/
  deeds : List SingleGnubbySigner.Deed

namespace SingleGnubbySigner

/-- The constructor. -/
def new (forEnroll : Bool) : SingleGnubbySigner :=
  { forEnroll := forEnroll, state := .INIT, timerExpired := false, challenges := []
    challengeIndex := 0, challengesSet := false, cachedError := [], gnubby := none, version := none
    awaiting := .nothing, handed := 0, deeds := [] }

def did (deed : Deed) (s : SingleGnubbySigner) : SingleGnubbySigner :=
  { s with deeds := deed :: s.deeds }

/-- Whether a command is outstanding that `closeWhenIdle` of the gnubby waits for.  A sync is no
such command. -/
def commandPending (s : SingleGnubbySigner) : Bool :=
  match s.awaiting with
  | .version | .sign _ => true
  | _ => false

/-- Called when this signer's gnubby is closed. -/
def closed_ (s : SingleGnubbySigner) : SingleGnubbySigner :=
  { s with gnubby := none, state := .CLOSED }

/-- Closes this signer's gnubby, if it's held.  (There is no `openCanceller_`: the factory of the
USB gnubbies gives none.)  The gnubby closes at once, unless a command is outstanding that it is not
yet done with. -/
def close (idle : Bool) (s : SingleGnubbySigner) : SingleGnubbySigner :=
  match s.gnubby with
  | none => s
  | some gnubby =>
      let s := { s with state := .CLOSING }.did (.closeWhenIdle gnubby)
      if s.commandPending && !idle then s else s.closed_

/-- `this.completeCb_(result)` -/
def complete (result : SingleSignerResult) (givesUp : Bool) (s : SingleGnubbySigner) :
    SingleGnubbySigner :=
  { s.did (.completed result) with awaiting := .completeCb givesUp }

/-- Switches to the error state, and notifies caller. -/
def goToError_ (code : ℤ) (s : SingleGnubbySigner) : SingleGnubbySigner :=
  let s := { s with state := .COMPLETE }
  if !s.forEnroll ∧ code = WRONG_DATA_STATUS then s.complete ⟨code, s.gnubby, none, none⟩ false
  else (s.close true).complete ⟨code, none, none, none⟩ false

/-- Switches to the success state, and notifies caller. -/
def goToSuccess_ (code : ℤ) (challenge : Option DecodedChallenge) (info : Option (List UInt8))
    (s : SingleGnubbySigner) : SingleGnubbySigner :=
  { s with state := .COMPLETE }.complete ⟨code, s.gnubby, challenge, info⟩ true

/-- `this.gnubby_.version(this.versionCallback_.bind(this))`, which throws without a gnubby. -/
def askVersion (s : SingleGnubbySigner) : SingleGnubbySigner :=
  match s.gnubby with
  | none => s
  | some gnubby => { s.did (.version gnubby) with awaiting := .version }

/-- `this.gnubby_.sync(…)`, which throws without a gnubby. -/
def askSync (awaiting : Awaiting) (s : SingleGnubbySigner) : SingleGnubbySigner :=
  match s.gnubby with
  | none => s
  | some gnubby => { s.did (.sync gnubby) with awaiting := awaiting }

/-- Attempts to open this signer's gnubby, if it's not already open. -/
def open_ (s : SingleGnubbySigner) : SingleGnubbySigner :=
  if s.state = .INIT then { s with state := .OPENING, awaiting := .opening } else s

/-! ### The loop over the challenges -/

/-- Caches certain idempotent errors. -/
def cacheError (challengeIndex : ℕ) (code : ℤ) (s : SingleGnubbySigner) : SingleGnubbySigner :=
  if hcode : signErrorIndicatesInvalidKeyHandle code then
    match s.challenges[challengeIndex]? with
    | none => s
    | some challenge =>
        if (s.cachedError.lookup challenge.keyHandle).isSome then s
        else { s with cachedError := (challenge.keyHandle, ⟨code, hcode⟩) :: s.cachedError }
  else s

/-- The end of `signCallback_` for a code that makes the signer try the next challenge, if there is
one, and otherwise do what is `last`. -/
def nextOr (doSign_ last : SingleGnubbySigner → SingleGnubbySigner) (s : SingleGnubbySigner) :
    SingleGnubbySigner :=
  if s.challengeIndex + 1 < s.challenges.length then
    doSign_ { s with challengeIndex := s.challengeIndex + 1 }
  else last s

/-- Called with the result of a single sign operation.  What it calls as `doSign_` is the method
below. -/
def signCallback_ (doSign_ : SingleGnubbySigner → SingleGnubbySigner) (challengeIndex : ℕ)
    (code : ℤ) (info : Option (List UInt8)) (s : SingleGnubbySigner) : SingleGnubbySigner :=
  if s.state ≠ .SIGNING then s
  else
    let s := s.cacheError challengeIndex code
    if code = GONE_STATUS then s.goToError_ code
    else if code = TIMEOUT_STATUS then s.askSync .signSync
    else if code = BUSY_STATUS then doSign_ s
    else if code = OK_STATUS then
      if s.forEnroll then s.goToError_ code
      else s.goToSuccess_ code s.challenges[challengeIndex]? info
    else if code = WAIT_TOUCH_STATUS then { s with awaiting := .signDelay }
    else if signErrorIndicatesInvalidKeyHandle code then
      s.nextOr doSign_ (if s.forEnroll then goToSuccess_ code none none else goToError_ code)
    else if s.forEnroll then s.goToError_ code
    else s.nextOr doSign_ (goToError_ code)

/-- `this.state_ = SingleGnubbySigner.State.SIGNING` -/
def signing (s : SingleGnubbySigner) : SingleGnubbySigner := { s with state := .SIGNING }

/-- `doSign_(this.challengeIndex_)`, with a bound on how often it calls itself. -/
def doSignFuel : ℕ → SingleGnubbySigner → SingleGnubbySigner
  | 0, s => s
  | fuel + 1, s =>
      match s.gnubby with
      | none => s
      | some gnubby =>
          if s.timerExpired then s.goToError_ TIMEOUT_STATUS
          else if !s.challengesSet then { s with state := .IDLE }
          else
            match s.challenges[s.challengeIndex]? with
            | none =>
                s.signing.signCallback_ (doSignFuel fuel) s.challengeIndex WRONG_DATA_STATUS none
            | some challenge =>
                match s.cachedError.lookup challenge.keyHandle with
                | some code => s.signing.signCallback_ (doSignFuel fuel) s.challengeIndex code.1 none
                | none =>
                    if truthy challenge.version ∧ challenge.version ≠ s.version then
                      s.signing.signCallback_ (doSignFuel fuel) s.challengeIndex WRONG_DATA_STATUS
                        none
                    else
                      { s.signing.did (.sign gnubby challenge) with
                        awaiting := .sign s.challengeIndex }

/-- `doSign_(this.challengeIndex_)`.  It calls itself at most once for each further challenge. -/
def doSign_ (s : SingleGnubbySigner) : SingleGnubbySigner :=
  doSignFuel (s.challenges.length - s.challengeIndex + 1) s

/-! ### What the loop does -/

section Loop

variable {s : SingleGnubbySigner} {code : ℤ} {info : Option (List UInt8)} {k : ℕ}
  {f g : SingleGnubbySigner → SingleGnubbySigner}

/-- Caching an error changes nothing else. -/
theorem cacheError_eq (s : SingleGnubbySigner) (k : ℕ) (code : ℤ) :
    ∃ cachedError, s.cacheError k code = { s with cachedError := cachedError } := by
  unfold cacheError
  split
  · split
    · exact ⟨_, rfl⟩
    · split
      · exact ⟨_, rfl⟩
      · exact ⟨_, rfl⟩
  · exact ⟨_, rfl⟩

/-- An error for an invalid key handle ends the signer's work, or has it try the next challenge. -/
theorem signCallback_of_invalid (hstate : s.state = .SIGNING)
    (hcode : signErrorIndicatesInvalidKeyHandle code = true) :
    s.signCallback_ f k code info =
      (s.cacheError k code).nextOr f
        (if s.forEnroll then goToSuccess_ code none none else goToError_ code) := by
  obtain ⟨hgone, htimeout, hbusy, hok, htouch⟩ : code ≠ GONE_STATUS ∧ code ≠ TIMEOUT_STATUS ∧
      code ≠ BUSY_STATUS ∧ code ≠ OK_STATUS ∧ code ≠ WAIT_TOUCH_STATUS := by
    refine ⟨?_, ?_, ?_, ?_, ?_⟩ <;> rintro rfl <;> exact absurd hcode (by decide)
  obtain ⟨cachedError, hcache⟩ := s.cacheError_eq k code
  unfold signCallback_
  rw [if_neg (not_not.2 hstate), hcache]
  simp only [hgone, htimeout, hbusy, hok, htouch, if_false, hcode, if_true]

/-- After such an error the loop goes on only at a later challenge. -/
theorem signCallback_congr (hcode : signErrorIndicatesInvalidKeyHandle code = true)
    (hfg : ∀ t : SingleGnubbySigner, t.challenges.length = s.challenges.length →
      t.challengeIndex = s.challengeIndex + 1 → s.challengeIndex + 1 < s.challenges.length →
      f t = g t) :
    s.signCallback_ f k code info = s.signCallback_ g k code info := by
  by_cases hstate : s.state = .SIGNING
  · rw [signCallback_of_invalid hstate hcode, signCallback_of_invalid hstate hcode]
    unfold nextOr
    split
    case isTrue hnext =>
      obtain ⟨cachedError, hcache⟩ := s.cacheError_eq k code
      rw [hcache] at hnext ⊢
      exact hfg _ rfl rfl hnext
    case isFalse => rfl
  · simp [signCallback_, hstate]

/-- The bound is no bound, as long as it exceeds the number of challenges that are left. -/
theorem doSignFuel_eq {n m : ℕ} (hn : s.challenges.length - s.challengeIndex < n)
    (hm : s.challenges.length - s.challengeIndex < m) : doSignFuel n s = doSignFuel m s := by
  induction n generalizing s m with
  | zero => omega
  | succ n ih =>
      obtain ⟨m, rfl⟩ : ∃ m', m = m' + 1 := ⟨m - 1, by omega⟩
      -- a call in the loop is at a later challenge, so that both bounds still suffice there
      have hcall : ∀ (c : ℤ), signErrorIndicatesInvalidKeyHandle c = true → ∀ k,
          s.signing.signCallback_ (doSignFuel n) k c none =
            s.signing.signCallback_ (doSignFuel m) k c none := by
        intro c hc k
        refine signCallback_congr hc ?_
        intro t hlength hindex hnext
        have hlength' : t.challenges.length = s.challenges.length := hlength
        have hindex' : t.challengeIndex = s.challengeIndex + 1 := hindex
        have hnext' : s.challengeIndex + 1 < s.challenges.length := hnext
        exact ih (by omega) (by omega)
      simp only [doSignFuel]
      split
      · rfl
      · split
        · rfl
        · split
          · rfl
          · split
            · exact hcall _ rfl _
            · split
              · rename_i cached _
                exact hcall _ cached.2 _
              · split
                · exact hcall _ rfl _
                · rfl

/-- **The loop over the challenges**, read once. -/
theorem doSign_eq (s : SingleGnubbySigner) :
    s.doSign_ =
      match s.gnubby with
      | none => s
      | some gnubby =>
          if s.timerExpired then s.goToError_ TIMEOUT_STATUS
          else if !s.challengesSet then { s with state := .IDLE }
          else
            match s.challenges[s.challengeIndex]? with
            | none => s.signing.signCallback_ doSign_ s.challengeIndex WRONG_DATA_STATUS none
            | some challenge =>
                match s.cachedError.lookup challenge.keyHandle with
                | some code => s.signing.signCallback_ doSign_ s.challengeIndex code.1 none
                | none =>
                    if truthy challenge.version ∧ challenge.version ≠ s.version then
                      s.signing.signCallback_ doSign_ s.challengeIndex WRONG_DATA_STATUS none
                    else
                      { s.signing.did (.sign gnubby challenge) with
                        awaiting := .sign s.challengeIndex } := by
  have hcall : ∀ (c : ℤ), signErrorIndicatesInvalidKeyHandle c = true → ∀ k,
      s.signing.signCallback_ (doSignFuel (s.challenges.length - s.challengeIndex)) k c none =
        s.signing.signCallback_ doSign_ k c none := by
    intro c hc k
    refine signCallback_congr hc ?_
    intro t hlength hindex hnext
    have hlength' : t.challenges.length = s.challenges.length := hlength
    have hindex' : t.challengeIndex = s.challengeIndex + 1 := hindex
    have hnext' : s.challengeIndex + 1 < s.challenges.length := hnext
    exact doSignFuel_eq (by omega) (by omega)
  rw [doSign_, doSignFuel]
  split
  · rfl
  · split
    · rfl
    · split
      · rfl
      · split
        · exact hcall _ rfl _
        · split
          · rename_i cached _
            exact hcall _ cached.2 _
          · split
            · exact hcall _ rfl _
            · rfl

/-- A signer without a gnubby does nothing. -/
theorem doSign_of_none (h : s.gnubby = none) : s.doSign_ = s := by
  rw [doSign_eq, h]

end Loop

/-- The signer at a point of its loop. -/
def inLoop (state : State) (challengeIndex : ℕ)
    (cachedError : List (List UInt8 × InvalidKeyHandleCode)) (s : SingleGnubbySigner) :
    SingleGnubbySigner :=
  { s with state := state, challengeIndex := challengeIndex, cachedError := cachedError }

/-- What the loop can make of a signer: it leaves it, it asks its gnubby, or it completes, but not with
a signature. -/
inductive Signs (s : SingleGnubbySigner) : SingleGnubbySigner → Prop
  | still (state : State) (k : ℕ) (cache : List (List UInt8 × InvalidKeyHandleCode))
      (hstate : state = s.state ∨ state = .SIGNING ∨ state = .IDLE) :
      Signs s (s.inLoop state k cache)
  | asked (k : ℕ) (cache : List (List UInt8 × InvalidKeyHandleCode)) (gnubby : ℕ)
      (challenge : DecodedChallenge) (hgnubby : s.gnubby = some gnubby)
      (hchallenge : s.challenges[k]? = some challenge) :
      Signs s { (s.inLoop .SIGNING k cache).did (.sign gnubby challenge) with awaiting := .sign k }
  | timedOut (k : ℕ) (cache : List (List UInt8 × InvalidKeyHandleCode)) :
      Signs s ((s.inLoop .SIGNING k cache).askSync .signSync)
  | touch (k : ℕ) (cache : List (List UInt8 × InvalidKeyHandleCode)) :
      Signs s { s.inLoop .SIGNING k cache with awaiting := .signDelay }
  | failed (code : ℤ) (state : State) (k : ℕ)
      (cache : List (List UInt8 × InvalidKeyHandleCode))
      (hcode : s.forEnroll = true ∨ code ≠ OK_STATUS) :
      Signs s ((s.inLoop state k cache).goToError_ code)
  | notEnrolled (code : ℤ) (state : State) (k : ℕ)
      (cache : List (List UInt8 × InvalidKeyHandleCode)) (hforEnroll : s.forEnroll = true)
      (hcode : signErrorIndicatesInvalidKeyHandle code = true) :
      Signs s ((s.inLoop state k cache).goToSuccess_ code none none)

theorem Signs.of_inLoop {s t : SingleGnubbySigner} {state : State} {k : ℕ}
    {cache : List (List UInt8 × InvalidKeyHandleCode)} (hstate : state = s.state ∨ state = .SIGNING)
    (h : Signs (s.inLoop state k cache) t) : Signs s t := by
  cases h with
  | still state' k cache hstate' =>
      refine .still state' k cache ?_
      rcases hstate' with rfl | hstate'
      · exact hstate.imp_right .inl
      · exact .inr hstate'
  | asked k cache gnubby challenge hgnubby hchallenge =>
      exact .asked k cache gnubby challenge hgnubby hchallenge
  | timedOut k cache => exact .timedOut k cache
  | touch k cache => exact .touch k cache
  | failed code state k cache hcode => exact .failed code state k cache hcode
  | notEnrolled code state k cache hforEnroll hcode =>
      exact .notEnrolled code state k cache hforEnroll hcode

/-- What a result of a sign operation makes of a signer, if its loop does so and the result is no
signature that it looks for. -/
theorem signs_signCallback {f : SingleGnubbySigner → SingleGnubbySigner}
    (hf : ∀ t, Signs t (f t)) (s : SingleGnubbySigner) (k : ℕ) {code : ℤ}
    (info : Option (List UInt8)) (hcode : s.forEnroll = true ∨ code ≠ OK_STATUS) :
    Signs s (s.signCallback_ f k code info) := by
  obtain ⟨cache, hcache⟩ := s.cacheError_eq k code
  unfold signCallback_
  rw [hcache]
  by_cases hstate : s.state ≠ .SIGNING
  · rw [if_pos hstate]
    exact .still s.state s.challengeIndex s.cachedError (.inl rfl)
  have hsigning : { s with cachedError := cache } = s.inLoop .SIGNING s.challengeIndex cache := by
    rw [← not_not.1 hstate]
    rfl
  have hnext : ∀ last, (Signs s (last { s with cachedError := cache })) →
      Signs s (nextOr f last { s with cachedError := cache }) := by
    intro last hlast
    unfold nextOr
    split
    · exact .of_inLoop (.inl rfl) (hf (s.inLoop s.state (s.challengeIndex + 1) cache))
    · exact hlast
  rw [if_neg hstate]
  dsimp only
  by_cases hgone : code = GONE_STATUS
  · rw [if_pos hgone]
    exact .failed code s.state s.challengeIndex cache hcode
  rw [if_neg hgone]
  by_cases htimeout : code = TIMEOUT_STATUS
  · rw [if_pos htimeout, hsigning]
    exact .timedOut s.challengeIndex cache
  rw [if_neg htimeout]
  by_cases hbusy : code = BUSY_STATUS
  · rw [if_pos hbusy]
    exact .of_inLoop (.inl rfl) (hf (s.inLoop s.state s.challengeIndex cache))
  rw [if_neg hbusy]
  by_cases hok : code = OK_STATUS
  · have hforEnroll : s.forEnroll = true := hcode.resolve_right fun hne => hne hok
    rw [if_pos hok, if_pos hforEnroll]
    exact .failed code s.state s.challengeIndex cache hcode
  rw [if_neg hok]
  by_cases hwait : code = WAIT_TOUCH_STATUS
  · have htouch : Signs s { s.inLoop .SIGNING s.challengeIndex cache with awaiting := .signDelay } :=
      .touch s.challengeIndex cache
    rw [if_pos hwait]
    rwa [← hsigning] at htouch
  rw [if_neg hwait]
  by_cases hinvalid : signErrorIndicatesInvalidKeyHandle code = true
  · rw [if_pos hinvalid]
    refine hnext _ ?_
    by_cases hforEnroll : s.forEnroll = true
    · rw [if_pos hforEnroll]
      exact .notEnrolled code s.state s.challengeIndex cache hforEnroll hinvalid
    · rw [if_neg hforEnroll]
      exact .failed code s.state s.challengeIndex cache hcode
  rw [if_neg hinvalid]
  by_cases hforEnroll : s.forEnroll = true
  · rw [if_pos hforEnroll]
    exact .failed code s.state s.challengeIndex cache hcode
  · rw [if_neg hforEnroll]
    exact hnext _ (.failed code s.state s.challengeIndex cache hcode)

/-- **What the loop makes of a signer.** -/
theorem signs_doSign (s : SingleGnubbySigner) : Signs s s.doSign_ := by
  unfold doSign_
  generalize s.challenges.length - s.challengeIndex + 1 = fuel
  induction fuel generalizing s with
  | zero => exact .still s.state s.challengeIndex s.cachedError (.inl rfl)
  | succ fuel ih =>
      simp only [doSignFuel]
      split
      · exact .still s.state s.challengeIndex s.cachedError (.inl rfl)
      · rename_i gnubby hgnubby
        split
        · exact .failed TIMEOUT_STATUS s.state s.challengeIndex s.cachedError (.inr (by decide))
        split
        · exact .still .IDLE s.challengeIndex s.cachedError (.inr (.inr rfl))
        have hcall : ∀ c, signErrorIndicatesInvalidKeyHandle c = true →
            Signs s (signCallback_ (doSignFuel fuel) s.challengeIndex c none
              (s.inLoop .SIGNING s.challengeIndex s.cachedError)) := by
          intro c hc
          refine .of_inLoop (.inr rfl) (signs_signCallback ih _ s.challengeIndex none (.inr ?_))
          rintro rfl
          exact absurd hc (by decide)
        split
        · exact hcall _ rfl
        · rename_i challenge hchallenge
          split
          · rename_i cached _
            exact hcall _ cached.2
          · split
            · exact hcall _ rfl
            · exact .asked s.challengeIndex s.cachedError gnubby challenge hgnubby hchallenge

/-- **What a result of a sign operation makes of a signer**: it completes with a signature, or the loop
goes on. -/
theorem signCallback_cases (s : SingleGnubbySigner) (k : ℕ) (code : ℤ)
    (info : Option (List UInt8)) :
    Signs s (s.signCallback_ doSign_ k code info) ∨
      s.forEnroll = false ∧ s.state = .SIGNING ∧
        s.signCallback_ doSign_ k code info = s.goToSuccess_ OK_STATUS s.challenges[k]? info := by
  by_cases hcode : s.forEnroll = true ∨ code ≠ OK_STATUS
  · exact .inl (signs_signCallback signs_doSign s k info hcode)
  · rw [not_or, Bool.not_eq_true, not_not] at hcode
    obtain ⟨hforEnroll, rfl⟩ := hcode
    by_cases hstate : s.state = .SIGNING
    · refine .inr ⟨hforEnroll, hstate, ?_⟩
      have hcache : s.cacheError k OK_STATUS = s := rfl
      unfold signCallback_
      rw [if_neg (not_not.2 hstate), hcache]
      dsimp only
      rw [if_neg (by decide), if_neg (by decide), if_neg (by decide), if_pos rfl,
        if_neg (by simp [hforEnroll])]
    · refine .inl ?_
      rw [signCallback_, if_pos hstate]
      exact .still s.state s.challengeIndex s.cachedError (.inl rfl)

/-! ### The callbacks -/

/-- Called with the result of the open operation, and with the gnubby. -/
def openCallback_ (rc : ℤ) (gnubby : ℕ) (s : SingleGnubbySigner) : SingleGnubbySigner :=
  if s.state ≠ .OPENING ∧ s.state ≠ .BUSY then s
  else if rc = OK_STATUS then { s with gnubby := some gnubby }.askVersion
  else if rc = BUSY_STATUS then
    let s := { s with gnubby := some gnubby, state := .BUSY }
    if s.timerExpired then s.goToError_ BUSY_STATUS else { s with awaiting := .openDelay }
  else s.goToError_ rc

/-- Called with the result of a version command. -/
def versionCallback_ (rc : ℤ) (data : Option (List UInt8)) (s : SingleGnubbySigner) :
    SingleGnubbySigner :=
  if rc = BUSY_STATUS then
    if s.timerExpired then s.goToError_ TIMEOUT_STATUS else s.askSync .versionSync
  else if rc ≠ OK_STATUS then s.goToError_ rc
  else { s with state := .IDLE, version := some (UTIL_BytesToString (data.getD [])) }.doSign_

/-- Called with the response of the sync command that follows a version command. -/
def versionSynced (code : ℤ) (s : SingleGnubbySigner) : SingleGnubbySigner :=
  if code ≠ OK_STATUS then s.goToError_ code else s.askVersion

/-- Called with the response of a sync command, called when a sign yields a timeout. -/
def synced_ (code : ℤ) (s : SingleGnubbySigner) : SingleGnubbySigner :=
  if code ≠ OK_STATUS then s.goToError_ code else s.doSign_

/-- Begins signing the given challenges, and returns whether they were accepted. -/
def doSign (challenges : List DecodedChallenge) (s : SingleGnubbySigner) :
    Bool × SingleGnubbySigner :=
  if s.challengesSet then (false, s)
  else
    let s := { s with challenges := s.challenges ++ challenges, challengesSet := true }
    match s.state with
    | .INIT => (true, s.open_)
    | .OPENING => (true, s)
    | .IDLE =>
        if s.challengeIndex < challenges.length then (true, s.doSign_)
        else (true, { s with awaiting := .noChallenges })
    | .SIGNING => (true, s)
    | _ => (false, s)

/-! ### The signer as a machine -/

/-- What can happen to a signer. -/
inductive Event
  | doSign (challenges : List DecodedChallenge)
  /-- The factory calls back, with a new gnubby. -/
  | opened (rc : ℤ)
  | openDelayOver
  | versioned (rc : ℤ) (data : Option (List UInt8))
  | synced (code : ℤ)
  | signed (code : ℤ) (info : Option (List UInt8))
  | signDelayOver
  /-- The time-out that reports that there are no challenges. -/
  | noChallenges
  /-- `completeCb` returns. -/
  | returned
  | timerExpires
  /-- The owner closes the signer; a gnubby may be done with its command but not have called
  back. -/
  | close (idle : Bool)
  deriving DecidableEq

/-- Whether an event is a callback of the signer or the end of its time, and not a call of one of its
methods or the end of a call of its `completeCb`. -/
def Event.isCallback : Event → Bool
  | .doSign _ | .returned | .close _ => false
  | _ => true

/-- A callback is called, and is no longer outstanding. -/
def called (s : SingleGnubbySigner) : SingleGnubbySigner := { s with awaiting := .nothing }

/-- The factory calls back with a new gnubby. -/
def handOver (s : SingleGnubbySigner) : SingleGnubbySigner :=
  { s.called.did (.handed s.handed) with handed := s.handed + 1 }

/-- A gnubby is done with its command and calls back.  One that is to close when idle has closed
first. -/
def replied (s : SingleGnubbySigner) : SingleGnubbySigner :=
  if s.state = .CLOSING then s.called.closed_ else s.called

/-- The signer after an event.  An event that cannot happen changes nothing. -/
def handle (s : SingleGnubbySigner) : Event → SingleGnubbySigner
  | .doSign challenges => (s.doSign challenges).2
  | .opened rc =>
      match s.awaiting with
      | .opening => s.handOver.openCallback_ rc s.handed
      | _ => s
  | .openDelayOver =>
      match s.awaiting with
      | .openDelay => if s.gnubby.isSome then { s with awaiting := .opening } else s.called
      | _ => s
  | .versioned rc data =>
      match s.awaiting with
      | .version => s.replied.versionCallback_ rc data
      | _ => s
  | .synced code =>
      match s.awaiting with
      | .versionSync => s.called.versionSynced code
      | .signSync => s.called.synced_ code
      | _ => s
  | .signed code info =>
      match s.awaiting with
      | .sign challengeIndex => s.replied.signCallback_ doSign_ challengeIndex code info
      | _ => s
  | .signDelayOver =>
      match s.awaiting with
      | .signDelay => s.called.doSign_
      | _ => s
  | .noChallenges =>
      match s.awaiting with
      | .noChallenges => s.called.goToError_ WRONG_DATA_STATUS
      | _ => s
  | .returned =>
      match s.awaiting with
      | .completeCb givesUp => if givesUp then { s.called with gnubby := none } else s.called
      | _ => s
  | .timerExpires => { s with timerExpired := true }
  | .close idle => (s.did .closed).close idle

/-- **A signer as a reactive machine.** -/
def machine : Machine SingleGnubbySigner Event Unit := ⟨fun s e => ((), s.handle e)⟩

/-! ### Completions -/

/-- The result that a deed hands over. -/
def Deed.result : Deed → Option SingleSignerResult
  | .completed result => some result
  | _ => none

/-- The results that a signer has handed to its `completeCb`, the last one first. -/
def completions (s : SingleGnubbySigner) : List SingleSignerResult := s.deeds.filterMap Deed.result

/-- A signer that has been given its challenges and has not completed. -/
structure Working (s : SingleGnubbySigner) : Prop where
  set : s.challengesSet = true
  none : s.completions = []
  notReporting : ∀ givesUp, s.awaiting ≠ .completeCb givesUp

/-- A signer that works, or has just called `completeCb` for the first time. -/
def WorkingOrCompletes (s : SingleGnubbySigner) : Prop :=
  s.Working ∨ s.challengesSet = true ∧ (∃ result, s.completions = [result]) ∧
    ∃ givesUp, s.awaiting = .completeCb givesUp

/-- A signer that was not given its challenges waits for nothing; one that has completed has done so
once and waits for nothing but the end of the call. -/
structure AtMostOnce (s : SingleGnubbySigner) : Prop where
  set : s.awaiting ≠ .nothing → s.challengesSet = true
  once : s.completions = [] ∧ (∀ givesUp, s.awaiting ≠ .completeCb givesUp) ∨
    s.challengesSet = true ∧ (∃ result, s.completions = [result]) ∧
      (s.awaiting = .nothing ∨ ∃ givesUp, s.awaiting = .completeCb givesUp)

section Completions

variable {s t : SingleGnubbySigner} {code : ℤ}

theorem completions_close (idle : Bool) (s : SingleGnubbySigner) :
    (s.close idle).completions = s.completions ∧ (s.close idle).challengesSet = s.challengesSet ∧
      (s.close idle).awaiting = s.awaiting := by
  unfold close
  split
  · exact ⟨rfl, rfl, rfl⟩
  · dsimp only
    split
    · exact ⟨rfl, rfl, rfl⟩
    · exact ⟨rfl, rfl, rfl⟩

theorem Working.same (h : s.Working) (hset : t.challengesSet = s.challengesSet)
    (hcompletions : t.completions = s.completions) (hawaiting : t.awaiting = s.awaiting) :
    t.Working :=
  ⟨hset.trans h.set, hcompletions.trans h.none, by rw [hawaiting]; exact h.notReporting⟩

theorem workingOrCompletes_complete (result : SingleSignerResult) (givesUp : Bool)
    (h : s.Working) : (s.complete result givesUp).WorkingOrCompletes := by
  refine .inr ⟨h.set, ⟨result, ?_⟩, givesUp, rfl⟩
  have : (s.complete result givesUp).completions = result :: s.completions := rfl
  rw [this, h.none]

theorem workingOrCompletes_goToError (code : ℤ) (h : s.Working) :
    (s.goToError_ code).WorkingOrCompletes := by
  have hcomplete : Working { s with state := .COMPLETE } := h.same rfl rfl rfl
  unfold goToError_
  dsimp only
  split
  · exact workingOrCompletes_complete _ _ hcomplete
  · obtain ⟨hcompletions, hset, hawaiting⟩ := completions_close true { s with state := .COMPLETE }
    exact workingOrCompletes_complete _ _ (hcomplete.same hset hcompletions hawaiting)

theorem workingOrCompletes_goToSuccess (code : ℤ) (challenge : Option DecodedChallenge)
    (info : Option (List UInt8)) (h : s.Working) :
    (s.goToSuccess_ code challenge info).WorkingOrCompletes :=
  workingOrCompletes_complete _ _ ⟨h.set, h.none, h.notReporting⟩

theorem working_askVersion (h : s.Working) : s.askVersion.Working := by
  unfold askVersion
  split
  · exact h
  · exact ⟨h.set, h.none, by simp⟩

theorem working_askSync {awaiting : Awaiting} (hawaiting : ∀ givesUp, awaiting ≠ .completeCb givesUp)
    (h : s.Working) : (s.askSync awaiting).Working := by
  unfold askSync
  split
  · exact h
  · exact ⟨h.set, h.none, hawaiting⟩

theorem working_open (h : s.Working) : s.open_.Working := by
  unfold open_
  split
  · exact ⟨h.set, h.none, by simp⟩
  · exact h

theorem Signs.workingOrCompletes (ht : Signs s t) (h : s.Working) : t.WorkingOrCompletes := by
  have hloop : ∀ state k cache, (inLoop state k cache s).Working :=
    fun _ _ _ => ⟨h.set, h.none, h.notReporting⟩
  cases ht with
  | still => exact .inl (hloop _ _ _)
  | asked => exact .inl ⟨h.set, h.none, by simp⟩
  | timedOut => exact .inl (working_askSync (by simp) (hloop _ _ _))
  | touch => exact .inl ⟨h.set, h.none, by simp⟩
  | failed => exact workingOrCompletes_goToError _ (hloop _ _ _)
  | notEnrolled => exact workingOrCompletes_goToSuccess _ _ _ (hloop _ _ _)

theorem workingOrCompletes_openCallback (rc : ℤ) (gnubby : ℕ) (h : s.Working) :
    (s.openCallback_ rc gnubby).WorkingOrCompletes := by
  unfold openCallback_
  split
  · exact .inl h
  split
  · exact .inl (working_askVersion (h.same rfl rfl rfl))
  split
  · dsimp only
    split
    · exact workingOrCompletes_goToError _ (h.same rfl rfl rfl)
    · exact .inl ⟨h.set, h.none, by simp⟩
  · exact workingOrCompletes_goToError _ h

theorem workingOrCompletes_versionCallback (rc : ℤ) (data : Option (List UInt8))
    (h : s.Working) : (s.versionCallback_ rc data).WorkingOrCompletes := by
  unfold versionCallback_
  split
  · split
    · exact workingOrCompletes_goToError _ h
    · exact .inl (working_askSync (by simp) h)
  split
  · exact workingOrCompletes_goToError _ h
  · exact (signs_doSign _).workingOrCompletes (h.same rfl rfl rfl)

theorem workingOrCompletes_versionSynced (code : ℤ) (h : s.Working) :
    (s.versionSynced code).WorkingOrCompletes := by
  unfold versionSynced
  split
  · exact workingOrCompletes_goToError _ h
  · exact .inl (working_askVersion h)

theorem workingOrCompletes_synced (code : ℤ) (h : s.Working) :
    (s.synced_ code).WorkingOrCompletes := by
  unfold synced_
  split
  · exact workingOrCompletes_goToError _ h
  · exact (signs_doSign _).workingOrCompletes h

theorem WorkingOrCompletes.atMostOnce (h : s.WorkingOrCompletes) : s.AtMostOnce := by
  rcases h with hworking | ⟨hset, hresult, hawaiting⟩
  · exact ⟨fun _ => hworking.set, .inl ⟨hworking.none, hworking.notReporting⟩⟩
  · exact ⟨fun _ => hset, .inr ⟨hset, hresult, .inr hawaiting⟩⟩

theorem working_called (h : s.Working) : s.called.Working := ⟨h.set, h.none, by simp [called]⟩

theorem working_replied (h : s.Working) : s.replied.Working := by
  unfold replied
  split
  · exact (working_called h).same rfl rfl rfl
  · exact working_called h

/-- A signer that waits for something else than the end of `completeCb` works. -/
theorem AtMostOnce.working (h : s.AtMostOnce) (hnothing : s.awaiting ≠ .nothing)
    (hcompleteCb : ∀ givesUp, s.awaiting ≠ .completeCb givesUp) : s.Working := by
  have hnone : s.completions = [] := by
    rcases h.once with hnone | ⟨-, -, hawaiting | ⟨givesUp, hawaiting⟩⟩
    · exact hnone.1
    · exact absurd hawaiting hnothing
    · exact absurd hawaiting (hcompleteCb givesUp)
  exact ⟨h.set hnothing, hnone, hcompleteCb⟩

theorem atMostOnce_doSign (h : s.AtMostOnce) (challenges : List DecodedChallenge) :
    (s.doSign challenges).2.AtMostOnce := by
  unfold doSign
  split
  · exact h
  · rename_i hset
    obtain ⟨hcompletions, hawaiting⟩ :
        s.completions = [] ∧ ∀ givesUp, s.awaiting ≠ .completeCb givesUp := by
      rcases h.once with hnone | ⟨hset', -⟩
      · exact hnone
      · exact absurd hset' hset
    have hworking : Working { s with
        challenges := s.challenges ++ challenges, challengesSet := true } :=
      ⟨rfl, hcompletions, hawaiting⟩
    dsimp only
    split
    · exact WorkingOrCompletes.atMostOnce (.inl (working_open hworking))
    · exact WorkingOrCompletes.atMostOnce (.inl hworking)
    · split
      · exact ((signs_doSign _).workingOrCompletes hworking).atMostOnce
      · exact WorkingOrCompletes.atMostOnce (.inl ⟨rfl, hcompletions, by simp⟩)
    · exact WorkingOrCompletes.atMostOnce (.inl hworking)
    · exact WorkingOrCompletes.atMostOnce (.inl hworking)

/-- **A callback of a signer that works** leaves it working, or makes it complete. -/
theorem Working.handle (h : s.Working) {e : Event} (he : e.isCallback = true) :
    (s.handle e).WorkingOrCompletes := by
  cases e with
  | doSign => contradiction
  | returned => contradiction
  | close => contradiction
  | opened rc =>
      simp only [SingleGnubbySigner.handle]
      split
      · have hhandOver : s.handOver.Working := (working_called h).same rfl rfl rfl
        exact workingOrCompletes_openCallback rc _ hhandOver
      · exact .inl h
  | openDelayOver =>
      simp only [SingleGnubbySigner.handle]
      split
      · split
        · exact .inl ⟨h.set, h.none, by simp⟩
        · exact .inl (working_called h)
      · exact .inl h
  | versioned rc data =>
      simp only [SingleGnubbySigner.handle]
      split
      · exact workingOrCompletes_versionCallback rc data (working_replied h)
      · exact .inl h
  | synced code =>
      simp only [SingleGnubbySigner.handle]
      split
      · exact workingOrCompletes_versionSynced code (working_called h)
      · exact workingOrCompletes_synced code (working_called h)
      · exact .inl h
  | signed code info =>
      simp only [SingleGnubbySigner.handle]
      split
      · rename_i k _
        rcases s.replied.signCallback_cases k code info with hsigns | ⟨-, -, hsuccess⟩
        · exact hsigns.workingOrCompletes (working_replied h)
        · rw [hsuccess]
          exact workingOrCompletes_goToSuccess _ _ _ (working_replied h)
      · exact .inl h
  | signDelayOver =>
      simp only [SingleGnubbySigner.handle]
      split
      · exact (signs_doSign _).workingOrCompletes (working_called h)
      · exact .inl h
  | noChallenges =>
      simp only [SingleGnubbySigner.handle]
      split
      · exact workingOrCompletes_goToError _ (working_called h)
      · exact .inl h
  | timerExpires => exact .inl (h.same rfl rfl rfl)

/-- A signer that waits for nothing, or for its `completeCb`, has no callbacks. -/
theorem handle_of_idle (h : s.awaiting = .nothing ∨ ∃ givesUp, s.awaiting = .completeCb givesUp)
    {e : Event} (he : e.isCallback = true) :
    s.handle e = s ∨ s.handle e = { s with timerExpired := true } := by
  cases e with
  | doSign => contradiction
  | returned => contradiction
  | close => contradiction
  | timerExpires => exact .inr rfl
  | _ =>
      refine .inl ?_
      rcases h with h | ⟨givesUp, h⟩ <;> simp [handle, h]

theorem atMostOnce_callback {e : Event} (he : e.isCallback = true) (h : s.AtMostOnce) :
    (s.handle e).AtMostOnce := by
  by_cases hidle : s.awaiting = .nothing ∨ ∃ givesUp, s.awaiting = .completeCb givesUp
  · rcases handle_of_idle hidle he with heq | heq
    · rw [heq]
      exact h
    · rw [heq]
      exact ⟨h.set, h.once⟩
  · rw [not_or, not_exists] at hidle
    exact ((h.working hidle.1 hidle.2).handle he).atMostOnce

theorem atMostOnce_handle (e : Event) (h : s.AtMostOnce) : (s.handle e).AtMostOnce := by
  cases e with
  | doSign challenges => exact atMostOnce_doSign h challenges
  | returned =>
      simp only [handle]
      split
      · rename_i givesUp hawaiting
        have hset : s.challengesSet = true := h.set (by simp [hawaiting])
        -- nothing is outstanding when the call has returned
        have hcalled : s.called.AtMostOnce := by
          refine ⟨fun hne => absurd rfl hne, ?_⟩
          rcases h.once with hnone | ⟨-, hresult, -⟩
          · exact .inl ⟨hnone.1, by simp [called]⟩
          · exact .inr ⟨hset, hresult, .inl rfl⟩
        split
        · exact ⟨hcalled.set, hcalled.once⟩
        · exact hcalled
      · exact h
  | close idle =>
      obtain ⟨hcompletions, hset, hawaiting⟩ := completions_close idle (s.did .closed)
      refine ⟨?_, ?_⟩
      · intro hne
        rw [handle, hawaiting] at hne
        rw [handle, hset]
        exact h.set hne
      · rw [handle, hcompletions, hset, hawaiting]
        exact h.once
  | _ => exact atMostOnce_callback rfl h

/-- **No run of a signer has more than one completion.** -/
theorem completes_at_most_once (forEnroll : Bool) (es : List Event) :
    (machine.exec (new forEnroll) es).completions.length ≤ 1 := by
  have h : (machine.exec (new forEnroll) es).AtMostOnce := by
    have hstart : (new forEnroll).AtMostOnce := ⟨fun hne => absurd rfl hne, .inl ⟨rfl, by simp [new]⟩⟩
    exact Machine.exec_invariant' (M := machine) (fun _ e hs => atMostOnce_handle e hs) es hstart
  rcases h.once with hnone | ⟨-, ⟨result, hresult⟩, -⟩
  · simp [hnone.1]
  · simp [hresult]

end Completions

end SingleGnubbySigner

end U2F
