/-
**The outcome of a signer.**

A gnubby answers each challenge with a final code, after any number of answers that ask for
patience.  A `SingleGnubbySigner` that signs should complete with the first challenge that its
gnubby signs, and one that enrolls should find out whether its gnubby knows none of the key handles.
The signer caches the errors that mean an invalid key handle by the key handle alone, though the
answer depends on the app id too, and a challenge of another version counts as such an error; so it
passes over a challenge whose key handle was rejected before.

Main definitions:

* `GnubbyAnswers` — the answers of a gnubby; `GnubbyAnswers.Gives` — the steps it takes;
* `SingleGnubbySigner.FindsRightOutcome` — what is expected;
* `GnubbyAnswers.Masked` — a challenge whose key handle was rejected before;
* `GnubbyAnswers.walk` — what the signer makes of a list of challenges.

Main results:

* `SingleGnubbySigner.inv_handle_gives` — a step comes nearer to the outcome of the walk;
* `GnubbyAnswers.walk_sign_iff`, `GnubbyAnswers.walk_enroll_iff` — when that outcome is right;
* `SingleGnubbySigner.findsRightOutcome_iff` — **the signer finds the right outcome exactly if no
  challenge that matters is masked**.
-/

import U2F.Extension.SingleSigner

set_option relaxedAutoImplicit false
set_option autoImplicit false

namespace U2F

/-! ### The answers of a gnubby -/

/-- The codes after which the signer asks its gnubby again. -/
def isTransient (code : ℤ) : Bool :=
  code = BUSY_STATUS ∨ code = WAIT_TOUCH_STATUS ∨ code = TIMEOUT_STATUS

/-- How a gnubby answers: with its version, and with a final code for each challenge. -/
structure GnubbyAnswers where
  version : List UInt8
  answer : (challengeHash appIdHash keyHandle : List UInt8) → ℤ
  final : ∀ challengeHash appIdHash keyHandle,
    isTransient (answer challengeHash appIdHash keyHandle) = false

namespace GnubbyAnswers

variable (D : GnubbyAnswers)

/-- The final code for a challenge. -/
def code (c : DecodedChallenge) : ℤ := D.answer c.challengeHash c.appIdHash c.keyHandle

/-- Whether a challenge is of the gnubby's version, or has none. -/
def own (c : DecodedChallenge) : Bool :=
  decide ¬ (truthy c.version ∧ c.version ≠ some (UTIL_BytesToString D.version))

/-- Whether the signer takes the key handle of a challenge for invalid. -/
def rejects (c : DecodedChallenge) : Bool :=
  !D.own c || signErrorIndicatesInvalidKeyHandle (D.code c)

/-- A challenge whose key handle was rejected before. -/
def Masked (earlier : List DecodedChallenge) (c : DecodedChallenge) : Prop :=
  ∃ p ∈ earlier, p.keyHandle = c.keyHandle ∧ D.rejects p = true

end GnubbyAnswers

namespace SingleGnubbySigner

/-- What the answer of a gnubby is an answer to, and whether it is transient. -/
def Event.transient : Event → Bool
  | .opened rc => rc = BUSY_STATUS
  | .versioned rc _ => rc = BUSY_STATUS
  | .signed code _ => isTransient code
  | _ => false

end SingleGnubbySigner

open SingleGnubbySigner (Event)

/-- The steps of a signer whose gnubby opens, reports its version and answers as given, possibly
after transient answers, whose syncs succeed and whose timer does not expire. -/
def GnubbyAnswers.Gives (D : GnubbyAnswers) (s : SingleGnubbySigner) : Event → Prop
  | .opened rc => s.awaiting = .opening ∧ (rc = OK_STATUS ∨ rc = BUSY_STATUS)
  | .openDelayOver => s.awaiting = .openDelay
  | .versioned rc data =>
      s.awaiting = .version ∧ (rc = OK_STATUS ∧ data = some D.version ∨ rc = BUSY_STATUS)
  | .synced code => (s.awaiting = .versionSync ∨ s.awaiting = .signSync) ∧ code = OK_STATUS
  | .signed code _ =>
      ∃ k, s.awaiting = .sign k ∧
        ((∃ c, s.challenges[k]? = some c ∧ code = D.code c) ∨ isTransient code = true)
  | .signDelayOver => s.awaiting = .signDelay
  | .returned => ∃ givesUp, s.awaiting = .completeCb givesUp
  | _ => False

namespace SingleGnubbySigner

/-- A signer that has been given its challenges. -/
def start (forEnroll : Bool) (challenges : List DecodedChallenge) : SingleGnubbySigner :=
  ((new forEnroll).doSign challenges).2

/-- The result that is expected of a signer. -/
structure RightResult (forEnroll : Bool) (challenges : List DecodedChallenge) (D : GnubbyAnswers)
    (result : SingleSignerResult) : Prop where
  /-- The first challenge that the gnubby signs is reported, unless the gnubby is gone before. -/
  sign : forEnroll = false → ∀ earlier c later, challenges = earlier ++ c :: later →
    D.own c = true → D.code c = OK_STATUS →
    (∀ p ∈ earlier, D.own p = true → D.code p ≠ OK_STATUS ∧ D.code p ≠ GONE_STATUS) →
    result.code = OK_STATUS ∧ result.challenge = some c
  /-- An invalid key handle is reported exactly if the gnubby reports one for each challenge. -/
  enroll : forEnroll = true →
    (signErrorIndicatesInvalidKeyHandle result.code = true ↔
      ∀ c ∈ challenges, D.own c = true → signErrorIndicatesInvalidKeyHandle (D.code c) = true)

/-- **What is expected of a signer**: it completes once, after a number of steps that grows with the
number of transient answers only, and with the right result. -/
structure FindsRightOutcome (forEnroll : Bool) (challenges : List DecodedChallenge)
    (D : GnubbyAnswers) (es : List Event) : Prop where
  terminates : es.length ≤ challenges.length + 3 + 2 * es.countP Event.transient
  once : (machine.exec (start forEnroll challenges) es).completions.length ≤ 1
  completes : (∀ e, ¬ D.Gives (machine.exec (start forEnroll challenges) es) e) →
    (machine.exec (start forEnroll challenges) es).completions.length = 1
  right : ∀ result ∈ (machine.exec (start forEnroll challenges) es).completions,
    RightResult forEnroll challenges D result

end SingleGnubbySigner

/-! ### What the signer makes of a list of challenges -/

namespace GnubbyAnswers

variable (D : GnubbyAnswers)

/-- The errors that have been cached by key handle. -/
abbrev Cache := List (List UInt8 × InvalidKeyHandleCode)

/-- The code that the signer sees for a challenge. -/
def seen (cache : Cache) (c : DecodedChallenge) : ℤ :=
  match cache.lookup c.keyHandle with
  | some code => code.1
  | none => if D.own c then D.code c else WRONG_DATA_STATUS

/-- The cache after a code has been seen. -/
def remember (cache : Cache) (c : DecodedChallenge) (code : ℤ) : Cache :=
  if hcode : signErrorIndicatesInvalidKeyHandle code = true then
    if (cache.lookup c.keyHandle).isSome then cache else (c.keyHandle, ⟨code, hcode⟩) :: cache
  else cache

/-- Whether the signer tries another challenge after a code. -/
def goesOn (forEnroll : Bool) (code : ℤ) : Bool :=
  signErrorIndicatesInvalidKeyHandle code ||
    !forEnroll && decide (code ≠ OK_STATUS ∧ code ≠ GONE_STATUS)

/-- **The walk of a signer along its challenges**: the code and the challenge of the result. -/
def walk (forEnroll : Bool) : Cache → List DecodedChallenge → ℤ × Option DecodedChallenge
  | _, [] => (WRONG_DATA_STATUS, none)
  | cache, c :: later =>
      let code := D.seen cache c
      if goesOn forEnroll code ∧ later ≠ [] then walk forEnroll (remember cache c code) later
      else (code, if code = OK_STATUS ∧ forEnroll = false then some c else none)

/-- Whether a list of challenges is walked to the right outcome: a signer passes over no challenge
that matters. -/
structure NothingMasked (forEnroll : Bool) (challenges : List DecodedChallenge) : Prop where
  /-- The first challenge that the gnubby signs does not repeat a rejected key handle. -/
  sign : forEnroll = false → ∀ earlier c later, challenges = earlier ++ c :: later →
    D.own c = true → D.code c = OK_STATUS →
    (∀ p ∈ earlier, D.own p = true → D.code p ≠ OK_STATUS ∧ D.code p ≠ GONE_STATUS) →
    ¬ D.Masked earlier c
  /-- If there are challenges that are not rejected, then one of these does not repeat a rejected
  key handle. -/
  enroll : forEnroll = true → (∃ c ∈ challenges, D.rejects c = false) →
    ∃ earlier c later, challenges = earlier ++ c :: later ∧ D.rejects c = false ∧
      ¬ D.Masked earlier c

section Walk

variable {D} {cache : Cache} {earlier later cs : List DecodedChallenge} {c : DecodedChallenge}
  {forEnroll : Bool}

/-- The code that is seen for a key handle that is not in the cache. -/
theorem seen_of_none (hnone : cache.lookup c.keyHandle = none) :
    D.seen cache c = if D.own c then D.code c else WRONG_DATA_STATUS := by
  simp [seen, hnone]

theorem seen_of_some {code : InvalidKeyHandleCode} (hsome : cache.lookup c.keyHandle = some code) :
    D.seen cache c = code.1 := by
  simp [seen, hsome]

/-- The signer sees an error for an invalid key handle if the key handle is in the cache, or the
challenge is rejected. -/
theorem invalid_seen (cache : Cache) (c : DecodedChallenge) :
    signErrorIndicatesInvalidKeyHandle (D.seen cache c) = true ↔
      (cache.lookup c.keyHandle).isSome = true ∨ D.rejects c = true := by
  cases hlookup : cache.lookup c.keyHandle with
  | some code => simp [seen_of_some hlookup, code.2]
  | none =>
      rw [seen_of_none hlookup, rejects]
      cases D.own c with
      | true => simp
      | false => simp [signErrorIndicatesInvalidKeyHandle]

/-- The cache holds a key handle after a challenge, if it held it before or the challenge was
rejected. -/
theorem lookup_remember (cache : Cache) (c : DecodedChallenge) (keyHandle : List UInt8) :
    ((remember cache c (D.seen cache c)).lookup keyHandle).isSome = true ↔
      (cache.lookup keyHandle).isSome = true ∨ c.keyHandle = keyHandle ∧ D.rejects c = true := by
  have hinvalid := invalid_seen (D := D) cache c
  unfold remember
  split
  case isTrue hcode =>
    split
    case isTrue hsome =>
      constructor
      · exact .inl
      · rintro (h | ⟨rfl, -⟩)
        · exact h
        · exact hsome
    case isFalse hnone =>
      have hrejects : D.rejects c = true := (hinvalid.1 hcode).resolve_left hnone
      by_cases heq : keyHandle = c.keyHandle
      · subst heq
        simp [hrejects]
      · have hne : (keyHandle == c.keyHandle) = false := beq_eq_false_iff_ne.2 heq
        simp [List.lookup_cons, hne, Ne.symm heq]
  case isFalse hcode =>
    have hrejects : D.rejects c = false := by
      have hnot : ¬ D.rejects c = true := fun h => hcode (hinvalid.2 (.inr h))
      simpa using hnot
    simp [hrejects]

/-- The cache after a list of challenges. -/
def rememberAll (D : GnubbyAnswers) (cache : Cache) (cs : List DecodedChallenge) : Cache :=
  cs.foldl (fun cache c => remember cache c (D.seen cache c)) cache

theorem lookup_rememberAll (cache : Cache) (cs : List DecodedChallenge)
    (keyHandle : List UInt8) :
    ((rememberAll D cache cs).lookup keyHandle).isSome = true ↔
      (cache.lookup keyHandle).isSome = true ∨ ∃ p ∈ cs, p.keyHandle = keyHandle ∧
        D.rejects p = true := by
  induction cs generalizing cache with
  | nil => simp [rememberAll]
  | cons c cs ih =>
      have hcons : rememberAll D cache (c :: cs) =
          rememberAll D (remember cache c (D.seen cache c)) cs := rfl
      rw [hcons, ih, lookup_remember, or_assoc]
      simp

/-- A challenge is masked if its key handle is in the cache when the signer comes to it. -/
theorem masked_iff (earlier : List DecodedChallenge) (c : DecodedChallenge) :
    D.Masked earlier c ↔ ((rememberAll D [] earlier).lookup c.keyHandle).isSome = true := by
  rw [lookup_rememberAll]
  simp [Masked]

/-- The walk goes past challenges after which the signer goes on. -/
theorem walk_append (hgoesOn : ∀ pre p post, earlier = pre ++ p :: post →
      goesOn forEnroll (D.seen (rememberAll D cache pre) p) = true) (hlater : later ≠ []) :
    D.walk forEnroll cache (earlier ++ later) =
      D.walk forEnroll (rememberAll D cache earlier) later := by
  induction earlier generalizing cache with
  | nil => rfl
  | cons p earlier ih =>
      have hp : goesOn forEnroll (D.seen cache p) = true := hgoesOn [] p earlier rfl
      have hmore : earlier ++ later ≠ [] := by simp [hlater]
      rw [List.cons_append, walk, if_pos ⟨hp, hmore⟩]
      refine ih ?_
      intro pre q post heq
      exact hgoesOn (p :: pre) q post (by rw [heq, List.cons_append])

/-- A challenge that is reported is one whose key handle was not in the cache. -/
theorem lookup_of_walk (h : (D.walk forEnroll cache cs).2 = some c) :
    cache.lookup c.keyHandle = none := by
  induction cs generalizing cache with
  | nil => simp [walk] at h
  | cons p cs ih =>
      rw [walk] at h
      split at h
      · have hlookup := ih h
        have hiff := lookup_remember (D := D) cache p c.keyHandle
        rw [hlookup] at hiff
        cases hcache : cache.lookup c.keyHandle with
        | none => rfl
        | some code => simp [hcache] at hiff
      · dsimp only at h
        split at h
        · rename_i hok
          obtain rfl : p = c := by simpa using h
          cases hcache : cache.lookup p.keyHandle with
          | none => rfl
          | some code =>
              have hinvalid := code.2
              rw [← seen_of_some (D := D) hcache, hok.1] at hinvalid
              exact absurd hinvalid (by decide)
        · simp at h

/-- **A signer that signs** reports the first challenge that the gnubby signs, if its key handle was
not rejected before. -/
theorem walk_sign_iff (later : List DecodedChallenge) (hown : D.own c = true)
    (hcode : D.code c = OK_STATUS)
    (hearlier : ∀ p ∈ earlier, D.own p = true → D.code p ≠ OK_STATUS ∧ D.code p ≠ GONE_STATUS) :
    D.walk false [] (earlier ++ c :: later) = (OK_STATUS, some c) ↔ ¬ D.Masked earlier c := by
  have hwalk : D.walk false [] (earlier ++ c :: later) =
      D.walk false (rememberAll D [] earlier) (c :: later) := by
    refine walk_append ?_ (List.cons_ne_nil _ _)
    intro pre p post heq
    cases hlookup : (rememberAll D [] pre).lookup p.keyHandle with
    | some code => simp [seen_of_some hlookup, goesOn, code.2]
    | none =>
        rw [seen_of_none hlookup]
        split
        · rename_i hp
          have hne := hearlier p (by simp [heq]) hp
          simp [goesOn, hne]
        · rfl
  rw [hwalk, masked_iff]
  cases hlookup : (rememberAll D [] earlier).lookup c.keyHandle with
  | none =>
      have hseen : D.seen (rememberAll D [] earlier) c = OK_STATUS := by
        rw [seen_of_none hlookup, if_pos hown, hcode]
      have hstop : goesOn false OK_STATUS = false := rfl
      rw [walk, hseen]
      simp [hstop]
  | some code =>
      simp only [Option.isSome_some, not_true_eq_false, iff_false]
      intro h
      have hnone := lookup_of_walk (c := c) (congrArg Prod.snd h)
      simp [hlookup] at hnone

/-- A signer that enrolls reports an invalid key handle, if it sees one at each challenge. -/
theorem walk_enroll_invalid (cache : Cache) (cs : List DecodedChallenge) :
    signErrorIndicatesInvalidKeyHandle (D.walk true cache cs).1 = true ↔
      ∀ earlier c later, cs = earlier ++ c :: later →
        ((rememberAll D cache earlier).lookup c.keyHandle).isSome = true ∨ D.rejects c = true := by
  induction cs generalizing cache with
  | nil => simp [walk, signErrorIndicatesInvalidKeyHandle]
  | cons c cs ih =>
      have hgoesOn : goesOn true (D.seen cache c) =
          signErrorIndicatesInvalidKeyHandle (D.seen cache c) := by simp [goesOn]
      rw [walk, hgoesOn]
      constructor
      · intro h pre p post heq
        split at h
        case isTrue hmore =>
          cases pre with
          | nil =>
              obtain ⟨rfl, rfl⟩ : c = p ∧ cs = post := by simpa using heq
              exact (invalid_seen cache c).1 hmore.1
          | cons q pre =>
              obtain ⟨rfl, rfl⟩ : c = q ∧ cs = pre ++ p :: post := by simpa using heq
              exact (ih _).1 h pre p post rfl
        case isFalse hmore =>
          -- the walk ends here with an error for an invalid key handle: this is the last challenge
          have hnil : cs = [] := by
            by_contra hne
            exact hmore ⟨h, hne⟩
          subst hnil
          obtain ⟨rfl, rfl, rfl⟩ : pre = [] ∧ c = p ∧ post = [] := by
            cases pre with
            | nil => simpa [eq_comm] using heq
            | cons => simp at heq
          exact (invalid_seen cache c).1 h
      · intro h
        have hseen := (invalid_seen (D := D) cache c).2 (h [] c cs rfl)
        split
        · refine (ih _).2 ?_
          intro pre p post heq
          exact h (c :: pre) p post (by rw [heq, List.cons_append])
        · exact hseen

/-- **A signer that enrolls** is right exactly if it does not pass over all the challenges that are
not rejected. -/
theorem walk_enroll_iff (cs : List DecodedChallenge) :
    (signErrorIndicatesInvalidKeyHandle (D.walk true [] cs).1 = true ↔
        ∀ c ∈ cs, D.rejects c = true) ↔
      ((∃ c ∈ cs, D.rejects c = false) →
        ∃ earlier c later, cs = earlier ++ c :: later ∧ D.rejects c = false ∧
          ¬ D.Masked earlier c) := by
  rw [walk_enroll_invalid]
  simp only [← masked_iff]
  constructor
  · rintro h ⟨c, hc, hrejects⟩
    by_contra hno
    refine absurd (h.1 ?_ c hc) (by simp [hrejects])
    intro earlier p later heq
    by_contra hp
    push Not at hp
    exact hno ⟨earlier, p, later, heq, by simpa using hp.2, hp.1⟩
  · intro h
    constructor
    · intro hall c hc
      by_contra hrejects
      obtain ⟨earlier, p, later, heq, hp, hmasked⟩ := h ⟨c, hc, by simpa using hrejects⟩
      rcases hall earlier p later heq with hm | hr
      · exact hmasked hm
      · simp [hp] at hr
    · intro hall earlier c later heq
      exact .inr (hall c (by simp [heq]))

end Walk

end GnubbyAnswers

/-! ### The run of a signer -/

namespace SingleGnubbySigner

section Run

variable {forEnroll : Bool} {cs : List DecodedChallenge} {D : GnubbyAnswers}
  {s t : SingleGnubbySigner}

/-- What stays as it is in a run until the signer completes. -/
structure Setting (forEnroll : Bool) (cs : List DecodedChallenge) (s : SingleGnubbySigner) :
    Prop where
  mode : s.forEnroll = forEnroll
  challenges : s.challenges = cs
  set : s.challengesSet = true
  timer : s.timerExpired = false
  completions : s.completions = []

/-- A signer that has not been told the version of its gnubby. -/
structure Before (forEnroll : Bool) (cs : List DecodedChallenge) (s : SingleGnubbySigner) :
    Prop extends Setting forEnroll cs s where
  index : s.challengeIndex = 0
  cache : s.cachedError = []
  state : s.state = .OPENING ∨ s.state = .BUSY
  awaiting : s.awaiting = .opening ∨
    (s.awaiting = .openDelay ∨ s.awaiting = .version ∨ s.awaiting = .versionSync) ∧
      s.gnubby.isSome = true

/-- A signer that is about to try the challenge of an index. -/
structure Trying (forEnroll : Bool) (cs : List DecodedChallenge) (D : GnubbyAnswers) (k : ℕ)
    (s : SingleGnubbySigner) : Prop extends Setting forEnroll cs s where
  gnubby : s.gnubby.isSome = true
  version : s.version = some (UTIL_BytesToString D.version)
  index : s.challengeIndex = k
  onWalk : D.walk forEnroll s.cachedError (cs.drop k) = D.walk forEnroll [] cs

/-- A signer that has asked its gnubby to sign a challenge. -/
structure Asking (forEnroll : Bool) (cs : List DecodedChallenge) (D : GnubbyAnswers) (k : ℕ)
    (s : SingleGnubbySigner) : Prop extends Trying forEnroll cs D k s where
  state : s.state = .SIGNING
  lt : k < cs.length
  seen : D.seen s.cachedError cs[k] = D.code cs[k]
  awaiting : s.awaiting = .sign k ∨ s.awaiting = .signDelay ∨ s.awaiting = .signSync

/-- A signer that has completed. -/
structure Done (forEnroll : Bool) (cs : List DecodedChallenge) (D : GnubbyAnswers)
    (s : SingleGnubbySigner) : Prop where
  completions : ∃ result, s.completions = [result] ∧
    (result.code, result.challenge) = D.walk forEnroll [] cs
  awaiting : s.awaiting = .nothing ∨ ∃ givesUp, s.awaiting = .completeCb givesUp

/-- The invariant of a run. -/
def OnItsWay (forEnroll : Bool) (cs : List DecodedChallenge) (D : GnubbyAnswers)
    (s : SingleGnubbySigner) : Prop :=
  Before forEnroll cs s ∨ (∃ k, Asking forEnroll cs D k s) ∨ Done forEnroll cs D s

/-- A bound on how many steps are left, if no transient answer comes. -/
def rank (s : SingleGnubbySigner) : ℕ :=
  match s.awaiting with
  | .nothing | .noChallenges => 0
  | .completeCb _ => 1
  | .sign _ => s.challenges.length - s.challengeIndex + 1
  | .signDelay | .signSync => s.challenges.length - s.challengeIndex + 2
  | .version => s.challenges.length + 2
  | .opening | .versionSync => s.challenges.length + 3
  | .openDelay => s.challenges.length + 4

/-- A signer that has asked its gnubby, or has completed, and has at most `n` steps left. -/
def Within (forEnroll : Bool) (cs : List DecodedChallenge) (D : GnubbyAnswers) (n : ℕ)
    (s : SingleGnubbySigner) : Prop :=
  ((∃ k, Asking forEnroll cs D k s) ∨ Done forEnroll cs D s) ∧ s.rank ≤ n

theorem close_completions (idle : Bool) (s : SingleGnubbySigner) :
    (s.close idle).completions = s.completions :=
  (completions_close idle s).1

theorem within_goToError {code : ℤ} {n : ℕ} (hn : 1 ≤ n) (h : s.completions = [])
    (hwalk : D.walk forEnroll [] cs = (code, none)) :
    Within forEnroll cs D n (s.goToError_ code) := by
  unfold goToError_
  dsimp only
  split
  · refine ⟨.inr ⟨⟨⟨code, s.gnubby, none, none⟩, ?_, hwalk.symm⟩, .inr ⟨false, rfl⟩⟩, hn⟩
    have hcompletions : (complete ⟨code, s.gnubby, none, none⟩ false
        { s with state := .COMPLETE }).completions = _ :: s.completions := rfl
    rw [hcompletions, h]
  · refine ⟨.inr ⟨⟨⟨code, none, none, none⟩, ?_, hwalk.symm⟩, .inr ⟨false, rfl⟩⟩, hn⟩
    have hclose := close_completions true { s with state := .COMPLETE }
    have hcompletions : (complete ⟨code, none, none, none⟩ false
        (SingleGnubbySigner.close true { s with state := .COMPLETE })).completions =
          _ :: (SingleGnubbySigner.close true { s with state := .COMPLETE }).completions := rfl
    rw [hcompletions, hclose]
    exact congrArg _ h

theorem within_goToSuccess {code : ℤ} {challenge : Option DecodedChallenge}
    {info : Option (List UInt8)} {n : ℕ} (hn : 1 ≤ n) (h : s.completions = [])
    (hwalk : D.walk forEnroll [] cs = (code, challenge)) :
    Within forEnroll cs D n (s.goToSuccess_ code challenge info) := by
  refine ⟨.inr ⟨⟨⟨code, s.gnubby, challenge, info⟩, ?_, hwalk.symm⟩, .inr ⟨true, rfl⟩⟩, hn⟩
  have hcompletions : (s.goToSuccess_ code challenge info).completions =
      ⟨code, s.gnubby, challenge, info⟩ :: s.completions := rfl
  rw [hcompletions, h]

/-- Caching an error is what the walk does. -/
theorem cacheError_eq_remember {k : ℕ} {c : DecodedChallenge} (hc : s.challenges[k]? = some c)
    (code : ℤ) :
    s.cacheError k code =
      { s with cachedError := GnubbyAnswers.remember s.cachedError c code } := by
  unfold cacheError GnubbyAnswers.remember
  split
  · rw [hc]
    dsimp only
    split
    · rfl
    · rfl
  · rfl

/-- **A code for the challenge that is tried** makes the signer complete, or try the next one. -/
theorem within_signCallback {k : ℕ} {c : DecodedChallenge} {code : ℤ}
    (info : Option (List UInt8)) (h : Trying forEnroll cs D k s) (hstate : s.state = .SIGNING)
    (hc : cs[k]? = some c) (hcode : D.seen s.cachedError c = code)
    (hfinal : isTransient code = false)
    (hnext : ∀ t, Trying forEnroll cs D (k + 1) t → k + 1 < cs.length →
      Within forEnroll cs D (cs.length - k) t.doSign_) :
    Within forEnroll cs D (cs.length - k) (s.signCallback_ doSign_ k code info) := by
  obtain ⟨hk, hget⟩ := List.getElem?_eq_some_iff.1 hc
  have hone : 1 ≤ cs.length - k := by omega
  have hdrop : cs.drop k = c :: cs.drop (k + 1) := by rw [List.drop_eq_getElem_cons hk, hget]
  have hlater : cs.drop (k + 1) ≠ [] ↔ k + 1 < cs.length := by
    rw [ne_eq, List.drop_eq_nil_iff]
    omega
  -- the signer with the code in its cache
  obtain ⟨u, hu⟩ : ∃ u, s.cacheError k code = u := ⟨_, rfl⟩
  have hremember := cacheError_eq_remember (k := k) (c := c) (by rw [h.challenges]; exact hc) code
  obtain ⟨hsetting, hgnubby, hversion, hindex, hcache⟩ : Setting forEnroll cs u ∧
      u.gnubby.isSome = true ∧ u.version = some (UTIL_BytesToString D.version) ∧
      u.challengeIndex = k ∧ u.cachedError = GnubbyAnswers.remember s.cachedError c code := by
    rw [← hu, hremember]
    exact ⟨⟨h.mode, h.challenges, h.set, h.timer, h.completions⟩, h.gnubby, h.version, h.index, rfl⟩
  have hnone : u.completions = [] := hsetting.completions
  -- what the walk says about this code
  have hwalk := h.onWalk
  simp only [hdrop, GnubbyAnswers.walk, hcode, hlater] at hwalk
  -- a code after which the signer goes on, if there is another challenge
  have hgoesOn : GnubbyAnswers.goesOn forEnroll code = true → ∀ last : SingleGnubbySigner → _,
      (¬ k + 1 < cs.length → Within forEnroll cs D (cs.length - k) (last u)) →
      Within forEnroll cs D (cs.length - k) (u.nextOr doSign_ last) := by
    intro hgoes last hlast
    have hcond : u.challengeIndex + 1 < u.challenges.length ↔ k + 1 < cs.length := by
      rw [hindex, hsetting.challenges]
    unfold nextOr
    split
    · rename_i hmore
      have hmore := hcond.1 hmore
      rw [if_pos ⟨hgoes, hmore⟩, ← hcache] at hwalk
      have htrying : Trying forEnroll cs D (k + 1) { u with challengeIndex := u.challengeIndex + 1 } :=
        ⟨⟨hsetting.mode, hsetting.challenges, hsetting.set, hsetting.timer, hnone⟩, hgnubby, hversion,
          congrArg (· + 1) hindex, hwalk⟩
      exact hnext _ htrying hmore
    · rename_i hmore
      exact hlast fun hmore' => hmore (hcond.2 hmore')
  simp only [isTransient, Bool.decide_or, Bool.or_eq_false_iff, decide_eq_false_iff_not] at hfinal
  obtain ⟨hbusy, htouch, htimeout⟩ := hfinal
  unfold signCallback_
  rw [if_neg (not_not.2 hstate), hu]
  dsimp only
  rw [if_neg htimeout, if_neg hbusy, if_neg htouch]
  by_cases hgone : code = GONE_STATUS
  · subst hgone
    rw [if_pos rfl]
    refine within_goToError hone hnone ?_
    rw [← hwalk]
    simp [GnubbyAnswers.goesOn, signErrorIndicatesInvalidKeyHandle, GONE_STATUS, OK_STATUS,
      WRONG_DATA_STATUS, WRONG_LENGTH_STATUS, INVALID_DATA_STATUS]
  rw [if_neg hgone]
  by_cases hok : code = OK_STATUS
  · subst hok
    rw [if_pos rfl]
    have hstop : GnubbyAnswers.goesOn forEnroll OK_STATUS = false := by
      cases forEnroll <;> rfl
    rw [hstop] at hwalk
    rw [hsetting.mode]
    cases forEnroll with
    | true =>
        refine within_goToError hone hnone ?_
        rw [← hwalk]
        simp
    | false =>
        refine within_goToSuccess hone hnone ?_
        rw [← hwalk, hsetting.challenges, hc]
        simp
  rw [if_neg hok]
  by_cases hinvalid : signErrorIndicatesInvalidKeyHandle code = true
  · rw [if_pos hinvalid, hsetting.mode]
    refine hgoesOn (by simp [GnubbyAnswers.goesOn, hinvalid]) _ ?_
    intro hmore
    rw [if_neg (by simp [hmore])] at hwalk
    have hresult : D.walk forEnroll [] cs = (code, none) := by
      rw [← hwalk]
      simp [hok]
    cases forEnroll with
    | true => exact within_goToSuccess hone hnone hresult
    | false => exact within_goToError hone hnone hresult
  · rw [if_neg hinvalid, hsetting.mode]
    cases forEnroll with
    | true =>
        refine within_goToError hone hnone ?_
        rw [← hwalk]
        simp [GnubbyAnswers.goesOn, hinvalid]
    | false =>
        refine hgoesOn (by simp [GnubbyAnswers.goesOn, hok, hgone]) _ ?_
        intro hmore
        rw [if_neg (by simp [hmore])] at hwalk
        refine within_goToError hone hnone ?_
        rw [← hwalk]
        simp [hok]

/-- **The loop asks the gnubby for the next challenge that it has no answer for**, or completes. -/
theorem within_doSign {k : ℕ} (h : Trying forEnroll cs D k s) (hk : k < cs.length ∨ cs = []) :
    Within forEnroll cs D (cs.length - k + 1) s.doSign_ := by
  obtain ⟨gnubby, hgnubby⟩ := Option.isSome_iff_exists.1 h.gnubby
  induction hn : cs.length - k generalizing k s gnubby with
  | zero =>
      obtain rfl : cs = [] := hk.resolve_left (by omega)
      have hwalk : D.walk forEnroll [] [] = (WRONG_DATA_STATUS, none) := rfl
      rw [doSign_eq, hgnubby]
      simp only [h.timer, h.set, h.challenges, Bool.false_eq_true, if_false, Bool.not_true,
        List.getElem?_nil]
      rw [signCallback_of_invalid rfl (by decide)]
      have hnone : s.signing.challenges[s.challengeIndex]? = none := by simp [signing, h.challenges]
      have hcache : s.signing.cacheError s.challengeIndex WRONG_DATA_STATUS = s.signing := by
        simp [cacheError, hnone]
      rw [hcache, nextOr, if_neg (by simp [signing, h.challenges])]
      split
      · exact within_goToSuccess (Nat.le_refl 1) h.completions hwalk
      · exact within_goToError (Nat.le_refl 1) h.completions hwalk
  | succ n ih =>
      have hlt : k < cs.length := by omega
      have hget : cs[k]? = some cs[k] := List.getElem?_eq_getElem hlt
      -- the signer at its next challenge
      have hnext : ∀ t, Trying forEnroll cs D (k + 1) t → k + 1 < cs.length →
          Within forEnroll cs D (cs.length - k) t.doSign_ := by
        intro t ht hmore
        obtain ⟨g, hg⟩ := Option.isSome_iff_exists.1 ht.gnubby
        have hwithin := ih ht (.inl hmore) g hg (by omega)
        exact ⟨hwithin.1, by have := hwithin.2; omega⟩
      have hsigning : Trying forEnroll cs D k s.signing :=
        ⟨⟨h.mode, h.challenges, h.set, h.timer, h.completions⟩, h.gnubby, h.version, h.index,
          h.onWalk⟩
      have hcall : ∀ code, D.seen s.cachedError cs[k] = code →
          signErrorIndicatesInvalidKeyHandle code = true →
          Within forEnroll cs D (n + 1 + 1) (s.signing.signCallback_ doSign_ k code none) := by
        intro code hseen hinvalid
        have hfinal : isTransient code = false := by
          have hcodes : code = WRONG_DATA_STATUS ∨ code = WRONG_LENGTH_STATUS ∨
              code = INVALID_DATA_STATUS := by
            simpa [signErrorIndicatesInvalidKeyHandle] using hinvalid
          rcases hcodes with rfl | rfl | rfl <;> rfl
        have hwithin := within_signCallback none hsigning rfl hget hseen hfinal hnext
        exact ⟨hwithin.1, by have := hwithin.2; omega⟩
      rw [doSign_eq, hgnubby]
      simp only [h.timer, h.set, h.challenges, h.index, Bool.false_eq_true, if_false, Bool.not_true,
        hget]
      split
      · rename_i cached hcached
        refine hcall _ ?_ cached.2
        simp [GnubbyAnswers.seen, hcached]
      · rename_i hcached
        split
        · rename_i hversion
          refine hcall _ ?_ (by decide)
          have hown : D.own cs[k] = false := by
            rw [h.version] at hversion
            exact decide_eq_false (not_not.2 hversion)
          simp [GnubbyAnswers.seen, hcached, hown]
        · rename_i hversion
          have hown : D.own cs[k] = true := by
            rw [h.version] at hversion
            exact decide_eq_true hversion
          refine ⟨.inl ⟨k, ⟨⟨⟨h.mode, h.challenges, h.set, h.timer, ?_⟩, h.gnubby, h.version, h.index,
            h.onWalk⟩, rfl, hlt, ?_, .inl rfl⟩⟩, ?_⟩
          · exact h.completions
          · show D.seen s.cachedError cs[k] = D.code cs[k]
            simp [GnubbyAnswers.seen, hcached, hown]
          · show s.challenges.length - s.challengeIndex + 1 ≤ _
            rw [h.challenges, h.index]
            omega

/-! ### The steps of a run -/

theorem Done.step (h : Done forEnroll cs D s) {e : Event} (he : D.Gives s e) :
    Done forEnroll cs D (s.handle e) ∧ (s.handle e).rank + 1 ≤ s.rank := by
  have hcompleteCb : ∃ givesUp, s.awaiting = .completeCb givesUp ∧ e = .returned := by
    rcases h.awaiting with hawaiting | ⟨givesUp, hawaiting⟩
    · cases e <;> simp [GnubbyAnswers.Gives, hawaiting] at he
    · cases e <;> simp [GnubbyAnswers.Gives, hawaiting] at he
      exact ⟨givesUp, hawaiting, rfl⟩
  obtain ⟨givesUp, hawaiting, rfl⟩ := hcompleteCb
  simp only [handle, hawaiting, rank]
  split
  · exact ⟨⟨h.completions, .inl rfl⟩, Nat.le_refl 1⟩
  · exact ⟨⟨h.completions, .inl rfl⟩, Nat.le_refl 1⟩

/-- A step before the version is known: the signer asks on, or tries its first challenge. -/
theorem Before.step (h : Before forEnroll cs s) {e : Event} (he : D.Gives s e) :
    OnItsWay forEnroll cs D (s.handle e) ∧
      (s.handle e).rank + 1 ≤ s.rank + 2 * if e.transient then 1 else 0 := by
  rcases h.awaiting with hawaiting | ⟨hawaiting, hgnubby⟩
  · -- the factory calls back with a gnubby
    cases e with
    | opened rc =>
        obtain ⟨-, hrc⟩ := he
        have hstate : ¬ (s.handOver.state ≠ .OPENING ∧ s.handOver.state ≠ .BUSY) := by
          have hstate := h.state
          rw [show s.handOver.state = s.state from rfl]
          grind
        simp only [handle, hawaiting, openCallback_, if_neg hstate]
        rcases hrc with rfl | rfl
        · rw [if_pos rfl]
          simp only [askVersion, did, handOver, called]
          refine ⟨.inl ⟨⟨h.mode, h.challenges, h.set, h.timer, h.completions⟩, h.index, h.cache,
            h.state, .inr ⟨.inr (.inl rfl), rfl⟩⟩, ?_⟩
          simp [rank, hawaiting, Event.transient, OK_STATUS, BUSY_STATUS]
        · have htimer : s.handOver.timerExpired = false := h.timer
          simp only [BUSY_STATUS, OK_STATUS, Int.reduceNeg, Int.reduceEq, if_false, if_true, htimer,
            Bool.false_eq_true]
          refine ⟨.inl ⟨⟨h.mode, h.challenges, h.set, rfl, h.completions⟩, h.index, h.cache,
            .inr rfl, .inr ⟨.inl rfl, rfl⟩⟩, ?_⟩
          simp [rank, hawaiting, handOver, did, called, Event.transient, BUSY_STATUS]
    | _ => simp [GnubbyAnswers.Gives, hawaiting] at he
  · obtain ⟨gnubby, hsome⟩ := Option.isSome_iff_exists.1 hgnubby
    rcases hawaiting with hawaiting | hawaiting | hawaiting
    · cases e with
      | openDelayOver =>
          simp only [handle, hawaiting, hgnubby, if_true]
          refine ⟨.inl ⟨⟨h.mode, h.challenges, h.set, h.timer, h.completions⟩, h.index, h.cache,
            h.state, .inl rfl⟩, ?_⟩
          simp [rank, hawaiting]
      | _ => simp [GnubbyAnswers.Gives, hawaiting] at he
    · cases e with
      | versioned rc data =>
          obtain ⟨-, hrc⟩ := he
          have hreplied : s.replied = s.called := by
            have hstate : s.state ≠ .CLOSING := by rcases h.state with hs | hs <;> simp [hs]
            rw [replied, if_neg hstate]
          simp only [handle, hawaiting, hreplied, versionCallback_]
          rcases hrc with ⟨rfl, rfl⟩ | rfl
          · -- the version is known
            simp only [OK_STATUS, BUSY_STATUS, Int.reduceNeg, Int.reduceEq, if_false, ne_eq,
              not_true_eq_false]
            have htrying : Trying forEnroll cs D 0 { s.called with
                state := .IDLE, version := some (UTIL_BytesToString D.version) } :=
              ⟨⟨h.mode, h.challenges, h.set, h.timer, h.completions⟩, hgnubby, rfl, h.index, by
                show D.walk forEnroll s.cachedError _ = _
                rw [h.cache, List.drop_zero]⟩
            have hstart : 0 < cs.length ∨ cs = [] := by
              cases cs with
              | nil => exact .inr rfl
              | cons => exact .inl (by simp)
            obtain ⟨houtcome, hrank⟩ := within_doSign htrying hstart
            refine ⟨.inr houtcome, ?_⟩
            simp only [rank, hawaiting, h.challenges]
            have hrank' : rank (doSign_ { s.called with
              state := .IDLE, version := some (UTIL_BytesToString D.version) }) ≤
                cs.length - 0 + 1 := hrank
            simp only [rank] at hrank'
            simp only [Option.getD_some]
            omega
          · have htimer : s.called.timerExpired = false := h.timer
            have hcalled : s.called.gnubby = some gnubby := hsome
            simp only [htimer, if_true, Bool.false_eq_true, if_false, askSync, hcalled]
            refine ⟨.inl ⟨⟨h.mode, h.challenges, h.set, h.timer, h.completions⟩, h.index, h.cache,
              h.state, .inr ⟨.inr (.inr rfl), hgnubby⟩⟩, ?_⟩
            simp [rank, hawaiting, did, called, Event.transient]
      | _ => simp [GnubbyAnswers.Gives, hawaiting] at he
    · cases e with
      | synced code =>
          obtain ⟨-, rfl⟩ := he
          have hcalled : s.called.gnubby = some gnubby := hsome
          simp only [handle, hawaiting, versionSynced, ne_eq, not_true_eq_false, if_false, askVersion,
            hcalled]
          refine ⟨.inl ⟨⟨h.mode, h.challenges, h.set, h.timer, h.completions⟩, h.index, h.cache,
            h.state, .inr ⟨.inr (.inl rfl), hgnubby⟩⟩, ?_⟩
          simp [rank, hawaiting, did, called]
      | _ => simp [GnubbyAnswers.Gives, hawaiting] at he

/-- After a final code the signer completes, or tries the challenges that are left. -/
theorem within_final {k : ℕ} {c : DecodedChallenge} (info : Option (List UInt8))
    (h : Trying forEnroll cs D k s) (hstate : s.state = .SIGNING) (hc : cs[k]? = some c)
    (hseen : D.seen s.cachedError c = D.code c) :
    Within forEnroll cs D (cs.length - k) (s.signCallback_ doSign_ k (D.code c) info) := by
  refine within_signCallback info h hstate hc hseen (D.final _ _ _) ?_
  intro t ht hmore
  obtain ⟨houtcome, hrank⟩ := within_doSign ht (.inl hmore)
  exact ⟨houtcome, by omega⟩

/-- After a transient code the signer asks its gnubby once more, at once, after a delay or after a
sync. -/
theorem within_transient {k : ℕ} {code : ℤ} (info : Option (List UInt8))
    (h : Asking forEnroll cs D k s) (hcode : isTransient code = true) :
    Within forEnroll cs D (cs.length - k + 2) (s.called.signCallback_ doSign_ k code info) := by
  obtain ⟨gnubby, hgnubby⟩ := Option.isSome_iff_exists.1 h.gnubby
  have htrying : Trying forEnroll cs D k s.called :=
    ⟨⟨h.mode, h.challenges, h.set, h.timer, h.completions⟩, h.gnubby, h.version, h.index, h.onWalk⟩
  have hrank : s.challenges.length - s.challengeIndex = cs.length - k := by
    rw [h.challenges, h.index]
  have hcodes : code = BUSY_STATUS ∨ code = WAIT_TOUCH_STATUS ∨ code = TIMEOUT_STATUS := by
    simpa [isTransient] using hcode
  have hcache : s.called.cacheError k code = s.called := by
    rcases hcodes with rfl | rfl | rfl <;> rfl
  have hstate : s.called.state = .SIGNING := h.state
  unfold signCallback_
  rw [if_neg (not_not.2 hstate), hcache]
  dsimp only
  rcases hcodes with rfl | rfl | rfl
  case inl =>
    rw [if_neg (by decide), if_neg (by decide), if_pos rfl]
    obtain ⟨houtcome, hbound⟩ := within_doSign htrying (.inl h.lt)
    exact ⟨houtcome, by omega⟩
  case inr.inl =>
    rw [if_neg (by decide), if_neg (by decide), if_neg (by decide), if_neg (by decide), if_pos rfl]
    refine ⟨.inl ⟨k, ⟨⟨⟨h.mode, h.challenges, h.set, h.timer, h.completions⟩, h.gnubby, h.version,
      h.index, h.onWalk⟩, h.state, h.lt, h.seen, .inr (.inl rfl)⟩⟩, ?_⟩
    show s.challenges.length - s.challengeIndex + 2 ≤ _
    omega
  case inr.inr =>
    have hcalled : s.called.gnubby = some gnubby := hgnubby
    rw [if_neg (by decide), if_pos rfl, askSync, hcalled]
    refine ⟨.inl ⟨k, ⟨⟨⟨h.mode, h.challenges, h.set, h.timer, h.completions⟩, h.gnubby, h.version,
      h.index, h.onWalk⟩, h.state, h.lt, h.seen, .inr (.inr rfl)⟩⟩, ?_⟩
    show s.challenges.length - s.challengeIndex + 2 ≤ _
    omega

/-- A step of a signer that has asked its gnubby to sign a challenge. -/
theorem Asking.step {k : ℕ} (h : Asking forEnroll cs D k s) {e : Event} (he : D.Gives s e) :
    OnItsWay forEnroll cs D (s.handle e) ∧
      (s.handle e).rank + 1 ≤ s.rank + 2 * if e.transient then 1 else 0 := by
  have htrying : Trying forEnroll cs D k s.called :=
    ⟨⟨h.mode, h.challenges, h.set, h.timer, h.completions⟩, h.gnubby, h.version, h.index, h.onWalk⟩
  have hrank : s.challenges.length - s.challengeIndex = cs.length - k := by
    rw [h.challenges, h.index]
  rcases h.awaiting with hawaiting | hawaiting | hawaiting
  · cases e with
    | signed code info =>
        obtain ⟨k', hk', hcode⟩ := he
        obtain rfl : k = k' := by simpa [hawaiting] using hk'
        have hreplied : s.replied = s.called := by
          rw [replied, if_neg (by simp [h.state])]
        simp only [handle, hawaiting, hreplied]
        rcases hcode with ⟨c, hc, rfl⟩ | htransient
        · rw [h.challenges] at hc
          obtain ⟨hlt, hget⟩ := List.getElem?_eq_some_iff.1 hc
          have hseen := h.seen
          rw [hget] at hseen
          obtain ⟨houtcome, hbound⟩ := within_final info htrying h.state hc hseen
          refine ⟨.inr houtcome, ?_⟩
          have hs : s.rank = s.challenges.length - s.challengeIndex + 1 := by
            simp [rank, hawaiting]
          omega
        · obtain ⟨houtcome, hbound⟩ := within_transient info h htransient
          refine ⟨.inr houtcome, ?_⟩
          have hs : s.rank = s.challenges.length - s.challengeIndex + 1 := by
            simp [rank, hawaiting]
          have he : Event.transient (.signed code info) = true := htransient
          rw [if_pos he]
          omega
    | _ => simp [GnubbyAnswers.Gives, hawaiting] at he
  · cases e with
    | signDelayOver =>
        simp only [handle, hawaiting]
        obtain ⟨houtcome, hbound⟩ := within_doSign htrying (.inl h.lt)
        refine ⟨.inr houtcome, ?_⟩
        have hs : s.rank = s.challenges.length - s.challengeIndex + 2 := by simp [rank, hawaiting]
        omega
    | _ => simp [GnubbyAnswers.Gives, hawaiting] at he
  · cases e with
    | synced code =>
        obtain ⟨-, rfl⟩ := he
        simp only [handle, hawaiting, synced_, ne_eq, not_true_eq_false, if_false]
        obtain ⟨houtcome, hbound⟩ := within_doSign htrying (.inl h.lt)
        refine ⟨.inr houtcome, ?_⟩
        have hs : s.rank = s.challenges.length - s.challengeIndex + 2 := by simp [rank, hawaiting]
        omega
    | _ => simp [GnubbyAnswers.Gives, hawaiting] at he

/-- **A step comes nearer to the outcome of the walk**, unless the answer is transient. -/
theorem inv_handle_gives (h : OnItsWay forEnroll cs D s) {e : Event} (he : D.Gives s e) :
    OnItsWay forEnroll cs D (s.handle e) ∧
      (s.handle e).rank + 1 ≤ s.rank + 2 * if e.transient then 1 else 0 := by
  rcases h with hbefore | ⟨k, hasking⟩ | hdone
  · exact hbefore.step he
  · exact hasking.step he
  · obtain ⟨hdone, hrank⟩ := hdone.step he
    exact ⟨.inr (.inr hdone), by omega⟩

/-- A run comes nearer to its end with each step, unless the answer is transient. -/
theorem onItsWay_exec (h : OnItsWay forEnroll cs D s) (es : List Event)
    (hes : machine.AllSteps D.Gives s es) :
    OnItsWay forEnroll cs D (machine.exec s es) ∧
      (machine.exec s es).rank + es.length ≤ s.rank + 2 * es.countP Event.transient := by
  induction es generalizing s with
  | nil => exact ⟨h, Nat.le_refl _⟩
  | cons e es ih =>
      obtain ⟨he, hes⟩ := hes
      obtain ⟨hway, hrank⟩ := inv_handle_gives h he
      obtain ⟨hway, hrank'⟩ := ih hway hes
      refine ⟨hway, ?_⟩
      rw [Machine.exec_cons, List.length_cons, List.countP_cons]
      have hstep : machine.next s e = s.handle e := rfl
      rw [hstep]
      omega

/-- A signer that is on its way waits for a callback that a patient gnubby can give at once. -/
theorem exists_gives (h : OnItsWay forEnroll cs D s) (hnothing : s.awaiting ≠ .nothing) :
    ∃ e, D.Gives s e ∧ e.transient = false := by
  rcases h with h | ⟨k, h⟩ | h
  · rcases h.awaiting with hawaiting | ⟨hawaiting | hawaiting | hawaiting, -⟩
    · exact ⟨.opened OK_STATUS, ⟨hawaiting, .inl rfl⟩, rfl⟩
    · exact ⟨.openDelayOver, hawaiting, rfl⟩
    · exact ⟨.versioned OK_STATUS (some D.version), ⟨hawaiting, .inl ⟨rfl, rfl⟩⟩, rfl⟩
    · exact ⟨.synced OK_STATUS, ⟨.inl hawaiting, rfl⟩, rfl⟩
  · rcases h.awaiting with hawaiting | hawaiting | hawaiting
    · have hlt : k < cs.length := h.lt
      have hget : s.challenges[k]? = some cs[k] := by
        rw [h.challenges]
        exact List.getElem?_eq_getElem hlt
      exact ⟨.signed (D.code cs[k]) none, ⟨k, hawaiting, .inl ⟨cs[k], hget, rfl⟩⟩, D.final _ _ _⟩
    · exact ⟨.signDelayOver, hawaiting, rfl⟩
    · exact ⟨.synced OK_STATUS, ⟨.inr hawaiting, rfl⟩, rfl⟩
  · rcases h.awaiting with hawaiting | hawaiting
    · exact absurd hawaiting hnothing
    · exact ⟨.returned, hawaiting, rfl⟩

/-- A signer for which nothing is left to do has completed. -/
theorem OnItsWay.done (h : OnItsWay forEnroll cs D s) (hstuck : ∀ e, ¬ D.Gives s e) :
    Done forEnroll cs D s := by
  rcases h with h | ⟨k, h⟩ | h
  · have hnothing : s.awaiting ≠ .nothing := by
      rcases h.awaiting with ha | ⟨ha | ha | ha, -⟩ <;> simp [ha]
    obtain ⟨e, he, -⟩ := exists_gives (.inl h) hnothing
    exact absurd he (hstuck e)
  · have hnothing : s.awaiting ≠ .nothing := by
      rcases h.awaiting with ha | ha | ha <;> simp [ha]
    obtain ⟨e, he, -⟩ := exists_gives (.inr (.inl ⟨k, h⟩)) hnothing
    exact absurd he (hstuck e)
  · exact h

/-- A patient gnubby brings a signer to its end. -/
theorem exists_run (h : OnItsWay forEnroll cs D s) :
    ∃ es, machine.AllSteps D.Gives s es ∧ Done forEnroll cs D (machine.exec s es) := by
  induction hn : s.rank using Nat.strong_induction_on generalizing s with
  | _ n ih =>
      by_cases hnothing : s.awaiting = .nothing
      · refine ⟨[], trivial, h.done ?_⟩
        intro e he
        cases e <;> simp [GnubbyAnswers.Gives, hnothing] at he
      · obtain ⟨e, he, htransient⟩ := exists_gives h hnothing
        obtain ⟨hway, hrank⟩ := inv_handle_gives h he
        rw [htransient] at hrank
        obtain ⟨es, hes, hdone⟩ := ih _ (by simp only [Bool.false_eq_true, if_false] at hrank; omega)
          hway rfl
        exact ⟨e :: es, ⟨he, hes⟩, hdone⟩

theorem before_start (forEnroll : Bool) (cs : List DecodedChallenge) :
    Before forEnroll cs (start forEnroll cs) :=
  ⟨⟨rfl, rfl, rfl, rfl, rfl⟩, rfl, rfl, .inl rfl, .inl rfl⟩

/-- The outcome of the walk is right exactly if no challenge that matters is masked. -/
theorem rightResult_iff {result : SingleSignerResult}
    (hresult : (result.code, result.challenge) = D.walk forEnroll [] cs) :
    RightResult forEnroll cs D result ↔ D.NothingMasked forEnroll cs := by
  constructor
  · intro h
    refine ⟨?_, ?_⟩
    · rintro rfl earlier c later rfl hown hcode hearlier
      obtain ⟨hok, hchallenge⟩ := h.sign rfl earlier c later rfl hown hcode hearlier
      refine (GnubbyAnswers.walk_sign_iff later hown hcode hearlier).1 ?_
      rw [← hresult, hok, hchallenge]
    · rintro rfl
      refine (GnubbyAnswers.walk_enroll_iff cs).1 ?_
      rw [← hresult]
      simpa [GnubbyAnswers.rejects, or_iff_not_imp_left] using h.enroll rfl
  · intro h
    refine ⟨?_, ?_⟩
    · rintro rfl earlier c later rfl hown hcode hearlier
      have hmasked := h.sign rfl earlier c later rfl hown hcode hearlier
      rw [(GnubbyAnswers.walk_sign_iff later hown hcode hearlier).2 hmasked] at hresult
      exact Prod.mk.inj hresult
    · rintro rfl
      have hiff := (GnubbyAnswers.walk_enroll_iff cs).2 (h.enroll rfl)
      rw [← hresult] at hiff
      simpa [GnubbyAnswers.rejects, or_iff_not_imp_left] using hiff

/-- **A signer finds the right outcome exactly if no challenge that matters is masked**, whatever
the order of the answers of its gnubby. -/
theorem findsRightOutcome_iff (forEnroll : Bool) (cs : List DecodedChallenge) (D : GnubbyAnswers) :
    (∀ es, machine.AllSteps D.Gives (start forEnroll cs) es → FindsRightOutcome forEnroll cs D es) ↔
      D.NothingMasked forEnroll cs := by
  have hstart : OnItsWay forEnroll cs D (start forEnroll cs) := .inl (before_start forEnroll cs)
  constructor
  · intro h
    obtain ⟨es, hes, hdone⟩ := exists_run hstart
    obtain ⟨result, hcompletions, hresult⟩ := hdone.completions
    exact (rightResult_iff hresult).1 ((h es hes).right result (by simp [hcompletions]))
  · intro h es hes
    obtain ⟨hway, hrank⟩ := onItsWay_exec hstart es hes
    refine ⟨?_, ?_, ?_, ?_⟩
    · have hrank' : (start forEnroll cs).rank = cs.length + 3 := rfl
      omega
    · exact completes_at_most_once forEnroll (.doSign cs :: es)
    · intro hstuck
      obtain ⟨result, hcompletions, -⟩ := (hway.done hstuck).completions
      simp [hcompletions]
    · intro result hmem
      rcases hway with hbefore | ⟨k, hasking⟩ | hdone
      · simp [hbefore.completions] at hmem
      · simp [hasking.completions] at hmem
      · obtain ⟨result', hcompletions, hresult⟩ := hdone.completions
        obtain rfl : result = result' := by simpa [hcompletions] using hmem
        exact (rightResult_iff hresult).2 h

end Run

/-- Two challenges with one key handle, for two app ids; the gnubby knows the key handle for the
second one. -/
def twoAppIds : List DecodedChallenge := [⟨[], [1], [7], none⟩, ⟨[], [2], [7], none⟩]

/-- A gnubby that knows each key handle for the second app id. -/
def secondAppIdOnly : GnubbyAnswers where
  version := []
  answer _ appIdHash _ := if appIdHash = [2] then OK_STATUS else WRONG_DATA_STATUS
  final _ appIdHash _ := by
    split
    · rfl
    · rfl

/-- The signer never asks its gnubby to sign the second challenge, and reports wrong data. -/
theorem not_findsRightOutcome_twoAppIds :
    ∃ es, machine.AllSteps secondAppIdOnly.Gives (start false twoAppIds) es ∧
      ¬ FindsRightOutcome false twoAppIds secondAppIdOnly es := by
  refine ⟨[.opened OK_STATUS, .versioned OK_STATUS (some []), .signed WRONG_DATA_STATUS none], ?_, ?_⟩
  · exact ⟨⟨rfl, .inl rfl⟩, ⟨rfl, .inl ⟨rfl, rfl⟩⟩, ⟨0, rfl, .inl ⟨_, rfl, rfl⟩⟩, trivial⟩
  · intro h
    have hresult := (h.right ⟨WRONG_DATA_STATUS, some 0, none, none⟩ (by decide)).sign rfl
      [⟨[], [1], [7], none⟩] ⟨[], [2], [7], none⟩ [] rfl (by decide) (by decide) (by decide)
    exact absurd hresult.1 (by decide)

end SingleGnubbySigner

end U2F
