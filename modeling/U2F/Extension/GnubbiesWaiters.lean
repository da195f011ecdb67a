/-
**Everyone who waits for a device is told once.**

The calls of `addClient` draw tickets that wait in the lists of `pendingOpens_`, one list a device, and
the calls of `enumerate` draw tickets that wait in `pendingEnumerate`.  A list of openers is there exactly
as long as its device is being opened or a loop drains it.  A list of those who wait for an enumeration
is drained when the round that was begun for the first of them is over, and a round is over when every
enumerator has called back.

Main definitions:

* `Gnubbies.Quiescent` — no open and no enumeration is outstanding;
* `Gnubbies.asked`, `Gnubbies.enumerations` — the calls of a run, as its events make them;
* `Gnubbies.ToldOnce` — every callback is called once;
* `Waiters.Kept` — what holds at every point of a run;
* `Waiters.Agrees` — the calls that wait or have been told are those of the run.

Main results:

* `Gnubbies.kept_next`, `Gnubbies.agrees_next` — what a step keeps;
* `Gnubbies.told_once` — **every client that waits for a device is told once**, and so is everyone who
  waits for an enumeration.
-/

import U2F.Extension.Gnubbies
import U2F.Lib.Tickets

set_option relaxedAutoImplicit false
set_option autoImplicit false

namespace U2F

open GnubbyDevice

/-- A client that is told `OK` is registered with a device that is not closing. -/
def ToldClient.Fine (t : ToldClient) : Prop :=
  t.rc = -(OK : ℤ) → t.device.isSome = true ∧ t.closing = false ∧ t.registered = true

/-- The callback is called without a device. -/
def ToldClient.refused (o : Opener) (rc : ℤ) : ToldClient :=
  { call := o.call, who := o.who, rc := rc, device := none, closing := false, registered := false }

theorem ToldClient.refused_fine (o : Opener) {rc : ℤ} (h : rc ≠ 0) : (refused o rc).Fine :=
  fun hok => absurd hok h

namespace Gnubbies

/-- No code runs, and no open and no enumeration is outstanding. -/
structure Quiescent (s : Gnubbies) : Prop where
  loops : s.loops = []
  opens : s.opens = []
  rounds : ∀ round, (s.rounds round).awaited = []

/-- The client for which an event calls `addClient`. -/
def Event.asks (namespaces : List JSString) : Event → Option ℕ
  | .addClient which who => if which.nameSpace ∈ namespaces then some who else none
  | _ => none

/-- The clients of the calls of `addClient` in a run, in order. -/
def asked (namespaces : List JSString) (es : List Event) : List ℕ :=
  es.filterMap (Event.asks namespaces)

def Event.isEnumerate : Event → Bool
  | .enumerate => true
  | _ => false

/-- How many calls of `enumerate` are in a run. -/
def enumerations (es : List Event) : ℕ := es.countP Event.isEnumerate

/-- **Every callback is called at most once**, and has been called when nothing is outstanding: of the
calls of `addClient` for these clients, and of so many calls of `enumerate`. -/
structure ToldOnce (asked : List ℕ) (enumerations : ℕ) (s : Gnubbies) : Prop where
  addClient : (s.told.map ToldClient.call).Nodup
  /-- The callback of a call is called for its client. -/
  whose : ∀ t ∈ s.told, asked[t.call]? = some t.who
  added : s.Quiescent → ∀ call < asked.length, call ∈ s.told.map ToldClient.call
  fine : ∀ t ∈ s.told, t.Fine
  enumerate : s.answered.Nodup
  enumerating : ∀ cb ∈ s.answered, cb < enumerations
  enumerated : s.Quiescent → ∀ cb < enumerations, cb ∈ s.answered

end Gnubbies

namespace DrainLoop

/-- The loop drains the list of those who wait for the device. -/
def drains (id : GnubbyDeviceId) : DrainLoop → Bool
  | .opened which _ => which = id
  | .notifyOpenResult which _ => which = id
  | _ => false

/-- How many enumerators of the round the loop has still to call. -/
def left (round : ℕ) : DrainLoop → ℕ
  | .enumerators r left => if r = round then left.length else 0
  | _ => 0

end DrainLoop

namespace Waiters

/-- The calls of `addClient` that wait for the device. -/
def queue (w : Waiters) (id : GnubbyDeviceId) : List ℕ :=
  ((w.pendingOpens_ id).getD []).map Opener.call

/-- How many enumerators of the round have still to be called. -/
def left (w : Waiters) (round : ℕ) : ℕ := (w.loops.map (DrainLoop.left round)).sum

/-- What holds at every point of a run. -/
structure Kept (w : Waiters) : Prop where
  added : Tickets.Accounted w.adds (w.told.map ToldClient.call) w.queue
  fine : ∀ t ∈ w.told, t.Fine
  enumerated : Tickets.Accounted w.enumerates w.answered fun _ : Unit => w.pendingEnumerate
  /-- A list of openers is there as long as the device is being opened or the list is drained. -/
  opening : ∀ id, w.opens.count id + w.loops.countP (DrainLoop.drains id) =
    if (w.pendingOpens_ id).isSome then 1 else 0
  failed : ∀ id rc, .notifyOpenResult id rc ∈ w.loops → rc ≠ 0
  rounds : ∀ round < w.begun, (w.rounds round).namespacesEnumerated +
    (w.rounds round).awaited.length + w.left round = w.namespaces_.length
  fresh : ∀ round, w.begun ≤ round → (w.rounds round).awaited = [] ∧ w.left round = 0
  /-- Who waits for an enumeration is being called, or waits for a round that is not over. -/
  going : w.pendingEnumerate ≠ [] → (∃ ids, .enumerated ids ∈ w.loops) ∨
    ∃ round < w.begun, (w.rounds round).namespacesEnumerated < w.namespaces_.length

/-- The calls that wait or have been told are those that have been made. -/
structure Agrees (namespaces : List JSString) (asked : List ℕ) (enumerations : ℕ) (w : Waiters) :
    Prop where
  namespaces : w.namespaces_ = namespaces
  adds : w.adds = asked.length
  enumerates : w.enumerates = enumerations
  waiting : ∀ id, ∀ o ∈ (w.pendingOpens_ id).getD [], asked[o.call]? = some o.who
  told : ∀ t ∈ w.told, asked[t.call]? = some t.who

theorem Kept.toldOnce {s : Gnubbies} (h : s.toWaiters.Kept) {namespaces : List JSString}
    {asked : List ℕ} {enumerations : ℕ}
    (hagrees : s.toWaiters.Agrees namespaces asked enumerations) : s.ToldOnce asked enumerations := by
  have henumerating : ∀ cb ∈ s.answered, cb < enumerations := by
    intro cb hcb
    rw [← hagrees.enumerates]
    exact (h.enumerated.all cb).2 (.inl hcb)
  refine ⟨h.added.once, hagrees.told, fun hquiet call hcall => ?_, h.fine, h.enumerated.once,
    henumerating, fun hquiet cb hcb => ?_⟩
  · rw [← hagrees.adds] at hcall
    -- no list of openers is left
    refine h.added.mem_of_empty (fun id => ?_) hcall
    have hopening := h.opening id
    rw [hquiet.opens, hquiet.loops] at hopening
    cases hpending : s.pendingOpens_ id with
    | none => rw [queue, hpending]; rfl
    | some openers => simp [hpending] at hopening
  · rw [← hagrees.enumerates] at hcb
    -- every round is over
    refine h.enumerated.mem_of_empty (fun _ => ?_) hcb
    by_contra hne
    rcases h.going hne with ⟨ids, hids⟩ | ⟨round, hround, hlt⟩
    · rw [hquiet.loops] at hids
      cases hids
    · have hsum := h.rounds round hround
      rw [hquiet.rounds round, left, hquiet.loops] at hsum
      simp only [List.length_nil, List.map_nil, List.sum_nil] at hsum
      omega

/-! ### The lists of openers -/

variable {w : Waiters}

theorem queue_update (w : Waiters) (id : GnubbyDeviceId) (openers : Option (List Opener)) :
    { w with pendingOpens_ := Function.update w.pendingOpens_ id openers }.queue =
      Function.update w.queue id ((openers.getD []).map Opener.call) := by
  funext id'
  by_cases h : id' = id
  · subst h
    simp [queue]
  · simp [queue, h]

/-- A new call is told at once. -/
theorem Kept.tell (h : w.Kept) {t : ToldClient} (hcall : t.call = w.adds) (hfine : t.Fine) :
    { w with adds := w.adds + 1, told := w.told ++ [t] }.Kept := by
  refine ⟨?_, fun u hu => ?_, h.enumerated, h.opening, h.failed, h.rounds, h.fresh, h.going⟩
  · have hadded := h.added.answer
    have hmap : (w.told ++ [t]).map ToldClient.call = w.told.map ToldClient.call ++ [w.adds] := by
      simp [hcall]
    rw [← hmap] at hadded
    exact hadded
  · rcases List.mem_append.1 hu with hu | hu
    · exact h.fine u hu
    · rw [List.mem_singleton.1 hu]
      exact hfine

/-- A new call waits in a list that is there. -/
theorem Kept.wait (h : w.Kept) {id : GnubbyDeviceId} {openers : List Opener}
    (hpending : w.pendingOpens_ id = some openers) (who : ℕ) :
    { w with
      adds := w.adds + 1
      pendingOpens_ :=
        Function.update w.pendingOpens_ id (some (openers ++ [(⟨who, w.adds⟩ : Opener)])) }.Kept := by
  refine ⟨?_, h.fine, h.enumerated, fun id' => ?_, h.failed, h.rounds, h.fresh, h.going⟩
  · have hadded := h.added.enqueue id
    have hqueue : w.queue id = openers.map Opener.call := by
      rw [queue, hpending]
      rfl
    rw [hqueue] at hadded
    have hupdate := queue_update w id (some (openers ++ [(⟨who, w.adds⟩ : Opener)]))
    rw [Option.getD_some, List.map_append] at hupdate
    exact hupdate ▸ hadded
  · have hopening := h.opening id'
    by_cases hid : id' = id
    · subst hid
      rw [hpending] at hopening
      simpa using hopening
    · simpa [hid] using hopening

/-- A new call waits for a device that no one has asked for. -/
theorem Kept.open (h : w.Kept) {id : GnubbyDeviceId} (hpending : w.pendingOpens_ id = none)
    (who : ℕ) :
    { w with
      adds := w.adds + 1
      pendingOpens_ := Function.update w.pendingOpens_ id (some [⟨who, w.adds⟩])
      opens := w.opens ++ [id] }.Kept := by
  refine ⟨?_, h.fine, h.enumerated, fun id' => ?_, h.failed, h.rounds, h.fresh, h.going⟩
  · have hadded := h.added.enqueue id
    have hqueue : w.queue id = [] := by
      rw [queue, hpending]
      rfl
    rw [hqueue] at hadded
    exact queue_update w id (some [⟨who, w.adds⟩]) ▸ hadded
  · have hopening := h.opening id'
    rw [List.count_append, List.count_singleton]
    by_cases hid : id' = id
    · subst hid
      have hzero : w.opens.count id' + w.loops.countP (DrainLoop.drains id') = 0 := by
        rw [hopening, hpending]
        rfl
      have hsome : (Function.update w.pendingOpens_ id' (some [(⟨who, w.adds⟩ : Opener)]) id').isSome =
          true := by simp
      rw [if_pos BEq.rfl, if_pos hsome]
      dsimp only
      omega
    · have hne : ¬ id = id' := fun heq => hid heq.symm
      simpa [hid, hne] using hopening

/-- An open calls back, and a loop drains the list. -/
theorem Kept.drain (h : w.Kept) {id : GnubbyDeviceId} (hopen : id ∈ w.opens) {loop : DrainLoop}
    (hloop : (∃ device, loop = .opened id device) ∨ ∃ rc, rc ≠ 0 ∧ loop = .notifyOpenResult id rc) :
    { w with opens := w.opens.erase id, loops := loop :: w.loops }.Kept := by
  have hleft : ∀ round, loop.left round = 0 := by
    rcases hloop with ⟨_, rfl⟩ | ⟨_, -, rfl⟩ <;> exact fun _ => rfl
  have hsame : ∀ round,
      { w with opens := w.opens.erase id, loops := loop :: w.loops }.left round = w.left round := by
    intro round
    simp [left, hleft]
  refine ⟨h.added, h.fine, h.enumerated, fun id' => ?_, fun id' rc hmem => ?_, fun round hround => ?_,
    fun round hround => ⟨(h.fresh round hround).1, (hsame round).trans (h.fresh round hround).2⟩,
    fun hne => ?_⟩
  · rw [← h.opening id', List.countP_cons]
    by_cases hid : id' = id
    · subst hid
      have hdrains : loop.drains id' = true := by
        rcases hloop with ⟨_, rfl⟩ | ⟨_, -, rfl⟩ <;> simp [DrainLoop.drains]
      have hpos := List.count_pos_iff.2 hopen
      rw [List.count_erase_self, if_pos hdrains]
      omega
    · have hdrains : ¬ loop.drains id' = true := by
        rcases hloop with ⟨_, rfl⟩ | ⟨_, -, rfl⟩ <;> simpa [DrainLoop.drains] using Ne.symm hid
      rw [List.count_erase_of_ne hid, if_neg hdrains]
      omega
  · rcases List.mem_cons.1 hmem with heq | hmem
    · rcases hloop with ⟨_, rfl⟩ | ⟨rc', hrc, rfl⟩
      · cases heq
      · cases heq
        exact hrc
    · exact h.failed id' rc hmem
  · rw [hsame round]
    exact h.rounds round hround
  · exact (h.going hne).imp_left fun ⟨ids, hids⟩ => ⟨ids, List.mem_cons_of_mem _ hids⟩

/-- The first of a list is told. -/
theorem Kept.tellFirst (h : w.Kept) {id : GnubbyDeviceId} {client : Opener} {openers : List Opener}
    (hpending : w.pendingOpens_ id = some (client :: openers)) {t : ToldClient}
    (hcall : t.call = client.call) (hfine : t.Fine) :
    { w with
      pendingOpens_ := Function.update w.pendingOpens_ id (some openers)
      told := w.told ++ [t] }.Kept := by
  refine ⟨?_, fun u hu => ?_, h.enumerated, fun id' => ?_, h.failed, h.rounds, h.fresh, h.going⟩
  · have hqueue : w.queue id = client.call :: openers.map Opener.call := by
      rw [queue, hpending]
      rfl
    have hadded := h.added.dequeue hqueue
    have hmap : (w.told ++ [t]).map ToldClient.call =
        w.told.map ToldClient.call ++ [client.call] := by
      simp [hcall]
    rw [← hmap] at hadded
    exact queue_update w id (some openers) ▸ hadded
  · rcases List.mem_append.1 hu with hu | hu
    · exact h.fine u hu
    · rw [List.mem_singleton.1 hu]
      exact hfine
  · have hopening := h.opening id'
    by_cases hid : id' = id
    · subst hid
      rw [hpending] at hopening
      simpa using hopening
    · simpa [hid] using hopening

/-- The list is empty, and the loop that drained it is over. -/
theorem Kept.drained (h : w.Kept) {id : GnubbyDeviceId} {loop : DrainLoop} {loops : List DrainLoop}
    (hloops : w.loops = loop :: loops) (hdrains : loop.drains id = true)
    (hpending : w.pendingOpens_ id = some []) :
    { w with pendingOpens_ := Function.update w.pendingOpens_ id none, loops := loops }.Kept := by
  have hothers : (∀ round, loop.left round = 0) ∧ (∀ ids, loop ≠ .enumerated ids) ∧
      ∀ id', loop.drains id' = true → id' = id := by
    cases loop with
    | opened which device =>
        obtain rfl : which = id := of_decide_eq_true hdrains
        exact ⟨fun _ => rfl, nofun, fun id' hid => (of_decide_eq_true hid).symm⟩
    | notifyOpenResult which rc =>
        obtain rfl : which = id := of_decide_eq_true hdrains
        exact ⟨fun _ => rfl, nofun, fun id' hid => (of_decide_eq_true hid).symm⟩
    | enumerators => cases hdrains
    | enumerated => cases hdrains
  obtain ⟨hleft, hnot, honly⟩ := hothers
  have hsame : ∀ round, w.left round = (loops.map (DrainLoop.left round)).sum := by
    intro round
    simp [left, hloops, hleft]
  refine ⟨?_, h.fine, h.enumerated, fun id' => ?_,
    fun id' rc hmem => h.failed id' rc (hloops ▸ List.mem_cons_of_mem _ hmem), fun round hround => ?_,
    fun round hround => ⟨(h.fresh round hround).1, (hsame round).symm.trans (h.fresh round hround).2⟩,
    fun hne => ?_⟩
  · have hqueue : w.queue id = [] := by
      rw [queue, hpending]
      rfl
    have hupdate := queue_update w id none
    rw [Option.getD_none, List.map_nil, ← hqueue, Function.update_eq_self] at hupdate
    have hadded := h.added
    rw [← hupdate] at hadded
    exact hadded
  · have hopening := h.opening id'
    rw [hloops, List.countP_cons] at hopening
    by_cases hid : id' = id
    · subst hid
      rw [if_pos hdrains, hpending, if_pos Option.isSome_some] at hopening
      have hnone : (Function.update w.pendingOpens_ id' none id').isSome = false := by simp
      rw [hnone, if_neg (by simp)]
      dsimp only
      omega
    · rw [if_neg fun hmore => hid (honly id' hmore)] at hopening
      simpa [hid] using hopening
  · rw [← h.rounds round hround, hsame round]
    rfl
  · refine (h.going hne).imp_left fun ⟨ids, hids⟩ => ⟨ids, ?_⟩
    rw [hloops] at hids
    exact (List.mem_cons.1 hids).resolve_left fun heq => hnot ids heq.symm

/-! ### Enumerations -/

/-- The loop that ends neither drains a list of openers nor leaves someone waiting. -/
theorem Kept.popLoop (h : w.Kept) {loop : DrainLoop} {loops : List DrainLoop}
    (hloops : w.loops = loop :: loops) (hdrains : ∀ id, loop.drains id = false)
    (hleft : ∀ round, loop.left round = 0)
    (hwaits : w.pendingEnumerate ≠ [] → ∀ ids, loop ≠ .enumerated ids) :
    { w with loops := loops }.Kept := by
  have hsame : ∀ round, w.left round = (loops.map (DrainLoop.left round)).sum := by
    intro round
    simp [left, hloops, hleft]
  refine ⟨h.added, h.fine, h.enumerated, fun id => ?_,
    fun id rc hmem => h.failed id rc (hloops ▸ List.mem_cons_of_mem _ hmem), fun round hround => ?_,
    fun round hround => ⟨(h.fresh round hround).1, (hsame round).symm.trans (h.fresh round hround).2⟩,
    fun hne => ?_⟩
  · have hopening := h.opening id
    rw [hloops, List.countP_cons, if_neg (by simp [hdrains id])] at hopening
    exact hopening
  · rw [← h.rounds round hround, hsame round]
    rfl
  · refine (h.going hne).imp_left fun ⟨ids, hids⟩ => ⟨ids, ?_⟩
    rw [hloops] at hids
    exact (List.mem_cons.1 hids).resolve_left fun heq => hwaits hne ids heq.symm

/-- An enumerator is called. -/
theorem Kept.callEnumerator (h : w.Kept) {round : ℕ} {nameSpace : JSString} {names : List JSString}
    {loops : List DrainLoop} (hloops : w.loops = .enumerators round (nameSpace :: names) :: loops) :
    { w with
      rounds := Function.update w.rounds round
        { w.rounds round with awaited := (w.rounds round).awaited ++ [nameSpace] }
      loops := .enumerators round names :: loops }.Kept := by
  have hleft : ∀ r, w.left r = (if round = r then names.length + 1 else 0) +
      (loops.map (DrainLoop.left r)).sum := by
    intro r
    simp [left, hloops, DrainLoop.left]
  have hleft' : ∀ r, ((DrainLoop.enumerators round names :: loops).map (DrainLoop.left r)).sum =
      (if round = r then names.length else 0) + (loops.map (DrainLoop.left r)).sum := by
    intro r
    simp [DrainLoop.left]
  -- the round has been begun
  have hbegun : round < w.begun := by
    by_contra hnot
    have hzero := (h.fresh round (Nat.le_of_not_lt hnot)).2
    rw [hleft round, if_pos rfl] at hzero
    omega
  refine ⟨h.added, h.fine, h.enumerated, fun id => ?_, fun id rc hmem => ?_, fun r hr => ?_,
    fun r hr => ?_, fun hne => ?_⟩
  · have hopening := h.opening id
    rw [hloops, List.countP_cons] at hopening
    rw [List.countP_cons]
    exact hopening
  · refine h.failed id rc ?_
    rw [hloops]
    exact List.mem_cons_of_mem _ ((List.mem_cons.1 hmem).resolve_left nofun)
  · have hsum := h.rounds r hr
    rw [hleft r] at hsum
    rw [left, hleft' r]
    by_cases hround : r = round
    · subst hround
      rw [if_pos rfl] at hsum ⊢
      simp only [Function.update_self, List.length_append, List.length_singleton]
      omega
    · rw [if_neg (Ne.symm hround)] at hsum ⊢
      simpa [hround] using hsum
  · have hround : r ≠ round := by
      rintro rfl
      exact absurd hbegun (Nat.not_lt.2 hr)
    have hfresh := h.fresh r hr
    rw [hleft r, if_neg (Ne.symm hround)] at hfresh
    rw [left, hleft' r, if_neg (Ne.symm hround)]
    simpa [hround] using hfresh
  · rcases h.going hne with ⟨ids, hids⟩ | ⟨r, hr, hlt⟩
    · refine .inl ⟨ids, ?_⟩
      rw [hloops] at hids
      exact List.mem_cons_of_mem _ ((List.mem_cons.1 hids).resolve_left nofun)
    · refine .inr ⟨r, hr, ?_⟩
      by_cases hround : r = round
      · subst hround
        simpa using hlt
      · simpa [hround] using hlt

/-- The first of those who wait for an enumeration is called. -/
theorem Kept.answerFirst (h : w.Kept) {cb : ℕ} {pending : List ℕ}
    (hpending : w.pendingEnumerate = cb :: pending) {ids : List GnubbyDeviceId}
    (hloop : .enumerated ids ∈ w.loops) :
    { w with pendingEnumerate := pending, answered := w.answered ++ [cb] }.Kept := by
  refine ⟨h.added, h.fine, ?_, h.opening, h.failed, h.rounds, h.fresh, fun _ => .inl ⟨ids, hloop⟩⟩
  have henumerated := h.enumerated.dequeue (i := ()) hpending
  have hqueue : Function.update (fun _ : Unit => w.pendingEnumerate) () pending = fun _ => pending := by
    funext u
    simp
  rwa [hqueue] at henumerated

/-- Without namespaces no one waits for an enumeration. -/
theorem Kept.answerAtOnce (h : w.Kept) :
    { w with enumerates := w.enumerates + 1, answered := w.answered ++ [w.enumerates] }.Kept :=
  ⟨h.added, h.fine, h.enumerated.answer, h.opening, h.failed, h.rounds, h.fresh, h.going⟩

/-- Who asks for an enumeration waits. -/
theorem Kept.waitEnumerate (h : w.Kept)
    (hgoing : (∃ ids, .enumerated ids ∈ w.loops) ∨
      ∃ round < w.begun, (w.rounds round).namespacesEnumerated < w.namespaces_.length) :
    { w with
      enumerates := w.enumerates + 1
      pendingEnumerate := w.pendingEnumerate ++ [w.enumerates] }.Kept := by
  refine ⟨h.added, h.fine, ?_, h.opening, h.failed, h.rounds, h.fresh, fun _ => hgoing⟩
  have henumerated := h.enumerated.enqueue ()
  have hqueue : Function.update (fun _ : Unit => w.pendingEnumerate) ()
      (w.pendingEnumerate ++ [w.enumerates]) = fun _ => w.pendingEnumerate ++ [w.enumerates] := by
    funext u
    simp
  rwa [hqueue] at henumerated

/-- A round is begun. -/
theorem Kept.beginRound (h : w.Kept) :
    { w with
      rounds := Function.update w.rounds w.begun
        { namespacesEnumerated := 0, awaited := [], existingDeviceIds := [] }
      begun := w.begun + 1
      loops := .enumerators w.begun w.namespaces_ :: w.loops }.Kept := by
  have hleft : ∀ r, ((DrainLoop.enumerators w.begun w.namespaces_ :: w.loops).map
      (DrainLoop.left r)).sum = (if w.begun = r then w.namespaces_.length else 0) + w.left r := by
    intro r
    simp [DrainLoop.left, left]
  refine ⟨h.added, h.fine, h.enumerated, fun id => ?_,
    fun id rc hmem => h.failed id rc ((List.mem_cons.1 hmem).resolve_left nofun), fun r hr => ?_,
    fun r hr => ?_, fun hne => ?_⟩
  · have hopening := h.opening id
    rw [List.countP_cons]
    exact hopening
  · rw [left, hleft r]
    by_cases hround : r = w.begun
    · subst hround
      simp [(h.fresh w.begun (Nat.le_refl _)).2]
    · have hsum := h.rounds r (by dsimp only at hr; omega)
      rw [if_neg (Ne.symm hround), Nat.zero_add]
      simpa [hround] using hsum
  · have hround : r ≠ w.begun := by
      dsimp only at hr
      omega
    have hfresh := h.fresh r (by dsimp only at hr; omega)
    rw [left, hleft r, if_neg (Ne.symm hround), Nat.zero_add]
    simpa [hround] using hfresh
  · rcases h.going hne with ⟨ids, hids⟩ | ⟨r, hr, hlt⟩
    · exact .inl ⟨ids, List.mem_cons_of_mem _ hids⟩
    · refine .inr ⟨r, Nat.lt_succ_of_lt hr, ?_⟩
      simpa [Nat.ne_of_lt hr] using hlt

/-- An enumerator calls back. -/
theorem Kept.enumeratorDone (h : w.Kept) {round : ℕ} {nameSpace : JSString}
    (hawaited : nameSpace ∈ (w.rounds round).awaited) (ids : List GnubbyDeviceId)
    {loops : List DrainLoop}
    (hloops : loops = w.loops ∧
        (w.rounds round).namespacesEnumerated + 1 ≠ w.namespaces_.length ∨
      loops = .enumerated ids :: w.loops) :
    { w with
      rounds := Function.update w.rounds round
        { namespacesEnumerated := (w.rounds round).namespacesEnumerated + 1
          awaited := (w.rounds round).awaited.erase nameSpace
          existingDeviceIds := ids }
      loops := loops }.Kept := by
  have hpos := List.length_pos_of_mem hawaited
  have hbegun : round < w.begun := by
    by_contra hnot
    rw [(h.fresh round (Nat.le_of_not_lt hnot)).1] at hawaited
    cases hawaited
  have hleft : ∀ r, (loops.map (DrainLoop.left r)).sum = w.left r := by
    intro r
    rcases hloops with ⟨rfl, -⟩ | rfl
    · rfl
    · simp [DrainLoop.left, left]
  have hcount : ∀ id, loops.countP (DrainLoop.drains id) = w.loops.countP (DrainLoop.drains id) := by
    intro id
    rcases hloops with ⟨rfl, -⟩ | rfl
    · rfl
    · simp [DrainLoop.drains]
  have hmem : ∀ loop ∈ w.loops, loop ∈ loops := by
    rcases hloops with ⟨rfl, -⟩ | rfl
    · exact fun _ => id
    · exact fun _ => List.mem_cons_of_mem _
  refine ⟨h.added, h.fine, h.enumerated, fun id => ?_, fun id rc hfailed => ?_, fun r hr => ?_,
    fun r hr => ?_, fun hne => ?_⟩
  · dsimp only
    rw [hcount id]
    exact h.opening id
  · refine h.failed id rc ?_
    rcases hloops with ⟨rfl, -⟩ | rfl
    · exact hfailed
    · exact (List.mem_cons.1 hfailed).resolve_left nofun
  · have hsum := h.rounds r hr
    rw [left, hleft r]
    by_cases hround : r = round
    · subst hround
      simp only [Function.update_self, List.length_erase_of_mem hawaited]
      omega
    · simpa [hround] using hsum
  · have hround : r ≠ round := by
      rintro rfl
      exact absurd hbegun (Nat.not_lt.2 hr)
    have hfresh := h.fresh r hr
    rw [left, hleft r]
    simpa [hround] using hfresh
  · rcases hloops with ⟨rfl, hmore⟩ | rfl
    · rcases h.going hne with ⟨ids', hids⟩ | ⟨r, hr, hlt⟩
      · exact .inl ⟨ids', hids⟩
      · refine .inr ⟨r, hr, ?_⟩
        by_cases hround : r = round
        · subst hround
          simp only [Function.update_self]
          omega
        · simpa [hround] using hlt
    · exact .inl ⟨ids, List.mem_cons_self⟩

end Waiters

namespace Gnubbies

open Waiters

/-! ### Devices and clients do not concern those who wait -/

section

variable (s : Gnubbies)

theorem destroy_toWaiters (D : ℕ) : (s.destroy D).toWaiters = s.toWaiters := by
  unfold destroy
  split <;> rfl

theorem readFrame_toWaiters (who : ℕ) : (s.readFrame who).toWaiters = s.toWaiters := by
  unfold readFrame close
  dsimp only
  split
  · rfl
  · split
    · split
      · split <;> rfl
      · rfl
    · rfl

theorem deregister_toWaiters (who : ℕ) (entry : GnubbyDeviceId × ℕ) :
    (s.deregister who entry).toWaiters = s.toWaiters := by
  unfold deregister
  dsimp only
  split
  · split
    · rw [destroy_toWaiters]
      rfl
    · rfl
  · rfl

theorem foldl_toWaiters {α : Type} {f : Gnubbies → α → Gnubbies}
    (hf : ∀ s a, (f s a).toWaiters = s.toWaiters) (l : List α) :
    (l.foldl f s).toWaiters = s.toWaiters := by
  induction l generalizing s with
  | nil => rfl
  | cons a l ih => exact (ih (f s a)).trans (hf s a)

theorem removeClient_toWaiters (who : ℕ) : (s.removeClient who).toWaiters = s.toWaiters :=
  foldl_toWaiters s (fun s => deregister_toWaiters s who) s.openDevs_

theorem closeAll_toWaiters : s.closeAll.toWaiters = s.toWaiters := by
  have hfold := foldl_toWaiters (f := fun s (entry : GnubbyDeviceId × ℕ) => s.destroy entry.2) s
    (fun s entry => destroy_toWaiters s entry.2) s.openDevs_
  exact hfold

theorem destroyAbsent_toWaiters (entry : GnubbyDeviceId × ℕ) :
    (s.destroyAbsent entry).toWaiters = s.toWaiters :=
  destroy_toWaiters s entry.2

theorem close_toWaiters (who : ℕ) : (s.close who).toWaiters = s.toWaiters := by
  unfold close
  dsimp only
  split <;> rfl

theorem callBack_none_toWaiters (o : Opener) (rc : ℤ) : (s.callBack o rc none).toWaiters =
    { s.toWaiters with told := s.told ++ [ToldClient.refused o rc] } := rfl

/-- The callback of an opener is called once, and `OK` means what it should. -/
theorem opened_toWaiters (D : ℕ) (o : Opener) : ∃ t : ToldClient, t.call = o.call ∧ t.who = o.who ∧
    t.Fine ∧ (s.opened D o).toWaiters = { s.toWaiters with told := s.told ++ [t] } := by
  unfold opened
  split
  · have hrc : -(NODEVICE : ℤ) ≠ 0 := by decide
    refine ⟨_, rfl, rfl, ToldClient.refused_fine o hrc, ?_⟩
    have hsame := callBack_none_toWaiters (s.removeClient o.who) o (-(NODEVICE : ℤ))
    rw [removeClient_toWaiters] at hsame
    exact hsame
  · rename_i hopen
    refine ⟨_, rfl, rfl, fun _ => ⟨rfl, ?_, ?_⟩, rfl⟩
    · simpa [registerClient, setDevice] using hopen
    · simp [registerClient, setDevice, DeviceClients.hasClient_registerClient]

end

/-! ### The steps -/

variable {s : Gnubbies}

theorem kept_addClient (h : s.toWaiters.Kept) (which : GnubbyDeviceId) (who : ℕ) :
    (s.addClient which who).toWaiters.Kept := by
  unfold addClient
  dsimp only
  split
  · have hsame := callBack_none_toWaiters ({ s with adds := s.adds + 1 }.removeClient who)
      ⟨who, s.adds⟩ (-(NODEVICE : ℤ))
    rw [removeClient_toWaiters] at hsame
    rw [hsame]
    exact h.tell rfl (ToldClient.refused_fine ⟨who, s.adds⟩ (by decide))
  · split
    · rename_i D _
      obtain ⟨t, hcall, -, hfine, heq⟩ := opened_toWaiters { s with adds := s.adds + 1 } D ⟨who, s.adds⟩
      rw [heq]
      exact h.tell hcall hfine
    · split
      · rename_i openers hpending
        exact h.wait hpending who
      · rename_i hpending
        exact h.open hpending who

theorem kept_resume (h : s.toWaiters.Kept) : s.resume.toWaiters.Kept := by
  -- the list that a loop drains is there
  have hthere : ∀ {loop loops id}, s.loops = loop :: loops → loop.drains id = true →
      s.pendingOpens_ id ≠ none := by
    intro loop loops id hloops hdrains hnone
    have hopening := h.opening id
    rw [hloops, List.countP_cons, if_pos hdrains, hnone] at hopening
    simp at hopening
  unfold resume
  split
  · exact h
  · rename_i id D loops hloops
    have hdrains : (DrainLoop.opened id D).drains id = true := decide_eq_true rfl
    split
    · rename_i hnone
      exact absurd hnone (hthere hloops hdrains)
    · rename_i hpending
      exact h.drained hloops hdrains hpending
    · rename_i client openers hpending
      obtain ⟨t, hcall, -, hfine, heq⟩ := opened_toWaiters (s.setPending id (some openers)) D client
      rw [heq]
      exact h.tellFirst hpending hcall hfine
  · rename_i id rc loops hloops
    have hdrains : (DrainLoop.notifyOpenResult id rc).drains id = true := decide_eq_true rfl
    split
    · rename_i hnone
      exact absurd hnone (hthere hloops hdrains)
    · rename_i hpending
      exact h.drained hloops hdrains hpending
    · rename_i client openers hpending
      have hrc := h.failed id rc (by rw [hloops]; exact List.mem_cons_self)
      exact h.tellFirst hpending rfl (ToldClient.refused_fine client hrc)
  · rename_i round loops hloops
    refine h.popLoop hloops (fun _ => rfl) (fun r => ?_) nofun
    simp [DrainLoop.left]
  · rename_i round nameSpace names loops hloops
    exact h.callEnumerator hloops
  · rename_i ids loops hloops
    split
    · rename_i hnone
      exact h.popLoop hloops (fun _ => rfl) (fun _ => rfl) fun hne => absurd hnone hne
    · rename_i cb pending hpending
      have hloop : .enumerated ids ∈ s.loops := by
        rw [hloops]
        exact List.mem_cons_self
      exact h.answerFirst hpending hloop

theorem kept_openCb (h : s.toWaiters.Kept) {which : GnubbyDeviceId} (hopen : which ∈ s.opens) (rc : ℤ)
    (gnubby : Bool) :
    ({ s with opens := s.opens.erase which }.openCb which rc gnubby).toWaiters.Kept := by
  unfold openCb
  split
  · rename_i hrc
    exact kept_resume (h.drain hopen (.inr ⟨rc, hrc, rfl⟩))
  split
  · exact kept_resume (h.drain hopen (.inr ⟨_, by decide, rfl⟩))
  · exact kept_resume (h.drain hopen (.inl ⟨_, rfl⟩))

theorem kept_enumerate (h : s.toWaiters.Kept) : s.enumerate.toWaiters.Kept := by
  unfold enumerate
  dsimp only
  split
  · exact h.answerAtOnce
  · rename_i hnames
    split
    · -- a round is begun, and it is not over
      have hround := h.beginRound
      have hwait := hround.waitEnumerate (.inr ⟨s.begun, Nat.lt_succ_self _, by
        simpa using Nat.pos_of_ne_zero hnames⟩)
      exact kept_resume hwait
    · rename_i hmore
      have hne : s.pendingEnumerate ≠ [] := by
        intro hnil
        rw [hnil] at hmore
        exact hmore rfl
      exact h.waitEnumerate (h.going hne)

theorem kept_enumerated (h : s.toWaiters.Kept) {round : ℕ} {nameSpace : JSString}
    (hawaited : nameSpace ∈ (s.rounds round).awaited) (devs : List ℕ) :
    (s.enumerated round nameSpace devs).toWaiters.Kept := by
  have hsame : ∀ l : List (GnubbyDeviceId × ℕ), (l.foldl destroyAbsent s).toWaiters = s.toWaiters :=
    foldl_toWaiters s destroyAbsent_toWaiters
  unfold enumerated
  dsimp only
  generalize s.openDevs_.filter _ = absent
  have hsame := hsame absent
  generalize absent.foldl destroyAbsent s = t at hsame
  have hrounds : s.rounds = t.rounds := congrArg Waiters.rounds hsame.symm
  rw [← hsame] at h hawaited
  rw [hrounds]
  split
  · exact kept_resume (h.enumeratorDone hawaited _ (.inr rfl))
  · rename_i hmore
    exact h.enumeratorDone hawaited _ (.inl ⟨rfl, hmore⟩)

/-- **What a step keeps.** -/
theorem kept_next (h : s.toWaiters.Kept) (e : Event) : (machine.next s e).toWaiters.Kept := by
  cases e with
  | addClient which who =>
      simp only [Machine.next, machine]
      split
      · exact kept_addClient h which who
      · exact h
  | openCb which rc gnubby =>
      simp only [Machine.next, machine]
      split
      · rename_i hopen
        exact kept_openCb h hopen rc gnubby
      · exact h
  | enumerate => exact kept_enumerate h
  | enumerated round nameSpace devs =>
      simp only [Machine.next, machine]
      split
      · rename_i hawaited
        exact kept_enumerated h hawaited devs
      · exact h
  | resume => exact kept_resume h
  | destroy D =>
      rw [show machine.next s (.destroy D) = s.destroy D from rfl, destroy_toWaiters]
      exact h
  | closeAll =>
      rw [show machine.next s .closeAll = s.closeAll from rfl, closeAll_toWaiters]
      exact h
  | close who =>
      rw [show machine.next s (.close who) = s.close who from rfl, close_toWaiters]
      exact h
  | removeClient i =>
      simp only [Machine.next, machine]
      split
      · exact h
      · rw [removeClient_toWaiters]
        exact h
  | readFrame who =>
      rw [show machine.next s (.readFrame who) = s.readFrame who from rfl, readFrame_toWaiters]
      exact h
  | publishFrame | setCid | closeWhenIdle => exact h

theorem kept_new (namespaces : List JSString) (devs : JSString → Option (List ℕ)) :
    (new namespaces devs).toWaiters.Kept :=
  ⟨Tickets.Accounted.zero, nofun, Tickets.Accounted.zero, fun _ => rfl, nofun, nofun,
    fun _ _ => ⟨rfl, rfl⟩, fun hne => absurd rfl hne⟩

/-! ### The calls of a run -/

section

variable {namespaces : List JSString} {asked : List ℕ} {enumerations : ℕ}

/-- The callback of a call that has waited is called. -/
theorem agrees_tell {w : Waiters} (h : w.Agrees namespaces asked enumerations) {o : Opener}
    (ho : asked[o.call]? = some o.who) {t : ToldClient} (hcall : t.call = o.call)
    (hwho : t.who = o.who) : { w with told := w.told ++ [t] }.Agrees namespaces asked enumerations := by
  refine ⟨h.namespaces, h.adds, h.enumerates, h.waiting, fun u hu => ?_⟩
  rcases List.mem_append.1 hu with hu | hu
  · exact h.told u hu
  · rw [List.mem_singleton.1 hu, hcall, hwho]
    exact ho

theorem agrees_setPending {s : Gnubbies} (h : s.toWaiters.Agrees namespaces asked enumerations)
    (id : GnubbyDeviceId) (openers : Option (List Opener))
    (hopeners : ∀ o ∈ openers.getD [], asked[o.call]? = some o.who) :
    (s.setPending id openers).toWaiters.Agrees namespaces asked enumerations := by
  refine ⟨h.namespaces, h.adds, h.enumerates, fun id' o ho => ?_, h.told⟩
  by_cases hid : id' = id
  · subst hid
    exact hopeners o (by simpa [setPending] using ho)
  · exact h.waiting id' o (by simpa [setPending, hid] using ho)

theorem agrees_opened {s : Gnubbies} (h : s.toWaiters.Agrees namespaces asked enumerations) (D : ℕ)
    {o : Opener} (ho : asked[o.call]? = some o.who) :
    (s.opened D o).toWaiters.Agrees namespaces asked enumerations := by
  obtain ⟨t, hcall, hwho, -, heq⟩ := opened_toWaiters s D o
  rw [heq]
  exact agrees_tell h ho hcall hwho

/-- A round of a loop calls those who wait. -/
theorem agrees_resume {s : Gnubbies} (h : s.toWaiters.Agrees namespaces asked enumerations) :
    s.resume.toWaiters.Agrees namespaces asked enumerations := by
  have hfirst : ∀ {id client} {openers : List Opener}, s.pendingOpens_ id = some (client :: openers) →
      asked[client.call]? = some client.who ∧
        (s.setPending id (some openers)).toWaiters.Agrees namespaces asked enumerations := by
    intro id client openers hpending
    have hwaiting := h.waiting id
    rw [hpending, Option.getD_some, List.forall_mem_cons] at hwaiting
    exact ⟨hwaiting.1, agrees_setPending h id (some openers) hwaiting.2⟩
  unfold resume
  split
  · exact h
  · split
    · exact ⟨h.namespaces, h.adds, h.enumerates, h.waiting, h.told⟩
    · have hnone := agrees_setPending h ‹GnubbyDeviceId› none (by simp)
      exact ⟨hnone.namespaces, hnone.adds, hnone.enumerates, hnone.waiting, hnone.told⟩
    · rename_i client openers hpending
      exact agrees_opened (hfirst hpending).2 _ (hfirst hpending).1
  · split
    · exact ⟨h.namespaces, h.adds, h.enumerates, h.waiting, h.told⟩
    · have hnone := agrees_setPending h ‹GnubbyDeviceId› none (by simp)
      exact ⟨hnone.namespaces, hnone.adds, hnone.enumerates, hnone.waiting, hnone.told⟩
    · rename_i client openers hpending
      exact agrees_tell (hfirst hpending).2 (hfirst hpending).1 rfl rfl
  · exact ⟨h.namespaces, h.adds, h.enumerates, h.waiting, h.told⟩
  · exact ⟨h.namespaces, h.adds, h.enumerates, h.waiting, h.told⟩
  · split
    · exact ⟨h.namespaces, h.adds, h.enumerates, h.waiting, h.told⟩
    · exact ⟨h.namespaces, h.adds, h.enumerates, h.waiting, h.told⟩

/-- One more call of `addClient`, which is told or waits. -/
theorem agrees_addClient {s : Gnubbies} (h : s.toWaiters.Agrees namespaces asked enumerations)
    (which : GnubbyDeviceId) (who : ℕ) :
    (s.addClient which who).toWaiters.Agrees namespaces (asked ++ [who]) enumerations := by
  have hold : ∀ {call client : ℕ}, asked[call]? = some client →
      (asked ++ [who])[call]? = some client := by
    intro call client hcall
    rw [List.getElem?_append_left (List.getElem?_eq_some_iff.1 hcall).1]
    exact hcall
  have hnew : (asked ++ [who])[s.adds]? = some who := by
    rw [h.adds]
    simp
  have hcounted : { s with adds := s.adds + 1 }.toWaiters.Agrees namespaces (asked ++ [who])
      enumerations :=
    ⟨h.namespaces, by simp [h.adds], h.enumerates, fun id o ho => hold (h.waiting id o ho),
      fun t ht => hold (h.told t ht)⟩
  unfold addClient
  dsimp only
  split
  · rw [callBack_none_toWaiters, removeClient_toWaiters]
    exact agrees_tell (o := ⟨who, s.adds⟩) hcounted hnew rfl rfl
  · split
    · exact agrees_opened (o := ⟨who, s.adds⟩) hcounted _ hnew
    · split
      · rename_i openers hpending
        refine agrees_setPending hcounted which _ fun o ho => ?_
        rcases List.mem_append.1 ho with ho | ho
        · exact hold (h.waiting which o (by rw [hpending]; exact ho))
        · rw [List.mem_singleton.1 ho]
          exact hnew
      · have hwait := agrees_setPending hcounted which (some [⟨who, s.adds⟩]) fun o ho => by
          rw [List.mem_singleton.1 ho]
          exact hnew
        exact ⟨hwait.namespaces, hwait.adds, hwait.enumerates, hwait.waiting, hwait.told⟩

theorem agrees_openCb {s : Gnubbies} (h : s.toWaiters.Agrees namespaces asked enumerations)
    (which : GnubbyDeviceId) (rc : ℤ) (gnubby : Bool) :
    ({ s with opens := s.opens.erase which }.openCb which rc gnubby).toWaiters.Agrees namespaces
      asked enumerations := by
  have hsame : ∀ t : Gnubbies, t.namespaces_ = s.namespaces_ → t.adds = s.adds →
      t.enumerates = s.enumerates → t.pendingOpens_ = s.pendingOpens_ → t.told = s.told →
      t.toWaiters.Agrees namespaces asked enumerations := by
    intro t hnamespaces hadds henumerates hpending htold
    refine ⟨hnamespaces.trans h.namespaces, hadds.trans h.adds, henumerates.trans h.enumerates, ?_, ?_⟩
    · rw [hpending]
      exact h.waiting
    · rw [htold]
      exact h.told
  unfold openCb
  split
  · exact agrees_resume (hsame _ rfl rfl rfl rfl rfl)
  · split
    · exact agrees_resume (hsame _ rfl rfl rfl rfl rfl)
    · exact agrees_resume (hsame _ rfl rfl rfl rfl rfl)

theorem agrees_enumerate {s : Gnubbies} (h : s.toWaiters.Agrees namespaces asked enumerations) :
    s.enumerate.toWaiters.Agrees namespaces asked (enumerations + 1) := by
  have henumerates : s.enumerates + 1 = enumerations + 1 := congrArg (· + 1) h.enumerates
  unfold enumerate
  dsimp only
  split
  · exact ⟨h.namespaces, h.adds, henumerates, h.waiting, h.told⟩
  · split
    · exact agrees_resume ⟨h.namespaces, h.adds, henumerates, h.waiting, h.told⟩
    · exact ⟨h.namespaces, h.adds, henumerates, h.waiting, h.told⟩

theorem agrees_enumerated {s : Gnubbies} (h : s.toWaiters.Agrees namespaces asked enumerations)
    (round : ℕ) (nameSpace : JSString) (devs : List ℕ) :
    (s.enumerated round nameSpace devs).toWaiters.Agrees namespaces asked enumerations := by
  have hsame : ∀ l : List (GnubbyDeviceId × ℕ), (l.foldl destroyAbsent s).toWaiters = s.toWaiters :=
    foldl_toWaiters s destroyAbsent_toWaiters
  unfold enumerated
  dsimp only
  generalize s.openDevs_.filter _ = absent
  have hsame := hsame absent
  generalize absent.foldl destroyAbsent s = t at hsame
  rw [← hsame] at h
  split
  · exact agrees_resume ⟨h.namespaces, h.adds, h.enumerates, h.waiting, h.told⟩
  · exact ⟨h.namespaces, h.adds, h.enumerates, h.waiting, h.told⟩

end

/-- **What a step keeps**, when its call is counted. -/
theorem agrees_next {namespaces : List JSString} {past : List Event} {s : Gnubbies}
    (h : s.toWaiters.Agrees namespaces (asked namespaces past) (enumerations past)) (e : Event) :
    (machine.next s e).toWaiters.Agrees namespaces (asked namespaces (past ++ [e]))
      (enumerations (past ++ [e])) := by
  have hasked : asked namespaces (past ++ [e]) =
      asked namespaces past ++ (Event.asks namespaces e).toList := by
    rw [asked, List.filterMap_append, asked]
    cases hasks : Event.asks namespaces e <;> simp [hasks]
  have hcount : enumerations (past ++ [e]) = enumerations past + (if e.isEnumerate then 1 else 0) := by
    rw [enumerations, List.countP_append, List.countP_singleton]
    rfl
  -- a step without a call
  have hrest : Event.asks namespaces e = none → e.isEnumerate = false →
      (machine.next s e).toWaiters.Agrees namespaces (asked namespaces past) (enumerations past) →
      (machine.next s e).toWaiters.Agrees namespaces (asked namespaces (past ++ [e]))
        (enumerations (past ++ [e])) := by
    intro hasks henumerate hnext
    rw [hasked, hcount, hasks, henumerate, Option.toList_none, List.append_nil,
      if_neg Bool.false_ne_true, Nat.add_zero]
    exact hnext
  -- devices and clients do not concern those who wait
  have hsame : (machine.next s e).toWaiters = s.toWaiters →
      (machine.next s e).toWaiters.Agrees namespaces (asked namespaces past) (enumerations past) := by
    intro hwaiters
    rw [hwaiters]
    exact h
  cases e with
  | addClient which who =>
      by_cases hns : which.nameSpace ∈ namespaces
      · have hnext : machine.next s (.addClient which who) = s.addClient which who := by
          simp only [Machine.next, machine, h.namespaces, if_pos hns]
        rw [hnext, hasked, hcount, Event.asks, if_pos hns]
        exact agrees_addClient h which who
      · have hnext : machine.next s (.addClient which who) = s := by
          simp only [Machine.next, machine, h.namespaces, if_neg hns]
        exact hrest (if_neg hns) rfl (hsame (by rw [hnext]))
  | openCb which rc gnubby =>
      refine hrest rfl rfl ?_
      simp only [Machine.next, machine]
      split
      · exact agrees_openCb h which rc gnubby
      · exact h
  | enumerate =>
      have hasks : Event.asks namespaces .enumerate = none := rfl
      rw [hasked, hcount, hasks, Option.toList_none, List.append_nil]
      exact agrees_enumerate h
  | enumerated round nameSpace devs =>
      refine hrest rfl rfl ?_
      simp only [Machine.next, machine]
      split
      · exact agrees_enumerated h round nameSpace devs
      · exact h
  | resume => exact hrest rfl rfl (agrees_resume h)
  | destroy D => exact hrest rfl rfl (hsame (destroy_toWaiters s D))
  | closeAll => exact hrest rfl rfl (hsame (closeAll_toWaiters s))
  | close who => exact hrest rfl rfl (hsame (close_toWaiters s who))
  | readFrame who => exact hrest rfl rfl (hsame (readFrame_toWaiters s who))
  | removeClient i =>
      refine hrest rfl rfl (hsame ?_)
      simp only [Machine.next, machine]
      split
      · rfl
      · exact removeClient_toWaiters _ _
  | publishFrame | setCid | closeWhenIdle => exact hrest rfl rfl (hsame rfl)

theorem agrees_new (namespaces : List JSString) (devs : JSString → Option (List ℕ)) :
    (new namespaces devs).toWaiters.Agrees namespaces (asked namespaces []) (enumerations []) :=
  ⟨rfl, rfl, rfl, fun _ => nofun, nofun⟩

/-- **Every client that waits for a device is told once, and so is everyone who waits for an
enumeration**: after every run, of the calls that its events make. -/
theorem told_once (namespaces : List JSString) (devs : JSString → Option (List ℕ))
    (es : List Event) : ToldOnce (asked namespaces es) (enumerations es)
      (machine.exec (new namespaces devs) es) := by
  have hboth := Machine.exec_invariant_past (M := machine)
    (I := fun past s => s.toWaiters.Kept ∧
      s.toWaiters.Agrees namespaces (asked namespaces past) (enumerations past))
    (fun _ _ e h => ⟨kept_next h.1 e, agrees_next h.2 e⟩)
    ⟨kept_new namespaces devs, agrees_new namespaces devs⟩ es
  exact hboth.1.toldOnce hboth.2

/-- Two clients ask for one device while the devices are enumerated; the device is opened then. -/
def twoClients : List Event :=
  [.enumerate, .addClient ⟨js "usb", 0⟩ 7, .addClient ⟨js "usb", 0⟩ 8, .resume,
    .enumerated 0 (js "usb") [0], .resume, .openCb ⟨js "usb", 0⟩ 0 true, .resume, .resume]

theorem told_twoClients : ∃ s,
    machine.exec (new [js "usb"] fun _ => some [0]) twoClients = s ∧ s.Quiescent ∧
      s.told.map (fun t => (t.call, t.who, t.rc)) = [(0, 7, 0), (1, 8, 0)] ∧ s.answered = [0] ∧
      ToldOnce [7, 8] 1 s := by
  refine ⟨_, rfl, ⟨by decide, by decide, fun round => ?_⟩, by decide, by decide,
    told_once [js "usb"] (fun _ => some [0]) twoClients⟩
  cases round <;> rfl

end Gnubbies

end U2F
