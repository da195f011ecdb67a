/-
**A device that has lost its clients is released.**

A client that is closed is removed from its device by a timer, and the device is destroyed when the last
client is removed.  For this the client has to be on the list of the device until its timer fires.  But a
frame that the device gives to its clients takes the closed ones from the list too, and does not destroy
the device; and a client that is registered when it is closed already, that has lost sight of its device,
or that is closed by a frame has no timer at all.

Main definitions:

* `Gnubbies.Released` — a device whose clients have all been closed and removed is destroyed;
* `Gnubbies.Event.OfClients` — the events in question;
* `Gnubbies.InOrder` — no step loses a client of a device.

Main results:

* `Gnubbies.Devices.deregister`, `Gnubbies.removeClient_spec` — a client is removed;
* `Gnubbies.released` — **a device that has lost its clients is released** if every step is in order;
* `Gnubbies.not_released` — a frame takes the only client of a device from its list.
-/

import Mathlib.Data.List.Perm.Basic
import U2F.Extension.GnubbiesWaiters

set_option relaxedAutoImplicit false
set_option autoImplicit false

namespace U2F

namespace Gnubbies

open GnubbyDevice

/-- **A device that has had a client is destroyed and no longer open** when all its clients are closed
and no timer will remove one of them. -/
def Released (s : Gnubbies) : Prop :=
  ∀ D < s.made, (s.devices D).served ≠ [] →
    (∀ who ∈ (s.devices D).served, s.closed who = true) →
    (∀ removal ∈ s.removals, removal.2 ∉ (s.devices D).served) →
    (s.devices D).dev = false ∧ ∀ entry ∈ s.openDevs_, entry.2 ≠ D

/-- Clients ask for devices, are closed and removed, and devices have frames for them, which they
read. -/
def Event.OfClients : Event → Prop
  | .addClient .. | .openCb .. | .resume | .close _ | .removeClient _ | .publishFrame ..
  | .readFrame _ | .setCid .. | .closeWhenIdle _ => True
  | .enumerate | .enumerated .. | .destroy _ | .closeAll => False

/-- The client is on the list of no device. -/
def Unregistered (s : Gnubbies) (who : ℕ) : Prop := ∀ D, who ∉ (s.devices D).clients

/-- The first client of a list may be told: it is not closed when it is registered, and it is on no list
when it is told that there is no device. -/
def MayTell (s : Gnubbies) (id : GnubbyDeviceId) (registers : Prop) : Prop :=
  ∀ client openers, s.pendingOpens_ id = some (client :: openers) →
    (registers → s.closed client.who = false) ∧ (¬ registers → s.Unregistered client.who)

/-- A step is in order: no closed client is registered, no client that is registered is told that a
device cannot be opened, no frame is given to clients that are all closed, and no client that is
registered reads that its device is gone, unless it closes when it is idle. -/
def InOrder (s : Gnubbies) : Event → Prop
  | .addClient which who => which.device ∈ (s.devs_ which.nameSpace).getD [] →
      ∀ entry ∈ s.openDevs_, entry.1 = which → s.closed who = false
  | .openCb which rc gnubby => s.MayTell which (rc = 0 ∧ gnubby = true)
  | .resume =>
    match s.loops with
    | .opened id D :: _ => (s.devices D).closing = false → s.MayTell id True
    | .notifyOpenResult id _ :: _ => s.MayTell id False
    | _ => True
  | .publishFrame D _ => (s.devices D).clients ≠ [] →
      ∃ who ∈ (s.devices D).clients, s.closed who = false
  | .readFrame who => (∃ f ∈ (s.rxframes who).head?, isGone f = true) →
      s.closingWhenIdle who = true ∨ s.closed who = true ∨ s.Unregistered who
  | _ => True

/-! ### Devices and their lists -/

/-- The devices that are alive are the open ones, and a device that has had a client has one. -/
structure Devices (s : Gnubbies) : Prop where
  alive : ∀ D, (s.devices D).dev = true →
    D < s.made ∧ ((s.devices D).id, D) ∈ s.openDevs_ ∧ (s.devices D).closing = false
  dead : ∀ D, (s.devices D).dev = false → (s.devices D).closing = true ∧ (s.devices D).clients = []
  openDevs : ∀ entry ∈ s.openDevs_,
    (s.devices entry.2).dev = true ∧ (s.devices entry.2).id = entry.1
  unique : ∀ D D', (s.devices D).dev = true → (s.devices D').dev = true →
    (s.devices D).id = (s.devices D').id → D = D'
  opening : ∀ id ∈ s.opens, ∀ entry ∈ s.openDevs_, entry.1 ≠ id
  clients : ∀ D, (s.devices D).clients ⊆ (s.devices D).served
  served : ∀ D, (s.devices D).dev = true → (s.devices D).served ≠ [] → (s.devices D).clients ≠ []

/-- The client will be removed when it is closed, or a timer will remove it. -/
def Leaves (s : Gnubbies) (who : ℕ) : Prop :=
  (s.closed who = false → (s.dev who).isSome = true) ∧
    (s.closed who = true → ∃ removal ∈ s.removals, removal.2 = who)

/-- Every client on a list will leave it. -/
def AllLeave (s : Gnubbies) : Prop := ∀ D, ∀ who ∈ (s.devices D).clients, s.Leaves who

/-- What holds at every point of a run whose steps are in order. -/
structure Holds (s : Gnubbies) : Prop where
  waiters : s.toWaiters.Kept
  devices : s.Devices
  leave : s.AllLeave

theorem Holds.toReleased {s : Gnubbies} (h : s.Holds) : s.Released := by
  intro D _ hserved hclosed hremovals
  have hdead : (s.devices D).dev = false := by
    by_contra halive
    have halive : (s.devices D).dev = true := by simpa using halive
    -- a client is left, and a timer will remove it
    obtain ⟨who, hwho⟩ := List.exists_mem_of_ne_nil _ (h.devices.served D halive hserved)
    have hmem := h.devices.clients D hwho
    obtain ⟨removal, hremoval, rfl⟩ := (h.leave D who hwho).2 (hclosed who hmem)
    exact hremovals removal hremoval hmem
  refine ⟨hdead, fun entry hentry heq => ?_⟩
  have halive := (h.devices.openDevs entry hentry).1
  rw [heq, hdead] at halive
  cases halive

section

variable {s : Gnubbies}

/-- The lists of a device are changed. -/
theorem Devices.setDevice (h : s.Devices) {D : ℕ} {clients served : List ℕ}
    (hsubset : clients ⊆ served) (hdead : (s.devices D).dev = false → clients = [])
    (hserved : (s.devices D).dev = true → served ≠ [] → clients ≠ []) :
    (s.setDevice D { s.devices D with clients := clients, served := served }).Devices := by
  have hfields : ∀ D', ((s.setDevice D { s.devices D with
      clients := clients, served := served }).devices D').dev = (s.devices D').dev ∧
      ((s.setDevice D { s.devices D with
        clients := clients, served := served }).devices D').id = (s.devices D').id ∧
      ((s.setDevice D { s.devices D with
        clients := clients, served := served }).devices D').closing = (s.devices D').closing := by
    intro D'
    by_cases hD : D' = D
    · subst hD
      simp [Gnubbies.setDevice]
    · simp [Gnubbies.setDevice, hD]
  have hlists : ∀ (p : LowLevelDevice → Prop),
      p { s.devices D with clients := clients, served := served } → (∀ D', p (s.devices D')) → ∀ D', p ((s.setDevice D { s.devices D with
        clients := clients, served := served }).devices D') := by
    intro p hnew hold D'
    by_cases hD : D' = D
    · subst hD
      simpa [Gnubbies.setDevice] using hnew
    · simpa [Gnubbies.setDevice, hD] using hold D'
  refine ⟨fun D' halive => ?_, hlists (fun d => d.dev = false → d.closing = true ∧ d.clients = [])
      (fun hno => ⟨(h.dead D hno).1, hdead hno⟩) h.dead, fun entry hentry => ?_,
    fun D₁ D₂ h₁ h₂ hid => ?_, h.opening,
    hlists (fun d => d.clients ⊆ d.served) hsubset h.clients,
    hlists (fun d => d.dev = true → d.served ≠ [] → d.clients ≠ []) hserved h.served⟩
  · obtain ⟨hdev, hid, hclosing⟩ := hfields D'
    rw [hdev] at halive
    rw [hid, hclosing]
    exact h.alive D' halive
  · obtain ⟨hdev, hid, -⟩ := hfields entry.2
    rw [hdev, hid]
    exact h.openDevs entry hentry
  · rw [(hfields D₁).1] at h₁
    rw [(hfields D₂).1] at h₂
    rw [(hfields D₁).2.1, (hfields D₂).2.1] at hid
    exact h.unique D₁ D₂ h₁ h₂ hid

/-- A device is destroyed, whatever its list. -/
theorem Devices.remove (h : s.Devices) {D : ℕ} (halive : (s.devices D).dev = true)
    (closed : ℕ → Bool) :
    { s with
      openDevs_ := s.openDevs_.filter fun entry => entry.1 ≠ (s.devices D).id
      devices := Function.update s.devices D
        { s.devices D with closing := true, clients := [], dev := false }
      closed := closed }.Devices := by
  have hother : ∀ D', (Function.update s.devices D { s.devices D with
      closing := true, clients := [], dev := false } D').dev = true →
      D' ≠ D ∧ (s.devices D').dev = true := by
    intro D' hdev
    by_cases hD : D' = D
    · subst hD
      simp at hdev
    · exact ⟨hD, by simpa [hD] using hdev⟩
  refine ⟨fun D' hdev => ?_, fun D' hdev => ?_, fun entry hentry => ?_, fun D₁ D₂ h₁ h₂ hid => ?_,
    fun id hid entry hentry => h.opening id hid entry (List.mem_of_mem_filter hentry),
    fun D' => ?_, fun D' hdev => ?_⟩
  · obtain ⟨hD, hdev⟩ := hother D' hdev
    obtain ⟨hmade, hopen, hclosing⟩ := h.alive D' hdev
    simp only [Function.update_of_ne hD]
    refine ⟨hmade, List.mem_filter.2 ⟨hopen, decide_eq_true fun hid => hD ?_⟩, hclosing⟩
    exact h.unique D' D hdev halive hid
  · by_cases hD : D' = D
    · subst hD
      simp
    · simp only [Function.update_of_ne hD] at hdev ⊢
      exact h.dead D' hdev
  · obtain ⟨hentry, hid⟩ := List.mem_filter.1 hentry
    have hopen := h.openDevs entry hentry
    have hD : entry.2 ≠ D := by
      rintro rfl
      exact of_decide_eq_true hid hopen.2.symm
    simp only [Function.update_of_ne hD]
    exact hopen
  · obtain ⟨hD₁, h₁⟩ := hother D₁ h₁
    obtain ⟨hD₂, h₂⟩ := hother D₂ h₂
    simp only [Function.update_of_ne hD₁, Function.update_of_ne hD₂] at hid
    exact h.unique D₁ D₂ h₁ h₂ hid
  · by_cases hD : D' = D
    · subst hD
      simp
    · simp only [Function.update_of_ne hD]
      exact h.clients D'
  · obtain ⟨hD, hdev⟩ := hother D' hdev
    simp only [Function.update_of_ne hD]
    exact h.served D' hdev

/-! ### A client is removed -/

/-- The lists shrink, and nothing else that matters to clients changes. -/
structure Shrinks (s t : Gnubbies) : Prop where
  waiters : t.toWaiters = s.toWaiters
  closed : t.closed = s.closed
  dev : t.dev = s.dev
  removals : t.removals = s.removals
  clients : ∀ D, (t.devices D).clients ⊆ (s.devices D).clients
  openDevs : t.openDevs_ ⊆ s.openDevs_

theorem Shrinks.refl (s : Gnubbies) : Shrinks s s :=
  ⟨rfl, rfl, rfl, rfl, fun _ => List.Subset.refl _, List.Subset.refl _⟩

theorem Shrinks.trans {s t u : Gnubbies} (h : Shrinks s t) (h' : Shrinks t u) : Shrinks s u :=
  ⟨h'.waiters.trans h.waiters, h'.closed.trans h.closed, h'.dev.trans h.dev,
    h'.removals.trans h.removals, fun D => List.Subset.trans (h'.clients D) (h.clients D),
    List.Subset.trans h'.openDevs h.openDevs⟩

/-- A device without clients gives a frame to no one. -/
theorem publishFrame_nil {D : ℕ} (frame : List UInt8) (hnil : (s.devices D).clients = []) :
    s.publishFrame_ D frame = s := by
  have hdevice : { s.devices D with
      clients := DeviceClients.publishFrame_ s.closed [] } = s.devices D := by
    cases hd : s.devices D
    simp_all [DeviceClients.publishFrame_]
  simp only [Gnubbies.publishFrame_, Gnubbies.setDevice, hnil, List.not_mem_nil, if_false]
  rw [hdevice, Function.update_eq_self]

/-- A device that has lost its last client is destroyed, and no client learns of it. -/
theorem destroy_emptied {D : ℕ} (halive : (s.devices D).dev = true) :
    (s.setDevice D { s.devices D with clients := [] }).destroy D = { s with
      openDevs_ := s.openDevs_.filter fun entry => entry.1 ≠ (s.devices D).id
      devices := Function.update s.devices D
        { s.devices D with closing := true, clients := [], dev := false } } := by
  simp [Gnubbies.destroy, Gnubbies.setDevice, removeOpenDevice, publishFrame_nil, halive]

theorem Devices.deregister (h : s.Devices) (who : ℕ) (entry : GnubbyDeviceId × ℕ) :
    (s.deregister who entry).Devices ∧ Shrinks s (s.deregister who entry) ∧
      who ∉ ((s.deregister who entry).devices entry.2).clients := by
  unfold Gnubbies.deregister
  dsimp only
  split
  · rename_i hhas
    have hwho : who ∈ (s.devices entry.2).clients := of_decide_eq_true hhas
    have hne : (s.devices entry.2).clients ≠ [] := List.ne_nil_of_mem hwho
    have halive : (s.devices entry.2).dev = true := by
      by_contra hdead
      exact hne (h.dead entry.2 (by simpa using hdead)).2
    have hleft : DeviceClients.deregisterClient (s.devices entry.2).clients who =
        ((((s.devices entry.2).clients.filter (· ≠ who)).length : ℤ),
          (s.devices entry.2).clients.filter (· ≠ who)) :=
      if_neg fun hlength => hne (List.length_eq_zero_iff.1 hlength)
    have hsub : (s.devices entry.2).clients.filter (· ≠ who) ⊆ (s.devices entry.2).clients :=
      List.filter_sublist.subset
    rw [hleft]
    generalize hremaining : (s.devices entry.2).clients.filter (· ≠ who) = remaining at hsub
    have hgone : who ∉ remaining := by
      rw [← hremaining]
      simp
    dsimp only
    split
    · -- no one is left
      rename_i hzero
      obtain rfl : remaining = [] := List.length_eq_zero_iff.1 (by exact_mod_cast hzero)
      rw [destroy_emptied halive]
      refine ⟨h.remove halive s.closed, ⟨rfl, rfl, rfl, rfl, fun D => ?_,
        List.filter_sublist.subset⟩, by simp⟩
      by_cases hD : D = entry.2
      · subst hD
        simp
      · simp [hD]
    · rename_i hsome
      refine ⟨h.setDevice (List.Subset.trans hsub (h.clients entry.2))
        (fun hdead => absurd (halive.symm.trans hdead) (by simp))
        (fun _ _ hnil => hsome (by rw [hnil]; rfl)), ⟨rfl, rfl, rfl, rfl, fun D => ?_,
        List.Subset.refl _⟩, by simpa [Gnubbies.setDevice] using hgone⟩
      by_cases hD : D = entry.2
      · subst hD
        simpa [Gnubbies.setDevice] using hsub
      · simp [Gnubbies.setDevice, hD]
  · rename_i hhas
    exact ⟨h, Shrinks.refl s, fun hwho => hhas (decide_eq_true hwho)⟩

theorem Devices.foldl_deregister (h : s.Devices) (who : ℕ) (entries : List (GnubbyDeviceId × ℕ)) :
    (entries.foldl (Gnubbies.deregister who) s).Devices ∧
      Shrinks s (entries.foldl (Gnubbies.deregister who) s) ∧
      ∀ entry ∈ entries, who ∉ ((entries.foldl (Gnubbies.deregister who) s).devices entry.2).clients := by
  induction entries generalizing s with
  | nil => exact ⟨h, Shrinks.refl s, nofun⟩
  | cons entry entries ih =>
      obtain ⟨hdevices, hshrinks, hgone⟩ := h.deregister who entry
      obtain ⟨hdevices', hshrinks', hgone'⟩ := ih hdevices
      refine ⟨hdevices', hshrinks.trans hshrinks', fun entry' hentry => ?_⟩
      rcases List.mem_cons.1 hentry with rfl | hentry
      · exact fun hwho => hgone (hshrinks'.clients _ hwho)
      · exact hgone' entry' hentry

/-- **A client that is removed is on no list**, and other clients stay where they are or lose their
device. -/
theorem removeClient_spec (h : s.Devices) (who : ℕ) :
    (s.removeClient who).Devices ∧ Shrinks s (s.removeClient who) ∧
      (s.removeClient who).Unregistered who := by
  obtain ⟨hdevices, hshrinks, hgone⟩ : (s.removeClient who).Devices ∧
      Shrinks s (s.removeClient who) ∧
      ∀ entry ∈ s.openDevs_, who ∉ ((s.removeClient who).devices entry.2).clients :=
    h.foldl_deregister who s.openDevs_
  refine ⟨hdevices, hshrinks, fun D hwho => ?_⟩
  have halive : ((s.removeClient who).devices D).dev = true := by
    by_contra hdead
    rw [(hdevices.dead D (by simpa using hdead)).2] at hwho
    cases hwho
  have hopen := hshrinks.openDevs (hdevices.alive D halive).2.1
  exact hgone _ hopen hwho

/-- Clients other than the one that was removed still leave. -/
theorem AllLeave.removeClient (h : s.Devices) {who : ℕ}
    (hleave : ∀ D, ∀ who' ∈ (s.devices D).clients, who' ≠ who → s.Leaves who') :
    (s.removeClient who).AllLeave := by
  obtain ⟨-, hshrinks, hgone⟩ := removeClient_spec h who
  intro D who' hwho
  have hne : who' ≠ who := by
    rintro rfl
    exact hgone D hwho
  have hleaves := hleave D who' (hshrinks.clients D hwho) hne
  unfold Leaves at hleaves ⊢
  rw [hshrinks.closed, hshrinks.dev, hshrinks.removals]
  exact hleaves

/-! ### A client is told -/

theorem Devices.callBack (h : s.Devices) (o : Opener) (rc : ℤ) (device : Option ℕ) :
    (s.callBack o rc device).Devices :=
  ⟨h.alive, h.dead, h.openDevs, h.unique, h.opening, h.clients, h.served⟩

/-- A client that is on no list loses sight of its device. -/
theorem AllLeave.refuse (h : s.AllLeave) {o : Opener} (hgone : s.Unregistered o.who) (rc : ℤ) :
    (s.callBack o rc none).AllLeave := by
  intro D who hwho
  have hne : who ≠ o.who := by
    rintro rfl
    exact hgone D hwho
  have hleaves := h D who hwho
  unfold Leaves at hleaves ⊢
  simpa [Gnubbies.callBack, hne] using hleaves

/-- A client that is not closed is registered. -/
theorem register_spec (h : s.Devices) (hleave : s.AllLeave) {D : ℕ} {o : Opener}
    (halive : (s.devices D).dev = true) (hopen : s.closed o.who = false) (rc : ℤ) :
    ((s.registerClient D o.who).callBack o rc (some D)).Devices ∧
      ((s.registerClient D o.who).callBack o rc (some D)).AllLeave := by
  constructor
  · refine Devices.callBack (h.setDevice (fun who hwho => ?_) (fun hdead => ?_) fun _ _ hnil => ?_)
      o rc (some D)
    · rw [DeviceClients.mem_registerClient] at hwho ⊢
      exact hwho.imp_left fun hwho => h.clients D hwho
    · exact absurd (halive.symm.trans hdead) (by simp)
    · have hmem : o.who ∈ DeviceClients.registerClient (s.devices D).clients o.who :=
        DeviceClients.mem_registerClient.2 (.inr rfl)
      rw [hnil] at hmem
      cases hmem
  · intro D' who hwho
    by_cases hwho' : who = o.who
    · subst hwho'
      refine ⟨fun _ => by simp [Gnubbies.callBack], fun hclosed => ?_⟩
      exact absurd (hopen.symm.trans hclosed) (by simp)
    · have hold : who ∈ (s.devices D').clients := by
        by_cases hD : D' = D
        · subst hD
          simp only [Gnubbies.callBack, registerClient, Gnubbies.setDevice, Function.update_self,
            DeviceClients.mem_registerClient] at hwho
          exact hwho.resolve_right hwho'
        · simpa [Gnubbies.callBack, registerClient, Gnubbies.setDevice, hD] using hwho
      have hleaves := hleave D' who hold
      unfold Leaves at hleaves ⊢
      simpa [Gnubbies.callBack, registerClient, Gnubbies.setDevice, hwho'] using hleaves

/-- A client that is removed is told that there is no device. -/
theorem refuse_spec (h : s.Devices) (hleave : s.AllLeave) (o : Opener) (rc : ℤ) :
    ((s.removeClient o.who).callBack o rc none).Devices ∧
      ((s.removeClient o.who).callBack o rc none).AllLeave := by
  obtain ⟨hdevices, -, hgone⟩ := removeClient_spec h o.who
  exact ⟨hdevices.callBack o rc none,
    (AllLeave.removeClient h fun D who hwho _ => hleave D who hwho).refuse hgone rc⟩

theorem opened_spec (h : s.Devices) (hleave : s.AllLeave) {D : ℕ} {o : Opener}
    (hopen : (s.devices D).closing = false → s.closed o.who = false) :
    (s.opened D o).Devices ∧ (s.opened D o).AllLeave := by
  unfold opened
  split
  · exact refuse_spec h hleave o _
  · rename_i hclosing
    have hclosing : (s.devices D).closing = false := by simpa using hclosing
    have halive : (s.devices D).dev = true := by
      by_contra hdead
      rw [(h.dead D (by simpa using hdead)).1] at hclosing
      cases hclosing
    exact register_spec h hleave halive (hopen hclosing) _

/-! ### The steps -/

theorem resume_spec (h : s.Devices) (hleave : s.AllLeave)
    (hopened : ∀ id D loops, s.loops = .opened id D :: loops → (s.devices D).closing = false →
      s.MayTell id True)
    (hfailed : ∀ id rc loops, s.loops = .notifyOpenResult id rc :: loops → s.MayTell id False) :
    s.resume.Devices ∧ s.resume.AllLeave := by
  have hsame : ∀ t : Gnubbies, t.devices = s.devices → t.made = s.made →
      t.openDevs_ = s.openDevs_ → t.opens = s.opens → t.closed = s.closed → t.dev = s.dev →
      t.removals = s.removals → t.Devices ∧ t.AllLeave := by
    intro t hdevices hmade hopenDevs hopens hclosed hdev hremovals
    refine ⟨⟨?_, ?_, ?_, ?_, ?_, ?_, ?_⟩, fun D who hwho => ?_⟩
    · rw [hdevices, hmade, hopenDevs]
      exact h.alive
    · rw [hdevices]
      exact h.dead
    · rw [hdevices, hopenDevs]
      exact h.openDevs
    · rw [hdevices]
      exact h.unique
    · rw [hopens, hopenDevs]
      exact h.opening
    · rw [hdevices]
      exact h.clients
    · rw [hdevices]
      exact h.served
    · rw [hdevices] at hwho
      unfold Leaves
      rw [hclosed, hdev, hremovals]
      exact hleave D who hwho
  have hpending : ∀ id openers, (s.setPending id openers).Devices ∧ (s.setPending id openers).AllLeave :=
    fun id openers => hsame _ rfl rfl rfl rfl rfl rfl rfl
  unfold resume
  split
  · exact ⟨h, hleave⟩
  · rename_i id D loops hloops
    split
    · exact hsame _ rfl rfl rfl rfl rfl rfl rfl
    · exact hsame _ rfl rfl rfl rfl rfl rfl rfl
    · rename_i client openers hclient
      refine opened_spec (hpending id _).1 (hpending id _).2 fun hclosing => ?_
      exact (hopened id D loops hloops hclosing client openers hclient).1 trivial
  · rename_i id rc loops hloops
    split
    · exact hsame _ rfl rfl rfl rfl rfl rfl rfl
    · exact hsame _ rfl rfl rfl rfl rfl rfl rfl
    · rename_i client openers hclient
      have hgone := (hfailed id rc loops hloops client openers hclient).2 not_false
      exact ⟨(hpending id _).1.callBack client rc none, (hpending id _).2.refuse hgone rc⟩
  · exact hsame _ rfl rfl rfl rfl rfl rfl rfl
  · exact hsame _ rfl rfl rfl rfl rfl rfl rfl
  · split
    · exact hsame _ rfl rfl rfl rfl rfl rfl rfl
    · exact hsame _ rfl rfl rfl rfl rfl rfl rfl

theorem addClient_spec (h : s.Devices) (hleave : s.AllLeave) (which : GnubbyDeviceId) (who : ℕ)
    (horder : s.InOrder (.addClient which who)) :
    (s.addClient which who).Devices ∧ (s.addClient which who).AllLeave := by
  have hdevices : { s with adds := s.adds + 1 }.Devices :=
    ⟨h.alive, h.dead, h.openDevs, h.unique, h.opening, h.clients, h.served⟩
  have hleave' : { s with adds := s.adds + 1 }.AllLeave := hleave
  unfold addClient
  dsimp only
  split
  · exact refuse_spec hdevices hleave' ⟨who, s.adds⟩ _
  · rename_i hpresent
    split
    · rename_i id D hfind
      have hmem := List.mem_of_find?_eq_some hfind
      have hid : id = which := by simpa using List.find?_some hfind
      exact opened_spec hdevices hleave' fun _ => horder (not_not.1 hpresent) _ hmem hid
    · rename_i hfind
      split
      · exact ⟨⟨h.alive, h.dead, h.openDevs, h.unique, h.opening, h.clients, h.served⟩, hleave⟩
      · -- the device is not open
        refine ⟨⟨h.alive, h.dead, h.openDevs, h.unique, fun id hid entry hentry => ?_, h.clients,
          h.served⟩, hleave⟩
        rcases List.mem_append.1 hid with hid | hid
        · exact h.opening id hid entry hentry
        · rw [List.mem_singleton.1 hid]
          simpa using List.find?_eq_none.1 hfind entry hentry

/-- A device that has been opened joins the others. -/
theorem Devices.add (h : s.Devices) {which : GnubbyDeviceId} (hopen : which ∈ s.opens)
    (honce : which ∉ s.opens.erase which) :
    { s with
      opens := s.opens.erase which
      devices := Function.update s.devices s.made
        { id := which, dev := true, closing := false, clients := [], served := [] }
      made := s.made + 1
      openDevs_ := (s.openDevs_.filter fun entry : GnubbyDeviceId × ℕ => decide (entry.1 ≠ which)) ++
        [(which, s.made)] }.Devices := by
  have hold : ∀ D, (s.devices D).dev = true → D ≠ s.made ∧ (s.devices D).id ≠ which := by
    intro D hdev
    obtain ⟨hmade, hmem, -⟩ := h.alive D hdev
    exact ⟨Nat.ne_of_lt hmade, h.opening which hopen _ hmem⟩
  refine ⟨fun D hdev => ?_, fun D hdev => ?_, fun entry hentry => ?_, fun D₁ D₂ h₁ h₂ hid => ?_,
    fun id hid entry hentry => ?_, fun D => ?_, fun D hdev hserved => ?_⟩
  · by_cases hD : D = s.made
    · subst hD
      simp
    · simp only [Function.update_of_ne hD] at hdev ⊢
      obtain ⟨hmade, hmem, hclosing⟩ := h.alive D hdev
      refine ⟨Nat.lt_succ_of_lt hmade, List.mem_append_left _ (List.mem_filter.2 ⟨hmem, ?_⟩), hclosing⟩
      exact decide_eq_true (hold D hdev).2
  · by_cases hD : D = s.made
    · subst hD
      simp at hdev
    · simp only [Function.update_of_ne hD] at hdev ⊢
      exact h.dead D hdev
  · rcases List.mem_append.1 hentry with hentry | hentry
    · have hopenDev := h.openDevs entry (List.mem_of_mem_filter hentry)
      simp only [Function.update_of_ne (hold _ hopenDev.1).1]
      exact hopenDev
    · rw [List.mem_singleton.1 hentry]
      simp
  · by_cases hD₁ : D₁ = s.made
    · by_cases hD₂ : D₂ = s.made
      · exact hD₁.trans hD₂.symm
      · simp only [Function.update_of_ne hD₂] at h₂ hid
        subst hD₁
        simp only [Function.update_self] at hid
        exact absurd hid.symm (hold D₂ h₂).2
    · simp only [Function.update_of_ne hD₁] at h₁ hid
      by_cases hD₂ : D₂ = s.made
      · subst hD₂
        simp only [Function.update_self] at hid
        exact absurd hid (hold D₁ h₁).2
      · simp only [Function.update_of_ne hD₂] at h₂ hid
        exact h.unique D₁ D₂ h₁ h₂ hid
  · rcases List.mem_append.1 hentry with hentry | hentry
    · exact h.opening id (List.mem_of_mem_erase hid) entry (List.mem_of_mem_filter hentry)
    · rw [List.mem_singleton.1 hentry]
      rintro rfl
      exact honce hid
  · by_cases hD : D = s.made
    · subst hD
      simp
    · simp only [Function.update_of_ne hD]
      exact h.clients D
  · by_cases hD : D = s.made
    · subst hD
      simp at hserved
    · simp only [Function.update_of_ne hD] at hdev hserved ⊢
      exact h.served D hdev hserved

theorem openCb_spec (h : s.Devices) (hleave : s.AllLeave) {which : GnubbyDeviceId}
    (hopen : which ∈ s.opens) (honce : which ∉ s.opens.erase which) (rc : ℤ) (gnubby : Bool)
    (horder : s.MayTell which (rc = 0 ∧ gnubby = true)) :
    ({ s with opens := s.opens.erase which }.openCb which rc gnubby).Devices ∧
      ({ s with opens := s.opens.erase which }.openCb which rc gnubby).AllLeave := by
  have hfails : ∀ rc' : ℤ, ¬ (rc = 0 ∧ gnubby = true) →
      ({ s with opens := s.opens.erase which }.enter (.notifyOpenResult which rc')).Devices ∧
      ({ s with opens := s.opens.erase which }.enter (.notifyOpenResult which rc')).AllLeave := by
    intro rc' hnot
    refine resume_spec ⟨h.alive, h.dead, h.openDevs, h.unique,
      fun id hid => h.opening id (List.mem_of_mem_erase hid), h.clients, h.served⟩ hleave nofun ?_
    intro id rc loops hloops client openers hclient
    cases hloops
    exact ⟨False.elim, fun _ => (horder client openers hclient).2 hnot⟩
  unfold openCb
  split
  · rename_i hrc
    exact hfails rc fun hok => hrc hok.1
  split
  · rename_i hnone
    exact hfails _ fun hok => by simp [hok.2] at hnone
  · rename_i hrc hsome
    have hok : rc = 0 ∧ gnubby = true := ⟨not_not.1 hrc, by simpa using hsome⟩
    have hadd := h.add hopen honce
    have hleave' : ∀ D, ∀ who ∈ (Function.update s.devices s.made
        { id := which, dev := true, closing := false, clients := [], served := [] } D).clients,
        s.Leaves who := by
      intro D who hwho
      by_cases hD : D = s.made
      · subst hD
        simp at hwho
      · rw [Function.update_of_ne hD] at hwho
        exact hleave D who hwho
    refine resume_spec ⟨hadd.alive, hadd.dead, hadd.openDevs, hadd.unique, hadd.opening,
      hadd.clients, hadd.served⟩ hleave' ?_ nofun
    intro id D loops hloops _ client openers hclient
    cases hloops
    exact ⟨fun _ => (horder client openers hclient).1 hok, fun hno => absurd trivial hno⟩

theorem close_spec (h : s.Devices) (hleave : s.AllLeave) (who : ℕ) :
    (s.close who).Devices ∧ (s.close who).AllLeave := by
  unfold Gnubbies.close
  dsimp only
  split
  · rename_i hnone
    refine ⟨⟨h.alive, h.dead, h.openDevs, h.unique, h.opening, h.clients, h.served⟩,
      fun D who' hwho => ?_⟩
    obtain ⟨hsees, htimer⟩ := hleave D who' hwho
    by_cases hsame : who' = who
    · subst hsame
      refine ⟨by simp, fun _ => htimer ?_⟩
      by_contra hopen
      have hsome := hsees (by simpa using hopen)
      rw [hnone] at hsome
      cases hsome
    · simpa [Leaves, hsame] using And.intro hsees htimer
  · rename_i D₀ _
    refine ⟨⟨h.alive, h.dead, h.openDevs, h.unique, h.opening, h.clients, h.served⟩,
      fun D who' hwho => ?_⟩
    obtain ⟨hsees, htimer⟩ := hleave D who' hwho
    by_cases hsame : who' = who
    · subst hsame
      exact ⟨by simp, fun _ => ⟨(D₀, who'), by simp, rfl⟩⟩
    · refine ⟨fun hopen => ?_, fun hclosed => ?_⟩
      · simpa [hsame] using hsees (by simpa [hsame] using hopen)
      · obtain ⟨removal, hmem, heq⟩ := htimer (by simpa [hsame] using hclosed)
        exact ⟨removal, List.mem_append_left _ hmem, heq⟩

theorem removal_spec (h : s.Devices) (hleave : s.AllLeave) {i : ℕ} {removal : ℕ × ℕ}
    (hi : s.removals[i]? = some removal) :
    ({ s with removals := s.removals.eraseIdx i }.removeClient removal.2).Devices ∧
      ({ s with removals := s.removals.eraseIdx i }.removeClient removal.2).AllLeave := by
  have hdevices : { s with removals := s.removals.eraseIdx i }.Devices :=
    ⟨h.alive, h.dead, h.openDevs, h.unique, h.opening, h.clients, h.served⟩
  obtain ⟨hlt, hget⟩ := List.getElem?_eq_some_iff.1 hi
  refine ⟨(removeClient_spec hdevices removal.2).1,
    AllLeave.removeClient hdevices fun D who hwho hne => ?_⟩
  obtain ⟨hsees, htimer⟩ := hleave D who hwho
  refine ⟨hsees, fun hclosed => ?_⟩
  -- the timer of another client is still there
  obtain ⟨other, hmem, rfl⟩ := htimer hclosed
  have hsplit := (List.getElem_cons_eraseIdx_perm hlt).mem_iff.2 hmem
  rcases List.mem_cons.1 hsplit with rfl | hmem
  · exact absurd (congrArg Prod.snd hget) hne
  · exact ⟨other, hmem, rfl⟩

theorem publishFrame_spec (h : s.Devices) (hleave : s.AllLeave) {D : ℕ} (frame : List UInt8)
    (horder : s.InOrder (.publishFrame D frame)) :
    (s.publishFrame_ D frame).Devices ∧ (s.publishFrame_ D frame).AllLeave := by
  have hsub : DeviceClients.publishFrame_ s.closed (s.devices D).clients ⊆ (s.devices D).clients :=
    List.filter_sublist.subset
  constructor
  · have hset : (s.setDevice D { s.devices D with
        clients := DeviceClients.publishFrame_ s.closed (s.devices D).clients }).Devices := by
      refine h.setDevice (List.Subset.trans hsub (h.clients D)) (fun hdead => ?_)
        fun halive hserved hnil => ?_
      · rw [(h.dead D hdead).2]
        rfl
      · obtain ⟨who, hwho, hopen⟩ := horder (h.served D halive hserved)
        have hmem : who ∈ DeviceClients.publishFrame_ s.closed (s.devices D).clients :=
          List.mem_filter.2 ⟨hwho, by simp [hopen]⟩
        rw [hnil] at hmem
        cases hmem
    exact ⟨hset.alive, hset.dead, hset.openDevs, hset.unique, hset.opening, hset.clients, hset.served⟩
  · intro D' who hwho
    refine hleave D' who ?_
    by_cases hD : D' = D
    · subst hD
      simp only [Gnubbies.publishFrame_, Gnubbies.setDevice, Function.update_self] at hwho
      exact hsub hwho
    · simpa [Gnubbies.publishFrame_, Gnubbies.setDevice, hD] using hwho

/-- A client that is closed when it is closed already. -/
theorem close_closed (who : ℕ) :
    { s with closed := Function.update s.closed who true }.close who = s.close who := by
  simp only [Gnubbies.close, Function.update_idem]

theorem readFrame_spec (h : s.Devices) (hleave : s.AllLeave) (who : ℕ)
    (horder : s.InOrder (.readFrame who)) :
    (s.readFrame who).Devices ∧ (s.readFrame who).AllLeave := by
  have hread : ∀ rxframes, { s with rxframes := rxframes }.Devices ∧
      { s with rxframes := rxframes }.AllLeave := fun rxframes =>
    ⟨⟨h.alive, h.dead, h.openDevs, h.unique, h.opening, h.clients, h.served⟩, hleave⟩
  unfold Gnubbies.readFrame
  split
  · exact ⟨h, hleave⟩
  · rename_i f rxframes hfirst
    dsimp only
    split
    · rename_i hgone
      have horder := horder ⟨f, by rw [hfirst]; rfl, hgone⟩
      split
      · -- the client closes, and a timer removes it
        have hclose := close_closed
          (s := { s with rxframes := Function.update s.rxframes who rxframes }) who
        dsimp only at hclose
        rw [hclose]
        exact close_spec (hread _).1 (hread _).2 who
      · rename_i hstays
        refine ⟨⟨h.alive, h.dead, h.openDevs, h.unique, h.opening, h.clients, h.served⟩,
          fun D who' hwho => ?_⟩
        by_cases hsame : who' = who
        · subst hsame
          rcases horder with hidle | hclosed | hgone
          · exact absurd hidle hstays
          · exact ⟨by simp, fun _ => (hleave D who' hwho).2 hclosed⟩
          · exact absurd hwho (hgone D)
        · simpa [Leaves, hsame] using hleave D who' hwho
    · exact hread _

end

/-- **What a step in order keeps.** -/
theorem Holds.next {s : Gnubbies} (h : s.Holds) {e : Event} (hclients : e.OfClients)
    (horder : s.InOrder e) : (machine.next s e).Holds := by
  have hspec : (machine.next s e).Devices ∧ (machine.next s e).AllLeave := by
    cases e with
    | addClient which who =>
        simp only [Machine.next, machine]
        split
        · exact addClient_spec h.devices h.leave which who horder
        · exact ⟨h.devices, h.leave⟩
    | openCb which rc gnubby =>
        simp only [Machine.next, machine]
        split
        · rename_i hopen
          -- a device is opened once at a time
          have honce : which ∉ s.opens.erase which := by
            intro hmem
            have hopening := h.waiters.opening which
            have hpos := List.count_pos_iff.2 hmem
            rw [List.count_erase_self] at hpos
            split at hopening <;> omega
          exact openCb_spec h.devices h.leave hopen honce rc gnubby horder
        · exact ⟨h.devices, h.leave⟩
    | resume =>
        refine resume_spec h.devices h.leave ?_ ?_
        · intro id D loops hloops
          simpa [InOrder, hloops] using horder
        · intro id rc loops hloops
          simpa [InOrder, hloops] using horder
    | close who => exact close_spec h.devices h.leave who
    | removeClient i =>
        simp only [Machine.next, machine]
        split
        · exact ⟨h.devices, h.leave⟩
        · rename_i D who hi
          exact removal_spec h.devices h.leave hi
    | publishFrame D frame => exact publishFrame_spec h.devices h.leave frame horder
    | readFrame who => exact readFrame_spec h.devices h.leave who horder
    | setCid who cid =>
        have hdevices := h.devices
        exact ⟨⟨hdevices.alive, hdevices.dead, hdevices.openDevs, hdevices.unique, hdevices.opening,
          hdevices.clients, hdevices.served⟩, h.leave⟩
    | closeWhenIdle who =>
        have hdevices := h.devices
        exact ⟨⟨hdevices.alive, hdevices.dead, hdevices.openDevs, hdevices.unique, hdevices.opening,
          hdevices.clients, hdevices.served⟩, h.leave⟩
    | enumerate => exact hclients.elim
    | enumerated round nameSpace devs => exact hclients.elim
    | destroy D => exact hclients.elim
    | closeAll => exact hclients.elim
  exact ⟨kept_next h.waiters e, hspec.1, hspec.2⟩

theorem holds_new (namespaces : List JSString) (devs : JSString → Option (List ℕ)) :
    (new namespaces devs).Holds :=
  ⟨kept_new namespaces devs, ⟨nofun, fun _ _ => ⟨rfl, rfl⟩, nofun, nofun, nofun,
    fun _ => List.Subset.refl _, nofun⟩, nofun⟩

/-- **A device that has lost its clients is released**, in every run of clients whose steps are in
order. -/
theorem released (namespaces : List JSString) (devs : JSString → Option (List ℕ))
    {es : List Event} (hclients : ∀ e ∈ es, e.OfClients)
    (horder : machine.AllSteps InOrder (new namespaces devs) es) :
    machine.Always Released (new namespaces devs) es := by
  have hboth : machine.AllSteps (fun s e => e.OfClients ∧ s.InOrder e) (new namespaces devs) es := by
    rw [Machine.allSteps_iff] at horder ⊢
    rintro pre e post rfl
    exact ⟨hclients e (by simp), horder pre e post rfl⟩
  exact Machine.always_of_invariant (fun _ _ h he => Holds.next h he.1 he.2)
    (fun _ => Holds.toReleased) hboth (holds_new namespaces devs)

theorem mayTell_of {s : Gnubbies} {id : GnubbyDeviceId} {registers : Prop} {client : Opener}
    {openers : List Opener} (hpending : s.pendingOpens_ id = some (client :: openers))
    (hregisters : registers) (hopen : s.closed client.who = false) : s.MayTell id registers := by
  intro client' openers' hpending'
  rw [hpending] at hpending'
  cases hpending'
  exact ⟨fun _ => hopen, fun hno => absurd hregisters hno⟩

/-- A client is given a USB device and is closed. -/
def oneClient : List Event :=
  [.addClient ⟨js "usb", 0⟩ 7, .openCb ⟨js "usb", 0⟩ 0 true, .resume, .close 7]

theorem released_one : machine.Always Released (new [js "usb"] fun _ => some [0])
    (oneClient ++ [.removeClient 0]) := by
  refine released _ _ (List.forall_iff_forall_mem.1 (by simp [oneClient, Event.OfClients])) ?_
  refine ⟨fun _ => by decide, mayTell_of rfl (by decide) rfl, fun _ client openers h => ?_, trivial,
    trivial, trivial⟩
  -- no one waits any more
  have h : some [] = some (client :: openers) := h
  cases h

/-- **A frame takes the only client of a device from its list**, after which no one destroys the device. -/
theorem not_released : ¬ machine.Always Released (new [js "usb"] fun _ => some [0])
    (oneClient ++ [.publishFrame 0 (ChannelLock.busy 1), .removeClient 0]) := by
  intro h
  have hlast := h _ (List.prefix_refl _) 0 (by decide) (by decide) (by decide) (by decide)
  exact absurd hlast.1 (by decide)

/-- The only client of a device reads that the device is gone. -/
example : ¬ machine.Always Released (new [js "usb"] fun _ => some [0])
    (oneClient.take 3 ++ [.publishFrame 0 goneFrame, .readFrame 7]) := by
  intro h
  have hlast := h _ (List.prefix_refl _) 0 (by decide) (by decide) (by decide) (by decide)
  exact absurd hlast.1 (by decide)

end Gnubbies

end U2F
