/-
**The clients of a device, and the loop that reads for them.**

A low-level device keeps a list of its clients.  A client joins the list when it is registered, and
leaves it when it is deregistered or when a frame comes and it says that it is closed.  A HID device
reads as long as it has clients: the first one starts the read loop, and the loop ends when it finds
the list empty.

Main definitions:

* `DeviceClients.registerClient`, `DeviceClients.deregisterClient`, `DeviceClients.publishFrame_` —
  what happens to the list, which is the same for both drivers;
* `HidGnubbyDevice.ReadLoop` — a HID device as far as its read loop is concerned;
* `HidGnubbyDevice.readMachine` — what happens to it;
* `HidGnubbyDevice.ReadLoop.Single` — one receive is outstanding or the loop is scheduled once.

Main results:

* `HidGnubbyDevice.ReadLoop.Kept.next` — what a step keeps;
* `HidGnubbyDevice.single_iff` — **there is one read loop at most, exactly if no client joins a device
  that has lost its last one and whose loop goes on**.
-/

import U2F.Extension.HidGnubbyDevice
import U2F.Lib.Machine

set_option relaxedAutoImplicit false
set_option autoImplicit false

namespace U2F

/-! ### Lists of clients -/

namespace DeviceClients

/-- A frame is given to the clients; those that are closed leave. -/
def publishFrame_ (closed : ℕ → Bool) (clients : List ℕ) : List ℕ :=
  clients.filter fun client => !closed client

def registerClient (clients : List ℕ) (who : ℕ) : List ℕ :=
  if who ∈ clients then clients else clients ++ [who]

/-- The number of clients that remain, or -1 if there were none, and the clients. -/
def deregisterClient (clients : List ℕ) (who : ℕ) : ℤ × List ℕ :=
  if clients.length = 0 then (-1, clients)
  else
    let remaining := clients.filter (· ≠ who)
    (remaining.length, remaining)

def hasClient (clients : List ℕ) (who : ℕ) : Bool := who ∈ clients

theorem mem_registerClient {clients : List ℕ} {who client : ℕ} :
    client ∈ registerClient clients who ↔ client ∈ clients ∨ client = who := by
  unfold registerClient
  split
  · rename_i hmem
    exact ⟨.inl, fun h => h.elim id fun heq => heq ▸ hmem⟩
  · rw [List.mem_append, List.mem_singleton]

theorem hasClient_registerClient (clients : List ℕ) (who : ℕ) :
    hasClient (registerClient clients who) who = true :=
  decide_eq_true (mem_registerClient.2 (.inr rfl))

end DeviceClients

namespace HidGnubbyDevice

open DeviceClients

/-! ### The read loop -/

/-- A HID device as far as its read loop is concerned. -/
structure ReadLoop where
  dev : Bool
  closing : Bool
  updating : Bool
  clients : List ℕ
  /-- Whether a client is closed. -/
  closed : ℕ → Bool
  /-- How many calls of `chrome.hid.receive` are outstanding. -/
  receives : ℕ
  /-- How many timers with no delay will call `readLoop_`. -/
  timers : ℕ

namespace ReadLoop

/-- The constructor of the device, with the clients that are closed from the beginning. -/
def new (closed : ℕ → Bool) : ReadLoop :=
  { dev := true, closing := false, updating := false, clients := [], closed := closed
    receives := 0, timers := 0 }

def publishFrame_ (d : ReadLoop) : ReadLoop :=
  { d with clients := DeviceClients.publishFrame_ d.closed d.clients }

def destroy (d : ReadLoop) : ReadLoop :=
  if !d.dev then d
  else
    let d := { d with closing := true }.publishFrame_
    { d with closed := fun client => d.closed client || client ∈ d.clients, clients := [], dev := false }

def readLoop_ (d : ReadLoop) : ReadLoop :=
  if !d.dev then d
  else if d.closing then d.destroy
  else if d.clients.length = 0 then { d with closing := true }.destroy
  else if d.updating then d
  else { d with receives := d.receives + 1 }

def registerClient (d : ReadLoop) (who : ℕ) : ReadLoop :=
  if who ∈ d.clients then d
  else
    let d := { d with clients := DeviceClients.registerClient d.clients who }
    if d.clients.length = 1 then d.readLoop_ else d

def deregisterClient (d : ReadLoop) (who : ℕ) : ReadLoop :=
  { d with clients := (DeviceClients.deregisterClient d.clients who).2 }

end ReadLoop

/-- What happens to a device. -/
inductive ReadEvent
  | registerClient (who : ℕ)
  | deregisterClient (who : ℕ)
  /-- A client is closed. -/
  | closes (who : ℕ)
  /-- A receive that is outstanding is over, and has data. -/
  | received
  /-- The device makes up a frame for its clients. -/
  | publishFrame
  /-- A timer of the read loop fires, if there is one. -/
  | readLoop
  | destroy

/-- **The read loop as a reactive machine.** -/
def readMachine : Machine ReadLoop ReadEvent Unit where
  step d
    | .registerClient who => ((), d.registerClient who)
    | .deregisterClient who => ((), d.deregisterClient who)
    | .closes who => ((), { d with closed := Function.update d.closed who true })
    | .received =>
      if d.receives = 0 then ((), d)
      else
        let d := { d with receives := d.receives - 1 }.publishFrame_
        ((), { d with timers := d.timers + 1 })
    | .publishFrame => ((), d.publishFrame_)
    | .readLoop => ((), if d.timers = 0 then d else { d with timers := d.timers - 1 }.readLoop_)
    | .destroy => ((), d.destroy)

namespace ReadLoop

/-- **At most one receive is outstanding or one turn of the loop is scheduled**, and exactly one while
the device is alive and has a client. -/
structure Single (d : ReadLoop) : Prop where
  atMost : d.receives + d.timers ≤ 1
  alive : d.dev = true → d.clients ≠ [] → d.receives + d.timers = 1

/-- A client joins a device that has none only when the loop has ended. -/
def AfterLoop (d : ReadLoop) : ReadEvent → Prop
  | .registerClient _ => d.dev = true → d.clients = [] → d.receives + d.timers = 0
  | _ => True

/-- What holds at every point of a run. -/
structure Kept (d : ReadLoop) : Prop extends Single d where
  updating : d.updating = false
  closing : d.dev = true → d.closing = false

/-! ### What a step keeps -/

variable {d : ReadLoop}

/-- Only the clients change. -/
theorem Kept.clients (hd : d.Kept) {clients : List ℕ} (hclients : clients ≠ [] → d.clients ≠ []) :
    { d with clients := clients }.Kept :=
  ⟨⟨hd.atMost, fun hdev hne => hd.alive hdev (hclients hne)⟩, hd.updating, hd.closing⟩

theorem Kept.publishFrame (hd : d.Kept) : d.publishFrame_.Kept := by
  refine hd.clients fun hne hnil => hne ?_
  rw [hnil]
  rfl

theorem Kept.deregisterClient (hd : d.Kept) (who : ℕ) : (d.deregisterClient who).Kept := by
  refine hd.clients fun hne hnil => hne ?_
  rw [hnil]
  rfl

/-- A device that is destroyed reads no more; what is outstanding stays. -/
theorem kept_destroy (hatMost : d.receives + d.timers ≤ 1) (hupdating : d.updating = false)
    (halive : d.dev = false → d.Kept) : d.destroy.Kept := by
  unfold destroy
  split
  · rename_i hdead
    exact halive (by simpa using hdead)
  · exact ⟨⟨hatMost, nofun⟩, hupdating, nofun⟩

theorem Kept.destroy (hd : d.Kept) : d.destroy.Kept :=
  kept_destroy hd.atMost hd.updating fun _ => hd

/-- A turn of the loop, when nothing else goes on. -/
theorem kept_readLoop (hnone : d.receives + d.timers = 0) (hupdating : d.updating = false)
    (hclosing : d.dev = true → d.closing = false) : d.readLoop_.Kept := by
  have hle : d.receives + d.timers ≤ 1 := by omega
  unfold readLoop_
  split
  · rename_i hdead
    have hdead : d.dev = false := by simpa using hdead
    exact ⟨⟨hle, fun hdev => absurd (hdev.symm.trans hdead) (by simp)⟩, hupdating, hclosing⟩
  · rename_i halive
    have halive : d.dev = true := by simpa using halive
    rw [if_neg (by simp [hclosing halive])]
    split
    · exact kept_destroy hle hupdating fun hdead => absurd (halive.symm.trans hdead) (by simp)
    · rw [if_neg (by simp [hupdating])]
      have hone : d.receives + 1 + d.timers = 1 := by omega
      exact ⟨⟨hone.le, fun _ _ => hone⟩, hupdating, hclosing⟩

theorem Kept.registerClient (hd : d.Kept) {who : ℕ}
    (hafter : d.dev = true → d.clients = [] → d.receives + d.timers = 0) :
    (d.registerClient who).Kept := by
  unfold ReadLoop.registerClient
  split
  · exact hd
  · rename_i hnew
    have hclients : DeviceClients.registerClient d.clients who = d.clients ++ [who] := if_neg hnew
    dsimp only
    rw [hclients]
    by_cases hnil : d.clients = []
    · -- the first client starts the loop
      rw [hnil, List.nil_append, if_pos (show [who].length = 1 from rfl)]
      by_cases hdev : d.dev = true
      · exact kept_readLoop (d := { d with clients := [who] }) (hafter hdev hnil) hd.updating
          hd.closing
      · have hdead : { d with clients := [who] }.readLoop_ = { d with clients := [who] } :=
          if_pos (by simpa using hdev)
        rw [hdead]
        exact ⟨⟨hd.atMost, fun halive => absurd halive hdev⟩, hd.updating, hd.closing⟩
    · have hlength : (d.clients ++ [who]).length ≠ 1 := by
        have hpos := List.length_pos_iff.2 hnil
        rw [List.length_append, List.length_singleton]
        omega
      rw [if_neg hlength]
      exact hd.clients fun _ => hnil

/-- **What a step keeps.** -/
theorem Kept.next (hd : d.Kept) {e : ReadEvent} (hafter : d.AfterLoop e) :
    (readMachine.next d e).Kept := by
  have hatMost := hd.atMost
  cases e with
  | registerClient who => exact hd.registerClient hafter
  | deregisterClient who => exact hd.deregisterClient who
  | closes who => exact ⟨⟨hd.atMost, hd.alive⟩, hd.updating, hd.closing⟩
  | received =>
      simp only [Machine.next, readMachine]
      split
      · exact hd
      · rename_i hsome
        -- the receive that is over is followed by a turn of the loop
        have hsame : d.receives - 1 + (d.timers + 1) = d.receives + d.timers := by omega
        have hpublished := hd.publishFrame
        exact ⟨⟨hsame.trans_le hatMost, fun hdev hne => hsame.trans (hpublished.alive hdev hne)⟩,
          hd.updating, hd.closing⟩
  | publishFrame => exact hd.publishFrame
  | readLoop =>
      simp only [Machine.next, readMachine]
      split
      · exact hd
      · have hnone : d.receives + (d.timers - 1) = 0 := by omega
        exact kept_readLoop (d := { d with timers := d.timers - 1 }) hnone hd.updating hd.closing
  | destroy => exact hd.destroy

/-- A client that joins while the loop goes on starts another one. -/
theorem Kept.not_single (hd : d.Kept) {e : ReadEvent} (hearly : ¬ d.AfterLoop e) :
    ¬ (readMachine.next d e).Single := by
  cases e with
  | registerClient who =>
      simp only [AfterLoop, not_forall] at hearly
      obtain ⟨hdev, hnil, hsome⟩ := hearly
      have hregister : d.registerClient who =
          { d with clients := [who], receives := d.receives + 1 } := by
        simp [ReadLoop.registerClient, DeviceClients.registerClient, readLoop_, hnil, hdev,
          hd.closing hdev, hd.updating]
      intro hsingle
      have hatMost := hsingle.atMost
      rw [show readMachine.next d (.registerClient who) = d.registerClient who from rfl,
        hregister] at hatMost
      dsimp only at hatMost
      omega
  | _ => exact absurd trivial hearly

end ReadLoop

open ReadLoop

theorem kept_new (closed : ℕ → Bool) : (ReadLoop.new closed).Kept :=
  ⟨⟨Nat.zero_le _, fun _ hne => absurd rfl hne⟩, rfl, fun _ => rfl⟩

/-- **There is one read loop at most, exactly if no client joins a device that has lost its last one
and whose loop goes on**: at every point of every run. -/
theorem single_iff (closed : ℕ → Bool) (es : List ReadEvent) :
    readMachine.Always Single (ReadLoop.new closed) es ↔
      readMachine.AllSteps AfterLoop (ReadLoop.new closed) es := by
  constructor
  · intro halways
    by_contra hearly
    obtain ⟨pre, e, post, rfl, hafter, hstep⟩ := Machine.not_allSteps hearly
    have hpre : (readMachine.exec (ReadLoop.new closed) pre).Kept :=
      Machine.exec_invariant (fun _ _ hd he => hd.next he) hafter (kept_new closed)
    have hsingle := halways (pre ++ [e]) ⟨post, by simp⟩
    rw [Machine.exec_concat] at hsingle
    exact hpre.not_single hstep hsingle
  · intro hafter
    exact Machine.always_of_invariant (fun _ _ hd he => hd.next he) (fun _ hd => hd.toSingle) hafter
      (kept_new closed)

/-- A client is closed and leaves when the next frame comes; another one joins before the loop finds
the list empty. -/
def secondLoop : List ReadEvent := [.registerClient 1, .closes 1, .received, .registerClient 2]

/-- **Two loops read from one device.** -/
theorem not_single :
    ¬ readMachine.Always Single (ReadLoop.new fun _ => false) secondLoop := by
  intro h
  have hatMost := (h secondLoop (List.prefix_refl _)).atMost
  revert hatMost
  decide

end HidGnubbyDevice

end U2F
