/-
**Several hosts on one bus.**

`U2Fob_init` asks a device for a channel.  All hosts with an open handle see all reports of the
device, so a host takes the first response to an INIT that is on the channel it has asked on, has the
length of a response and carries its own nonce; whatever else comes before is skipped.  If the device
gives no channel to two nonces, hosts with different nonces end up on different channels, and from then
on each of them receives its own messages, however those of the others come in between.

Main definitions:

* `U2Fob_init` — the code;
* `IsResponse` — the report that the loop waits for;
* `Allocates` — what is assumed of the device;
* `OnChannels`, `reportsFor` — the reports for several hosts in one stream.

Main results:

* `U2Fob_init_spec` — which response the host takes;
* `hosts_apart` — **every host receives its own message**.
-/

import U2F.Hid.U2Fob

set_option relaxedAutoImplicit false
set_option autoImplicit false

namespace U2F.Hid

/-! ### The code -/

def U2FHID_INIT : UInt8 := TYPE_INIT ||| 6

def INIT_NONCE_SIZE : ℕ := 8

/-- `sizeof(U2FHID_INIT_RESP)` -/
def INIT_RESP_SIZE : ℕ := 17

/-- The frame that asks for a channel; what is behind the nonce is not set. -/
def challengeFrame (device : U2Fob) (nonce rest : List UInt8) : U2FHID_FRAME :=
  ⟨device.cid, (U2FHID_INIT ||| TYPE_INIT) :: 0 :: UInt8.ofNat INIT_NONCE_SIZE ::
    (nonce.take INIT_NONCE_SIZE ++ rest)⟩

/-- The channel in a response. -/
def newCid (response : U2FHID_FRAME) : UInt32 :=
  (getInt (response.init_data.getD 8 0) (response.init_data.getD 9 0)
    (response.init_data.getD 10 0) (response.init_data.getD 11 0)).toUInt32

/-- The loop of `U2Fob_init`, over the reports that come in time: the channel, and the input that is
left. -/
def initLoop (device : U2Fob) (challenge : U2FHID_FRAME) :
    List (List UInt8) → Except ℤ (UInt32 × List (List UInt8))
  | [] => (newCid ·, []) <$> U2Fob_receiveHidFrame device none
  | r :: input =>
    match U2Fob_receiveHidFrame device (some r) with
    | .error res => .error res
    | .ok response =>
      if response.cid ≠ challenge.cid then initLoop device challenge input
      else if response.init_cmd ≠ challenge.init_cmd then initLoop device challenge input
      else if MSG_LEN response ≠ INIT_RESP_SIZE then initLoop device challenge input
      else if response.init_data.take INIT_NONCE_SIZE ≠ challenge.init_data.take INIT_NONCE_SIZE then
        initLoop device challenge input
      else .ok (newCid response, input)

/-- The result, the device, the reports that are written and the input that is left; `nonce` is the
nonce once it has been mixed with random bytes. -/
def U2Fob_init (device : U2Fob) (nonce rest : List UInt8) (input : List (List UInt8)) :
    ℤ × U2Fob × List (List UInt8) × List (List UInt8) :=
  if !device.opened then (-ERR_OTHER, device, [], input)
  else
    let challenge := challengeFrame device nonce rest
    match initLoop device challenge input with
    | .error res => (res, device, [report challenge], [])
    | .ok (cid, input) => (0, { device with cid := cid }, [report challenge], input)

/-! ### The response that is taken -/

/-- The response to an INIT on a channel with a nonce. -/
structure IsResponse (cid : UInt32) (nonce r : List UInt8) : Prop where
  channel : (frameOf r).cid = cid
  command : (frameOf r).init_cmd = U2FHID_INIT ||| TYPE_INIT
  length : MSG_LEN (frameOf r) = INIT_RESP_SIZE
  nonce : (frameOf r).init_data.take INIT_NONCE_SIZE = nonce

theorem take_init_data_challengeFrame {device : U2Fob} {nonce rest : List UInt8}
    (hnonce : nonce.length = INIT_NONCE_SIZE) :
    (challengeFrame device nonce rest).init_data.take INIT_NONCE_SIZE = nonce := by
  change (nonce.take INIT_NONCE_SIZE ++ rest).take INIT_NONCE_SIZE = nonce
  rw [List.take_of_length_le (Nat.le_of_eq hnonce), ← hnonce, List.take_left]

section

variable {device : U2Fob} (hopened : device.opened = true) {nonce rest : List UInt8}
  (hnonce : nonce.length = INIT_NONCE_SIZE)
include hopened hnonce

/-- A report that is no response is skipped. -/
theorem initLoop_skip {r : List UInt8} (hr : r.length = 64)
    (hnot : ¬ IsResponse device.cid nonce r) (input : List (List UInt8)) :
    initLoop device (challengeFrame device nonce rest) (r :: input) =
      initLoop device (challengeFrame device nonce rest) input := by
  rw [initLoop, receiveHidFrame_some hopened hr, take_init_data_challengeFrame hnonce]
  dsimp only
  split_ifs with hcid hcmd hlen hsame
  · rfl
  · rfl
  · rfl
  · rfl
  · exact absurd ⟨not_not.1 hcid, not_not.1 hcmd, not_not.1 hlen, not_not.1 hsame⟩ hnot

theorem initLoop_take {r : List UInt8} (hr : r.length = 64) (h : IsResponse device.cid nonce r)
    (input : List (List UInt8)) :
    initLoop device (challengeFrame device nonce rest) (r :: input) =
      .ok (newCid (frameOf r), input) := by
  have hcid : (frameOf r).cid = (challengeFrame device nonce rest).cid := h.channel
  have hcmd : (frameOf r).init_cmd = (challengeFrame device nonce rest).init_cmd := h.command
  rw [initLoop, receiveHidFrame_some hopened hr, take_init_data_challengeFrame hnonce]
  dsimp only
  rw [if_neg (not_not.2 hcid), if_neg (not_not.2 hcmd), if_neg (not_not.2 h.length),
    if_neg (not_not.2 h.nonce)]

omit hnonce in
/-- The result is not 0 when no response comes. -/
theorem initLoop_error {challenge : U2FHID_FRAME} {input : List (List UInt8)}
    (hlength : ∀ r ∈ input, r.length = 64) {res : ℤ}
    (h : initLoop device challenge input = .error res) : res ≠ 0 := by
  induction input with
  | nil =>
      rw [initLoop, receiveHidFrame_none hopened] at h
      rw [← Except.error.inj h]
      decide
  | cons r input ih =>
      have htail : ∀ r ∈ input, r.length = 64 := fun r hr => hlength r (List.mem_cons_of_mem _ hr)
      rw [initLoop, receiveHidFrame_some hopened (hlength r List.mem_cons_self)] at h
      dsimp only at h
      split_ifs at h
      all_goals exact ih htail h

/-- **The host takes the first response with its nonce.** -/
theorem initLoop_eq_ok_iff {input : List (List UInt8)} (hlength : ∀ r ∈ input, r.length = 64)
    {cid : UInt32} {later : List (List UInt8)} :
    initLoop device (challengeFrame device nonce rest) input = .ok (cid, later) ↔
      ∃ skipped r, input = skipped ++ r :: later ∧
        (∀ r' ∈ skipped, ¬ IsResponse device.cid nonce r') ∧ IsResponse device.cid nonce r ∧
        newCid (frameOf r) = cid := by
  induction input with
  | nil =>
      rw [initLoop, receiveHidFrame_none hopened]
      refine ⟨nofun, ?_⟩
      rintro ⟨skipped, r, h, -⟩
      exact absurd h (by simp)
  | cons r input ih =>
      have hr := hlength r List.mem_cons_self
      have htail : ∀ r ∈ input, r.length = 64 := fun r hr => hlength r (List.mem_cons_of_mem _ hr)
      by_cases h : IsResponse device.cid nonce r
      · rw [initLoop_take hopened hnonce hr h]
        constructor
        · intro heq
          obtain ⟨rfl, rfl⟩ := Prod.mk.inj (Except.ok.inj heq)
          exact ⟨[], r, rfl, nofun, h, rfl⟩
        · rintro ⟨_ | ⟨r', skipped⟩, r'', heq, hskipped, -, rfl⟩
          · obtain ⟨rfl, rfl⟩ := List.cons.inj heq
            rfl
          · obtain ⟨rfl, -⟩ := List.cons.inj heq
            exact absurd h (hskipped r List.mem_cons_self)
      · rw [initLoop_skip hopened hnonce hr h, ih htail]
        constructor
        · rintro ⟨skipped, r', rfl, hskipped, hr', hcid⟩
          exact ⟨r :: skipped, r', rfl, List.forall_mem_cons.2 ⟨h, hskipped⟩, hr', hcid⟩
        · rintro ⟨_ | ⟨r', skipped⟩, r'', heq, hskipped, hr'', hcid⟩
          · obtain ⟨rfl, -⟩ := List.cons.inj heq
            exact absurd hr'' h
          · obtain ⟨rfl, rfl⟩ := List.cons.inj heq
            exact ⟨skipped, r'', rfl, (List.forall_mem_cons.1 hskipped).2, hr'', hcid⟩

/-- **What `U2Fob_init` does when it succeeds.** -/
theorem U2Fob_init_spec {input : List (List UInt8)} (hlength : ∀ r ∈ input, r.length = 64)
    (h : (U2Fob_init device nonce rest input).1 = 0) :
    ∃ skipped r later, input = skipped ++ r :: later ∧
      (∀ r' ∈ skipped, ¬ IsResponse device.cid nonce r') ∧ IsResponse device.cid nonce r ∧
      U2Fob_init device nonce rest input = (0, { device with cid := newCid (frameOf r) },
        [report (challengeFrame device nonce rest)], later) := by
  rw [U2Fob_init, hopened] at h ⊢
  simp only [Bool.not_true, Bool.false_eq_true, if_false] at h ⊢
  rcases hloop : initLoop device (challengeFrame device nonce rest) input with res | ⟨cid, later⟩
  · rw [hloop] at h
    exact absurd h (initLoop_error hopened hlength hloop)
  · obtain ⟨skipped, r, hinput, hskipped, hr, rfl⟩ :=
      (initLoop_eq_ok_iff hopened hnonce hlength).1 hloop
    exact ⟨skipped, r, later, hinput, hskipped, hr, rfl⟩

end

/-! ### Hosts -/

/-- A host that asks for a channel: its device, its nonce, what it sends behind it, and the reports
that it sees. -/
structure Host where
  device : U2Fob
  nonce : List UInt8
  rest : List UInt8
  input : List (List UInt8)

/-- The call of `U2Fob_init`. -/
def Host.init (host : Host) : ℤ × U2Fob × List (List UInt8) × List (List UInt8) :=
  U2Fob_init host.device host.nonce host.rest host.input

/-- The device of the host once it has asked. -/
def Host.joined (host : Host) : U2Fob := host.init.2.1

/-- **The device gives no channel to two nonces.** -/
def Allocates (bus : List (List UInt8)) : Prop :=
  ∀ r ∈ bus, ∀ r' ∈ bus, ∀ cid cid' nonce nonce', IsResponse cid nonce r →
    IsResponse cid' nonce' r' → newCid (frameOf r) = newCid (frameOf r') → nonce = nonce'

variable {ι : Type}

/-- Reports for hosts, each on the channel of the host that it is for. -/
def OnChannels (device : ι → U2Fob) (stream : List (ι × List UInt8)) : Prop :=
  ∀ p ∈ stream, p.2.length = 64 ∧ (channel p.2).toUInt32 = (device p.1).cid

/-- The reports for a host, in their order. -/
def reportsFor [DecidableEq ι] (i : ι) (stream : List (ι × List UInt8)) : List (List UInt8) :=
  (stream.filter (·.1 = i)).map (·.2)

/-- On different channels, the reports of a channel are those for its host. -/
theorem ownReports_stream [DecidableEq ι] {device : ι → U2Fob}
    (hdifferent : Function.Injective fun i => (device i).cid) {stream : List (ι × List UInt8)}
    (h : OnChannels device stream) (i : ι) :
    ownReports (device i).cid (stream.map (·.2)) = reportsFor i stream := by
  rw [ownReports, reportsFor, List.filter_map]
  congr 1
  refine List.filter_congr fun p hp => ?_
  rw [Function.comp_apply, (h p hp).2, decide_eq_decide]
  exact ⟨fun heq => hdifferent heq, fun heq => congrArg (fun i => (device i).cid) heq⟩

/-- **Every host receives its own message.**  If the hosts have different nonces and all of them have
got a channel, their channels are different.  From then on, in whatever order their reports come on
the bus, the reports of a host can be told from the others, and a host receives the next message for
it. -/
theorem hosts_apart [DecidableEq ι] {hosts : ι → Host} {bus : List (List UInt8)}
    (hopened : ∀ i, (hosts i).device.opened = true)
    (hnonce : ∀ i, (hosts i).nonce.length = INIT_NONCE_SIZE)
    (hdifferent : Function.Injective fun i => (hosts i).nonce)
    (hbus : ∀ r ∈ bus, r.length = 64) (hsees : ∀ i, (hosts i).input ⊆ bus)
    (hallocates : Allocates bus) (hinit : ∀ i, (hosts i).init.1 = 0) :
    (Function.Injective fun i => (hosts i).joined.cid) ∧
      ∀ stream : List (ι × List UInt8), OnChannels (fun i => (hosts i).joined) stream → ∀ i,
        ownReports (hosts i).joined.cid (stream.map (·.2)) = reportsFor i stream ∧
        ∀ (pad cmd : UInt8) (data : List UInt8) (more : List (List UInt8)) (max : ℕ),
          cmd &&& TYPE_MASK = TYPE_INIT → cmd ≠ U2FHID_ERROR → data.length ≤ 7609 →
          data.length ≤ max →
          reportsFor i stream = frames pad (hosts i).joined.cid.toInt32 cmd data ++ more →
          U2Fob_recv (hosts i).joined max (stream.map (·.2)) = ⟨data.length, some cmd, data⟩ := by
  have hspec : ∀ i, ∃ r ∈ bus, IsResponse (hosts i).device.cid (hosts i).nonce r ∧
      (hosts i).joined = { (hosts i).device with cid := newCid (frameOf r) } := by
    intro i
    obtain ⟨skipped, r, later, hinput, -, hr, heq⟩ := U2Fob_init_spec (hopened i) (hnonce i)
      (fun r hr => hbus r (hsees i hr)) (hinit i)
    refine ⟨r, hsees i (by rw [hinput]; simp), hr, ?_⟩
    rw [Host.joined, Host.init, heq]
  have hcids : Function.Injective fun i => (hosts i).joined.cid := by
    intro i j hij
    obtain ⟨r, hr, hresponse, hjoined⟩ := hspec i
    obtain ⟨r', hr', hresponse', hjoined'⟩ := hspec j
    dsimp only at hij
    rw [hjoined, hjoined'] at hij
    exact hdifferent (hallocates r hr r' hr' _ _ _ _ hresponse hresponse' hij)
  refine ⟨hcids, fun stream hstream i => ?_⟩
  have hown := ownReports_stream hcids hstream i
  refine ⟨hown, fun pad cmd data more max htype herror hdata hmax hframes => ?_⟩
  have hopen : (hosts i).joined.opened = true := by
    obtain ⟨_, _, _, hjoined⟩ := hspec i
    rw [hjoined]
    exact hopened i
  have hlength : ∀ r ∈ stream.map (·.2), r.length = 64 := by
    intro r hr
    obtain ⟨p, hp, rfl⟩ := List.mem_map.1 hr
    exact (hstream p hp).1
  rw [← recv_filter hopen hlength, hown, hframes]
  exact recv_frames_of_pad hopen htype herror hdata hmax more

/-! ### Two hosts -/

/-- The response to an INIT: the nonce, the channel, and five bytes about the device. -/
def responseFrame (nonce : List UInt8) (cid : UInt32) : List UInt8 :=
  initFrame 0 (-1) (U2FHID_INIT ||| TYPE_INIT) (nonce ++ putInt cid.toInt32 ++ [2, 1, 0, 0, 1])

/-- Two hosts ask on the broadcast channel, and both see the responses to both. -/
def twoHosts (i : Bool) : Host where
  device := ⟨true, 0xffffffff⟩
  nonce := List.replicate 8 (if i then 2 else 1)
  rest := List.replicate 49 0
  input := [responseFrame (List.replicate 8 2) 6, responseFrame (List.replicate 8 1) 5]

theorem isResponse_responseFrame {cid : UInt32} {nonce r : List UInt8}
    (hr : r ∈ (twoHosts false).input) (h : IsResponse cid nonce r) :
    nonce = List.replicate 8 2 ∧ newCid (frameOf r) = 6 ∨
      nonce = List.replicate 8 1 ∧ newCid (frameOf r) = 5 := by
  rcases List.mem_pair.1 hr with rfl | rfl
  · exact .inl ⟨h.nonce.symm.trans rfl, rfl⟩
  · exact .inr ⟨h.nonce.symm.trans rfl, rfl⟩

/-- The frames of two messages, one for each of the hosts, come alternately. -/
theorem hosts_apart_twoHosts :
    (twoHosts false).joined.cid ≠ (twoHosts true).joined.cid ∧
      U2Fob_recv (twoHosts false).joined 60
          [initFrame 0 6 0x83 [7], initFrame 0 5 0x83 (List.replicate 60 9),
            contFrame 0 5 (List.replicate 60 9) 0] =
        ⟨60, some 0x83, List.replicate 60 9⟩ := by
  have hdifferent : Function.Injective fun i => (twoHosts i).nonce := by
    unfold Function.Injective
    decide
  have hallocates : Allocates (twoHosts false).input := by
    intro r hr r' hr' cid cid' nonce nonce' h h' hcid
    rcases isResponse_responseFrame hr h with ⟨rfl, hr⟩ | ⟨rfl, hr⟩ <;>
      rcases isResponse_responseFrame hr' h' with ⟨rfl, hr'⟩ | ⟨rfl, hr'⟩ <;>
      simp_all
  have hon : OnChannels (fun i => (twoHosts i).joined) [(true, initFrame 0 6 0x83 [7]),
      (false, initFrame 0 5 0x83 (List.replicate 60 9)),
      (false, contFrame 0 5 (List.replicate 60 9) 0)] := by
    intro p hp
    simp only [List.mem_cons, List.not_mem_nil, or_false] at hp
    rcases hp with rfl | rfl | rfl
    · exact ⟨length_initFrame _ _ _ _, rfl⟩
    · exact ⟨length_initFrame _ _ _ _, rfl⟩
    · exact ⟨length_contFrame _ _ _ _, rfl⟩
  have hbus : ∀ r ∈ (twoHosts false).input, r.length = 64 := by
    intro r hr
    rcases List.mem_pair.1 hr with rfl | rfl <;> exact length_initFrame _ _ _ _
  obtain ⟨hcids, hstream⟩ := @hosts_apart Bool _ twoHosts _ (fun _ => rfl)
    (fun _ => List.length_replicate) hdifferent hbus (fun _ => List.Subset.refl _) hallocates
    (fun i => by cases i <;> rfl)
  refine ⟨fun h => absurd (hcids h) (by decide), ?_⟩
  exact (hstream _ hon false).2 0 0x83 (List.replicate 60 9) [] 60 rfl (by decide) (by decide)
    (Nat.le_refl 60) rfl

end U2F.Hid
