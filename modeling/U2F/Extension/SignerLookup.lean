/-
**The entry that a reply is for.**

A signer keeps the browser data and the challenges of its request by key handle, and looks both up
under the key handle of the reply.  The key handle of the reply is not the one of the request: it has
been decoded for the gnubby and encoded again for the reply.

Main definitions:

* `Signer.Prepared` — what a signer that has run its handler has stored;
* `Signer.ReachesPage` — a reply for an entry reaches the page with that entry and its browser data;
* `Recoverable` — the key handle of the entry is spelt as the encoder spells it, and the last entry
  under it is this one.

Main results:

* `Signer.lookup_storedChallenges`, `Signer.lookup_storedBrowserData` — what is found under a key
  handle;
* `Signer.signatureReachesPage_iff` — **a reply reaches the page with the client data that was
  signed exactly if its entry is recoverable**.
-/

import Mathlib.Data.List.Find
import U2F.Extension.AppIds
import U2F.Extension.UsbSignHandler
import U2F.Lib.FirstMatch

set_option relaxedAutoImplicit false
set_option autoImplicit false

namespace U2F

/-! ### The last entry under a key handle -/

/-- The last entry with the given key handle. -/
def lastWith (signChallenges : List SignChallenge) (keyHandle : JSString) : Option SignChallenge :=
  signChallenges.reverse.find? fun c => c.keyHandle = some keyHandle

/-- A key handle that is spelt as the encoder spells its bytes. -/
def Canonical (keyHandle : JSString) : Prop :=
  B64_encode ((B64_decode keyHandle).map UInt8.toNat) = keyHandle

/-- The entry's key handle is canonical, and the last entry with this key handle is the same. -/
def Recoverable (signChallenges : List SignChallenge) (c : SignChallenge) : Prop :=
  ∃ keyHandle, c.keyHandle = some keyHandle ∧ Canonical keyHandle ∧
    lastWith signChallenges keyHandle = some c

theorem keyHandle_of_lastWith {signChallenges : List SignChallenge} {keyHandle : JSString}
    {c : SignChallenge} (h : lastWith signChallenges keyHandle = some c) :
    c.keyHandle = some keyHandle := by
  simpa using List.find?_some h

/-- No text of the encoder is `__proto__`, which has nine characters. -/
theorem B64_encode_ne_PROTO (bytes : List ℕ) : B64_encode bytes ≠ PROTO := by
  intro h
  have hlength := length_B64_encode bytes
  rw [h] at hlength
  have hproto : PROTO.length = 9 := by decide
  omega

/-- An encoded challenge has the key handle of its challenge, and the hash for it. -/
theorem encodeSignChallenge_keyHandle {P : Primitives} {defaultChallenge defaultAppId : Option JSString}
    {challengeHashFn : Option JSString → Option JSString → Option JSString}
    {challenge : SignChallenge} {encoded : SignHelperChallenge}
    (h : encodeSignChallenge P defaultChallenge defaultAppId challengeHashFn challenge =
      some encoded) :
    encoded.keyHandle = challenge.keyHandle ∧
      challengeHashFn challenge.keyHandle (challenge.challengeOr defaultChallenge) =
        some encoded.challengeHash := by
  simp only [encodeSignChallenge, Option.bind_eq_bind, Option.bind_eq_some_iff, Option.pure_def,
    Option.some_inj] at h
  obtain ⟨challengeHash, hhash, appId, -, rfl⟩ := h
  exact ⟨rfl, hhash⟩

/-- The reply of a handler, as the signer is given it. -/
def SignHandlerReply.toHelper (reply : SignHandlerReply) : SignHelperReply :=
  ⟨some reply.code, js "sign_helper_reply",
    reply.responseData.map fun data => (data.keyHandle, data.signatureData)⟩

/-- Every entry of a valid request has a key handle. -/
theorem keyHandle_of_isValidSignRequest {request : U2fRequest}
    (h : isValidSignRequest request = true) :
    ∀ c ∈ signChallengesOf request, ∃ keyHandle, c.keyHandle = some keyHandle := by
  intro c hc
  unfold isValidSignRequest at h
  unfold signChallengesOf at hc
  cases hchallenges : getSignChallenges request with
  | none => simp [hchallenges] at h
  | some signChallenges =>
      simp only [hchallenges, Option.getD_some] at h hc
      split at h
      · cases h
      · have hentry := List.all_eq_true.1 h c hc
        simp only [isValidRegisteredKey] at hentry
        refine Option.isSome_iff_exists.1 (Option.isSome_iff_ne_none.2 ?_)
        rintro hnone
        simp [hnone] at hentry

namespace Signer

variable (P : Primitives) (request : U2fRequest) (sender : WebRequestSender)

/-! ### What is stored -/

/-- The browser data of an entry. -/
def browserDataOf (c : SignChallenge) : JSString :=
  P.makeSignBrowserData ((c.challengeOr request.challenge).getD []) sender

/-- The browser data as `doSign_` stores it, the last one first. -/
def storedBrowserData (signChallenges : List SignChallenge) : List (JSString × JSString) :=
  (signChallenges.reverse.filter fun c => propertyName c.keyHandle ≠ PROTO).map fun c =>
    (propertyName c.keyHandle, browserDataOf P request sender c)

/-- The challenges as `doSign_` stores them, the last one first. -/
def storedChallenges (signChallenges : List SignChallenge) : List (JSString × SignChallenge) :=
  signChallenges.reverse.map fun c => (propertyName c.keyHandle, c)

variable {request sender}

theorem createBrowserData_stores {signChallenges : List SignChallenge} {s t : Signer}
    (hdefault : s.defaultChallenge = request.challenge) (hsender : s.sender = sender)
    (h : s.createBrowserData P signChallenges = (true, t)) :
    t.browserData = storedBrowserData P request sender signChallenges ++ s.browserData ∧
      t.serverChallenges = storedChallenges signChallenges ++ s.serverChallenges := by
  induction signChallenges generalizing s with
  | nil =>
      cases h
      exact ⟨rfl, rfl⟩
  | cons c rest ih =>
      simp only [createBrowserData] at h
      split at h
      case isFalse => cases h
      case isTrue =>
        obtain ⟨hdata, hchallenges⟩ := ih (s := s.putBrowserData c _) hdefault hsender h
        rw [hdata, hchallenges]
        subst hsender
        constructor
        · by_cases hproto : propertyName c.keyHandle = PROTO
          · simp [storedBrowserData, putBrowserData, hproto]
          · simp [storedBrowserData, putBrowserData, hproto, browserDataOf, hdefault]
        · simp [storedChallenges, putBrowserData]

/-- A key handle names one property. -/
theorem beq_propertyName {c : SignChallenge} (hc : ∃ keyHandle, c.keyHandle = some keyHandle)
    (key : JSString) : (key == propertyName c.keyHandle) = decide (c.keyHandle = some key) := by
  obtain ⟨keyHandle, hkey⟩ := hc
  rw [Bool.eq_iff_iff, beq_iff_eq, decide_eq_true_iff, hkey, Option.some_inj, propertyName,
    Option.getD_some]
  exact eq_comm

/-- The challenge that is found under a key handle. -/
theorem lookup_storedChallenges {signChallenges : List SignChallenge}
    (hkeys : ∀ c ∈ signChallenges, ∃ keyHandle, c.keyHandle = some keyHandle) (key : JSString) :
    (storedChallenges signChallenges).lookup key = lastWith signChallenges key := by
  rw [storedChallenges, FirstMatch.lookup_map_key, Option.map_id', lastWith]
  refine List.find?_congr fun c hc => ?_
  exact beq_propertyName (hkeys c (List.mem_reverse.1 hc)) key

/-- The browser data that is found under a key handle other than `__proto__`. -/
theorem lookup_storedBrowserData {signChallenges : List SignChallenge}
    (hkeys : ∀ c ∈ signChallenges, ∃ keyHandle, c.keyHandle = some keyHandle) {key : JSString}
    (hproto : key ≠ PROTO) :
    (storedBrowserData P request sender signChallenges).lookup key =
      (lastWith signChallenges key).map (browserDataOf P request sender) := by
  rw [storedBrowserData, FirstMatch.lookup_map_key, List.find?_filter, lastWith]
  congr 1
  refine List.find?_congr fun c hc => ?_
  have hnamed := beq_propertyName (hkeys c (List.mem_reverse.1 hc)) key
  by_cases heq : key = propertyName c.keyHandle
  · simp [← hnamed, ← heq, hproto]
  · simp [← hnamed, heq]

variable (request sender)

/-- What a signer has stored, given the request that its handler was run with. -/
structure Stored (s : Signer) (helperRequest : HelperRequest) : Prop where
  browserData : s.browserData = storedBrowserData P request sender (signChallengesOf request)
  serverChallenges : s.serverChallenges = storedChallenges (signChallengesOf request)
  encoded : encodeSignChallenges P (some (signChallengesOf request)) request.challenge
    (signAppIdOf request) (s.getChallengeHash P) = some helperRequest.signData

/-- What holds of a signer at every point of a run on a request: as long as it waits for its app ids
it has stored nothing, and what it has stored when it runs its handler stays. -/
structure Prepared (s : Signer) : Prop where
  set : s.challengesSet = true ∨ s.done = true
  fields : s.awaiting ≠ .nothing → s.signChallenges = signChallengesOf request ∧
    s.defaultChallenge = request.challenge ∧ s.appId = signAppIdOf request ∧ s.sender = sender
  fresh : s.awaiting ≠ .nothing → s.browserData = [] ∧ s.serverChallenges = [] ∧ s.ran = []
  stored : ∀ helperRequest ∈ s.ran, Stored P request sender s helperRequest

variable {P request sender}

theorem Prepared.notify (call : SignerCall) {s : Signer} (hs : s.Prepared P request sender) :
    (s.notify call).1.Prepared P request sender := by
  unfold Signer.notify
  split
  · exact hs
  · refine ⟨.inr rfl, hs.fields, hs.fresh, fun helperRequest hran => ?_⟩
    have hstored := hs.stored helperRequest hran
    exact ⟨hstored.browserData, hstored.serverChallenges, hstored.encoded⟩

/-- A signer that waits for nothing. -/
theorem Prepared.of_nothing {s : Signer} (hset : s.challengesSet = true ∨ s.done = true)
    (hawaiting : s.awaiting = .nothing)
    (hstored : ∀ helperRequest ∈ s.ran, Stored P request sender s helperRequest) :
    s.Prepared P request sender :=
  ⟨hset, fun h => absurd hawaiting h, fun h => absurd hawaiting h, hstored⟩

/-- Creating the browser data of a request that is signed stores it. -/
theorem stored_createBrowserData {s t : Signer}
    (hfields : s.signChallenges = signChallengesOf request ∧
      s.defaultChallenge = request.challenge ∧ s.appId = signAppIdOf request ∧ s.sender = sender)
    (hfresh : s.browserData = [] ∧ s.serverChallenges = [] ∧ s.ran = [])
    (hcreated : s.createBrowserData P s.signChallenges = (true, t)) {helperRequest : HelperRequest}
    (hrequest : t.signRequest P = some helperRequest) :
    Stored P request sender t helperRequest := by
  obtain ⟨hchallenges, hdefault, happId, hsender⟩ := hfields
  obtain ⟨hnodata, hnochallenges, -⟩ := hfresh
  obtain ⟨hdata, hstored⟩ := createBrowserData_stores P hdefault hsender hcreated
  obtain ⟨_, _, ht⟩ := s.createBrowserData_eq P s.signChallenges
  rw [hcreated] at ht
  obtain ⟨encodedChallenges, hencoded, rfl⟩ := Option.map_eq_some_iff.1 hrequest
  refine ⟨by rw [hdata, hnodata, hchallenges, List.append_nil],
    by rw [hstored, hnochallenges, hchallenges, List.append_nil], ?_⟩
  dsimp only at ht
  subst ht
  rw [← hchallenges, ← hdefault, ← happId]
  exact hencoded

/-- Signing stores the browser data before it runs the handler. -/
theorem Prepared.doSign {s : Signer} (hs : s.Prepared P request sender) {appIds : List JSString}
    (hawaiting : s.awaiting = .appIdCheck appIds) (helper : Option (HandlerRun SignHelperReply)) :
    ({ s with awaiting := .nothing, checked := s.checked ++ [appIds] }.doSign P helper).1.Prepared P
      request sender := by
  have hfields := hs.fields (by simp [hawaiting])
  have hfresh := hs.fresh (by simp [hawaiting])
  obtain ⟨_, _, hdata⟩ := createBrowserData_eq P s.signChallenges
    { s with awaiting := .nothing, checked := s.checked ++ [appIds] }
  unfold Signer.doSign
  dsimp only
  cases hcreated : createBrowserData P s.signChallenges
    { s with awaiting := .nothing, checked := s.checked ++ [appIds] } with
  | mk created t =>
    rw [hcreated] at hdata
    dsimp only at hdata
    -- without a handler that was run there is nothing to keep
    have hquiet : ∀ handler : Option HelperRequest,
        ({ t with handler := handler } : Signer).Prepared P request sender := by
      intro handler
      subst hdata
      exact .of_nothing hs.set rfl (by simp [hfresh.2.2])
    cases created with
    | false => exact .notify _ (hquiet t.handler)
    | true =>
        dsimp only
        split
        · exact hquiet t.handler
        · exact .notify _ (hquiet none)
        · rename_i helperRequest run hrequest
          have hstored := stored_createBrowserData
            (s := { s with awaiting := .nothing, checked := s.checked ++ [appIds] }) hfields hfresh
            hcreated hrequest
          have hrun : ({ t with handler := some helperRequest, ran := t.ran ++ [helperRequest] } :
              Signer).Prepared P request sender := by
            subst hdata
            refine .of_nothing hs.set rfl fun other hother => ?_
            obtain rfl : other = helperRequest := by simpa [hfresh.2.2] using hother
            exact ⟨hstored.browserData, hstored.serverChallenges, hstored.encoded⟩
          split
          · exact helperReplies_keeps Prepared.notify _ hrun
          · exact .notify _ (helperReplies_keeps Prepared.notify _ hrun)

theorem Prepared.next {s : Signer} (e : Event) (hs : s.Prepared P request sender) :
    ((machine P).next s e).Prepared P request sender := by
  have hstored : ∀ t : Signer, t.ran = s.ran → t.browserData = s.browserData →
      t.serverChallenges = s.serverChallenges →
      ∀ helperRequest ∈ t.ran, Stored P request sender t helperRequest := by
    intro t hran hdata hchallenges helperRequest hmem
    have h := hs.stored helperRequest (hran ▸ hmem)
    refine ⟨hdata.trans h.browserData, hchallenges.trans h.serverChallenges, ?_⟩
    have hhash : t.getChallengeHash P = s.getChallengeHash P := by
      funext keyHandle challenge
      simp only [getChallengeHash, browserDataAt, hdata]
    rw [hhash]
    exact h.encoded
  change (s.handle P e).1.Prepared P request sender
  cases e with
  | setChallenges signChallenges defaultChallenge appId =>
      simp only [handle, setChallenges, hs.set, if_true]
      exact hs
  | timerTick => exact ⟨hs.set, hs.fields, hs.fresh, hstored _ rfl rfl rfl⟩
  | originChecked result =>
      simp only [handle, Signer.originChecked]
      split
      case h_1 appIds hawaiting =>
        have hwaits : s.awaiting ≠ .nothing := by simp [hawaiting]
        split
        · exact ⟨hs.set, fun _ => hs.fields hwaits, fun _ => hs.fresh hwaits,
            hstored _ rfl rfl rfl⟩
        · exact .notify _ (.of_nothing hs.set rfl (hstored _ rfl rfl rfl))
      case h_2 => exact hs
  | appIdChecked result helper =>
      simp only [handle, Signer.appIdChecked]
      split
      case h_1 appIds hawaiting =>
        split
        · exact hs.doSign hawaiting helper
        · exact .notify _ (.of_nothing hs.set rfl (hstored _ rfl rfl rfl))
      case h_2 => exact hs
  | checkRejected => exact .of_nothing hs.set rfl (hstored _ rfl rfl rfl)
  | helperComplete reply =>
      simp only [handle]
      split
      · exact hs
      · exact helperComplete_keeps Prepared.notify reply hs
  | close => exact .notify _ ⟨hs.set, hs.fields, hs.fresh, hstored _ rfl rfl rfl⟩

/-- A signer that has just been given the challenges of the request. -/
theorem prepared_start (timer : CountdownTimer) :
    (start timer sender request).Prepared P request sender := by
  unfold start setChallenges
  rw [if_neg (by simp [new])]
  split
  · have hdone : ((new timer sender request.logMsgUrl).notifyError (.ofCode .TIMEOUT)).1.done =
        true := rfl
    exact .of_nothing (.inr hdone) rfl fun helperRequest h => absurd h List.not_mem_nil
  · unfold checkAppIds
    dsimp only
    split
    · exact .notify _ (.of_nothing (.inl rfl) rfl (by simp [new]))
    · exact ⟨.inl rfl, fun _ => ⟨rfl, rfl, rfl, rfl⟩, fun _ => ⟨rfl, rfl, rfl⟩, by simp [new]⟩

/-! ### Looking up the entry of a reply -/

/-- The request that the handler was run with encodes each entry at its place. -/
theorem Stored.encodes {s : Signer} {helperRequest : HelperRequest}
    (hs : Stored P request sender s helperRequest) {i : ℕ} {c : SignChallenge}
    {encoded : SignHelperChallenge} (hc : (signChallengesOf request)[i]? = some c)
    (hencoded : helperRequest.signData[i]? = some encoded) :
    encodeSignChallenge P request.challenge (signAppIdOf request) (s.getChallengeHash P) c =
      some encoded := by
  obtain ⟨hi, rfl⟩ := List.getElem?_eq_some_iff.1 hc
  obtain ⟨hi', rfl⟩ := List.getElem?_eq_some_iff.1 hencoded
  exact (Traverse.mapM_eq_some_iff.1 hs.encoded).get hi hi'

/-- What is found under a key handle that the encoder has spelt. -/
theorem Stored.lookup {s : Signer} {helperRequest : HelperRequest}
    (hs : Stored P request sender s helperRequest) (hvalid : isValidSignRequest request = true)
    {key : JSString} (hproto : key ≠ PROTO) :
    s.serverChallenges.lookup key = lastWith (signChallengesOf request) key ∧
      ∀ c, lastWith (signChallengesOf request) key = some c →
        s.browserDataAt key = some (browserDataOf P request sender c) := by
  have hkeys := keyHandle_of_isValidSignRequest hvalid
  refine ⟨by rw [hs.serverChallenges, lookup_storedChallenges hkeys], fun c hc => ?_⟩
  have hdata : (storedBrowserData P request sender (signChallengesOf request)).lookup key =
      some (browserDataOf P request sender c) := by
    rw [lookup_storedBrowserData P hkeys hproto, hc, Option.map_some]
  simp only [browserDataAt, hs.browserData, hdata]

variable (P request sender)

/-- The reply with a signature of the decoded entry `c` has the caller notified of success with the
entry, the signature and the browser data that holds the entry's own challenge, and this has the hash
that was sent for the entry. -/
def ReachesPage (s : Signer) (c : SignChallenge) (encoded : SignHelperChallenge)
    (decoded : DecodedChallenge) (info : List UInt8) : Prop :=
  (s.helperComplete (UsbSignHandler.successReply decoded info).toHelper).2 =
      [.success (some c) (B64_encode (info.map UInt8.toNat))
        (some (browserDataOf P request sender c))] ∧
    P.hash (browserDataOf P request sender c) = encoded.challengeHash

variable {request sender}

/-- What the caller of a signer that is not done is told when a gnubby has signed. -/
theorem helperComplete_successReply {s : Signer} (hdone : s.done = false)
    (decoded : DecodedChallenge) (info : List UInt8) :
    let key := B64_encode (decoded.keyHandle.map UInt8.toNat)
    (s.helperComplete (UsbSignHandler.successReply decoded info).toHelper).2 =
      [.success (s.serverChallenges.lookup key) (B64_encode (info.map UInt8.toNat))
        (s.browserDataAt key)] := by
  have hfailed : (UsbSignHandler.successReply decoded info).toHelper.failed = false := rfl
  have htype : ¬ (UsbSignHandler.successReply decoded info).toHelper.content.type ≠
      js "sign_helper_reply" := not_not_intro rfl
  unfold helperComplete
  rw [if_neg htype, hfailed]
  simp [SignHandlerReply.toHelper, UsbSignHandler.successReply, notifySuccess, Signer.notify, hdone]

/-- The reply for an entry finds the entry and its browser data exactly if it is recoverable. -/
theorem Stored.reachesPage_iff {s : Signer} {helperRequest : HelperRequest}
    (hs : Stored P request sender s helperRequest) (hvalid : isValidSignRequest request = true)
    (hdone : s.done = false) {i : ℕ} {c : SignChallenge}
    (hc : (signChallengesOf request)[i]? = some c) {encoded : SignHelperChallenge}
    (hencoded : helperRequest.signData[i]? = some encoded) {decoded : DecodedChallenge}
    (hdecoded : MultipleGnubbySigner.decodeChallenge encoded = some decoded) (info : List UInt8) :
    ReachesPage P request sender s c encoded decoded info ↔
      Recoverable (signChallengesOf request) c := by
  have hencodes := hs.encodes hc hencoded
  obtain ⟨keyHandle, hkey⟩ := keyHandle_of_isValidSignRequest hvalid c (List.mem_of_getElem? hc)
  obtain ⟨hsame, hhash⟩ := encodeSignChallenge_keyHandle hencodes
  have hdecodes : decoded.keyHandle = B64_decode keyHandle := by
    rw [MultipleGnubbySigner.decodeChallenge, hsame, hkey, Option.map_some, Option.some_inj]
      at hdecoded
    rw [← hdecoded]
  have hcall := helperComplete_successReply hdone decoded info
  rw [hdecodes] at hcall
  obtain ⟨hfound, hdata⟩ := hs.lookup hvalid
    (B64_encode_ne_PROTO ((B64_decode keyHandle).map UInt8.toNat))
  unfold ReachesPage
  rw [hcall, hfound]
  constructor
  · rintro ⟨hreply, -⟩
    have hlast : lastWith (signChallengesOf request)
        (B64_encode ((B64_decode keyHandle).map UInt8.toNat)) = some c := by
      simp only [List.cons.injEq, SignerCall.success.injEq] at hreply
      exact hreply.1.1
    -- what is found under the key handle of the reply has that key handle
    have hcanonical : Canonical keyHandle :=
      (Option.some_inj.1 (hkey.symm.trans (keyHandle_of_lastWith hlast))).symm
    exact ⟨keyHandle, hkey, hcanonical, by rwa [hcanonical] at hlast⟩
  · rintro ⟨keyHandle', hkey', hcanonical, hlast⟩
    obtain rfl : keyHandle = keyHandle' := Option.some_inj.1 (hkey.symm.trans hkey')
    rw [hcanonical] at hdata ⊢
    rw [hlast, hdata c hlast]
    refine ⟨rfl, ?_⟩
    rw [getChallengeHash, hkey, propertyName, Option.getD_some, hdata c hlast, Option.map_some,
      Option.some_inj] at hhash
    exact hhash

/-- A signer is prepared at every point of a run. -/
theorem prepared_exec (timer : CountdownTimer) (es : List Event) :
    ((machine P).exec (start timer sender request) es).Prepared P request sender :=
  Machine.exec_invariant' (I := fun s : Signer => s.Prepared P request sender)
    (fun _ e hs => hs.next e) es (prepared_start timer)

/-- **A signature reaches the page with the client data that was signed exactly if its entry is
recoverable**, whatever happens between the start of the signer and the reply. -/
theorem signatureReachesPage_iff (timer : CountdownTimer)
    (hvalid : isValidSignRequest request = true) (es : List Event) {helperRequest : HelperRequest}
    (hran : helperRequest ∈ ((machine P).exec (start timer sender request) es).ran)
    (hdone : ((machine P).exec (start timer sender request) es).done = false) {i : ℕ}
    {c : SignChallenge} (hc : (signChallengesOf request)[i]? = some c)
    {encoded : SignHelperChallenge} (hencoded : helperRequest.signData[i]? = some encoded)
    {decoded : DecodedChallenge}
    (hdecoded : MultipleGnubbySigner.decodeChallenge encoded = some decoded) (info : List UInt8) :
    ReachesPage P request sender ((machine P).exec (start timer sender request) es) c encoded decoded
      info ↔ Recoverable (signChallengesOf request) c :=
  ((prepared_exec P timer es).stored helperRequest hran).reachesPage_iff P hvalid hdone hc hencoded
    hdecoded info

/-- A sign request for two keys whose handles are canonical. -/
def twoKeysRequest : U2fRequest :=
  { exampleRequest none with
    signRequests := some
      [⟨some (js "first"), some (js "a2V5"), none, none⟩,
        ⟨some (js "second"), some (js "bG9jaw"), none, none⟩] }

theorem signatureReachesPage_twoKeys :
    ∃ helperRequest encoded decoded,
      helperRequest ∈ ((machine examplePrimitives).exec (start (.new 30000) exampleSender
        twoKeysRequest) signingRun).ran ∧
      helperRequest.signData[1]? = some encoded ∧
      MultipleGnubbySigner.decodeChallenge encoded = some decoded ∧
      ReachesPage examplePrimitives twoKeysRequest exampleSender ((machine examplePrimitives).exec
          (start (.new 30000) exampleSender twoKeysRequest) signingRun)
        ⟨some (js "second"), some (js "bG9jaw"), none, none⟩ encoded decoded [1, 2] := by
  refine ⟨_, _, _, List.mem_singleton_self _, rfl, rfl, ?_⟩
  refine (signatureReachesPage_iff examplePrimitives (.new 30000) (by decide) signingRun
    (List.mem_singleton_self _) rfl (i := 1) rfl rfl rfl [1, 2]).2 ?_
  refine ⟨js "bG9jaw", rfl, ?_, by decide⟩
  unfold Canonical
  decide +kernel

/-- **The key handle `key` comes back as `kew`, under which nothing is found.** -/
theorem not_signatureReachesPage_respelled : isValidSignRequest (exampleRequest none) = true ∧
    ∃ helperRequest encoded decoded,
      ((machine examplePrimitives).exec (start (.new 30000) exampleSender (exampleRequest none))
        signingRun).ran = [helperRequest] ∧
      helperRequest.signData[0]? = some encoded ∧
      MultipleGnubbySigner.decodeChallenge encoded = some decoded ∧
      ¬ ReachesPage examplePrimitives (exampleRequest none) exampleSender
        ((machine examplePrimitives).exec (start (.new 30000) exampleSender (exampleRequest none))
          signingRun)
        ⟨none, some (js "key"), none, none⟩ encoded decoded [1, 2] := by
  have hvalid : isValidSignRequest (exampleRequest none) = true := by decide
  have hprepared : ((machine examplePrimitives).exec (start (.new 30000) exampleSender
      (exampleRequest none)) signingRun).Prepared examplePrimitives (exampleRequest none)
        exampleSender :=
    prepared_exec examplePrimitives (.new 30000) signingRun
  refine ⟨hvalid, _, _, _, rfl, rfl, rfl, ?_⟩
  have hstored := hprepared.stored _ (List.mem_singleton_self _)
  rw [hstored.reachesPage_iff examplePrimitives hvalid rfl (i := 0) rfl rfl rfl]
  rintro ⟨keyHandle, hkey, hcanonical, -⟩
  obtain rfl : js "key" = keyHandle := Option.some_inj.1 hkey
  unfold Canonical at hcanonical
  revert hcanonical
  decide +kernel

end Signer

end U2F
