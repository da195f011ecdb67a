/-
**What is hashed and what is sent.**

The browser data of a request goes two ways: its hash is the challenge that the security key signs,
and its base64 is the client data that the page is sent.  Both ways turn the text into numbers
without masking them, and a code unit above 255 spills into the byte before it on both, but not
alike: the hash joins four numbers to a word, the base64 three to four letters.

Main definitions:

* `spilledByte` — the byte at a place, and what spills into it;
* `SameBytes` — the bytes that one text is hashed as are those that another is sent as;
* `HashesClientData` — a challenge hash is that of the bytes of client data.

Main results:

* `hash_hashes_iff` — the hash of a text is that of client data exactly if their bytes are the same,
  or collide;
* `Enroller.kept_exec` — what an enroller has stored when the helper has been given its request;
* `hashesClientData_iff` — **what is hashed is what is sent exactly if the two ways agree**, in every
  run on a request.
-/

import U2F.Extension.EnrollAnswers
import U2F.Extension.Sha256Fips
import U2F.Extension.SignerLookup

set_option relaxedAutoImplicit false
set_option autoImplicit false

namespace U2F

/-! ### The bytes of a text on the two ways -/

/-- The bits of the code unit at a place that spill into the byte before it when it is hashed. -/
def hashedSpill (i : ℕ) : UInt8 := if i % 4 = 0 then 0 else 255

/-- The bits of the code unit at a place that spill into the byte before it when it is sent: those
of the byte before it that have not been written. -/
def sentSpill (i : ℕ) : UInt8 := if i % 3 = 1 then 3 else if i % 3 = 2 then 15 else 0

/-- The byte at a place of an array of code units, with what spills into it. -/
def spilledByte (spill : ℕ → UInt8) (units : List ℕ) (i : ℕ) : UInt8 :=
  UInt8.ofNat (units.getD i 0) ||| UInt8.ofNat (units.getD (i + 1) 0 >>> 8) &&& spill (i + 1)

theorem spilledByte_byte {spill : ℕ → UInt8} {units : List ℕ} (hunits : ∀ u ∈ units, u < 256)
    (i : ℕ) : spilledByte spill units i = UInt8.ofNat (units.getD i 0) := by
  have hspill : units.getD (i + 1) 0 >>> 8 = 0 := by
    by_cases hi : i + 1 < units.length
    · rw [List.getD_eq_getElem _ _ hi]
      exact SHA256.shiftRight_byte (hunits _ (List.getElem_mem hi))
    · rw [List.getD_eq_default _ _ (by omega)]
      rfl
  simp only [spilledByte, hspill]
  simp

theorem and_255 (x : UInt8) : x &&& 255 = x := UInt8.and_neg_one

theorem spilledByte_append {spill : ℕ → UInt8} {n : ℕ} (hperiod : ∀ i, spill (i + n) = spill i)
    {xs : List ℕ} (hxs : xs.length = n) (ys : List ℕ) (i : ℕ) :
    spilledByte spill (xs ++ ys) (i + n) = spilledByte spill ys i := by
  have hshift : i + n + 1 = i + 1 + n := by omega
  simp only [spilledByte]
  rw [hshift, hperiod, List.getD_append_right _ _ _ _ (by omega),
    List.getD_append_right _ _ _ _ (by omega), hxs, Nat.add_sub_cancel, Nat.add_sub_cancel]

/-- What is hashed, byte by byte. -/
theorem getD_hashedBytes {units : List ℕ} {i : ℕ} (hi : i < units.length) :
    (hashedBytes units).getD i 0 = spilledByte hashedSpill units i := by
  induction units using hashedBytes.induct generalizing i with
  | case1 => cases hi
  | case2 a =>
      obtain rfl : i = 0 := by simpa using hi
      simp [hashedBytes, spilledByte]
  | case3 a b =>
      have hcases : i = 0 ∨ i = 1 := by
        simp at hi
        omega
      rcases hcases with rfl | rfl <;> simp [hashedBytes, spilledByte, hashedSpill, and_255]
  | case4 a b c =>
      have hcases : i = 0 ∨ i = 1 ∨ i = 2 := by
        simp at hi
        omega
      rcases hcases with rfl | rfl | rfl <;> simp [hashedBytes, spilledByte, hashedSpill, and_255]
  | case5 a b c d units ih =>
      have hcases : i = 0 ∨ i = 1 ∨ i = 2 ∨ i = 3 ∨ ∃ j < units.length, i = j + 4 := by
        simp only [List.length_cons] at hi
        by_cases h4 : i < 4
        · omega
        · exact .inr (.inr (.inr (.inr ⟨i - 4, by omega, by omega⟩)))
      rcases hcases with rfl | rfl | rfl | rfl | ⟨j, hj, rfl⟩
      · simp [hashedBytes, spilledByte, hashedSpill, and_255]
      · simp [hashedBytes, spilledByte, hashedSpill, and_255]
      · simp [hashedBytes, spilledByte, hashedSpill, and_255]
      · simp [hashedBytes, spilledByte, hashedSpill]
      · have hperiod : ∀ i, hashedSpill (i + 4) = hashedSpill i := by
          intro i
          rw [hashedSpill, Nat.add_mod_right, hashedSpill]
        have hlength : [a, b, c, d].length = 4 := rfl
        have happend := spilledByte_append hperiod hlength units j
        rw [List.cons_append, List.cons_append, List.cons_append, List.cons_append,
          List.nil_append] at happend
        rw [happend, ← ih hj]
        rfl

theorem length_sentBytes (units : List ℕ) : (sentBytes units).length = units.length := by
  induction units using sentBytes.induct with
  | case4 a b c units ih => simp [sentBytes, ih]
  | _ => rfl

/-- What is sent, byte by byte. -/
theorem getD_sentBytes {units : List ℕ} {i : ℕ} (hi : i < units.length) :
    (sentBytes units).getD i 0 = spilledByte sentSpill units i := by
  induction units using sentBytes.induct generalizing i with
  | case1 => cases hi
  | case2 a =>
      obtain rfl : i = 0 := by simpa using hi
      simp [sentBytes, spilledByte]
  | case3 a b =>
      have hcases : i = 0 ∨ i = 1 := by
        simp at hi
        omega
      rcases hcases with rfl | rfl <;> simp [sentBytes, spilledByte, sentSpill]
  | case4 a b c units ih =>
      have hcases : i = 0 ∨ i = 1 ∨ i = 2 ∨ ∃ j < units.length, i = j + 3 := by
        simp only [List.length_cons] at hi
        by_cases h3 : i < 3
        · omega
        · exact .inr (.inr (.inr ⟨i - 3, by omega, by omega⟩))
      rcases hcases with rfl | rfl | rfl | ⟨j, hj, rfl⟩
      · simp [sentBytes, spilledByte, sentSpill]
      · simp [sentBytes, spilledByte, sentSpill]
      · simp [sentBytes, spilledByte, sentSpill]
      · have hperiod : ∀ i, sentSpill (i + 3) = sentSpill i := by
          intro i
          rw [sentSpill, Nat.add_mod_right, sentSpill]
        have hlength : [a, b, c].length = 3 := rfl
        have happend := spilledByte_append hperiod hlength units j
        rw [List.cons_append, List.cons_append, List.cons_append, List.nil_append] at happend
        rw [happend, ← ih hj]
        rfl

/-- The bytes that a text is hashed as are those that another, or the same, is sent as. -/
def SameBytes (hashed sent : JSString) : Prop :=
  hashed.length = sent.length ∧ ∀ i < hashed.length,
    spilledByte hashedSpill (UTIL_StringToBytes hashed) i =
      spilledByte sentSpill (UTIL_StringToBytes sent) i

theorem length_UTIL_StringToBytes (s : JSString) : (UTIL_StringToBytes s).length = s.length :=
  List.length_map _

theorem sameBytes_iff {hashed sent : JSString} : SameBytes hashed sent ↔
    hashedBytes (UTIL_StringToBytes hashed) = sentBytes (UTIL_StringToBytes sent) := by
  have hlen := SHA256.length_hashedBytes (UTIL_StringToBytes hashed)
  have hlen' := length_sentBytes (UTIL_StringToBytes sent)
  rw [length_UTIL_StringToBytes] at hlen hlen'
  constructor
  · rintro ⟨hlength, hbytes⟩
    refine List.ext_getElem (by omega) fun i hi hi' => ?_
    rw [← List.getD_eq_getElem _ 0 hi, ← List.getD_eq_getElem _ 0 hi',
      getD_hashedBytes (by rw [length_UTIL_StringToBytes]; omega),
      getD_sentBytes (by rw [length_UTIL_StringToBytes]; omega)]
    exact hbytes i (by omega)
  · intro heq
    have hlength : hashed.length = sent.length := by
      rw [← hlen, ← hlen', heq]
    refine ⟨hlength, fun i hi => ?_⟩
    rw [← getD_hashedBytes (by rw [length_UTIL_StringToBytes]; omega),
      ← getD_sentBytes (by rw [length_UTIL_StringToBytes]; omega), heq]

/-- **A text of code units up to 255 has the same bytes on both ways.** -/
theorem sameBytes_of_bytes {s : JSString} (hs : ∀ u ∈ s, u < 256) : SameBytes s s := by
  have hunits : ∀ u ∈ UTIL_StringToBytes s, u < 256 := by
    intro u hu
    obtain ⟨c, hc, rfl⟩ := List.mem_map.1 hu
    exact hs c hc
  exact ⟨rfl, fun i _ => by rw [spilledByte_byte hunits, spilledByte_byte hunits]⟩

theorem sameBytes_of_all {s : JSString} (hs : (s.all fun u => decide (u < 256)) = true) :
    SameBytes s s :=
  sameBytes_of_bytes fun u hu => of_decide_eq_true (List.all_eq_true.1 hs u hu)

/-! ### The hash and the client data -/

/-- A challenge hash is the base64 of the SHA-256 of the bytes of the client data. -/
def HashesClientData (challengeHash clientData : JSString) : Prop :=
  challengeHash = B64_encode ((Sha256.hash (B64_decode clientData)).map UInt8.toNat)

/-- The hash and the base64 of the extension, and any text of the browser data. -/
def codedPrimitives
    (makeBrowserData : (typ serverChallenge origin : JSString) → Option JSString → JSString) :
    Primitives :=
  ⟨sha256HashOfString, B64_encode, makeBrowserData⟩

theorem B64_encode_bytes_inj {xs ys : List UInt8} :
    B64_encode (xs.map UInt8.toNat) = B64_encode (ys.map UInt8.toNat) ↔ xs = ys := by
  constructor
  · intro h
    rw [← B64_decode_encode_bytes xs, h, B64_decode_encode_bytes]
  · rintro rfl
    rfl

/-- **The hash of a text is that of client data exactly if their bytes are the same, or collide.** -/
theorem hash_hashes_iff {makeBrowserData : (typ serverChallenge origin : JSString) →
      Option JSString → JSString} {hashed sent : JSString}
    (hlength : hashed.length < 2 ^ 28 - 1024) :
    HashesClientData ((codedPrimitives makeBrowserData).hash hashed)
        (B64_encode (UTIL_StringToBytes sent)) ↔
      SameBytes hashed sent ∨
        Sha256.Collision (hashedBytes (UTIL_StringToBytes hashed))
          (sentBytes (UTIL_StringToBytes sent)) := by
  have hhash : (codedPrimitives makeBrowserData).hash hashed =
      B64_encode ((Sha256.hash (hashedBytes (UTIL_StringToBytes hashed))).map UInt8.toNat) :=
    congrArg B64_encode (sha256HashOfString_eq hlength)
  rw [HashesClientData, hhash, B64_decode_encode, B64_encode_bytes_inj, sameBytes_iff,
    Sha256.Collision]
  constructor
  · intro h
    by_cases heq : hashedBytes (UTIL_StringToBytes hashed) = sentBytes (UTIL_StringToBytes sent)
    · exact .inl heq
    · exact .inr ⟨heq, h⟩
  · rintro (heq | ⟨-, h⟩)
    · rw [heq]
    · exact h

/-! ### Sign requests -/

/-- The client data that a call of a signer has the page be sent. -/
def SignerCall.clientData (P : Primitives) : SignerCall → Option JSString
  | .success _ _ (some browserData) => some (P.B64_encode (UTIL_StringToBytes browserData))
  | _ => none

/-- It is part of the response of the page. -/
theorem SignPage.sendSuccessResponse_clientData (request : U2fRequest) (P : Primitives)
    (challenge : Option SignChallenge) (info : JSString) (browserData : Option JSString)
    (s : SignPage) :
    sendSuccessResponse request P challenge info browserData s =
      match (SignerCall.success challenge info browserData).clientData P with
      | none => s
      | some clientData =>
          s.sendResponseOnce (closeWork request)
            (makeU2fSuccessResponse request
              (.sign (challenge.bind SignChallenge.keyHandle) clientData info)) := by
  cases browserData <;> rfl

namespace Signer

variable {P : Primitives} {request : U2fRequest} {sender : WebRequestSender}

/-- The key handle of the reply for an entry. -/
def replyKeyHandle (decoded : DecodedChallenge) : JSString :=
  B64_encode (decoded.keyHandle.map UInt8.toNat)

/-- A signer that has answered calls nothing more. -/
theorem helperComplete_successReply_of_done {s : Signer} (hdone : s.done = true)
    (decoded : DecodedChallenge) (info : List UInt8) :
    (s.helperComplete (UsbSignHandler.successReply decoded info).toHelper).2 = [] := by
  have hfailed : (UsbSignHandler.successReply decoded info).toHelper.failed = false := rfl
  have htype : ¬ (UsbSignHandler.successReply decoded info).toHelper.content.type ≠
      js "sign_helper_reply" := not_not_intro rfl
  unfold helperComplete
  rw [if_neg htype, hfailed]
  simp [SignHandlerReply.toHelper, UsbSignHandler.successReply, notifySuccess, Signer.notify, hdone]

/-- The client data that the page is sent for a signature is that of the text under the key handle
of the reply. -/
theorem clientData_successReply {s : Signer} {decoded : DecodedChallenge} {info : List UInt8}
    {call : SignerCall}
    (hcall : call ∈ (s.helperComplete (UsbSignHandler.successReply decoded info).toHelper).2)
    {clientData : JSString} (hdata : call.clientData P = some clientData) :
    ∃ sent, s.browserDataAt (replyKeyHandle decoded) = some sent ∧
      clientData = P.B64_encode (UTIL_StringToBytes sent) := by
  by_cases hdone : s.done = true
  · rw [helperComplete_successReply_of_done hdone] at hcall
    cases hcall
  · have hcalls := helperComplete_successReply (by simpa using hdone) decoded info
    rw [hcalls] at hcall
    obtain rfl := List.mem_singleton.1 hcall
    cases hsent : s.browserDataAt (replyKeyHandle decoded) with
    | none =>
        unfold replyKeyHandle at hsent
        rw [hsent] at hdata
        cases hdata
    | some sent =>
        unfold replyKeyHandle at hsent
        rw [hsent] at hdata
        exact ⟨sent, rfl, (Option.some_inj.1 hdata).symm⟩

/-- The challenge hash of an entry is that of the text under its key handle. -/
theorem Stored.challengeHash {s : Signer} {helperRequest : HelperRequest}
    (hs : Stored P request sender s helperRequest) {i : ℕ} {c : SignChallenge}
    (hc : (signChallengesOf request)[i]? = some c) {encoded : SignHelperChallenge}
    (hencoded : helperRequest.signData[i]? = some encoded) :
    ∃ hashed, s.browserDataAt (propertyName c.keyHandle) = some hashed ∧
      encoded.challengeHash = P.hash hashed := by
  obtain ⟨-, hhash⟩ := encodeSignChallenge_keyHandle (hs.encodes hc hencoded)
  obtain ⟨hashed, hfound, heq⟩ := Option.map_eq_some_iff.1 hhash
  exact ⟨hashed, hfound, heq.symm⟩

end Signer

/-! ### Register requests -/

/-- The client data that a call of an enroller has the page be sent. -/
def EnrollerCall.clientData : EnrollerCall → Option JSString
  | .success u2fVersion _ browserData =>
      if u2fVersion = some (js "U2F_V2") then browserData else none
  | .error _ => none

/-- It is part of the response of the page, whatever properties the challenge has. -/
theorem EnrollPage.lookup_clientData (enrollChallenge : EnrollChallenge)
    (info browserData : Option JSString) :
    (makeEnrollResponseData enrollChallenge (some (js "U2F_V2")) info browserData).lookup
        (js "clientData") =
      some (.ofOption
        (EnrollerCall.success (some (js "U2F_V2")) info browserData).clientData) := by
  have hproto : js "clientData" ≠ PROTO := by decide
  simp [makeEnrollResponseData, EnrollerCall.clientData, JSProperties.lookup_assign, hproto]

namespace Enroller

variable (P : Primitives) (request : U2fRequest) (sender : WebRequestSender)

/-- The browser data of an enroll challenge of the request. -/
def browserDataOf (c : EnrollChallenge) : JSString :=
  P.makeEnrollBrowserData (c.challenge.getD []) sender

/-- The last U2F_V2 challenge of a request. -/
def lastVersion2 : Option EnrollChallenge :=
  ((enrollChallengesOf request).filter fun c => c.versionOrV1 = js "U2F_V2").getLast?

/-- The helper is given the hashes of the browser data, and the enroller has stored the text. -/
structure Encoded (s : Enroller) (helperRequest : HelperRequest) : Prop where
  hashes : List.Forall₂
    (fun c encoded => c.versionOrV1 = js "U2F_V2" →
      encoded.challengeHash = some (P.hash (browserDataOf P sender c)))
    (enrollChallengesOf request) helperRequest.enrollChallenges
  stored : ∀ c, lastVersion2 request = some c →
    s.browserData = some (P.B64_encode (UTIL_StringToBytes (browserDataOf P sender c)))

/-- What holds of an enroller at every point of a run on a request: what it waits with, or has run
its handler with, is encoded. -/
structure Kept (s : Enroller) : Prop where
  enrollChallenges : s.enrollChallenges = enrollChallengesOf request
  sentBy : s.sender = sender
  awaited : ∀ appIds helperRequest, s.awaiting = .originCheck appIds helperRequest ∨
    s.awaiting = .appIdCheck appIds helperRequest → Encoded P request sender s helperRequest
  ran : ∀ helperRequest ∈ s.ran, Encoded P request sender s helperRequest

variable {P request sender}

/-- What is encoded stays encoded as long as the browser data stays. -/
theorem Encoded.of_eq {s t : Enroller} {helperRequest : HelperRequest}
    (hs : Encoded P request sender s helperRequest) (h : t.browserData = s.browserData) :
    Encoded P request sender t helperRequest :=
  ⟨hs.hashes, fun c hc => h.trans (hs.stored c hc)⟩

/-- An enroller that waits for nothing more, or for something that needs no check. -/
theorem Kept.wait {s : Enroller} (hs : s.Kept P request sender) (awaiting : EnrollAwaiting)
    (h : awaiting = .nothing ∨ awaiting = .tabId ∨ awaiting = .approval) :
    { s with awaiting := awaiting }.Kept P request sender := by
  refine ⟨hs.enrollChallenges, hs.sentBy, ?_, fun r hr => (hs.ran r hr).of_eq rfl⟩
  rintro appIds helperRequest hawaiting
  rcases h with rfl | rfl | rfl <;> rcases hawaiting with h | h <;> cases h

theorem Kept.notify (call : EnrollerCall) {s : Enroller} (hs : s.Kept P request sender) :
    (s.notify call).1.Kept P request sender := by
  unfold Enroller.notify
  split
  · exact hs
  · exact ⟨hs.enrollChallenges, hs.sentBy, fun L r h => (hs.awaited L r h).of_eq rfl,
      fun r hr => (hs.ran r hr).of_eq rfl⟩

/-- The encoding of an enroll challenge of version U2F_V2 has the hash of its browser data. -/
theorem encodeEnrollChallenge_challengeHash {s : Enroller} (hsender : s.sender = sender)
    {c : EnrollChallenge} {encoded : EnrollHelperChallenge}
    (h : s.encodeEnrollChallenge P c = some encoded) (hversion : c.versionOrV1 = js "U2F_V2") :
    encoded.challengeHash = some (P.hash (browserDataOf P sender c)) := by
  subst hsender
  unfold encodeEnrollChallenge at h
  rw [if_pos hversion] at h
  simp only [U2F.encodeEnrollChallenge, Option.bind_eq_bind, Option.bind_eq_some_iff,
    Option.pure_def, Option.some_inj] at h
  obtain ⟨appId, -, rfl⟩ := h
  rfl

/-- The text that is stored is the browser data of the last U2F_V2 challenge. -/
theorem Kept.storedBrowserData_eq {s : Enroller} (hs : s.Kept P request sender) {c : EnrollChallenge}
    (hc : lastVersion2 request = some c) : s.storedBrowserData P =
      some (P.B64_encode (UTIL_StringToBytes (browserDataOf P sender c))) := by
  rw [lastVersion2, ← hs.enrollChallenges] at hc
  rw [storedBrowserData, hc, Option.map_some, enrollBrowserData, hs.sentBy]
  rfl

/-- The request to the helper is encoded, once the enroller has stored the browser data. -/
theorem encoded_enrollRequest {s : Enroller} (hs : s.Kept P request sender)
    {helperRequest : HelperRequest} (h : s.enrollRequest P = some helperRequest)
    (awaiting : EnrollAwaiting) :
    Encoded P request sender
      { s with browserData := (s.storedBrowserData P).or s.browserData, awaiting := awaiting }
      helperRequest := by
  simp only [enrollRequest, Option.bind_eq_bind, Option.bind_eq_some_iff, Option.pure_def,
    Option.some_inj] at h
  obtain ⟨encodedEnrollChallenges, henroll, encodedSignChallenges, -, rfl⟩ := h
  constructor
  · rw [← hs.enrollChallenges]
    exact (Traverse.mapM_eq_some_iff.1 henroll).imp fun c encoded hencoded hversion =>
      encodeEnrollChallenge_challengeHash hs.sentBy hencoded hversion
  · intro c hc
    dsimp only
    rw [hs.storedBrowserData_eq hc, Option.some_or]

/-- Storing the browser data again changes nothing of what is encoded. -/
theorem Encoded.store {s : Enroller} (hs : s.Kept P request sender) {helperRequest : HelperRequest}
    (hencoded : Encoded P request sender s helperRequest) (awaiting : EnrollAwaiting) :
    Encoded P request sender
      { s with browserData := (s.storedBrowserData P).or s.browserData, awaiting := awaiting }
      helperRequest := by
  refine ⟨hencoded.hashes, fun c hc => ?_⟩
  have hsame : s.storedBrowserData P = s.browserData := by
    rw [hencoded.stored c hc, hs.storedBrowserData_eq hc]
  dsimp only
  rw [hsame, Option.or_self]
  exact hencoded.stored c hc

theorem Kept.sendEnrollRequestToHelper {s : Enroller} (hs : s.Kept P request sender) :
    (s.sendEnrollRequestToHelper P).1.Kept P request sender := by
  unfold Enroller.sendEnrollRequestToHelper
  split
  · exact hs
  · rename_i helperRequest hrequest
    dsimp only
    split
    · exact .notify _ ⟨hs.enrollChallenges, hs.sentBy,
        fun L r h => (hs.awaited L r h).store hs s.awaiting,
        fun r hr => (hs.ran r hr).store hs s.awaiting⟩
    · refine ⟨hs.enrollChallenges, hs.sentBy, ?_, fun r hr => (hs.ran r hr).store hs _⟩
      rintro appIds other (h | h)
      · cases h
        exact encoded_enrollRequest hs hrequest _
      · cases h

theorem Kept.next {s : Enroller} (e : Event) (hs : s.Kept P request sender) :
    ((machine P).next s e).Kept P request sender := by
  change (s.handle P e).1.Kept P request sender
  have hnothing : { s with awaiting := .nothing }.Kept P request sender := hs.wait _ (.inl rfl)
  -- nothing awaits
  have hnone : ∀ (t : Enroller) appIds helperRequest,
      EnrollAwaiting.nothing = .originCheck appIds helperRequest ∨
        EnrollAwaiting.nothing = .appIdCheck appIds helperRequest →
      t.Encoded P request sender helperRequest := by
    rintro t appIds helperRequest (h | h)
    · cases h
    · cases h
  cases e with
  | tabIdResolved =>
      simp only [handle, tabIdResolved]
      split
      · split
        · exact hnothing
        · exact hs.wait _ (.inr (.inr rfl))
      · exact hs
  | approvalResolved result =>
      simp only [handle, approvalResolved]
      split
      · split
        · exact hnothing
        · split
          · exact hnothing.sendEnrollRequestToHelper
          · split
            · exact hnothing.notify _
            · exact ⟨hs.enrollChallenges, hs.sentBy, hnone _, fun r hr => (hs.ran r hr).of_eq rfl⟩
      · exact hs
  | originChecked result =>
      simp only [handle, originChecked]
      split
      case h_1 appIds helperRequest hawaiting =>
        split
        -- it waits with the same request
        · refine ⟨hs.enrollChallenges, hs.sentBy, ?_, fun r hr => (hs.ran r hr).of_eq rfl⟩
          rintro L r (h | h)
          · cases h
          · cases h
            exact (hs.awaited _ _ (.inl hawaiting)).of_eq rfl
        · exact hnothing.notify _
      case h_2 => exact hs
  | appIdChecked result helper =>
      simp only [handle, appIdChecked]
      split
      case h_1 appIds helperRequest hawaiting =>
        split
        · exact hnothing
        · split
          · split
            · exact .notify _ ⟨hs.enrollChallenges, hs.sentBy, hnone _,
                fun r hr => (hs.ran r hr).of_eq rfl⟩
            -- a handler is run with the request that was waiting
            · refine helperReplies_keeps Kept.notify _ ⟨hs.enrollChallenges, hs.sentBy, hnone _, ?_⟩
              intro r hr
              rcases List.mem_append.1 hr with hr | hr
              · exact (hs.ran r hr).of_eq rfl
              · rw [List.mem_singleton.1 hr]
                exact (hs.awaited _ _ (.inr hawaiting)).of_eq rfl
          · exact hnothing.notify _
      case h_2 => exact hs
  | rejected =>
      simp only [handle, rejected]
      split
      · exact .notify _ ⟨hs.enrollChallenges, hs.sentBy, hnone _,
          fun r hr => (hs.ran r hr).of_eq rfl⟩
      · exact hnothing
  | timerTick =>
      have htimer : ∀ timer, { s with timer := timer }.Kept P request sender :=
        fun _ => ⟨hs.enrollChallenges, hs.sentBy, fun L r h => (hs.awaited L r h).of_eq rfl,
          fun r hr => (hs.ran r hr).of_eq rfl⟩
      simp only [handle, timerTick]
      split
      · exact (htimer _).notify _
      · exact htimer _
  | helperComplete reply =>
      simp only [handle]
      split
      · exact hs
      · exact helperComplete_keeps Kept.notify reply hs
  | close =>
      exact ⟨hs.enrollChallenges, hs.sentBy, fun L r h => (hs.awaited L r h).of_eq rfl,
        fun r hr => (hs.ran r hr).of_eq rfl⟩

/-- At every point of a run what the helper has been given is encoded. -/
theorem kept_exec (timer : CountdownTimer) (es : List Event) :
    ((machine P).exec (start timer sender request) es).Kept P request sender :=
  Machine.exec_invariant' (I := fun s : Enroller => s.Kept P request sender)
    (fun _ e hs => hs.next e) es ⟨rfl, rfl, nofun, nofun⟩

/-- The U2F_V2 challenge of a valid request is the last one. -/
theorem lastVersion2_eq (hvalid : isValidEnrollRequest request = true) {c : EnrollChallenge}
    (hc : c ∈ enrollChallengesOf request) (hversion : c.versionOrV1 = js "U2F_V2") :
    lastVersion2 request = some c := by
  have hmem : c ∈ (enrollChallengesOf request).filter fun c => c.versionOrV1 = js "U2F_V2" :=
    List.mem_filter.2 ⟨hc, by simpa using hversion⟩
  have hne : ((enrollChallengesOf request).filter fun c => c.versionOrV1 = js "U2F_V2") ≠ [] :=
    List.ne_nil_of_mem hmem
  rw [lastVersion2, List.getLast?_eq_some_getLast hne, Option.some_inj]
  have hlast := List.getLast_mem hne
  generalize List.getLast _ hne = c' at hlast
  obtain ⟨hc', hversion'⟩ := List.mem_filter.1 hlast
  refine List.inj_on_of_nodup_map (nodup_versionOrV1 hvalid) hc' hc ?_
  rw [hversion]
  simpa using hversion'

/-- The client data that the page is sent for an enroll reply is what the enroller has stored. -/
theorem clientData_helperComplete {s : Enroller} {reply : EnrollHelperReply} {call : EnrollerCall}
    (hcall : call ∈ (s.helperComplete reply).2) {clientData : JSString}
    (hdata : call.clientData = some clientData) : s.browserData = some clientData := by
  unfold helperComplete notifySuccess Enroller.notify at hcall
  split at hcall
  · split at hcall
    · cases hcall
    · obtain rfl := List.mem_singleton.1 hcall
      cases hdata
  · dsimp only at hcall
    split at hcall
    · cases hcall
    · obtain rfl := List.mem_singleton.1 hcall
      simp only [EnrollerCall.clientData] at hdata
      split at hdata
      · exact hdata
      · cases hdata

end Enroller

/-! ### What is hashed is what is sent -/

/-- **The challenge hash of a security key is that of the client data exactly if the text that is
hashed has the bytes of the text that is sent**, or collides with it: in every run on a sign request,
for the text under the key handle of an entry and the text under the key handle of the reply, which
are one text if the key handle is canonical; and in every run on a register request, for the browser
data of the U2F_V2 challenge. -/
theorem hashesClientData_iff
    (makeBrowserData : (typ serverChallenge origin : JSString) → Option JSString → JSString)
    (request : U2fRequest) (sender : WebRequestSender) (timer : CountdownTimer) :
    (∀ es : List Signer.Event,
      let s := (Signer.machine (codedPrimitives makeBrowserData)).exec
        (Signer.start timer sender request) es
      ∀ helperRequest ∈ s.ran, ∀ (i : ℕ) (c : SignChallenge) (encoded : SignHelperChallenge)
        (decoded : DecodedChallenge) (info : List UInt8) (call : SignerCall)
        (clientData hashed sent : JSString),
        (signChallengesOf request)[i]? = some c → helperRequest.signData[i]? = some encoded →
        MultipleGnubbySigner.decodeChallenge encoded = some decoded →
        call ∈ (s.helperComplete (UsbSignHandler.successReply decoded info).toHelper).2 →
        call.clientData (codedPrimitives makeBrowserData) = some clientData →
        s.browserDataAt (Signer.propertyName c.keyHandle) = some hashed →
        s.browserDataAt (Signer.replyKeyHandle decoded) = some sent →
        hashed.length < 2 ^ 28 - 1024 →
        (HashesClientData encoded.challengeHash clientData ↔
          SameBytes hashed sent ∨ Sha256.Collision (hashedBytes (UTIL_StringToBytes hashed))
            (sentBytes (UTIL_StringToBytes sent)))) ∧
    (∀ es : List Enroller.Event,
      let s := (Enroller.machine (codedPrimitives makeBrowserData)).exec
        (Enroller.start timer sender request) es
      isValidEnrollRequest request = true →
      ∀ helperRequest ∈ s.ran, ∀ (i : ℕ) (c : EnrollChallenge) (encoded : EnrollHelperChallenge)
        (reply : EnrollHelperReply) (call : EnrollerCall) (clientData : JSString),
        (enrollChallengesOf request)[i]? = some c → c.versionOrV1 = js "U2F_V2" →
        helperRequest.enrollChallenges[i]? = some encoded →
        call ∈ (s.helperComplete reply).2 → call.clientData = some clientData →
        let text := Enroller.browserDataOf (codedPrimitives makeBrowserData) sender c
        text.length < 2 ^ 28 - 1024 →
        ((∃ challengeHash, encoded.challengeHash = some challengeHash ∧
            HashesClientData challengeHash clientData) ↔
          SameBytes text text ∨ Sha256.Collision (hashedBytes (UTIL_StringToBytes text))
            (sentBytes (UTIL_StringToBytes text)))) := by
  constructor
  · intro es s helperRequest hran i c encoded decoded info call clientData hashed sent hc hencoded
      hdecoded hcall hdata hhashed hsent hlength
    have hstored := (Signer.prepared_exec (codedPrimitives makeBrowserData) timer es).stored
      helperRequest hran
    obtain ⟨hashed', hfound, hhash⟩ := hstored.challengeHash hc hencoded
    obtain rfl : hashed' = hashed := Option.some_inj.1 (hfound.symm.trans hhashed)
    obtain ⟨sent', hfound', rfl⟩ := Signer.clientData_successReply hcall hdata
    obtain rfl : sent' = sent := Option.some_inj.1 (hfound'.symm.trans hsent)
    rw [hhash]
    exact hash_hashes_iff hlength
  · intro es s hvalid helperRequest hran i c encoded reply call clientData hc hversion hencoded
      hcall hdata text hlength
    have hkept := (Enroller.kept_exec timer es : s.Kept (codedPrimitives makeBrowserData) request
      sender).ran helperRequest hran
    obtain ⟨hi, rfl⟩ := List.getElem?_eq_some_iff.1 hc
    obtain ⟨hi', rfl⟩ := List.getElem?_eq_some_iff.1 hencoded
    have hhash := hkept.hashes.get hi hi' hversion
    have hstored := hkept.stored _
      (Enroller.lastVersion2_eq hvalid (List.getElem_mem hi) hversion)
    have hclient := Enroller.clientData_helperComplete hcall hdata
    obtain rfl := Option.some_inj.1 (hclient.symm.trans hstored)
    simp only [List.get_eq_getElem] at hhash
    rw [hhash]
    simp only [Option.some_inj, exists_eq_left']
    exact hash_hashes_iff hlength

/-- A sign request for a key with a canonical handle. -/
def signRequestFor (serverChallenge : JSString) : U2fRequest :=
  { exampleRequest none with
    signRequests := some [⟨some serverChallenge, some (js "bG9jaw"), none, none⟩] }

/-- A register request for a U2F_V2 key. -/
def registerRequestFor (serverChallenge : JSString) : U2fRequest :=
  { EnrollPage.registerRequest [] with
    registerRequests := some [⟨some (js "U2F_V2"), some serverChallenge, none, .none⟩] }

/-- The origin and the app ids are checked, and the handler of the helper is run. -/
def Enroller.enrollingRun : List Enroller.Event :=
  [.tabIdResolved, .approvalResolved true, .originChecked true,
    .appIdChecked true (some ⟨[], true⟩)]

/-- An ASCII challenge is hashed as it is sent. -/
theorem hashesClientData_ascii :
    (∃ helperRequest encoded decoded call clientData,
      helperRequest ∈ ((Signer.machine (codedPrimitives examplePrimitives.makeBrowserData)).exec
        (Signer.start (.new 30000) exampleSender (signRequestFor (js "first")))
        Signer.signingRun).ran ∧
      helperRequest.signData[0]? = some encoded ∧
      MultipleGnubbySigner.decodeChallenge encoded = some decoded ∧
      call ∈ ((((Signer.machine (codedPrimitives examplePrimitives.makeBrowserData)).exec
        (Signer.start (.new 30000) exampleSender (signRequestFor (js "first")))
        Signer.signingRun).helperComplete (UsbSignHandler.successReply decoded [1]).toHelper).2) ∧
      call.clientData (codedPrimitives examplePrimitives.makeBrowserData) = some clientData ∧
      HashesClientData encoded.challengeHash clientData) ∧
    (∃ helperRequest encoded challengeHash call clientData,
      helperRequest ∈ ((Enroller.machine (codedPrimitives examplePrimitives.makeBrowserData)).exec
        (Enroller.start (.new 30000) exampleSender (registerRequestFor (js "first")))
        Enroller.enrollingRun).ran ∧
      helperRequest.enrollChallenges[0]? = some encoded ∧
      encoded.challengeHash = some challengeHash ∧
      call ∈ ((((Enroller.machine (codedPrimitives examplePrimitives.makeBrowserData)).exec
        (Enroller.start (.new 30000) exampleSender (registerRequestFor (js "first")))
        Enroller.enrollingRun).helperComplete (EnrollPage.enrolledReply (js "U2F_V2"))).2) ∧
      call.clientData = some clientData ∧ HashesClientData challengeHash clientData) := by
  have hiff := hashesClientData_iff examplePrimitives.makeBrowserData
  constructor
  · refine ⟨_, _, _, _, _, List.mem_singleton_self _, rfl, rfl, List.mem_singleton_self _, rfl, ?_⟩
    refine ((hiff (signRequestFor (js "first")) exampleSender (.new 30000)).1 Signer.signingRun _
      (List.mem_singleton_self _) 0 _ _ _ [1] _ _ _ _ rfl rfl rfl (List.mem_singleton_self _) rfl
      rfl rfl (by decide)).2 (.inl ?_)
    exact sameBytes_of_all (by decide)
  · obtain ⟨challengeHash, hhash, hhashes⟩ :=
      ((hiff (registerRequestFor (js "first")) exampleSender (.new 30000)).2 Enroller.enrollingRun
        (by decide) _ (List.mem_singleton_self _) 0 _ _ (EnrollPage.enrolledReply (js "U2F_V2")) _ _
        rfl rfl rfl (List.mem_singleton_self _) rfl (by decide)).2
        (.inl (sameBytes_of_all (by decide)))
    exact ⟨_, _, challengeHash, _, _, List.mem_singleton_self _, rfl, hhash,
      List.mem_singleton_self _, rfl, hhashes⟩

/-- **A challenge of characters beyond Latin-1 is hashed as other bytes than it is sent as.** -/
theorem not_hashesClientData_beyondLatin1 :
    isValidSignRequest (signRequestFor (js "\u4e2d\u6587")) = true ∧
    ∃ helperRequest encoded decoded call clientData,
      helperRequest ∈ ((Signer.machine (codedPrimitives examplePrimitives.makeBrowserData)).exec
        (Signer.start (.new 30000) exampleSender (signRequestFor (js "\u4e2d\u6587")))
        Signer.signingRun).ran ∧
      helperRequest.signData[0]? = some encoded ∧
      MultipleGnubbySigner.decodeChallenge encoded = some decoded ∧
      call ∈ ((((Signer.machine (codedPrimitives examplePrimitives.makeBrowserData)).exec
        (Signer.start (.new 30000) exampleSender (signRequestFor (js "\u4e2d\u6587")))
        Signer.signingRun).helperComplete (UsbSignHandler.successReply decoded [1]).toHelper).2) ∧
      call.clientData (codedPrimitives examplePrimitives.makeBrowserData) = some clientData ∧
      ¬ HashesClientData encoded.challengeHash clientData := by
  have hnot : ¬ HashesClientData
      ((codedPrimitives examplePrimitives.makeBrowserData).hash
        (examplePrimitives.makeSignBrowserData (js "\u4e2d\u6587") exampleSender))
      (B64_encode (UTIL_StringToBytes
        (examplePrimitives.makeSignBrowserData (js "\u4e2d\u6587") exampleSender))) := by
    rw [hash_hashes_iff (by decide), not_or]
    constructor
    · unfold SameBytes
      decide +kernel
    · unfold Sha256.Collision
      decide +kernel
  have hprepared : ((Signer.machine (codedPrimitives examplePrimitives.makeBrowserData)).exec
      (Signer.start (.new 30000) exampleSender (signRequestFor (js "\u4e2d\u6587")))
      Signer.signingRun).Prepared (codedPrimitives examplePrimitives.makeBrowserData)
        (signRequestFor (js "\u4e2d\u6587")) exampleSender :=
    Signer.prepared_exec _ (.new 30000) Signer.signingRun
  refine ⟨by decide, _, _, _, _, _, List.mem_singleton_self _, rfl, rfl, List.mem_singleton_self _,
    rfl, ?_⟩
  obtain ⟨hashed, hfound, hhash⟩ :=
    (hprepared.stored _ (List.mem_singleton_self _)).challengeHash (i := 0) rfl rfl
  obtain rfl := Option.some_inj.1 hfound
  rw [hhash]
  exact hnot

end U2F
