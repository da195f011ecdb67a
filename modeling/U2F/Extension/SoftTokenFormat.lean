/-
**The software token speaks the format of the server.**

The token and the server lay out four byte strings independently of each other: the bytes that are
signed in a registration and in an authentication, and the two messages with the signatures.  The
token fills typed arrays at offsets of its own, and packs the counter by hand.  Its signed bytes are
those of `RawMessageCodec`, and its messages are decoded by `RawMessageCodec` to their parts.

Main definitions:

* `Platform.ReadsCertificate` — the X.509 parser reads exactly the bytes of a certificate;
* `SoftTokenEnrollHandler.Enrolls`, `SoftTokenSignHandler.Signs` — a request that the token enrolls
  for, or signs.

Main results:

* `SoftTokenEnrollHandler.signBuf_eq`, `SoftTokenEnrollHandler.regData_eq`,
  `SoftTokenSignHandler.signBuffer_eq`, `SoftTokenSignHandler.signatureData_eq` — the four layouts;
* `SoftToken.speaks_raw_messages` — **the token speaks the format of the server**.
-/

import U2F.Codec.RawMessageCodec
import U2F.Extension.SoftToken
import U2F.Server.TestVectors

set_option relaxedAutoImplicit false
set_option autoImplicit false

namespace U2F

open TypedArray

/-- The X.509 parser reads exactly these bytes for a certificate, whatever follows them. -/
def Platform.ReadsCertificate {Cert : Type} (J : Platform Cert) (certBytes : Bytes) (cert : Cert) :
    Prop :=
  ∀ rest, J.generateCertificate (certBytes ++ rest) = .ok (cert, rest)

/-! ### The bytes of a registration -/

namespace SoftTokenEnrollHandler

variable {appIdBytes challengeBytes keyHandleBytes publicKeyBytes certBytes signature : Bytes}

/-- **The signed bytes of a registration.** -/
theorem signBuf_eq (happId : appIdBytes.length = 32) (hchallenge : challengeBytes.length = 32)
    (hkey : publicKeyBytes.length = 65) :
    signBuf appIdBytes challengeBytes keyHandleBytes publicKeyBytes =
      some (RawMessageCodec.encodeRegistrationSignedBytes appIdBytes challengeBytes keyHandleBytes
        publicKeyBytes) := by
  -- The parts are written one after the other.
  have h₀ := (Filled.new (1 + 32 + 32 + keyHandleBytes.length + 65)).put 0 0x00 rfl (by simp)
  obtain ⟨a₁, hset₁, h₁⟩ := h₀.set appIdBytes 1 rfl (by grind)
  obtain ⟨a₂, hset₂, h₂⟩ := h₁.set challengeBytes 33 (by simp [happId]) (by grind)
  obtain ⟨a₃, hset₃, h₃⟩ := h₂.set keyHandleBytes 65 (by simp [happId, hchallenge])
    (by grind)
  obtain ⟨a₄, hset₄, h₄⟩ := h₃.set publicKeyBytes (65 + keyHandleBytes.length)
    (by grind) (by grind)
  have hfull := h₄.full (by grind)
  simp only [signBuf, hset₁, hset₂, hset₃, hset₄, Option.bind_eq_bind, Option.bind_some, hfull]
  rw [RawMessageCodec.encodeRegistrationSignedBytes]
  simp [RawMessageCodec.REGISTRATION_SIGNED_RESERVED_BYTE_VALUE]

/-- **The registration message.** -/
theorem regData_eq (hkey : publicKeyBytes.length = 65) :
    regData publicKeyBytes keyHandleBytes certBytes signature =
      some (RawMessageCodec.REGISTRATION_RESERVED_BYTE_VALUE :: publicKeyBytes ++
        UInt8.ofNat keyHandleBytes.length :: keyHandleBytes ++ certBytes ++ signature) := by
  have h₀ := (Filled.new
    (1 + 65 + 1 + keyHandleBytes.length + certBytes.length + signature.length)).put 0 0x05 rfl
    (by grind)
  obtain ⟨a₁, hset₁, h₁⟩ := h₀.set publicKeyBytes (0 + 1) rfl (by grind)
  have h₂ := h₁.put (0 + 1 + publicKeyBytes.length) keyHandleBytes.length (by grind)
    (by grind)
  obtain ⟨a₃, hset₃, h₃⟩ := h₂.set keyHandleBytes (0 + 1 + publicKeyBytes.length + 1)
    (by grind) (by grind)
  obtain ⟨a₄, hset₄, h₄⟩ := h₃.set certBytes
    (0 + 1 + publicKeyBytes.length + 1 + keyHandleBytes.length) (by grind) (by grind)
  obtain ⟨a₅, hset₅, h₅⟩ := h₄.set signature
    (0 + 1 + publicKeyBytes.length + 1 + keyHandleBytes.length + certBytes.length)
    (by grind) (by grind)
  have hfull := h₅.full (by grind)
  simp only [regData, hset₁, hset₃, hset₄, hset₅, Option.bind_eq_bind, Option.bind_some, hfull]
  simp [RawMessageCodec.REGISTRATION_RESERVED_BYTE_VALUE]

end SoftTokenEnrollHandler

/-! ### The bytes of an authentication -/

namespace SoftTokenSignHandler

variable {appIdBytes challengeBytes signature : Bytes} {counter : ℕ}

theorem toUInt32_ofNat (counter : ℕ) : (Int32.ofNat counter).toUInt32 = UInt32.ofNat counter := rfl

theorem byte_mask (x : ℕ) : 0xFF &&& x = x % 2 ^ 8 := by
  rw [Nat.and_comm]
  exact Nat.and_two_pow_sub_one_eq_mod _ 8

/-- The counter that is packed by hand is that of `ByteBuffer.putInt`. -/
theorem putInt_ofNat (counter : ℕ) :
    putInt (Int32.ofNat counter) = [24, 16, 8, 0].map fun shift =>
      UInt8.ofNat (counterByte counter shift) := by
  simp only [putInt, List.map_cons, List.map_nil, List.cons.injEq, and_true, toUInt32_ofNat]
  refine ⟨?_, ?_, ?_, ?_⟩
  all_goals
    apply UInt8.toNat_inj.1
    simp [counterByte, byte_mask]

/-- **The signed bytes of an authentication.** -/
theorem signBuffer_eq (happId : appIdBytes.length = 32) (hchallenge : challengeBytes.length = 32) :
    signBuffer appIdBytes counter challengeBytes =
      some (RawMessageCodec.encodeAuthenticateSignedBytes appIdBytes USER_PRESENT_FLAG
        (Int32.ofNat counter) challengeBytes) := by
  obtain ⟨a₀, hset₀, h₀⟩ := (Filled.new (32 + 1 + 4 + 32)).set appIdBytes 0 rfl (by simp [happId])
  have h₁ := h₀.put 32 0x01 (by simp [happId]) (by simp [happId])
  have h₂ := h₁.put 33 (counterByte counter 24) (by simp [happId]) (by simp [happId])
  have h₃ := h₂.put 34 (counterByte counter 16) (by simp [happId]) (by simp [happId])
  have h₄ := h₃.put 35 (counterByte counter 8) (by simp [happId]) (by simp [happId])
  have h₅ := h₄.put 36 (counterByte counter 0) (by simp [happId]) (by simp [happId])
  obtain ⟨a₆, hset₆, h₆⟩ := h₅.set challengeBytes 37 (by simp [happId]) (by simp [happId, hchallenge])
  have hfull := h₆.full (by simp [happId, hchallenge])
  simp only [signBuffer, hset₀, hset₆, Option.bind_eq_bind, Option.bind_some, hfull]
  rw [RawMessageCodec.encodeAuthenticateSignedBytes, putInt_ofNat]
  simp [USER_PRESENT_FLAG]

/-- **The message of an authentication**, from its signed bytes. -/
theorem signatureData_eq (happId : appIdBytes.length = 32) :
    signatureData (RawMessageCodec.encodeAuthenticateSignedBytes appIdBytes USER_PRESENT_FLAG
        (Int32.ofNat counter) challengeBytes) signature =
      some (RawMessageCodec.encodeAuthenticateResponse
        ⟨USER_PRESENT_FLAG, Int32.ofNat counter, signature⟩) := by
  have hsub : subarray (RawMessageCodec.encodeAuthenticateSignedBytes appIdBytes USER_PRESENT_FLAG
      (Int32.ofNat counter) challengeBytes) 32 37 =
      USER_PRESENT_FLAG :: putInt (Int32.ofNat counter) := by
    simp [subarray, RawMessageCodec.encodeAuthenticateSignedBytes, putInt, List.take_append, happId]
  obtain ⟨a₀, hset₀, h₀⟩ := (Filled.new (1 + 4 + signature.length)).set
    (USER_PRESENT_FLAG :: putInt (Int32.ofNat counter)) 0 rfl (by simp [putInt])
  obtain ⟨a₁, hset₁, h₁⟩ := h₀.set signature 5 rfl (by simp [putInt])
  have hfull := h₁.full (by simp [putInt]; omega)
  simp only [signatureData, hsub, hset₀, hset₁, Option.bind_eq_bind, Option.bind_some, hfull]
  rfl

end SoftTokenSignHandler

/-! ### The handlers -/

variable (P : SoftTokenPrimitives)

/-- The token enrolls for a challenge: it owns no key of the request, and the challenge is the first
of its version. -/
def SoftTokenEnrollHandler.Enrolls (profile : SoftTokenProfile) (request : HelperRequest)
    (challenge : EnrollHelperChallenge) : Prop :=
  (∀ sd ∈ request.signData, sd.version = js "U2F_V2" →
    profile.getRegistration sd.appIdHash sd.keyHandle = none) ∧
  request.enrollChallenges.find? (fun c => c.version = js "U2F_V2") = some challenge

/-- The token signs a challenge: it is the first for which it has a registration. -/
def SoftTokenSignHandler.Signs (profile : SoftTokenProfile) (request : HelperRequest)
    (signData : SignHelperChallenge) (registration : SoftTokenRegistration) : Prop :=
  request.signData.find? (fun sd => sd.version = js "U2F_V2" &&
      (profile.getRegistration sd.appIdHash sd.keyHandle).isSome) = some signData ∧
    profile.getRegistration signData.appIdHash signData.keyHandle = some registration

variable {P}

theorem SoftTokenEnrollHandler.run_of_enrolls {keyPair : SoftTokenKeyPair}
    {profile : SoftTokenProfile} {request : HelperRequest} {challenge : EnrollHelperChallenge}
    (h : Enrolls profile request challenge) :
    (run P keyPair profile request).2 =
      (enrollData P profile challenge
        (profile.createRegistration P challenge.appIdHash keyPair).1).map fun regData =>
          ⟨some 0, ⟨some (js "U2F_V2"), some (P.B64_encode regData)⟩⟩ := by
  obtain ⟨hunknown, hchallenge⟩ := h
  rw [run, if_neg, hchallenge]
  · rfl
  · intro hany
    obtain ⟨sd, hsd, hknown⟩ := List.any_eq_true.1 hany
    simp only [Bool.and_eq_true, decide_eq_true_eq] at hknown
    rw [hunknown sd hsd hknown.1] at hknown
    cases hknown.2

/-- The registration that is found after the counter has been incremented. -/
theorem SoftTokenProfile.getRegistration_incrementCounter {profile : SoftTokenProfile}
    {appIdHash : JSString} {keyHandle : Option JSString} {registration : SoftTokenRegistration}
    (h : profile.getRegistration appIdHash keyHandle = some registration) :
    (profile.incrementCounter appIdHash keyHandle).getRegistration appIdHash keyHandle =
      some { registration with counter := registration.counter + 1 } := by
  have hupdate := FirstMatch.find?_update (p := isFor appIdHash keyHandle)
    (f := fun reg => { reg with counter := reg.counter + 1 }) (fun _ hreg => hreg)
    profile.registrations
  rw [getRegistration] at h
  rw [getRegistration, incrementCounter, hupdate, h]
  rfl

theorem SoftTokenSignHandler.run_of_signs {profile : SoftTokenProfile} {request : HelperRequest}
    {signData : SignHelperChallenge} {registration : SoftTokenRegistration}
    (h : Signs profile request signData registration) :
    (run P profile request).2 =
      (responseData P signData.challengeHash
        { registration with counter := registration.counter + 1 }).map fun signatureData =>
          ⟨some 0, ⟨js "sign_helper_reply",
            some (registration.keyHandle, P.B64_encode signatureData)⟩⟩ := by
  obtain ⟨hfind, hregistration⟩ := h
  rw [run, hfind]
  simp only [SoftTokenProfile.getRegistration_incrementCounter hregistration]
  simp only [Option.bind_eq_bind, Option.bind_some, Option.pure_def, Option.map_eq_bind]
  rfl

namespace SoftToken

/-- **The token speaks the format of the server.**  Whatever the elliptic curve makes of the bytes
that the token signs, and whatever the keys, the hashes and the certificate of the right lengths:
the signed bytes are those of the server's encoder, and the message of the reply is decoded by the
server to exactly its parts. -/
theorem speaks_raw_messages {Cert : Type} (J : Platform Cert) :
    (∀ (keyPair : SoftTokenKeyPair) (profile : SoftTokenProfile) (request : HelperRequest)
        (challenge : EnrollHelperChallenge) (challengeHash : JSString) (cert : Cert),
      SoftTokenEnrollHandler.Enrolls profile request challenge →
      challenge.challengeHash = some challengeHash →
      (P.B64_decode challenge.appIdHash).length = 32 →
      (P.B64_decode challengeHash).length = 32 →
      (P.UTIL_HexToBytes keyPair.pub).length = 65 →
      (P.B64_decode (P.B64_encode (P.digest keyPair.pub))).length ≤ 255 →
      J.ReadsCertificate (P.UTIL_HexToBytes profile.attestationCert) cert →
      let keyHandle := P.B64_decode (P.B64_encode (P.digest keyPair.pub))
      let publicKey := P.UTIL_HexToBytes keyPair.pub
      let signedBytes := RawMessageCodec.encodeRegistrationSignedBytes
        (P.B64_decode challenge.appIdHash) (P.B64_decode challengeHash) keyHandle publicKey
      SoftTokenEnrollHandler.signBuf (P.B64_decode challenge.appIdHash)
          (P.B64_decode challengeHash) keyHandle publicKey = some signedBytes ∧
        ∃ data, (SoftTokenEnrollHandler.run P keyPair profile request).2 =
            some ⟨some 0, ⟨some (js "U2F_V2"), some (P.B64_encode data)⟩⟩ ∧
          RawMessageCodec.decodeRegisterResponse J data =
            .ok ⟨publicKey, keyHandle, cert, P.sign profile.attestationKey signedBytes⟩) ∧
    ∀ (profile : SoftTokenProfile) (request : HelperRequest) (signData : SignHelperChallenge)
        (registration : SoftTokenRegistration),
      SoftTokenSignHandler.Signs profile request signData registration →
      (P.B64_decode registration.appIdHash).length = 32 →
      (P.B64_decode signData.challengeHash).length = 32 →
      registration.counter + 1 < 2 ^ 32 →
      ∃ counter : Int32, counter.toUInt32.toNat = registration.counter + 1 ∧
        let signedBytes := RawMessageCodec.encodeAuthenticateSignedBytes
          (P.B64_decode registration.appIdHash) USER_PRESENT_FLAG counter
          (P.B64_decode signData.challengeHash)
        SoftTokenSignHandler.signBuffer (P.B64_decode registration.appIdHash)
            (registration.counter + 1) (P.B64_decode signData.challengeHash) = some signedBytes ∧
          ∃ data, (SoftTokenSignHandler.run P profile request).2 =
              some ⟨some 0, ⟨js "sign_helper_reply",
                some (registration.keyHandle, P.B64_encode data)⟩⟩ ∧
            RawMessageCodec.decodeAuthenticateResponse data =
              .ok ⟨0x01, counter, P.sign registration.keys.sec signedBytes⟩ := by
  refine ⟨?_, ?_⟩
  · intro keyPair profile request challenge challengeHash cert henrolls hhash happId hchallenge hkey
      hlen hcert keyHandle publicKey signedBytes
    have hsigned : SoftTokenEnrollHandler.signBuf (P.B64_decode challenge.appIdHash)
        (P.B64_decode challengeHash) keyHandle publicKey = some signedBytes :=
      SoftTokenEnrollHandler.signBuf_eq happId hchallenge hkey
    refine ⟨hsigned, _, ?_, RawMessageCodec.decodeRegisterResponse_of_parts hkey hlen hcert⟩
    rw [SoftTokenEnrollHandler.run_of_enrolls henrolls]
    -- the data hold the key handle of the registration that has just been created
    have hdata : SoftTokenEnrollHandler.enrollData P profile challenge
        (profile.createRegistration P challenge.appIdHash keyPair).1 =
        SoftTokenEnrollHandler.regData publicKey keyHandle
          (P.UTIL_HexToBytes profile.attestationCert)
          (P.sign profile.attestationKey signedBytes) := by
      simp only [SoftTokenEnrollHandler.enrollData, hhash, Option.bind_eq_bind, Option.bind_some]
      exact congrArg (fun x => Option.bind x _) hsigned
    rw [hdata, SoftTokenEnrollHandler.regData_eq hkey]
    rfl
  · intro profile request signData registration hsigns happId hchallenge hcounter
    refine ⟨Int32.ofNat (registration.counter + 1), ?_, ?_⟩
    -- the counter is written as an unsigned number, and read as a signed one
    · rw [SoftTokenSignHandler.toUInt32_ofNat, UInt32.toNat_ofNat_of_lt' hcounter]
    · intro signedBytes
      have hsigned : SoftTokenSignHandler.signBuffer (P.B64_decode registration.appIdHash)
          (registration.counter + 1) (P.B64_decode signData.challengeHash) = some signedBytes :=
        SoftTokenSignHandler.signBuffer_eq happId hchallenge
      refine ⟨hsigned, _, ?_, RawMessageCodec.decodeAuthenticateResponse_encode _⟩
      rw [SoftTokenSignHandler.run_of_signs hsigns, SoftTokenSignHandler.responseData, hsigned]
      simp only [Option.bind_eq_bind, Option.bind_some]
      rw [SoftTokenSignHandler.signatureData_eq happId]
      rfl

/-! ### A token whose bytes can be followed -/

section Plain

/-- Encodings that are the bytes themselves, and signatures that are the signed bytes. -/
def plain : SoftTokenPrimitives where
  B64_encode bytes := bytes.map UInt8.toUInt16
  B64_decode s := s.map UInt16.toUInt8
  UTIL_HexToBytes s := s.map UInt16.toUInt8
  digest pub := (pub.map UInt16.toUInt8).take 32
  sign _ bytes := bytes

def plainKeyPair : SoftTokenKeyPair := ⟨js "sec", List.replicate 65 4⟩

/-- A profile with one registration. -/
def plainProfile : SoftTokenProfile :=
  ⟨js "key", [0x30], [⟨List.replicate 32 1, js "handle", plainKeyPair, 6⟩]⟩

def plainEnrollRequest : HelperRequest :=
  ⟨js "enroll_helper_request",
    [⟨js "U2F_V2", some (List.replicate 32 2), List.replicate 32 1⟩], [], none, none⟩

def plainSignRequest : HelperRequest :=
  ⟨js "sign_helper_request", [],
    [⟨List.replicate 32 2, List.replicate 32 1, some (js "handle"), js "U2F_V2"⟩], none, none⟩

/-- A registration and an authentication of the plain token. -/
theorem speaks_plain :
    (∃ data signature, (SoftTokenEnrollHandler.run plain plainKeyPair plainProfile
        plainEnrollRequest).2 =
          some ⟨some 0, ⟨some (js "U2F_V2"), some (plain.B64_encode data)⟩⟩ ∧
      RawMessageCodec.decodeRegisterResponse (TestVectors.platform [0x30] []) data =
        .ok ⟨List.replicate 65 4, List.replicate 32 4, .VENDOR_CERTIFICATE, signature⟩) ∧
    ∃ data signature, (SoftTokenSignHandler.run plain plainProfile plainSignRequest).2 =
        some ⟨some 0, ⟨js "sign_helper_reply", some (js "handle", plain.B64_encode data)⟩⟩ ∧
      ∃ counter : Int32, counter.toUInt32.toNat = 7 ∧
        RawMessageCodec.decodeAuthenticateResponse data = .ok ⟨0x01, counter, signature⟩ := by
  have hspeaks := speaks_raw_messages (P := plain) (TestVectors.platform [0x30] [])
  obtain ⟨_, data, hrun, hdecode⟩ := hspeaks.1 plainKeyPair plainProfile plainEnrollRequest
    ⟨js "U2F_V2", some (List.replicate 32 2), List.replicate 32 1⟩ (List.replicate 32 2)
    .VENDOR_CERTIFICATE ⟨nofun, rfl⟩ rfl rfl rfl rfl (by decide)
    (TestVectors.readCertificate_append [0x30])
  obtain ⟨counter, hcounter, _, data', hrun', hdecode'⟩ := hspeaks.2 plainProfile plainSignRequest
    ⟨List.replicate 32 2, List.replicate 32 1, some (js "handle"), js "U2F_V2"⟩
    ⟨List.replicate 32 1, js "handle", plainKeyPair, 6⟩ ⟨by decide, by decide⟩ rfl rfl (by decide)
  exact ⟨⟨data, _, hrun, hdecode⟩, data', _, hrun', counter, hcounter, hdecode'⟩

end Plain

end SoftToken

end U2F
