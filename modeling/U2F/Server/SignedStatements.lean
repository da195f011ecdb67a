/-
**What a signature says.**

A key signs one of two statements: that it has been registered, or that its user has been present.
The bytes that are signed have no tags and no lengths: the key handle, which has any length, stands
between parts of fixed lengths, and the two kinds differ in their lengths only.  Two different
statements are never the same bytes, so a signature says one thing at most.

Main definitions:

* `RegistrationStatement`, `AuthenticationStatement`, `Statement` — what is signed, with hashes of 32
  bytes and public keys of 65;
* `Statement.signedBytes` — the bytes;
* `ServerCrypto.Binds` — a signature verifies for the bytes it was made for only;
* `U2FServerReferenceImpl.VerifiedAs` — the server has verified a signature for a statement.

Main results:

* `Statement.signedBytes_injective` — the bytes determine the statement;
* `U2FServerReferenceImpl.unambiguous` — **the encodings are injective and never meet, and the server
  verifies a signature for one statement at most**;
* `U2FServerReferenceImpl.VerifiesRegistration.verifiedAs`,
  `U2FServerReferenceImpl.VerifiesSign.verifiedAs` — what the server verifies are such statements.
-/

import U2F.Server.TestVectors

set_option relaxedAutoImplicit false
set_option autoImplicit false

namespace U2F

/-! ### Statements -/

/-- A key with this handle has been made for an application, in answer to a challenge. -/
@[ext]
structure RegistrationStatement where
  applicationSha256 : Bytes
  challengeSha256 : Bytes
  keyHandle : Bytes
  userPublicKey : Bytes
  length_applicationSha256 : applicationSha256.length = 32
  length_challengeSha256 : challengeSha256.length = 32
  length_userPublicKey : userPublicKey.length = 65

/-- The user has been present for an application, in answer to a challenge. -/
@[ext]
structure AuthenticationStatement where
  applicationSha256 : Bytes
  userPresence : UInt8
  counter : Int32
  challengeSha256 : Bytes
  length_applicationSha256 : applicationSha256.length = 32
  length_challengeSha256 : challengeSha256.length = 32

inductive Statement
  | registration (statement : RegistrationStatement)
  | authentication (statement : AuthenticationStatement)

open RawMessageCodec

/-- The bytes that are signed. -/
def Statement.signedBytes : Statement → Bytes
  | registration s =>
      encodeRegistrationSignedBytes s.applicationSha256 s.challengeSha256 s.keyHandle s.userPublicKey
  | authentication s =>
      encodeAuthenticateSignedBytes s.applicationSha256 s.userPresence s.counter s.challengeSha256

/-! ### The bytes determine the statement -/

theorem putInt_injective {i j : Int32} (h : putInt i = putInt j) : i = j := by
  have hread := congrArg (fun bs => (ByteStream.readInt ()).run (bs ++ [])) h
  simp only [ByteStream.readInt_putInt] at hread
  exact (Prod.mk.inj (Except.ok.inj hread)).1

theorem length_putInt (i : Int32) : (putInt i).length = 4 := rfl

/-- The parts of a registration, from the front and from the back. -/
theorem RegistrationStatement.encode_injective {s t : RegistrationStatement}
    (h : encodeRegistrationSignedBytes s.applicationSha256 s.challengeSha256 s.keyHandle
        s.userPublicKey =
      encodeRegistrationSignedBytes t.applicationSha256 t.challengeSha256 t.keyHandle
        t.userPublicKey) : s = t := by
  have hparts : s.applicationSha256 ++ s.challengeSha256 ++ s.keyHandle ++ s.userPublicKey =
      t.applicationSha256 ++ t.challengeSha256 ++ t.keyHandle ++ t.userPublicKey := (List.cons.inj h).2
  -- the public key ends the bytes, and the two hashes begin them
  obtain ⟨hfront, hkey⟩ := List.append_inj' hparts
    (s.length_userPublicKey.trans t.length_userPublicKey.symm)
  obtain ⟨hhashes, hhandle⟩ := List.append_inj hfront (by
    rw [List.length_append, List.length_append, s.length_applicationSha256,
      t.length_applicationSha256, s.length_challengeSha256, t.length_challengeSha256])
  obtain ⟨happlication, hchallenge⟩ := List.append_inj hhashes
    (s.length_applicationSha256.trans t.length_applicationSha256.symm)
  exact RegistrationStatement.ext happlication hchallenge hhandle hkey

/-- The parts of an authentication, all of which have fixed lengths. -/
theorem AuthenticationStatement.encode_injective {s t : AuthenticationStatement}
    (h : encodeAuthenticateSignedBytes s.applicationSha256 s.userPresence s.counter
        s.challengeSha256 =
      encodeAuthenticateSignedBytes t.applicationSha256 t.userPresence t.counter
        t.challengeSha256) : s = t := by
  simp only [encodeAuthenticateSignedBytes, List.append_assoc] at h
  obtain ⟨happlication, hrest⟩ := List.append_inj h
    (s.length_applicationSha256.trans t.length_applicationSha256.symm)
  obtain ⟨hpresence, hrest⟩ := List.cons.inj hrest
  obtain ⟨hcounter, hchallenge⟩ := List.append_inj hrest rfl
  exact AuthenticationStatement.ext happlication hpresence (putInt_injective hcounter) hchallenge

/-- An authentication has 69 bytes, and a registration has at least 130. -/
theorem registration_ne_authentication (s : RegistrationStatement) (t : AuthenticationStatement) :
    encodeRegistrationSignedBytes s.applicationSha256 s.challengeSha256 s.keyHandle s.userPublicKey ≠
      encodeAuthenticateSignedBytes t.applicationSha256 t.userPresence t.counter
        t.challengeSha256 := by
  intro h
  have hlength := congrArg List.length h
  simp only [encodeRegistrationSignedBytes, encodeAuthenticateSignedBytes, List.length_append,
    List.length_cons, length_putInt, s.length_applicationSha256, s.length_challengeSha256,
    s.length_userPublicKey, t.length_applicationSha256, t.length_challengeSha256] at hlength
  omega

/-- **The bytes that are signed determine the statement.** -/
theorem Statement.signedBytes_injective {s t : Statement} (h : s.signedBytes = t.signedBytes) :
    s = t := by
  cases s with
  | registration s =>
      cases t with
      | registration t => exact congrArg registration (RegistrationStatement.encode_injective h)
      | authentication t => exact absurd h (registration_ne_authentication s t)
  | authentication s =>
      cases t with
      | registration t => exact absurd h.symm (registration_ne_authentication t s)
      | authentication t => exact congrArg authentication (AuthenticationStatement.encode_injective h)

/-! ### What the server verifies -/

/-- An ideal signature scheme: every signature has been made for some bytes, and verifies for these
only, under whichever key or certificate. -/
def ServerCrypto.Binds {Cert PublicKey : Type} (crypto : ServerCrypto Cert PublicKey)
    (madeFor : Bytes → Bytes) : Prop :=
  (∀ cert signedBytes signature,
    crypto.verifyCertificateSignature cert signedBytes signature = .ok true →
      madeFor signature = signedBytes) ∧
  ∀ key signedBytes signature, crypto.verifySignature key signedBytes signature = .ok true →
    madeFor signature = signedBytes

/-- `computeSha256`, as documented. -/
def ServerCrypto.Hashes {Cert PublicKey : Type} (crypto : ServerCrypto Cert PublicKey) : Prop :=
  ∀ bytes hash, crypto.computeSha256 bytes = .ok hash → hash.length = 32

namespace U2FServerReferenceImpl

variable {Cert PublicKey : Type} (server : U2FServerReferenceImpl Cert PublicKey)

/-- The server verifies the signature for the statement, which it has encoded again. -/
def VerifiedAs (signature : Bytes) : Statement → Prop
  | .registration s => ∃ cert, server.crypto.verifyCertificateSignature cert
      (Statement.registration s).signedBytes signature = .ok true
  | .authentication s => ∃ key, server.crypto.verifySignature key
      (Statement.authentication s).signedBytes signature = .ok true

variable {server}

/-- A registration response that verifies says a registration. -/
theorem VerifiesRegistration.verifiedAs (hhash : server.crypto.Hashes) {appId clientData : String}
    {message : RegisterResponse Cert} (hkey : message.userPublicKey.length = 65)
    (h : server.VerifiesRegistration appId clientData message) :
    ∃ s : RegistrationStatement, s.keyHandle = message.keyHandle ∧
      s.userPublicKey = message.userPublicKey ∧
      server.crypto.computeSha256 (server.platform.getBytes appId) = .ok s.applicationSha256 ∧
      server.crypto.computeSha256 (server.platform.getBytes clientData) = .ok s.challengeSha256 ∧
      server.VerifiedAs message.signature (.registration s) := by
  obtain ⟨appIdSha256, clientDataSha256, happId, hclientData, hverifies⟩ := h
  exact ⟨⟨appIdSha256, clientDataSha256, message.keyHandle, message.userPublicKey,
    hhash _ _ happId, hhash _ _ hclientData, hkey⟩, rfl, rfl, happId, hclientData,
    message.attestationCertificate, hverifies⟩

/-- A sign response that verifies says an authentication. -/
theorem VerifiesSign.verifiedAs (hhash : server.crypto.Hashes) {appId browserData : String}
    {publicKey : Bytes} {message : AuthenticateResponse}
    (h : server.VerifiesSign appId publicKey browserData message) :
    ∃ s : AuthenticationStatement, s.userPresence = message.userPresence ∧
      s.counter = message.counter ∧
      server.crypto.computeSha256 (server.platform.getBytes appId) = .ok s.applicationSha256 ∧
      server.crypto.computeSha256 (server.platform.getBytes browserData) = .ok s.challengeSha256 ∧
      server.VerifiedAs message.signature (.authentication s) := by
  obtain ⟨appIdSha256, browserDataSha256, key, happId, hbrowserData, -, hverifies⟩ := h
  exact ⟨⟨appIdSha256, message.userPresence, message.counter, browserDataSha256, hhash _ _ happId,
    hhash _ _ hbrowserData⟩, rfl, rfl, happId, hbrowserData, key, hverifies⟩

/-- A signature that is verified has been made for the bytes of the statement. -/
theorem VerifiedAs.madeFor {madeFor : Bytes → Bytes} (hbinds : server.crypto.Binds madeFor)
    {signature : Bytes} {s : Statement} (h : server.VerifiedAs signature s) :
    madeFor signature = s.signedBytes := by
  cases s with
  | registration s =>
      obtain ⟨cert, hverifies⟩ := h
      exact hbinds.1 _ _ _ hverifies
  | authentication s =>
      obtain ⟨key, hverifies⟩ := h
      exact hbinds.2 _ _ _ hverifies

variable (server)

/-- **Signed bytes are unambiguous**: each of the two encodings is injective, no value of the one is a
value of the other, and a signature that binds its bytes is verified for one statement at most. -/
theorem unambiguous :
    (∀ s t : RegistrationStatement,
      (Statement.registration s).signedBytes = (Statement.registration t).signedBytes → s = t) ∧
    (∀ s t : AuthenticationStatement,
      (Statement.authentication s).signedBytes = (Statement.authentication t).signedBytes → s = t) ∧
    (∀ (s : RegistrationStatement) (t : AuthenticationStatement),
      (Statement.registration s).signedBytes ≠ (Statement.authentication t).signedBytes) ∧
    ∀ madeFor, server.crypto.Binds madeFor → ∀ signature s t,
      server.VerifiedAs signature s → server.VerifiedAs signature t → s = t := by
  refine ⟨fun s t h => RegistrationStatement.encode_injective h,
    fun s t h => AuthenticationStatement.encode_injective h, registration_ne_authentication, ?_⟩
  intro madeFor hbinds signature s t hs ht
  exact Statement.signedBytes_injective ((hs.madeFor hbinds).symm.trans (ht.madeFor hbinds))

/-! ### The signatures of the tests -/

section Witness

open TestVectors

/-- Signed bytes are their own signature. -/
theorem binds_crypto : TestVectors.crypto.Binds id := by
  constructor
  · intro cert signedBytes signature h
    exact decide_eq_true_iff.1 (Except.ok.inj h)
  · intro key signedBytes signature h
    exact decide_eq_true_iff.1 (Except.ok.inj h)

theorem hashes_crypto : TestVectors.crypto.Hashes := by
  intro bytes hash h
  rw [← Except.ok.inj h, List.length_take, List.length_append, List.length_replicate]
  omega

theorem length_sha256 (bytes : Bytes) : (sha256 bytes).length = 32 := hashes_crypto bytes _ rfl

/-- The authentications of the tests. -/
def authentication (counter : Int32) : AuthenticationStatement where
  applicationSha256 := sha256 (getBytes ORIGIN)
  userPresence := USER_PRESENT_FLAG
  counter := counter
  challengeSha256 := sha256 (getBytes (jsonText BROWSER_DATA_SIGN))
  length_applicationSha256 := length_sha256 _
  length_challengeSha256 := length_sha256 _

theorem verifiedAs_authentication (counter : Int32) :
    (testServer []).VerifiedAs (authenticateResponse counter).signature
      (.authentication (authentication counter)) := by
  obtain ⟨_, _, key, happId, hbrowserData, -, hverifies⟩ :=
    verifiesSign [] ORIGIN [] (jsonText BROWSER_DATA_SIGN) USER_PRESENT_FLAG counter
  cases happId
  cases hbrowserData
  exact ⟨key, hverifies⟩

/-- The signature for the counter 1 is not one for the counter 2. -/
theorem not_verifiedAs_other_counter :
    ¬ (testServer []).VerifiedAs (authenticateResponse 1).signature
      (.authentication (authentication 2)) := by
  intro h
  have hsame := (unambiguous (testServer [])).2.2.2 id binds_crypto _ _ _
    (verifiedAs_authentication 1) h
  have hcounter := congrArg AuthenticationStatement.counter (Statement.authentication.inj hsame)
  exact absurd hcounter (by decide)

end Witness

end U2FServerReferenceImpl

end U2F
