/-
**What the server accepts.**

The checks of `processRegistrationResponse` and of `processSignResponse` are spread over decoding,
JSON, origin, user presence, counter and signature.  Here they are put together as one condition
on a session, a stored key and a response, and each method is shown to return exactly when the
condition holds, to write what it says, and to write nothing when it throws.

Main definitions:

* `U2FServerReferenceImpl.ValidBrowserData` — client data that passes the checks;
* `U2FServerReferenceImpl.ValidRegistrationResponse`,
  `U2FServerReferenceImpl.ValidSignResponse` — the conditions.

Main results:

* `U2FServerReferenceImpl.processRegistrationResponse_returns_iff`,
  `U2FServerReferenceImpl.processSignResponse_returns_iff` — **a response is accepted exactly when
  it is valid**, with the effect on the store;
* `U2FServerReferenceImpl.atomic_processRegistrationResponse`,
  `U2FServerReferenceImpl.atomic_processSignResponse` — a call that throws changes nothing.
-/

import U2F.Server.U2FServerReferenceImpl

set_option relaxedAutoImplicit false
set_option autoImplicit false

namespace U2F

namespace U2FServerReferenceImpl

variable {Cert PublicKey : Type} (server : U2FServerReferenceImpl Cert PublicKey)

/-! ### Client data -/

/-- Client data that is a JSON object with the right type and challenge, and no origin or an
allowed one. -/
structure ValidMembers (members : JsonObject) (messageType : String) (challenge : Bytes) :
    Prop where
  type : members.getString TYPE_PARAM = .ok messageType
  challenge : ∃ s, members.getString CHALLENGE_PARAM = .ok s ∧
    server.platform.decodeBase64 s = challenge
  origin : members.has ORIGIN_PARAM → ∃ s canonical, members.getString ORIGIN_PARAM = .ok s ∧
    canonicalizeOrigin server.platform s = .ok canonical ∧ canonical ∈ server.allowedOrigins

/-- A text that parses to client data that is valid. -/
def ValidBrowserData (browserData messageType : String) (challenge : Bytes) : Prop :=
  ∃ members, server.platform.parseJson browserData = .ok (.object members) ∧
    server.ValidMembers members messageType challenge

omit server in
theorem has_of_getString {o : JsonObject} {member s : String} (h : o.getString member = .ok s) :
    o.has member = true := by
  unfold JsonObject.getString at h
  cases hl : o.lookup member with
  | none => simp [hl] at h
  | some e => simp [JsonObject.has, hl]

theorem verifyOrigin_eq_ok_iff {origin : String} {u : Unit} :
    server.verifyOrigin origin = .ok u ↔ ∃ canonical,
      canonicalizeOrigin server.platform origin = .ok canonical ∧
        canonical ∈ server.allowedOrigins := by
  simp [verifyOrigin, Except.bind_eq_ok_iff]

theorem verifyBrowserData_object_iff {members : JsonObject} {messageType : String}
    {sessionData : EnrollSessionData} {u : Unit} :
    server.verifyBrowserData (.object members) messageType sessionData = .ok u ↔
      server.ValidMembers members messageType sessionData.challenge := by
  cases ho : members.has ORIGIN_PARAM with
  | true =>
      simp only [verifyBrowserData, asJsonObject, Except.bind_eq_ok_iff, orThrow_eq_ok_iff,
        Option.some.injEq, throwIf_eq_ok_iff, exists_const, ho, if_true, verifyOrigin_eq_ok_iff,
        exists_eq_left', ne_eq, not_not, Bool.not_eq_true', Bool.not_eq_false]
      constructor
      · rintro ⟨-, type, htype, rfl, -, origin, horigin, ⟨canonical, hc, hmem⟩, s, hs, hd⟩
        exact ⟨htype, ⟨s, hs, hd⟩, fun _ => ⟨origin, canonical, horigin, hc, hmem⟩⟩
      · rintro ⟨htype, ⟨s, hs, hd⟩, horigin⟩
        obtain ⟨origin, canonical, ho', hc, hmem⟩ := horigin ho
        exact ⟨has_of_getString htype, _, htype, rfl, has_of_getString hs, origin, ho',
          ⟨canonical, hc, hmem⟩, s, hs, hd⟩
  | false =>
      simp only [verifyBrowserData, asJsonObject, Except.bind_eq_ok_iff, orThrow_eq_ok_iff,
        Option.some.injEq, throwIf_eq_ok_iff, exists_const, ho, Bool.false_eq_true, if_false,
        exists_eq_left', ne_eq, not_not, Bool.not_eq_true', Bool.not_eq_false]
      constructor
      · rintro ⟨-, type, htype, rfl, -, s, hs, hd⟩
        exact ⟨htype, ⟨s, hs, hd⟩, fun h => absurd (ho.symm.trans h) (by simp)⟩
      · rintro ⟨htype, ⟨s, hs, hd⟩, -⟩
        exact ⟨has_of_getString htype, _, htype, rfl, has_of_getString hs, s, hs, hd⟩

/-- **The checks on the client data, together.** -/
theorem verifyBrowserData_eq_ok_iff {element : JsonElement} {messageType : String}
    {sessionData : EnrollSessionData} {u : Unit} :
    server.verifyBrowserData element messageType sessionData = .ok u ↔
      ∃ members, element = .object members ∧
        server.ValidMembers members messageType sessionData.challenge := by
  cases element with
  | object members => simp [verifyBrowserData_object_iff]
  | null | primitive | array =>
      simp [verifyBrowserData, asJsonObject, Except.bind_eq_ok_iff]

theorem parse_and_verify_iff {browserData messageType : String} {sessionData : EnrollSessionData} :
    (∃ element, server.platform.parseJson browserData = .ok element ∧
      ∃ u, server.verifyBrowserData element messageType sessionData = .ok u) ↔
      server.ValidBrowserData browserData messageType sessionData.challenge := by
  simp only [verifyBrowserData_eq_ok_iff, ValidBrowserData, exists_const]
  constructor
  · rintro ⟨element, hparse, members, rfl, h⟩
    exact ⟨members, hparse, h⟩
  · rintro ⟨members, hparse, h⟩
    exact ⟨_, hparse, members, rfl, h⟩

/-! ### Sign responses -/

/-- The signature of the message, under a stored public key, over the client data. -/
def VerifiesSign (appId : String) (publicKey : Bytes) (browserData : String)
    (message : AuthenticateResponse) : Prop :=
  ∃ appIdSha256 browserDataSha256 key,
    server.crypto.computeSha256 (server.platform.getBytes appId) = .ok appIdSha256 ∧
    server.crypto.computeSha256 (server.platform.getBytes browserData) = .ok browserDataSha256 ∧
    server.crypto.decodePublicKey publicKey = .ok key ∧
    server.crypto.verifySignature key
      (RawMessageCodec.encodeAuthenticateSignedBytes appIdSha256 message.userPresence
        message.counter browserDataSha256) message.signature = .ok true

/-- The message of a sign response. -/
def SignMessage (response : SignResponse) (message : AuthenticateResponse) : Prop :=
  ∃ raw, server.platform.bytesOfBase64 response.signatureData = .ok raw ∧
    RawMessageCodec.decodeAuthenticateResponse raw = .ok message

/-- **A sign response that is valid** for a session and the stored key of the session, with the
client data and the message that it carries. -/
structure ValidSignResponse (session : SignSessionData) (key : SecurityKeyData Cert)
    (response : SignResponse) (browserData : String) (message : AuthenticateResponse) : Prop where
  decodes : server.platform.stringOfBase64 response.clientData = .ok browserData
  carries : server.SignMessage response message
  checks : server.ValidBrowserData browserData "navigator.id.getAssertion" session.challenge
  present : message.userPresence &&& USER_PRESENT_FLAG ≠ 0
  greater : key.counter < message.counter
  verifies : server.VerifiesSign session.appId key.publicKey browserData message

/-- **A sign response is accepted exactly when it is valid for its session and the first key of
the account with the session's public key**; its counter becomes the counter of that key. -/
theorem processSignResponse_returns_iff {response : SignResponse} {s s' : MemoryDataStore Cert}
    {k : SecurityKeyData Cert} :
    (server.processSignResponse response).Returns s k s' ↔
      ∃ session key browserData message,
        s.getSignSessionData response.sessionId = .ok (some session) ∧
        (s.getSecurityKeyData session.accountName).find?
          (MemoryDataStore.hasPublicKey session.publicKey) = some key ∧
        server.ValidSignResponse session key response browserData message ∧
        s' = s.updateSecurityKeyCounter session.accountName key.publicKey message.counter ∧
        k = key.setCounter message.counter := by
  simp only [processSignResponse, Call.returns_get_bind_iff, Call.returns_lift_bind_iff,
    Call.returns_orThrow_bind_iff, Call.returns_throwIf_bind_iff, Call.returns_modify_bind_iff,
    Call.returns_pure_iff, Int32.not_le, Bool.not_eq_true', Bool.not_eq_false]
  constructor
  · rintro ⟨_, hsession, session, rfl, key, hkey, browserData, hclient, raw, hraw, element, hparse,
      _, hverify, message, hmessage, hpresence, hcounter, h₁, hh₁, h₂, hh₂, pk, hpk, verified,
      hverified, rfl, rfl, rfl⟩
    exact ⟨session, key, browserData, message, hsession, hkey, ⟨hclient, ⟨raw, hraw, hmessage⟩,
      (server.parse_and_verify_iff).1 ⟨element, hparse, _, hverify⟩, hpresence, hcounter,
      h₁, h₂, pk, hh₁, hh₂, hpk, hverified⟩, rfl, rfl⟩
  · rintro ⟨session, key, browserData, message, hsession, hkey, ⟨hclient, ⟨raw, hraw, hmessage⟩,
      hdata, hpresence, hcounter, h₁, h₂, pk, hh₁, hh₂, hpk, hverified⟩, rfl, rfl⟩
    obtain ⟨element, hparse, _, hverify⟩ := (server.parse_and_verify_iff).2 hdata
    exact ⟨_, hsession, session, rfl, key, hkey, browserData, hclient, raw, hraw, element, hparse,
      _, hverify, message, hmessage, hpresence, hcounter, h₁, hh₁, h₂, hh₂, pk, hpk, true,
      hverified, rfl, rfl, rfl⟩

/-- A sign response that is not accepted leaves the store as it is. -/
theorem atomic_processSignResponse (response : SignResponse) :
    Call.Atomic (server.processSignResponse response) := by
  unfold processSignResponse
  refine Call.readOnly_get.atomic_bind fun store => ?_
  refine (Call.readOnly_lift _).atomic_bind fun _ => ?_
  refine (Call.readOnly_orThrow _ _).atomic_bind fun session => ?_
  refine (Call.readOnly_orThrow _ _).atomic_bind fun key => ?_
  refine (Call.readOnly_lift _).atomic_bind fun browserData => ?_
  refine (Call.readOnly_lift _).atomic_bind fun raw => ?_
  refine (Call.readOnly_lift _).atomic_bind fun element => ?_
  refine (Call.readOnly_lift _).atomic_bind fun _ => ?_
  refine (Call.readOnly_lift _).atomic_bind fun message => ?_
  refine (Call.readOnly_throwIf _ _).atomic_bind fun _ => ?_
  refine (Call.readOnly_throwIf _ _).atomic_bind fun _ => ?_
  refine (Call.readOnly_lift _).atomic_bind fun _ => ?_
  refine (Call.readOnly_lift _).atomic_bind fun _ => ?_
  refine (Call.readOnly_lift _).atomic_bind fun _ => ?_
  refine (Call.readOnly_lift _).atomic_bind fun _ => ?_
  refine (Call.readOnly_throwIf _ _).atomic_bind fun _ => ?_
  exact Call.atomic_modify_pure _ _

/-! ### Registration responses -/

/-- The signature of the message, under its certificate, over the client data. -/
def VerifiesRegistration (appId clientData : String) (message : RegisterResponse Cert) : Prop :=
  ∃ appIdSha256 clientDataSha256,
    server.crypto.computeSha256 (server.platform.getBytes appId) = .ok appIdSha256 ∧
    server.crypto.computeSha256 (server.platform.getBytes clientData) = .ok clientDataSha256 ∧
    server.crypto.verifyCertificateSignature message.attestationCertificate
      (RawMessageCodec.encodeRegistrationSignedBytes appIdSha256 clientDataSha256
        message.keyHandle message.userPublicKey) message.signature = .ok true

/-- The message of a registration response. -/
def RegistrationMessage (response : RegistrationResponse) (message : RegisterResponse Cert) :
    Prop :=
  ∃ raw, server.platform.bytesOfBase64 response.registrationData = .ok raw ∧
    RawMessageCodec.decodeRegisterResponse server.platform raw = .ok message

variable {server} in
theorem registrationMessage_unique {response : RegistrationResponse}
    {m m' : RegisterResponse Cert} (h : server.RegistrationMessage response m)
    (h' : server.RegistrationMessage response m') : m = m' := by
  obtain ⟨raw, hraw, hm⟩ := h
  obtain ⟨raw', hraw', hm'⟩ := h'
  obtain rfl : raw = raw' := Except.ok.inj (hraw.symm.trans hraw')
  exact Except.ok.inj (hm.symm.trans hm')

/-- **A registration response that is valid** for a session, with the client data, the message and
the transports that it carries. -/
structure ValidRegistrationResponse (session : EnrollSessionData) (response : RegistrationResponse)
    (clientData : String) (message : RegisterResponse Cert)
    (transports : Option (List Transports)) : Prop where
  decodes : server.platform.stringOfBase64 response.clientData = .ok clientData
  carries : server.RegistrationMessage response message
  parses : server.parseTransports message.attestationCertificate = .ok transports
  encodes : ∃ bytes, server.platform.getEncoded message.attestationCertificate = .ok bytes
  checks : server.ValidBrowserData clientData "navigator.id.finishEnrollment" session.challenge
  verifies : server.VerifiesRegistration session.appId clientData message

/-- The key of a registration message, when it is registered. -/
def newSecurityKey (message : RegisterResponse Cert) (transports : Option (List Transports))
    (currentTimeInMillis : Int64) : SecurityKeyData Cert where
  enrollmentTime := currentTimeInMillis
  transports := transports
  keyHandle := message.keyHandle
  publicKey := message.userPublicKey
  attestationCert := message.attestationCertificate
  counter := 0

/-- **A registration response is accepted exactly when it is valid for its session**; its key is
added to the keys of the account, whichever they are. -/
theorem processRegistrationResponse_returns_iff {response : RegistrationResponse} {time : Int64}
    {s s' : MemoryDataStore Cert} {k : SecurityKeyData Cert} :
    (server.processRegistrationResponse response time).Returns s k s' ↔
      ∃ session clientData message transports,
        s.getEnrollSessionData response.sessionId = some session ∧
        server.ValidRegistrationResponse session response clientData message transports ∧
        s' = s.addSecurityKeyData session.accountName k ∧
        k = newSecurityKey message transports time := by
  simp only [processRegistrationResponse, Call.returns_get_bind_iff, Call.returns_lift_bind_iff,
    Call.returns_orThrow_bind_iff, Call.returns_throwIf_bind_iff, Call.returns_modify_bind_iff,
    Call.returns_pure_iff, Except.mapError_eq_ok_iff, Bool.not_eq_true', Bool.not_eq_false]
  constructor
  · rintro ⟨session, hsession, clientData, hclient, raw, hraw, message, hmessage, transports,
      htransports, bytes, hbytes, h₁, hh₁, h₂, hh₂, element, hparse, _, hverify, verified,
      hverified, rfl, rfl, rfl⟩
    exact ⟨session, clientData, message, transports, hsession, ⟨hclient, ⟨raw, hraw, hmessage⟩,
      htransports, ⟨bytes, hbytes⟩, (server.parse_and_verify_iff).1 ⟨element, hparse, _, hverify⟩,
      h₁, h₂, hh₁, hh₂, hverified⟩, rfl, rfl⟩
  · rintro ⟨session, clientData, message, transports, hsession, ⟨hclient, ⟨raw, hraw, hmessage⟩,
      htransports, ⟨bytes, hbytes⟩, hdata, h₁, h₂, hh₁, hh₂, hverified⟩, rfl, rfl⟩
    obtain ⟨element, hparse, _, hverify⟩ := (server.parse_and_verify_iff).2 hdata
    exact ⟨session, hsession, clientData, hclient, raw, hraw, message, hmessage, transports,
      htransports, bytes, hbytes, h₁, hh₁, h₂, hh₂, element, hparse, _, hverify, true,
      hverified, rfl, rfl, rfl⟩

/-- A registration response that is not accepted leaves the store as it is. -/
theorem atomic_processRegistrationResponse (response : RegistrationResponse) (time : Int64) :
    Call.Atomic (server.processRegistrationResponse response time) := by
  unfold processRegistrationResponse
  refine Call.readOnly_get.atomic_bind fun store => ?_
  refine (Call.readOnly_orThrow _ _).atomic_bind fun session => ?_
  refine (Call.readOnly_lift _).atomic_bind fun clientData => ?_
  refine (Call.readOnly_lift _).atomic_bind fun raw => ?_
  refine (Call.readOnly_lift _).atomic_bind fun message => ?_
  refine (Call.readOnly_lift _).atomic_bind fun transports => ?_
  refine (Call.readOnly_lift _).atomic_bind fun _ => ?_
  refine (Call.readOnly_lift _).atomic_bind fun _ => ?_
  refine (Call.readOnly_lift _).atomic_bind fun _ => ?_
  refine (Call.readOnly_lift _).atomic_bind fun element => ?_
  refine (Call.readOnly_lift _).atomic_bind fun _ => ?_
  refine (Call.readOnly_lift _).atomic_bind fun _ => ?_
  refine (Call.readOnly_throwIf _ _).atomic_bind fun _ => ?_
  exact Call.atomic_modify_pure _ _

/-! ### Responses that the codec has put together -/

variable {server} (hP : server.platform.RoundTrips)
include hP

/-- A registration response put together from a message and client data is valid, if what it
carries passes the checks. -/
theorem validRegistrationResponse_encode {session : EnrollSessionData} {clientData : String}
    {message : RegisterResponse Cert} {raw : Bytes} {transports : Option (List Transports)}
    {sessionId : Option String} (hkey : message.userPublicKey.length = 65)
    (hraw : RawMessageCodec.encodeRegisterResponse server.platform message = .ok raw)
    (hparses : server.parseTransports message.attestationCertificate = .ok transports)
    (hchecks : server.ValidBrowserData clientData "navigator.id.finishEnrollment"
      session.challenge)
    (hverifies : server.VerifiesRegistration session.appId clientData message) :
    server.ValidRegistrationResponse session
      ⟨some (server.platform.encodeBase64URLSafeString raw),
        some (server.platform.encodeBase64URLSafeString (server.platform.getBytes clientData)),
        sessionId⟩ clientData message transports := by
  have hdecode := RawMessageCodec.decodeRegisterResponse_encode hkey
    (fun bytes rest => hP.generateCertificate_getEncoded _ bytes rest) hraw
  obtain ⟨bytes, hbytes, -⟩ := Except.bind_eq_ok_iff.1 hraw
  exact ⟨hP.stringOfBase64_encode clientData, ⟨raw, hP.bytesOfBase64_encode raw, hdecode⟩,
    hparses, ⟨bytes, Except.mapError_eq_ok_iff.1 hbytes⟩, hchecks, hverifies⟩

/-- A sign response put together from a message and client data is valid, if what it carries
passes the checks. -/
theorem validSignResponse_encode {session : SignSessionData} {key : SecurityKeyData Cert}
    {browserData : String} {message : AuthenticateResponse} {keyHandle sessionId : Option String}
    (hchecks : server.ValidBrowserData browserData "navigator.id.getAssertion" session.challenge)
    (hpresent : message.userPresence &&& USER_PRESENT_FLAG ≠ 0)
    (hgreater : key.counter < message.counter)
    (hverifies : server.VerifiesSign session.appId key.publicKey browserData message) :
    server.ValidSignResponse session key
      ⟨keyHandle, some (server.platform.encodeBase64URLSafeString
          (RawMessageCodec.encodeAuthenticateResponse message)),
        some (server.platform.encodeBase64URLSafeString (server.platform.getBytes browserData)),
        sessionId⟩ browserData message :=
  ⟨hP.stringOfBase64_encode browserData, ⟨_, hP.bytesOfBase64_encode _,
    RawMessageCodec.decodeAuthenticateResponse_encode message⟩, hchecks, hpresent, hgreater,
    hverifies⟩

end U2FServerReferenceImpl

end U2F
