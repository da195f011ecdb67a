/-
**What a registration response does with a session of its kind.**

The checks on a registration response are a binary decoder, the JSON of the client data, an origin
and a signature over bytes that are put together again, and each of them can throw.  Between them
the code reads the transports of the certificate and writes its encoding to the log; these steps
fail for no certificate that the factory has read, so that the checks alone decide.

Main definitions:

* `Platform.ReadsAttestations` — the certificates that are read have encodings, and their
  transports are parsed or refused;
* `U2FServerReferenceImpl.ProperRegistration` — the checks on a registration response;
* `U2FServerReferenceImpl.AppendsKey` — what an accepted registration response does.

Main results:

* `U2FServerReferenceImpl.validRegistrationResponse_iff_proper` — the checks are enough;
* `U2FServerReferenceImpl.processRegistrationResponse_spec` — **a registration response with an id
  that `getRegistrationRequest` issued is accepted exactly when it passes the checks**; then one
  key is appended, else nothing happens.
-/

import U2F.Codec.Layouts
import U2F.Server.Sessions

set_option relaxedAutoImplicit false
set_option autoImplicit false

namespace U2F

/-- The X.509 and ASN.1 libraries, as documented: a certificate that has been read from its
encoding has one, and the parser of the transports throws nothing but a
`CertificateParsingException`. -/
structure Platform.ReadsAttestations {Cert : Type} (P : Platform Cert) : Prop where
  getEncoded_ok : ∀ data cert rest, P.generateCertificate data = .ok (cert, rest) →
    ∃ bytes, P.getEncoded cert = .ok bytes
  parse_throws : ∀ cert e, U2fAttestation.Parse P cert = .error e →
    ∃ message, e = .certificateParsingException message

namespace RawMessageCodec

open ByteStream

/-- The certificate of a message that is decoded comes from the certificate factory. -/
theorem generateCertificate_of_decodeRegisterResponse {Cert : Type} {P : Platform Cert}
    {data : Bytes} {r : RegisterResponse Cert} (h : decodeRegisterResponse P data = .ok r) :
    ∃ bytes rest, P.generateCertificate bytes = .ok (r.attestationCertificate, rest) := by
  simp only [decodeRegisterResponse, flip, Except.mapError_eq_ok_iff, parse_eq_ok_iff,
    run_bind_eq_ok_iff, run_pure_eq_ok_iff] at h
  obtain ⟨_, _, _, -, _, _, -, _, _, -, _, _, -, cert, rest, hcert, _, _, -, _, _, -, _, _, -,
    _, _, -, _, _, -, rfl, -⟩ := h
  exact ⟨_, rest, hcert⟩

end RawMessageCodec

open MemoryDataStore

namespace U2FServerReferenceImpl

variable {Cert PublicKey : Type} (server : U2FServerReferenceImpl Cert PublicKey)

/-! ### The checks -/

/-- **The checks on a registration response**, for the session it is processed with: its data
decode, its client data are an enrolment with the challenge of the session and an allowed origin,
and its certificate verifies the signature. -/
structure ProperRegistration (session : EnrollSessionData) (response : RegistrationResponse)
    (clientData : String) (message : RegisterResponse Cert) : Prop where
  decodes : server.platform.stringOfBase64 response.clientData = .ok clientData
  carries : server.RegistrationMessage response message
  checks : server.ValidBrowserData clientData "navigator.id.finishEnrollment" session.challenge
  verifies : server.VerifiesRegistration session.appId clientData message

theorem parseTransports_ok (hP : server.platform.ReadsAttestations) (cert : Cert) :
    ∃ transports, server.parseTransports cert = .ok transports := by
  rw [parseTransports]
  cases h : U2fAttestation.Parse server.platform cert with
  | ok transports => exact ⟨transports, rfl⟩
  | error e =>
      -- the exception is caught, and there are no transports
      obtain ⟨message, rfl⟩ := hP.parse_throws cert e h
      exact ⟨none, rfl⟩

/-- The transports and the encoding of the certificate stand in the way of no response. -/
theorem validRegistrationResponse_iff_proper (hP : server.platform.ReadsAttestations)
    {session : EnrollSessionData} {response : RegistrationResponse} {clientData : String}
    {message : RegisterResponse Cert} :
    (∃ transports,
      server.ValidRegistrationResponse session response clientData message transports) ↔
      server.ProperRegistration session response clientData message := by
  constructor
  · intro ⟨_, h⟩
    exact ⟨h.decodes, h.carries, h.checks, h.verifies⟩
  · intro h
    obtain ⟨raw, -, hmessage⟩ := h.carries
    obtain ⟨_, _, hcert⟩ :=
      RawMessageCodec.generateCertificate_of_decodeRegisterResponse hmessage
    obtain ⟨transports, htransports⟩ := server.parseTransports_ok hP message.attestationCertificate
    exact ⟨transports, h.decodes, h.carries, htransports, hP.getEncoded_ok _ _ _ hcert, h.checks,
      h.verifies⟩

/-! ### The effect -/

/-- What an accepted registration response does to the store: a key is appended to the keys of the
account, and nothing else changes. -/
structure AppendsKey (accountName : String) (key : SecurityKeyData Cert)
    (store store' : MemoryDataStore Cert) : Prop where
  sessions : store'.sessionDataBase = store.sessionDataBase
  sessionIds : store'.sessionIdsGenerated = store.sessionIdsGenerated
  others : ∀ a, a ≠ accountName → store'.securityKeyDataBase a = store.securityKeyDataBase a
  keys : store'.securityKeyDataBase accountName =
    some ((store.securityKeyDataBase accountName).getD [] ++ [key])

theorem appendsKey_addSecurityKeyData (accountName : String) (key : SecurityKeyData Cert)
    (store : MemoryDataStore Cert) :
    AppendsKey accountName key store (store.addSecurityKeyData accountName key) where
  sessions := rfl
  sessionIds := rfl
  others _ h := Function.update_of_ne h _ _
  keys := Function.update_self _ _ _

variable [DecidableEq Cert]

/-- The session of an id that a registration request issued. -/
theorem getEnrollSessionData_of_hasIssued {operations : List Operation}
    {response : RegistrationResponse} {time : Int64}
    (hissued : HasIssued (server.issued .new operations) .enroll
      (.processRegistrationResponse response time)) :
    ∃ session, (server.machine.exec .new operations).getSessionData response.sessionId =
        some (.enroll session) ∧
      (server.machine.exec .new operations).getEnrollSessionData response.sessionId =
        some session := by
  obtain ⟨data, hdata, hkind⟩ := (server.hasIssued_iff (server.tracks_exec operations) _ _).1 hissued
  cases data with
  | enroll session =>
      exact ⟨session, hdata, getEnrollSessionData_eq_some_iff.2 ⟨_, hdata, rfl⟩⟩
  | sign session => cases hkind

/-- **A registration response with an id that `getRegistrationRequest` issued is accepted exactly
when it passes the checks** for the session.  Then the decoded key is appended to the keys of the
account, with the counter 0, and when the call throws nothing is changed. -/
theorem processRegistrationResponse_spec (hP : server.platform.ReadsAttestations)
    (operations : List Operation) (response : RegistrationResponse) (time : Int64)
    (hissued : HasIssued (server.issued .new operations) .enroll
      (.processRegistrationResponse response time)) :
    let store := server.machine.exec .new operations
    let operation := Operation.processRegistrationResponse response time
    let store' := server.machine.next store operation
    ∃ session, store.getSessionData response.sessionId = some (.enroll session) ∧
      (server.Accepts store operation ↔
        ∃ clientData message, server.ProperRegistration session response clientData message) ∧
      (server.Accepts store operation →
        ∃ message transports,
          server.RegistrationMessage response message ∧
          server.parseTransports message.attestationCertificate = .ok transports ∧
          server.machine.reply store operation =
            .ok (.securityKeyData (newSecurityKey message transports time)) ∧
          AppendsKey session.accountName (newSecurityKey message transports time) store store') ∧
      (¬ server.Accepts store operation → store' = store) := by
  intro store operation store'
  obtain ⟨session, hdata, hsession⟩ := server.getEnrollSessionData_of_hasIssued hissued
  refine ⟨session, hdata, ?_⟩
  rcases server.step_processRegistrationResponse store response time with
    ⟨session', clientData, message, transports, hsession', hvalid, hr, hn⟩ | ⟨⟨e, he⟩, hn⟩
  · -- the call has returned, and the response was valid
    obtain rfl : session = session' := Option.some.inj (hsession.symm.trans hsession')
    have haccepts : server.Accepts store operation := ⟨_, hr⟩
    have hproper := (server.validRegistrationResponse_iff_proper hP).1 ⟨transports, hvalid⟩
    refine ⟨iff_of_true haccepts ⟨clientData, message, hproper⟩, fun _ => ?_,
      fun h => absurd haccepts h⟩
    have happends := appendsKey_addSecurityKeyData session.accountName
      (newSecurityKey message transports time) store
    rw [← hn] at happends
    exact ⟨message, transports, hvalid.carries, hvalid.parses, hr, happends⟩
  · -- the call has thrown: were the response proper, it would have returned
    have hnot : ¬ server.Accepts store operation := server.not_accepts_of_error he
    refine ⟨iff_of_false hnot ?_, fun h => absurd h hnot, fun _ => hn⟩
    intro ⟨clientData, message, hproper⟩
    obtain ⟨transports, hvalid⟩ := (server.validRegistrationResponse_iff_proper hP).2 hproper
    exact hnot ⟨_, (server.step_of_validRegistrationResponse hsession hvalid time).1⟩

section Witness

open TestVectors

variable (encoded : Bytes)

theorem readsAttestations_testServer : (testServer encoded).platform.ReadsAttestations where
  getEncoded_ok _ _ _ _ := ⟨encoded, rfl⟩
  parse_throws _ _ h := nomatch h

theorem getSessionData_firstSessionId :
    ((testServer encoded).machine.exec .new [registrationRequestOp]).getSessionData
      (some firstSessionId) = some (.enroll SESSION) :=
  getSessionData_storeSessionData new httpSessionIdGenerator (.enroll SESSION)

theorem hasIssued_firstSessionId (time : Int64) :
    HasIssued ((testServer encoded).issued .new [registrationRequestOp]) .enroll
      (registrationOp encoded KEY_HANDLE USER_PUBLIC_KEY_ENROLL firstSessionId time) :=
  ((testServer encoded).hasIssued_iff ((testServer encoded).tracks_exec [registrationRequestOp])
    _ _).2 ⟨_, getSessionData_firstSessionId encoded, rfl⟩

/-- The registration response of the tests is accepted. -/
theorem accepts_registrationResponse :
    (testServer (parseHex VENDOR_CERTIFICATE_HEX)).Accepts
      ((testServer (parseHex VENDOR_CERTIFICATE_HEX)).machine.exec .new [registrationRequestOp])
      (.processRegistrationResponse (registrationResponse (parseHex VENDOR_CERTIFICATE_HEX)
        KEY_HANDLE USER_PUBLIC_KEY_ENROLL firstSessionId) 0) := by
  obtain ⟨session, hsession, hiff, -⟩ := processRegistrationResponse_spec _
    (readsAttestations_testServer (parseHex VENDOR_CERTIFICATE_HEX)) _ _ _
    (hasIssued_firstSessionId (parseHex VENDOR_CERTIFICATE_HEX) 0)
  have hsession' : some (SessionData.enroll SESSION) = some (.enroll session) :=
    (getSessionData_firstSessionId _).symm.trans hsession
  obtain rfl : SESSION = session := by simpa using hsession'
  have hvalid := valid_registrationResponse (parseHex VENDOR_CERTIFICATE_HEX) firstSessionId
    length_USER_PUBLIC_KEY_ENROLL length_KEY_HANDLE_le
  exact hiff.2 ⟨_, _, hvalid.decodes, hvalid.carries, hvalid.checks, hvalid.verifies⟩

end Witness

end U2FServerReferenceImpl

end U2F
