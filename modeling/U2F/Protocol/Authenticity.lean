/-
**Nobody in the middle.**

What the server accepts, a user has consented to.  Behind every registration with the attestation
certificate of a user's key, and behind every authentication with a key so registered, there is
something that the key has signed: with its user present, for the app id and the challenge of the
session, and for a page of an origin that the server allows and that the client has verified.  Nothing
is assumed about who calls the server, in which order and with what; it is assumed, of the signatures,
the hashes and the client data that occur in the run, that signatures are not forged, hashes do not
collide, and client data are parsed back to what they were put together from.

Main definitions:

* `Network.Unforged`, `Network.NoCollision`, `Network.ParsesBack` — what is assumed of a call of the
  server, together `Network.Trustworthy`;
* `Network.Answers` — a deed is the answer to the request of a session;
* `Network.RegistersAuthentically`, `Network.SignsAuthentically` — what is behind what is accepted.

Main results:

* `Network.authentic_registration`, `Network.authentic_sign` — **behind what the server accepts there
  is a deed of a user**, in every run;
* `Network.authentic_sign_recent` — it was done after the request, if the challenge was new.
-/

import U2F.Codec.Layouts
import U2F.Protocol.Network
import U2F.Server.Counters
import U2F.Server.SignedStatements

set_option relaxedAutoImplicit false
set_option autoImplicit false

namespace U2F

/-- The client data that a response carries. -/
def Operation.clientData : Operation → Option String
  | processRegistrationResponse response _ => response.clientData
  | processSignResponse response => response.clientData
  | _ => none

namespace Network

variable {ι Cert PublicKey PrivateKey : Type} (network : Network ι Cert PublicKey PrivateKey)

/-! ### What is assumed -/

/-- Hashes have 32 bytes, and an encoded public key is an uncompressed point, as documented. -/
structure Documented : Prop where
  hashes : network.server.crypto.Hashes
  userHashes : ∀ i text hash, (network.user i).computeSha256 text = .ok hash → hash.length = 32
  encodePublicKey : ∀ i publicKey, ((network.user i).key.encodePublicKey publicKey).length = 65

/-- The server verifies a signature of an attestation certificate, and it is right. -/
def VerifiesCertificate (store : MemoryDataStore Cert) (operation : Operation) (cert : Cert)
    (signedBytes : Bytes) : Prop :=
  ∃ response time session clientData message appIdSha256 clientDataSha256,
    operation = .processRegistrationResponse response time ∧
    store.getEnrollSessionData response.sessionId = some session ∧
    network.server.platform.stringOfBase64 response.clientData = .ok clientData ∧
    network.server.RegistrationMessage response message ∧
    network.server.crypto.computeSha256 (network.server.platform.getBytes session.appId) =
      .ok appIdSha256 ∧
    network.server.crypto.computeSha256 (network.server.platform.getBytes clientData) =
      .ok clientDataSha256 ∧
    message.attestationCertificate = cert ∧
    RawMessageCodec.encodeRegistrationSignedBytes appIdSha256 clientDataSha256 message.keyHandle
      message.userPublicKey = signedBytes ∧
    network.server.crypto.verifyCertificateSignature cert signedBytes message.signature = .ok true

/-- The server verifies a signature of a stored public key, and it is right. -/
def VerifiesPublicKey (store : MemoryDataStore Cert) (operation : Operation) (publicKey : Bytes)
    (signedBytes : Bytes) : Prop :=
  ∃ response session browserData message appIdSha256 browserDataSha256 key,
    operation = .processSignResponse response ∧
    store.getSignSessionData response.sessionId = .ok (some session) ∧
    network.server.platform.stringOfBase64 response.clientData = .ok browserData ∧
    network.server.SignMessage response message ∧
    network.server.crypto.computeSha256 (network.server.platform.getBytes session.appId) =
      .ok appIdSha256 ∧
    network.server.crypto.computeSha256 (network.server.platform.getBytes browserData) =
      .ok browserDataSha256 ∧
    session.publicKey = publicKey ∧
    network.server.crypto.decodePublicKey publicKey = .ok key ∧
    RawMessageCodec.encodeAuthenticateSignedBytes appIdSha256 message.userPresence message.counter
      browserDataSha256 = signedBytes ∧
    network.server.crypto.verifySignature key signedBytes message.signature = .ok true

/-- **Signatures are not forged**: what the server verifies has been signed, if the private key is in
the hands of the users' keys only. -/
structure Unforged (world : World ι Cert PublicKey PrivateKey) (operation : Operation) : Prop where
  certificate : ∀ cert signedBytes,
    network.VerifiesCertificate world.store operation cert signedBytes →
    (∃ i, (network.user i).key.vendorCertificate = cert) →
    ∃ deed ∈ world.deeds, (network.user deed.user).key.vendorCertificate = cert ∧
      network.Signed deed (network.user deed.user).key.certificatePrivateKey signedBytes
  publicKey : ∀ publicKey signedBytes,
    network.VerifiesPublicKey world.store operation publicKey signedBytes →
    ∀ registration ∈ world.deeds, ∀ keyPair keyHandle,
      registration.made = .registration keyPair keyHandle →
      (network.user registration.user).key.encodePublicKey keyPair.publicKey = publicKey →
      ∃ deed ∈ world.deeds, deed.user = registration.user ∧
        network.Signed deed keyPair.privateKey signedBytes

/-- The texts that the server hashes. -/
def Hashes (store : MemoryDataStore Cert) (operation : Operation) (text : String) : Prop :=
  (∃ session, store.getEnrollSessionData operation.sessionId = some session ∧
    text = session.appId) ∨
  network.server.platform.stringOfBase64 operation.clientData = .ok text

/-- **Hashes do not collide**: what the server hashes is what a client has hashed, if the hash is the
same. -/
def NoCollision (world : World ι Cert PublicKey PrivateKey) (operation : Operation) : Prop :=
  ∀ deed ∈ world.deeds, ∀ text ∈ [deed.appId, network.clientDataText deed], ∀ text' hash,
    network.Hashes world.store operation text' →
    (network.user deed.user).computeSha256 text = .ok hash →
    network.server.crypto.computeSha256 (network.server.platform.getBytes text') = .ok hash →
    text = text'

/-- **Client data are parsed back** to what a client has put together. -/
def ParsesBack (world : World ι Cert PublicKey PrivateKey) (operation : Operation) : Prop :=
  ∀ deed ∈ world.deeds,
    network.server.platform.stringOfBase64 operation.clientData = .ok (network.clientDataText deed) →
    network.server.platform.parseJson (network.clientDataText deed) = .ok (.object deed.clientData)

/-- What is assumed of a call of the server; nothing is assumed of what the users do. -/
def Trustworthy (world : World ι Cert PublicKey PrivateKey) :
    Event ι PublicKey PrivateKey → Prop
  | .server operation => network.Unforged world operation ∧ network.NoCollision world operation ∧
      network.ParsesBack world operation
  | _ => True

/-! ### What is behind -/

/-- **The deed is the answer to the request of the session**: of a user who was present, for a page
of an allowed origin. -/
structure Answers (deed : Deed ι PublicKey PrivateKey) (session : EnrollSessionData) : Prop where
  appId : deed.appId = session.appId
  challenge : network.server.platform.decodeBase64 deed.challenge = session.challenge
  allowed : ∃ canonical, U2FServerReferenceImpl.canonicalizeOrigin network.server.platform
      deed.origin = .ok canonical ∧ canonical ∈ network.server.allowedOrigins
  verified : (network.user deed.user).validateOrigin deed.appId deed.origin = .ok ()
  present : deed.userPresence &&& USER_PRESENT_FLAG ≠ 0

/-- The deed is the registration of the key, with this key pair. -/
structure Registers (deed : Deed ι PublicKey PrivateKey) (k : SecurityKeyData Cert)
    (keyPair : KeyPair PublicKey PrivateKey) : Prop where
  certificate : (network.user deed.user).key.vendorCertificate = k.attestationCert
  made : deed.made = .registration keyPair k.keyHandle
  publicKey : (network.user deed.user).key.encodePublicKey keyPair.publicKey = k.publicKey

/-! ### What the signed bytes say -/

variable {network}

/-- The client data of a deed, when the server accepts them. -/
theorem challenge_and_origin {deed : Deed ι PublicKey PrivateKey} {messageType : String}
    {challenge : Bytes}
    (h : network.server.ValidMembers deed.clientData messageType challenge) :
    network.server.platform.decodeBase64 deed.challenge = challenge ∧
      ∃ canonical, U2FServerReferenceImpl.canonicalizeOrigin network.server.platform
        deed.origin = .ok canonical ∧ canonical ∈ network.server.allowedOrigins := by
  obtain ⟨s, hs, hchallenge⟩ := h.challenge
  obtain rfl : deed.challenge = s := Except.ok.inj hs
  obtain ⟨origin, canonical, horigin, hcanonical, hmem⟩ := h.origin rfl
  obtain rfl : deed.origin = origin := Except.ok.inj horigin
  exact ⟨hchallenge, canonical, hcanonical, hmem⟩

/-- A deed whose bytes are those of a registration is this registration. -/
theorem Signed.registration (hdoc : network.Documented) {deed : Deed ι PublicKey PrivateKey}
    {privateKey : PrivateKey} (s : RegistrationStatement)
    (h : network.Signed deed privateKey (Statement.registration s).signedBytes) :
    ∃ keyPair, deed.made = .registration keyPair s.keyHandle ∧
      (network.user deed.user).key.encodePublicKey keyPair.publicKey = s.userPublicKey ∧
      (network.user deed.user).computeSha256 deed.appId = .ok s.applicationSha256 ∧
      (network.user deed.user).computeSha256 (network.clientDataText deed) =
        .ok s.challengeSha256 := by
  obtain ⟨appIdSha256, clientDataSha256, happId, hclientData, hbytes⟩ := h.hashes
  have happLength := hdoc.userHashes _ _ _ happId
  have hclientLength := hdoc.userHashes _ _ _ hclientData
  cases hmade : deed.made with
  | registration keyPair keyHandle =>
      let t : RegistrationStatement := ⟨appIdSha256, clientDataSha256, keyHandle, _, happLength,
        hclientLength, hdoc.encodePublicKey deed.user keyPair.publicKey⟩
      rw [signedData, hmade] at hbytes
      obtain rfl : t = s := RegistrationStatement.encode_injective hbytes
      exact ⟨keyPair, rfl, rfl, happId, hclientData⟩
  | authentication privateKey counter =>
      rw [signedData, hmade] at hbytes
      exact absurd hbytes.symm (registration_ne_authentication s
        ⟨appIdSha256, deed.userPresence, counter, clientDataSha256, happLength, hclientLength⟩)

/-- A deed whose bytes are those of an authentication is this authentication. -/
theorem Signed.authentication (hdoc : network.Documented) {deed : Deed ι PublicKey PrivateKey}
    {privateKey : PrivateKey} (s : AuthenticationStatement)
    (h : network.Signed deed privateKey (Statement.authentication s).signedBytes) :
    deed.made = .authentication privateKey s.counter ∧ deed.userPresence = s.userPresence ∧
      (network.user deed.user).computeSha256 deed.appId = .ok s.applicationSha256 ∧
      (network.user deed.user).computeSha256 (network.clientDataText deed) =
        .ok s.challengeSha256 := by
  obtain ⟨appIdSha256, clientDataSha256, happId, hclientData, hbytes⟩ := h.hashes
  have happLength := hdoc.userHashes _ _ _ happId
  have hclientLength := hdoc.userHashes _ _ _ hclientData
  cases hmade : deed.made with
  | registration keyPair keyHandle =>
      rw [signedData, hmade] at hbytes
      exact absurd hbytes (registration_ne_authentication ⟨appIdSha256, clientDataSha256, keyHandle,
        _, happLength, hclientLength, hdoc.encodePublicKey deed.user keyPair.publicKey⟩ s)
  | authentication privateKey' counter =>
      let t : AuthenticationStatement :=
        ⟨appIdSha256, deed.userPresence, counter, clientDataSha256, happLength, hclientLength⟩
      have hsigner := h.signer
      rw [Network.signer, hmade] at hsigner
      rw [signedData, hmade] at hbytes
      obtain rfl : t = s := AuthenticationStatement.encode_injective hbytes
      exact ⟨by rw [← hsigner], rfl, happId, hclientData⟩

/-- **A deed with the hashes that the server computes is the answer to its session.** -/
theorem answers_of_hashes {world : World ι Cert PublicKey PrivateKey} {operation : Operation}
    (hcollision : network.NoCollision world operation) (hparses : network.ParsesBack world operation)
    {deed : Deed ι PublicKey PrivateKey} (hmem : deed ∈ world.deeds)
    (hgenuine : network.Genuine deed) (hpresent : deed.userPresence &&& USER_PRESENT_FLAG ≠ 0)
    {session : EnrollSessionData} {text messageType : String} {appIdSha256 textSha256 : Bytes}
    (hsession : world.store.getEnrollSessionData operation.sessionId = some session)
    (htext : network.server.platform.stringOfBase64 operation.clientData = .ok text)
    (hvalid : network.server.ValidBrowserData text messageType session.challenge)
    (happId : (network.user deed.user).computeSha256 deed.appId = .ok appIdSha256)
    (happId' : network.server.crypto.computeSha256 (network.server.platform.getBytes session.appId) =
      .ok appIdSha256)
    (hdata : (network.user deed.user).computeSha256 (network.clientDataText deed) = .ok textSha256)
    (hdata' : network.server.crypto.computeSha256 (network.server.platform.getBytes text) =
      .ok textSha256) :
    network.Answers deed session := by
  have hsame : deed.appId = session.appId := hcollision deed hmem _ (by simp) _ _
    (.inl ⟨session, hsession, rfl⟩) happId happId'
  have htexts : network.clientDataText deed = text :=
    hcollision deed hmem _ (by simp) _ _ (.inr htext) hdata hdata'
  -- the members that the server checks are those that the client has put together
  obtain ⟨members, hmembers, hvalid⟩ := hvalid
  have hparsed := hparses deed hmem (htexts ▸ htext)
  rw [htexts, hmembers] at hparsed
  obtain rfl : members = deed.clientData := JsonElement.object.inj (Except.ok.inj hparsed)
  obtain ⟨hchallenge, hallowed⟩ := challenge_and_origin hvalid
  exact ⟨hsame, hchallenge, hallowed, hgenuine.verified, hpresent⟩

/-! ### Registrations -/

/-- **Behind a valid registration there is a deed.** -/
theorem exists_registration (hdoc : network.Documented) {world : World ι Cert PublicKey PrivateKey}
    {response : RegistrationResponse} {time : Int64}
    (htrust : network.Trustworthy world (.server (.processRegistrationResponse response time)))
    (hgenuine : ∀ deed ∈ world.deeds, network.Genuine deed) {session : EnrollSessionData}
    {clientData : String} {message : RegisterResponse Cert} {transports : Option (List Transports)}
    (hsession : world.store.getEnrollSessionData response.sessionId = some session)
    (hvalid : network.server.ValidRegistrationResponse session response clientData message transports)
    (hvendor : ∃ i, (network.user i).key.vendorCertificate = message.attestationCertificate) :
    ∃ deed ∈ world.deeds, ∃ keyPair,
      network.Registers deed (U2FServerReferenceImpl.newSecurityKey message transports time)
        keyPair ∧ network.Answers deed session := by
  obtain ⟨hunforged, hcollision, hparses⟩ := htrust
  obtain ⟨raw, -, hdecode⟩ := hvalid.carries
  have hlength := (RawMessageCodec.wellFormed_of_decodeRegisterResponse hdecode).length_userPublicKey
  obtain ⟨appIdSha256, clientDataSha256, happId, hclientData, hverifies⟩ := hvalid.verifies
  -- what the server has verified is the statement of a registration
  let s : RegistrationStatement := ⟨appIdSha256, clientDataSha256, message.keyHandle,
    message.userPublicKey, hdoc.hashes _ _ happId, hdoc.hashes _ _ hclientData, hlength⟩
  obtain ⟨deed, hmem, hcertificate, hsigned⟩ := hunforged.certificate _ (Statement.registration s).signedBytes
    ⟨response, time, session, clientData, message, appIdSha256, clientDataSha256, rfl, hsession,
      hvalid.decodes, hvalid.carries, happId, hclientData, rfl, rfl, hverifies⟩ hvendor
  obtain ⟨keyPair, hmade, hpublicKey, happId', hclientData'⟩ := hsigned.registration hdoc s
  exact ⟨deed, hmem, keyPair, ⟨hcertificate, hmade, hpublicKey⟩,
    answers_of_hashes hcollision hparses hmem (hgenuine deed hmem)
      ((hgenuine deed hmem).present _ _ hmade) hsession hvalid.decodes hvalid.checks happId' happId
      hclientData' hclientData⟩

/-! ### Authentications -/

/-- **Behind a valid sign response there is a deed**, if there is one behind its key. -/
theorem exists_authentication (hdoc : network.Documented)
    {world : World ι Cert PublicKey PrivateKey} {response : SignResponse}
    (htrust : network.Trustworthy world (.server (.processSignResponse response)))
    (hgenuine : ∀ deed ∈ world.deeds, network.Genuine deed) {session : SignSessionData}
    {key : SecurityKeyData Cert} {browserData : String} {message : AuthenticateResponse}
    (hsession : world.store.getSignSessionData response.sessionId = .ok (some session))
    (hkey : session.publicKey = key.publicKey)
    (hvalid : network.server.ValidSignResponse session key response browserData message)
    {registration : Deed ι PublicKey PrivateKey} (hregistration : registration ∈ world.deeds)
    {keyPair : KeyPair PublicKey PrivateKey} (hregisters : network.Registers registration key keyPair) :
    ∃ deed ∈ world.deeds, deed.user = registration.user ∧
      deed.made = .authentication keyPair.privateKey message.counter ∧
      network.Answers deed session.toEnrollSessionData := by
  obtain ⟨hunforged, hcollision, hparses⟩ := htrust
  obtain ⟨appIdSha256, browserDataSha256, publicKey, happId, hbrowserData, hdecode, hverifies⟩ :=
    hvalid.verifies
  let s : AuthenticationStatement := ⟨appIdSha256, message.userPresence, message.counter,
    browserDataSha256, hdoc.hashes _ _ happId, hdoc.hashes _ _ hbrowserData⟩
  obtain ⟨deed, hmem, huser, hsigned⟩ := hunforged.publicKey _ (Statement.authentication s).signedBytes
    ⟨response, session, browserData, message, appIdSha256, browserDataSha256, publicKey, rfl,
      hsession, hvalid.decodes, hvalid.carries, happId, hbrowserData, hkey, hdecode, rfl, hverifies⟩
    registration hregistration keyPair _ hregisters.made hregisters.publicKey
  obtain ⟨hmade, hpresence, happId', hbrowserData'⟩ := hsigned.authentication hdoc s
  have henroll : world.store.getEnrollSessionData response.sessionId =
      some session.toEnrollSessionData :=
    MemoryDataStore.getEnrollSessionData_eq_some_iff.2
      ⟨_, MemoryDataStore.getSignSessionData_eq_ok_iff.1 hsession, rfl⟩
  exact ⟨deed, hmem, huser, hmade, answers_of_hashes hcollision hparses hmem (hgenuine deed hmem)
    (hpresence ▸ hvalid.present) henroll hvalid.decodes hvalid.checks happId' happId hbrowserData'
    hbrowserData⟩

/-! ### Runs -/

section Runs

variable [DecidableEq ι] [DecidableEq Cert]

variable (network)

/-- Behind the registration that is accepted there is the deed of a user, if the certificate is that
of a user's key. -/
def RegistersAuthentically (world : World ι Cert PublicKey PrivateKey) :
    Event ι PublicKey PrivateKey → Prop
  | .server (.processRegistrationResponse response time) => ∀ k,
      network.server.machine.reply world.store (.processRegistrationResponse response time) =
        .ok (.securityKeyData k) →
      (∃ i, (network.user i).key.vendorCertificate = k.attestationCert) →
      ∃ session, world.store.getEnrollSessionData response.sessionId = some session ∧
        ∃ deed ∈ world.deeds, ∃ keyPair,
          network.Registers deed k keyPair ∧ network.Answers deed session
  | _ => True

/-- Behind the sign response that is accepted there is the deed of a user, if the certificate is that
of a user's key; it is signed with the key pair of the registration, and has the counter. -/
def SignsAuthentically (world : World ι Cert PublicKey PrivateKey) :
    Event ι PublicKey PrivateKey → Prop
  | .server (.processSignResponse response) => ∀ k,
      network.server.machine.reply world.store (.processSignResponse response) =
        .ok (.securityKeyData k) →
      (∃ i, (network.user i).key.vendorCertificate = k.attestationCert) →
      ∃ session, world.store.getSignSessionData response.sessionId = .ok (some session) ∧
        ∃ registration ∈ world.deeds, ∃ keyPair, network.Registers registration k keyPair ∧
          ∃ deed ∈ world.deeds, deed.user = registration.user ∧
            deed.made = .authentication keyPair.privateKey k.counter ∧
            network.Answers deed session.toEnrollSessionData
  | _ => True

/-- Behind every stored key with the certificate of a user's key there is the deed of a user. -/
def KeysAttested (world : World ι Cert PublicKey PrivateKey) : Prop :=
  ∀ accountName, ∀ k ∈ world.store.getSecurityKeyData accountName,
    (∃ i, (network.user i).key.vendorCertificate = k.attestationCert) →
    ∃ deed ∈ world.deeds, ∃ keyPair, network.Registers deed k keyPair

variable {network}

/-- **The step lemma.** -/
theorem keysAttested_step (hdoc : network.Documented) {world : World ι Cert PublicKey PrivateKey}
    {event : Event ι PublicKey PrivateKey} (hgenuine : ∀ deed ∈ world.deeds, network.Genuine deed)
    (h : network.KeysAttested world) (htrust : network.Trustworthy world event) :
    network.KeysAttested (network.machine.next world event) := by
  obtain ⟨new, hnew, -⟩ := network.next_deeds world event
  have hdeeds : world.deeds ⊆ (network.machine.next world event).deeds :=
    hnew ▸ List.subset_append_left _ _
  intro accountName k hk hvendor
  suffices hbehind : ∃ deed ∈ world.deeds, ∃ keyPair, network.Registers deed k keyPair by
    obtain ⟨deed, hmem, hregisters⟩ := hbehind
    exact ⟨deed, hdeeds hmem, hregisters⟩
  rcases network.next_store world event with ⟨operation, rfl, hstore⟩ | ⟨-, hstore⟩
  · rw [hstore] at hk
    rcases (network.server.keysStep world.store operation).mem network.server hk with
      ⟨k', hk', counter, rfl | rfl⟩ | ⟨_, _, _, _, _, _, rfl, hsession, hvalid, -, rfl⟩
    · exact h accountName _ hk' hvendor
    · -- the counter of a key is all that a sign response changes
      obtain ⟨deed, hmem, keyPair, hregisters⟩ := h accountName k' hk' hvendor
      exact ⟨deed, hmem, keyPair, hregisters.certificate, hregisters.made, hregisters.publicKey⟩
    · obtain ⟨deed, hmem, keyPair, hregisters, -⟩ :=
        exists_registration hdoc htrust hgenuine hsession hvalid hvendor
      exact ⟨deed, hmem, keyPair, hregisters⟩
  · exact h accountName k (hstore ▸ hk) hvendor

/-- What holds at every point of a run. -/
def Invariant (network : Network ι Cert PublicKey PrivateKey)
    (world : World ι Cert PublicKey PrivateKey) : Prop :=
  (∀ deed ∈ world.deeds, network.Genuine deed) ∧ network.KeysAttested world

omit [DecidableEq ι] [DecidableEq Cert] in
theorem invariant_new : network.Invariant World.new :=
  ⟨fun _ h => absurd h List.not_mem_nil, fun _ _ h => absurd h List.not_mem_nil⟩

theorem invariant_step (hdoc : network.Documented) (world : World ι Cert PublicKey PrivateKey)
    (event : Event ι PublicKey PrivateKey) (h : network.Invariant world)
    (htrust : network.Trustworthy world event) :
    network.Invariant (network.machine.next world event) :=
  ⟨network.genuine_exec h.1 [event], keysAttested_step hdoc h.1 h.2 htrust⟩

variable {events : List (Event ι PublicKey PrivateKey)}

/-- **Behind every registration with the certificate of a user's key there is a deed of a user**: his
key has made the key pair, he was present, and he answered the request of the session on a page of an
allowed origin. -/
theorem authentic_registration (hdoc : network.Documented)
    (h : network.machine.AllSteps network.Trustworthy World.new events) :
    network.machine.AllSteps network.RegistersAuthentically World.new events := by
  refine Machine.allSteps_of_invariant (I := network.Invariant) ?_ h invariant_new
  intro world event hinv htrust
  refine ⟨?_, invariant_step hdoc world event hinv htrust⟩
  rcases event with (_ | ⟨response, time⟩ | _ | _ | _ | _) | _ | _
  case server.processRegistrationResponse =>
    intro k hk hvendor
    rcases network.server.step_processRegistrationResponse world.store response time with
      ⟨session, _, _, _, hsession, hvalid, hr, -⟩ | ⟨⟨e, hr⟩, -⟩
    · obtain rfl := Reply.securityKeyData.inj (Except.ok.inj (hr.symm.trans hk))
      exact ⟨session, hsession,
        exists_registration hdoc htrust hinv.1 hsession hvalid hvendor⟩
    · cases hr.symm.trans hk
  all_goals trivial

/-- **Behind every authentication with a key so registered there is a deed of the same user**: his key
has signed it with the key pair of the registration and with the same counter, he was present, and he
answered the request of the session on a page of an allowed origin. -/
theorem authentic_sign (hdoc : network.Documented)
    (h : network.machine.AllSteps network.Trustworthy World.new events) :
    network.machine.AllSteps network.SignsAuthentically World.new events := by
  refine Machine.allSteps_of_invariant (I := network.Invariant) ?_ h invariant_new
  intro world event hinv htrust
  refine ⟨?_, invariant_step hdoc world event hinv htrust⟩
  rcases event with (_ | _ | _ | response | _ | _) | _ | _
  case server.processSignResponse =>
    intro k hk hvendor
    rcases network.server.step_processSignResponse world.store response with
      ⟨session, key, _, message, hsession, hkey, hvalid, hr, -⟩ | ⟨⟨e, hr⟩, -⟩
    · obtain rfl := Reply.securityKeyData.inj (Except.ok.inj (hr.symm.trans hk))
      obtain ⟨registration, hmem, keyPair, hregisters⟩ :=
        hinv.2 _ key (List.mem_of_find?_eq_some hkey) hvendor
      have hpublicKey := U2FServerReferenceImpl.publicKey_of_find? hkey
      exact ⟨session, hsession, registration, hmem, keyPair,
        ⟨hregisters.certificate, hregisters.made, hregisters.publicKey⟩,
        exists_authentication hdoc htrust hinv.1 hsession hpublicKey.symm hvalid hmem hregisters⟩
    · cases hr.symm.trans hk
  all_goals trivial

/-! ### Requests and their answers -/

/-- The part of a run that the server sees. -/
def operations (events : List (Event ι PublicKey PrivateKey)) : List Operation :=
  events.filterMap fun
    | .server operation => some operation
    | _ => none

variable (network) in
/-- The data store of the server is that of a run of the server alone. -/
theorem store_exec (world : World ι Cert PublicKey PrivateKey)
    (events : List (Event ι PublicKey PrivateKey)) :
    (network.machine.exec world events).store =
      network.server.machine.exec world.store (operations events) := by
  induction events generalizing world with
  | nil => rfl
  | cons event events ih =>
      rw [Machine.exec_cons, ih]
      rcases network.next_store world event with ⟨operation, rfl, hstore⟩ | ⟨hother, hstore⟩
      · rw [hstore]
        rfl
      · rw [hstore]
        cases event with
        | server operation => exact absurd rfl (hother operation)
        | register => rfl
        | authenticate => rfl

/-- The session of a key that has been offered, at any later point. -/
theorem getSignSessionData_of_offered {before : List (Event ι PublicKey PrivateKey)}
    {accountName appId : String} {challenge : Bytes} {request : U2fSignRequest}
    {registeredKey : RegisteredKey}
    (hrequest : network.server.machine.reply (network.machine.exec World.new before).store
      (.getSignRequest accountName appId challenge) = .ok (.signRequest request))
    (hoffered : registeredKey ∈ request.registeredKeys)
    (mid : List (Event ι PublicKey PrivateKey)) :
    ∃ publicKey, (network.machine.exec World.new
        (before ++ .server (.getSignRequest accountName appId challenge) :: mid)).store.getSignSessionData
        (some registeredKey.sessionId) = .ok (some ⟨⟨accountName, appId, challenge⟩, publicKey⟩) := by
  rw [store_exec] at hrequest
  obtain ⟨registeredKeys, hreply, -, hspec⟩ := network.server.step_getSignRequest
    (network.server.machine.exec .new (operations before)) accountName appId challenge
  obtain rfl := Reply.signRequest.inj (Except.ok.inj (hreply.symm.trans hrequest))
  obtain ⟨-, -, hoffers⟩ := hspec _ (network.server.tracks_exec (operations before))
  obtain ⟨key, -, hoffer⟩ := Traverse.exists_of_forall₂_right hoffers hoffered
  refine ⟨key.publicKey, MemoryDataStore.getSignSessionData_eq_ok_iff.2 ?_⟩
  have hextends := network.server.extends_exec
    (operations before ++ [.getSignRequest accountName appId challenge]) (operations mid)
  have hops : operations (before ++ .server (.getSignRequest accountName appId challenge) :: mid) =
      operations before ++ [.getSignRequest accountName appId challenge] ++ operations mid := by
    simp [operations]
  rw [store_exec, hops]
  refine hextends.getSessionData ?_
  rw [Machine.exec_concat]
  exact hoffer.session

/-- **An authentication is recent**: if no authentication has answered the challenge of a request
before, the deed behind a response to the request has been done after it. -/
theorem authentic_sign_recent (hdoc : network.Documented)
    {before mid : List (Event ι PublicKey PrivateKey)} {response : SignResponse}
    {accountName appId : String} {challenge : Bytes} {request : U2fSignRequest}
    {registeredKey : RegisteredKey} {k : SecurityKeyData Cert}
    (h : network.machine.AllSteps network.Trustworthy World.new
      (before ++ .server (.getSignRequest accountName appId challenge) :: mid ++
        [.server (.processSignResponse response)]))
    (hrequest : network.server.machine.reply (network.machine.exec World.new before).store
      (.getSignRequest accountName appId challenge) = .ok (.signRequest request))
    (hoffered : registeredKey ∈ request.registeredKeys)
    (hresponse : response.sessionId = some registeredKey.sessionId)
    (hnew : ∀ deed ∈ (network.machine.exec World.new before).deeds, ∀ privateKey counter,
      deed.made = .authentication privateKey counter →
      network.server.platform.decodeBase64 deed.challenge ≠ challenge)
    (haccepted : network.server.machine.reply (network.machine.exec World.new
        (before ++ .server (.getSignRequest accountName appId challenge) :: mid)).store
      (.processSignResponse response) = .ok (.securityKeyData k))
    (hvendor : ∃ i, (network.user i).key.vendorCertificate = k.attestationCert) :
    ∃ since, (network.machine.exec World.new
        (before ++ .server (.getSignRequest accountName appId challenge) :: mid)).deeds =
        (network.machine.exec World.new before).deeds ++ since ∧
      ∃ deed ∈ since, ∃ privateKey, deed.made = .authentication privateKey k.counter ∧
        network.Answers deed ⟨accountName, appId, challenge⟩ := by
  have hall := authentic_sign hdoc h
  obtain ⟨-, hsigns, -⟩ := Machine.allSteps_append.1 hall
  obtain ⟨session, hsession, -, -, keyPair, -, deed, hmem, -, hmade, hanswers⟩ :=
    hsigns k haccepted hvendor
  obtain ⟨publicKey, hoffer⟩ := getSignSessionData_of_offered hrequest hoffered mid
  rw [hresponse, hoffer] at hsession
  obtain rfl := Option.some.inj (Except.ok.inj hsession)
  obtain ⟨since, hsince⟩ := network.deeds_exec (network.machine.exec World.new before)
    (.server (.getSignRequest accountName appId challenge) :: mid)
  rw [← Machine.exec_append] at hsince
  rw [← hsince, List.mem_append] at hmem
  refine ⟨since, hsince.symm, deed, hmem.resolve_left fun hold => ?_, _, hmade, hanswers⟩
  exact hnew deed hold _ _ hmade hanswers.challenge

end Runs

/-! ### A run of the tests -/

section Witness

open TestVectors MemoryDataStore

variable (encoded : Bytes)

/-- The server of the tests and one user, whose key counts from 1. -/
def testNetwork : Network Unit Certificate Bytes Unit where
  server := testServer encoded
  user _ := {
    computeSha256 := fun s => .ok (sha256 (getBytes s))
    validateOrigin := fun _ _ => .ok ()
    key := {
      vendorCertificate := .VENDOR_CERTIFICATE
      certificatePrivateKey := ()
      encodePublicKey := fun publicKey =>
        if publicKey.length = 65 then publicKey else List.replicate 65 0
      counters := fun n => Int32.ofNat (n + 1)
      sign := fun signedData _ => .ok signedData } }

theorem documented_testNetwork : (testNetwork encoded).Documented where
  hashes := U2FServerReferenceImpl.hashes_crypto
  userHashes i text hash h := by
    rw [← Except.ok.inj h]
    exact U2FServerReferenceImpl.length_sha256 _
  encodePublicKey i publicKey := by
    by_cases h : publicKey.length = 65
    · simp [testNetwork, h]
    · simp [testNetwork, h]

theorem encodePublicKey_testNetwork :
    ((testNetwork encoded).user ()).key.encodePublicKey USER_PUBLIC_KEY_ENROLL =
      USER_PUBLIC_KEY_ENROLL := if_pos length_USER_PUBLIC_KEY_ENROLL

/-- What the key of the tests signs. -/
def registrationDeed : Deed Unit Bytes Unit :=
  ⟨(), ORIGIN, ORIGIN, SERVER_CHALLENGE_BASE64, CHANNEL_ID_JSON, USER_PRESENT_FLAG,
    .registration ⟨USER_PUBLIC_KEY_ENROLL, ()⟩ KEY_HANDLE⟩

def authenticationDeed : Deed Unit Bytes Unit :=
  ⟨(), ORIGIN, ORIGIN, SERVER_CHALLENGE_BASE64, CHANNEL_ID_JSON, USER_PRESENT_FLAG,
    .authentication () 1⟩

/-- The registration and the authentication, on the page of the tests. -/
def registerEvent : Event Unit Bytes Unit :=
  .register () ORIGIN ⟨U2F_V2, SERVER_CHALLENGE_BASE64, ORIGIN, firstSessionId⟩ CHANNEL_ID_JSON
    USER_PRESENT_FLAG ⟨USER_PUBLIC_KEY_ENROLL, ()⟩ KEY_HANDLE

def authenticateEvent : Event Unit Bytes Unit :=
  .authenticate () ORIGIN SERVER_CHALLENGE_BASE64
    ⟨U2F_V2, Base64.encode KEY_HANDLE, none, ORIGIN, secondSessionId⟩ CHANNEL_ID_JSON
    USER_PRESENT_FLAG

/-- The data store of the key after the registration. -/
def testKeyStore : KeyDataStore Bytes Unit :=
  KeyDataStore.new.storeKeyPair KEY_HANDLE ⟨USER_PUBLIC_KEY_ENROLL, ()⟩

theorem next_registerEvent {world : World Unit Certificate Bytes Unit}
    (h : world.keyStore () = .new) :
    (testNetwork encoded).machine.next world registerEvent =
      { world with
        keyStore := Function.update world.keyStore () testKeyStore
        deeds := world.deeds ++ [registrationDeed] } := by
  simp only [Machine.next, machine, registerEvent, h]
  rfl

theorem next_authenticateEvent {world : World Unit Certificate Bytes Unit}
    (h : world.keyStore () = testKeyStore) :
    (testNetwork encoded).machine.next world authenticateEvent =
      { world with
        keyStore := Function.update world.keyStore () { testKeyStore with countersReturned := 1 }
        deeds := world.deeds ++ [authenticationDeed] } := by
  have hkeyPair : testKeyStore.getKeyPair ((testNetwork encoded).server.platform.decodeBase64
      (Base64.encode KEY_HANDLE)) = some ⟨USER_PUBLIC_KEY_ENROLL, ()⟩ := by
    change testKeyStore.getKeyPair (Base64.decode (Base64.encode KEY_HANDLE)) = _
    rw [Base64.decode_encode]
    exact Function.update_self _ _ _
  have hreturns : (((testNetwork encoded).client ()).askToAuthenticate ORIGIN
      SERVER_CHALLENGE_BASE64 ⟨U2F_V2, Base64.encode KEY_HANDLE, none, ORIGIN, secondSessionId⟩
      CHANNEL_ID_JSON USER_PRESENT_FLAG).outcome testKeyStore =
        (.ok (jsonText BROWSER_DATA_SIGN, authenticateResponse 1),
          { testKeyStore with countersReturned := 1 }) := by
    rw [← Call.Returns]
    simp only [U2FClientReferenceImpl.askToAuthenticate, Call.returns_throwIf_bind_iff,
      Call.returns_lift_bind_iff]
    refine ⟨fun hne => hne rfl, (), rfl, _, rfl, _, rfl, Call.returns_bind_iff.2 ⟨_, _,
      (U2FKeyReferenceImpl.authenticate_returns_iff _).2
        ⟨⟨_, _, hkeyPair, rfl, rfl⟩, rfl⟩, rfl⟩⟩
  simp only [Machine.next, machine, authenticateEvent, h, hreturns, hkeyPair]
  rfl

/-- The texts that are hashed. -/
def testTexts : List String := [ORIGIN, jsonText BROWSER_DATA_ENROLL, jsonText BROWSER_DATA_SIGN]

/-- They have different hashes. -/
theorem nodup_testTexts : (testTexts.map fun text => sha256 (getBytes text)).Nodup := by
  decide +kernel

/-- The deeds of the run. -/
def OfTests (world : World Unit Certificate Bytes Unit) : Prop :=
  ∀ deed ∈ world.deeds, deed = registrationDeed ∨ deed = authenticationDeed

theorem noCollision_testNetwork {world : World Unit Certificate Bytes Unit} {operation : Operation}
    (hdeeds : OfTests world)
    (htexts : ∀ text, (testNetwork encoded).Hashes world.store operation text → text ∈ testTexts) :
    (testNetwork encoded).NoCollision world operation := by
  intro deed hdeed text htext text' hash htext' hhash hhash'
  have hmem : text ∈ testTexts := by
    rcases hdeeds deed hdeed with rfl | rfl
    · rcases List.mem_pair.1 htext with rfl | rfl
      · exact List.mem_cons_self
      · exact List.mem_cons_of_mem _ List.mem_cons_self
    · rcases List.mem_pair.1 htext with rfl | rfl
      · exact List.mem_cons_self
      · exact List.mem_cons_of_mem _ (List.mem_cons_of_mem _ List.mem_cons_self)
  exact List.inj_on_of_nodup_map nodup_testTexts hmem (htexts text' htext')
    (Except.ok.inj (hhash.trans hhash'.symm))

theorem parsesBack_testNetwork {world : World Unit Certificate Bytes Unit} {operation : Operation}
    (hdeeds : OfTests world) : (testNetwork encoded).ParsesBack world operation := by
  intro deed hdeed _
  rcases hdeeds deed hdeed with rfl | rfl
  · exact parseJson_enroll encoded
  · exact parseJson_sign encoded

/-- A call that brings no response. -/
theorem trustworthy_request {world : World Unit Certificate Bytes Unit} {operation : Operation}
    (hdeeds : OfTests world) (hid : operation.sessionId = none)
    (hdata : operation.clientData = none) :
    (testNetwork encoded).Trustworthy world (.server operation) := by
  refine ⟨⟨?_, ?_⟩, noCollision_testNetwork encoded hdeeds ?_, parsesBack_testNetwork encoded hdeeds⟩
  · rintro _ _ ⟨response, time, session, _, _, _, _, rfl, hsession, -⟩
    cases (congrArg world.store.getEnrollSessionData hid).symm.trans hsession
  · rintro _ _ ⟨response, session, _, _, _, _, _, rfl, hsession, -⟩
    cases (congrArg world.store.getSignSessionData hid).symm.trans hsession
  · rintro text (⟨session, hsession, -⟩ | htext)
    · rw [hid] at hsession
      cases hsession
    · rw [hdata] at htext
      cases htext

/-- The response to the registration request. -/
theorem trustworthy_registration {world : World Unit Certificate Bytes Unit}
    (hdeeds : OfTests world) (hmem : registrationDeed ∈ world.deeds)
    (hstored : world.store.getSessionData (some firstSessionId) = some (.enroll SESSION)) :
    (testNetwork encoded).Trustworthy world
      (.server (registrationOp encoded KEY_HANDLE USER_PUBLIC_KEY_ENROLL firstSessionId 0)) := by
  have henroll : world.store.getEnrollSessionData (some firstSessionId) = some SESSION := by
    rw [getEnrollSessionData, hstored]
    rfl
  obtain ⟨hdecodes, hcarries, -⟩ := valid_registrationResponse encoded firstSessionId
    length_USER_PUBLIC_KEY_ENROLL TestVectors.length_KEY_HANDLE_le
  refine ⟨⟨?_, ?_⟩, noCollision_testNetwork encoded hdeeds ?_, parsesBack_testNetwork encoded hdeeds⟩
  · rintro _ _ ⟨response, time, session, clientData, message, appIdSha256, clientDataSha256, hop,
      hsession, hclientData, hmessage, happId, hsha, rfl, rfl, -⟩ -
    obtain ⟨rfl, -⟩ := Operation.processRegistrationResponse.inj hop
    obtain rfl : session = SESSION := Option.some.inj (hsession.symm.trans henroll)
    obtain rfl := Except.ok.inj (hclientData.symm.trans hdecodes)
    obtain rfl := U2FServerReferenceImpl.registrationMessage_unique hmessage hcarries
    obtain rfl := Except.ok.inj happId
    obtain rfl := Except.ok.inj hsha
    refine ⟨registrationDeed, hmem, rfl, rfl, _, _, rfl, rfl, ?_⟩
    exact congrArg (RawMessageCodec.encodeRegistrationSignedBytes _ _ _)
      (encodePublicKey_testNetwork encoded)
  · rintro _ _ ⟨_, _, _, _, _, _, _, hop, -⟩
    cases hop
  · rintro text (⟨session, hsession, rfl⟩ | htext)
    · obtain rfl : session = SESSION := Option.some.inj (hsession.symm.trans henroll)
      exact List.mem_cons_self
    · obtain rfl := Except.ok.inj (htext.symm.trans hdecodes)
      exact List.mem_cons_of_mem _ List.mem_cons_self

/-- The response to the sign request. -/
theorem trustworthy_sign {world : World Unit Certificate Bytes Unit}
    (hdeeds : OfTests world) (hmem : authenticationDeed ∈ world.deeds)
    (hstored : world.store.getSessionData (some secondSessionId) =
      some (.sign ⟨SESSION, USER_PUBLIC_KEY_ENROLL⟩)) :
    (testNetwork encoded).Trustworthy world (.server (signOp encoded secondSessionId 1)) := by
  have hsign : world.store.getSignSessionData (some secondSessionId) =
      .ok (some ⟨SESSION, USER_PUBLIC_KEY_ENROLL⟩) := by rw [getSignSessionData, hstored]
  have henroll : world.store.getEnrollSessionData (some secondSessionId) = some SESSION := by
    rw [getEnrollSessionData, hstored]
    rfl
  have hcounter : (newKey KEY_HANDLE USER_PUBLIC_KEY_ENROLL 0).counter < 1 := by decide
  obtain ⟨hdecodes, hcarries, -⟩ := valid_signResponse encoded secondSessionId hcounter
  refine ⟨⟨?_, ?_⟩, noCollision_testNetwork encoded hdeeds ?_, parsesBack_testNetwork encoded hdeeds⟩
  · rintro _ _ ⟨_, _, _, _, _, _, _, hop, -⟩
    cases hop
  · rintro _ _ ⟨response, session, browserData, message, appIdSha256, browserDataSha256, key, hop,
      hsession, hclientData, hmessage, happId, hsha, rfl, -, rfl, -⟩ registration hregistration
      keyPair keyHandle hmade -
    obtain rfl := Operation.processSignResponse.inj hop
    obtain rfl := Option.some.inj (Except.ok.inj (hsession.symm.trans hsign))
    obtain rfl := Except.ok.inj (hclientData.symm.trans hdecodes)
    obtain rfl := U2FServerReferenceImpl.signMessage_unique _ hmessage hcarries
    obtain rfl := Except.ok.inj happId
    obtain rfl := Except.ok.inj hsha
    exact ⟨authenticationDeed, hmem, rfl, rfl, _, _, rfl, rfl, rfl⟩
  · rintro text (⟨session, hsession, rfl⟩ | htext)
    · obtain rfl : session = SESSION := Option.some.inj (hsession.symm.trans henroll)
      exact List.mem_cons_self
    · obtain rfl := Except.ok.inj (htext.symm.trans hdecodes)
      exact List.mem_cons_of_mem _ (List.mem_cons_of_mem _ List.mem_cons_self)

/-- A registration, up to the sign request that follows it. -/
def testRegistration : List (Event Unit Bytes Unit) :=
  [.server registrationRequestOp, registerEvent,
    .server (registrationOp encoded KEY_HANDLE USER_PUBLIC_KEY_ENROLL firstSessionId 0)]

/-- What the registration leaves. -/
def registeredWorld : World Unit Certificate Bytes Unit where
  store := U2FServerReferenceImpl.registeredStore
  keyStore := Function.update (fun _ => .new) () testKeyStore
  deeds := [registrationDeed]

theorem keyStore_registeredWorld : registeredWorld.keyStore () = testKeyStore :=
  by simp only [registeredWorld, Function.update_self]

theorem exec_testRegistration :
    (testNetwork encoded).machine.exec World.new (testRegistration encoded) = registeredWorld := by
  have hregistered := (U2FServerReferenceImpl.step_registrationOp_KEY_HANDLE encoded
    (rfl : TestVectors.requestedStore.getSessionData = _) 0).2
  rw [testRegistration, Machine.exec_cons, Machine.exec_cons, next_registerEvent encoded rfl,
    Machine.exec_cons, Machine.exec_nil]
  exact congrArg (fun store => (⟨store, _, _⟩ : World Unit Certificate Bytes Unit)) hregistered

/-- What the sign request and the authentication leave. -/
def authenticatedWorld : World Unit Certificate Bytes Unit where
  store := U2FServerReferenceImpl.offeredStore
  keyStore := Function.update registeredWorld.keyStore () { testKeyStore with countersReturned := 1 }
  deeds := [registrationDeed, authenticationDeed]

theorem getSecurityKeyData_registeredStore :
    U2FServerReferenceImpl.registeredStore.getSecurityKeyData ACCOUNT_NAME =
      [newKey KEY_HANDLE USER_PUBLIC_KEY_ENROLL 0] :=
  U2FServerReferenceImpl.getSecurityKeyData_offeredStore

theorem next_signRequest : (testNetwork encoded).server.machine.next
      U2FServerReferenceImpl.registeredStore signRequestOp =
        U2FServerReferenceImpl.offeredStore := by
  refine (next_signRequestOp encoded getSecurityKeyData_registeredStore).trans ?_
  rw [publicKey_newKey, U2FServerReferenceImpl.offeredStore]

theorem exec_registeredWorld :
    (testNetwork encoded).machine.exec registeredWorld [.server signRequestOp, authenticateEvent] =
      authenticatedWorld := by
  have hstep : (testNetwork encoded).machine.next registeredWorld (.server signRequestOp) =
      ⟨U2FServerReferenceImpl.offeredStore, registeredWorld.keyStore, registeredWorld.deeds⟩ :=
    congrArg (fun store => (⟨store, _, _⟩ : World Unit Certificate Bytes Unit))
      (next_signRequest encoded)
  rw [Machine.exec_cons, hstep, Machine.exec_cons, Machine.exec_nil]
  exact next_authenticateEvent encoded keyStore_registeredWorld

/-- A registration and an authentication. -/
def testEvents : List (Event Unit Bytes Unit) :=
  testRegistration encoded ++ .server signRequestOp :: [authenticateEvent] ++
    [.server (signOp encoded secondSessionId 1)]

theorem trustworthy_testEvents : (testNetwork encoded).machine.AllSteps
    (testNetwork encoded).Trustworthy World.new (testEvents encoded) := by
  have hnone : OfTests World.new := fun deed hdeed => absurd hdeed List.not_mem_nil
  have hone : ∀ store keyStore, OfTests ⟨store, keyStore, [registrationDeed]⟩ :=
    fun _ _ deed hdeed => .inl (List.mem_singleton.1 hdeed)
  have htwo : OfTests authenticatedWorld := fun deed hdeed => List.mem_pair.1 hdeed
  rw [testEvents, Machine.allSteps_append, Machine.allSteps_append, Machine.exec_append,
    exec_testRegistration, exec_registeredWorld]
  refine ⟨⟨⟨trustworthy_request encoded hnone rfl rfl, trivial, ?_, trivial⟩,
    trustworthy_request encoded (hone _ _) rfl rfl, trivial, trivial⟩, ?_, trivial⟩
  · rw [next_registerEvent encoded rfl]
    exact trustworthy_registration encoded (hone _ _) (List.mem_singleton_self _)
      TestVectors.getSessionData_requestedStore
  · exact trustworthy_sign encoded htwo (List.mem_cons_of_mem _ List.mem_cons_self)
      U2FServerReferenceImpl.getSessionData_offeredStore.1

/-- The registration of the tests is authentic. -/
theorem authentic_registration_testEvents :
    (testNetwork (parseHex VENDOR_CERTIFICATE_HEX)).machine.AllSteps
      (testNetwork (parseHex VENDOR_CERTIFICATE_HEX)).RegistersAuthentically World.new
      (testEvents (parseHex VENDOR_CERTIFICATE_HEX)) :=
  authentic_registration (documented_testNetwork _) (trustworthy_testEvents _)

/-- The authentication of the tests is authentic. -/
theorem authentic_sign_testEvents :
    (testNetwork (parseHex VENDOR_CERTIFICATE_HEX)).machine.AllSteps
      (testNetwork (parseHex VENDOR_CERTIFICATE_HEX)).SignsAuthentically World.new
      (testEvents (parseHex VENDOR_CERTIFICATE_HEX)) :=
  authentic_sign (documented_testNetwork _) (trustworthy_testEvents _)

/-- The key that is offered for the authentication. -/
def offeredKey : RegisteredKey :=
  ⟨U2F_V2, Base64.encode KEY_HANDLE, none, ORIGIN, secondSessionId⟩

theorem reply_signRequest : (testNetwork encoded).server.machine.reply
      U2FServerReferenceImpl.registeredStore signRequestOp =
        .ok (.signRequest ⟨Base64.encode SESSION.challenge, [offeredKey]⟩) := by
  change (((testServer encoded).perform signRequestOp).outcome _).1 = _
  rw [signRequestOp, U2FServerReferenceImpl.perform, U2FServerReferenceImpl.getSignRequest,
    Call.outcome_map, Call.outcome_bind]
  simp only [Call.outcome_get, getSecurityKeyData_registeredStore]
  rfl

theorem reply_signOp : (testNetwork encoded).server.machine.reply
      U2FServerReferenceImpl.offeredStore (signOp encoded secondSessionId 1) =
        .ok (.securityKeyData ((newKey KEY_HANDLE USER_PUBLIC_KEY_ENROLL 0).setCounter 1)) := by
  refine (step_signOp encoded U2FServerReferenceImpl.getSessionData_offeredStore.1 ?_ ?_).1
  · rw [U2FServerReferenceImpl.getSecurityKeyData_offeredStore,
      List.find?_cons_of_pos (hasPublicKey_self _)]
  · decide

/-- The authentication of the tests has been done after the sign request. -/
theorem authentic_sign_recent_testEvents :
    let network := testNetwork (parseHex VENDOR_CERTIFICATE_HEX)
    let before := testRegistration (parseHex VENDOR_CERTIFICATE_HEX)
    ∃ since, (network.machine.exec World.new
        (before ++ .server signRequestOp :: [authenticateEvent])).deeds =
        (network.machine.exec World.new before).deeds ++ since ∧
      ∃ deed ∈ since, ∃ privateKey, deed.made = .authentication privateKey 1 ∧
        network.Answers deed SESSION := by
  intro network before
  have hbefore : network.machine.exec World.new before = registeredWorld := exec_testRegistration _
  have hmid : network.machine.exec World.new
      (before ++ .server signRequestOp :: [authenticateEvent]) = authenticatedWorld := by
    rw [Machine.exec_append, hbefore, exec_registeredWorld]
  have hrequest : network.server.machine.reply (network.machine.exec World.new before).store
      signRequestOp = .ok (.signRequest ⟨Base64.encode SESSION.challenge, [offeredKey]⟩) := by
    rw [hbefore]
    exact reply_signRequest _
  have haccepted : network.server.machine.reply (network.machine.exec World.new
      (before ++ .server signRequestOp :: [authenticateEvent])).store
        (signOp (parseHex VENDOR_CERTIFICATE_HEX) secondSessionId 1) =
      .ok (.securityKeyData ((newKey KEY_HANDLE USER_PUBLIC_KEY_ENROLL 0).setCounter 1)) := by
    rw [hmid]
    exact reply_signOp _
  refine authentic_sign_recent (documented_testNetwork _) (trustworthy_testEvents _) hrequest
    List.mem_cons_self rfl ?_ haccepted ⟨(), rfl⟩
  rw [hbefore]
  intro deed hdeed privateKey counter hmade
  obtain rfl := List.mem_singleton.1 hdeed
  cases hmade

end Witness

end Network

end U2F
