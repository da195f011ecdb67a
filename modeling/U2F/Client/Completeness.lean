/-
**Client, key and server are complete.**

The three parties agree on every byte that is signed, on the key handles and on the counters: a
registration always succeeds, and an authentication succeeds for every account that has a key.  The
key pairs of all accounts share the counter of the key.

Main definitions:

* `U2FKeyReferenceImpl.SignsFor` — what is signed with a key pair verifies under its public key;
* `U2FClientReferenceImpl.Agree` — what is assumed of the libraries of the three parties;
* `U2FClientReferenceImpl.Proper` — what is assumed of a call;
* `U2FClientReferenceImpl.Consistent` — the invariant between the two data stores.

Main results:

* `U2FClientReferenceImpl.outcome_register`, `U2FClientReferenceImpl.outcome_authenticate` — what
  the calls do;
* `U2FClientReferenceImpl.complete` — **every call succeeds**, in every run.
-/

import U2F.Client.U2FClientReferenceImpl
import U2F.Server.Keys

set_option relaxedAutoImplicit false
set_option autoImplicit false

namespace U2F

open MemoryDataStore

variable {Cert PublicKey PrivateKey : Type}

/-! ### What is assumed -/

namespace U2FClientReferenceImpl

variable (client : U2FClientReferenceImpl Cert PublicKey PrivateKey)

/-- What is signed with the private key verifies under the public key, whose encoding has the
length of an uncompressed point. -/
structure SignsFor (keyPair : KeyPair PublicKey PrivateKey) : Prop where
  length : (client.key.encodePublicKey keyPair.publicKey).length = 65
  verifies : ∃ publicKey,
    client.server.crypto.decodePublicKey (client.key.encodePublicKey keyPair.publicKey) =
      .ok publicKey ∧
    ∀ message, ∃ signature, client.key.sign message keyPair.privateKey = .ok signature ∧
      client.server.crypto.verifySignature publicKey message signature = .ok true

/-- The libraries of the three parties agree: encodings round-trip, the hashes are the same, and
the vendor certificate can be encoded, verifies what is signed with its key, and names its
transports in a well-formed way, if at all. -/
structure Agree : Prop where
  roundTrips : client.server.platform.RoundTrips
  sha256 : ∀ s, ∃ hash, client.computeSha256 s = .ok hash ∧
    client.server.crypto.computeSha256 (client.server.platform.getBytes s) = .ok hash
  encoded : ∃ bytes, client.server.platform.getEncoded client.key.vendorCertificate = .ok bytes
  transports : ∃ transports,
    U2fAttestation.Parse client.server.platform client.key.vendorCertificate = .ok transports
  certificate : ∀ message, ∃ signature,
    client.key.sign message client.key.certificatePrivateKey = .ok signature ∧
    client.server.crypto.verifyCertificateSignature client.key.vendorCertificate message signature =
      .ok true

/-- A call from an origin that is allowed and verified, with user presence, with client data that
round-trips as JSON, and with a proper key pair and key handle if it is a registration. -/
structure Proper (operation : ClientOperation PublicKey PrivateKey) : Prop where
  allowed : ∃ canonical, U2FServerReferenceImpl.canonicalizeOrigin client.server.platform
      operation.origin = .ok canonical ∧ canonical ∈ client.server.allowedOrigins
  verified : client.validateOrigin operation.origin operation.origin = .ok ()
  present : operation.surroundings.userPresence &&& USER_PRESENT_FLAG ≠ 0
  json : ∀ requestType ∈
      [ClientDataCodec.REQUEST_TYPE_REGISTER, ClientDataCodec.REQUEST_TYPE_AUTHENTICATE],
    let challenge :=
      client.server.platform.encodeBase64URLSafeString operation.surroundings.challenge
    client.server.platform.parseJson (ClientDataCodec.encodeClientData client.server.platform
        requestType challenge operation.origin operation.surroundings.jsonChannelId) =
      .ok (.object (ClientDataCodec.clientData requestType challenge operation.origin
        operation.surroundings.jsonChannelId))
  signs : ∀ keyPair keyHandle, operation.generated = some (keyPair, keyHandle) →
    client.SignsFor keyPair ∧ keyHandle.length ≤ 255

/-- The first `n` counters that the key returns are positive and strictly increasing. -/
def CountersIncrease (n : ℕ) : Prop :=
  ∀ i < n, 0 < client.key.counters i ∧ ∀ j < i, client.key.counters j < client.key.counters i

variable {client}

/-! ### Client data and signatures -/

/-- The client data of a proper call passes the checks of the server. -/
theorem Proper.validBrowserData {operation : ClientOperation PublicKey PrivateKey}
    (h : client.Proper operation) (hP : client.server.platform.RoundTrips) (requestType : String)
    (htype : requestType ∈
      [ClientDataCodec.REQUEST_TYPE_REGISTER, ClientDataCodec.REQUEST_TYPE_AUTHENTICATE]) :
    client.server.ValidBrowserData
      (ClientDataCodec.encodeClientData client.server.platform requestType
        (client.server.platform.encodeBase64URLSafeString operation.surroundings.challenge)
        operation.origin operation.surroundings.jsonChannelId)
      requestType operation.surroundings.challenge := by
  obtain ⟨canonical, hcanonical, hmem⟩ := h.allowed
  refine ⟨_, h.json requestType htype, ⟨rfl, ⟨_, rfl, hP.decodeBase64_encodeBase64 _⟩, fun _ => ?_⟩⟩
  exact ⟨_, canonical, rfl, hcanonical, hmem⟩

/-! ### Registration -/

/-- **A proper registration succeeds.**  It adds a key to the account, and stores the key pair. -/
theorem outcome_register (hagree : client.Agree) {origin accountName : String}
    {surroundings : Surroundings} {keyPair : KeyPair PublicKey PrivateKey} {keyHandle : Bytes}
    (hproper : client.Proper (.register origin accountName surroundings keyPair keyHandle))
    (store : MemoryDataStore Cert) (keyStore : KeyDataStore PublicKey PrivateKey) :
    ∃ k : SecurityKeyData Cert, k.keyHandle = keyHandle ∧
      k.publicKey = client.key.encodePublicKey keyPair.publicKey ∧ k.counter = 0 ∧
      (client.register origin accountName surroundings keyPair keyHandle).Returns (store, keyStore) ()
        ((store.storeSessionData client.server.sessionIdGenerator
            (.enroll ⟨accountName, origin, surroundings.challenge⟩)).2.addSecurityKeyData accountName k,
          keyStore.storeKeyPair keyHandle keyPair) := by
  have hP := hagree.roundTrips
  let clientData := ClientDataCodec.encodeClientData client.server.platform
    ClientDataCodec.REQUEST_TYPE_REGISTER
    (client.server.platform.encodeBase64URLSafeString surroundings.challenge) origin
    surroundings.jsonChannelId
  have hdata : client.server.ValidBrowserData clientData "navigator.id.finishEnrollment"
      surroundings.challenge := hproper.validBrowserData hP _ (by simp)
  -- what the libraries agree on, for the values of this registration
  obtain ⟨hsigns, hlength⟩ := hproper.signs keyPair keyHandle rfl
  obtain ⟨certificate, hcertificate⟩ := hagree.encoded
  obtain ⟨transports, htransports⟩ := hagree.transports
  obtain ⟨appIdSha256, happId, happId'⟩ := hagree.sha256 origin
  obtain ⟨clientDataSha256, hsha, hsha'⟩ := hagree.sha256 clientData
  obtain ⟨signature, hsign, hverify⟩ := hagree.certificate
    (RawMessageCodec.encodeRegistrationSignedBytes appIdSha256 clientDataSha256 keyHandle
      (client.key.encodePublicKey keyPair.publicKey))
  let message : RegisterResponse Cert :=
    ⟨client.key.encodePublicKey keyPair.publicKey, keyHandle, client.key.vendorCertificate, signature⟩
  have hparse : client.server.parseTransports client.key.vendorCertificate = .ok transports := by
    rw [U2FServerReferenceImpl.parseTransports, htransports]
  -- the message that the key answers with is the one the server decodes
  have hraw := RawMessageCodec.encodeRegisterResponse_eq (r := message) hcertificate hlength
  have hverifies : client.server.VerifiesRegistration origin clientData message :=
    ⟨appIdSha256, clientDataSha256, happId', hsha', hverify⟩
  let session : EnrollSessionData := ⟨accountName, origin, surroundings.challenge⟩
  let stored := store.storeSessionData client.server.sessionIdGenerator (.enroll session)
  have hvalid : client.server.ValidRegistrationResponse session ⟨_, _, some stored.1⟩ clientData
      message transports :=
    U2FServerReferenceImpl.validRegistrationResponse_encode hP hsigns.length hraw hparse hdata
      hverifies
  have hsession : stored.2.getEnrollSessionData (some stored.1) = some session := by
    rw [getEnrollSessionData, getSessionData_storeSessionData]
    rfl
  refine ⟨U2FServerReferenceImpl.newSecurityKey message transports surroundings.currentTimeMillis,
    rfl, rfl, rfl, ?_⟩
  -- the calls to the server and to the key, one after the other
  simp only [register, Call.returns_onFst_bind_iff, Call.returns_throwIf_bind_iff,
    Call.returns_lift_bind_iff, Call.returns_onSnd_bind_iff, Call.returns_pure_iff]
  refine ⟨_, stored.2, rfl, fun h => h rfl, (), hproper.verified, appIdSha256, happId,
    clientDataSha256, hsha, message, _, client.key.register_returns_iff.2
      ⟨hproper.present, ⟨signature, hsign, rfl⟩, rfl⟩, _, hraw, _, _,
    client.server.processRegistrationResponse_returns_iff.2
      ⟨session, clientData, message, transports, hsession, hvalid, rfl, rfl⟩, trivial, rfl⟩

/-! ### Authentication -/

/-- Without a key there is nothing to ask for. -/
theorem outcome_authenticate_nil {origin accountName : String} (surroundings : Surroundings)
    {store : MemoryDataStore Cert} {issued : List (SessionKind × String)}
    (htracks : store.Tracks client.server.sessionIdGenerator issued)
    (hkeys : store.getSecurityKeyData accountName = [])
    (keyStore : KeyDataStore PublicKey PrivateKey) :
    ∃ store₁ issued₁, store₁.securityKeyDataBase = store.securityKeyDataBase ∧
      store₁.Tracks client.server.sessionIdGenerator issued₁ ∧
      (client.authenticate origin accountName surroundings).outcome (store, keyStore) =
        (.error .indexOutOfBoundsException, (store₁, keyStore)) := by
  obtain ⟨registeredKeys, store₁, hreturns, hbase, hspec⟩ :=
    client.server.getSignRequest_spec accountName origin surroundings.challenge store
  obtain ⟨-, htracks₁, hoffers⟩ := hspec _ htracks
  rw [hkeys, List.forall₂_nil_left_iff] at hoffers
  refine ⟨store₁, _, hbase, htracks₁, ?_⟩
  rw [authenticate, Call.outcome_bind_of_returns (hreturns.onFst keyStore), hoffers]
  rfl

/-- With a key, the first key of the account is asked, and its answer given to the server; the
server accepts it if its counter is great enough. -/
theorem outcome_authenticate (hagree : client.Agree) {origin accountName : String}
    {surroundings : Surroundings}
    (hproper : client.Proper (.authenticate origin accountName surroundings))
    {store : MemoryDataStore Cert} {issued : List (SessionKind × String)}
    (htracks : store.Tracks client.server.sessionIdGenerator issued)
    {k : SecurityKeyData Cert} {ks : List (SecurityKeyData Cert)}
    (hkeys : store.getSecurityKeyData accountName = k :: ks)
    {keyStore : KeyDataStore PublicKey PrivateKey} {keyPair : KeyPair PublicKey PrivateKey}
    (hstored : keyStore.getKeyPair k.keyHandle = some keyPair) (hsigns : client.SignsFor keyPair)
    (hpk : k.publicKey = client.key.encodePublicKey keyPair.publicKey) :
    ∃ store₁ issued₁ response, store₁.securityKeyDataBase = store.securityKeyDataBase ∧
      store₁.Tracks client.server.sessionIdGenerator issued₁ ∧
      (client.authenticate origin accountName surroundings).outcome (store, keyStore) =
        (do
          let _ ← Call.onFst (client.server.processSignResponse response)
          return () : Call (Stores Cert PublicKey PrivateKey) Throwable Unit).outcome
          (store₁, { keyStore with countersReturned := keyStore.countersReturned + 1 }) ∧
      (k.counter < client.key.counters keyStore.countersReturned →
        (client.server.processSignResponse response).Returns store₁
          (k.setCounter (client.key.counters keyStore.countersReturned))
          (store₁.updateSecurityKeyCounter accountName k.publicKey
            (client.key.counters keyStore.countersReturned))) := by
  have hP := hagree.roundTrips
  obtain ⟨registeredKeys, store₁, hreturns, hbase, hspec⟩ :=
    client.server.getSignRequest_spec accountName origin surroundings.challenge store
  obtain ⟨-, htracks₁, hoffers⟩ := hspec _ htracks
  rw [hkeys] at hoffers
  -- the client answers for the first key it is offered
  obtain ⟨registeredKey, rest, hoffer, -, rfl⟩ := List.forall₂_cons_left_iff.1 hoffers
  let clientData := ClientDataCodec.encodeClientData client.server.platform
    ClientDataCodec.REQUEST_TYPE_AUTHENTICATE
    (client.server.platform.encodeBase64URLSafeString surroundings.challenge) origin
    surroundings.jsonChannelId
  have hdata : client.server.ValidBrowserData clientData "navigator.id.getAssertion"
      surroundings.challenge := hproper.validBrowserData hP _ (by simp)
  obtain ⟨clientDataSha256, hsha, hsha'⟩ := hagree.sha256 clientData
  obtain ⟨appIdSha256, happId, happId'⟩ := hagree.sha256 origin
  obtain ⟨publicKey, hdecode, hverifies⟩ := hsigns.verifies
  let counter := client.key.counters keyStore.countersReturned
  obtain ⟨signature, hsign, hverify⟩ := hverifies
    (RawMessageCodec.encodeAuthenticateSignedBytes appIdSha256 surroundings.userPresence counter
      clientDataSha256)
  let message : AuthenticateResponse := ⟨surroundings.userPresence, counter, signature⟩
  have hhandle : client.server.platform.decodeBase64 registeredKey.keyHandle = k.keyHandle := by
    rw [hoffer.keyHandle, hP.decodeBase64_encodeBase64]
  -- the key finds its key pair and signs with the next counter
  have hkey : (client.key.authenticate
      ⟨USER_PRESENT_FLAG, clientDataSha256, appIdSha256,
        client.server.platform.decodeBase64 registeredKey.keyHandle⟩
      surroundings.userPresence).Returns keyStore message
        { keyStore with countersReturned := keyStore.countersReturned + 1 } := by
    refine client.key.authenticate_returns_iff.2 ⟨⟨keyPair, signature, ?_, hsign, rfl⟩, rfl⟩
    rw [hhandle]
    exact hstored
  let response : SignResponse := ⟨some registeredKey.keyHandle,
    some (client.server.platform.encodeBase64URLSafeString
      (RawMessageCodec.encodeAuthenticateResponse message)),
    some (client.server.platform.encodeBase64URLSafeString
      (client.server.platform.getBytes clientData)), some registeredKey.sessionId⟩
  have hversion : ¬ registeredKey.version ≠ U2F_V2 := not_not.2 hoffer.version
  refine ⟨store₁, _, response, hbase, htracks₁, ?_, ?_⟩
  · rw [authenticate, Call.outcome_bind_of_returns (hreturns.onFst keyStore)]
    simp only [List.head?_cons, orThrow, pure_bind, throwIf, if_neg hversion, hoffer.appId]
    refine (Call.outcome_bind_of_returns (Call.returns_lift hproper.verified _)).trans ?_
    refine (Call.outcome_bind_of_returns (Call.returns_lift hsha _)).trans ?_
    refine (Call.outcome_bind_of_returns (Call.returns_lift happId _)).trans ?_
    exact Call.outcome_bind_of_returns (hkey.onSnd store₁)
  · intro hcounter
    -- the session of the offer names the stored key, whose counter is smaller
    have hsession : store₁.getSignSessionData (some registeredKey.sessionId) =
        .ok (some ⟨⟨accountName, origin, surroundings.challenge⟩, k.publicKey⟩) :=
      getSignSessionData_eq_ok_iff.2 hoffer.session
    have hfirst : (store₁.getSecurityKeyData accountName).find? (hasPublicKey k.publicKey) =
        some k := by
      rw [U2FServerReferenceImpl.getSecurityKeyData_congr hbase, hkeys,
        List.find?_cons_of_pos (hasPublicKey_self k)]
    have hverifies : client.server.VerifiesSign origin k.publicKey clientData message :=
      ⟨appIdSha256, clientDataSha256, publicKey, happId', hsha', hpk ▸ hdecode, hverify⟩
    have hvalid : client.server.ValidSignResponse
        ⟨⟨accountName, origin, surroundings.challenge⟩, k.publicKey⟩ k response clientData message :=
      U2FServerReferenceImpl.validSignResponse_encode hP hdata hproper.present hcounter hverifies
    exact client.server.processSignResponse_returns_iff.2
      ⟨_, k, clientData, message, hsession, hfirst, hvalid, rfl, rfl⟩

/-! ### Runs -/

/-- **The invariant.**  The key has the key pair of every registered key, under its key handle, and
every registered counter is smaller than the counters to come, of which there are `n` in all. -/
structure Consistent (client : U2FClientReferenceImpl Cert PublicKey PrivateKey) (n : ℕ)
    (handles : List Bytes) (stores : Stores Cert PublicKey PrivateKey) : Prop where
  tracks : ∃ issued, stores.1.Tracks client.server.sessionIdGenerator issued
  stored : ∀ keyHandle keyPair, stores.2.getKeyPair keyHandle = some keyPair → keyHandle ∈ handles
  keys : ∀ accountName, ∀ k ∈ stores.1.getSecurityKeyData accountName,
    ∃ keyPair, stores.2.getKeyPair k.keyHandle = some keyPair ∧ client.SignsFor keyPair ∧
      k.publicKey = client.key.encodePublicKey keyPair.publicKey
  counters : ∀ accountName, ∀ k ∈ stores.1.getSecurityKeyData accountName,
    ∀ i, stores.2.countersReturned ≤ i → i < n → k.counter < client.key.counters i

theorem consistent_initial (n : ℕ) : client.Consistent n [] initial where
  tracks := ⟨[], tracks_new _⟩
  stored _ _ h := by cases h
  keys _ k hk := by cases hk
  counters _ k hk := by cases hk

/-- The key handles that the registrations of a run generate. -/
def keyHandles (operations : List (ClientOperation PublicKey PrivateKey)) : List Bytes :=
  operations.filterMap fun operation => operation.generated.map Prod.snd

/-- A key that is added to an account. -/
theorem mem_getSecurityKeyData_add {store : MemoryDataStore Cert} {accountName a : String}
    {k k' : SecurityKeyData Cert}
    (h : k' ∈ (store.addSecurityKeyData accountName k).getSecurityKeyData a) :
    k' ∈ store.getSecurityKeyData a ∨ k' = k := by
  rw [getSecurityKeyData_addSecurityKeyData] at h
  by_cases ha : a = accountName
  · subst ha
    rw [Function.update_self, List.mem_append, List.mem_singleton] at h
    exact h
  · rw [Function.update_of_ne ha] at h
    exact .inl h

/-- The keys after the first key of an account has its counter set. -/
theorem mem_getSecurityKeyData_setCounter {store : MemoryDataStore Cert} {accountName a : String}
    {k k' : SecurityKeyData Cert} {ks : List (SecurityKeyData Cert)} {c : Int32}
    (hkeys : store.getSecurityKeyData accountName = k :: ks)
    (h : k' ∈ (store.updateSecurityKeyCounter accountName k.publicKey c).getSecurityKeyData a) :
    k' ∈ store.getSecurityKeyData a ∨ (k' = k.setCounter c ∧ a = accountName) := by
  rw [getSecurityKeyData_updateSecurityKeyCounter] at h
  by_cases ha : a = accountName
  · subst ha
    rw [Function.update_self, hkeys, FirstMatch.update, if_pos (hasPublicKey_self k)] at h
    rcases List.mem_cons.1 h with rfl | h
    · exact .inr ⟨rfl, rfl⟩
    · exact .inl (hkeys ▸ List.mem_cons_of_mem k h)
  · rw [Function.update_of_ne ha] at h
    exact .inl h

/-- What a call has to do: a registration succeeds, and gives the account a key; an authentication
succeeds if the account has a key. -/
def Succeeds (client : U2FClientReferenceImpl Cert PublicKey PrivateKey)
    (stores : Stores Cert PublicKey PrivateKey) : ClientOperation PublicKey PrivateKey → Prop
  | .register origin accountName surroundings keyPair keyHandle =>
      client.machine.reply stores (.register origin accountName surroundings keyPair keyHandle) =
        .ok () ∧
      (client.machine.next stores (.register origin accountName surroundings keyPair
        keyHandle)).1.getSecurityKeyData accountName ≠ []
  | .authenticate origin accountName surroundings =>
      stores.1.getSecurityKeyData accountName ≠ [] →
        client.machine.reply stores (.authenticate origin accountName surroundings) = .ok ()

/-- **The step lemma for registration.** -/
theorem consistent_register (hagree : client.Agree) {n : ℕ} (hcounters : client.CountersIncrease n)
    {handles : List Bytes} {stores : Stores Cert PublicKey PrivateKey}
    (h : client.Consistent n handles stores) {origin accountName : String}
    {surroundings : Surroundings} {keyPair : KeyPair PublicKey PrivateKey} {keyHandle : Bytes}
    (hproper : client.Proper (.register origin accountName surroundings keyPair keyHandle))
    (hfresh : keyHandle ∉ handles) :
    client.Succeeds stores (.register origin accountName surroundings keyPair keyHandle) ∧
      client.Consistent n (handles ++ [keyHandle]) (client.machine.next stores
        (.register origin accountName surroundings keyPair keyHandle)) := by
  obtain ⟨store, keyStore⟩ := stores
  obtain ⟨k, hhandle, hpk, hcounter, hreturns⟩ := outcome_register hagree hproper store keyStore
  have hstep : client.machine.step (store, keyStore)
      (.register origin accountName surroundings keyPair keyHandle) = _ := hreturns
  obtain ⟨issued, htracks⟩ := h.tracks
  simp only [Succeeds, Machine.reply, Machine.next, hstep]
  refine ⟨⟨trivial, ?_⟩, ⟨_, (htracks.storeSessionData _).congr rfl rfl⟩, ?_, ?_, ?_⟩
  · rw [getSecurityKeyData_addSecurityKeyData, Function.update_self]
    simp
  · intro keyHandle' keyPair' hstored
    by_cases hne : keyHandle' = keyHandle
    · simp [hne]
    · have hold : keyStore.getKeyPair keyHandle' = some keyPair' :=
        (Function.update_of_ne hne _ _).symm.trans hstored
      exact List.mem_append_left _ (h.stored keyHandle' keyPair' hold)
  · intro a k' hk'
    rcases mem_getSecurityKeyData_add hk' with hold | rfl
    · obtain ⟨keyPair', hstored, hsigns, hpk'⟩ := h.keys a k' hold
      -- the new key pair is stored under a key handle that no key has
      have hne : k'.keyHandle ≠ keyHandle := fun he =>
        hfresh (he ▸ h.stored k'.keyHandle keyPair' hstored)
      exact ⟨keyPair', (Function.update_of_ne hne _ _).trans hstored, hsigns, hpk'⟩
    · refine ⟨keyPair, ?_, (hproper.signs keyPair keyHandle rfl).1, hpk⟩
      rw [hhandle]
      exact Function.update_self _ _ _
  · intro a k' hk' i hi hin
    rcases mem_getSecurityKeyData_add hk' with hold | rfl
    · exact h.counters a k' hold i hi hin
    · rw [hcounter]
      exact (hcounters i hin).1

/-- A call that leaves the keys as they are. -/
theorem Consistent.congr {n : ℕ} {handles : List Bytes}
    {stores : Stores Cert PublicKey PrivateKey} (h : client.Consistent n handles stores)
    {store₁ : MemoryDataStore Cert} {issued : List (SessionKind × String)}
    (hbase : store₁.securityKeyDataBase = stores.1.securityKeyDataBase)
    (htracks : store₁.Tracks client.server.sessionIdGenerator issued) :
    client.Consistent n handles (store₁, stores.2) := by
  have hkeys := U2FServerReferenceImpl.getSecurityKeyData_congr hbase
  refine ⟨⟨issued, htracks⟩, h.stored, ?_, ?_⟩
  · rw [hkeys]
    exact h.keys
  · rw [hkeys]
    exact h.counters

/-- The counter of the first key of an account is set to a new counter of the key. -/
theorem Consistent.setCounter {n : ℕ} (hcounters : client.CountersIncrease n)
    {handles : List Bytes} {store : MemoryDataStore Cert}
    {keyStore : KeyDataStore PublicKey PrivateKey}
    (h : client.Consistent n handles (store, keyStore)) {accountName : String}
    {k : SecurityKeyData Cert} {ks : List (SecurityKeyData Cert)}
    (hkeys : store.getSecurityKeyData accountName = k :: ks) :
    client.Consistent n handles
      (store.updateSecurityKeyCounter accountName k.publicKey
          (client.key.counters keyStore.countersReturned),
        { keyStore with countersReturned := keyStore.countersReturned + 1 }) := by
  obtain ⟨issued, htracks⟩ := h.tracks
  have hmem : k ∈ store.getSecurityKeyData accountName := hkeys ▸ List.mem_cons_self
  refine ⟨⟨issued, htracks.congr rfl rfl⟩, h.stored, ?_, ?_⟩
  · intro a k' hk'
    rcases mem_getSecurityKeyData_setCounter hkeys hk' with hold | ⟨rfl, rfl⟩
    · exact h.keys a k' hold
    · exact h.keys _ k hmem
  · intro a k' hk' i hi hin
    rcases mem_getSecurityKeyData_setCounter hkeys hk' with hold | ⟨rfl, rfl⟩
    · exact h.counters a k' hold i (Nat.le_of_succ_le hi) hin
    · exact (hcounters i hin).2 _ hi

/-- A registration does not return a counter. -/
theorem countersReturned_register (hagree : client.Agree)
    (stores : Stores Cert PublicKey PrivateKey) {origin accountName : String}
    {surroundings : Surroundings} {keyPair : KeyPair PublicKey PrivateKey} {keyHandle : Bytes}
    (hproper : client.Proper (.register origin accountName surroundings keyPair keyHandle)) :
    (client.machine.next stores
        (.register origin accountName surroundings keyPair keyHandle)).2.countersReturned =
      stores.2.countersReturned := by
  obtain ⟨store, keyStore⟩ := stores
  obtain ⟨k, -, -, -, hreturns⟩ := outcome_register hagree hproper store keyStore
  have hstep : client.machine.step (store, keyStore)
      (.register origin accountName surroundings keyPair keyHandle) = _ := hreturns
  rw [Machine.next, hstep]
  rfl

/-- An authentication for an account with a key takes one counter, whatever the server answers. -/
theorem countersReturned_authenticate (hagree : client.Agree) {n : ℕ} {handles : List Bytes}
    {stores : Stores Cert PublicKey PrivateKey} (h : client.Consistent n handles stores)
    {origin accountName : String} {surroundings : Surroundings}
    (hproper : client.Proper (.authenticate origin accountName surroundings))
    (hkeys : stores.1.getSecurityKeyData accountName ≠ []) :
    (client.machine.next stores
        (.authenticate origin accountName surroundings)).2.countersReturned =
      stores.2.countersReturned + 1 := by
  obtain ⟨issued, htracks⟩ := h.tracks
  obtain ⟨k, ks, hk⟩ := List.exists_cons_of_ne_nil hkeys
  obtain ⟨keyPair, hstored, hsigns, hpk⟩ :=
    h.keys accountName k (hk ▸ List.mem_cons_self)
  obtain ⟨store₁, _, response, -, -, houtcome, -⟩ :=
    outcome_authenticate hagree hproper htracks hk hstored hsigns hpk
  have hnext : client.machine.next stores (.authenticate origin accountName surroundings) = _ :=
    congrArg Prod.snd houtcome
  rw [hnext, Call.snd_outcome_onFst_bind_pure]

/-- **The step lemma for authentication**, if the counters of the step are among the first `n`. -/
theorem consistent_authenticate (hagree : client.Agree) {n : ℕ}
    (hcounters : client.CountersIncrease n) {handles : List Bytes}
    {stores : Stores Cert PublicKey PrivateKey} (h : client.Consistent n handles stores)
    {origin accountName : String} {surroundings : Surroundings}
    (hproper : client.Proper (.authenticate origin accountName surroundings))
    (hn : (client.machine.next stores
      (.authenticate origin accountName surroundings)).2.countersReturned ≤ n) :
    client.Succeeds stores (.authenticate origin accountName surroundings) ∧
      client.Consistent n handles
        (client.machine.next stores (.authenticate origin accountName surroundings)) := by
  obtain ⟨issued, htracks⟩ := h.tracks
  cases hkeys : stores.1.getSecurityKeyData accountName with
  | nil =>
      obtain ⟨store₁, issued₁, hbase, htracks₁, hstep⟩ :=
        outcome_authenticate_nil surroundings htracks hkeys stores.2
      have hnext : client.machine.next stores (.authenticate origin accountName surroundings) =
          (store₁, stores.2) := congrArg Prod.snd hstep
      rw [hnext]
      exact ⟨fun hne => absurd hkeys hne, h.congr hbase htracks₁⟩
  | cons k ks =>
      obtain ⟨keyPair, hstored, hsigns, hpk⟩ :=
        h.keys accountName k (hkeys ▸ List.mem_cons_self)
      obtain ⟨store₁, issued₁, response, hbase, htracks₁, houtcome, haccepted⟩ :=
        outcome_authenticate hagree hproper htracks hkeys hstored hsigns hpk
      have hcount := countersReturned_authenticate hagree h hproper (by rw [hkeys]; simp)
      have hcounter := h.counters accountName k (hkeys ▸ List.mem_cons_self) _ (Nat.le_refl _)
        (by omega)
      rw [Call.outcome_bind_of_returns ((haccepted hcounter).onFst _)] at houtcome
      have hstep : client.machine.step stores (.authenticate origin accountName surroundings) = _ :=
        houtcome
      have hkeys₁ : store₁.getSecurityKeyData accountName = k :: ks :=
        (congrFun (U2FServerReferenceImpl.getSecurityKeyData_congr hbase) accountName).trans hkeys
      simp only [Succeeds, Machine.reply, Machine.next, hstep]
      exact ⟨fun _ => rfl, (h.congr hbase htracks₁).setCounter hcounters hkeys₁⟩

/-- **The step lemma.** -/
theorem consistent_step (hagree : client.Agree) {n : ℕ} (hcounters : client.CountersIncrease n)
    {handles : List Bytes} {stores : Stores Cert PublicKey PrivateKey}
    (h : client.Consistent n handles stores) {operation : ClientOperation PublicKey PrivateKey}
    (hproper : client.Proper operation) (hfresh : ∀ x ∈ handles, x ∉ keyHandles [operation])
    (hn : (client.machine.next stores operation).2.countersReturned ≤ n) :
    client.Succeeds stores operation ∧ client.Consistent n (handles ++ keyHandles [operation])
      (client.machine.next stores operation) := by
  cases operation with
  | register origin accountName surroundings keyPair keyHandle =>
      refine consistent_register hagree hcounters h hproper fun hmem => hfresh keyHandle hmem ?_
      exact List.mem_singleton_self keyHandle
  | authenticate origin accountName surroundings =>
      obtain ⟨hsucceeds, hnext⟩ := consistent_authenticate hagree hcounters h hproper hn
      exact ⟨hsucceeds, (List.append_nil handles).symm ▸ hnext⟩

section Runs

variable (hagree : client.Agree) {operations : List (ClientOperation PublicKey PrivateKey)}
  (hproper : ∀ operation ∈ operations, client.Proper operation)
  (hhandles : (keyHandles operations).Nodup)
  (hcounters : client.CountersIncrease (client.machine.exec initial operations).2.countersReturned)
include hagree hproper hhandles hcounters

/-- The step lemma, at a point of the run. -/
theorem succeeds_and_consistent {before after : List (ClientOperation PublicKey PrivateKey)}
    {operation : ClientOperation PublicKey PrivateKey}
    (heq : operations = before ++ operation :: after)
    (h : client.Consistent (client.machine.exec initial operations).2.countersReturned
      (keyHandles before) (client.machine.exec initial before)) :
    client.Succeeds (client.machine.exec initial before) operation ∧
      client.Consistent (client.machine.exec initial operations).2.countersReturned
        (keyHandles before ++ keyHandles [operation])
        (client.machine.next (client.machine.exec initial before) operation) := by
  refine consistent_step hagree hcounters h (hproper operation (by simp [heq])) ?_ ?_
  · -- the key handles of the run are distinct
    have hsplit : keyHandles operations =
        keyHandles before ++ (keyHandles [operation] ++ keyHandles after) := by
      rw [heq, ← List.singleton_append, keyHandles, List.filterMap_append, List.filterMap_append]
      rfl
    rw [hsplit, List.nodup_append] at hhandles
    intro x hx hx'
    exact hhandles.2.2 x hx x (List.mem_append_left _ hx') rfl
  · -- the counters of the step are counters of the run
    have hle := client.countersReturned_exec_le
      (client.machine.next (client.machine.exec initial before) operation) after
    rwa [heq, Machine.exec_append, Machine.exec_cons]

/-- **The run lemma.**  The invariant holds at every point of a run. -/
theorem consistent_exec {before after : List (ClientOperation PublicKey PrivateKey)}
    (heq : operations = before ++ after) :
    client.Consistent (client.machine.exec initial operations).2.countersReturned
      (keyHandles before) (client.machine.exec initial before) := by
  induction before using List.reverseRecOn generalizing after with
  | nil => exact consistent_initial _
  | append_singleton before operation ih =>
      rw [List.append_assoc, List.singleton_append] at heq
      rw [Machine.exec_concat, keyHandles, List.filterMap_append]
      exact (succeeds_and_consistent hagree hproper hhandles hcounters heq (ih heq)).2

/-- **Client, key and server are complete.**  In every run of calls from allowed and verified
origins, with user presence, distinct key handles, and increasing counters, every registration
succeeds, and so does every authentication for an account that has a key. -/
theorem complete : client.machine.AllSteps client.Succeeds initial operations := by
  rw [Machine.allSteps_iff]
  intro before operation after heq
  exact (succeeds_and_consistent hagree hproper hhandles hcounters heq
    (consistent_exec hagree hproper hhandles hcounters heq)).1

end Runs

/-! ### The client of the tests -/

section Witness

open TestVectors

/-- The client, the key and the server of the tests; the key counts from 1. -/
def testClient (encoded : Bytes) : U2FClientReferenceImpl Certificate Bytes Unit where
  computeSha256 s := .ok (sha256 (getBytes s))
  validateOrigin _ _ := .ok ()
  server := testServer encoded
  key := {
    vendorCertificate := .VENDOR_CERTIFICATE
    certificatePrivateKey := ()
    encodePublicKey := id
    counters := fun n => Int32.ofNat (n + 1)
    sign := fun signedData _ => .ok signedData }

def testSurroundings : Surroundings := ⟨SESSION.challenge, CHANNEL_ID_JSON, USER_PRESENT_FLAG, 0⟩

/-- A registration and an authentication. -/
def testOperations : List (ClientOperation Bytes Unit) :=
  [.register ORIGIN ACCOUNT_NAME testSurroundings ⟨USER_PUBLIC_KEY_ENROLL, ()⟩ KEY_HANDLE,
    .authenticate ORIGIN ACCOUNT_NAME testSurroundings]

theorem agree_testClient (encoded : Bytes) : (testClient encoded).Agree where
  roundTrips := roundTrips_platform encoded _
  sha256 _ := ⟨_, rfl, rfl⟩
  encoded := ⟨encoded, rfl⟩
  transports := ⟨none, rfl⟩
  certificate message := ⟨message, rfl, congrArg Except.ok (decide_eq_true rfl)⟩

set_option maxRecDepth 4000 in
theorem encode_challenge : Base64.encode SESSION.challenge = SERVER_CHALLENGE_BASE64 := by decide

theorem json_testClient (encoded : Bytes) {requestType : String}
    (h : requestType ∈
      [ClientDataCodec.REQUEST_TYPE_REGISTER, ClientDataCodec.REQUEST_TYPE_AUTHENTICATE]) :
    (testClient encoded).server.platform.parseJson
      (ClientDataCodec.encodeClientData (testClient encoded).server.platform requestType
        (Base64.encode SESSION.challenge) ORIGIN CHANNEL_ID_JSON) =
      .ok (.object (ClientDataCodec.clientData requestType (Base64.encode SESSION.challenge) ORIGIN
        CHANNEL_ID_JSON)) := by
  rw [encode_challenge]
  rcases List.mem_pair.1 h with rfl | rfl
  · exact parseJson_enroll encoded
  · exact parseJson_sign encoded

theorem proper_testOperations (encoded : Bytes) :
    ∀ operation ∈ testOperations, (testClient encoded).Proper operation := by
  intro operation hmem
  rcases List.mem_pair.1 hmem with rfl | rfl
  · refine ⟨⟨ORIGIN, canonicalizeOrigin_ORIGIN encoded, List.mem_singleton_self _⟩, rfl, by decide,
      fun _ h => json_testClient encoded h, ?_⟩
    rintro keyPair keyHandle h
    obtain ⟨rfl, rfl⟩ := Prod.mk.inj (Option.some.inj h)
    exact ⟨⟨length_USER_PUBLIC_KEY_ENROLL, _, rfl, fun message =>
      ⟨message, rfl, congrArg Except.ok (decide_eq_true rfl)⟩⟩,
      TestVectors.length_KEY_HANDLE_le⟩
  · exact ⟨⟨ORIGIN, canonicalizeOrigin_ORIGIN encoded, List.mem_singleton_self _⟩, rfl, by decide,
      fun _ h => json_testClient encoded h, fun _ _ h => by cases h⟩

/-- The key returns one counter. -/
theorem countersReturned_testOperations (encoded : Bytes) :
    ((testClient encoded).machine.exec initial testOperations).2.countersReturned = 1 := by
  have hregister := proper_testOperations encoded _ List.mem_cons_self
  have hauthenticate := proper_testOperations encoded _
    (List.mem_cons_of_mem _ List.mem_cons_self)
  obtain ⟨⟨-, hkeys⟩, hconsistent⟩ := consistent_register (agree_testClient encoded)
    (n := 0) (by intro i hi; omega) (consistent_initial 0) hregister (List.not_mem_nil)
  rw [testOperations, Machine.exec_cons, Machine.exec_cons, Machine.exec_nil,
    countersReturned_authenticate (agree_testClient encoded) hconsistent hauthenticate hkeys,
    countersReturned_register (agree_testClient encoded) initial hregister]
  rfl

theorem countersIncrease_testClient (encoded : Bytes) : (testClient encoded).CountersIncrease
    ((testClient encoded).machine.exec initial testOperations).2.countersReturned := by
  rw [countersReturned_testOperations]
  intro i hi
  obtain rfl : i = 0 := by omega
  have hone : (0 : Int32) < Int32.ofNat (0 + 1) := by decide
  exact ⟨hone, fun j hj => by omega⟩

/-- The registration and the authentication of the tests succeed. -/
theorem complete_testClient :
    (testClient (parseHex VENDOR_CERTIFICATE_HEX)).machine.AllSteps
      (testClient (parseHex VENDOR_CERTIFICATE_HEX)).Succeeds initial testOperations :=
  complete (agree_testClient _) (proper_testOperations _) (List.nodup_singleton _)
    (countersIncrease_testClient _)

end Witness

end U2FClientReferenceImpl

end U2F
