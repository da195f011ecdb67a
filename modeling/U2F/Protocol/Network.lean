/-
**A server, its users, and everybody else.**

Any number of users have a client and a key of their own.  Everybody may call the methods of the
server, in any order and with any arguments, and a page of any origin may hand any request to the
client of any user: what is sent over the network is whatever somebody makes of what he has seen.
What the keys have signed, and for which page, is written down on the side.

Main definitions:

* `U2FClientReferenceImpl.askToRegister`, `U2FClientReferenceImpl.askToAuthenticate` — what a client
  does between the request and the response;
* `Deed` — something that a key has signed; `Network.Signed` — the bytes and the private key;
* `Network.Genuine` — what a client and a key have checked before;
* `Network.machine` — the server and the users as a machine.

Main results:

* `U2FClientReferenceImpl.register_eq`, `U2FClientReferenceImpl.authenticate_eq` — the methods of the
  client are the method of the server, what the client does, and the method of the server again;
* `Network.next_deeds` — the inversion lemma: a step adds one deed at most, and takes none away;
* `Network.genuine_exec` — **every deed of a run is genuine**, whatever the pages ask for.
-/

import U2F.Client.U2FClientReferenceImpl

set_option relaxedAutoImplicit false
set_option autoImplicit false

namespace U2F

/-! ### Between the request and the response -/

namespace U2FClientReferenceImpl

variable {Cert PublicKey PrivateKey : Type}
  (client : U2FClientReferenceImpl Cert PublicKey PrivateKey)

/-- What `register` does with a request: the client data, and the answer of the key. -/
def askToRegister (origin : String) (registrationRequest : RegistrationRequest)
    (jsonChannelId : JsonElement) (userPresence : UInt8) (keyPair : KeyPair PublicKey PrivateKey)
    (keyHandle : Bytes) :
    Call (KeyDataStore PublicKey PrivateKey) Throwable (String × RegisterResponse Cert) := do
  throwIf (registrationRequest.version ≠ U2F_V2)
    (.u2fException ("Unsupported protocol version: " ++ registrationRequest.version))
  client.validateOrigin registrationRequest.appId origin
  let clientData := ClientDataCodec.encodeClientData client.server.platform
    ClientDataCodec.REQUEST_TYPE_REGISTER registrationRequest.challenge origin jsonChannelId
  let appIdSha256 ← client.computeSha256 registrationRequest.appId
  let clientDataSha256 ← client.computeSha256 clientData
  let registerResponse ←
    client.key.register ⟨appIdSha256, clientDataSha256⟩ userPresence keyPair keyHandle
  return (clientData, registerResponse)

/-- What `authenticate` does with the challenge and the first key of a request. -/
def askToAuthenticate (origin challenge : String) (registeredKey : RegisteredKey)
    (jsonChannelId : JsonElement) (userPresence : UInt8) :
    Call (KeyDataStore PublicKey PrivateKey) Throwable (String × AuthenticateResponse) := do
  throwIf (registeredKey.version ≠ U2F_V2)
    (.u2fException ("Unsupported protocol version: " ++ registeredKey.version))
  client.validateOrigin registeredKey.appId origin
  let clientData := ClientDataCodec.encodeClientData client.server.platform
    ClientDataCodec.REQUEST_TYPE_AUTHENTICATE challenge origin jsonChannelId
  let clientDataSha256 ← client.computeSha256 clientData
  let appIdSha256 ← client.computeSha256 registeredKey.appId
  let keyHandle := client.server.platform.decodeBase64 registeredKey.keyHandle
  let authenticateResponse ← client.key.authenticate
    ⟨USER_PRESENT_FLAG, clientDataSha256, appIdSha256, keyHandle⟩ userPresence
  return (clientData, authenticateResponse)

/-- The method `register`, cut at the calls of the server. -/
theorem register_eq (origin accountName : String) (surroundings : Surroundings)
    (keyPair : KeyPair PublicKey PrivateKey) (keyHandle : Bytes) :
    client.register origin accountName surroundings keyPair keyHandle = (do
      let registrationRequest ← Call.onFst
        (client.server.getRegistrationRequest accountName origin surroundings.challenge)
      let (clientData, registerResponse) ← Call.onSnd (client.askToRegister origin
        registrationRequest surroundings.jsonChannelId surroundings.userPresence keyPair keyHandle)
      let rawRegisterResponse ←
        RawMessageCodec.encodeRegisterResponse client.server.platform registerResponse
      let _ ← Call.onFst (client.server.processRegistrationResponse
        ⟨some (client.server.platform.encodeBase64URLSafeString rawRegisterResponse),
          some (client.server.platform.encodeBase64URLSafeString
            (client.server.platform.getBytes clientData)),
          some registrationRequest.sessionId⟩ surroundings.currentTimeMillis)
      return () : Call (Stores Cert PublicKey PrivateKey) Throwable Unit) := by
  simp only [register, askToRegister, Call.onSnd_bind, Call.onSnd_throwIf, Call.onSnd_lift,
    Call.onSnd_pure, bind_assoc, pure_bind]

/-- The method `authenticate`, cut at the calls of the server. -/
theorem authenticate_eq (origin accountName : String) (surroundings : Surroundings) :
    client.authenticate origin accountName surroundings = (do
      let signRequest ← Call.onFst
        (client.server.getSignRequest accountName origin surroundings.challenge)
      let registeredKey ← orThrow signRequest.registeredKeys.head? .indexOutOfBoundsException
      let (clientData, authenticateResponse) ← Call.onSnd (client.askToAuthenticate origin
        signRequest.challenge registeredKey surroundings.jsonChannelId surroundings.userPresence)
      let rawAuthenticateResponse := RawMessageCodec.encodeAuthenticateResponse authenticateResponse
      let _ ← Call.onFst (client.server.processSignResponse
        ⟨some registeredKey.keyHandle,
          some (client.server.platform.encodeBase64URLSafeString rawAuthenticateResponse),
          some (client.server.platform.encodeBase64URLSafeString
            (client.server.platform.getBytes clientData)),
          some registeredKey.sessionId⟩)
      return () : Call (Stores Cert PublicKey PrivateKey) Throwable Unit) := by
  simp only [authenticate, askToAuthenticate, Call.onSnd_bind, Call.onSnd_throwIf, Call.onSnd_lift,
    Call.onSnd_pure, bind_assoc, pure_bind]

end U2FClientReferenceImpl

/-! ### What keys have signed -/

/-- What a signature says. -/
inductive Made (PublicKey PrivateKey : Type)
  | registration (keyPair : KeyPair PublicKey PrivateKey) (keyHandle : Bytes)
  | authentication (privateKey : PrivateKey) (counter : Int32)

/-- **Something that the key of a user has signed**, with the page and the request it was for. -/
structure Deed (ι PublicKey PrivateKey : Type) where
  user : ι
  origin : String
  appId : String
  challenge : String
  jsonChannelId : JsonElement
  userPresence : UInt8
  made : Made PublicKey PrivateKey

/-- `typ` in the client data. -/
def Made.requestType {PublicKey PrivateKey : Type} : Made PublicKey PrivateKey → String
  | registration _ _ => ClientDataCodec.REQUEST_TYPE_REGISTER
  | authentication _ _ => ClientDataCodec.REQUEST_TYPE_AUTHENTICATE

/-- The members of the client data. -/
def Deed.clientData {ι PublicKey PrivateKey : Type} (deed : Deed ι PublicKey PrivateKey) :
    JsonObject :=
  ClientDataCodec.clientData deed.made.requestType deed.challenge deed.origin deed.jsonChannelId

/-! ### The network -/

/-- A user: the client and the key. -/
structure User (Cert PublicKey PrivateKey : Type) where
  computeSha256 : String → Except Throwable Bytes
  validateOrigin : String → String → Except Throwable Unit
  key : U2FKeyReferenceImpl Cert PublicKey PrivateKey

/-- A server and its users. -/
structure Network (ι Cert PublicKey PrivateKey : Type) where
  server : U2FServerReferenceImpl Cert PublicKey
  user : ι → User Cert PublicKey PrivateKey

/-- The data stores, and the deeds in the order in which they were done. -/
structure World (ι Cert PublicKey PrivateKey : Type) where
  store : MemoryDataStore Cert
  keyStore : ι → KeyDataStore PublicKey PrivateKey
  deeds : List (Deed ι PublicKey PrivateKey)

/-- Before anything has happened. -/
def World.new {ι Cert PublicKey PrivateKey : Type} : World ι Cert PublicKey PrivateKey :=
  ⟨.new, fun _ => .new, []⟩

/-- A call of a method of the server by anybody, or a request that a page has handed to the client of
a user. -/
inductive Event (ι PublicKey PrivateKey : Type)
  | server (operation : Operation)
  | register (user : ι) (origin : String) (registrationRequest : RegistrationRequest)
      (jsonChannelId : JsonElement) (userPresence : UInt8) (keyPair : KeyPair PublicKey PrivateKey)
      (keyHandle : Bytes)
  | authenticate (user : ι) (origin challenge : String) (registeredKey : RegisteredKey)
      (jsonChannelId : JsonElement) (userPresence : UInt8)

/-- What a call returns: the reply of the server, or the client data and the answer of a key. -/
inductive Answer (Cert : Type)
  | server (reply : Reply Cert)
  | register (clientData : String) (response : RegisterResponse Cert)
  | authenticate (clientData : String) (response : AuthenticateResponse)

namespace Network

variable {ι Cert PublicKey PrivateKey : Type} (network : Network ι Cert PublicKey PrivateKey)

/-- The client of a user. -/
def client (i : ι) : U2FClientReferenceImpl Cert PublicKey PrivateKey where
  computeSha256 := (network.user i).computeSha256
  validateOrigin := (network.user i).validateOrigin
  server := network.server
  key := (network.user i).key

/-- The text of the client data. -/
def clientDataText (deed : Deed ι PublicKey PrivateKey) : String :=
  network.server.platform.jsonToString (.object deed.clientData)

/-- The bytes that a key has signed, for two hashes. -/
def signedData (deed : Deed ι PublicKey PrivateKey) (appIdSha256 clientDataSha256 : Bytes) : Bytes :=
  match deed.made with
  | .registration keyPair keyHandle =>
      RawMessageCodec.encodeRegistrationSignedBytes appIdSha256 clientDataSha256 keyHandle
        ((network.user deed.user).key.encodePublicKey keyPair.publicKey)
  | .authentication _ counter =>
      RawMessageCodec.encodeAuthenticateSignedBytes appIdSha256 deed.userPresence counter
        clientDataSha256

/-- The private key with which it was signed. -/
def signer (deed : Deed ι PublicKey PrivateKey) : PrivateKey :=
  match deed.made with
  | .registration _ _ => (network.user deed.user).key.certificatePrivateKey
  | .authentication privateKey _ => privateKey

/-- The deed is a signature of these bytes with this private key. -/
structure Signed (deed : Deed ι PublicKey PrivateKey) (privateKey : PrivateKey)
    (signedBytes : Bytes) : Prop where
  signer : network.signer deed = privateKey
  hashes : ∃ appIdSha256 clientDataSha256,
    (network.user deed.user).computeSha256 deed.appId = .ok appIdSha256 ∧
    (network.user deed.user).computeSha256 (network.clientDataText deed) = .ok clientDataSha256 ∧
    network.signedData deed appIdSha256 clientDataSha256 = signedBytes

/-! ### What a deed is worth -/

/-- What a client has checked when it gets an answer, what the key has, and that the key has signed. -/
structure Genuine (deed : Deed ι PublicKey PrivateKey) : Prop where
  verified : (network.user deed.user).validateOrigin deed.appId deed.origin = .ok ()
  present : ∀ keyPair keyHandle, deed.made = .registration keyPair keyHandle →
    deed.userPresence &&& USER_PRESENT_FLAG ≠ 0
  signed : ∃ signedBytes signature, network.Signed deed (network.signer deed) signedBytes ∧
    (network.user deed.user).key.sign signedBytes (network.signer deed) = .ok signature

variable {network}

/-- A registration that a client has got from its key. -/
theorem genuine_register {i : ι} {origin : String} {request : RegistrationRequest}
    {jsonChannelId : JsonElement} {userPresence : UInt8} {keyPair : KeyPair PublicKey PrivateKey}
    {keyHandle : Bytes} {s s' : KeyDataStore PublicKey PrivateKey}
    {answer : String × RegisterResponse Cert}
    (h : ((network.client i).askToRegister origin request jsonChannelId userPresence keyPair
      keyHandle).Returns s answer s') :
    network.Genuine ⟨i, origin, request.appId, request.challenge, jsonChannelId, userPresence,
      .registration keyPair keyHandle⟩ := by
  simp only [U2FClientReferenceImpl.askToRegister, Call.returns_throwIf_bind_iff,
    Call.returns_lift_bind_iff] at h
  obtain ⟨-, _, hverified, appIdSha256, happId, clientDataSha256, hclientData, h⟩ := h
  obtain ⟨response, _, hregister, -⟩ := Call.returns_bind_iff.1 h
  obtain ⟨hpresent, ⟨signature, hsign, -⟩, -⟩ :=
    (U2FKeyReferenceImpl.register_returns_iff _).1 hregister
  exact ⟨hverified, fun _ _ _ => hpresent,
    _, signature, ⟨rfl, appIdSha256, clientDataSha256, happId, hclientData, rfl⟩, hsign⟩

/-- An authentication, with the key pair that the key has for the key handle. -/
theorem genuine_authenticate {i : ι} {origin challenge : String} {registeredKey : RegisteredKey}
    {jsonChannelId : JsonElement} {userPresence : UInt8}
    {s s' : KeyDataStore PublicKey PrivateKey} {answer : String × AuthenticateResponse}
    {keyPair : KeyPair PublicKey PrivateKey}
    (h : ((network.client i).askToAuthenticate origin challenge registeredKey jsonChannelId
      userPresence).Returns s answer s')
    (hkeyPair : s.getKeyPair (network.server.platform.decodeBase64 registeredKey.keyHandle) =
      some keyPair) :
    network.Genuine ⟨i, origin, registeredKey.appId, challenge, jsonChannelId, userPresence,
      .authentication keyPair.privateKey answer.2.counter⟩ := by
  simp only [U2FClientReferenceImpl.askToAuthenticate, Call.returns_throwIf_bind_iff,
    Call.returns_lift_bind_iff] at h
  obtain ⟨-, _, hverified, clientDataSha256, hclientData, appIdSha256, happId, h⟩ := h
  obtain ⟨response, _, hauthenticate, hanswer⟩ := Call.returns_bind_iff.1 h
  obtain ⟨rfl, -⟩ := Call.returns_pure_iff.1 hanswer
  obtain ⟨⟨keyPair', signature, hkeyPair', hsign, rfl⟩, -⟩ :=
    (U2FKeyReferenceImpl.authenticate_returns_iff _).1 hauthenticate
  obtain rfl : keyPair' = keyPair := Option.some.inj (hkeyPair'.symm.trans hkeyPair)
  exact ⟨hverified, fun _ _ hmade => (by cases hmade),
    _, signature, ⟨rfl, appIdSha256, clientDataSha256, happId, hclientData, rfl⟩, hsign⟩

variable (network) [DecidableEq ι] [DecidableEq Cert]

/-- **The server and the users.**  A key has signed when its method returns. -/
def machine : Machine (World ι Cert PublicKey PrivateKey) (Event ι PublicKey PrivateKey)
    (Except Throwable (Answer Cert)) where
  step world
    | .server operation =>
        (.server <$> network.server.machine.reply world.store operation,
          { world with store := network.server.machine.next world.store operation })
    | .register i origin registrationRequest jsonChannelId userPresence keyPair keyHandle =>
        let result := ((network.client i).askToRegister origin registrationRequest jsonChannelId
          userPresence keyPair keyHandle).outcome (world.keyStore i)
        let world' := { world with keyStore := Function.update world.keyStore i result.2 }
        match result.1 with
        | .error e => (.error e, world')
        | .ok (clientData, response) =>
            (.ok (.register clientData response), { world' with
              deeds := world.deeds ++ [⟨i, origin, registrationRequest.appId,
                registrationRequest.challenge, jsonChannelId, userPresence,
                .registration keyPair keyHandle⟩] })
    | .authenticate i origin challenge registeredKey jsonChannelId userPresence =>
        let result := ((network.client i).askToAuthenticate origin challenge registeredKey
          jsonChannelId userPresence).outcome (world.keyStore i)
        let world' := { world with keyStore := Function.update world.keyStore i result.2 }
        match result.1, (world.keyStore i).getKeyPair
            (network.server.platform.decodeBase64 registeredKey.keyHandle) with
        | .error e, _ => (.error e, world')
        | .ok (clientData, response), none => (.ok (.authenticate clientData response), world')
        | .ok (clientData, response), some keyPair =>
            (.ok (.authenticate clientData response), { world' with
              deeds := world.deeds ++ [⟨i, origin, registeredKey.appId, challenge, jsonChannelId,
                userPresence, .authentication keyPair.privateKey response.counter⟩] })

/-! ### Steps -/

/-- Only the server changes its data store. -/
theorem next_store (world : World ι Cert PublicKey PrivateKey)
    (event : Event ι PublicKey PrivateKey) :
    (∃ operation, event = .server operation ∧ (network.machine.next world event).store =
      network.server.machine.next world.store operation) ∨
    (∀ operation, event ≠ .server operation) ∧
      (network.machine.next world event).store = world.store := by
  cases event with
  | server operation => exact .inl ⟨operation, rfl, rfl⟩
  | register i origin request jsonChannelId userPresence keyPair keyHandle =>
      refine .inr ⟨fun _ h => (by cases h), ?_⟩
      simp only [Machine.next, machine]
      split <;> rfl
  | authenticate i origin challenge registeredKey jsonChannelId userPresence =>
      refine .inr ⟨fun _ h => (by cases h), ?_⟩
      simp only [Machine.next, machine]
      split <;> rfl

/-- **The inversion lemma for the deeds.**  A step adds one deed at most, a genuine one. -/
theorem next_deeds (world : World ι Cert PublicKey PrivateKey)
    (event : Event ι PublicKey PrivateKey) :
    ∃ new, (network.machine.next world event).deeds = world.deeds ++ new ∧ new.length ≤ 1 ∧
      ∀ deed ∈ new, network.Genuine deed := by
  have hsame : ∃ new, world.deeds = world.deeds ++ new ∧ new.length ≤ 1 ∧
      ∀ deed ∈ new, network.Genuine deed := ⟨[], by simp, by simp, by simp⟩
  cases event with
  | server operation => exact hsame
  | register i origin request jsonChannelId userPresence keyPair keyHandle =>
      simp only [Machine.next, machine]
      split
      · exact hsame
      · next clientData response hresult =>
          exact ⟨[_], rfl, Nat.le_refl 1, List.forall_mem_singleton.2
            (genuine_register (Prod.ext hresult rfl))⟩
  | authenticate i origin challenge registeredKey jsonChannelId userPresence =>
      simp only [Machine.next, machine]
      split
      · exact hsame
      · exact hsame
      · next clientData response keyPair hresult hkeyPair =>
          exact ⟨[_], rfl, Nat.le_refl 1, List.forall_mem_singleton.2
            (genuine_authenticate (Prod.ext hresult rfl) hkeyPair)⟩

/-! ### Runs -/

/-- A key does not take back what it has signed. -/
theorem deeds_exec (world : World ι Cert PublicKey PrivateKey)
    (events : List (Event ι PublicKey PrivateKey)) :
    world.deeds <+: (network.machine.exec world events).deeds := by
  let R (world world' : World ι Cert PublicKey PrivateKey) := world.deeds <+: world'.deeds
  refine Machine.exec_rel (I := fun _ => True) (R := R) (fun _ => List.prefix_refl _)
    (fun h₁ h₂ => List.IsPrefix.trans h₁ h₂) (fun _ _ h => h) ?_ trivial events
  intro world event _
  obtain ⟨new, hnew, -⟩ := network.next_deeds world event
  exact ⟨new, hnew.symm⟩

/-- **Every deed of a run is genuine.** -/
theorem genuine_exec {world : World ι Cert PublicKey PrivateKey}
    (h : ∀ deed ∈ world.deeds, network.Genuine deed)
    (events : List (Event ι PublicKey PrivateKey)) :
    ∀ deed ∈ (network.machine.exec world events).deeds, network.Genuine deed := by
  let I (world : World ι Cert PublicKey PrivateKey) := ∀ deed ∈ world.deeds, network.Genuine deed
  refine Machine.exec_invariant' (I := I) ?_ events h
  intro world event h deed hmem
  obtain ⟨new, hnew, -, hgenuine⟩ := network.next_deeds world event
  rw [hnew, List.mem_append] at hmem
  exact hmem.elim (h deed) (hgenuine deed)

end Network

end U2F
