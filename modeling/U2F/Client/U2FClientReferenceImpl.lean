/-
**The reference client, with a key, against a server.**

`U2FClientReferenceImpl.java` gets a request from the server, asks the key, and gives the key's
answer to the server.  A call works on two states, the data store of the server and that of the key.

Main definitions:

* `U2FClientReferenceImpl` — a client with its server and its key;
* `U2FClientReferenceImpl.register`, `U2FClientReferenceImpl.authenticate` — the methods;
* `U2FClientReferenceImpl.machine` — the three parties as a machine, one call after another.

Main results:

* `U2FClientReferenceImpl.countersReturned_exec_le` — the counter of the key is never set back.
-/

import U2F.Codec.ClientDataCodec
import U2F.Key.U2FKeyReferenceImpl
import U2F.Server.Runs

set_option relaxedAutoImplicit false
set_option autoImplicit false

namespace U2F

/-- A client, with what it uses. -/
structure U2FClientReferenceImpl (Cert PublicKey PrivateKey : Type) where
  /-- `Crypto` of the client -/
  computeSha256 : String → Except Throwable Bytes
  /-- `OriginVerifier.validateOrigin` of an app id and an origin -/
  validateOrigin : String → String → Except Throwable Unit
  server : U2FServerReferenceImpl Cert PublicKey
  key : U2FKeyReferenceImpl Cert PublicKey PrivateKey

/-- What the other objects return during a call: the challenge of the server, the channel id, the
answer of the user presence verifier, and the time. -/
structure Surroundings where
  challenge : Bytes
  jsonChannelId : JsonElement
  userPresence : UInt8
  currentTimeMillis : Int64

/-- A call of a method of the client; a registration, with what the generators of the key return. -/
inductive ClientOperation (PublicKey PrivateKey : Type)
  | register (origin accountName : String) (surroundings : Surroundings)
      (keyPair : KeyPair PublicKey PrivateKey) (keyHandle : Bytes)
  | authenticate (origin accountName : String) (surroundings : Surroundings)

namespace ClientOperation

variable {PublicKey PrivateKey : Type}

def origin : ClientOperation PublicKey PrivateKey → String
  | register origin _ _ _ _ => origin
  | authenticate origin _ _ => origin

def surroundings : ClientOperation PublicKey PrivateKey → Surroundings
  | register _ _ surroundings _ _ => surroundings
  | authenticate _ _ surroundings => surroundings

/-- The key pair and the key handle that the key generates. -/
def generated : ClientOperation PublicKey PrivateKey → Option (KeyPair PublicKey PrivateKey × Bytes)
  | register _ _ _ keyPair keyHandle => some (keyPair, keyHandle)
  | authenticate _ _ _ => none

end ClientOperation

namespace U2FClientReferenceImpl

variable {Cert PublicKey PrivateKey : Type}
  (client : U2FClientReferenceImpl Cert PublicKey PrivateKey)

/-- The data stores of the server and of the key. -/
abbrev Stores (Cert PublicKey PrivateKey : Type) : Type :=
  MemoryDataStore Cert × KeyDataStore PublicKey PrivateKey

def register (origin accountName : String) (surroundings : Surroundings)
    (keyPair : KeyPair PublicKey PrivateKey) (keyHandle : Bytes) :
    Call (Stores Cert PublicKey PrivateKey) Throwable Unit := do
  let registrationRequest ← Call.onFst
    (client.server.getRegistrationRequest accountName origin surroundings.challenge)
  let appId := registrationRequest.appId
  throwIf (registrationRequest.version ≠ U2F_V2)
    (.u2fException ("Unsupported protocol version: " ++ registrationRequest.version))
  client.validateOrigin appId origin
  let clientData := ClientDataCodec.encodeClientData client.server.platform
    ClientDataCodec.REQUEST_TYPE_REGISTER registrationRequest.challenge origin
    surroundings.jsonChannelId
  let appIdSha256 ← client.computeSha256 appId
  let clientDataSha256 ← client.computeSha256 clientData
  let registerResponse ← Call.onSnd
    (client.key.register ⟨appIdSha256, clientDataSha256⟩ surroundings.userPresence keyPair keyHandle)
  let rawRegisterResponse ←
    RawMessageCodec.encodeRegisterResponse client.server.platform registerResponse
  let _ ← Call.onFst (client.server.processRegistrationResponse
    ⟨some (client.server.platform.encodeBase64URLSafeString rawRegisterResponse),
      some (client.server.platform.encodeBase64URLSafeString
        (client.server.platform.getBytes clientData)),
      some registrationRequest.sessionId⟩ surroundings.currentTimeMillis)
  return ()

/-- Only the first of the registered keys is asked. -/
def authenticate (origin accountName : String) (surroundings : Surroundings) :
    Call (Stores Cert PublicKey PrivateKey) Throwable Unit := do
  let signRequest ← Call.onFst
    (client.server.getSignRequest accountName origin surroundings.challenge)
  let registeredKey ← orThrow signRequest.registeredKeys.head? .indexOutOfBoundsException
  let appId := registeredKey.appId
  throwIf (registeredKey.version ≠ U2F_V2)
    (.u2fException ("Unsupported protocol version: " ++ registeredKey.version))
  client.validateOrigin appId origin
  let clientData := ClientDataCodec.encodeClientData client.server.platform
    ClientDataCodec.REQUEST_TYPE_AUTHENTICATE signRequest.challenge origin
    surroundings.jsonChannelId
  let clientDataSha256 ← client.computeSha256 clientData
  let appIdSha256 ← client.computeSha256 appId
  let keyHandle := client.server.platform.decodeBase64 registeredKey.keyHandle
  let authenticateResponse ← Call.onSnd (client.key.authenticate
    ⟨USER_PRESENT_FLAG, clientDataSha256, appIdSha256, keyHandle⟩ surroundings.userPresence)
  let rawAuthenticateResponse := RawMessageCodec.encodeAuthenticateResponse authenticateResponse
  let _ ← Call.onFst (client.server.processSignResponse
    ⟨some registeredKey.keyHandle,
      some (client.server.platform.encodeBase64URLSafeString rawAuthenticateResponse),
      some (client.server.platform.encodeBase64URLSafeString
        (client.server.platform.getBytes clientData)),
      some registeredKey.sessionId⟩)
  return ()

def perform : ClientOperation PublicKey PrivateKey →
    Call (Stores Cert PublicKey PrivateKey) Throwable Unit
  | .register origin accountName surroundings keyPair keyHandle =>
      client.register origin accountName surroundings keyPair keyHandle
  | .authenticate origin accountName surroundings =>
      client.authenticate origin accountName surroundings

/-- **Client, key and server.** -/
def machine : Machine (Stores Cert PublicKey PrivateKey) (ClientOperation PublicKey PrivateKey)
    (Except Throwable Unit) :=
  ⟨fun stores operation => (client.perform operation).outcome stores⟩

/-- The data stores before the first call. -/
def initial : Stores Cert PublicKey PrivateKey := (.new, .new)

/-! ### The counter of the key -/

theorem grows_register (registerRequest : RegisterRequest) (userPresent : UInt8)
    (keyPair : KeyPair PublicKey PrivateKey) (keyHandle : Bytes) :
    (client.key.register registerRequest userPresent keyPair keyHandle).Grows (·.countersReturned) := by
  unfold U2FKeyReferenceImpl.register
  refine ((Call.readOnly_throwIf _ _).grows _).bind fun _ => ?_
  refine Call.Grows.bind (fun _ => Nat.le_refl _) fun _ => ?_
  refine ((Call.readOnly_lift _).grows _).bind fun _ => ?_
  exact (Call.readOnly_pure _).grows _

theorem grows_authenticate (authenticateRequest : AuthenticateRequest) (userPresence : UInt8) :
    (client.key.authenticate authenticateRequest userPresence).Grows (·.countersReturned) := by
  unfold U2FKeyReferenceImpl.authenticate
  refine (Call.readOnly_get.grows _).bind fun _ => ?_
  refine Call.Grows.bind (fun _ => Nat.le_succ _) fun _ => ?_
  refine ((Call.readOnly_lift _).grows _).bind fun _ => ?_
  refine ((Call.readOnly_lift _).grows _).bind fun _ => ?_
  exact (Call.readOnly_pure _).grows _

theorem grows_perform (operation : ClientOperation PublicKey PrivateKey) :
    (client.perform operation).Grows (·.2.countersReturned) := by
  cases operation with
  | register origin accountName surroundings keyPair keyHandle =>
      unfold perform register
      refine (Call.grows_onFst _).bind fun request => ?_
      refine ((Call.readOnly_throwIf _ _).grows _).bind fun _ => ?_
      refine ((Call.readOnly_lift _).grows _).bind fun _ => ?_
      refine ((Call.readOnly_lift _).grows _).bind fun _ => ?_
      refine ((Call.readOnly_lift _).grows _).bind fun _ => ?_
      refine (client.grows_register _ _ _ _).onSnd.bind fun _ => ?_
      refine ((Call.readOnly_lift _).grows _).bind fun _ => ?_
      refine (Call.grows_onFst _).bind fun _ => ?_
      exact (Call.readOnly_pure _).grows _
  | authenticate origin accountName surroundings =>
      unfold perform authenticate
      refine (Call.grows_onFst _).bind fun request => ?_
      refine ((Call.readOnly_orThrow _ _).grows _).bind fun _ => ?_
      refine ((Call.readOnly_throwIf _ _).grows _).bind fun _ => ?_
      refine ((Call.readOnly_lift _).grows _).bind fun _ => ?_
      refine ((Call.readOnly_lift _).grows _).bind fun _ => ?_
      refine ((Call.readOnly_lift _).grows _).bind fun _ => ?_
      refine (client.grows_authenticate _ _).onSnd.bind fun _ => ?_
      refine (Call.grows_onFst _).bind fun _ => ?_
      exact (Call.readOnly_pure _).grows _

/-- **The counter of the key is never set back**, whatever the calls do. -/
theorem countersReturned_exec_le (stores : Stores Cert PublicKey PrivateKey)
    (operations : List (ClientOperation PublicKey PrivateKey)) :
    stores.2.countersReturned ≤ (client.machine.exec stores operations).2.countersReturned :=
  Machine.exec_rel (I := fun _ => True)
    (R := fun stores stores' => stores.2.countersReturned ≤ stores'.2.countersReturned)
    (fun _ => Nat.le_refl _) Nat.le_trans (fun _ _ h => h)
    (fun stores operation _ => client.grows_perform operation stores) trivial operations

end U2FClientReferenceImpl

end U2F
