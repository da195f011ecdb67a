/-
**The reference server over any data store.**

`U2FServerReferenceImpl.java` is written against the interface `DataStore`, whose implementations
are the `MemoryDataStore` of the tests and the store of the demo on App Engine.  Here are the
methods that change the keys, over an implementation whose methods are calls in any monad.  Between
the calls on the data store a method only computes: that part is a function of its own.

Main definitions:

* `DataStore` — the interface, as far as these methods use it;
* `U2FServerReferenceImpl.checkRegistrationResponse`, `U2FServerReferenceImpl.checkSignResponse` —
  the checks of a response, without the data store;
* `DataStore.processRegistrationResponse`, `DataStore.processSignResponse` — the methods;
* `MemoryDataStore.dataStore` — the store of the tests as an implementation.

Main results:

* `MemoryDataStore.processRegistrationResponse_dataStore`,
  `MemoryDataStore.processSignResponse_dataStore` — over the store of the tests these are the methods
  of `U2F.Server.U2FServerReferenceImpl`.
-/

import U2F.Server.U2FServerReferenceImpl

set_option relaxedAutoImplicit false
set_option autoImplicit false

namespace U2F

/-- The interface `DataStore`. -/
structure DataStore (Cert : Type) (m : Type → Type) where
  getEnrollSessionData : Option String → m (Option EnrollSessionData)
  getSignSessionData : Option String → m (Option SignSessionData)
  addSecurityKeyData : String → SecurityKeyData Cert → m Unit
  getSecurityKeyData : String → m (List (SecurityKeyData Cert))
  removeSecurityKey : String → Bytes → m Unit
  updateSecurityKeyCounter : String → Bytes → Int32 → m Unit

/-! ### The checks -/

namespace U2FServerReferenceImpl

variable {Cert PublicKey : Type} (server : U2FServerReferenceImpl Cert PublicKey)

/-- `processRegistrationResponse`, from the session to the new key. -/
def checkRegistrationResponse (registrationResponse : RegistrationResponse)
    (currentTimeInMillis : Int64) (sessionData : EnrollSessionData) :
    Except Throwable (SecurityKeyData Cert) := do
  let clientData ← server.platform.stringOfBase64 registrationResponse.clientData
  let rawRegistrationData ← server.platform.bytesOfBase64 registrationResponse.registrationData
  let registerResponse ← RawMessageCodec.decodeRegisterResponse server.platform rawRegistrationData
  let transports ← server.parseTransports registerResponse.attestationCertificate
  let _ ← (server.platform.getEncoded registerResponse.attestationCertificate).mapError fun e =>
    if e = .certificateEncodingException then .u2fException "Cannot encode certificate" else e
  let appIdSha256 ← server.crypto.computeSha256 (server.platform.getBytes sessionData.appId)
  let clientDataSha256 ← server.crypto.computeSha256 (server.platform.getBytes clientData)
  let signedBytes := RawMessageCodec.encodeRegistrationSignedBytes appIdSha256 clientDataSha256
    registerResponse.keyHandle registerResponse.userPublicKey
  server.verifyBrowserData (← server.platform.parseJson clientData)
    "navigator.id.finishEnrollment" sessionData
  let verified ← server.crypto.verifyCertificateSignature registerResponse.attestationCertificate
    signedBytes registerResponse.signature
  throwIf (!verified) (.u2fException "Signature is invalid")
  return {
    enrollmentTime := currentTimeInMillis
    transports := transports
    keyHandle := registerResponse.keyHandle
    publicKey := registerResponse.userPublicKey
    attestationCert := registerResponse.attestationCertificate
    counter := 0 }

/-- `processSignResponse`, from the session and the key of the session to the new counter. -/
def checkSignResponse (signResponse : SignResponse) (sessionData : SignSessionData)
    (securityKeyData : SecurityKeyData Cert) : Except Throwable Int32 := do
  let browserData ← server.platform.stringOfBase64 signResponse.clientData
  let rawSignData ← server.platform.bytesOfBase64 signResponse.signatureData
  server.verifyBrowserData (← server.platform.parseJson browserData)
    "navigator.id.getAssertion" sessionData.toEnrollSessionData
  let authenticateResponse ← RawMessageCodec.decodeAuthenticateResponse rawSignData
  throwIf (authenticateResponse.userPresence &&& USER_PRESENT_FLAG = 0)
    (.u2fException "User presence invalid during authentication")
  throwIf (authenticateResponse.counter ≤ securityKeyData.counter)
    (.u2fException "Counter value smaller than expected!")
  let appIdSha256 ← server.crypto.computeSha256 (server.platform.getBytes sessionData.appId)
  let browserDataSha256 ← server.crypto.computeSha256 (server.platform.getBytes browserData)
  let signedBytes := RawMessageCodec.encodeAuthenticateSignedBytes appIdSha256
    authenticateResponse.userPresence authenticateResponse.counter browserDataSha256
  let publicKey ← server.crypto.decodePublicKey securityKeyData.publicKey
  let verified ← server.crypto.verifySignature publicKey signedBytes authenticateResponse.signature
  throwIf (!verified) (.u2fException "Signature is invalid")
  return authenticateResponse.counter

end U2FServerReferenceImpl

/-! ### The methods -/

namespace DataStore

variable {Cert PublicKey : Type} {m : Type → Type} [Monad m]
  (dataStore : DataStore Cert (ExceptT Throwable m)) (server : U2FServerReferenceImpl Cert PublicKey)

def processRegistrationResponse (registrationResponse : RegistrationResponse)
    (currentTimeInMillis : Int64) : ExceptT Throwable m (SecurityKeyData Cert) := do
  let sessionData ← orThrow (← dataStore.getEnrollSessionData registrationResponse.sessionId)
    (.u2fException "Unknown session_id")
  let securityKeyData ←
    server.checkRegistrationResponse registrationResponse currentTimeInMillis sessionData
  dataStore.addSecurityKeyData sessionData.accountName securityKeyData
  return securityKeyData

/-- The key whose counter is compared is the first with the public key of the session. -/
def processSignResponse (signResponse : SignResponse) :
    ExceptT Throwable m (SecurityKeyData Cert) := do
  let sessionData ← orThrow (← dataStore.getSignSessionData signResponse.sessionId)
    (.u2fException "Unknown session_id")
  let securityKeyData ← orThrow
    ((← dataStore.getSecurityKeyData sessionData.accountName).find?
      (MemoryDataStore.hasPublicKey sessionData.publicKey))
    (.u2fException "No security keys registered for this user")
  let counter ← server.checkSignResponse signResponse sessionData securityKeyData
  dataStore.updateSecurityKeyCounter sessionData.accountName securityKeyData.publicKey counter
  return securityKeyData

end DataStore

/-! ### The store of the tests -/

namespace MemoryDataStore

variable {Cert PublicKey : Type} (server : U2FServerReferenceImpl Cert PublicKey)

/-- `MemoryDataStore implements DataStore` -/
def dataStore [DecidableEq Cert] : DataStore Cert (Call (MemoryDataStore Cert) Throwable) where
  getEnrollSessionData sessionId := do return (← get).getEnrollSessionData sessionId
  getSignSessionData sessionId := do (← get).getSignSessionData sessionId
  addSecurityKeyData accountName securityKeyData :=
    modify (addSecurityKeyData accountName securityKeyData)
  getSecurityKeyData accountName := do return (← get).getSecurityKeyData accountName
  removeSecurityKey accountName publicKey := modify (removeSecurityKey accountName publicKey)
  updateSecurityKeyCounter accountName publicKey newCounterValue :=
    modify (updateSecurityKeyCounter accountName publicKey newCounterValue)

theorem processRegistrationResponse_dataStore [DecidableEq Cert]
    (registrationResponse : RegistrationResponse) (currentTimeInMillis : Int64) :
    dataStore.processRegistrationResponse server registrationResponse currentTimeInMillis =
      server.processRegistrationResponse registrationResponse currentTimeInMillis := by
  simp only [DataStore.processRegistrationResponse,
    U2FServerReferenceImpl.checkRegistrationResponse,
    U2FServerReferenceImpl.processRegistrationResponse, dataStore, ExceptT.liftM_bind,
    ExceptT.liftM_pure, ExceptT.liftM_throwIf, bind_assoc, pure_bind]

/-- Up to the object that is returned, whose counter the store of the tests changes in place. -/
theorem processSignResponse_dataStore [DecidableEq Cert] (signResponse : SignResponse) :
    (do let _ ← dataStore.processSignResponse server signResponse) =
      (do let _ ← server.processSignResponse signResponse) := by
  simp only [DataStore.processSignResponse, U2FServerReferenceImpl.checkSignResponse,
    U2FServerReferenceImpl.processSignResponse, dataStore, ExceptT.liftM_bind,
    ExceptT.liftM_pure, ExceptT.liftM_throwIf, bind_assoc, pure_bind]
  -- The store is read twice on one side; between the reads only the session can be missing.
  refine Call.ext fun store => ?_
  rw [Call.outcome_bind, Call.outcome_bind]
  simp only [Call.outcome_get]
  rw [Call.outcome_bind, Call.outcome_bind, Call.outcome_lift]
  rcases store.getSignSessionData signResponse.sessionId with e | _ | data
  · rfl
  · rfl
  · rfl

end MemoryDataStore

end U2F
