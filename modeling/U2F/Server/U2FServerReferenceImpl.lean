/-
**The reference server.**

`U2FServerReferenceImpl.java` issues registration and sign requests and processes the responses to
them, over a `MemoryDataStore`.  A method is a call on the store: what it wrote before it throws
stays written.  The challenges and the time are given with the calls.

Main definitions:

* `U2FServerReferenceImpl` — a server, with the libraries it uses;
* `U2FServerReferenceImpl.getRegistrationRequest`,
  `U2FServerReferenceImpl.processRegistrationResponse`,
  `U2FServerReferenceImpl.getSignRequest`, `U2FServerReferenceImpl.processSignResponse` — the
  methods;
* `U2FServerReferenceImpl.verifyBrowserData` — the checks on the client data.
-/

import U2F.Codec.RawMessageCodec
import U2F.Server.MemoryDataStore

set_option relaxedAutoImplicit false
set_option autoImplicit false

namespace U2F

/-- `Crypto` of the server. -/
structure ServerCrypto (Cert PublicKey : Type) where
  verifyCertificateSignature : Cert → Bytes → Bytes → Except Throwable Bool
  verifySignature : PublicKey → Bytes → Bytes → Except Throwable Bool
  decodePublicKey : Bytes → Except Throwable PublicKey
  computeSha256 : Bytes → Except Throwable Bytes

/-- A server, and the session ids of its data store. -/
structure U2FServerReferenceImpl (Cert PublicKey : Type) where
  platform : Platform Cert
  crypto : ServerCrypto Cert PublicKey
  sessionIdGenerator : SessionIdGenerator
  /-- The allowed origins, in canonical form. -/
  allowedOrigins : List String

/-- `UserPresenceVerifier.USER_PRESENT_FLAG` -/
def USER_PRESENT_FLAG : UInt8 := 0x01

namespace U2FServerReferenceImpl

variable {Cert PublicKey : Type} (server : U2FServerReferenceImpl Cert PublicKey)

/-! ### Origins -/

def ANDROID_APK_KEY_HASH : String := "android:apk-key-hash:"

def canonicalizeOrigin (platform : Platform Cert) (origin : String) : Except Throwable String :=
  if origin.startsWith ANDROID_APK_KEY_HASH then .ok origin
  else
    match platform.newURI origin with
    | none => .error (.runtimeException "specified bad origin")
    | some uri => .ok (orNull uri.scheme ++ "://" ++ orNull uri.authority)

/-- The set of the canonical forms, in the order of insertion. -/
def canonicalizeOrigins (platform : Platform Cert) (origins : List String) :
    Except Throwable (List String) := do
  let result ← origins.mapM fun origin =>
    if origin.startsWith ANDROID_APK_KEY_HASH then .ok origin
    else canonicalizeOrigin platform origin
  return result.reverse.eraseDups.reverse

def verifyOrigin (origin : String) : Except Throwable Unit := do
  let canonical ← canonicalizeOrigin server.platform origin
  throwIf (canonical ∉ server.allowedOrigins)
    (.u2fException (origin ++ " is not a recognized home origin for this backend" ++
      ", ".intercalate server.allowedOrigins))

/-! ### Client data -/

def TYPE_PARAM : String := "typ"

def CHALLENGE_PARAM : String := "challenge"

def ORIGIN_PARAM : String := "origin"

/-- `isJsonObject` and `getAsJsonObject` -/
def asJsonObject : JsonElement → Option JsonObject
  | .object members => some members
  | _ => none

def verifyBrowserData (browserDataAsElement : JsonElement) (messageType : String)
    (sessionData : EnrollSessionData) : Except Throwable Unit := do
  let browserData ← orThrow (asJsonObject browserDataAsElement)
    (.u2fException "browserdata has wrong format")
  throwIf (!browserData.has TYPE_PARAM)
    (.u2fException "bad browserdata: missing 'typ' param")
  let type ← browserData.getString TYPE_PARAM
  throwIf (messageType ≠ type) (.u2fException ("bad browserdata: bad type " ++ type))
  throwIf (!browserData.has CHALLENGE_PARAM)
    (.u2fException "bad browserdata: missing 'challenge' param")
  if browserData.has ORIGIN_PARAM then
    server.verifyOrigin (← browserData.getString ORIGIN_PARAM)
  let challenge ← browserData.getString CHALLENGE_PARAM
  throwIf (server.platform.decodeBase64 challenge ≠ sessionData.challenge)
    (.u2fException "wrong challenge signed in browserdata")

/-! ### Registration -/

def getRegistrationRequest (accountName appId : String) (challenge : Bytes) :
    Call (MemoryDataStore Cert) Throwable RegistrationRequest := do
  let sessionId ← modifyGet (MemoryDataStore.storeSessionData server.sessionIdGenerator
    (.enroll ⟨accountName, appId, challenge⟩))
  let challengeBase64 := server.platform.encodeBase64URLSafeString challenge
  return ⟨U2F_V2, challengeBase64, appId, sessionId⟩

/-- The transports of the attestation; a certificate that cannot be parsed is only logged. -/
def parseTransports (attestationCertificate : Cert) :
    Except Throwable (Option (List Transports)) :=
  match U2fAttestation.Parse server.platform attestationCertificate with
  | .error (.certificateParsingException _) => .ok none
  | result => result

/-- That the certificate is not a trusted one is only logged, and left out here. -/
def processRegistrationResponse (registrationResponse : RegistrationResponse)
    (currentTimeInMillis : Int64) :
    Call (MemoryDataStore Cert) Throwable (SecurityKeyData Cert) := do
  let sessionData ← orThrow ((← get).getEnrollSessionData registrationResponse.sessionId)
    (.u2fException "Unknown session_id")
  let clientData ← server.platform.stringOfBase64 registrationResponse.clientData
  let rawRegistrationData ← server.platform.bytesOfBase64 registrationResponse.registrationData
  let registerResponse ← RawMessageCodec.decodeRegisterResponse server.platform rawRegistrationData
  let transports ← server.parseTransports registerResponse.attestationCertificate
  let _ ← (server.platform.getEncoded registerResponse.attestationCertificate).mapError fun e =>
    if e = .certificateEncodingException then .u2fException "Cannot encode certificate" else e
  let appIdSha256 ← server.crypto.computeSha256 (server.platform.getBytes sessionData.appId)
  let clientDataSha256 ← server.crypto.computeSha256 (server.platform.getBytes clientData)
  let signedBytes := RawMessageCodec.encodeRegistrationSignedBytes appIdSha256 clientDataSha256
    registerResponse.keyHandle registerResponse.userPublicKey
  server.verifyBrowserData (← server.platform.parseJson clientData)
    "navigator.id.finishEnrollment" sessionData
  let verified ← server.crypto.verifyCertificateSignature registerResponse.attestationCertificate
    signedBytes registerResponse.signature
  throwIf (!verified) (.u2fException "Signature is invalid")
  let securityKeyData : SecurityKeyData Cert := {
    enrollmentTime := currentTimeInMillis
    transports := transports
    keyHandle := registerResponse.keyHandle
    publicKey := registerResponse.userPublicKey
    attestationCert := registerResponse.attestationCertificate
    counter := 0 }
  modify (MemoryDataStore.addSecurityKeyData sessionData.accountName securityKeyData)
  return securityKeyData

/-! ### Authentication -/

/-- The loop body of `getSignRequest`: a session for one key of the account. -/
def getRegisteredKey (accountName appId : String) (challenge : Bytes)
    (securityKeyData : SecurityKeyData Cert) :
    Call (MemoryDataStore Cert) Throwable RegisteredKey := do
  let sessionId ← modifyGet (MemoryDataStore.storeSessionData server.sessionIdGenerator
    (.sign ⟨⟨accountName, appId, challenge⟩, securityKeyData.publicKey⟩))
  let keyHandleBase64 := server.platform.encodeBase64URLSafeString securityKeyData.keyHandle
  return ⟨U2F_V2, keyHandleBase64, securityKeyData.transports, appId, sessionId⟩

def getSignRequest (accountName appId : String) (challenge : Bytes) :
    Call (MemoryDataStore Cert) Throwable U2fSignRequest := do
  let securityKeyDataList := (← get).getSecurityKeyData accountName
  let challengeBase64 := server.platform.encodeBase64URLSafeString challenge
  let registeredKeys ← securityKeyDataList.mapM (server.getRegisteredKey accountName appId challenge)
  return ⟨challengeBase64, registeredKeys⟩

/-- The object returned is the one whose counter the data store has updated. -/
def processSignResponse (signResponse : SignResponse) :
    Call (MemoryDataStore Cert) Throwable (SecurityKeyData Cert) := do
  let store ← get
  let sessionData ← orThrow (← store.getSignSessionData signResponse.sessionId)
    (.u2fException "Unknown session_id")
  let securityKeyData ← orThrow
    ((store.getSecurityKeyData sessionData.accountName).find?
      (MemoryDataStore.hasPublicKey sessionData.publicKey))
    (.u2fException "No security keys registered for this user")
  let browserData ← server.platform.stringOfBase64 signResponse.clientData
  let rawSignData ← server.platform.bytesOfBase64 signResponse.signatureData
  server.verifyBrowserData (← server.platform.parseJson browserData)
    "navigator.id.getAssertion" sessionData.toEnrollSessionData
  let authenticateResponse ← RawMessageCodec.decodeAuthenticateResponse rawSignData
  throwIf (authenticateResponse.userPresence &&& USER_PRESENT_FLAG = 0)
    (.u2fException "User presence invalid during authentication")
  throwIf (authenticateResponse.counter ≤ securityKeyData.counter)
    (.u2fException "Counter value smaller than expected!")
  let appIdSha256 ← server.crypto.computeSha256 (server.platform.getBytes sessionData.appId)
  let browserDataSha256 ← server.crypto.computeSha256 (server.platform.getBytes browserData)
  let signedBytes := RawMessageCodec.encodeAuthenticateSignedBytes appIdSha256
    authenticateResponse.userPresence authenticateResponse.counter browserDataSha256
  let publicKey ← server.crypto.decodePublicKey securityKeyData.publicKey
  let verified ← server.crypto.verifySignature publicKey signedBytes authenticateResponse.signature
  throwIf (!verified) (.u2fException "Signature is invalid")
  modify (MemoryDataStore.updateSecurityKeyCounter sessionData.accountName
    securityKeyData.publicKey authenticateResponse.counter)
  return securityKeyData.setCounter authenticateResponse.counter

/-! ### The keys of an account -/

def getAllSecurityKeys (accountName : String) :
    Call (MemoryDataStore Cert) Throwable (List (SecurityKeyData Cert)) := do
  return (← get).getSecurityKeyData accountName

def removeSecurityKey [DecidableEq Cert] (accountName : String) (publicKey : Bytes) :
    Call (MemoryDataStore Cert) Throwable Unit :=
  modify (MemoryDataStore.removeSecurityKey accountName publicKey)

end U2FServerReferenceImpl

end U2F
