/-
**A concrete server.**

`TestVectors.java` fixes an attestation certificate, a key and the client data of the tests.  Here
they come with a platform and a server on which runs can be followed: UTF-8, Base64, JSON documents
taken from a list of known ones, the one certificate of the tests, and signatures that are the
signed bytes.

Main definitions:

* `TestVectors.platform` — the platform, for a certificate and a list of known JSON documents;
* `TestVectors.httpSessionIdGenerator` — the generator of `U2fHttpServer.java`;
* `TestVectors.testServer` — the server;
* `TestVectors.registrationResponse`, `TestVectors.signResponse` — responses for any session id.

Main results:

* `TestVectors.roundTrips_platform` — the encodings of the platform round-trip;
* `TestVectors.valid_registrationResponse`, `TestVectors.valid_signResponse` — the responses are
  valid for every session of the tests, the sign response for every smaller counter.
-/

import U2F.Lib.Base64
import U2F.Server.Runs

set_option relaxedAutoImplicit false
set_option autoImplicit false

namespace U2F

namespace TestVectors

/-! ### Bytes in hexadecimal -/

def hexDigit (c : Char) : ℕ := if c.toNat < 58 then c.toNat - 48 else c.toNat - 87

def hexBytes : List Char → Bytes
  | h :: l :: cs => UInt8.ofNat (16 * hexDigit h + hexDigit l) :: hexBytes cs
  | _ => []

def parseHex (hexEncoded : String) : Bytes := hexBytes hexEncoded.toList

/-- Two digits are one byte. -/
theorem length_hexBytes (cs : List Char) : (hexBytes cs).length = cs.length / 2 := by
  induction cs using hexBytes.induct with
  | case1 h l cs ih =>
      rw [hexBytes, List.length_cons, ih, List.length_cons, List.length_cons]
      omega
  | case2 cs hshort =>
      match cs, hshort with
      | [], _ => rfl
      | [_], _ => simp [hexBytes]
      | h :: l :: cs, hshort => exact absurd rfl (hshort h l cs)

theorem length_parseHex (hexEncoded : String) :
    (parseHex hexEncoded).length = hexEncoded.length / 2 := by
  rw [parseHex, length_hexBytes, String.length_toList]

/-! ### The certificate and the key of the tests -/

inductive Certificate
  | VENDOR_CERTIFICATE
  deriving DecidableEq

def VENDOR_CERTIFICATE_HEX : String :=
  "3082013c3081e4a003020102020a47901280001155957352300a06082a8648ce" ++
  "3d0403023017311530130603550403130c476e756262792050696c6f74301e17" ++
  "0d3132303831343138323933325a170d3133303831343138323933325a303131" ++
  "2f302d0603550403132650696c6f74476e756262792d302e342e312d34373930" ++
  "313238303030313135353935373335323059301306072a8648ce3d020106082a" ++
  "8648ce3d030107034200048d617e65c9508e64bcc5673ac82a6799da3c144668" ++
  "2c258c463fffdf58dfd2fa3e6c378b53d795c4a4dffb4199edd7862f23abaf02" ++
  "03b4b8911ba0569994e101300a06082a8648ce3d0403020347003044022060cd" ++
  "b6061e9c22262d1aac1d96d8c70829b2366531dda268832cb836bcd30dfa0220" ++
  "631b1459f09e6330055722c8d89b7f48883b9089b88d60d1d9795902b30410df"

def KEY_HANDLE : Bytes :=
  parseHex ("2a552dfdb7477ed65fd84133f86196010b2215b57da75d315b7b9e8fe2e3925a" ++
    "6019551bab61d16591659cbaf00b4950f7abfe6660e2e006f76868b772d70c25")

def USER_PUBLIC_KEY_ENROLL : Bytes :=
  parseHex ("04b174bc49c7ca254b70d2e5c207cee9cf174820ebd77ea3c65508c26da51b65" ++
    "7c1cc6b952f8621697936482da0a6d3d3826a59095daf6cd7c03e2e60385d2f6" ++ "d9")

theorem length_USER_PUBLIC_KEY_ENROLL : USER_PUBLIC_KEY_ENROLL.length = 65 := by
  rw [USER_PUBLIC_KEY_ENROLL, length_parseHex, String.length_append, String.length_append]
  rfl

theorem length_KEY_HANDLE : KEY_HANDLE.length = 64 := by
  rw [KEY_HANDLE, length_parseHex, String.length_append]
  rfl

attribute [irreducible] KEY_HANDLE USER_PUBLIC_KEY_ENROLL parseHex

/-! ### The text of a JSON document -/

mutual

/-- The text of an element whose strings need no escapes. -/
def jsonText : JsonElement → String
  | .null => "null"
  | .primitive s => "\"" ++ s ++ "\""
  | .array elements => "[" ++ elementsText elements ++ "]"
  | .object members => "\x7b" ++ membersText members ++ "\x7d"

def elementsText : List JsonElement → String
  | [] => ""
  | [e] => jsonText e
  | e :: es => jsonText e ++ "," ++ elementsText es

def membersText : List (String × JsonElement) → String
  | [] => ""
  | [m] => memberText m
  | m :: ms => memberText m ++ "," ++ membersText ms

def memberText : String × JsonElement → String
  | (name, e) => "\"" ++ name ++ "\":" ++ jsonText e

end

/-! ### The platform -/

/-- The certificate factory, for a certificate with the given encoding. -/
def readCertificate (encoded bytes : Bytes) : Except Throwable (Certificate × Bytes) :=
  if encoded.isPrefixOf bytes then .ok (.VENDOR_CERTIFICATE, bytes.drop encoded.length)
  else .error .certificateException

theorem readCertificate_append (encoded rest : Bytes) :
    readCertificate encoded (encoded ++ rest) = .ok (.VENDOR_CERTIFICATE, rest) := by
  rw [readCertificate, if_pos (List.isPrefixOf_iff_prefix.2 (List.prefix_append _ _)),
    List.drop_left]

/-- A platform that knows some JSON documents, the origin of the tests, and one certificate by its
encoding. -/
def platform (encoded : Bytes) (known : List JsonElement) : Platform Certificate where
  newString bytes := (String.fromUTF8? ⟨bytes.toArray⟩).getD ""
  getBytes s := s.toUTF8.data.toList
  encodeBase64URLSafeString := Base64.encode
  decodeBase64 := Base64.decode
  parseJson text := orThrow (known.find? fun e => jsonText e = text) .jsonParseException
  jsonToString := jsonText
  newURI s := if s = "http://example.com" then some ⟨some "http", some "example.com"⟩ else none
  generateCertificate := readCertificate encoded
  getEncoded _ := .ok encoded
  getExtensionValue _ _ := none
  readObject _ := .error .ioException

theorem roundTrips_platform (encoded : Bytes) (known : List JsonElement) :
    (platform encoded known).RoundTrips where
  newString_getBytes s := by
    change (String.fromUTF8? ⟨s.toUTF8.data.toList.toArray⟩).getD "" = s
    simp [String.fromUTF8?, String.fromUTF8, s.isValidUTF8]
  decodeBase64_encodeBase64 := Base64.decode_encode
  generateCertificate_getEncoded cert bytes rest h := by
    cases cert
    obtain rfl := Except.ok.inj h
    exact readCertificate_append encoded rest

theorem parsesCertificates_platform (encoded : Bytes) (known : List JsonElement) :
    (platform encoded known).ParsesCertificates where
  getEncoded_ok cert := ⟨encoded, rfl⟩
  generateCertificate_ok_iff data cert rest := by
    cases cert
    constructor
    · intro h
      obtain ⟨hfront, hrest⟩ : encoded.isPrefixOf data = true ∧
          data.drop encoded.length = rest := by
        by_cases hp : encoded.isPrefixOf data = true
        · exact ⟨hp, by simpa [platform, readCertificate, hp] using h⟩
        · simp [platform, readCertificate, hp] at h
      refine ⟨encoded, rfl, ?_⟩
      rw [← hrest]
      exact (List.prefix_iff_eq_append.1 (List.isPrefixOf_iff_prefix.1 hfront)).symm
    · rintro ⟨bytes, hbytes, rfl⟩
      obtain rfl := Except.ok.inj hbytes
      exact readCertificate_append encoded rest
  generateCertificate_throws data e h := by
    by_cases hp : encoded.isPrefixOf data = true
    · simp [platform, readCertificate, hp] at h
    · obtain rfl : Throwable.certificateException = e := by
        simpa [platform, readCertificate, hp] using h
      rfl

/-! ### The server -/

/-- Signatures are the signed bytes, and hashes the first 32 bytes. -/
def crypto : ServerCrypto Certificate Bytes where
  verifyCertificateSignature _ signedBytes signature := .ok (signature = signedBytes)
  verifySignature _ signedBytes signature := .ok (signature = signedBytes)
  decodePublicKey := .ok
  computeSha256 bytes := .ok ((bytes ++ List.replicate 32 0).take 32)

theorem underscore_notMem_digits {n : ℕ} : '_' ∉ Nat.toDigits 10 n := by
  intro h
  exact absurd (Nat.isDigit_of_mem_toDigits (by omega) (by omega) h) (by decide)

/-- The generator counts its calls. -/
def httpSessionIdGenerator : SessionIdGenerator where
  generateSessionId n accountName := "sessionId_" ++ toString n ++ "_" ++ accountName
  fresh {m n a b} h := by
    have hlist := congrArg String.toList h
    simp only [String.toList_append, List.append_assoc, List.append_cancel_left_eq,
      Nat.toString_eq_repr, Nat.toList_repr] at hlist
    have hdigits : Nat.toDigits 10 m = Nat.toDigits 10 n :=
      (FirstMatch.append_cons_inj underscore_notMem_digits underscore_notMem_digits hlist).1
    rw [← Nat.ofDigitChars_ten_toDigits (n := m), hdigits, Nat.ofDigitChars_ten_toDigits]

def ACCOUNT_NAME : String := "test@example.com"

def ORIGIN : String := "http://example.com"

def SERVER_CHALLENGE_BASE64 : String := "vqrS6WXDe1JUs5_c3i4-LkKIHRr-3XVb3azuA5TifHo"

def CHANNEL_ID_JSON : JsonElement :=
  .object [("kty", .primitive "EC"), ("crv", .primitive "P-256"),
    ("x", .primitive "HzQwlfXX7Q4S5MtCCnZUNBw3RMzPO9tOyWjBqRl4tJ8"),
    ("y", .primitive "XVguGFLIZx1fXg3wNqfdbn75hi4-_7-BxhMljw42Ht4")]

/-- The client data of a request of the tests. -/
def browserData (messageType : String) : JsonObject :=
  [("typ", .primitive messageType), ("challenge", .primitive SERVER_CHALLENGE_BASE64),
    ("cid_pubkey", CHANNEL_ID_JSON), ("origin", .primitive ORIGIN)]

def BROWSER_DATA_ENROLL : JsonElement := .object (browserData "navigator.id.finishEnrollment")

def BROWSER_DATA_SIGN : JsonElement := .object (browserData "navigator.id.getAssertion")

/-- The server of the tests, for a certificate given by its encoding. -/
def testServer (encoded : Bytes) : U2FServerReferenceImpl Certificate Bytes where
  platform := platform encoded [BROWSER_DATA_ENROLL, BROWSER_DATA_SIGN]
  crypto := crypto
  sessionIdGenerator := httpSessionIdGenerator
  allowedOrigins := [ORIGIN]

/-- The session data of every request of the tests. -/
def SESSION : EnrollSessionData := ⟨ACCOUNT_NAME, ORIGIN, Base64.decode SERVER_CHALLENGE_BASE64⟩

theorem canonicalizeOrigin_ORIGIN (encoded : Bytes) :
    U2FServerReferenceImpl.canonicalizeOrigin (testServer encoded).platform ORIGIN = .ok ORIGIN := by
  rw [U2FServerReferenceImpl.canonicalizeOrigin, if_neg (by decide)]
  rfl

theorem validMembers_browserData (encoded : Bytes) (messageType : String) :
    (testServer encoded).ValidMembers (browserData messageType) messageType SESSION.challenge where
  type := rfl
  challenge := ⟨SERVER_CHALLENGE_BASE64, rfl, rfl⟩
  origin _ := ⟨ORIGIN, ORIGIN, rfl, canonicalizeOrigin_ORIGIN encoded,
    List.mem_singleton_self _⟩

theorem jsonText_enroll_ne_sign : jsonText BROWSER_DATA_ENROLL ≠ jsonText BROWSER_DATA_SIGN := by
  simp [BROWSER_DATA_ENROLL, BROWSER_DATA_SIGN, browserData, jsonText, membersText, memberText]

theorem parseJson_platform {encoded : Bytes} {known : List JsonElement} {text : String}
    {e : JsonElement} (h : known.find? (fun e => jsonText e = text) = some e) :
    (platform encoded known).parseJson text = .ok e :=
  orThrow_eq_ok_iff.2 h

/-- The client data of the tests are among the known documents. -/
theorem parseJson_enroll (encoded : Bytes) :
    (testServer encoded).platform.parseJson (jsonText BROWSER_DATA_ENROLL) =
      .ok BROWSER_DATA_ENROLL := by
  refine parseJson_platform ?_
  rw [List.find?_cons_of_pos (by simp)]

theorem parseJson_sign (encoded : Bytes) :
    (testServer encoded).platform.parseJson (jsonText BROWSER_DATA_SIGN) =
      .ok BROWSER_DATA_SIGN := by
  refine parseJson_platform ?_
  rw [List.find?_cons_of_neg (by simpa using jsonText_enroll_ne_sign),
    List.find?_cons_of_pos (by simp)]

theorem validBrowserData_enroll (encoded : Bytes) :
    (testServer encoded).ValidBrowserData (jsonText BROWSER_DATA_ENROLL)
      "navigator.id.finishEnrollment" SESSION.challenge :=
  ⟨_, parseJson_enroll encoded, validMembers_browserData encoded _⟩

theorem validBrowserData_sign (encoded : Bytes) :
    (testServer encoded).ValidBrowserData (jsonText BROWSER_DATA_SIGN)
      "navigator.id.getAssertion" SESSION.challenge :=
  ⟨_, parseJson_sign encoded, validMembers_browserData encoded _⟩

/-! ### Responses -/

def sha256 (bytes : Bytes) : Bytes := (bytes ++ List.replicate 32 0).take 32

/-- `s.getBytes()` on the platform. -/
def getBytes (s : String) : Bytes := s.toUTF8.data.toList

/-- Signed bytes are their own signature. -/
theorem verifiesRegistration (encoded : Bytes) (appId clientData : String)
    (keyHandle userPublicKey : Bytes) :
    (testServer encoded).VerifiesRegistration appId clientData
      ⟨userPublicKey, keyHandle, .VENDOR_CERTIFICATE,
        RawMessageCodec.encodeRegistrationSignedBytes (sha256 (getBytes appId))
          (sha256 (getBytes clientData)) keyHandle userPublicKey⟩ :=
  ⟨_, _, rfl, rfl, congrArg Except.ok (decide_eq_true rfl)⟩

theorem verifiesSign (encoded : Bytes) (appId : String) (publicKey : Bytes) (browserData : String)
    (userPresence : UInt8) (counter : Int32) :
    (testServer encoded).VerifiesSign appId publicKey browserData
      ⟨userPresence, counter, RawMessageCodec.encodeAuthenticateSignedBytes
        (sha256 (getBytes appId)) userPresence counter (sha256 (getBytes browserData))⟩ :=
  ⟨_, _, _, rfl, rfl, rfl, congrArg Except.ok (decide_eq_true rfl)⟩

/-- The message of a registration: a signature over the enroll client data. -/
def registerResponse (keyHandle publicKey : Bytes) : RegisterResponse Certificate :=
  ⟨publicKey, keyHandle, .VENDOR_CERTIFICATE,
    RawMessageCodec.encodeRegistrationSignedBytes (sha256 (getBytes ORIGIN))
      (sha256 (getBytes (jsonText BROWSER_DATA_ENROLL))) keyHandle publicKey⟩

/-- The message of a sign response: a signature over the counter and the sign client data. -/
def authenticateResponse (counter : Int32) : AuthenticateResponse :=
  ⟨USER_PRESENT_FLAG, counter,
    RawMessageCodec.encodeAuthenticateSignedBytes (sha256 (getBytes ORIGIN)) USER_PRESENT_FLAG
      counter (sha256 (getBytes (jsonText BROWSER_DATA_SIGN)))⟩

section Responses

variable (encoded keyHandle publicKey : Bytes) (sessionId : String)

/-- The bytes of the registration message. -/
def registrationData : Bytes :=
  RawMessageCodec.REGISTRATION_RESERVED_BYTE_VALUE :: publicKey ++
    UInt8.ofNat keyHandle.length :: keyHandle ++ encoded ++
      (registerResponse keyHandle publicKey).signature

def registrationResponse : RegistrationResponse :=
  ⟨some ((testServer encoded).platform.encodeBase64URLSafeString
      (registrationData encoded keyHandle publicKey)),
    some ((testServer encoded).platform.encodeBase64URLSafeString
      ((testServer encoded).platform.getBytes (jsonText BROWSER_DATA_ENROLL))),
    some sessionId⟩

def signResponse (counter : Int32) : SignResponse :=
  ⟨none,
    some ((testServer encoded).platform.encodeBase64URLSafeString
      (RawMessageCodec.encodeAuthenticateResponse (authenticateResponse counter))),
    some ((testServer encoded).platform.encodeBase64URLSafeString
      ((testServer encoded).platform.getBytes (jsonText BROWSER_DATA_SIGN))),
    some sessionId⟩

variable {keyHandle publicKey}

theorem valid_registrationResponse (hkey : publicKey.length = 65) (hlen : keyHandle.length ≤ 255) :
    (testServer encoded).ValidRegistrationResponse SESSION
      (registrationResponse encoded keyHandle publicKey sessionId)
      (jsonText BROWSER_DATA_ENROLL) (registerResponse keyHandle publicKey) none :=
  U2FServerReferenceImpl.validRegistrationResponse_encode (roundTrips_platform encoded _) hkey
    (RawMessageCodec.encodeRegisterResponse_eq rfl hlen) rfl (validBrowserData_enroll encoded)
    (verifiesRegistration encoded _ _ _ _)

theorem valid_signResponse {key : SecurityKeyData Certificate} {counter : Int32}
    (hcounter : key.counter < counter) :
    (testServer encoded).ValidSignResponse ⟨SESSION, key.publicKey⟩ key
      (signResponse encoded sessionId counter) (jsonText BROWSER_DATA_SIGN)
      (authenticateResponse counter) :=
  U2FServerReferenceImpl.validSignResponse_encode (roundTrips_platform encoded _)
    (validBrowserData_sign encoded) (by simp [authenticateResponse, USER_PRESENT_FLAG]) hcounter
    (verifiesSign encoded _ _ _ _ _)

end Responses

/-! ### Steps of the server -/

section Steps

variable (encoded : Bytes)

/-- The session ids of the first two requests for the account of the tests. -/
def firstSessionId : String := httpSessionIdGenerator.generateSessionId 0 ACCOUNT_NAME

def secondSessionId : String := httpSessionIdGenerator.generateSessionId 1 ACCOUNT_NAME

/-- The request and the response of a registration, and of an authentication. -/
def registrationRequestOp : Operation :=
  .getRegistrationRequest ACCOUNT_NAME ORIGIN SESSION.challenge

def registrationOp (keyHandle publicKey : Bytes) (sessionId : String) (time : Int64) : Operation :=
  .processRegistrationResponse (registrationResponse encoded keyHandle publicKey sessionId) time

def signRequestOp : Operation := .getSignRequest ACCOUNT_NAME ORIGIN SESSION.challenge

def signOp (sessionId : String) (counter : Int32) : Operation :=
  .processSignResponse (signResponse encoded sessionId counter)

/-- The key that a registration of the tests adds. -/
def newKey (keyHandle publicKey : Bytes) (time : Int64) : SecurityKeyData Certificate :=
  U2FServerReferenceImpl.newSecurityKey (registerResponse keyHandle publicKey) none time

@[simp] theorem publicKey_newKey (keyHandle publicKey : Bytes) (time : Int64) :
    (newKey keyHandle publicKey time).publicKey = publicKey := rfl

theorem next_registrationRequestOp (store : MemoryDataStore Certificate) :
    (testServer encoded).machine.next store registrationRequestOp =
      (store.storeSessionData httpSessionIdGenerator (.enroll SESSION)).2 := rfl

/-- A registration adds a key, in every store that has its session, of either kind. -/
theorem step_registrationOp {store : MemoryDataStore Certificate} {sessionId : String}
    {session : SessionData} (hsession : store.getSessionData (some sessionId) = some session)
    (henroll : session.toEnrollSessionData = SESSION) {keyHandle publicKey : Bytes}
    (hkey : publicKey.length = 65) (hlen : keyHandle.length ≤ 255) (time : Int64) :
    (testServer encoded).machine.reply store
        (registrationOp encoded keyHandle publicKey sessionId time) =
        .ok (.securityKeyData (newKey keyHandle publicKey time)) ∧
      (testServer encoded).machine.next store
          (registrationOp encoded keyHandle publicKey sessionId time) =
        store.addSecurityKeyData ACCOUNT_NAME (newKey keyHandle publicKey time) := by
  have h : store.getEnrollSessionData (some sessionId) = some SESSION := by
    rw [MemoryDataStore.getEnrollSessionData, hsession, Option.map_some, henroll]
  exact (testServer encoded).step_of_validRegistrationResponse h
    (valid_registrationResponse encoded sessionId hkey hlen) time

/-- A sign request for an account with one key. -/
theorem next_signRequestOp {store : MemoryDataStore Certificate} {key : SecurityKeyData Certificate}
    (hkeys : store.getSecurityKeyData ACCOUNT_NAME = [key]) :
    (testServer encoded).machine.next store signRequestOp =
      (store.storeSessionData httpSessionIdGenerator (.sign ⟨SESSION, key.publicKey⟩)).2 := by
  change (((testServer encoded).perform signRequestOp).outcome store).2 = _
  rw [signRequestOp, U2FServerReferenceImpl.perform, U2FServerReferenceImpl.getSignRequest,
    Call.outcome_map, Call.outcome_bind]
  simp only [Call.outcome_get, hkeys]
  rfl

/-- A sign response sets the counter of the first entry of its key, if that is smaller. -/
theorem step_signOp {store : MemoryDataStore Certificate} {sessionId : String}
    {key : SecurityKeyData Certificate} {counter : Int32}
    (hsession : store.getSessionData (some sessionId) = some (.sign ⟨SESSION, key.publicKey⟩))
    (hkey : (store.getSecurityKeyData ACCOUNT_NAME).find?
      (MemoryDataStore.hasPublicKey key.publicKey) = some key)
    (hcounter : key.counter < counter) :
    (testServer encoded).machine.reply store (signOp encoded sessionId counter) =
        .ok (.securityKeyData (key.setCounter counter)) ∧
      (testServer encoded).machine.next store (signOp encoded sessionId counter) =
        store.updateSecurityKeyCounter ACCOUNT_NAME key.publicKey counter := by
  have h : store.getSignSessionData (some sessionId) = .ok (some ⟨SESSION, key.publicKey⟩) := by
    rw [MemoryDataStore.getSignSessionData, hsession]
  exact (testServer encoded).step_of_validSignResponse h hkey
    (valid_signResponse encoded sessionId hcounter)

/-- The store after the request for the first registration. -/
def requestedStore : MemoryDataStore Certificate :=
  (MemoryDataStore.new.storeSessionData httpSessionIdGenerator (.enroll SESSION)).2

theorem getSessionData_requestedStore :
    requestedStore.getSessionData (some firstSessionId) = some (.enroll SESSION) :=
  MemoryDataStore.getSessionData_storeSessionData _ _ _

theorem length_KEY_HANDLE_le : KEY_HANDLE.length ≤ 255 := by
  rw [length_KEY_HANDLE]
  omega

end Steps

end TestVectors

end U2F
