/-
**The raw message formats.**

`RawMessageCodec.java` encodes and decodes the messages between the client and the key, and the
byte strings that are signed.  A decoder wraps the checked exceptions of the stream and of the
certificate factory in a `U2FException`.

Main definitions:

* `RegisterRequest`, `RegisterResponse`, `AuthenticateRequest`, `AuthenticateResponse` — the
  messages;
* `RawMessageCodec.encodeRegisterResponse`, `RawMessageCodec.decodeRegisterResponse`, … — the
  codec of each message;
* `RawMessageCodec.encodeRegistrationSignedBytes`,
  `RawMessageCodec.encodeAuthenticateSignedBytes` — what is signed.

Main results:

* `RawMessageCodec.decodeRegisterResponse_encode`,
  `RawMessageCodec.decodeAuthenticateResponse_encode` — the responses round-trip.
-/

import U2F.Lib.ByteStream
import U2F.Java.Platform

set_option relaxedAutoImplicit false
set_option autoImplicit false

namespace U2F

structure RegisterRequest where
  applicationSha256 : Bytes
  challengeSha256 : Bytes

structure RegisterResponse (Cert : Type) where
  userPublicKey : Bytes
  keyHandle : Bytes
  attestationCertificate : Cert
  signature : Bytes

structure AuthenticateRequest where
  control : UInt8
  challengeSha256 : Bytes
  applicationSha256 : Bytes
  keyHandle : Bytes

structure AuthenticateResponse where
  userPresence : UInt8
  counter : Int32
  signature : Bytes
  deriving DecidableEq

namespace RawMessageCodec

def REGISTRATION_RESERVED_BYTE_VALUE : UInt8 := 0x05

def REGISTRATION_SIGNED_RESERVED_BYTE_VALUE : UInt8 := 0x00

open ByteStream

/-- The input stream of a decoder. -/
abbrev InputStream := ByteStream Throwable

/-- A decoder run on the whole message; the rest of the stream is dropped. -/
def parse {α : Type} (x : InputStream α) (data : Bytes) : Except Throwable α := Prod.fst <$> x.run data

/-- `CertificateFactory.generateCertificate` on the stream. -/
def readCertificate {Cert : Type} (P : Platform Cert) : InputStream Cert :=
  fun data => P.generateCertificate data

/-! ### Registration -/

def encodeRegisterRequest (r : RegisterRequest) : Bytes := r.challengeSha256 ++ r.applicationSha256

def decodeRegisterRequest (data : Bytes) : Except Throwable RegisterRequest :=
  Except.mapError (fun e =>
      if e = .ioException then .u2fException "Error when parsing raw RegisterRequest" else e) <|
    flip parse data do
      let challengeSha256 ← readFully .ioException 32
      let appIdSha256 ← readFully .ioException 32
      throwIf ((← available) ≠ 0) (.u2fException "Message ends with unexpected data")
      return ⟨appIdSha256, challengeSha256⟩

def encodeRegisterResponse {Cert : Type} (P : Platform Cert) (r : RegisterResponse Cert) :
    Except Throwable Bytes := do
  let attestationCertificateBytes ← (P.getEncoded r.attestationCertificate).mapError fun e =>
    if e = .certificateEncodingException then
      .u2fException "Error when encoding attestation certificate."
    else e
  throwIf (r.keyHandle.length > 255)
    (.u2fException "keyHandle length cannot be longer than 255 bytes!")
  return REGISTRATION_RESERVED_BYTE_VALUE :: r.userPublicKey ++
    UInt8.ofNat r.keyHandle.length :: r.keyHandle ++ attestationCertificateBytes ++ r.signature

def decodeRegisterResponse {Cert : Type} (P : Platform Cert) (data : Bytes) :
    Except Throwable (RegisterResponse Cert) :=
  Except.mapError (fun e =>
      if e = .ioException then .u2fException "Error when parsing raw RegisterResponse"
      else if e.isCertificateException then
        .u2fException "Error when parsing attestation certificate"
      else e) <|
    flip parse data do
      let reservedByte ← readByte .ioException
      let userPublicKey ← readFully .ioException 65
      let keyHandleLength ← readUnsignedByte .ioException
      let keyHandle ← readFully .ioException keyHandleLength
      let attestationCertificate ← readCertificate P
      let signature ← readFully .ioException (← available)
      throwIf ((← available) ≠ 0) (.u2fException "Message ends with unexpected data")
      throwIf (reservedByte ≠ REGISTRATION_RESERVED_BYTE_VALUE)
        (.u2fException ("Incorrect value of reserved byte. Expected: " ++
          toString REGISTRATION_RESERVED_BYTE_VALUE.toInt8 ++ ". Was: " ++
          toString reservedByte.toInt8))
      return ⟨userPublicKey, keyHandle, attestationCertificate, signature⟩

/-! ### Authentication -/

def encodeAuthenticateRequest (r : AuthenticateRequest) : Except Throwable Bytes := do
  throwIf (r.keyHandle.length > 255)
    (.u2fException "keyHandle length cannot be longer than 255 bytes!")
  return r.control :: r.challengeSha256 ++ r.applicationSha256 ++
    UInt8.ofNat r.keyHandle.length :: r.keyHandle

def decodeAuthenticateRequest (data : Bytes) : Except Throwable AuthenticateRequest :=
  Except.mapError (fun e =>
      if e = .ioException then .u2fException "Error when parsing raw AuthenticateRequest"
      else e) <|
    flip parse data do
      let controlByte ← readByte .ioException
      let challengeSha256 ← readFully .ioException 32
      let appIdSha256 ← readFully .ioException 32
      let keyHandleLength ← readUnsignedByte .ioException
      let keyHandle ← readFully .ioException keyHandleLength
      throwIf ((← available) ≠ 0) (.u2fException "Message ends with unexpected data")
      return ⟨controlByte, challengeSha256, appIdSha256, keyHandle⟩

def encodeAuthenticateResponse (r : AuthenticateResponse) : Bytes :=
  r.userPresence :: putInt r.counter ++ r.signature

def decodeAuthenticateResponse (data : Bytes) : Except Throwable AuthenticateResponse :=
  Except.mapError (fun e =>
      if e = .ioException then .u2fException "Error when parsing raw AuthenticateResponse"
      else e) <|
    flip parse data do
      let userPresence ← readByte .ioException
      let counter ← readInt .ioException
      let signature ← readFully .ioException (← available)
      throwIf ((← available) ≠ 0) (.u2fException "Message ends with unexpected data")
      return ⟨userPresence, counter, signature⟩

/-! ### What is signed -/

def encodeRegistrationSignedBytes (applicationSha256 challengeSha256 keyHandle userPublicKey :
    Bytes) : Bytes :=
  REGISTRATION_SIGNED_RESERVED_BYTE_VALUE ::
    applicationSha256 ++ challengeSha256 ++ keyHandle ++ userPublicKey

def encodeAuthenticateSignedBytes (applicationSha256 : Bytes) (userPresence : UInt8)
    (counter : Int32) (challengeSha256 : Bytes) : Bytes :=
  applicationSha256 ++ userPresence :: putInt counter ++ challengeSha256

/-! ### The responses round-trip -/

theorem decodeAuthenticateResponse_encode (r : AuthenticateResponse) :
    decodeAuthenticateResponse (encodeAuthenticateResponse r) = .ok r := by
  rw [decodeAuthenticateResponse, Except.mapError_eq_ok_iff]
  simp [flip, parse, encodeAuthenticateResponse, StateT.run_bind, readFully_all]

/-- A registration response is encoded, if its certificate is and its key handle is short. -/
theorem encodeRegisterResponse_eq {Cert : Type} {P : Platform Cert} {r : RegisterResponse Cert}
    {bytes : Bytes} (hcert : P.getEncoded r.attestationCertificate = .ok bytes)
    (hlen : r.keyHandle.length ≤ 255) :
    encodeRegisterResponse P r = .ok (REGISTRATION_RESERVED_BYTE_VALUE :: r.userPublicKey ++
      UInt8.ofNat r.keyHandle.length :: r.keyHandle ++ bytes ++ r.signature) := by
  have hthrow : ¬ r.keyHandle.length > 255 := by omega
  simp only [encodeRegisterResponse, hcert, Except.mapError_ok, Except.ok_bind, throwIf, if_neg hthrow]
  rfl

/-- The bytes of a registration response are decoded to its parts, when the parser reads exactly the
bytes of the certificate. -/
theorem decodeRegisterResponse_of_parts {Cert : Type} {P : Platform Cert}
    {userPublicKey keyHandle certBytes signature : Bytes} {cert : Cert}
    (hkey : userPublicKey.length = 65) (hlen : keyHandle.length ≤ 255)
    (hcert : ∀ rest, P.generateCertificate (certBytes ++ rest) = .ok (cert, rest)) :
    decodeRegisterResponse P (REGISTRATION_RESERVED_BYTE_VALUE :: userPublicKey ++
      UInt8.ofNat keyHandle.length :: keyHandle ++ certBytes ++ signature) =
        .ok ⟨userPublicKey, keyHandle, cert, signature⟩ := by
  have hlength : (UInt8.ofNat keyHandle.length).toNat = keyHandle.length :=
    UInt8.toNat_ofNat_of_lt (Nat.lt_succ_of_le hlen)
  have hread : ∀ rest, (readCertificate P).run (certBytes ++ rest) = .ok (cert, rest) := hcert
  rw [decodeRegisterResponse, Except.mapError_eq_ok_iff]
  simp [flip, parse, StateT.run_bind, readFully_append _ hkey, hlength, hread,
    readFully_append _ rfl, readFully_all]

/-- **A registration response round-trips**, when its certificate does, with what follows it. -/
theorem decodeRegisterResponse_encode {Cert : Type} {P : Platform Cert} {r : RegisterResponse Cert}
    {data : Bytes} (hkey : r.userPublicKey.length = 65)
    (hcert : ∀ bytes rest, P.getEncoded r.attestationCertificate = .ok bytes →
      P.generateCertificate (bytes ++ rest) = .ok (r.attestationCertificate, rest))
    (h : encodeRegisterResponse P r = .ok data) : decodeRegisterResponse P data = .ok r := by
  obtain ⟨bytes, hbytes, hdata⟩ := Except.bind_eq_ok_iff.1 h
  rw [Except.mapError_eq_ok_iff] at hbytes
  obtain ⟨_, hlen, hdata⟩ := Except.bind_eq_ok_iff.1 hdata
  rw [throwIf_eq_ok_iff, Nat.not_lt] at hlen
  obtain rfl := Except.ok.inj hdata
  exact decodeRegisterResponse_of_parts hkey hlen fun rest => hcert bytes rest hbytes

end RawMessageCodec

end U2F
