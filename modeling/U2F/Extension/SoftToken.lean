/-
**The software token of the extension.**

`softtokenhelper.js` is a helper that is its own token: it keeps key pairs in a profile, and lays out
the bytes it signs and the messages of its replies by hand, in typed arrays.

Main definitions:

* `SoftTokenProfile`, `SoftTokenProfile.createRegistration`, `SoftTokenProfile.getRegistration` — the
  keys of the token;
* `SoftTokenEnrollHandler.signBuf`, `SoftTokenEnrollHandler.regData` — the bytes of a registration;
* `SoftTokenSignHandler.signBuffer`, `SoftTokenSignHandler.signatureData` — the bytes of a signature;
* `SoftTokenEnrollHandler.run`, `SoftTokenSignHandler.run` — the handlers.
-/

import Mathlib.Algebra.Group.Nat.Defs
import U2F.Extension.Enroller
import U2F.Java.Platform
import U2F.Lib.FirstMatch
import U2F.Lib.TypedArray

set_option relaxedAutoImplicit false
set_option autoImplicit false

namespace U2F

/-! ### The keys -/

/-- What the token computes with: base64, hexadecimal, and the elliptic curve. -/
structure SoftTokenPrimitives where
  B64_encode : Bytes → JSString
  B64_decode : JSString → Bytes
  UTIL_HexToBytes : JSString → Bytes
  /-- `new SHA256().digest(keypair.pub)`, of a public key in hexadecimal -/
  digest : JSString → Bytes
  /-- `UTIL_JsonSignatureToAsn1(generateKey(UTIL_HexToArray(key)).sign(bytes))` -/
  sign : JSString → Bytes → Bytes

/-- A key pair, in hexadecimal. -/
structure SoftTokenKeyPair where
  sec : JSString
  pub : JSString
  deriving DecidableEq

/-- A registration; the hash and the key handle are in base64. -/
structure SoftTokenRegistration where
  appIdHash : JSString
  keyHandle : JSString
  keys : SoftTokenKeyPair
  counter : ℕ
  deriving DecidableEq

structure SoftTokenProfile where
  /-- In hexadecimal, as the certificate. -/
  attestationKey : JSString
  attestationCert : JSString
  registrations : List SoftTokenRegistration
  deriving DecidableEq

variable (P : SoftTokenPrimitives)

namespace SoftTokenProfile

/-- A new registration, which is stored in the profile. -/
def createRegistration (profile : SoftTokenProfile) (appIdHash : JSString)
    (keypair : SoftTokenKeyPair) : SoftTokenRegistration × SoftTokenProfile :=
  let registration : SoftTokenRegistration :=
    ⟨appIdHash, P.B64_encode (P.digest keypair.pub), keypair, 1⟩
  (registration, { profile with registrations := profile.registrations ++ [registration] })

/-- The test of the loop of `getRegistration`. -/
def isFor (appIdHash : JSString) (keyHandle : Option JSString) (reg : SoftTokenRegistration) :
    Bool :=
  reg.appIdHash = appIdHash ∧ some reg.keyHandle = keyHandle

/-- Looks up an existing registration. -/
def getRegistration (profile : SoftTokenProfile) (appIdHash : JSString)
    (keyHandle : Option JSString) : Option SoftTokenRegistration :=
  profile.registrations.find? (isFor appIdHash keyHandle)

/-- `++registration.counter`, for the registration that `getRegistration` has found. -/
def incrementCounter (profile : SoftTokenProfile) (appIdHash : JSString)
    (keyHandle : Option JSString) : SoftTokenProfile :=
  { profile with
    registrations := FirstMatch.update (isFor appIdHash keyHandle)
      (fun reg => { reg with counter := reg.counter + 1 }) profile.registrations }

end SoftTokenProfile

/-! ### Enrolling -/

namespace SoftTokenEnrollHandler

/-- The bytes that are signed; `none` is an exception. -/
def signBuf (appIdBytes challengeBytes keyHandleBytes publicKeyBytes : Bytes) : Option Bytes := do
  let signBuf := TypedArray.new (1 + 32 + 32 + keyHandleBytes.length + 65)
  let signBuf := TypedArray.put signBuf 0 0x00
  let signBuf ← TypedArray.set signBuf appIdBytes 1
  let signBuf ← TypedArray.set signBuf challengeBytes 33
  let signBuf ← TypedArray.set signBuf keyHandleBytes 65
  TypedArray.set signBuf publicKeyBytes (65 + keyHandleBytes.length)

/-- The registration message, written at an offset that runs through it. -/
def regData (publicKeyBytes keyHandleBytes certBytes signature : Bytes) : Option Bytes := do
  let regData := TypedArray.new
    (1 + 65 + 1 + keyHandleBytes.length + certBytes.length + signature.length)
  let offset := 0
  let regData := TypedArray.put regData offset 0x05
  let offset := offset + 1
  let regData ← TypedArray.set regData publicKeyBytes offset
  let offset := offset + publicKeyBytes.length
  let regData := TypedArray.put regData offset keyHandleBytes.length
  let offset := offset + 1
  let regData ← TypedArray.set regData keyHandleBytes offset
  let offset := offset + keyHandleBytes.length
  let regData ← TypedArray.set regData certBytes offset
  let offset := offset + certBytes.length
  TypedArray.set regData signature offset

/-- The message for a challenge, whose hash can be missing. -/
def enrollData (profile : SoftTokenProfile) (challenge : EnrollHelperChallenge)
    (registration : SoftTokenRegistration) : Option Bytes := do
  let appIdBytes := P.B64_decode challenge.appIdHash
  let challengeBytes := P.B64_decode (← challenge.challengeHash)
  let keyHandleBytes := P.B64_decode registration.keyHandle
  let publicKeyBytes := P.UTIL_HexToBytes registration.keys.pub
  let signBuf ← signBuf appIdBytes challengeBytes keyHandleBytes publicKeyBytes
  let signature := P.sign profile.attestationKey signBuf
  let certBytes := P.UTIL_HexToBytes profile.attestationCert
  regData publicKeyBytes keyHandleBytes certBytes signature

/-- A reply without data. -/
def reply (code : ℤ) : EnrollHelperReply := ⟨some code, ⟨none, none⟩⟩

/-- `run`: the profile it leaves and the reply that the callback is given.  A key pair is generated if
one is needed; `none` is an exception. -/
def run (keyPair : SoftTokenKeyPair) (profile : SoftTokenProfile) (request : HelperRequest) :
    SoftTokenProfile × Option EnrollHelperReply :=
  -- First go through signData and see if we already own one of the keyhandles
  if request.signData.any fun sd => sd.version = js "U2F_V2" &&
      (profile.getRegistration sd.appIdHash sd.keyHandle).isSome then
    (profile, some (reply WRONG_DATA_STATUS))
  else
    -- Not yet registered, look for an enroll challenge with our version
    match request.enrollChallenges.find? fun c => c.version = js "U2F_V2" with
    | none => (profile, some (reply TIMEOUT_STATUS))
    | some challenge =>
        let (registration, profile) := profile.createRegistration P challenge.appIdHash keyPair
        (profile, (enrollData P profile challenge registration).map fun regData =>
          ⟨some 0, ⟨some (js "U2F_V2"), some (P.B64_encode regData)⟩⟩)

end SoftTokenEnrollHandler

/-! ### Signing -/

namespace SoftTokenSignHandler

/-- `0xFF & counter >>> shift` -/
def counterByte (counter shift : ℕ) : ℕ := 0xFF &&& (counter % 2 ^ 32) >>> shift

/-- The bytes that are signed, with the counter in big endian. -/
def signBuffer (appIdBytes : Bytes) (counter : ℕ) (challengeBytes : Bytes) : Option Bytes := do
  let signBuffer := TypedArray.new (32 + 1 + 4 + 32)
  let signBuffer ← TypedArray.set signBuffer appIdBytes 0
  let signBuffer := TypedArray.put signBuffer 32 0x01  -- user presence
  let signBuffer := TypedArray.put signBuffer 33 (counterByte counter 24)
  let signBuffer := TypedArray.put signBuffer 34 (counterByte counter 16)
  let signBuffer := TypedArray.put signBuffer 35 (counterByte counter 8)
  let signBuffer := TypedArray.put signBuffer 36 (counterByte counter 0)
  TypedArray.set signBuffer challengeBytes 37

/-- The message: the user presence and the counter from the signed bytes, and the signature. -/
def signatureData (signBuffer signature : Bytes) : Option Bytes := do
  let signatureData := TypedArray.new (1 + 4 + signature.length)
  let signatureData ← TypedArray.set signatureData (TypedArray.subarray signBuffer 32 37) 0
  TypedArray.set signatureData signature 5

/-- The message for a challenge and a registration. -/
def responseData (challengeHash : JSString) (registration : SoftTokenRegistration) :
    Option Bytes := do
  let signBuffer ← signBuffer (P.B64_decode registration.appIdHash) registration.counter
    (P.B64_decode challengeHash)
  let signature := P.sign registration.keys.sec signBuffer
  signatureData signBuffer signature

/-- A reply without data. -/
def reply (code : ℤ) : SignHelperReply := ⟨some code, ⟨js "sign_helper_reply", none⟩⟩

/-- `run`: the first sign challenge whose key handle is known is signed. -/
def run (profile : SoftTokenProfile) (request : HelperRequest) :
    SoftTokenProfile × Option SignHelperReply :=
  match request.signData.find? fun sd => sd.version = js "U2F_V2" &&
      (profile.getRegistration sd.appIdHash sd.keyHandle).isSome with
  | none => (profile, some (reply WRONG_DATA_STATUS))
  | some signData =>
      -- Increment the counter
      let profile := profile.incrementCounter signData.appIdHash signData.keyHandle
      (profile, do
        let registration ← profile.getRegistration signData.appIdHash signData.keyHandle
        let signatureData ← responseData P signData.challengeHash registration
        return ⟨some 0, ⟨js "sign_helper_reply",
          some (registration.keyHandle, P.B64_encode signatureData)⟩⟩)

end SoftTokenSignHandler

end U2F
