/-
**The data of the server.**

The registered keys, the sessions, and the messages between the server and a page.  The fields of
a message come from outside, and any of them can be null.

Main definitions:

* `SecurityKeyData` — a registered key, with `SecurityKeyData.equals`;
* `SessionData` — a session, which is an enroll session or a sign session;
* `RegistrationRequest`, `RegistrationResponse`, `RegisteredKey`, `U2fSignRequest`,
  `SignResponse` — the messages;
* `U2fAttestation.Parse` — the transports that an attestation certificate names.
-/

import Mathlib.Data.List.Basic
import U2F.Java.Platform

set_option relaxedAutoImplicit false
set_option autoImplicit false

namespace U2F

/-! ### Registered keys -/

inductive Transports
  | BLUETOOTH_BREDR
  | BLUETOOTH_LOW_ENERGY
  | USB
  | NFC
  | USB_INTERNAL
  | LIGHTNING
  deriving DecidableEq

/-- `Transports.values()` -/
def Transports.values : List Transports :=
  [BLUETOOTH_BREDR, BLUETOOTH_LOW_ENERGY, USB, NFC, USB_INTERNAL, LIGHTNING]

structure SecurityKeyData (Cert : Type) where
  enrollmentTime : Int64
  /-- Null if the certificate names no transports. -/
  transports : Option (List Transports)
  keyHandle : Bytes
  publicKey : Bytes
  attestationCert : Cert
  counter : Int32
  deriving DecidableEq

namespace SecurityKeyData

variable {Cert : Type}

def setCounter (k : SecurityKeyData Cert) (newCounterValue : Int32) : SecurityKeyData Cert :=
  { k with counter := newCounterValue }

@[simp] theorem publicKey_setCounter (k : SecurityKeyData Cert) (c : Int32) :
    (k.setCounter c).publicKey = k.publicKey := rfl

@[simp] theorem counter_setCounter (k : SecurityKeyData Cert) (c : Int32) :
    (k.setCounter c).counter = c := rfl

def containSameTransports : Option (List Transports) → Option (List Transports) → Bool
  | none, none => true
  | some ts₁, some ts₂ => ts₂.all (· ∈ ts₁) && ts₁.all (· ∈ ts₂)
  | _, _ => false

/-- `equals`.  The counters are not compared: the source compares a counter with itself. -/
def equals [DecidableEq Cert] (k k' : SecurityKeyData Cert) : Bool :=
  k.keyHandle = k'.keyHandle && k.enrollmentTime = k'.enrollmentTime &&
    containSameTransports k.transports k'.transports && k.publicKey = k'.publicKey &&
    k.attestationCert = k'.attestationCert

theorem containSameTransports_self (ts : Option (List Transports)) :
    containSameTransports ts ts = true := by
  cases ts <;> simp [containSameTransports]

theorem equals_self [DecidableEq Cert] (k : SecurityKeyData Cert) : k.equals k = true := by
  simp [equals, containSameTransports_self]

theorem publicKey_eq_of_equals [DecidableEq Cert] {k k' : SecurityKeyData Cert}
    (h : k.equals k' = true) : k.publicKey = k'.publicKey := by
  simp only [equals, Bool.and_eq_true, decide_eq_true_eq] at h
  exact h.1.2

end SecurityKeyData

/-! ### Sessions -/

structure EnrollSessionData where
  accountName : String
  appId : String
  challenge : Bytes
  deriving DecidableEq

structure SignSessionData extends EnrollSessionData where
  publicKey : Bytes
  deriving DecidableEq

/-- An object of class `EnrollSessionData`, or of its subclass. -/
inductive SessionData
  | enroll (data : EnrollSessionData)
  | sign (data : SignSessionData)
  deriving DecidableEq

/-- Every session is an enroll session. -/
def SessionData.toEnrollSessionData : SessionData → EnrollSessionData
  | enroll data => data
  | sign data => data.toEnrollSessionData

/-! ### Messages -/

def U2F_V2 : String := "U2F_V2"

structure RegistrationRequest where
  version : String
  challenge : String
  appId : String
  sessionId : String

structure RegistrationResponse where
  registrationData : Option String
  clientData : Option String
  sessionId : Option String

structure RegisteredKey where
  version : String
  keyHandle : String
  transports : Option (List Transports)
  appId : String
  sessionId : String

structure U2fSignRequest where
  challenge : String
  registeredKeys : List RegisteredKey

structure SignResponse where
  keyHandle : Option String
  signatureData : Option String
  clientData : Option String
  sessionId : Option String

/-! ### The transports of an attestation certificate -/

namespace U2fAttestation

variable {Cert : Type} (P : Platform Cert)

def TRANSPORT_EXTENSION_OID : String := "1.3.6.1.4.1.45724.2.1.1"

def BITS_IN_A_BYTE : ℕ := 8

/-- `X509ExtensionParsingUtil.getAsn1Object` -/
def getAsn1Object (octets : Bytes) : Except Throwable (Option Asn1Object) :=
  (P.readObject octets).mapError fun e =>
    if e = .ioException then .certificateParsingException "Not able to read ASN.1 object" else e

/-- `X509ExtensionParsingUtil.extractExtensionValue` -/
def extractExtensionValue (cert : Cert) (oid : String) : Except Throwable (Option Bytes) :=
  match P.getExtensionValue cert oid with
  | none => .ok none
  | some [] => .ok none
  | some extensionValue => do
      match ← getAsn1Object P extensionValue with
      | some (.octetString octets) => return some octets
      | _ => throw (.certificateParsingException "Expected ASN1OctetString.")

/-- `BitSet.valueOf(values).get(i)`: the low bits of a byte come first. -/
def bitSetGet (values : Bytes) (i : ℕ) : Bool :=
  ((values[i / 8]?).getD 0).toNat.testBit (i % 8)

/-- The transports of a bit string.  There are more bits in a byte than there are transports. -/
def transportsOf (values : Bytes) : Except Throwable (List Transports) :=
  ((List.range BITS_IN_A_BYTE).filter fun i => bitSetGet values (BITS_IN_A_BYTE - i - 1)).mapM
    fun i => orThrow Transports.values[i]? .indexOutOfBoundsException

/-- `Parse`, followed by `getTransports`. -/
def Parse (cert : Cert) : Except Throwable (Option (List Transports)) := do
  match ← extractExtensionValue P cert TRANSPORT_EXTENSION_OID with
  | none => return none
  | some octets =>
      match ← getAsn1Object P octets with
      | some (.derBitString values) => return some (← transportsOf values)
      | _ => throw (.certificateParsingException "No BitString found in transports extension")

end U2fAttestation

end U2F
