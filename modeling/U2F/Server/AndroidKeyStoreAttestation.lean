/-
**The key description in the attestation of an Android key.**

An Android key store puts a description of a key into an extension of the attestation certificate: a
sequence of the version of the key master, the challenge and two authorization lists.  The parser
reads the integers of ASN.1 in it as unsigned numbers, bounds their length in bits, and returns them
as numbers of Java, which have a sign.

Main definitions:

* `Asn1Primitive`, `Asn1Platform` — the objects of ASN.1, and the libraries that read them;
* `X509ExtensionParsingUtil.getInt`, `getLong`, `extractTaggedObjects` — the utilities;
* `AndroidKeyStoreAttestation.Parse` — the parser;
* `AndroidKeyStoreAttestation.Holds` — a parsed attestation has the values of its certificate.

Main results:

* `getInt_reads_iff`, `getLong_reads_iff` — which integers are read with their value;
* `extractTaggedObjects_get` — the map has the last object under each tag;
* `extractAuthorizationList_holds_iff` — purposes and block modes always have their value, an
  algorithm and a key size have it under a condition;
* `reads_values_iff` — **integers are read with their value exactly if they are neither negative and
  short, nor in the upper half of the range**.
-/

import Mathlib.Data.Nat.Size
import U2F.Lib.Der
import U2F.Lib.Traverse
import U2F.Server.AuthorizationList

set_option relaxedAutoImplicit false
set_option autoImplicit false

namespace U2F

/-! ### ASN.1 -/

/-- The ASN.1 objects that the parser tells apart.  An integer is its content. -/
inductive Asn1Primitive
  | integer (content : Bytes)
  | octetString (octets : Bytes)
  | sequence (elements : List Asn1Primitive)
  | set (elements : List Asn1Primitive)
  | tagged (tagNo : ℕ) (object : Asn1Primitive)
  | other

/-- The libraries under the parser.  `Cert` is `X509Certificate`. -/
structure Asn1Platform (Cert : Type) where
  /-- `getExtensionValue`, none for a null result -/
  getExtensionValue : Cert → String → Option Bytes
  /-- `new ASN1InputStream(octets).readObject()`, none for a null result -/
  readObject : Bytes → Except Throwable (Option Asn1Primitive)

namespace X509ExtensionParsingUtil

def MAX_INT_BITS : ℕ := 32

def MAX_LONG_BITS : ℕ := 64

section

variable {Cert : Type} (P : Asn1Platform Cert)

def getAsn1Object (octets : Bytes) : Except Throwable (Option Asn1Primitive) :=
  (P.readObject octets).mapError fun e =>
    if e = .ioException then .certificateParsingException "Not able to read ASN.1 object" else e

/-- The octets of the `ASN1OctetString`. -/
def extractExtensionValue (cert : Cert) (oid : String) : Except Throwable (Option Bytes) :=
  match P.getExtensionValue cert oid with
  | none => .ok none
  | some [] => .ok none
  | some extensionValue => do
      match ← getAsn1Object P extensionValue with
      | some (.octetString octets) => return some octets
      | _ => throw (.certificateParsingException "Expected ASN1OctetString.")

end

/-- `getPositiveValue` reads the content as unsigned; `toNumber` takes the low bits of it. -/
def getNumber {N : Type} (maxBits : ℕ) (toNumber : ℕ → N) :
    Option Asn1Primitive → Except Throwable N
  | some (.integer content) =>
      let bigInt := Der.unsigned content
      if maxBits < bigInt.size then throw (.certificateParsingException "INTEGER too big")
      else return toNumber bigInt
  | _ => throw (.certificateParsingException "Expected INTEGER type.")

/-- `intValue` -/
def getInt : Option Asn1Primitive → Except Throwable Int32 := getNumber MAX_INT_BITS Int32.ofNat

/-- `longValue` -/
def getLong : Option Asn1Primitive → Except Throwable Int64 := getNumber MAX_LONG_BITS Int64.ofNat

def getByteArray : Option Asn1Primitive → Except Throwable Bytes
  | some (.octetString octets) => return octets
  | _ => throw (.certificateParsingException "Expected ASN1OctetString")

/-- A `HashMap<Integer, ASN1Primitive>`; what is put later stands first. -/
abbrev TaggedObjects := List (ℕ × Asn1Primitive)

def extractTaggedObjects (asn1Sequence : List Asn1Primitive) : Except Throwable TaggedObjects :=
  asn1Sequence.foldlM
    (fun taggedObjects element =>
      match element with
      | .tagged tagNo object => return (tagNo, object) :: taggedObjects
      | _ => throw (.certificateParsingException "Expected DERTagged object"))
    []

end X509ExtensionParsingUtil

open X509ExtensionParsingUtil

/-! ### What the utilities read -/

namespace X509ExtensionParsingUtil

/-- The call throws a `CertificateParsingException`, or returns the value. -/
def Reads (outcome : Except Throwable ℤ) (value : ℤ) : Prop :=
  (∃ message, outcome = .error (.certificateParsingException message)) ∨ outcome = .ok value

theorem reads_ok_iff {v value : ℤ} : Reads (.ok v) value ↔ v = value := by
  rw [Reads]
  constructor
  · rintro (⟨message, hthrows⟩ | hreturns)
    · cases hthrows
    · exact Except.ok.inj hreturns
  · exact fun hvalue => .inr (congrArg Except.ok hvalue)

section

variable {N : Type} {maxBits : ℕ} {toNumber : ℕ → N}

theorem getNumber_integer {content : Bytes} :
    getNumber maxBits toNumber (some (.integer content)) =
      if Der.unsigned content < 2 ^ maxBits then .ok (toNumber (Der.unsigned content))
      else .error (.certificateParsingException "INTEGER too big") := by
  have hsize : ¬ maxBits < (Der.unsigned content).size ↔ Der.unsigned content < 2 ^ maxBits :=
    Nat.not_lt.trans Nat.size_le
  rw [getNumber]
  by_cases h : maxBits < (Der.unsigned content).size
  · rw [if_pos h, if_neg (fun h' => hsize.2 h' h)]
    rfl
  · rw [if_neg h, if_pos (hsize.1 h)]
    rfl

theorem getNumber_eq_ok_iff {object : Option Asn1Primitive} {v : N} :
    getNumber maxBits toNumber object = .ok v ↔
      ∃ content, object = some (.integer content) ∧ Der.unsigned content < 2 ^ maxBits ∧
        toNumber (Der.unsigned content) = v := by
  match object with
  | some (.integer content) =>
      rw [getNumber_integer]
      by_cases h : Der.unsigned content < 2 ^ maxBits
      · simp [h]
      · simp [h]
  | none | some (.octetString _) | some (.sequence _) | some (.set _) | some (.tagged _ _)
  | some .other => simp [getNumber, throw, throwThe, MonadExceptOf.throw]

/-- A number with a sign in `n` bytes: the integer is read with its value where its content has the
same one either way. -/
theorem getNumber_reads_iff {n : ℕ} {toInt : N → ℤ}
    (h : ∀ k, toInt (toNumber k) = (k : ℤ).bmod (256 ^ n)) (content : Bytes) :
    Reads ((getNumber (8 * n) toNumber (some (.integer content))).map toInt)
      (Der.signed content) ↔ Der.KeepsValue n content := by
  have hpow : 2 ^ (8 * n) = 256 ^ n := pow_mul 2 8 n
  rw [getNumber_integer, hpow]
  by_cases hfits : Der.unsigned content < 256 ^ n
  · rw [if_pos hfits, ← Der.bmod_unsigned_eq_signed_iff hfits, ← h]
    exact reads_ok_iff
  · rw [if_neg hfits]
    exact iff_of_true (.inl ⟨_, rfl⟩) (Der.keepsValue_of_le (Nat.not_lt.1 hfits))

end

/-- **A 32-bit integer is read with its value where its content has the same one either way.** -/
theorem getInt_reads_iff (content : Bytes) :
    Reads ((getInt (some (.integer content))).map Int32.toInt) (Der.signed content) ↔
      Der.KeepsValue 4 content := by
  have hsize : Int32.size = 256 ^ 4 := by decide
  have hvalue (k : ℕ) : (Int32.ofNat k).toInt = (k : ℤ).bmod (256 ^ 4) := by
    rw [Int32.toInt_ofNat', hsize]
  exact getNumber_reads_iff hvalue content

theorem getLong_reads_iff (content : Bytes) :
    Reads ((getLong (some (.integer content))).map Int64.toInt) (Der.signed content) ↔
      Der.KeepsValue 8 content := by
  have hsize : Int64.size = 256 ^ 8 := by decide
  have hvalue (k : ℕ) : (Int64.ofNat k).toInt = (k : ℤ).bmod (256 ^ 8) := by
    rw [Int64.toInt_ofNat', hsize]
  exact getNumber_reads_iff hvalue content

theorem toInt_eq_signed_iff {content : Bytes} {v : Int32}
    (h : getInt (some (.integer content)) = .ok v) :
    v.toInt = Der.signed content ↔ Der.KeepsValue 4 content := by
  rw [← getInt_reads_iff, h]
  exact reads_ok_iff.symm

/-- A result between 0 and 128 is the value, but for the one byte that is -128. -/
theorem toInt_eq_signed_iff_of_small {content : Bytes} {v : Int32}
    (h : getInt (some (.integer content)) = .ok v) (hpos : 0 ≤ v.toInt) (hsmall : v.toInt ≤ 128) :
    v.toInt = Der.signed content ↔ content ≠ [0x80] := by
  obtain ⟨content', hcontent, hfits, rfl⟩ := getNumber_eq_ok_iff.1 h
  cases hcontent
  have hbmod := Int32.toInt_ofNat' (n := Der.unsigned content)
  have hunsigned : (Int32.ofNat (Der.unsigned content)).toInt = Der.unsigned content := by
    have hlt : Der.unsigned content < 0x100000000 := hfits
    have hsize : ((Int32.size : ℕ) : ℤ) = 0x100000000 := rfl
    rw [Int.bmod_def, hsize] at hbmod
    split at hbmod <;> omega
  rw [hunsigned] at hsmall ⊢
  cases content with
  | nil => exact iff_of_true rfl (List.cons_ne_nil _ _).symm
  | cons b content =>
      have hfirst := Der.unsigned_cons b content
      rw [Der.signed_cons]
      by_cases hb : b.toNat < 128
      · rw [if_pos hb]
        refine iff_of_true rfl fun heq => ?_
        obtain ⟨rfl, -⟩ := List.cons.inj heq
        exact absurd hb (by decide)
      · -- the first bit is set: the number is at least 128 times a power of 256
        have hone : 0 < 256 ^ content.length := Nat.pow_pos (by decide)
        have hmul : 128 * 256 ^ content.length ≤ b.toNat * 256 ^ content.length :=
          Nat.mul_le_mul_right _ (by omega)
        have hlength : content.length = 0 := by
          by_contra hne
          have hle : 256 ^ 1 ≤ 256 ^ content.length :=
            Nat.pow_le_pow_right (by decide) (by omega)
          omega
        obtain rfl := List.length_eq_zero_iff.1 hlength
        have hbyte : b = 0x80 := by
          rw [Der.unsigned_nil, List.length_nil, pow_zero] at hfirst
          rw [← UInt8.toNat_inj]
          have h128 : (0x80 : UInt8).toNat = 128 := rfl
          omega
        subst hbyte
        rw [if_neg hb]
        exact iff_of_false (by decide) fun h => h rfl

end X509ExtensionParsingUtil

/-! ### The parser -/

structure AndroidKeyStoreAttestation where
  keymasterVersion : Int32
  attestationChallenge : Bytes
  softwareAuthorizationList : AuthorizationList
  teeAuthorizationList : AuthorizationList
  deriving DecidableEq

namespace AndroidKeyStoreAttestation

def KEY_DESCRIPTION_OID : String := "1.3.6.1.4.1.11129.2.1.17"

def DESCRIPTION_LENGTH : ℕ := 4
def DESCRIPTION_VERSION_INDEX : ℕ := 0
def DESCRIPTION_CHALLENGE_INDEX : ℕ := 1
def DESCRIPTION_SOFTWARE_ENFORCED_INDEX : ℕ := 2
def DESCRIPTION_TEE_ENFORCED_INDEX : ℕ := 3

def AUTHZ_PURPOSE_TAG : ℕ := 1
def AUTHZ_ALGORITHM_TAG : ℕ := 2
def AUTHZ_KEY_SIZE_TAG : ℕ := 3
def AUTHZ_BLOCK_MODE_TAG : ℕ := 4

section Elements

variable (keyDescriptionSequence : List Asn1Primitive)

def getObjectAt (index : ℕ) : Except Throwable Asn1Primitive :=
  orThrow keyDescriptionSequence[index]? .indexOutOfBoundsException

def getEncodedSequence (index : ℕ) (message : String) : Except Throwable (List Asn1Primitive) := do
  match ← getObjectAt keyDescriptionSequence index with
  | .sequence elements => return elements
  | _ => throw (.certificateParsingException message)

def getSoftwareEncodedSequence : Except Throwable (List Asn1Primitive) :=
  getEncodedSequence keyDescriptionSequence DESCRIPTION_SOFTWARE_ENFORCED_INDEX
    "Expected softwareEnforced ASN1Sequence."

def getTeeEncodedSequence : Except Throwable (List Asn1Primitive) :=
  getEncodedSequence keyDescriptionSequence DESCRIPTION_TEE_ENFORCED_INDEX
    "Expected teeEnforced ASN1Sequence."

def getKeymasterVersion : Except Throwable Int32 := do
  X509ExtensionParsingUtil.getInt (← getObjectAt keyDescriptionSequence DESCRIPTION_VERSION_INDEX)

def getAttestationChallenge : Except Throwable Bytes := do
  getByteArray (← getObjectAt keyDescriptionSequence DESCRIPTION_CHALLENGE_INDEX)

end Elements

section Authorizations

variable (taggedObjects : TaggedObjects)

/-- The type of the elements comes with `buildTypeFromInt`; the code has it for two types. -/
def getListFromTaggedObjectSet {T : Type} (tag : ℕ)
    (buildTypeFromInt : Int32 → Except Throwable T) : Except Throwable (Option (List T)) :=
  match taggedObjects.lookup tag with
  | none => return none
  | some (.set elements) =>
      some <$> elements.mapM fun element => do
        buildTypeFromInt (← X509ExtensionParsingUtil.getInt (some element))
  | some _ => throw (.certificateParsingException "Expected ASN1Set")

def getPurpose : Except Throwable (Option (List Purpose)) :=
  getListFromTaggedObjectSet taggedObjects AUTHZ_PURPOSE_TAG Purpose.fromValue

def getAlgorithm : Except Throwable (Option Algorithm) :=
  match taggedObjects.lookup AUTHZ_ALGORITHM_TAG with
  | none => return none
  | some asn1Primitive => do
      return some (← Algorithm.fromValue (← X509ExtensionParsingUtil.getInt (some asn1Primitive)))

def getKeySize : Except Throwable (Option Int32) :=
  match taggedObjects.lookup AUTHZ_KEY_SIZE_TAG with
  | none => return none
  | some asn1Primitive => do return some (← X509ExtensionParsingUtil.getInt (some asn1Primitive))

def getBlockMode : Except Throwable (Option (List BlockMode)) :=
  getListFromTaggedObjectSet taggedObjects AUTHZ_BLOCK_MODE_TAG BlockMode.fromValue

end Authorizations

def extractAuthorizationList (authorizationSequence : List Asn1Primitive) :
    Except Throwable AuthorizationList := do
  let taggedObjects ← extractTaggedObjects authorizationSequence
  return {
    purposeList := ← getPurpose taggedObjects
    algorithm := ← getAlgorithm taggedObjects
    keySize := ← getKeySize taggedObjects
    blockModeList := ← getBlockMode taggedObjects }

variable {Cert : Type} (P : Asn1Platform Cert)

def getKeyDescriptionSequence (octets : Bytes) : Except Throwable (List Asn1Primitive) := do
  match ← getAsn1Object P octets with
  | some (.sequence elements) =>
      throwIf (elements.length ≠ DESCRIPTION_LENGTH)
        (.certificateParsingException ("KeyDescription Sequence has " ++ toString elements.length ++
          " elements.  Expected " ++ toString DESCRIPTION_LENGTH ++ " elements "))
      return elements
  | _ => throw (.certificateParsingException "Expected KeyDescription Sequence.")

def Parse (cert : Cert) : Except Throwable (Option AndroidKeyStoreAttestation) := do
  match ← extractExtensionValue P cert KEY_DESCRIPTION_OID with
  | none => return none
  | some extensionValue =>
      let keyDescriptionSequence ← getKeyDescriptionSequence P extensionValue
      let keymasterVersion ← getKeymasterVersion keyDescriptionSequence
      let challenge ← getAttestationChallenge keyDescriptionSequence
      let softwareEnforcedSequence ← getSoftwareEncodedSequence keyDescriptionSequence
      let softwareAuthorizationList ← extractAuthorizationList softwareEnforcedSequence
      let teeEnforcedSequence ← getTeeEncodedSequence keyDescriptionSequence
      let teeAuthorizationList ← extractAuthorizationList teeEnforcedSequence
      return some {
        keymasterVersion := keymasterVersion
        attestationChallenge := challenge
        softwareAuthorizationList := softwareAuthorizationList
        teeAuthorizationList := teeAuthorizationList }

end AndroidKeyStoreAttestation

/-! ### The values of a certificate -/

namespace Asn1Primitive

/-- The value of an integer. -/
def asInteger : Asn1Primitive → Option ℤ
  | integer content => some (Der.signed content)
  | _ => none

/-- The values of a set of integers. -/
def asIntegers : Asn1Primitive → Option (List ℤ)
  | set elements => elements.mapM asInteger
  | _ => none

/-- The object of a tagged object with the tag. -/
def underTag (tag : ℕ) : Asn1Primitive → Option Asn1Primitive
  | tagged tagNo object => if tag = tagNo then some object else none
  | _ => none

/-- The object under a tag in a sequence; a later one counts before an earlier one. -/
def taggedIn (sequence : List Asn1Primitive) (tag : ℕ) : Option Asn1Primitive :=
  sequence.reverse.findSome? (underTag tag)

theorem asInteger_of_getInt_iff {object : Asn1Primitive} {v : Int32}
    (h : X509ExtensionParsingUtil.getInt (some object) = .ok v) :
    object.asInteger = some v.toInt ↔
      ∀ content, object = integer content → Der.KeepsValue 4 content := by
  obtain ⟨content, hobject, -⟩ := getNumber_eq_ok_iff.1 h
  cases hobject
  simp only [asInteger, Option.some.injEq, integer.injEq, forall_eq', ← toInt_eq_signed_iff h]
  exact eq_comm

theorem asInteger_of_small_iff {object : Asn1Primitive} {v : Int32}
    (h : X509ExtensionParsingUtil.getInt (some object) = .ok v) (hpos : 0 ≤ v.toInt)
    (hsmall : v.toInt ≤ 128) :
    object.asInteger = some v.toInt ↔ object ≠ integer [0x80] := by
  obtain ⟨content, hobject, -⟩ := getNumber_eq_ok_iff.1 h
  cases hobject
  simp only [asInteger, Option.some.injEq, ne_eq, integer.injEq]
  exact eq_comm.trans (toInt_eq_signed_iff_of_small h hpos hsmall)

theorem asInteger_of_lt {object : Asn1Primitive} {v : Int32}
    (h : X509ExtensionParsingUtil.getInt (some object) = .ok v) (hpos : 0 ≤ v.toInt)
    (hsmall : v.toInt < 128) :
    object.asInteger = some v.toInt := by
  refine (asInteger_of_small_iff h hpos hsmall.le).2 ?_
  rintro rfl
  have h128 : X509ExtensionParsingUtil.getInt (some (integer [0x80])) = .ok 128 := by
    rw [X509ExtensionParsingUtil.getInt, getNumber_integer, if_pos (by decide)]
    rfl
  rw [h128] at h
  cases h
  exact absurd hsmall (by decide)

end Asn1Primitive

open Asn1Primitive

/-- The map has the last object under each tag. -/
theorem X509ExtensionParsingUtil.extractTaggedObjects_get {sequence : List Asn1Primitive}
    {taggedObjects : TaggedObjects} (h : extractTaggedObjects sequence = .ok taggedObjects)
    (tag : ℕ) : taggedObjects.lookup tag = taggedIn sequence tag := by
  induction sequence using List.reverseRecOn generalizing taggedObjects with
  | nil =>
      cases h
      rfl
  | append_singleton sequence element ih =>
      rw [extractTaggedObjects, List.foldlM_append] at h
      obtain ⟨earlier, hearlier, hlast⟩ := Except.bind_eq_ok_iff.1 h
      rw [taggedIn, List.reverse_concat, List.findSome?_cons]
      cases element with
      | tagged tagNo object =>
          cases hlast
          rw [List.lookup_cons, underTag, ih hearlier, taggedIn]
          by_cases heq : tag = tagNo
          · rw [if_pos heq, beq_iff_eq.2 heq]
          · rw [if_neg heq, beq_eq_false_iff_ne.2 heq]
      | _ => cases hlast

/-- What a certificate says in an authorization list. -/
structure Authorizations where
  purpose : Option (List ℤ)
  algorithm : Option ℤ
  keySize : Option ℤ
  blockMode : Option (List ℤ)
  deriving DecidableEq

namespace AuthorizationList

def authorizations (list : AuthorizationList) : Authorizations where
  purpose := list.purposeList.map fun purposes => purposes.map fun p => p.getValue.toInt
  algorithm := list.algorithm.map fun algorithm => algorithm.getValue.toInt
  keySize := list.keySize.map Int32.toInt
  blockMode := list.blockModeList.map fun modes => modes.map fun mode => mode.getValue.toInt

end AuthorizationList

/-- What a certificate says in its key description. -/
structure KeyDescription where
  keymasterVersion : ℤ
  attestationChallenge : Bytes
  softwareEnforced : Authorizations
  teeEnforced : Authorizations
  deriving DecidableEq

namespace AndroidKeyStoreAttestation

def authorizationsOf (sequence : List Asn1Primitive) : Option Authorizations := do
  return {
    purpose := ← (taggedIn sequence AUTHZ_PURPOSE_TAG).mapM asIntegers
    algorithm := ← (taggedIn sequence AUTHZ_ALGORITHM_TAG).mapM asInteger
    keySize := ← (taggedIn sequence AUTHZ_KEY_SIZE_TAG).mapM asInteger
    blockMode := ← (taggedIn sequence AUTHZ_BLOCK_MODE_TAG).mapM asIntegers }

def keyDescriptionOf : List Asn1Primitive → Option KeyDescription
  | [version, .octetString challenge, .sequence software, .sequence tee] => do
      return {
        keymasterVersion := ← version.asInteger
        attestationChallenge := challenge
        softwareEnforced := ← authorizationsOf software
        teeEnforced := ← authorizationsOf tee }
  | _ => none

def keyDescription (attestation : AndroidKeyStoreAttestation) : KeyDescription where
  keymasterVersion := attestation.keymasterVersion.toInt
  attestationChallenge := attestation.attestationChallenge
  softwareEnforced := attestation.softwareAuthorizationList.authorizations
  teeEnforced := attestation.teeAuthorizationList.authorizations

/-- A list of enumerators always has the values of its set: they are too small to be misread. -/
theorem getListFromTaggedObjectSet_holds {T : Type} {values : List T} {getValue : T → Int32}
    {message : String} (hsmall : ∀ e, 0 ≤ (getValue e).toInt ∧ (getValue e).toInt < 128)
    {taggedObjects : TaggedObjects} {tag : ℕ} {list : Option (List T)}
    (h : getListFromTaggedObjectSet taggedObjects tag (enumFromValue values getValue message) =
      .ok list) :
    (taggedObjects.lookup tag).mapM asIntegers =
      some (list.map fun es => es.map fun e => (getValue e).toInt) := by
  rw [getListFromTaggedObjectSet] at h
  cases hobject : taggedObjects.lookup tag with
  | none =>
      rw [hobject] at h
      cases h
      rfl
  | some object =>
      rw [hobject] at h
      cases object with
      | set elements =>
          obtain ⟨es, hes, hlist⟩ := Except.fmap_eq_ok_iff.1 h
          cases hlist
          have hvalues : elements.mapM asInteger = some (es.map fun e => (getValue e).toInt) := by
            rw [Traverse.mapM_eq_some_iff, List.forall₂_map_right_iff]
            refine (Traverse.mapM_eq_ok_iff.1 hes).imp fun element e he => ?_
            obtain ⟨v, hv, hvalue⟩ := Except.bind_eq_ok_iff.1 he
            have heq := getValue_of_enumFromValue hvalue
            obtain ⟨hpos, hlt⟩ := hsmall e
            rw [heq] at hpos hlt ⊢
            exact asInteger_of_lt hv hpos hlt
          rw [Option.mapM_some, asIntegers, hvalues]
          rfl
      | _ => cases h

theorem getAlgorithm_holds_iff {taggedObjects : TaggedObjects} {algorithm : Option Algorithm}
    (h : getAlgorithm taggedObjects = .ok algorithm) :
    (taggedObjects.lookup AUTHZ_ALGORITHM_TAG).mapM asInteger =
        some (algorithm.map fun a => a.getValue.toInt) ↔
      taggedObjects.lookup AUTHZ_ALGORITHM_TAG ≠ some (.integer [0x80]) := by
  rw [getAlgorithm] at h
  cases hobject : taggedObjects.lookup AUTHZ_ALGORITHM_TAG with
  | none =>
      rw [hobject] at h
      cases h
      exact iff_of_true rfl (Option.some_ne_none _).symm
  | some object =>
      rw [hobject] at h
      obtain ⟨v, hv, hfrom⟩ := Except.bind_eq_ok_iff.1 h
      obtain ⟨a, hvalue, halgorithm⟩ := Except.bind_eq_ok_iff.1 hfrom
      cases halgorithm
      have heq := getValue_of_enumFromValue hvalue
      have hsmall : 0 ≤ a.getValue.toInt ∧ a.getValue.toInt ≤ 128 := by cases a <;> decide
      rw [← heq] at hv
      rw [ne_eq, Option.some.injEq, ← ne_eq, ← asInteger_of_small_iff hv hsmall.1 hsmall.2]
      exact Traverse.optionMapM_eq_some_iff

theorem getKeySize_holds_iff {taggedObjects : TaggedObjects} {keySize : Option Int32}
    (h : getKeySize taggedObjects = .ok keySize) :
    (taggedObjects.lookup AUTHZ_KEY_SIZE_TAG).mapM asInteger = some (keySize.map Int32.toInt) ↔
      ∀ content, taggedObjects.lookup AUTHZ_KEY_SIZE_TAG = some (.integer content) →
        Der.KeepsValue 4 content := by
  rw [getKeySize] at h
  cases hobject : taggedObjects.lookup AUTHZ_KEY_SIZE_TAG with
  | none =>
      rw [hobject] at h
      cases h
      exact iff_of_true rfl fun _ heq => nomatch heq
  | some object =>
      rw [hobject] at h
      obtain ⟨v, hv, hkeySize⟩ := Except.bind_eq_ok_iff.1 h
      cases hkeySize
      simp only [Option.some.injEq]
      rw [← asInteger_of_getInt_iff hv]
      exact Traverse.optionMapM_eq_some_iff

/-- What a sequence has to be like for its list to have its values. -/
def KeepsValues (sequence : List Asn1Primitive) : Prop :=
  taggedIn sequence AUTHZ_ALGORITHM_TAG ≠ some (.integer [0x80]) ∧
    ∀ content, taggedIn sequence AUTHZ_KEY_SIZE_TAG = some (.integer content) →
      Der.KeepsValue 4 content

theorem authorizationsOf_eq_some_iff {sequence : List Asn1Primitive}
    {authorizations : Authorizations} :
    authorizationsOf sequence = some authorizations ↔
      (taggedIn sequence AUTHZ_PURPOSE_TAG).mapM asIntegers = some authorizations.purpose ∧
        (taggedIn sequence AUTHZ_ALGORITHM_TAG).mapM asInteger = some authorizations.algorithm ∧
        (taggedIn sequence AUTHZ_KEY_SIZE_TAG).mapM asInteger = some authorizations.keySize ∧
        (taggedIn sequence AUTHZ_BLOCK_MODE_TAG).mapM asIntegers =
          some authorizations.blockMode := by
  simp only [authorizationsOf, Option.bind_eq_bind, Option.bind_eq_some_iff, Option.pure_def,
    Option.some.injEq]
  constructor
  · rintro ⟨purpose, hpurpose, algorithm, halgorithm, keySize, hkeySize, mode, hmode, rfl⟩
    exact ⟨hpurpose, halgorithm, hkeySize, hmode⟩
  · rintro ⟨hpurpose, halgorithm, hkeySize, hmode⟩
    exact ⟨_, hpurpose, _, halgorithm, _, hkeySize, _, hmode, rfl⟩

/-- Purposes and block modes always have their value; an algorithm and a key size have it under a
condition. -/
theorem extractAuthorizationList_holds_iff {sequence : List Asn1Primitive}
    {list : AuthorizationList} (h : extractAuthorizationList sequence = .ok list) :
    authorizationsOf sequence = some list.authorizations ↔ KeepsValues sequence := by
  obtain ⟨taggedObjects, htagged, h⟩ := Except.bind_eq_ok_iff.1 h
  obtain ⟨purposes, hpurposes, h⟩ := Except.bind_eq_ok_iff.1 h
  obtain ⟨algorithm, halgorithm, h⟩ := Except.bind_eq_ok_iff.1 h
  obtain ⟨keySize, hkeySize, h⟩ := Except.bind_eq_ok_iff.1 h
  obtain ⟨modes, hmodes, hlist⟩ := Except.bind_eq_ok_iff.1 h
  cases hlist
  have hget := extractTaggedObjects_get htagged
  have hpurpose := getListFromTaggedObjectSet_holds (fun e => by cases e <;> decide) hpurposes
  have hmode := getListFromTaggedObjectSet_holds (fun e => by cases e <;> decide) hmodes
  have halgorithm := getAlgorithm_holds_iff halgorithm
  have hkeySize := getKeySize_holds_iff hkeySize
  simp only [hget] at hpurpose hmode halgorithm hkeySize
  rw [authorizationsOf_eq_some_iff, KeepsValues, ← halgorithm, ← hkeySize]
  constructor
  · rintro ⟨-, halgorithm, hkeySize, -⟩
    exact ⟨halgorithm, hkeySize⟩
  · rintro ⟨halgorithm, hkeySize⟩
    exact ⟨hpurpose, halgorithm, hkeySize, hmode⟩

/-! ### The whole description -/

section

variable {Cert : Type} (P : Asn1Platform Cert)

/-- The extension of the certificate is the octet string of a sequence with these elements. -/
def HasDescription (cert : Cert) (elements : List Asn1Primitive) : Prop :=
  ∃ extensionValue octets, P.getExtensionValue cert KEY_DESCRIPTION_OID = some extensionValue ∧
    P.readObject extensionValue = .ok (some (.octetString octets)) ∧
    P.readObject octets = .ok (some (.sequence elements))

/-- The attestation has the values of the certificate. -/
def Holds (cert : Cert) (attestation : AndroidKeyStoreAttestation) : Prop :=
  ∃ elements, HasDescription P cert elements ∧
    keyDescriptionOf elements = some attestation.keyDescription

end

/-- What the elements have to be like for the attestation to have their values. -/
def DescriptionKeepsValues : List Asn1Primitive → Prop
  | [.integer version, _, .sequence software, .sequence tee] =>
      Der.KeepsValue 4 version ∧ KeepsValues software ∧ KeepsValues tee
  | _ => True

variable {Cert : Type} {P : Asn1Platform Cert} {cert : Cert}

theorem HasDescription.unique {elements elements' : List Asn1Primitive}
    (h : HasDescription P cert elements) (h' : HasDescription P cert elements') :
    elements = elements' := by
  obtain ⟨extensionValue, octets, hextension, hoctets, helements⟩ := h
  obtain ⟨extensionValue', octets', hextension', hoctets', helements'⟩ := h'
  rw [hextension, Option.some.injEq] at hextension'
  subst hextension'
  rw [hoctets] at hoctets'
  cases hoctets'
  rw [helements] at helements'
  cases helements'
  rfl

theorem getAsn1Object_eq_ok_iff {octets : Bytes} {object : Option Asn1Primitive} :
    getAsn1Object P octets = .ok object ↔ P.readObject octets = .ok object :=
  Except.mapError_eq_ok_iff

theorem extractExtensionValue_eq_some {oid : String} {octets : Bytes}
    (h : extractExtensionValue P cert oid = .ok (some octets)) :
    ∃ extensionValue, P.getExtensionValue cert oid = some extensionValue ∧
      P.readObject extensionValue = .ok (some (.octetString octets)) := by
  rw [extractExtensionValue] at h
  match hextension : P.getExtensionValue cert oid with
  | none =>
      rw [hextension] at h
      cases h
  | some [] =>
      rw [hextension] at h
      cases h
  | some (b :: bytes) =>
      rw [hextension] at h
      obtain ⟨object, hobject, h⟩ := Except.bind_eq_ok_iff.1 h
      rw [getAsn1Object_eq_ok_iff] at hobject
      match object with
      | some (.octetString octets') =>
          cases h
          exact ⟨_, rfl, hobject⟩
      | none | some (.integer _) | some (.sequence _) | some (.set _) | some (.tagged _ _)
      | some .other => cases h

theorem getKeyDescriptionSequence_eq_ok {octets : Bytes} {elements : List Asn1Primitive}
    (h : getKeyDescriptionSequence P octets = .ok elements) :
    P.readObject octets = .ok (some (.sequence elements)) ∧ elements.length = 4 := by
  obtain ⟨object, hobject, h⟩ := Except.bind_eq_ok_iff.1 h
  rw [getAsn1Object_eq_ok_iff] at hobject
  match object with
  | some (.sequence elements') =>
      obtain ⟨_, hlength, h⟩ := Except.bind_eq_ok_iff.1 h
      cases h
      rw [throwIf_eq_ok_iff, Decidable.not_not] at hlength
      exact ⟨hobject, hlength⟩
  | none | some (.integer _) | some (.octetString _) | some (.set _) | some (.tagged _ _)
  | some .other => cases h

theorem getEncodedSequence_eq_ok {elements sequence : List Asn1Primitive} {index : ℕ}
    {message : String} (h : getEncodedSequence elements index message = .ok sequence) :
    elements[index]? = some (.sequence sequence) := by
  obtain ⟨object, hobject, h⟩ := Except.bind_eq_ok_iff.1 h
  rw [getObjectAt, orThrow_eq_ok_iff] at hobject
  cases object with
  | sequence sequence' =>
      cases h
      exact hobject
  | _ => cases h

/-- What `Parse` returns comes from the four elements of a description. -/
theorem Parse_eq_some {attestation : AndroidKeyStoreAttestation}
    (h : Parse P cert = .ok (some attestation)) :
    ∃ version software tee, HasDescription P cert [.integer version,
        .octetString attestation.attestationChallenge, .sequence software, .sequence tee] ∧
      X509ExtensionParsingUtil.getInt (some (.integer version)) = .ok attestation.keymasterVersion ∧
      extractAuthorizationList software = .ok attestation.softwareAuthorizationList ∧
      extractAuthorizationList tee = .ok attestation.teeAuthorizationList := by
  obtain ⟨extension, hextension, h⟩ := Except.bind_eq_ok_iff.1 h
  cases extension with
  | none => cases h
  | some octets =>
      obtain ⟨extensionValue, hvalue, hoctets⟩ := extractExtensionValue_eq_some hextension
      obtain ⟨elements, hdescription, h⟩ := Except.bind_eq_ok_iff.1 h
      obtain ⟨helements, hlength⟩ := getKeyDescriptionSequence_eq_ok hdescription
      obtain ⟨version, hversion, h⟩ := Except.bind_eq_ok_iff.1 h
      obtain ⟨challenge, hchallenge, h⟩ := Except.bind_eq_ok_iff.1 h
      obtain ⟨software, hsoftware, h⟩ := Except.bind_eq_ok_iff.1 h
      obtain ⟨softwareList, hsoftwareList, h⟩ := Except.bind_eq_ok_iff.1 h
      obtain ⟨tee, htee, h⟩ := Except.bind_eq_ok_iff.1 h
      obtain ⟨teeList, hteeList, h⟩ := Except.bind_eq_ok_iff.1 h
      cases h
      have hthird := getEncodedSequence_eq_ok hsoftware
      have hfourth := getEncodedSequence_eq_ok htee
      match elements, hlength with
      | [first, second, third, fourth], _ =>
          cases hthird
          cases hfourth
          obtain ⟨object, hobject, hfirst⟩ := Except.bind_eq_ok_iff.1 hversion
          cases hobject
          obtain ⟨content, hcontent, -⟩ := getNumber_eq_ok_iff.1 hfirst
          cases hcontent
          obtain ⟨object, hobject, hsecond⟩ := Except.bind_eq_ok_iff.1 hchallenge
          cases hobject
          cases second with
          | octetString octets' =>
              cases hsecond
              exact ⟨content, software, tee, ⟨extensionValue, octets, hvalue, hoctets, helements⟩,
                hfirst, hsoftwareList, hteeList⟩
          | _ => cases hsecond

/-- What `Parse` returns has the values of the certificate under the condition on its elements. -/
theorem holds_iff {attestation : AndroidKeyStoreAttestation}
    (h : Parse P cert = .ok (some attestation)) :
    Holds P cert attestation ↔
      ∀ elements, HasDescription P cert elements → DescriptionKeepsValues elements := by
  obtain ⟨version, software, tee, hdescription, hversion, hsoftware, htee⟩ := Parse_eq_some h
  have hiff : keyDescriptionOf [.integer version, .octetString attestation.attestationChallenge,
        .sequence software, .sequence tee] = some attestation.keyDescription ↔
      Der.KeepsValue 4 version ∧ KeepsValues software ∧ KeepsValues tee := by
    rw [← toInt_eq_signed_iff hversion, ← extractAuthorizationList_holds_iff hsoftware,
      ← extractAuthorizationList_holds_iff htee]
    simp only [keyDescriptionOf, asInteger, keyDescription, Option.bind_eq_bind, Option.bind_some,
      Option.bind_eq_some_iff, Option.pure_def, Option.some.injEq, KeyDescription.mk.injEq]
    constructor
    · rintro ⟨softwareEnforced, hsoftwareEnforced, teeEnforced, hteeEnforced, heq, -, rfl, rfl⟩
      exact ⟨heq.symm, hsoftwareEnforced, hteeEnforced⟩
    · rintro ⟨heq, hsoftwareEnforced, hteeEnforced⟩
      exact ⟨_, hsoftwareEnforced, _, hteeEnforced, heq.symm, True.intro, rfl, rfl⟩
  constructor
  · rintro ⟨elements, helements, hholds⟩ elements' helements'
    obtain rfl := helements.unique hdescription
    obtain rfl := helements'.unique hdescription
    exact hiff.1 hholds
  · exact fun hkeeps => ⟨_, hdescription, hiff.2 (hkeeps _ hdescription)⟩

/-! ### A certificate -/

/-- A description with a key size and nothing else in its lists, in the distinguished encoding. -/
def exampleDescription (keySize : Bytes) : Bytes :=
  Der.shortForm 0x30 (Der.shortForm 0x02 [0x02] ++ Der.shortForm 0x04 [0x63] ++
    Der.shortForm 0x30 [] ++ Der.shortForm 0x30 (Der.shortForm 0xa3 (Der.shortForm 0x02 keySize)))

/-- The libraries on the certificate with this description. -/
def examplePlatform (keySize : Bytes) : Asn1Platform Unit where
  getExtensionValue _ oid :=
    if oid = KEY_DESCRIPTION_OID then some (Der.shortForm 0x04 (exampleDescription keySize))
    else none
  readObject octets :=
    if octets = Der.shortForm 0x04 (exampleDescription keySize) then
      .ok (some (.octetString (exampleDescription keySize)))
    else if octets = exampleDescription keySize then
      .ok (some (.sequence [.integer [0x02], .octetString [0x63], .sequence [],
        .sequence [.tagged 3 (.integer keySize)]]))
    else .error .ioException

def exampleAttestation (keySize : Int32) : AndroidKeyStoreAttestation where
  keymasterVersion := 2
  attestationChallenge := [0x63]
  softwareAuthorizationList := ⟨none, none, none, none⟩
  teeAuthorizationList := ⟨none, none, some keySize, none⟩

theorem getExtensionValue_example (keySize : Bytes) :
    (examplePlatform keySize).getExtensionValue () KEY_DESCRIPTION_OID =
      some (Der.shortForm 0x04 (exampleDescription keySize)) := by
  simp only [examplePlatform, if_true]

theorem readObject_extension_example (keySize : Bytes) :
    (examplePlatform keySize).readObject (Der.shortForm 0x04 (exampleDescription keySize)) =
      .ok (some (.octetString (exampleDescription keySize))) := by
  simp only [examplePlatform, if_true]

theorem readObject_description_example (keySize : Bytes) :
    (examplePlatform keySize).readObject (exampleDescription keySize) =
      .ok (some (.sequence [.integer [0x02], .octetString [0x63], .sequence [],
        .sequence [.tagged 3 (.integer keySize)]])) := by
  have hne : exampleDescription keySize ≠ Der.shortForm 0x04 (exampleDescription keySize) :=
    fun h => absurd (List.cons.inj h).1 (by decide)
  simp only [examplePlatform, if_neg hne, if_true]

theorem hasDescription_example (keySize : Bytes) :
    HasDescription (examplePlatform keySize) () [.integer [0x02], .octetString [0x63],
      .sequence [], .sequence [.tagged 3 (.integer keySize)]] :=
  ⟨_, _, getExtensionValue_example keySize, readObject_extension_example keySize,
    readObject_description_example keySize⟩

theorem Parse_example {keySize : Bytes} {v : Int32}
    (h : X509ExtensionParsingUtil.getInt (some (.integer keySize)) = .ok v) :
    Parse (examplePlatform keySize) () = .ok (some (exampleAttestation v)) := by
  have hextension : extractExtensionValue (examplePlatform keySize) () KEY_DESCRIPTION_OID =
      .ok (some (exampleDescription keySize)) := by
    rw [extractExtensionValue, getExtensionValue_example]
    change getAsn1Object _ (Der.shortForm 0x04 (exampleDescription keySize)) >>= _ = _
    rw [getAsn1Object, readObject_extension_example]
    rfl
  have hdescription : getKeyDescriptionSequence (examplePlatform keySize)
      (exampleDescription keySize) = .ok [.integer [0x02], .octetString [0x63], .sequence [],
        .sequence [.tagged 3 (.integer keySize)]] := by
    rw [getKeyDescriptionSequence, getAsn1Object, readObject_description_example]
    rfl
  have hversion : getKeymasterVersion [.integer [0x02], .octetString [0x63], .sequence [],
      .sequence [.tagged 3 (.integer keySize)]] = .ok 2 := by
    change X509ExtensionParsingUtil.getInt (some (.integer [0x02])) = _
    rw [X509ExtensionParsingUtil.getInt, getNumber_integer, if_pos (by decide)]
    rfl
  have htee : extractAuthorizationList [.tagged 3 (.integer keySize)] =
      .ok ⟨none, none, some v, none⟩ := by
    have hkeySize : getKeySize [(3, .integer keySize)] = .ok (some v) := by
      change X509ExtensionParsingUtil.getInt (some (.integer keySize)) >>= _ = _
      rw [h]
      rfl
    change getKeySize [(3, .integer keySize)] >>= _ = _
    rw [hkeySize]
    rfl
  rw [Parse, hextension, Except.ok_bind]
  dsimp only
  rw [hdescription, Except.ok_bind, hversion, Except.ok_bind]
  change extractAuthorizationList [.tagged 3 (.integer keySize)] >>= _ = _
  rw [htee]
  rfl

/-! ### When the values are kept -/

/-- **Integers are read with their value exactly if they are neither negative and short, nor in the
upper half of the range**, and what is returned for a certificate has its values exactly if that
holds of the version and the key sizes, and no algorithm is -128. -/
theorem reads_values_iff (content : Bytes) {Cert : Type} (P : Asn1Platform Cert) (cert : Cert)
    (attestation : AndroidKeyStoreAttestation) :
    (Reads ((X509ExtensionParsingUtil.getInt (some (.integer content))).map Int32.toInt)
      (Der.signed content) ↔ Der.KeepsValue 4 content) ∧
    (Reads ((X509ExtensionParsingUtil.getLong (some (.integer content))).map Int64.toInt)
      (Der.signed content) ↔ Der.KeepsValue 8 content) ∧
    (Parse P cert = .ok (some attestation) →
      (Holds P cert attestation ↔
        ∀ elements, HasDescription P cert elements → DescriptionKeepsValues elements)) :=
  ⟨getInt_reads_iff content, getLong_reads_iff content, holds_iff⟩

/-- A key size of 256 bits is kept. -/
theorem holds_key_size_256 :
    Holds (examplePlatform [0x01, 0x00]) () (exampleAttestation 256) := by
  have hkeySize : X509ExtensionParsingUtil.getInt (some (.integer [0x01, 0x00])) = .ok 256 := by
    rw [X509ExtensionParsingUtil.getInt, getNumber_integer, if_pos (by decide)]
    rfl
  refine ((reads_values_iff [0x01, 0x00] _ () _).2.2 (Parse_example hkeySize)).2 fun elements h => ?_
  obtain rfl := h.unique (hasDescription_example _)
  have hsigned : Der.signed [0x01, 0x00] = 256 := rfl
  have hversion : Der.signed [0x02] = 2 := rfl
  refine ⟨⟨fun h => ?_, fun _ => .inl ?_⟩, ⟨nofun, nofun⟩, nofun, fun content hcontent => ?_⟩
  · rw [hversion] at h
    exact absurd h (by decide)
  · rw [hversion]
    decide
  · cases hcontent
    refine ⟨fun h => ?_, fun _ => .inl ?_⟩
    · rw [hsigned] at h
      exact absurd h (by decide)
    · rw [hsigned]
      decide

/-- A single byte below zero is read as a positive number, and a key size of `2 ^ 31`, which the
format allows, is returned as a negative one. -/
theorem not_reads_values :
    ¬Reads ((X509ExtensionParsingUtil.getInt (some (.integer [0xff]))).map Int32.toInt)
        (Der.signed [0xff]) ∧
      ¬Reads ((X509ExtensionParsingUtil.getLong (some (.integer [0xff]))).map Int64.toInt)
        (Der.signed [0xff]) ∧
      Parse (examplePlatform [0x00, 0x80, 0x00, 0x00, 0x00]) () =
        .ok (some (exampleAttestation (-0x80000000))) ∧
      ¬Holds (examplePlatform [0x00, 0x80, 0x00, 0x00, 0x00]) ()
        (exampleAttestation (-0x80000000)) := by
  have hbyte : Der.signed [0xff] = -1 := rfl
  have hupper : Der.signed [0x00, 0x80, 0x00, 0x00, 0x00] = 0x80000000 := rfl
  have hkeySize : X509ExtensionParsingUtil.getInt
      (some (.integer [0x00, 0x80, 0x00, 0x00, 0x00])) = .ok (-0x80000000) := by
    rw [X509ExtensionParsingUtil.getInt, getNumber_integer, if_pos (by decide)]
    rfl
  refine ⟨fun h => ?_, fun h => ?_, Parse_example hkeySize, fun h => ?_⟩
  · have hlength := ((getInt_reads_iff _).1 h).1 (by rw [hbyte]; decide)
    exact absurd hlength (by decide)
  · have hlength := ((getLong_reads_iff _).1 h).1 (by rw [hbyte]; decide)
    exact absurd hlength (by decide)
  · have hkeeps := (holds_iff (Parse_example hkeySize)).1 h _ (hasDescription_example _)
    have hrange := (hkeeps.2.2.2 _ rfl).2 (by rw [hupper]; decide)
    rw [hupper] at hrange
    exact absurd hrange (by decide)

end AndroidKeyStoreAttestation

end U2F
