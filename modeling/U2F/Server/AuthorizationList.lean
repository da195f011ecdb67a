/-
**The authorizations of an Android key.**

An authorization list says what a key in the Android key store may be used for.  The values of its
enumerations are the numbers of the key master, by which a certificate names them.

Main definitions:

* `Purpose`, `Algorithm`, `BlockMode` — the enumerations, with `getValue` and `fromValue`;
* `AuthorizationList` — an authorization list, with `equals` and `hashCode`.

Main results:

* `getValue_of_enumFromValue` — an enumerator is found by its number only.
-/

import Mathlib.Data.BitVec
import U2F.Java.Platform
import U2F.Lib.PolynomialHash

set_option relaxedAutoImplicit false
set_option autoImplicit false

namespace U2F

/-! ### Enumerations of the key master -/

/-- The enumerator with a value; `message` is the beginning of the message if there is none. -/
def enumFromValue {T : Type} (values : List T) (getValue : T → Int32) (message : String)
    (value : Int32) : Except Throwable T :=
  orThrow (values.find? (getValue · = value))
    (.certificateParsingException (message ++ toString value.toInt))

inductive Purpose
  | KM_PURPOSE_ENCRYPT
  | KM_PURPOSE_DECRYPT
  | KM_PURPOSE_SIGN
  | KM_PURPOSE_VERIFY
  deriving DecidableEq

namespace Purpose

def values : List Purpose :=
  [KM_PURPOSE_ENCRYPT, KM_PURPOSE_DECRYPT, KM_PURPOSE_SIGN, KM_PURPOSE_VERIFY]

def getValue : Purpose → Int32
  | KM_PURPOSE_ENCRYPT => 0
  | KM_PURPOSE_DECRYPT => 1
  | KM_PURPOSE_SIGN => 2
  | KM_PURPOSE_VERIFY => 3

def fromValue : Int32 → Except Throwable Purpose :=
  enumFromValue values getValue "Invalid purpose value: "

end Purpose

inductive Algorithm
  | KM_ALGORITHM_RSA
  | KM_ALGORITHM_EC
  | KM_ALGORITHM_AES
  | KM_ALGORITHM_HMAC
  deriving DecidableEq

namespace Algorithm

def values : List Algorithm :=
  [KM_ALGORITHM_RSA, KM_ALGORITHM_EC, KM_ALGORITHM_AES, KM_ALGORITHM_HMAC]

def getValue : Algorithm → Int32
  | KM_ALGORITHM_RSA => 1
  | KM_ALGORITHM_EC => 3
  | KM_ALGORITHM_AES => 32
  | KM_ALGORITHM_HMAC => 128

def fromValue : Int32 → Except Throwable Algorithm :=
  enumFromValue values getValue "Invalid algorithm value: "

end Algorithm

inductive BlockMode
  | KM_MODE_ECB
  | KM_MODE_CBC
  | KM_MODE_CTR
  | KM_MODE_GCM
  deriving DecidableEq

namespace BlockMode

def values : List BlockMode := [KM_MODE_ECB, KM_MODE_CBC, KM_MODE_CTR, KM_MODE_GCM]

def getValue : BlockMode → Int32
  | KM_MODE_ECB => 1
  | KM_MODE_CBC => 2
  | KM_MODE_CTR => 3
  | KM_MODE_GCM => 32

def fromValue : Int32 → Except Throwable BlockMode :=
  enumFromValue values getValue "Invalid block mode value: "

end BlockMode

theorem getValue_of_enumFromValue {T : Type} {values : List T} {getValue : T → Int32}
    {message : String} {value : Int32} {e : T}
    (h : enumFromValue values getValue message value = .ok e) : getValue e = value := by
  rw [enumFromValue, orThrow_eq_ok_iff] at h
  simpa using List.find?_some h

/-! ### The list -/

/-- Any of the four can be null. -/
structure AuthorizationList where
  purposeList : Option (List Purpose)
  algorithm : Option Algorithm
  keySize : Option Int32
  blockModeList : Option (List BlockMode)
  deriving DecidableEq

namespace AuthorizationList

/-! ### Equality and hash code -/

/-- The hash codes of the enumerators, which are different in each run of a Java machine. -/
structure EnumHashes where
  purpose : Purpose → BitVec 32
  algorithm : Algorithm → BitVec 32
  blockMode : BlockMode → BitVec 32

/-- The hash code of a reference, which is zero for null. -/
def hashCodeOf {T : Type} (hashCode : T → BitVec 32) : Option T → BitVec 32
  | none => 0
  | some x => hashCode x

/-- `List.hashCode` -/
def listHashCode {T : Type} (hashCode : T → BitVec 32) : List T → BitVec 32 :=
  PolynomialHash.hash 31 hashCode

/-- `Objects.hash` is the hash code of the list of the hash codes. -/
def objectsHash : List (BitVec 32) → BitVec 32 := listHashCode id

def hashCode (H : EnumHashes) (list : AuthorizationList) : BitVec 32 :=
  objectsHash [
    hashCodeOf (listHashCode H.purpose) list.purposeList,
    hashCodeOf H.algorithm list.algorithm,
    hashCodeOf Int32.toBitVec list.keySize,
    hashCodeOf (listHashCode H.blockMode) list.blockModeList]

def areEqualIgnoringOrder {T : Type} [DecidableEq T] : Option (List T) → Option (List T) → Bool
  | some list1, some list2 => list2.all (· ∈ list1) && list1.all (· ∈ list2)
  | list1, list2 => list1.isNone && list2.isNone

/-- `equals`, for another authorization list. -/
def equals (list other : AuthorizationList) : Bool :=
  list.algorithm = other.algorithm &&
    areEqualIgnoringOrder list.purposeList other.purposeList &&
    list.keySize = other.keySize &&
    areEqualIgnoringOrder list.blockModeList other.blockModeList

end AuthorizationList

end U2F
