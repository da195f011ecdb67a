/-
**The laws of equality.**

The stored values of two classes define `equals`: the authorization lists of an Android key, and the
registered keys.  Both compare lists as sets.  An object that is used as a key in a hash table must
have the hash code of every object that it equals, and equal objects should agree in all their data.

Main definitions:

* `AuthorizationList.Same`, `SecurityKeyData.SameButCounter` — what `equals` compares;
* `AuthorizationList.SameWeights` — every element of a list contributes the same to the hash codes.

Main results:

* `AuthorizationList.equals_iff`, `SecurityKeyData.equals_iff` — what `equals` decides;
* `AuthorizationList.Same.forall_hashCode_eq_iff` — when the hash codes of equal lists are equal;
* `equality_laws` — **both are equivalence relations; equal authorization lists have the same hash
  code exactly if their elements have the same weights, and equal registered keys agree exactly if
  their counters do**.
-/

import Mathlib.Data.Finset.Dedup
import U2F.Server.AuthorizationList
import U2F.Server.Data

set_option relaxedAutoImplicit false
set_option autoImplicit false

namespace U2F

/-- Two lists contain each other if they are the same set. -/
theorem all_mem_and_all_mem_iff {T : Type} [DecidableEq T] (l l' : List T) :
    (l'.all (· ∈ l) && l.all (· ∈ l')) = true ↔ l.toFinset = l'.toFinset := by
  simp only [Bool.and_eq_true, List.all_eq_true, decide_eq_true_eq, Finset.ext_iff,
    List.mem_toFinset]
  constructor
  · exact fun h x => ⟨h.2 x, h.1 x⟩
  · exact fun h => ⟨fun x => (h x).2, fun x => (h x).1⟩

/-! ### Authorization lists -/

namespace AuthorizationList

theorem areEqualIgnoringOrder_iff {T : Type} [DecidableEq T] {l l' : Option (List T)} :
    areEqualIgnoringOrder l l' = true ↔ l.map List.toFinset = l'.map List.toFinset := by
  cases l with
  | none => cases l' <;> simp [areEqualIgnoringOrder]
  | some l =>
      cases l' with
      | none => simp [areEqualIgnoringOrder]
      | some l' => simpa [areEqualIgnoringOrder] using all_mem_and_all_mem_iff l l'

/-- The same algorithm and key size, and the same sets of purposes and of block modes. -/
structure Same (a b : AuthorizationList) : Prop where
  algorithm : a.algorithm = b.algorithm
  purposes : a.purposeList.map List.toFinset = b.purposeList.map List.toFinset
  keySize : a.keySize = b.keySize
  blockModes : a.blockModeList.map List.toFinset = b.blockModeList.map List.toFinset

theorem equals_iff {a b : AuthorizationList} : a.equals b = true ↔ a.Same b := by
  simp only [equals, Bool.and_eq_true, decide_eq_true_eq, areEqualIgnoringOrder_iff]
  constructor
  · rintro ⟨⟨⟨halgorithm, hpurposes⟩, hkeySize⟩, hmodes⟩
    exact ⟨halgorithm, hpurposes, hkeySize, hmodes⟩
  · rintro ⟨halgorithm, hpurposes, hkeySize, hmodes⟩
    exact ⟨⟨⟨halgorithm, hpurposes⟩, hkeySize⟩, hmodes⟩

theorem same_equivalence : Equivalence Same where
  refl _ := ⟨rfl, rfl, rfl, rfl⟩
  symm h := ⟨h.1.symm, h.2.symm, h.3.symm, h.4.symm⟩
  trans h h' := ⟨h.1.trans h'.1, h.2.trans h'.2, h.3.trans h'.3, h.4.trans h'.4⟩

/-- The sum, over the occurrences of an element in a list, of 31 to the number of the elements after
it.  A list that is null has none. -/
def weightIn {T : Type} [DecidableEq T] (e : T) : Option (List T) → BitVec 32
  | none => 0
  | some l => PolynomialHash.weight 31 e l

/-- Every purpose and every block mode has the same weight in both lists. -/
structure SameWeights (a b : AuthorizationList) : Prop where
  purposes : ∀ e, weightIn e a.purposeList = weightIn e b.purposeList
  blockModes : ∀ e, weightIn e a.blockModeList = weightIn e b.blockModeList

theorem isUnit_31 : IsUnit (31 : BitVec 32) := IsUnit.of_mul_eq_one 3186588639 (by decide)

/-- The hash code of the purposes has a factor; the rest of the hash code is added. -/
def otherHashCode (algorithm : Algorithm → BitVec 32) (a : AuthorizationList) : BitVec 32 :=
  31 ^ 4 + 31 ^ 2 * hashCodeOf algorithm a.algorithm + 31 * hashCodeOf Int32.toBitVec a.keySize

theorem hashCode_eq (purpose : Purpose → BitVec 32) (algorithm : Algorithm → BitVec 32)
    (blockMode : BlockMode → BitVec 32) (a : AuthorizationList) :
    a.hashCode ⟨purpose, algorithm, blockMode⟩ =
      31 ^ 3 * hashCodeOf (listHashCode purpose) a.purposeList +
        (otherHashCode algorithm a + hashCodeOf (listHashCode blockMode) a.blockModeList) := by
  simp only [hashCode, objectsHash, listHashCode, PolynomialHash.hash, List.foldl_cons,
    List.foldl_nil, id, otherHashCode]
  ring

theorem Same.otherHashCode_eq {a b : AuthorizationList} (h : a.Same b)
    (algorithm : Algorithm → BitVec 32) : otherHashCode algorithm a = otherHashCode algorithm b := by
  rw [otherHashCode, otherHashCode, h.algorithm, h.keySize]

/-- The hash codes of two lists, as a part of others, are equal for all hash codes of the elements
if the weights of the elements are. -/
theorem forall_listHashCode_iff {T : Type} [DecidableEq T] {l l' : Option (List T)}
    (h : l.map List.toFinset = l'.map List.toFinset) {c : BitVec 32} (hc : IsUnit c)
    (d d' : BitVec 32) :
    (∀ f : T → BitVec 32,
        c * hashCodeOf (listHashCode f) l + d = c * hashCodeOf (listHashCode f) l' + d') ↔
      (∀ e, weightIn e l = weightIn e l') ∧ d = d' := by
  cases l with
  | none =>
      cases l' with
      | none =>
          constructor
          · exact fun hall => ⟨fun _ => rfl, add_left_cancel (hall fun _ => 0)⟩
          · rintro ⟨-, rfl⟩ f
            rfl
      | some l' => cases h
  | some l =>
      cases l' with
      | none => cases h
      | some l' => exact PolynomialHash.forall_hash_eq_iff hc

/-- The hash codes of two lists that equal each other are the same, whatever those of the
enumerators are, exactly if the weights are. -/
theorem Same.forall_hashCode_eq_iff {a b : AuthorizationList} (h : a.Same b) :
    (∀ H, a.hashCode H = b.hashCode H) ↔ a.SameWeights b := by
  constructor
  · intro hall
    -- for any hash codes of the block modes, vary those of the purposes
    have hfirst (f : BlockMode → BitVec 32) :
        (∀ e, weightIn e a.purposeList = weightIn e b.purposeList) ∧
          otherHashCode (fun _ => 0) a + hashCodeOf (listHashCode f) a.blockModeList =
            otherHashCode (fun _ => 0) b + hashCodeOf (listHashCode f) b.blockModeList := by
      refine (forall_listHashCode_iff h.purposes (isUnit_31.pow 3) _ _).1 fun g => ?_
      have heq := hall ⟨g, fun _ => 0, f⟩
      rw [hashCode_eq, hashCode_eq] at heq
      exact heq
    have hmodes := (forall_listHashCode_iff h.blockModes isUnit_one 0 0).1 fun f => by
      have heq := (hfirst f).2
      rw [h.otherHashCode_eq] at heq
      rw [one_mul, one_mul, add_left_cancel heq]
    exact ⟨(hfirst fun _ => 0).1, hmodes.1⟩
  · rintro ⟨hpurposes, hmodes⟩ ⟨purpose, algorithm, blockMode⟩
    have hpurpose := (forall_listHashCode_iff h.purposes isUnit_one 0 0).2 ⟨hpurposes, rfl⟩ purpose
    have hmode := (forall_listHashCode_iff h.blockModes isUnit_one 0 0).2 ⟨hmodes, rfl⟩ blockMode
    rw [one_mul, one_mul] at hpurpose hmode
    rw [hashCode_eq, hashCode_eq, h.otherHashCode_eq, add_right_cancel hpurpose,
      add_right_cancel hmode]

end AuthorizationList

/-! ### Registered keys -/

namespace SecurityKeyData

variable {Cert : Type}

theorem containSameTransports_iff {ts ts' : Option (List Transports)} :
    containSameTransports ts ts' = true ↔ ts.map List.toFinset = ts'.map List.toFinset := by
  cases ts with
  | none => cases ts' <;> simp [containSameTransports]
  | some ts =>
      cases ts' with
      | none => simp [containSameTransports]
      | some ts' =>
          simpa [containSameTransports] using all_mem_and_all_mem_iff ts ts'

/-- The same key handle, public key, time, certificate and set of transports. -/
structure SameButCounter (k k' : SecurityKeyData Cert) : Prop where
  keyHandle : k.keyHandle = k'.keyHandle
  publicKey : k.publicKey = k'.publicKey
  enrollmentTime : k.enrollmentTime = k'.enrollmentTime
  attestationCert : k.attestationCert = k'.attestationCert
  transports : k.transports.map List.toFinset = k'.transports.map List.toFinset

theorem equals_iff [DecidableEq Cert] {k k' : SecurityKeyData Cert} :
    k.equals k' = true ↔ k.SameButCounter k' := by
  simp only [equals, Bool.and_eq_true, decide_eq_true_eq, containSameTransports_iff]
  constructor
  · rintro ⟨⟨⟨⟨hkeyHandle, htime⟩, htransports⟩, hpublicKey⟩, hcert⟩
    exact ⟨hkeyHandle, hpublicKey, htime, hcert, htransports⟩
  · rintro ⟨hkeyHandle, hpublicKey, htime, hcert, htransports⟩
    exact ⟨⟨⟨⟨hkeyHandle, htime⟩, htransports⟩, hpublicKey⟩, hcert⟩

theorem sameButCounter_equivalence : Equivalence (@SameButCounter Cert) where
  refl _ := ⟨rfl, rfl, rfl, rfl, rfl⟩
  symm h := ⟨h.1.symm, h.2.symm, h.3.symm, h.4.symm, h.5.symm⟩
  trans h h' := ⟨h.1.trans h'.1, h.2.trans h'.2, h.3.trans h'.3, h.4.trans h'.4, h.5.trans h'.5⟩

end SecurityKeyData

/-! ### The laws -/

/-- **Both are equivalence relations; authorization lists that equal each other have the same hash
code, whatever the hash codes of the enumerators are, exactly if their elements have the same
weights, and registered keys that equal each other agree exactly if their counters do.** -/
theorem equality_laws (Cert : Type) [DecidableEq Cert] :
    (∀ a b : AuthorizationList,
      (∀ H, a.equals b = true → a.hashCode H = b.hashCode H) ↔ (a.Same b → a.SameWeights b)) ∧
    (∀ k k' : SecurityKeyData Cert,
      (k.equals k' = true → k.SameButCounter k' ∧ k.counter = k'.counter) ↔
        (k.SameButCounter k' → k.counter = k'.counter)) ∧
    Equivalence (fun a b : AuthorizationList => a.equals b = true) ∧
    Equivalence fun k k' : SecurityKeyData Cert => k.equals k' = true := by
  simp only [AuthorizationList.equals_iff, SecurityKeyData.equals_iff]
  refine ⟨fun a b => ?_, fun k k' => ?_, AuthorizationList.same_equivalence,
    SecurityKeyData.sameButCounter_equivalence⟩
  · constructor
    · exact fun hall hsame => hsame.forall_hashCode_eq_iff.1 fun H => hall H hsame
    · exact fun hw H hsame => hsame.forall_hashCode_eq_iff.2 (hw hsame) H
  · exact ⟨fun h hsame => (h hsame).2, fun h hsame => ⟨hsame, h hsame⟩⟩

/-- Two purposes in the other order, and two keys with different counters. -/
theorem not_equality_laws :
    (∃ (H : AuthorizationList.EnumHashes) (a b : AuthorizationList),
      a = ⟨some [.KM_PURPOSE_SIGN, .KM_PURPOSE_VERIFY], none, none, none⟩ ∧
      b = ⟨some [.KM_PURPOSE_VERIFY, .KM_PURPOSE_SIGN], none, none, none⟩ ∧
      a.equals b = true ∧ a.hashCode H ≠ b.hashCode H) ∧
    ∃ k k' : SecurityKeyData Unit,
      k = ⟨0, none, [], [], (), 1⟩ ∧ k' = ⟨0, none, [], [], (), 2⟩ ∧
      k.equals k' = true ∧ k.counter ≠ k'.counter := by
  refine ⟨⟨⟨fun p => if p = .KM_PURPOSE_SIGN then 1 else 0, fun _ => 0, fun _ => 0⟩, _, _, rfl, rfl,
    by decide, by decide⟩, _, _, rfl, rfl, by decide, by decide⟩

end U2F
