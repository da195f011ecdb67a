/-
**The sign command of a gnubby.**

`gnubby-u2f.js` lays out the sign command of a gnubby by hand, in a typed array: seven bytes of
header and length, the two hashes, the key handle, and two bytes for the length of the answer.  Of
the length of the data one byte is stored.

Main definitions:

* `Gnubby.signApdu`, `Gnubby.sign` — the command, and what is done with the version of the gnubby;
* `Gnubby.SignsWellFormed` — the command is one APDU with the data of an authenticate request.

Main results:

* `Gnubby.signApdu_eq` — the bytes of the command;
* `Gnubby.signsWellFormed_iff` — **the command of a U2F_V2 gnubby is well formed exactly if its key
  handle has at most 190 bytes**.
-/

import U2F.Codec.Layouts
import U2F.Extension.SingleSigner
import U2F.Lib.CommandApdu
import U2F.Lib.TypedArray

set_option relaxedAutoImplicit false
set_option autoImplicit false

namespace U2F

namespace Gnubby

open TypedArray

def U2F_SIGN : ℕ := 0x02

def P1_TUP_REQUIRED : ℕ := 0x01

def P1_TUP_CONSUME : ℕ := 0x02

def P1_TUP_TESTONLY : ℕ := 0x04

def U2F_V1 : JSString := js "U2F_V1"

def U2F_V2 : JSString := js "U2F_V2"

/-! ### The command -/

/-- The header of the sign command and the length of its data. -/
def signHeader (apduDataLen : ℕ) (nowink : Bool) : List UInt8 :=
  let apdu := [0x00, U2F_SIGN, P1_TUP_REQUIRED ||| P1_TUP_CONSUME, 0x00, 0x00, 0x00,
    apduDataLen].map UInt8.ofNat
  if nowink then put apdu 2 ((apdu.getD 2 0).toNat ||| P1_TUP_TESTONLY) else apdu

/-- The sign command.  That of version 2 includes a length byte for the key handle. -/
def signApdu (version : JSString) (challengeHash appIdHash keyHandle : List UInt8)
    (nowink : Bool) : List UInt8 :=
  let apduDataLen := challengeHash.length + appIdHash.length + keyHandle.length
  let apduDataLen := if version ≠ U2F_V1 then apduDataLen + 1 else apduDataLen
  let apdu := signHeader apduDataLen nowink
  let u8 := TypedArray.new (apdu.length + apduDataLen + 2)
  let u8 := write u8 0 apdu
  let u8 := write u8 apdu.length challengeHash
  let u8 := write u8 (apdu.length + challengeHash.length) appIdHash
  let keyHandleOffset := apdu.length + challengeHash.length + appIdHash.length
  if version ≠ U2F_V1 then
    write (put u8 keyHandleOffset keyHandle.length) (keyHandleOffset + 1) keyHandle
  else write u8 keyHandleOffset keyHandle

/-- Request signature: what is done when the gnubby has told its version, or has failed to.  It is
given the command, or the caller is given the error. -/
def sign (challengeHash appIdHash keyHandle : List UInt8) (nowink : Bool) (rc : ℤ)
    (data : Option (List UInt8)) : Except ℤ (List UInt8) :=
  if rc ≠ 0 then .error rc
  else
    .ok (signApdu (UTIL_BytesToString (data.getD [])) challengeHash appIdHash keyHandle nowink)

/-! ### The bytes of the command -/

/-- The data of the sign command. -/
def signData (version : JSString) (challengeHash appIdHash keyHandle : List UInt8) : List UInt8 :=
  challengeHash ++ appIdHash ++
    (if version ≠ U2F_V1 then [UInt8.ofNat keyHandle.length] else []) ++ keyHandle

theorem signHeader_eq (apduDataLen : ℕ) (nowink : Bool) :
    signHeader apduDataLen nowink =
      [0x00, 0x02, if nowink then 0x07 else 0x03, 0x00, 0x00, 0x00, UInt8.ofNat apduDataLen] := by
  cases nowink
  · rfl
  · simp [signHeader, put, U2F_SIGN, P1_TUP_REQUIRED, P1_TUP_CONSUME, P1_TUP_TESTONLY]

/-- The header and the hashes are written one after the other. -/
theorem filled_hashes (apdu challengeHash appIdHash : List UInt8) (length : ℕ)
    (hroom : apdu.length + challengeHash.length + appIdHash.length ≤ length) :
    Filled (write (write (write (TypedArray.new length) 0 apdu) apdu.length challengeHash)
        (apdu.length + challengeHash.length) appIdHash)
      (apdu ++ challengeHash ++ appIdHash) length := by
  have h₀ := (Filled.new length).write apdu 0 rfl (by simp; omega)
  have h₁ := h₀.write challengeHash apdu.length rfl (by simp; omega)
  have h₂ := h₁.write appIdHash (apdu.length + challengeHash.length) (by grind) (by grind)
  rwa [List.nil_append] at h₂

/-- An array that is filled but for two bytes ends in zeros. -/
theorem eq_of_filled_but_two {array front : List UInt8} {length : ℕ} (h : Filled array front length)
    (hlength : length = front.length + 2) : array = front ++ [0, 0] := by
  rw [h.eq, hlength, Nat.add_sub_cancel_left]
  rfl

/-- **The bytes of the command**: the header, the length of the data in one byte, the data, and two
zeros. -/
theorem signApdu_eq (version : JSString) (challengeHash appIdHash keyHandle : List UInt8)
    (nowink : Bool) :
    signApdu version challengeHash appIdHash keyHandle nowink =
      signHeader (signData version challengeHash appIdHash keyHandle).length nowink ++
        signData version challengeHash appIdHash keyHandle ++ [0, 0] := by
  unfold signApdu signData
  by_cases hversion : version ≠ U2F_V1
  · simp only [if_pos hversion]
    have hlength : (challengeHash ++ appIdHash ++ [UInt8.ofNat keyHandle.length] ++
        keyHandle).length = challengeHash.length + appIdHash.length + keyHandle.length + 1 := by
      simp
      omega
    rw [hlength]
    generalize signHeader _ nowink = apdu
    have h₃ := filled_hashes apdu challengeHash appIdHash
      (apdu.length + (challengeHash.length + appIdHash.length + keyHandle.length + 1) + 2) (by omega)
    have h₄ := h₃.put (apdu.length + challengeHash.length + appIdHash.length) keyHandle.length
      (by grind) (by grind)
    have h₅ := h₄.write keyHandle (apdu.length + challengeHash.length + appIdHash.length + 1)
      (by grind) (by grind)
    rw [eq_of_filled_but_two h₅ (by grind)]
    simp
  · simp only [if_neg hversion]
    have hlength : (challengeHash ++ appIdHash ++ [] ++ keyHandle).length =
        challengeHash.length + appIdHash.length + keyHandle.length := by
      simp
      omega
    rw [hlength]
    generalize signHeader _ nowink = apdu
    have h₃ := filled_hashes apdu challengeHash appIdHash
      (apdu.length + (challengeHash.length + appIdHash.length + keyHandle.length) + 2)
      (by omega)
    have h₄ := h₃.write keyHandle (apdu.length + challengeHash.length + appIdHash.length)
      (by grind) (by grind)
    rw [eq_of_filled_but_two h₄ (by grind)]
    simp

/-! ### Well-formed commands -/

/-- The command that a gnubby which tells version U2F_V2 is sent is one APDU of extended length, and
its data is what an authenticate request is encoded to after the control byte. -/
def SignsWellFormed (challengeHash appIdHash keyHandle : List UInt8) (nowink : Bool) : Prop :=
  ∃ request apdu,
    sign challengeHash appIdHash keyHandle nowink 0 (some (U2F_V2.map UInt16.toUInt8)) =
      .ok request ∧
    CommandApdu.parseExtended request = some apdu ∧
    apdu.data = challengeHash ++ appIdHash ++ UInt8.ofNat keyHandle.length :: keyHandle ∧
    ∀ control, RawMessageCodec.encodeAuthenticateRequest
      ⟨control, challengeHash, appIdHash, keyHandle⟩ = .ok (control :: apdu.data)

/-- One byte holds the length of the data exactly if it is below 256. -/
theorem extendedLength_ofNat (n : ℕ) :
    CommandApdu.extendedLength 0 (UInt8.ofNat n) = n ↔ n < 256 := by
  have hmod : (UInt8.ofNat n).toNat = n % 256 := by simp
  rw [CommandApdu.extendedLength, hmod]
  constructor
  · intro h
    have hlt := Nat.mod_lt n (by decide : 0 < 256)
    simp at h
    omega
  · intro h
    simp [Nat.mod_eq_of_lt h]

/-- **The command is well formed exactly if the key handle has at most 190 bytes.** -/
theorem signsWellFormed_iff {challengeHash appIdHash keyHandle : List UInt8} (nowink : Bool)
    (hchallenge : challengeHash.length = 32) (happId : appIdHash.length = 32)
    (hkeyHandle : keyHandle.length ≤ 255) :
    SignsWellFormed challengeHash appIdHash keyHandle nowink ↔ keyHandle.length ≤ 190 := by
  have hversion : UTIL_BytesToString (U2F_V2.map UInt16.toUInt8) = U2F_V2 := by decide
  have hdata : signData U2F_V2 challengeHash appIdHash keyHandle =
      challengeHash ++ appIdHash ++ UInt8.ofNat keyHandle.length :: keyHandle := by
    rw [signData, if_pos (by decide), List.append_assoc, List.singleton_append]
  have hencode : ∀ control, RawMessageCodec.encodeAuthenticateRequest
      ⟨control, challengeHash, appIdHash, keyHandle⟩ =
        .ok (control :: signData U2F_V2 challengeHash appIdHash keyHandle) := by
    intro control
    refine RawMessageCodec.encodeAuthenticateRequest_eq_ok_iff.2 ⟨hkeyHandle, ?_⟩
    rw [hdata]
    rfl
  have hlength : (signData U2F_V2 challengeHash appIdHash keyHandle).length =
      65 + keyHandle.length := by
    rw [hdata]
    simp [hchallenge, happId]
    omega
  have hne : signData U2F_V2 challengeHash appIdHash keyHandle ≠ [] := by
    rw [← List.length_pos_iff, hlength]
    omega
  have hparse := CommandApdu.parseExtended_data_iff 0x00 0x02 (if nowink then 0x07 else 0x03) 0x00
    0x00 (UInt8.ofNat (65 + keyHandle.length)) 0x00 0x00 hne
  have hsign : sign challengeHash appIdHash keyHandle nowink 0
      (some (U2F_V2.map UInt16.toUInt8)) = .ok (0x00 :: 0x02 :: (if nowink then 0x07 else 0x03) ::
        0x00 :: 0x00 :: 0x00 :: UInt8.ofNat (65 + keyHandle.length) ::
          (signData U2F_V2 challengeHash appIdHash keyHandle ++ [0x00, 0x00])) := by
    rw [sign, if_neg (by decide), Option.getD_some, hversion, signApdu_eq, signHeader_eq, hlength]
    rfl
  rw [hlength, extendedLength_ofNat] at hparse
  constructor
  · rintro ⟨request, apdu, hrequest, happdu, hapduData, -⟩
    rw [hsign, Except.ok.injEq] at hrequest
    subst hrequest
    have hshort := hparse.1 ⟨apdu, happdu, hapduData.trans hdata.symm⟩
    omega
  · intro hshort
    obtain ⟨apdu, happdu, hapduData⟩ := hparse.2 (by omega)
    exact ⟨_, apdu, hsign, happdu, hapduData.trans hdata,
      fun control => by rw [hapduData]; exact hencode control⟩

theorem signsWellFormed_190 :
    SignsWellFormed (List.replicate 32 1) (List.replicate 32 2) (List.replicate 190 3) false := by
  refine (signsWellFormed_iff false List.length_replicate List.length_replicate ?_).2 ?_
  · rw [List.length_replicate]
    decide
  · rw [List.length_replicate]

/-- **The command for a key handle of 191 bytes says that it has no data, and is no APDU.** -/
theorem not_signsWellFormed_191 :
    ¬ SignsWellFormed (List.replicate 32 1) (List.replicate 32 2) (List.replicate 191 3) false := by
  rintro ⟨request, apdu, hrequest, happdu, -⟩
  have hnone : (sign (List.replicate 32 1) (List.replicate 32 2) (List.replicate 191 3) false 0
      (some (U2F_V2.map UInt16.toUInt8))).toOption.bind CommandApdu.parseExtended = none := by
    decide +kernel
  rw [hrequest] at hnone
  exact Option.some_ne_none _ (happdu.symm.trans hnone)

end Gnubby

end U2F
