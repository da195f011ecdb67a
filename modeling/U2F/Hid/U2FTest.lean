/-
**The messages that the HID tests read and send.**

`test_Enroll` and `test_Sign` of `U2FTest.cc` copy the response of the key over a packed structure,
and take its parts out of it: of the registration the certificate and the signature stand behind the
key handle, one after the other, and `getCertificate` and `getSignature` find their ends by the
lengths in them.  They hash the bytes that the key has signed, piece by piece.

A failed check ends the program, as it does by default.  What stands for the elliptic curve and the hash
is a parameter.

Main definitions:

* `getCertificate`, `getSubjectPublicKey`, `getSignature` — the parts behind the key handle;
* `Mincrypt` — the elliptic curve and the hash;
* `test_Enroll`, `test_Sign` — what the two tests read and check, and the bytes that they hash;
* `signRequest` — the message that `test_Sign` sends.

Main results:

* `getCertificate_iff`, `getSubjectPublicKey_iff`, `getSignature_iff` — when what has been laid out is
  found;
* `agrees_with_key` — **what the key encodes is read, and what is read is sent back so that the key
  decodes it**, under conditions that are exact: on the lengths, on the certificate, and that the
  signatures verify.
-/

import Mathlib.Data.List.GetD
import U2F.Codec.Layouts
import U2F.Hid.U2FobApdu
import U2F.Lib.Der
import U2F.Lib.Sha256
import U2F.Server.TestVectors

set_option relaxedAutoImplicit false
set_option autoImplicit false

namespace U2F.Hid

/-! ### The structures -/

def P256_SCALAR_SIZE : ℕ := 32

def P256_POINT_SIZE : ℕ := P256_SCALAR_SIZE * 2 + 1

def MAX_ECDSA_SIG_SIZE : ℕ := 72

def MAX_KH_SIZE : ℕ := 128

def MAX_CERT_SIZE : ℕ := 2048

def UNCOMPRESSED_POINT : UInt8 := 0x04

def U2F_REGISTER_ID : UInt8 := 0x05

def U2F_REGISTER_HASH_ID : UInt8 := 0x00

/-- `sizeof(rsp.keyHandleCertSig)` -/
def sizeofKeyHandleCertSig : ℕ := MAX_KH_SIZE + MAX_CERT_SIZE + MAX_ECDSA_SIG_SIZE

/-- `sizeof(U2F_REGISTER_RESP)` -/
def sizeofRegisterResp : ℕ := 1 + P256_POINT_SIZE + 1 + sizeofKeyHandleCertSig

/-- The bytes of the structure, which is packed. -/
abbrev U2F_REGISTER_RESP : Type := Buffer sizeofRegisterResp

namespace U2F_REGISTER_RESP

variable (rsp : U2F_REGISTER_RESP)

def registerId : UInt8 := rsp.get 0

def pubKey : List UInt8 := (rsp.bytes.drop 1).take P256_POINT_SIZE

def keyHandleLen : UInt8 := rsp.get (1 + P256_POINT_SIZE)

def keyHandleCertSig : List UInt8 := rsp.bytes.drop (1 + P256_POINT_SIZE + 1)

end U2F_REGISTER_RESP

/-! ### The code -/

/-- A check that ends the program if it fails. -/
def CHECK (p : Prop) [Decidable p] : Option Unit := if p then some () else none

/-- The certificate: a sequence whose length has one or two bytes after the first. -/
def getCertificate (rsp : U2F_REGISTER_RESP) : Option (List UInt8) := do
  let hkLen := rsp.keyHandleLen.toNat
  CHECK (64 ≤ hkLen)
  CHECK (hkLen < sizeofKeyHandleCertSig)
  let certOff := hkLen
  let certLen := sizeofKeyHandleCertSig - certOff
  let p := rsp.keyHandleCertSig.drop certOff
  CHECK (4 ≤ certLen)
  CHECK (p.getD 0 0 = 0x30)
  CHECK (0x81 ≤ p.getD 1 0)
  CHECK (p.getD 1 0 ≤ 0x82)
  let headerLen := if p.getD 1 0 = 0x81 then 3 else 4
  let seqLen := if p.getD 1 0 = 0x81 then (p.getD 2 0).toNat
    else (p.getD 2 0).toNat * 256 + (p.getD 3 0).toNat
  CHECK (seqLen ≤ certLen - headerLen)
  return p.take (seqLen + headerLen)

/-- The signature behind the certificate: a sequence whose length is read as one byte. -/
def getSignature (rsp : U2F_REGISTER_RESP) : Option (List UInt8) := do
  let cert ← getCertificate rsp
  let sigOff := rsp.keyHandleLen.toNat + cert.length
  CHECK (sigOff ≤ sizeofKeyHandleCertSig)
  let sigLen := sizeofKeyHandleCertSig - sigOff
  let p := rsp.keyHandleCertSig.drop sigOff
  CHECK (2 ≤ sigLen)
  CHECK (p.getD 0 0 = 0x30)
  let seqLen := (p.getD 1 0).toNat
  CHECK (seqLen ≤ sigLen - 2)
  return p.take (seqLen + 2)

/-- The value of a hexadecimal digit; anything else adds nothing. -/
def nibble (d : Char) : ℕ :=
  if '0' ≤ d ∧ d ≤ '9' then d.toNat - '0'.toNat
  else if 'A' ≤ d ∧ d ≤ 'F' then d.toNat - 'A'.toNat + 10
  else if 'a' ≤ d ∧ d ≤ 'f' then d.toNat - 'a'.toNat + 10
  else 0

/-- Two digits are one byte. -/
def a2b : List Char → List UInt8
  | d :: d' :: s => UInt8.ofNat (16 * nibble d + nibble d') :: a2b s
  | _ => []

/-- `s.find(t)`, where `none` is `npos`. -/
def find (s t : List UInt8) : Option ℕ :=
  (List.range (s.length + 1)).find? fun off => t.isPrefixOf (s.drop off)

/-- The lead-in sequence of a public key on the curve. -/
def pkStart : List UInt8 := a2b "3059301306072A8648CE3D020106082A8648CE3D030107034200".toList

theorem pkStart_eq : pkStart =
    [0x30, 0x59, 0x30, 0x13, 0x06, 0x07, 0x2a, 0x86, 0x48, 0xce, 0x3d, 0x02, 0x01,
     0x06, 0x08, 0x2a, 0x86, 0x48, 0xce, 0x3d, 0x03, 0x01, 0x07, 0x03, 0x42, 0x00] := by
  decide

/-- The public key that a certificate is about: what comes after the lead-in sequence. -/
def getSubjectPublicKey (cert : List UInt8) : Option (List UInt8) := do
  CHECK (P256_POINT_SIZE ≤ cert.length)
  let off ← find cert pkStart
  let off := off + pkStart.length
  CHECK (off ≤ cert.length - P256_POINT_SIZE)
  return (cert.drop off).take P256_POINT_SIZE

/-- What the tests use of the library for the curve: its integers, how they are read of 32 bytes and of
a signature, the check of a signature, and the hash of all that it is updated with. -/
structure Mincrypt where
  p256_int : Type
  p256_from_bin : List UInt8 → p256_int
  dsa_sig_unpack : List UInt8 → Option (p256_int × p256_int)
  SHA256 : List UInt8 → List UInt8
  p256_ecdsa_verify : p256_int → p256_int → p256_int → p256_int → p256_int → Bool

namespace Mincrypt

variable (M : Mincrypt)

/-- The coordinates of a point, behind its format. -/
def pk_x (pk : List UInt8) : M.p256_int := M.p256_from_bin ((pk.drop 1).take P256_SCALAR_SIZE)

def pk_y (pk : List UInt8) : M.p256_int :=
  M.p256_from_bin ((pk.drop (1 + P256_SCALAR_SIZE)).take P256_SCALAR_SIZE)

end Mincrypt

/-- What a test has read: the parts of the response, and the bytes that it hashes. -/
structure Enrolled where
  regRsp : U2F_REGISTER_RESP
  cert : List UInt8
  pk : List UInt8
  sig : List UInt8
  hashed : List UInt8

/-- `test_Enroll`, from the response on, which is copied over what is there. -/
def test_Enroll (M : Mincrypt) (appId nonce : List UInt8) (regRsp : U2F_REGISTER_RESP)
    (rsp : List UInt8) : Option Enrolled := do
  CHECK (rsp ≠ [])
  CHECK (rsp.length ≤ sizeofRegisterResp)
  let regRsp : U2F_REGISTER_RESP ← regRsp.write 0 rsp
  CHECK (regRsp.registerId = U2F_REGISTER_ID)
  CHECK (regRsp.pubKey.getD 0 0 = UNCOMPRESSED_POINT)
  let cert ← getCertificate regRsp
  let pk ← getSubjectPublicKey cert
  let sig ← getSignature regRsp
  let (sig_r, sig_s) ← M.dsa_sig_unpack sig
  let hashed := [U2F_REGISTER_HASH_ID] ++ appId ++ nonce ++
    regRsp.keyHandleCertSig.take regRsp.keyHandleLen.toNat ++ regRsp.pubKey
  let h := M.p256_from_bin (M.SHA256 hashed)
  CHECK (pk.length = P256_POINT_SIZE)
  CHECK (M.p256_ecdsa_verify (M.pk_x pk) (M.pk_y pk) h sig_r sig_s = true)
  return ⟨regRsp, cert, pk, sig, hashed⟩

/-- The message of `test_Sign`, with the key handle copied from the registration; `none` if it does
not fit into its array. -/
def signRequest (appId nonce : List UInt8) (regRsp : U2F_REGISTER_RESP) : Option (List UInt8) := do
  let authReq ← (Buffer.filled MAX_KH_SIZE 0).write 0
    (regRsp.keyHandleCertSig.take regRsp.keyHandleLen.toNat)
  return nonce ++ appId ++ [regRsp.keyHandleLen] ++ authReq.front regRsp.keyHandleLen.toNat

/-- What `test_Sign` has read: the counter, the signature, and the bytes that are hashed. -/
structure Signed where
  ctr : Int32
  sig : List UInt8
  hashed : List UInt8

/-- `test_Sign`, from the response on, which has a flag and a counter at least. -/
def test_Sign (M : Mincrypt) (appId nonce : List UInt8) (regRsp : U2F_REGISTER_RESP)
    (rsp : List UInt8) : Option Signed := do
  CHECK (rsp ≠ [])
  CHECK (rsp.length ≤ 1 + 4 + MAX_ECDSA_SIG_SIZE)
  let flags := rsp.getD 0 0
  let ctr := (rsp.drop 1).take 4
  let sig := rsp.drop 5
  CHECK (flags = 0x01)
  let (sig_r, sig_s) ← M.dsa_sig_unpack sig
  let hashed := appId ++ [flags] ++ ctr ++ nonce
  let h := M.p256_from_bin (M.SHA256 hashed)
  CHECK (M.p256_ecdsa_verify (M.pk_x regRsp.pubKey) (M.pk_y regRsp.pubKey) h sig_r sig_s = true)
  return ⟨getInt (ctr.getD 0 0) (ctr.getD 1 0) (ctr.getD 2 0) (ctr.getD 3 0), sig, hashed⟩

/-! ### The parts behind the key handle -/

theorem CHECK_bind_eq_some_iff {α : Type} {p : Prop} [Decidable p] {f : Unit → Option α} {a : α} :
    (CHECK p).bind f = some a ↔ p ∧ f () = some a := by
  rw [CHECK]
  split <;> simp_all

theorem CHECK_eq_some_iff {p : Prop} [Decidable p] {a : Unit} : CHECK p = some a ↔ p := by
  rw [CHECK]
  split <;> simp_all

variable {rsp : U2F_REGISTER_RESP} {keyHandle content content' rest : List UInt8}

/-- The key handle and what stands behind it. -/
structure LaidOut (rsp : U2F_REGISTER_RESP) (keyHandle behind : List UInt8) : Prop where
  length : rsp.keyHandleLen.toNat = keyHandle.length
  bytes : rsp.keyHandleCertSig = keyHandle ++ behind

theorem LaidOut.length_add (h : LaidOut rsp keyHandle rest) :
    keyHandle.length + rest.length = sizeofKeyHandleCertSig := by
  have hlength := congrArg List.length h.bytes
  rw [U2F_REGISTER_RESP.keyHandleCertSig, List.length_drop, rsp.length_bytes, List.length_append,
    sizeofRegisterResp] at hlength
  omega

theorem LaidOut.drop (h : LaidOut rsp keyHandle rest) :
    rsp.keyHandleCertSig.drop keyHandle.length = rest := by
  rw [h.bytes, List.drop_left]

/-- **A certificate is found exactly if its length is not in the short form**, behind a key handle of
at least 64 bytes, and nothing else is. -/
theorem getCertificate_iff (h : LaidOut rsp keyHandle (Der.encode 0x30 content ++ rest))
    {cert : List UInt8} :
    getCertificate rsp = some cert ↔
      (64 ≤ keyHandle.length ∧ 128 ≤ content.length) ∧ Der.encode 0x30 content = cert := by
  have hlength := h.length_add
  have hsize : sizeofKeyHandleCertSig = 2248 := rfl
  have hbyte : keyHandle.length < 256 := h.length ▸ rsp.keyHandleLen.toNat_lt
  rw [List.length_append] at hlength
  have hfits : content.length < 65536 := by
    have hle : content.length ≤ (Der.encode 0x30 content).length := by
      rw [Der.encode, List.length_cons, List.length_append]
      omega
    omega
  simp only [getCertificate, h.length, h.drop, Option.bind_eq_bind, CHECK_bind_eq_some_iff, pure]
  rcases Nat.lt_or_ge content.length 128 with hshort | hlong
  · -- the length of the content stands where that of the length is expected
    have hlow : ¬ 0x81 ≤ UInt8.ofNat content.length := by
      have hlt : content.length < 2 ^ 8 := by omega
      rw [UInt8.le_iff_toNat_le, UInt8.toNat_ofNat_of_lt' hlt]
      exact Nat.not_le.2 (hshort.trans (by decide))
    rw [Der.encode_eq_shortForm hshort, Der.shortForm]
    constructor
    · rintro ⟨-, -, -, -, h81, -⟩
      exact absurd h81 hlow
    · rintro ⟨⟨-, hlong⟩, -⟩
      omega
  rcases Nat.lt_or_ge content.length 256 with h256 | h256
  · have hcontent : content.length % 256 = content.length := Nat.mod_eq_of_lt h256
    rw [Der.encode_of_lt_256 hlong h256] at hlength ⊢
    simp only [List.length_cons] at hlength
    simp [hcontent]
    constructor
    · rintro ⟨hkey, -, -, -, hcert⟩
      exact ⟨⟨hkey, hlong⟩, hcert⟩
    · rintro ⟨⟨hkey, -⟩, hcert⟩
      exact ⟨hkey, by omega, by omega, by omega, hcert⟩
  · have hcontent : content.length / 256 % 256 * 256 + content.length % 256 = content.length := by
      omega
    rw [Der.encode_of_lt_65536 h256 hfits] at hlength ⊢
    simp only [List.length_cons] at hlength
    simp [hcontent]
    constructor
    · rintro ⟨hkey, -, -, -, hcert⟩
      exact ⟨⟨hkey, hlong⟩, hcert⟩
    · rintro ⟨⟨hkey, -⟩, hcert⟩
      exact ⟨hkey, by omega, by omega, by omega, hcert⟩

/-- The byte behind the tag is that of a length of one byte, or makes up for the byte behind it. -/
theorem seqLen_eq_iff (hfits : content.length < 65536) (rest : List UInt8) :
    ((Der.encode 0x30 content ++ rest).getD 1 0).toNat + 2 = (Der.encode 0x30 content).length ↔
      content.length ≤ 128 := by
  rcases Nat.lt_or_ge content.length 128 with hshort | hlong
  · have hlength : (UInt8.ofNat content.length).toNat = content.length :=
      UInt8.toNat_ofNat_of_lt' (hshort.trans (by decide))
    rw [Der.encode_eq_shortForm hshort, Der.length_shortForm, Der.shortForm]
    change (UInt8.ofNat content.length).toNat + 2 = content.length + 2 ↔ content.length ≤ 128
    rw [hlength]
    omega
  rcases Nat.lt_or_ge content.length 256 with h256 | h256
  · have hfirst : (0x81 : UInt8).toNat = 129 := rfl
    rw [Der.encode_of_lt_256 hlong h256]
    simp only [List.cons_append, List.getD_cons_succ, List.getD_cons_zero, List.length_cons, hfirst]
    omega
  · have hfirst : (0x82 : UInt8).toNat = 130 := rfl
    rw [Der.encode_of_lt_65536 h256 hfits]
    simp only [List.cons_append, List.getD_cons_succ, List.getD_cons_zero, List.length_cons, hfirst]
    omega

/-- **A signature is found exactly if its length has one byte**, or is 128: then the byte that says
how many bytes the length has is read in its place, and is 129, which makes up for that byte. -/
theorem getSignature_iff
    (h : LaidOut rsp keyHandle (Der.encode 0x30 content ++ (Der.encode 0x30 content' ++ rest))) :
    getSignature rsp = some (Der.encode 0x30 content') ↔
      64 ≤ keyHandle.length ∧ 128 ≤ content.length ∧ content'.length ≤ 128 := by
  have hlength := h.length_add
  have hdrop : rsp.keyHandleCertSig.drop (keyHandle.length + (Der.encode 0x30 content).length) =
      Der.encode 0x30 content' ++ rest := by
    rw [← List.drop_drop, h.drop, List.drop_left]
  rw [List.length_append, List.length_append] at hlength
  have hsize : sizeofKeyHandleCertSig = 2248 := rfl
  have hle : content'.length + 2 ≤ (Der.encode 0x30 content').length := by
    have hpos : 0 < (Der.lengthOctets content'.length).length := by
      rw [Der.lengthOctets]
      split <;> exact Nat.zero_lt_succ _
    rw [Der.encode, List.length_cons, List.length_append]
    omega
  have hfits : content'.length < 65536 := by omega
  have hseqLen := seqLen_eq_iff hfits rest
  rw [getSignature, Option.bind_eq_bind, Option.bind_eq_some_iff]
  simp only [getCertificate_iff h]
  constructor
  · rintro ⟨cert, ⟨⟨hkey, hcert⟩, rfl⟩, hrest⟩
    simp only [h.length, hdrop, Option.bind_eq_bind, CHECK_bind_eq_some_iff, pure] at hrest
    obtain ⟨-, -, -, hroom, htake⟩ := hrest
    refine ⟨hkey, hcert, hseqLen.1 ?_⟩
    have htaken := congrArg List.length (Option.some_inj.1 htake)
    rw [List.length_take, List.length_append] at htaken
    omega
  · rintro ⟨hkey, hcert, hsig⟩
    refine ⟨_, ⟨⟨hkey, hcert⟩, rfl⟩, ?_⟩
    simp only [h.length, hdrop, Option.bind_eq_bind, CHECK_bind_eq_some_iff, pure]
    rw [hseqLen.2 hsig, List.take_left]
    exact ⟨by omega, by omega, rfl, by have := hseqLen.2 hsig; omega, rfl⟩

/-! ### The public key in the certificate -/

theorem find_eq_some_iff {s t : List UInt8} {off : ℕ} :
    find s t = some off ↔
      off ≤ s.length ∧ t <+: s.drop off ∧ ∀ k < off, ¬ t <+: s.drop k := by
  rw [find, List.find?_range_eq_some]
  simp only [List.isPrefixOf_iff_prefix, List.mem_range, Nat.lt_succ_iff, Bool.not_eq_true',
    ← Bool.not_eq_true]
  tauto

theorem find_bind_eq_some_iff {α : Type} {s t : List UInt8} {f : ℕ → Option α} {a : α} :
    (find s t).bind f = some a ↔
      ∃ off, (off ≤ s.length ∧ t <+: s.drop off ∧ ∀ k < off, ¬ t <+: s.drop k) ∧ f off = some a := by
  simp only [Option.bind_eq_some_iff, find_eq_some_iff]

/-- The certificate is about the key: it stands behind the first lead-in sequence. -/
def HasSubjectPublicKey (cert pk : List UInt8) : Prop :=
  ∃ before after, cert = before ++ (pkStart ++ (pk ++ after)) ∧ pk.length = P256_POINT_SIZE ∧
    ∀ k < before.length, ¬ pkStart <+: cert.drop k

/-- **A public key is found exactly if** it stands whole behind the first lead-in sequence. -/
theorem getSubjectPublicKey_iff {cert pk : List UInt8} :
    getSubjectPublicKey cert = some pk ↔ HasSubjectPublicKey cert pk := by
  simp only [getSubjectPublicKey, Option.bind_eq_bind, CHECK_bind_eq_some_iff,
    find_bind_eq_some_iff, pure, Option.some_inj]
  constructor
  · rintro ⟨hsize, off, ⟨hoff, ⟨behind, hbehind⟩, hfirst⟩, hroom, rfl⟩
    have hdrop : cert.drop (off + pkStart.length) = behind := by
      rw [← List.drop_drop, ← hbehind, List.drop_left]
    refine ⟨cert.take off, behind.drop P256_POINT_SIZE, ?_, ?_, ?_⟩
    · rw [hdrop, List.take_append_drop, hbehind, List.take_append_drop]
    · rw [List.length_take, List.length_drop]
      omega
    · rw [List.length_take, Nat.min_eq_left hoff]
      exact hfirst
  · rintro ⟨before, after, rfl, hpk, hfirst⟩
    have hlength : (before ++ (pkStart ++ (pk ++ after))).length =
        before.length + pkStart.length + (P256_POINT_SIZE + after.length) := by
      simp only [List.length_append, hpk, Nat.add_assoc]
    refine ⟨by omega, before.length, ⟨by omega, ?_, hfirst⟩, by omega, ?_⟩
    · rw [List.drop_left]
      exact List.prefix_append _ _
    · rw [← List.drop_drop, List.drop_left, List.drop_left, ← hpk, List.take_left]

/-- **The signature of the bytes is good**: it has two integers, which verify. -/
def Mincrypt.Verifies (M : Mincrypt) (pk signedBytes signature : List UInt8) : Prop :=
  ∃ r s, M.dsa_sig_unpack signature = some (r, s) ∧
    M.p256_ecdsa_verify (M.pk_x pk) (M.pk_y pk) (M.p256_from_bin (M.SHA256 signedBytes)) r s = true

/-! ### What the key encodes -/

section Key

open RawMessageCodec

variable {M : Mincrypt} {Cert : Type} {P : Platform Cert} {r : RegisterResponse Cert} {data : List UInt8}
  {regRsp : U2F_REGISTER_RESP} {appId nonce : List UInt8}

/-- The parts of a registration response are read, and its signed bytes are hashed. -/
structure Enrolled.Reads (appId nonce : List UInt8) (r : RegisterResponse Cert)
    (cert : List UInt8) (enrolled : Enrolled) : Prop where
  pubKey : enrolled.regRsp.pubKey = r.userPublicKey
  keyHandle : enrolled.regRsp.keyHandleCertSig.take enrolled.regRsp.keyHandleLen.toNat = r.keyHandle
  cert : enrolled.cert = cert
  pk : HasSubjectPublicKey enrolled.cert enrolled.pk
  sig : enrolled.sig = r.signature
  hashed : enrolled.hashed =
    encodeRegistrationSignedBytes appId nonce r.keyHandle r.userPublicKey

/-- The structure after the response has been copied over it: its last part is behind the key
handle, with what was there before behind it. -/
theorem write_response {pubKey behind : List UInt8} (hpubKey : pubKey.length = 65)
    (hkeyHandle : keyHandle.length ≤ 255)
    (hfits : (U2F_REGISTER_ID :: pubKey ++ UInt8.ofNat keyHandle.length :: keyHandle ++
      behind).length ≤ sizeofRegisterResp) (regRsp : U2F_REGISTER_RESP) :
    ∃ (rsp : U2F_REGISTER_RESP) (rest : List UInt8),
      regRsp.write 0 (U2F_REGISTER_ID :: pubKey ++ UInt8.ofNat keyHandle.length :: keyHandle ++
        behind) = some rsp ∧
      rsp.registerId = U2F_REGISTER_ID ∧ rsp.pubKey = pubKey ∧
      LaidOut rsp keyHandle (behind ++ rest) := by
  obtain ⟨rsp, hwrite⟩ := regRsp.exists_write 0 _ ((Nat.zero_add _).trans_le hfits)
  obtain ⟨-, hbytes⟩ := Buffer.write_eq_some_iff.1 hwrite
  rw [List.take_zero, List.nil_append, Nat.zero_add] at hbytes
  generalize regRsp.bytes.drop _ = rest at hbytes
  have hsplit : rsp.bytes = U2F_REGISTER_ID :: (pubKey ++ UInt8.ofNat keyHandle.length ::
      (keyHandle ++ (behind ++ rest))) := by
    rw [hbytes]
    simp
  have hbyte : (UInt8.ofNat keyHandle.length).toNat = keyHandle.length :=
    UInt8.toNat_ofNat_of_lt' (Nat.lt_succ_of_le hkeyHandle)
  have hpoint : P256_POINT_SIZE = pubKey.length := hpubKey.symm
  refine ⟨rsp, rest, hwrite, ?_, ?_, ?_, ?_⟩
  · rw [U2F_REGISTER_RESP.registerId, Buffer.get, hsplit]
    rfl
  · rw [U2F_REGISTER_RESP.pubKey, hsplit, List.drop_one, List.tail_cons, hpoint, List.take_left]
  · rw [U2F_REGISTER_RESP.keyHandleLen, Buffer.get, hsplit, Nat.add_comm, List.getD_cons_succ,
      hpoint, List.getD_append_right _ _ _ _ (Nat.le_refl _), Nat.sub_self, List.getD_cons_zero,
      hbyte]
  · have hbehind : rsp.bytes = (U2F_REGISTER_ID :: pubKey ++ [UInt8.ofNat keyHandle.length]) ++
        (keyHandle ++ (behind ++ rest)) := by
      rw [hsplit]
      simp
    refine (congrArg (List.drop _) hbehind).trans (List.drop_left' ?_)
    rw [List.length_append, List.length_cons, List.length_singleton, ← hpoint, Nat.add_comm 1]

/-- **A registration is read exactly if** it fits into the structure, its public key is not
compressed, the lengths of its parts are those that the readers find, and its certificate has a public
key for which its signature is good. -/
theorem test_Enroll_iff {content content' : List UInt8} (hr : r.WellFormed)
    (hcert : P.getEncoded r.attestationCertificate = .ok (Der.encode 0x30 content))
    (hsig : r.signature = Der.encode 0x30 content') (hdata : encodeRegisterResponse P r = .ok data) :
    (∃ enrolled, test_Enroll M appId nonce regRsp data = some enrolled ∧
        enrolled.Reads appId nonce r (Der.encode 0x30 content)) ↔
      data.length ≤ sizeofRegisterResp ∧ r.userPublicKey.getD 0 0 = UNCOMPRESSED_POINT ∧
        (64 ≤ r.keyHandle.length ∧ 128 ≤ content.length ∧ content'.length ≤ 128) ∧
        ∃ pk, HasSubjectPublicKey (Der.encode 0x30 content) pk ∧ M.Verifies pk
          (encodeRegistrationSignedBytes appId nonce r.keyHandle r.userPublicKey) r.signature := by
  obtain ⟨hkeyHandle, bytes, hbytes, rfl⟩ := encodeRegisterResponse_eq_ok_iff.1 hdata
  obtain rfl := Except.ok.inj (hcert.symm.trans hbytes)
  rw [List.append_assoc] at hdata ⊢
  simp only [test_Enroll, Option.bind_eq_bind]
  by_cases hfits : (REGISTRATION_RESERVED_BYTE_VALUE :: r.userPublicKey ++
      UInt8.ofNat r.keyHandle.length :: r.keyHandle ++
      (Der.encode 0x30 content ++ r.signature)).length ≤ sizeofRegisterResp
  · obtain ⟨rsp, rest, hwrite, hregisterId, hpubKey, hlaidOut⟩ :=
      write_response hr.length_userPublicKey hkeyHandle hfits regRsp
    rw [hsig, List.append_assoc] at hlaidOut
    have hne : REGISTRATION_RESERVED_BYTE_VALUE :: r.userPublicKey ++
        UInt8.ofNat r.keyHandle.length :: r.keyHandle ++
        (Der.encode 0x30 content ++ r.signature) ≠ [] := List.cons_ne_nil _ _
    have hkey : rsp.keyHandleCertSig.take rsp.keyHandleLen.toNat = r.keyHandle := by
      rw [hlaidOut.bytes, hlaidOut.length, List.take_left]
    rw [REGISTRATION_RESERVED_BYTE_VALUE, ← U2F_REGISTER_ID] at hne hfits ⊢
    simp only [hwrite, CHECK_bind_eq_some_iff, Option.bind_some, hpubKey, hregisterId, hkey, pure]
    simp only [Option.bind_eq_some_iff, Option.some_inj, CHECK_eq_some_iff, exists_const]
    have hsigned : [U2F_REGISTER_HASH_ID] ++ appId ++ nonce ++ r.keyHandle ++ r.userPublicKey =
        encodeRegistrationSignedBytes appId nonce r.keyHandle r.userPublicKey := by
      simp [encodeRegistrationSignedBytes]
      rfl
    rw [hsigned]
    constructor
    · rintro ⟨enrolled, ⟨-, -, -, hformat, cert, -, pk, hpk, sig, hsig', ⟨sig_r, sig_s⟩, hunpack, -,
        hverify, rfl⟩, hreads⟩
      obtain rfl : sig = Der.encode 0x30 content' := hreads.sig.trans hsig
      obtain rfl : cert = Der.encode 0x30 content := hreads.cert
      rw [← hsig] at hunpack
      exact ⟨hfits, hformat, (getSignature_iff hlaidOut).1 hsig', pk, hreads.pk, sig_r, sig_s,
        hunpack, hverify⟩
    · rintro ⟨-, hformat, hlengths, pk, hpk, sig_r, sig_s, hunpack, hverify⟩
      rw [hsig] at hunpack
      have hsize : pk.length = P256_POINT_SIZE := by
        obtain ⟨-, -, -, hsize, -⟩ := hpk
        exact hsize
      refine ⟨_, ⟨hne, hfits, trivial, hformat, _,
        (getCertificate_iff hlaidOut).2 ⟨⟨hlengths.1, hlengths.2.1⟩, rfl⟩, pk,
        getSubjectPublicKey_iff.2 hpk, _,
        (getSignature_iff hlaidOut).2 hlengths, (sig_r, sig_s), hunpack, hsize, hverify, rfl⟩, ?_⟩
      exact ⟨hpubKey, hkey, rfl, hpk, hsig.symm, rfl⟩
  · constructor
    · rintro ⟨enrolled, henrolled, -⟩
      rw [CHECK_bind_eq_some_iff, CHECK_bind_eq_some_iff] at henrolled
      exact absurd henrolled.2.1 hfits
    · rintro ⟨hfits', -⟩
      exact absurd hfits' hfits

/-- **The key handle is sent back exactly if it fits into the array for it**, and the key decodes the
message. -/
theorem signRequest_iff {cert : List UInt8} {enrolled : Enrolled}
    (hreads : enrolled.Reads appId nonce r cert) (hr : r.WellFormed) (happId : appId.length = 32)
    {nonce' : List UInt8} (hnonce' : nonce'.length = 32) (control : UInt8) :
    (∃ message, signRequest appId nonce' enrolled.regRsp = some message ∧
        decodeAuthenticateRequest (control :: message) = .ok ⟨control, nonce', appId, r.keyHandle⟩) ↔
      r.keyHandle.length ≤ MAX_KH_SIZE := by
  have hlength : enrolled.regRsp.keyHandleLen.toNat = r.keyHandle.length := by
    have hbyte : enrolled.regRsp.keyHandleLen.toNat < 256 := UInt8.toNat_lt _
    have htake := congrArg List.length hreads.keyHandle
    rw [List.length_take, U2F_REGISTER_RESP.keyHandleCertSig, List.length_drop,
      enrolled.regRsp.length_bytes, sizeofRegisterResp] at htake
    have hsize : sizeofKeyHandleCertSig = 2248 := rfl
    omega
  simp only [signRequest, hreads.keyHandle, Option.bind_eq_bind, Option.bind_eq_some_iff, pure,
    Option.some_inj]
  constructor
  · rintro ⟨message, ⟨authReq, hwrite, -⟩, -⟩
    exact (Nat.zero_add _).symm.trans_le (Buffer.write_eq_some_iff.1 hwrite).1
  · intro hfits
    obtain ⟨authReq, hwrite⟩ := (Buffer.filled MAX_KH_SIZE 0).exists_write 0 r.keyHandle
      ((Nat.zero_add _).trans_le hfits)
    have hfront : authReq.front r.keyHandle.length = r.keyHandle := by
      have hfront := Buffer.front_write hwrite
      rwa [Nat.zero_add] at hfront
    refine ⟨_, ⟨authReq, hwrite, rfl⟩, decodeAuthenticateRequest_eq_ok_iff.2
      ⟨⟨hnonce', happId, hr.length_keyHandle⟩,
        encodeAuthenticateRequest_eq_ok_iff.2 ⟨hr.length_keyHandle, ?_⟩⟩⟩
    rw [hlength, hfront, ← hlength, UInt8.ofNat_toNat]
    simp

/-- **The answer to it is read exactly if** its signature fits into the array for it and is good for the
public key of the registration, and its user was present. -/
theorem test_Sign_iff {cert : List UInt8} {enrolled : Enrolled} {nonce₀ : List UInt8}
    (hreads : enrolled.Reads appId nonce₀ r cert) (nonce : List UInt8)
    (response : AuthenticateResponse) :
    (∃ signed, test_Sign M appId nonce enrolled.regRsp (encodeAuthenticateResponse response) =
          some signed ∧
        signed.ctr = response.counter ∧ signed.sig = response.signature ∧
        signed.hashed = encodeAuthenticateSignedBytes appId response.userPresence response.counter
          nonce) ↔
      response.signature.length ≤ MAX_ECDSA_SIG_SIZE ∧ response.userPresence = 0x01 ∧
        M.Verifies r.userPublicKey (encodeAuthenticateSignedBytes appId response.userPresence
          response.counter nonce) response.signature := by
  obtain ⟨presence, counter, signature⟩ := response
  have hlength : (encodeAuthenticateResponse ⟨presence, counter, signature⟩).length =
      1 + 4 + signature.length := by
    simp [encodeAuthenticateResponse, putInt]
    omega
  have hsig : (encodeAuthenticateResponse ⟨presence, counter, signature⟩).drop 5 = signature := rfl
  have hflags : (encodeAuthenticateResponse ⟨presence, counter, signature⟩).getD 0 0 = presence := rfl
  have hctr : ((encodeAuthenticateResponse ⟨presence, counter, signature⟩).drop 1).take 4 =
      putInt counter := rfl
  have hhashed : appId ++ [presence] ++ putInt counter ++ nonce =
      encodeAuthenticateSignedBytes appId presence counter nonce := by
    simp [encodeAuthenticateSignedBytes, putInt]
  simp only [test_Sign, Option.bind_eq_bind, CHECK_bind_eq_some_iff, pure, hlength, hsig, hflags,
    hctr, hhashed, hreads.pubKey]
  simp only [Option.bind_eq_some_iff, Option.some_inj, CHECK_eq_some_iff, exists_const]
  constructor
  · rintro ⟨signed, ⟨-, hfits, hpresence, ⟨sig_r, sig_s⟩, hunpack, hverify, -⟩, -⟩
    exact ⟨Nat.le_of_add_le_add_left hfits, hpresence, sig_r, sig_s, hunpack, hverify⟩
  · rintro ⟨hfits, hpresence, sig_r, sig_s, hunpack, hverify⟩
    refine ⟨_, ⟨List.cons_ne_nil _ _, Nat.add_le_add_left hfits _, hpresence, (sig_r, sig_s),
      hunpack, hverify, rfl⟩, ?_, rfl, rfl⟩
    exact getInt_putInt counter

/-- **The tests and the key speak the same format.**  The key decodes the request of a registration;
its response is read, and the bytes that it has signed are hashed, exactly under the conditions on
the lengths of its parts and if its signature is good for the key in the certificate; then the key handle
is sent back in a message that the key decodes, exactly if it fits, and the answer to it is read in the
same way. -/
theorem agrees_with_key (M : Mincrypt) {content content' : List UInt8} (hr : r.WellFormed)
    (hcert : P.getEncoded r.attestationCertificate = .ok (Der.encode 0x30 content))
    (hsig : r.signature = Der.encode 0x30 content') (hdata : encodeRegisterResponse P r = .ok data)
    (happId : appId.length = 32) (hnonce : nonce.length = 32) (regRsp : U2F_REGISTER_RESP) :
    decodeRegisterRequest (nonce ++ appId) = .ok ⟨appId, nonce⟩ ∧
      ((∃ enrolled, test_Enroll M appId nonce regRsp data = some enrolled ∧
          enrolled.Reads appId nonce r (Der.encode 0x30 content)) ↔
        data.length ≤ sizeofRegisterResp ∧ r.userPublicKey.getD 0 0 = UNCOMPRESSED_POINT ∧
          (64 ≤ r.keyHandle.length ∧ 128 ≤ content.length ∧ content'.length ≤ 128) ∧
          ∃ pk, HasSubjectPublicKey (Der.encode 0x30 content) pk ∧ M.Verifies pk
            (encodeRegistrationSignedBytes appId nonce r.keyHandle r.userPublicKey)
            r.signature) ∧
      ∀ (enrolled : Enrolled) (nonce' : List UInt8),
        enrolled.Reads appId nonce r (Der.encode 0x30 content) → nonce'.length = 32 →
        (∀ control : UInt8,
          (∃ message, signRequest appId nonce' enrolled.regRsp = some message ∧
            decodeAuthenticateRequest (control :: message) =
              .ok ⟨control, nonce', appId, r.keyHandle⟩) ↔
          r.keyHandle.length ≤ MAX_KH_SIZE) ∧
        ∀ response : AuthenticateResponse,
          (∃ signed, test_Sign M appId nonce' enrolled.regRsp
                (encodeAuthenticateResponse response) = some signed ∧
              signed.ctr = response.counter ∧ signed.sig = response.signature ∧
              signed.hashed = encodeAuthenticateSignedBytes appId response.userPresence
                response.counter nonce') ↔
            response.signature.length ≤ MAX_ECDSA_SIG_SIZE ∧ response.userPresence = 0x01 ∧
              M.Verifies r.userPublicKey (encodeAuthenticateSignedBytes appId
                response.userPresence response.counter nonce') response.signature :=
  ⟨decodeRegisterRequest_eq_ok_iff.2 ⟨⟨happId, hnonce⟩, rfl⟩,
    test_Enroll_iff hr hcert hsig hdata,
    fun _ nonce' hreads hnonce' =>
      ⟨fun control => signRequest_iff hreads hr happId hnonce' control,
        test_Sign_iff hreads nonce'⟩⟩

end Key

/-! ### A registration that is read -/

section Witness

/-- The certificate of the reference vectors, behind its length: the key is in the middle. -/
def certBefore : List UInt8 :=
  [0x30, 0x81, 0xe4, 0xa0, 0x03, 0x02, 0x01, 0x02, 0x02, 0x0a, 0x47, 0x90, 0x12, 0x80, 0x00,
   0x11, 0x55, 0x95, 0x73, 0x52, 0x30, 0x0a, 0x06, 0x08, 0x2a, 0x86, 0x48, 0xce, 0x3d, 0x04,
   0x03, 0x02, 0x30, 0x17, 0x31, 0x15, 0x30, 0x13, 0x06, 0x03, 0x55, 0x04, 0x03, 0x13, 0x0c,
   0x47, 0x6e, 0x75, 0x62, 0x62, 0x79, 0x20, 0x50, 0x69, 0x6c, 0x6f, 0x74, 0x30, 0x1e, 0x17,
   0x0d, 0x31, 0x32, 0x30, 0x38, 0x31, 0x34, 0x31, 0x38, 0x32, 0x39, 0x33, 0x32, 0x5a, 0x17,
   0x0d, 0x31, 0x33, 0x30, 0x38, 0x31, 0x34, 0x31, 0x38, 0x32, 0x39, 0x33, 0x32, 0x5a, 0x30,
   0x31, 0x31, 0x2f, 0x30, 0x2d, 0x06, 0x03, 0x55, 0x04, 0x03, 0x13, 0x26, 0x50, 0x69, 0x6c,
   0x6f, 0x74, 0x47, 0x6e, 0x75, 0x62, 0x62, 0x79, 0x2d, 0x30, 0x2e, 0x34, 0x2e, 0x31, 0x2d,
   0x34, 0x37, 0x39, 0x30, 0x31, 0x32, 0x38, 0x30, 0x30, 0x30, 0x31, 0x31, 0x35, 0x35, 0x39,
   0x35, 0x37, 0x33, 0x35, 0x32]

def certKey : List UInt8 :=
  [0x04, 0x8d, 0x61, 0x7e, 0x65, 0xc9, 0x50, 0x8e, 0x64, 0xbc, 0xc5, 0x67, 0x3a, 0xc8, 0x2a,
   0x67, 0x99, 0xda, 0x3c, 0x14, 0x46, 0x68, 0x2c, 0x25, 0x8c, 0x46, 0x3f, 0xff, 0xdf, 0x58,
   0xdf, 0xd2, 0xfa, 0x3e, 0x6c, 0x37, 0x8b, 0x53, 0xd7, 0x95, 0xc4, 0xa4, 0xdf, 0xfb, 0x41,
   0x99, 0xed, 0xd7, 0x86, 0x2f, 0x23, 0xab, 0xaf, 0x02, 0x03, 0xb4, 0xb8, 0x91, 0x1b, 0xa0,
   0x56, 0x99, 0x94, 0xe1, 0x01]

def certAfter : List UInt8 :=
  [0x30, 0x0a, 0x06, 0x08, 0x2a, 0x86, 0x48, 0xce, 0x3d, 0x04, 0x03, 0x02, 0x03, 0x47, 0x00,
   0x30, 0x44, 0x02, 0x20, 0x60, 0xcd, 0xb6, 0x06, 0x1e, 0x9c, 0x22, 0x26, 0x2d, 0x1a, 0xac,
   0x1d, 0x96, 0xd8, 0xc7, 0x08, 0x29, 0xb2, 0x36, 0x65, 0x31, 0xdd, 0xa2, 0x68, 0x83, 0x2c,
   0xb8, 0x36, 0xbc, 0xd3, 0x0d, 0xfa, 0x02, 0x20, 0x63, 0x1b, 0x14, 0x59, 0xf0, 0x9e, 0x63,
   0x30, 0x05, 0x57, 0x22, 0xc8, 0xd8, 0x9b, 0x7f, 0x48, 0x88, 0x3b, 0x90, 0x89, 0xb8, 0x8d,
   0x60, 0xd1, 0xd9, 0x79, 0x59, 0x02, 0xb3, 0x04, 0x10, 0xdf]

def vendorContent : List UInt8 := certBefore ++ (pkStart ++ (certKey ++ certAfter))

/-- The two integers of the signature of the reference vectors. -/
def enroll_r : List UInt8 :=
  [0x14, 0x71, 0x89, 0x9b, 0xcc, 0x39, 0x87, 0xe6, 0x2e, 0x82, 0x02, 0xc9, 0xb3, 0x9c, 0x33,
   0xc1, 0x90, 0x33, 0xf7, 0x34, 0x03, 0x52, 0xdb, 0xa8, 0x0f, 0xca, 0xb0, 0x17, 0xdb, 0x92,
   0x30, 0xe4]

def enroll_s : List UInt8 :=
  [0x82, 0x67, 0x7d, 0x67, 0x3d, 0x89, 0x19, 0x33, 0xad, 0xe6, 0xf6, 0x17, 0xe5, 0xdb, 0xde,
   0x2e, 0x24, 0x7e, 0x70, 0x42, 0x3f, 0xd5, 0xad, 0x78, 0x04, 0xa6, 0xd3, 0xd3, 0x96, 0x1e,
   0xf8, 0x71]

def signatureContent : List UInt8 := 0x02 :: 0x20 :: enroll_r ++ 0x02 :: 0x21 :: 0 :: enroll_s

def vendorResponse : RegisterResponse TestVectors.Certificate where
  userPublicKey :=
    [0x04, 0xb1, 0x74, 0xbc, 0x49, 0xc7, 0xca, 0x25, 0x4b, 0x70, 0xd2, 0xe5, 0xc2, 0x07, 0xce,
     0xe9, 0xcf, 0x17, 0x48, 0x20, 0xeb, 0xd7, 0x7e, 0xa3, 0xc6, 0x55, 0x08, 0xc2, 0x6d, 0xa5,
     0x1b, 0x65, 0x7c, 0x1c, 0xc6, 0xb9, 0x52, 0xf8, 0x62, 0x16, 0x97, 0x93, 0x64, 0x82, 0xda,
     0x0a, 0x6d, 0x3d, 0x38, 0x26, 0xa5, 0x90, 0x95, 0xda, 0xf6, 0xcd, 0x7c, 0x03, 0xe2, 0xe6,
     0x03, 0x85, 0xd2, 0xf6, 0xd9]
  keyHandle :=
    [0x2a, 0x55, 0x2d, 0xfd, 0xb7, 0x47, 0x7e, 0xd6, 0x5f, 0xd8, 0x41, 0x33, 0xf8, 0x61, 0x96,
     0x01, 0x0b, 0x22, 0x15, 0xb5, 0x7d, 0xa7, 0x5d, 0x31, 0x5b, 0x7b, 0x9e, 0x8f, 0xe2, 0xe3,
     0x92, 0x5a, 0x60, 0x19, 0x55, 0x1b, 0xab, 0x61, 0xd1, 0x65, 0x91, 0x65, 0x9c, 0xba, 0xf0,
     0x0b, 0x49, 0x50, 0xf7, 0xab, 0xfe, 0x66, 0x60, 0xe2, 0xe0, 0x06, 0xf7, 0x68, 0x68, 0xb7,
     0x72, 0xd7, 0x0c, 0x25]
  attestationCertificate := .VENDOR_CERTIFICATE
  signature := Der.encode 0x30 signatureContent

def appIdHash : List UInt8 :=
  [0xf0, 0xe6, 0xa6, 0xa9, 0x70, 0x42, 0xa4, 0xf1, 0xf1, 0xc8, 0x7f, 0x5f, 0x7d, 0x44, 0x31,
   0x5b, 0x2d, 0x85, 0x2c, 0x2d, 0xf5, 0xc7, 0x99, 0x1c, 0xc6, 0x62, 0x41, 0xbf, 0x70, 0x72,
   0xd1, 0xc4]

def challengeHash : List UInt8 :=
  [0x41, 0x42, 0xd2, 0x1c, 0x00, 0xd9, 0x4f, 0xfb, 0x9d, 0x50, 0x4a, 0xda, 0x8f, 0x99, 0xb7,
   0x21, 0xf4, 0xb1, 0x91, 0xae, 0x4e, 0x37, 0xca, 0x01, 0x40, 0xf6, 0x96, 0xb6, 0x98, 0x3c,
   0xfa, 0xcb]

def vendorSignedBytes : List UInt8 :=
  RawMessageCodec.encodeRegistrationSignedBytes appIdHash challengeHash vendorResponse.keyHandle
    vendorResponse.userPublicKey

/-- The library, for one signature that is good: its integers, the key and the signed bytes. -/
def Mincrypt.ofSignature (signature r s pk signedBytes : List UInt8) : Mincrypt where
  p256_int := List UInt8
  p256_from_bin := id
  dsa_sig_unpack sig := if sig = signature then some (r, s) else none
  SHA256 := Sha256.hash
  p256_ecdsa_verify x y h r' s' :=
    decide (x = (pk.drop 1).take 32 ∧ y = (pk.drop 33).take 32 ∧ h = Sha256.hash signedBytes ∧
      r' = r ∧ s' = s)

theorem verifies_ofSignature (signature r s pk signedBytes : List UInt8) :
    (Mincrypt.ofSignature signature r s pk signedBytes).Verifies pk signedBytes signature :=
  ⟨r, s, if_pos rfl, by
    simp [Mincrypt.ofSignature, Mincrypt.pk_x, Mincrypt.pk_y, P256_SCALAR_SIZE]⟩

def vendorMincrypt : Mincrypt :=
  .ofSignature vendorResponse.signature enroll_r enroll_s certKey vendorSignedBytes

theorem length_vendorContent : vendorContent.length = 316 := by
  rw [vendorContent, pkStart_eq]
  decide +kernel

theorem encode_vendorContent :
    Der.encode 0x30 vendorContent = 0x30 :: 0x82 :: 0x01 :: 0x3c :: vendorContent := by
  have hlength := length_vendorContent
  rw [Der.encode_of_lt_65536 (by omega) (by omega), hlength]
  rfl

theorem hasSubjectPublicKey_vendorContent :
    HasSubjectPublicKey (Der.encode 0x30 vendorContent) certKey := by
  rw [encode_vendorContent, vendorContent]
  refine ⟨0x30 :: 0x82 :: 0x01 :: 0x3c :: certBefore, certAfter, rfl, by decide, ?_⟩
  rw [pkStart_eq]
  decide +kernel

/-- The registration of the reference vectors is read over a structure of zeros, and its key handle is
sent back. -/
theorem agrees_with_key_vendorResponse :
    ∃ data enrolled message, test_Enroll vendorMincrypt appIdHash challengeHash
        (Buffer.filled sizeofRegisterResp 0) data = some enrolled ∧
      enrolled.Reads appIdHash challengeHash vendorResponse (Der.encode 0x30 vendorContent) ∧
      signRequest appIdHash challengeHash enrolled.regRsp = some message := by
  have hlength : vendorResponse.keyHandle.length = 64 := by decide
  have hpublicKey : vendorResponse.userPublicKey.length = 65 := by decide
  have happId : appIdHash.length = 32 := by decide
  have hchallenge : challengeHash.length = 32 := by decide
  have hcert : (TestVectors.platform (Der.encode 0x30 vendorContent) []).getEncoded
      vendorResponse.attestationCertificate = .ok (Der.encode 0x30 vendorContent) := rfl
  have hdata := RawMessageCodec.encodeRegisterResponse_eq hcert (by omega)
  have hagrees := agrees_with_key vendorMincrypt ⟨hpublicKey, by omega⟩ hcert rfl hdata happId
    hchallenge (Buffer.filled sizeofRegisterResp 0)
  have hcontent : 128 ≤ vendorContent.length := by
    rw [length_vendorContent]
    decide
  obtain ⟨enrolled, henrolled, hreads⟩ := hagrees.2.1.2
    ⟨by decide +kernel, by decide, ⟨by omega, hcontent, by decide⟩, certKey,
      hasSubjectPublicKey_vendorContent, verifies_ofSignature _ _ _ _ _⟩
  obtain ⟨message, hmessage, -⟩ := ((hagrees.2.2 enrolled challengeHash hreads hchallenge).1 0x03).2
    (by rw [hlength]; decide)
  exact ⟨_, enrolled, message, henrolled, hreads, hmessage⟩

end Witness

end U2F.Hid
