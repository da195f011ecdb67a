/-
**A site whose browser has the libraries of the extension.**

The software token is given base64, hexadecimal, a hash and signatures, and the site assumes that they
agree with those of the server.  In the browser they are those of the extension: `B64_encode` and
`B64_decode`, `UTIL_HexToBytes`, `SHA256` and `UTIL_JsonSignatureToAsn1`.  Only the elliptic curve is
left.  The hash of a key handle is taken of the hexadecimal text of the public key, whose digits the
hasher reads as the numbers 0 to 9, and whose letters it reads as zero.

Main definitions:

* `UTIL_BytesToHex`, `UTIL_HexToBytes` — hexadecimal;
* `SHA256.digestOfText` — the digest of a text;
* `SoftTokenPrimitives.ofEcdsa` — the libraries of the extension, for the token;
* `SoftTokenSite.inExtension` — a site and its browser;
* `U2FServerReferenceImpl.HasLibraries` — the libraries of the server.

Main results:

* `UTIL_HexToBytes_BytesToHex` — hexadecimal is read back;
* `SoftTokenSite.hashes_inExtension` — the hash of an ASCII text is the same in the browser and at the
  server;
* `SoftTokenSite.agree_inExtension` — **the libraries of the extension agree with those of the server**.
-/

import U2F.Extension.B64RoundTrip
import U2F.Extension.ClientDataHash
import U2F.Extension.EcdsaSignatures
import U2F.Protocol.SoftTokenSite

set_option relaxedAutoImplicit false
set_option autoImplicit false

namespace U2F

open EcdsaSignatures (JsonSignature UTIL_JsonSignatureToAsn1)

/-! ### Hexadecimal -/

def hexchars : JSString := js "0123456789ABCDEF"

/-- Converts a byte array to a hex string. -/
def UTIL_BytesToHex (b : Bytes) : JSString :=
  b.flatMap fun byte : UInt8 =>
    [hexchars.getD (byte >>> 4 &&& 15).toNat 0, hexchars.getD (byte &&& 15).toNat 0]

/-- The value of a hexadecimal digit, in upper or in lower case. -/
def hexDigit (c : UInt16) : Option ℕ :=
  if 48 ≤ c ∧ c ≤ 57 then some (c.toNat - 48)
  else if 65 ≤ c ∧ c ≤ 70 then some (c.toNat - 55)
  else if 97 ≤ c ∧ c ≤ 102 then some (c.toNat - 87)
  else none

/-- `parseInt(…, 16)` of a digit and what comes after it, which counts if it is a digit. -/
def parseHex (high : ℕ) (c : UInt16) : ℕ :=
  match hexDigit c with
  | none => high
  | some low => 16 * high + low

/-- Converts a hex string to bytes: the rest of the array stays zero when the first of two characters is
no digit.  A last character without another one is written behind the array. -/
def UTIL_HexToBytes : JSString → Bytes
  | c :: d :: h =>
      match hexDigit c with
      | none => List.replicate (h.length / 2 + 1) 0
      | some high => UInt8.ofNat (parseHex high d) :: UTIL_HexToBytes h
  | _ => []

theorem hexDigit_hexchars : ∀ n < 16, hexDigit (hexchars.getD n 0) = some n := by decide

theorem toNat_halves (byte : UInt8) :
    (byte >>> 4 &&& 15).toNat < 16 ∧ (byte &&& 15).toNat < 16 ∧
      16 * (byte >>> 4 &&& 15).toNat + (byte &&& 15).toNat = byte.toNat := by
  have hmask : ∀ n, n &&& 15 = n % 16 := fun n => Nat.and_two_pow_sub_one_eq_mod n 4
  have hlow : (byte &&& 15).toNat = byte.toNat % 16 := by
    rw [UInt8.toNat_and]
    exact hmask _
  have hhigh : (byte >>> 4 &&& 15).toNat = byte.toNat / 16 % 16 := by
    rw [UInt8.toNat_and, UInt8.toNat_shiftRight]
    exact (hmask _).trans (congrArg (· % 16) (Nat.shiftRight_eq_div_pow _ 4))
  have hlt := byte.toNat_lt
  omega

/-- **Hexadecimal is read back.** -/
theorem UTIL_HexToBytes_BytesToHex (b : Bytes) : UTIL_HexToBytes (UTIL_BytesToHex b) = b := by
  induction b with
  | nil => rfl
  | cons byte b ih =>
      obtain ⟨hhigh, hlow, hbyte⟩ := toNat_halves byte
      have hfirst : UTIL_BytesToHex (byte :: b) =
          hexchars.getD (byte >>> 4 &&& 15).toNat 0 :: hexchars.getD (byte &&& 15).toNat 0 ::
            UTIL_BytesToHex b := rfl
      rw [hfirst, UTIL_HexToBytes, hexDigit_hexchars _ hhigh]
      simp only [parseHex, hexDigit_hexchars _ hlow, hbyte, ih, UInt8.ofNat_toNat]

/-! ### The digest of a text -/

namespace SHA256

/-- A character as an operand of a bitwise operator: a digit is its number, and any other is zero. -/
def digitValue (c : UInt16) : ℕ := if 48 ≤ c ∧ c ≤ 57 then c.toNat - 48 else 0

/-- `new SHA256().digest(s)`, of a text -/
def digestOfText (s : JSString) : Bytes :=
  (reset.digest [s.map digitValue]).map UInt8.ofNat

theorem length_digestOfText (s : JSString) : (digestOfText s).length = 32 := by
  simp [digestOfText, digest, chainBytes, Sha256.Variables.toList]

/-- The letters of a hexadecimal text do not count. -/
example : (js "04AF").map digitValue = [0, 4, 0, 0] := by decide

end SHA256

/-! ### The libraries of the extension -/

/-- The libraries of the extension, and what the elliptic curve makes of a key and bytes. -/
def SoftTokenPrimitives.ofEcdsa (ecdsa : JSString → Bytes → JsonSignature) : SoftTokenPrimitives where
  B64_encode bytes := U2F.B64_encode (bytes.map UInt8.toNat)
  B64_decode := U2F.B64_decode
  UTIL_HexToBytes := U2F.UTIL_HexToBytes
  digest := SHA256.digestOfText
  sign key bytes := (UTIL_JsonSignatureToAsn1 (ecdsa key bytes)).1

/-- A text whose characters are below 128. -/
def IsAscii (s : String) : Prop := ∀ c ∈ s.toList, c.toNat < 128

instance (s : String) : Decidable (IsAscii s) := List.decidableBAll _ s.toList

/-- **The libraries of the server**, as documented. -/
structure U2FServerReferenceImpl.HasLibraries {Cert PublicKey : Type}
    (server : U2FServerReferenceImpl Cert PublicKey) : Prop where
  roundTrips : server.platform.RoundTrips
  base64 : ∀ bytes, server.platform.encodeBase64URLSafeString bytes = Base64.encode bytes
  getBytes : ∀ s, IsAscii s →
    server.platform.getBytes s = s.toList.map fun c => UInt8.ofNat c.toNat
  sha256 : ∀ bytes, server.crypto.computeSha256 bytes = .ok (Sha256.hash bytes)

namespace SoftTokenSite

section InExtension

variable {Cert PublicKey : Type} (server : U2FServerReferenceImpl Cert PublicKey)
  (accountName appId : String) (ecdsa : JSString → Bytes → JsonSignature)
  (makeBrowserData : (typ serverChallenge origin : JSString) → Option JSString → JSString)
  (attestationKey attestationCert : JSString)

/-- A text of the browser at the server, with a character for each code unit. -/
def ofCodeUnits (u : JSString) : String := String.ofList (u.map fun c => Char.ofNat c.toNat)

/-- **A site, and a browser with the extension.** -/
def inExtension : SoftTokenSite Cert PublicKey where
  server := server
  accountName := accountName
  appId := appId
  token := .ofEcdsa ecdsa
  extension := codedPrimitives makeBrowserData
  attestationKey := attestationKey
  attestationCert := attestationCert
  inBrowser := js
  atServer := ofCodeUnits

theorem ofNat_toNat_of_lt {c : Char} (h : c.toNat < 128) :
    Char.ofNat (UInt16.ofNat c.toNat).toNat = c := by
  rw [UInt16.toNat_ofNat_of_lt' (lt_trans h (by decide)), Char.ofNat_toNat]

/-- A text of ASCII characters comes back from the browser. -/
theorem ofCodeUnits_js {s : String} (h : IsAscii s) : ofCodeUnits (js s) = s := by
  have hback : (js s).map (fun c => Char.ofNat c.toNat) = s.toList := by
    rw [js, List.map_map]
    exact (List.map_congr_left fun c hc => ofNat_toNat_of_lt (h c hc)).trans (List.map_id _)
  rw [ofCodeUnits, hback, String.ofList_toList]

theorem isAscii_encode (bytes : Bytes) : IsAscii (Base64.encode bytes) := by
  have hchar : ∀ n < 64, (Base64.char n).toNat < 128 := by decide
  intro c hc
  rw [Base64.encode, String.toList_ofList] at hc
  obtain ⟨n, hn, rfl⟩ := List.mem_map.1 hc
  exact hchar n (Base64.sextets_lt bytes n hn)

/-- The code units of an ASCII text are hashed as its bytes. -/
theorem hashedBytes_js {s : String} (h : IsAscii s) :
    hashedBytes (UTIL_StringToBytes (js s)) = s.toList.map fun c => UInt8.ofNat c.toNat := by
  have hunits : UTIL_StringToBytes (js s) = s.toList.map Char.toNat := by
    rw [UTIL_StringToBytes, js, List.map_map]
    exact List.map_congr_left fun c hc =>
      UInt16.toNat_ofNat_of_lt' (lt_trans (h c hc) (by decide))
  rw [hunits, SHA256.hashedBytes_bytes, List.map_map]
  · rfl
  · intro b hb
    obtain ⟨c, hc, rfl⟩ := List.mem_map.1 hb
    exact (h c hc).trans (by decide)

variable {server accountName appId ecdsa makeBrowserData attestationKey attestationCert}
  (hserver : server.HasLibraries)

include hserver

/-- **The hash of an ASCII text is the same in the browser and at the server.** -/
theorem hashes_inExtension {s : String} (hascii : IsAscii s)
    (hlength : s.toList.length < 2 ^ 28 - 1024) :
    (inExtension server accountName appId ecdsa makeBrowserData attestationKey
      attestationCert).Hashes s := by
  have hjs : (js s).length < 2 ^ 28 - 1024 := by
    rw [js, List.length_map]
    exact hlength
  have hhash : B64_decode ((codedPrimitives makeBrowserData).hash (js s)) =
      Sha256.hash (s.toList.map fun c => UInt8.ofNat c.toNat) := by
    rw [Primitives.hash, codedPrimitives]
    simp only [sha256HashOfString_eq hjs, hashedBytes_js hascii, B64_decode_encode_bytes]
  refine ⟨_, Sha256.length_hash _, hhash, ?_⟩
  rw [← hserver.getBytes s hascii]
  exact hserver.sha256 _

/-- **The libraries of the extension agree with those of the server**, if the app id is an ASCII text
and the server accepts the certificate of the token and what it signs. -/
theorem agree_inExtension (hascii : IsAscii appId) (hlength : appId.toList.length < 2 ^ 28 - 1024)
    {cert : Cert} {bytes : Bytes} {transports : Option (List Transports)}
    (hreads : server.platform.ReadsCertificate (UTIL_HexToBytes attestationCert) cert)
    (htransports : server.parseTransports cert = .ok transports)
    (hencoded : server.platform.getEncoded cert = .ok bytes)
    (hverifies : ∀ message, server.crypto.verifyCertificateSignature cert message
      (UTIL_JsonSignatureToAsn1 (ecdsa attestationKey message)).1 = .ok true) :
    (inExtension server accountName appId ecdsa makeBrowserData attestationKey
      attestationCert).Agree where
  roundTrips := hserver.roundTrips
  decode := B64_decode_encode_bytes
  atServer data := by
    refine Eq.trans ?_ (hserver.base64 data).symm
    exact (congrArg ofCodeUnits (B64_encode_eq data)).trans (ofCodeUnits_js (isAscii_encode data))
  inBrowser data := (congrArg js (hserver.base64 data)).trans (B64_encode_eq data).symm
  version := rfl
  appId := hashes_inExtension hserver hascii hlength
  certificate := ⟨cert, transports, bytes, hreads, htransports, hencoded, hverifies⟩

omit hserver in
/-- A key pair of the extension, with an uncompressed point, is one that the server can verify. -/
theorem signsFor_inExtension {sec : JSString} {pub : Bytes} (hlength : pub.length = 65)
    {publicKey : PublicKey} (hdecode : server.crypto.decodePublicKey pub = .ok publicKey)
    (hverifies : ∀ message, server.crypto.verifySignature publicKey message
      (UTIL_JsonSignatureToAsn1 (ecdsa sec message)).1 = .ok true) :
    (inExtension server accountName appId ecdsa makeBrowserData attestationKey
      attestationCert).SignsFor ⟨sec, UTIL_BytesToHex pub⟩ := by
  have hpub : UTIL_HexToBytes (UTIL_BytesToHex pub) = pub := UTIL_HexToBytes_BytesToHex pub
  refine ⟨(congrArg List.length hpub).trans hlength, ?_, publicKey, ?_, hverifies⟩
  · exact (SHA256.length_digestOfText _).le.trans (by decide)
  · exact (congrArg server.crypto.decodePublicKey hpub).trans hdecode

end InExtension

/-! ### The server of the tests -/

section Examples

open TestVectors

/-- The bytes of an ASCII text in UTF-8. -/
theorem getBytes_of_isAscii {s : String} (h : IsAscii s) :
    TestVectors.getBytes s = s.toList.map fun c => UInt8.ofNat c.toNat := by
  have hchars : ∀ l : List Char, (∀ c ∈ l, c.toNat < 128) →
      l.flatMap String.utf8EncodeChar = l.map fun c => UInt8.ofNat c.toNat := by
    intro l hl
    induction l with
    | nil => rfl
    | cons c l ih =>
        rw [List.forall_mem_cons] at hl
        have hsize : c.utf8Size = 1 :=
          Char.utf8Size_eq_one_iff.2 (UInt32.le_iff_toNat_le.2 (Nat.le_of_lt_succ hl.1))
        rw [List.flatMap_cons, String.utf8EncodeChar_eq_singleton hsize, ih hl.2]
        rfl
  have hbytes : s.toUTF8.data.toList = s.toList.flatMap String.utf8EncodeChar := by
    have hs : s = String.ofList s.toList := String.ofList_toList.symm
    rw [String.toUTF8_eq_toByteArray]
    conv_lhs => rw [hs]
    rw [String.toByteArray_ofList, List.utf8Encode, List.data_toByteArray]
  exact hbytes.trans (hchars _ h)

/-- A curve whose signatures are the signed bytes, which `UTIL_JsonSignatureToAsn1` encodes. -/
def plainEcdsa (_ : JSString) (bytes : Bytes) : JsonSignature := ⟨bytes, bytes⟩

/-- The server of the tests, with SHA-256 and signatures of that curve. -/
def plainServer : U2FServerReferenceImpl Certificate Bytes :=
  { testServer [0x30] with
    crypto :=
      { verifyCertificateSignature := fun _ signedBytes signature =>
          .ok (signature = (UTIL_JsonSignatureToAsn1 ⟨signedBytes, signedBytes⟩).1)
        verifySignature := fun _ signedBytes signature =>
          .ok (signature = (UTIL_JsonSignatureToAsn1 ⟨signedBytes, signedBytes⟩).1)
        decodePublicKey := .ok
        computeSha256 := fun bytes => .ok (Sha256.hash bytes) } }

theorem hasLibraries_plainServer : plainServer.HasLibraries where
  roundTrips := roundTrips_platform [0x30] _
  base64 _ := rfl
  getBytes _ := getBytes_of_isAscii
  sha256 _ := rfl

/-- The extension and the server of the tests. -/
example : (inExtension plainServer ACCOUNT_NAME ORIGIN plainEcdsa (fun _ _ _ _ => []) []
    (js "30")).Agree :=
  agree_inExtension hasLibraries_plainServer (by decide) (by decide)
    (readCertificate_append [0x30]) rfl rfl fun _ => congrArg Except.ok (decide_eq_true rfl)

end Examples

end SoftTokenSite

end U2F
