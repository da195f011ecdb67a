/-
**The transports of an attestation certificate, and what they decide.**

An attestation certificate can name the transports of its key in a bit string, high bit first.  The
parser goes through the eight bits of the first byte, and there are six transports.  A bit for which
there is no transport makes it read past the end of the enumeration, and this exception is not the one
that the server catches.  So a certificate that sets such a bit cannot be registered; every other
content of the extension, and its absence, decides nothing.

Main definitions:

* `U2fAttestation.bitOf`, `U2fAttestation.definedTransports` — the bits of the first byte, and the
  transports whose bits are set;
* `U2fAttestation.SetsUndefinedBit`, `U2fAttestation.NamesUndefined` — a bit is set for which there is
  no transport;
* `U2FServerReferenceImpl.SameButTransports` — two responses that differ in the extension only.

Main results:

* `U2fAttestation.transportsOf_eq` — the loop over the bits;
* `U2FServerReferenceImpl.transportsDecideNothing_iff` — **the extension decides nothing exactly if
  the certificates set no undefined bit, or both do**, or if both responses fail another check.
-/

import Mathlib.Tactic.Tauto
import U2F.Server.Registrations

set_option relaxedAutoImplicit false
set_option autoImplicit false

namespace U2F

namespace U2fAttestation

/-! ### The bits of the first byte -/

/-- The bit `i` of a bit string, high bit first, for `i` below 8. -/
def bitOf (values : Bytes) (i : ℕ) : Bool := (values.headD 0).toNat.testBit (BITS_IN_A_BYTE - i - 1)

/-- The entries of a list whose bits are set, in order. -/
def selected {α : Type} (bit : ℕ → Bool) (entries : List α) : List α :=
  (entries.zipIdx.filter fun entry => bit entry.2).map Prod.fst

/-- The transports whose bits are set, in order. -/
def definedTransports (values : Bytes) : List Transports := selected (bitOf values) Transports.values

/-- A bit of the first byte is set for which there is no transport. -/
def SetsUndefinedBit (values : Bytes) : Prop :=
  ∃ i, Transports.values.length ≤ i ∧ i < BITS_IN_A_BYTE ∧ bitOf values i = true

/-- The bit set is read in the first byte only. -/
theorem bitSetGet_eq (values : Bytes) {i : ℕ} (h : i < BITS_IN_A_BYTE) :
    bitSetGet values (BITS_IN_A_BYTE - i - 1) = bitOf values i := by
  have hbyte : (BITS_IN_A_BYTE - i - 1) / 8 = 0 := by
    rw [BITS_IN_A_BYTE] at h ⊢
    omega
  have hbit : (BITS_IN_A_BYTE - i - 1) % 8 = BITS_IN_A_BYTE - i - 1 := by
    rw [BITS_IN_A_BYTE] at h ⊢
    omega
  have hhead : (values[0]?).getD 0 = values.headD 0 := by
    cases values with
    | nil => rfl
    | cons b values => rfl
  rw [bitSetGet, hbyte, hbit, hhead, bitOf]

theorem selected_concat {α : Type} (bit : ℕ → Bool) (entries : List α) (a : α) :
    selected bit (entries ++ [a]) =
      if bit entries.length then selected bit entries ++ [a] else selected bit entries := by
  rw [selected, List.zipIdx_append, List.filter_append, List.map_append, ← selected]
  cases hbit : bit entries.length with
  | true => simp [hbit]
  | false => simp [hbit]

/-- **A loop over the bits that are set, which reads an entry for each**: it fails exactly if one of the
bits has no entry. -/
theorem mapM_bits {α ε : Type} (e : ε) (bit : ℕ → Bool) (entries : List α) (n : ℕ) :
    (∃ i, entries.length ≤ i ∧ i < n ∧ bit i = true) ∧
        ((List.range n).filter bit).mapM (fun i => (orThrow entries[i]? e : Except ε α)) = .error e ∨
      (¬ ∃ i, entries.length ≤ i ∧ i < n ∧ bit i = true) ∧
        ((List.range n).filter bit).mapM (fun i => (orThrow entries[i]? e : Except ε α)) =
          .ok (selected bit (entries.take n)) := by
  induction n with
  | zero =>
      right
      refine ⟨?_, rfl⟩
      rintro ⟨i, -, hlt, -⟩
      omega
  | succ n ih =>
      rw [List.range_succ, List.filter_append, List.mapM_append]
      rcases ih with ⟨⟨i, hle, hlt, hbit⟩, herror⟩ | ⟨hnone, hok⟩
      · -- it has failed before
        rw [herror]
        exact .inl ⟨⟨i, hle, by omega, hbit⟩, rfl⟩
      · rw [hok]
        rcases Nat.lt_or_ge n entries.length with hn | hn
        · -- there is an entry for the bit `n`
          have hnone' : ¬ ∃ i, entries.length ≤ i ∧ i < n + 1 ∧ bit i = true := by
            rintro ⟨i, hle, hlt, hbit⟩
            exact hnone ⟨i, hle, by omega, hbit⟩
          have htake : entries.take (n + 1) = entries.take n ++ [entries[n]] := by
            rw [List.take_add_one, List.getElem?_eq_getElem hn]
            rfl
          have hlength : (entries.take n).length = n := List.length_take_of_le (by omega)
          right
          refine ⟨hnone', ?_⟩
          rw [htake, selected_concat, hlength]
          cases hbit : bit n with
          | true => simp [hbit, orThrow, hn]
          | false => simp [hbit]
        · rw [List.take_of_length_le (by omega : entries.length ≤ n)] at hok ⊢
          rw [List.take_of_length_le (by omega : entries.length ≤ n + 1)]
          cases hbit : bit n with
          | true =>
              left
              refine ⟨⟨n, hn, by omega, hbit⟩, ?_⟩
              simp [hbit, orThrow, List.getElem?_eq_none hn]
              rfl
          | false =>
              right
              refine ⟨?_, by simp [hbit]⟩
              rintro ⟨i, hle, hlt, hbit'⟩
              rcases Nat.lt_succ_iff_lt_or_eq.1 hlt with hlt | rfl
              · exact hnone ⟨i, hle, hlt, hbit'⟩
              · exact absurd (hbit.symm.trans hbit') (by simp)

/-- **The transports of a bit string**: those whose bits are set in the first byte, unless a bit is set
for which there is none. -/
theorem transportsOf_eq (values : Bytes) :
    SetsUndefinedBit values ∧ transportsOf values = .error .indexOutOfBoundsException ∨
      ¬ SetsUndefinedBit values ∧ transportsOf values = .ok (definedTransports values) := by
  have hfilter : ((List.range BITS_IN_A_BYTE).filter fun i =>
      bitSetGet values (BITS_IN_A_BYTE - i - 1)) = (List.range BITS_IN_A_BYTE).filter (bitOf values) :=
    List.filter_congr fun i hi => bitSetGet_eq values (List.mem_range.1 hi)
  have htake : Transports.values.take BITS_IN_A_BYTE = Transports.values := rfl
  rw [transportsOf, hfilter, definedTransports, ← htake]
  exact mapM_bits _ _ _ _

/-! ### The extension of a certificate -/

variable {Cert : Type} (P : Platform Cert)

/-- The extension of a certificate is a bit string. -/
def IsBitString (cert : Cert) (values : Bytes) : Prop :=
  ∃ octets, extractExtensionValue P cert TRANSPORT_EXTENSION_OID = .ok (some octets) ∧
    getAsn1Object P octets = .ok (some (.derBitString values))

/-- The extension of a certificate is a bit string that sets an undefined bit. -/
def NamesUndefined (cert : Cert) : Prop := ∃ values, IsBitString P cert values ∧ SetsUndefinedBit values

variable {P}

theorem IsBitString.unique {cert : Cert} {values values' : Bytes} (h : IsBitString P cert values)
    (h' : IsBitString P cert values') : values = values' := by
  obtain ⟨octets, hoctets, hvalues⟩ := h
  obtain ⟨octets', hoctets', hvalues'⟩ := h'
  obtain rfl : octets = octets' := by simpa using hoctets.symm.trans hoctets'
  simpa using hvalues.symm.trans hvalues'

theorem Parse_of_isBitString {cert : Cert} {values : Bytes} (h : IsBitString P cert values) :
    Parse P cert = some <$> transportsOf values := by
  obtain ⟨octets, hoctets, hvalues⟩ := h
  rw [Parse, hoctets, Except.ok_bind]
  simp only [hvalues, Except.ok_bind]
  rfl

/-- **The parser returns exactly the transports whose bits are set, unless an undefined bit is set.** -/
theorem Parse_eq_defined_iff {cert : Cert} {values : Bytes} (h : IsBitString P cert values) :
    Parse P cert = .ok (some (definedTransports values)) ↔ ¬ SetsUndefinedBit values := by
  rw [Parse_of_isBitString h]
  rcases transportsOf_eq values with ⟨hset, herror⟩ | ⟨hset, hok⟩
  · rw [herror]
    refine iff_of_false ?_ (not_not.2 hset)
    intro hcontra
    cases hcontra
  · rw [hok]
    exact iff_of_true rfl hset

end U2fAttestation

/-- The X.509 and ASN.1 libraries, as documented: a certificate that has been read from its encoding
has one, and reading an ASN.1 object throws nothing but an `IOException`. -/
structure Platform.ReadsExtensions {Cert : Type} (P : Platform Cert) : Prop where
  getEncoded_ok : ∀ data cert rest, P.generateCertificate data = .ok (cert, rest) →
    ∃ bytes, P.getEncoded cert = .ok bytes
  readObject_throws : ∀ octets e, P.readObject octets = .error e → e = .ioException

namespace U2fAttestation

variable {Cert : Type} {P : Platform Cert}

theorem getAsn1Object_throws (hP : P.ReadsExtensions) {octets : Bytes} {e : Throwable}
    (h : getAsn1Object P octets = .error e) : ∃ message, e = .certificateParsingException message := by
  obtain ⟨e', he', rfl⟩ := Except.mapError_eq_error_iff.1 h
  rw [hP.readObject_throws octets e' he', if_pos rfl]
  exact ⟨_, rfl⟩

/-- **What escapes from the parser**: nothing but a `CertificateParsingException`, unless an undefined
bit is set. -/
theorem Parse_throws (hP : P.ReadsExtensions) {cert : Cert} {e : Throwable}
    (h : Parse P cert = .error e) :
    (∃ message, e = .certificateParsingException message) ∧ ¬ NamesUndefined P cert ∨
      e = .indexOutOfBoundsException ∧ NamesUndefined P cert := by
  have hnot : (∀ values, ¬ IsBitString P cert values) → ¬ NamesUndefined P cert :=
    fun hnone ⟨values, hvalues, _⟩ => hnone values hvalues
  by_cases hbits : ∃ values, IsBitString P cert values
  · obtain ⟨values, hvalues⟩ := hbits
    rw [Parse_of_isBitString hvalues] at h
    rcases transportsOf_eq values with ⟨hset, herror⟩ | ⟨hset, hok⟩
    · rw [herror] at h
      cases h
      exact .inr ⟨rfl, values, hvalues, hset⟩
    · rw [hok] at h
      cases h
  · left
    refine ⟨?_, hnot (not_exists.1 hbits)⟩
    rw [Parse] at h
    cases hvalue : extractExtensionValue P cert TRANSPORT_EXTENSION_OID with
    | error e' =>
        rw [hvalue] at h
        cases h
        -- the value of the extension could not be read, or is not an octet string
        rw [extractExtensionValue] at hvalue
        split at hvalue
        · cases hvalue
        · cases hvalue
        · cases hobject : getAsn1Object P _ with
          | error e'' =>
              rw [hobject] at hvalue
              cases hvalue
              exact getAsn1Object_throws hP hobject
          | ok object =>
              rw [hobject, Except.ok_bind] at hvalue
              split at hvalue
              · cases hvalue
              · cases hvalue
                exact ⟨_, rfl⟩
    | ok octets =>
        rw [hvalue, Except.ok_bind] at h
        cases octets with
        | none => cases h
        | some octets =>
            cases hobject : getAsn1Object P octets with
            | error e' =>
                simp only [hobject] at h
                cases h
                exact getAsn1Object_throws hP hobject
            | ok object =>
                simp only [hobject, Except.ok_bind] at h
                split at h
                case h_1 values => exact absurd ⟨values, octets, hvalue, hobject⟩ hbits
                case h_2 =>
                  cases h
                  exact ⟨_, rfl⟩

end U2fAttestation

namespace U2FServerReferenceImpl

open U2fAttestation

variable {Cert PublicKey : Type} (server : U2FServerReferenceImpl Cert PublicKey)

/-! ### What the extension decides -/

theorem parseTransports_ok_iff (hP : server.platform.ReadsExtensions) {cert : Cert} :
    (∃ transports, server.parseTransports cert = .ok transports) ↔
      ¬ NamesUndefined server.platform cert := by
  rw [parseTransports]
  cases h : Parse server.platform cert with
  | ok transports =>
      refine iff_of_true ⟨transports, rfl⟩ ?_
      rintro ⟨values, hvalues, hset⟩
      rw [Parse_of_isBitString hvalues] at h
      rcases transportsOf_eq values with ⟨-, herror⟩ | ⟨hset', -⟩
      · rw [herror] at h
        cases h
      · exact hset' hset
  | error e =>
      rcases Parse_throws hP h with ⟨⟨message, rfl⟩, hnames⟩ | ⟨rfl, hnames⟩
      · -- the exception is caught, and there are no transports
        exact iff_of_true ⟨none, rfl⟩ hnames
      · refine iff_of_false ?_ (not_not.2 hnames)
        rintro ⟨transports, hcontra⟩
        cases hcontra

/-- The response passes all the other checks. -/
def PassesChecks (store : MemoryDataStore Cert) (response : RegistrationResponse) : Prop :=
  ∃ session clientData message, store.getEnrollSessionData response.sessionId = some session ∧
    server.ProperRegistration session response clientData message

/-- Two responses with the same client data for the same session, and the same key, whose certificates
verify the same signed bytes. -/
structure SameButTransports (response response' : RegistrationResponse)
    (message message' : RegisterResponse Cert) : Prop where
  carries : server.RegistrationMessage response message
  carries' : server.RegistrationMessage response' message'
  sessionId : response.sessionId = response'.sessionId
  clientData : response.clientData = response'.clientData
  keyHandle : message.keyHandle = message'.keyHandle
  userPublicKey : message.userPublicKey = message'.userPublicKey
  verifies : ∀ signedBytes,
    server.crypto.verifyCertificateSignature message.attestationCertificate signedBytes
        message.signature =
      server.crypto.verifyCertificateSignature message'.attestationCertificate signedBytes
        message'.signature

variable {server}

theorem SameButTransports.symm {response response' : RegistrationResponse}
    {message message' : RegisterResponse Cert}
    (h : server.SameButTransports response response' message message') :
    server.SameButTransports response' response message' message where
  carries := h.carries'
  carries' := h.carries
  sessionId := h.sessionId.symm
  clientData := h.clientData.symm
  keyHandle := h.keyHandle.symm
  userPublicKey := h.userPublicKey.symm
  verifies signedBytes := (h.verifies signedBytes).symm

/-- The other checks do not see the extension. -/
theorem SameButTransports.passesChecks {response response' : RegistrationResponse}
    {message message' : RegisterResponse Cert}
    (h : server.SameButTransports response response' message message') {store : MemoryDataStore Cert}
    (hpasses : server.PassesChecks store response) : server.PassesChecks store response' := by
  obtain ⟨session, clientData, m, hsession, hproper⟩ := hpasses
  obtain rfl := registrationMessage_unique h.carries hproper.carries
  refine ⟨session, clientData, message', h.sessionId ▸ hsession, h.clientData ▸ hproper.decodes,
    h.carries', hproper.checks, ?_⟩
  obtain ⟨appIdSha256, clientDataSha256, happId, hclientData, hverifies⟩ := hproper.verifies
  refine ⟨appIdSha256, clientDataSha256, happId, hclientData, ?_⟩
  rw [← h.verifies, ← h.keyHandle, ← h.userPublicKey]
  exact hverifies

theorem SameButTransports.passesChecks_iff {response response' : RegistrationResponse}
    {message message' : RegisterResponse Cert}
    (h : server.SameButTransports response response' message message')
    {store : MemoryDataStore Cert} :
    server.PassesChecks store response ↔ server.PassesChecks store response' :=
  ⟨h.passesChecks, h.symm.passesChecks⟩

variable [DecidableEq Cert]

/-- A response is accepted if it passes the other checks and its certificate names no undefined
transport. -/
theorem accepts_registration_iff (hP : server.platform.ReadsExtensions)
    {store : MemoryDataStore Cert} {response : RegistrationResponse} {time : Int64}
    {message : RegisterResponse Cert} (hmessage : server.RegistrationMessage response message) :
    server.Accepts store (.processRegistrationResponse response time) ↔
      server.PassesChecks store response ∧
        ¬ NamesUndefined server.platform message.attestationCertificate := by
  rw [← server.parseTransports_ok_iff hP]
  constructor
  · intro haccepts
    rcases server.step_processRegistrationResponse store response time with
      ⟨session, clientData, m, transports, hsession, hvalid, -⟩ | ⟨⟨e, he⟩, -⟩
    · obtain rfl := registrationMessage_unique hmessage hvalid.carries
      exact ⟨⟨session, clientData, message, hsession, hvalid.decodes, hvalid.carries, hvalid.checks,
        hvalid.verifies⟩, transports, hvalid.parses⟩
    · exact absurd haccepts (server.not_accepts_of_error he)
  · rintro ⟨⟨session, clientData, m, hsession, hproper⟩, transports, htransports⟩
    obtain rfl := registrationMessage_unique hmessage hproper.carries
    obtain ⟨raw, -, hdecodes⟩ := hproper.carries
    obtain ⟨_, _, hcert⟩ := RawMessageCodec.generateCertificate_of_decodeRegisterResponse hdecodes
    have hvalid : server.ValidRegistrationResponse session response clientData message transports :=
      ⟨hproper.decodes, hproper.carries, htransports, hP.getEncoded_ok _ _ _ hcert, hproper.checks,
        hproper.verifies⟩
    exact ⟨_, (server.step_of_validRegistrationResponse hsession hvalid time).1⟩

variable (server)

/-- **The extension decides nothing, exactly if both certificates name undefined transports or neither
does, or the responses fail another check.**  The parser returns exactly the transports whose bits are
set, exactly if no undefined bit is set. -/
theorem transportsDecideNothing_iff (hP : server.platform.ReadsExtensions) :
    (∀ store response response' message message' time,
      server.SameButTransports response response' message message' →
      ((server.Accepts store (.processRegistrationResponse response time) ↔
          server.Accepts store (.processRegistrationResponse response' time)) ↔
        (NamesUndefined server.platform message.attestationCertificate ↔
            NamesUndefined server.platform message'.attestationCertificate) ∨
          ¬ server.PassesChecks store response)) ∧
    ∀ cert values, IsBitString server.platform cert values →
      (Parse server.platform cert = .ok (some (definedTransports values)) ↔
        ¬ SetsUndefinedBit values) := by
  refine ⟨?_, fun cert values h => Parse_eq_defined_iff h⟩
  intro store response response' message message' time h
  rw [accepts_registration_iff hP h.carries, accepts_registration_iff hP h.carries',
    ← h.passesChecks_iff]
  tauto

/-! ### A certificate with an undefined transport -/

section Witness

open TestVectors

/-- Certificates of a key, which differ in the extension: it is absent, or names three transports, or
sets the last bit of its byte. -/
inductive Attestation
  | withoutTransports
  | threeTransports
  | undefinedTransport
  deriving DecidableEq

namespace Attestation

/-- A certificate stands for its encoding. -/
def encoded : Attestation → Bytes
  | withoutTransports => [0]
  | threeTransports => [1]
  | undefinedTransport => [2]

def read : Bytes → Except Throwable (Attestation × Bytes)
  | 0 :: rest => .ok (withoutTransports, rest)
  | 1 :: rest => .ok (threeTransports, rest)
  | 2 :: rest => .ok (undefinedTransport, rest)
  | _ => .error .certificateException

/-- The octet strings that wrap the bit strings `1101` and `00000001`. -/
def extension : Attestation → Option Bytes
  | withoutTransports => none
  | threeTransports => some [0x04, 0x04, 0x03, 0x02, 0x04, 0xD0]
  | undefinedTransport => some [0x04, 0x04, 0x03, 0x02, 0x00, 0x01]

/-- An octet string or a bit string of the length that it says. -/
def readObject : Bytes → Except Throwable (Option Asn1Object)
  | [] => .ok none
  | 0x04 :: n :: rest =>
      if rest.length = n.toNat then .ok (some (.octetString rest)) else .error .ioException
  | 0x03 :: n :: unused :: rest =>
      if rest.length + 1 = n.toNat ∧ unused.toNat < 8 then .ok (some (.derBitString rest))
      else .error .ioException
  | _ => .error .ioException

/-- The platform of the tests, with the two certificates. -/
def platform : Platform Attestation where
  newString := (testServer []).platform.newString
  getBytes := (testServer []).platform.getBytes
  encodeBase64URLSafeString := Base64.encode
  decodeBase64 := Base64.decode
  parseJson := (testServer []).platform.parseJson
  jsonToString := jsonText
  newURI := (testServer []).platform.newURI
  generateCertificate := read
  getEncoded cert := .ok cert.encoded
  getExtensionValue cert _ := cert.extension
  readObject := readObject

theorem roundTrips_platform : platform.RoundTrips where
  newString_getBytes := (TestVectors.roundTrips_platform [] []).newString_getBytes
  decodeBase64_encodeBase64 := Base64.decode_encode
  generateCertificate_getEncoded cert bytes rest h := by
    obtain rfl := Except.ok.inj h
    cases cert with
    | withoutTransports => rfl
    | threeTransports => rfl
    | undefinedTransport => rfl

theorem readsExtensions_platform : platform.ReadsExtensions where
  getEncoded_ok _ cert _ _ := ⟨cert.encoded, rfl⟩
  readObject_throws octets e h := by
    change readObject octets = .error e at h
    unfold readObject at h
    split at h
    · cases h
    · split at h
      · cases h
      · exact (Except.error.inj h).symm
    · split at h
      · cases h
      · exact (Except.error.inj h).symm
    · exact (Except.error.inj h).symm

/-- The message of a registration with the certificate. -/
def message (cert : Attestation) : RegisterResponse Attestation :=
  ⟨USER_PUBLIC_KEY_ENROLL, KEY_HANDLE, cert,
    (registerResponse KEY_HANDLE USER_PUBLIC_KEY_ENROLL).signature⟩

def response (cert : Attestation) : RegistrationResponse :=
  ⟨some (Base64.encode (RawMessageCodec.REGISTRATION_RESERVED_BYTE_VALUE :: USER_PUBLIC_KEY_ENROLL ++
      UInt8.ofNat KEY_HANDLE.length :: KEY_HANDLE ++ cert.encoded ++ cert.message.signature)),
    some (Base64.encode (platform.getBytes (jsonText BROWSER_DATA_ENROLL))), some firstSessionId⟩

end Attestation

/-- A server with this platform, for which the signed bytes are the signature. -/
def attestationServer : U2FServerReferenceImpl Attestation Bytes where
  platform := Attestation.platform
  crypto :=
    { verifyCertificateSignature := fun _ signedBytes signature => .ok (signature = signedBytes)
      verifySignature := TestVectors.crypto.verifySignature
      decodePublicKey := .ok
      computeSha256 := TestVectors.crypto.computeSha256 }
  sessionIdGenerator := httpSessionIdGenerator
  allowedOrigins := [ORIGIN]

theorem registrationMessage_response (cert : Attestation) :
    attestationServer.RegistrationMessage cert.response cert.message := by
  refine ⟨_, Attestation.roundTrips_platform.bytesOfBase64_encode _, ?_⟩
  exact RawMessageCodec.decodeRegisterResponse_of_parts length_USER_PUBLIC_KEY_ENROLL
    length_KEY_HANDLE_le fun rest =>
      Attestation.roundTrips_platform.generateCertificate_getEncoded cert cert.encoded rest rfl

/-- A store with the session of the registration. -/
def attestationStore : MemoryDataStore Attestation :=
  (MemoryDataStore.new.storeSessionData httpSessionIdGenerator (.enroll SESSION)).2

/-- The responses pass all the other checks. -/
theorem verifiesRegistration_message (cert : Attestation) :
    attestationServer.VerifiesRegistration ORIGIN (jsonText BROWSER_DATA_ENROLL) cert.message :=
  ⟨_, _, rfl, rfl, congrArg Except.ok (decide_eq_true rfl)⟩

theorem passesChecks_response (cert : Attestation) :
    attestationServer.PassesChecks attestationStore cert.response := by
  have hdata : attestationStore.getSessionData (some firstSessionId) = some (.enroll SESSION) :=
    MemoryDataStore.getSessionData_storeSessionData MemoryDataStore.new httpSessionIdGenerator
      (.enroll SESSION)
  have hsession : attestationStore.getEnrollSessionData (some firstSessionId) = some SESSION :=
    MemoryDataStore.getEnrollSessionData_eq_some_iff.2 ⟨_, hdata, rfl⟩
  have hmembers : attestationServer.ValidMembers (browserData "navigator.id.finishEnrollment")
      "navigator.id.finishEnrollment" SESSION.challenge :=
    ⟨rfl, ⟨SERVER_CHALLENGE_BASE64, rfl, rfl⟩, fun _ =>
      ⟨ORIGIN, ORIGIN, rfl, canonicalizeOrigin_ORIGIN [], List.mem_singleton_self _⟩⟩
  have hsame : attestationServer.platform.parseJson = (testServer []).platform.parseJson := rfl
  have hparse := parseJson_enroll []
  rw [← hsame] at hparse
  have hchecks : attestationServer.ValidBrowserData (jsonText BROWSER_DATA_ENROLL)
      "navigator.id.finishEnrollment" SESSION.challenge := ⟨_, hparse, hmembers⟩
  exact ⟨SESSION, jsonText BROWSER_DATA_ENROLL, cert.message, hsession,
    Attestation.roundTrips_platform.stringOfBase64_encode _, registrationMessage_response cert, hchecks,
    verifiesRegistration_message cert⟩

theorem sameButTransports_response (cert cert' : Attestation) :
    attestationServer.SameButTransports cert.response cert'.response cert.message cert'.message where
  carries := registrationMessage_response cert
  carries' := registrationMessage_response cert'
  sessionId := rfl
  clientData := rfl
  keyHandle := rfl
  userPublicKey := rfl
  verifies _ := rfl

theorem isBitString_undefinedTransport :
    IsBitString attestationServer.platform .undefinedTransport [0x01] ∧ SetsUndefinedBit [0x01] :=
  ⟨⟨[0x03, 0x02, 0x00, 0x01], rfl, rfl⟩, 7, by decide, by decide, by decide⟩

theorem isBitString_threeTransports :
    IsBitString attestationServer.platform .threeTransports [0xD0] ∧ ¬ SetsUndefinedBit [0xD0] := by
  refine ⟨⟨[0x03, 0x02, 0x04, 0xD0], rfl, rfl⟩, ?_⟩
  rintro ⟨i, hle, hlt, hbit⟩
  obtain rfl | rfl : i = 6 ∨ i = 7 := by
    simp only [Transports.values, BITS_IN_A_BYTE, List.length_cons, List.length_nil] at hle hlt
    omega
  · exact absurd hbit (by decide)
  · exact absurd hbit (by decide)

theorem not_namesUndefined_withoutTransports :
    ¬ NamesUndefined attestationServer.platform .withoutTransports := by
  rintro ⟨values, ⟨octets, hoctets, -⟩, -⟩
  cases hoctets

/-- Two responses that differ in the extension only, of which one is accepted and the other is not:
a bit is set for which there is no transport. -/
theorem not_transportsDecideNothing :
    attestationServer.SameButTransports (Attestation.response .withoutTransports)
        (Attestation.response .undefinedTransport) (Attestation.message .withoutTransports)
        (Attestation.message .undefinedTransport) ∧
      ¬ (attestationServer.Accepts attestationStore
          (.processRegistrationResponse (Attestation.response .withoutTransports) 0) ↔
        attestationServer.Accepts attestationStore
          (.processRegistrationResponse (Attestation.response .undefinedTransport) 0)) ∧
      Parse attestationServer.platform .undefinedTransport ≠
        .ok (some (definedTransports [0x01])) := by
  obtain ⟨hbits, hset⟩ := isBitString_undefinedTransport
  refine ⟨sameButTransports_response _ _, ?_, fun h => (Parse_eq_defined_iff hbits).1 h hset⟩
  rw [accepts_registration_iff Attestation.readsExtensions_platform
      (registrationMessage_response .withoutTransports),
    accepts_registration_iff Attestation.readsExtensions_platform
      (registrationMessage_response .undefinedTransport)]
  intro h
  exact (h.1 ⟨passesChecks_response _, not_namesUndefined_withoutTransports⟩).2
    ⟨[0x01], hbits, hset⟩

/-- A response whose certificate names three transports, and one whose certificate names none: either
both are accepted or neither is. -/
theorem accepts_threeTransports_iff :
    (attestationServer.Accepts attestationStore
        (.processRegistrationResponse (Attestation.response .withoutTransports) 0) ↔
      attestationServer.Accepts attestationStore
        (.processRegistrationResponse (Attestation.response .threeTransports) 0)) ∧
    Parse attestationServer.platform .threeTransports =
      .ok (some [.BLUETOOTH_BREDR, .BLUETOOTH_LOW_ENERGY, .NFC]) := by
  obtain ⟨hbits, hset⟩ := isBitString_threeTransports
  have hnames : ¬ NamesUndefined attestationServer.platform .threeTransports := by
    rintro ⟨values, hvalues, hset'⟩
    exact hset (hbits.unique hvalues ▸ hset')
  obtain ⟨hdecides, hparse⟩ :=
    transportsDecideNothing_iff attestationServer Attestation.readsExtensions_platform
  exact ⟨(hdecides _ _ _ _ _ 0 (sameButTransports_response _ _)).2
    (.inl (iff_of_false not_namesUndefined_withoutTransports hnames)), (hparse _ _ hbits).2 hset⟩

end Witness

end U2FServerReferenceImpl

end U2F
