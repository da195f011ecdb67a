/-
**The raw message formats are exact.**

Each of the four messages has a layout, given by the lengths of its parts and by the length that
the message itself announces.  A decoder accepts the byte strings of its layout and ends in a
`U2FException` on all others, and on what it accepts it is inverse to its encoder.  Each decoder is
read backwards once: it returns a message exactly when the message is well formed and encodes to
the bytes.

Main definitions:

* `RegisterRequest.WellFormed`, `RegisterResponse.WellFormed`, … — the sizes of the parts;
* `RegisterRequest.Layout`, `RegisterResponse.Layout`, … — the layouts;
* `RawMessageCodec.Exact` — the four codecs are exact, and what they refuse in particular.

Main results:

* `RawMessageCodec.decodeRegisterResponse_eq_ok_iff`, … — the decoders, read backwards;
* `RawMessageCodec.exact_of_parsesCertificates` — **the codec is exact**, for every X.509 parser
  that reads exactly one certificate.
-/

import U2F.Lib.ExactCodec
import U2F.Codec.RawMessageCodec
import U2F.Server.TestVectors

set_option relaxedAutoImplicit false
set_option autoImplicit false

namespace U2F

/-! ### Sizes and layouts -/

structure RegisterRequest.WellFormed (r : RegisterRequest) : Prop where
  length_applicationSha256 : r.applicationSha256.length = 32
  length_challengeSha256 : r.challengeSha256.length = 32

structure RegisterResponse.WellFormed {Cert : Type} (r : RegisterResponse Cert) : Prop where
  length_userPublicKey : r.userPublicKey.length = 65
  length_keyHandle : r.keyHandle.length ≤ 255

structure AuthenticateRequest.WellFormed (r : AuthenticateRequest) : Prop where
  length_challengeSha256 : r.challengeSha256.length = 32
  length_applicationSha256 : r.applicationSha256.length = 32
  length_keyHandle : r.keyHandle.length ≤ 255

/-- Two hashes. -/
def RegisterRequest.Layout (data : Bytes) : Prop := data.length = 64

/-- The reserved byte, a public key, the length of the key handle, the key handle, a certificate,
and then a signature. -/
def RegisterResponse.Layout {Cert : Type} (P : Platform Cert) (data : Bytes) : Prop :=
  data[0]? = some 0x05 ∧ ∃ n, data[66]? = some n ∧ 67 + n.toNat ≤ data.length ∧
    ∃ cert bytes, P.getEncoded cert = .ok bytes ∧ bytes <+: data.drop (67 + n.toNat)

/-- The control byte, two hashes, the length of the key handle, and the key handle. -/
def AuthenticateRequest.Layout (data : Bytes) : Prop :=
  ∃ n, data[65]? = some n ∧ data.length = 66 + n.toNat

/-- The user presence, the counter, and then a signature. -/
def AuthenticateResponse.Layout (data : Bytes) : Prop := 5 ≤ data.length

/-- Nothing can be added to a registration request. -/
theorem RegisterRequest.prefixFree_layout : PrefixFree RegisterRequest.Layout := by
  intro b c hb hbc
  rw [Layout] at hb hbc
  rw [List.length_append] at hbc
  exact List.length_eq_zero_iff.1 (by omega)

/-- Nothing can be added to an authentication request: its length byte stays where it is. -/
theorem AuthenticateRequest.prefixFree_layout : PrefixFree AuthenticateRequest.Layout := by
  rintro b c ⟨n, hn, hb⟩ ⟨m, hm, hbc⟩
  have hlt : 65 < b.length := by omega
  rw [List.getElem?_append_left hlt, hn, Option.some.injEq] at hm
  rw [List.length_append, hb, hm] at hbc
  exact List.length_eq_zero_iff.1 (by omega)

/-! ### Byte strings and their parts -/

theorem exists_append_of_le {n : ℕ} {data : Bytes} (h : n ≤ data.length) :
    ∃ front rest, front.length = n ∧ data = front ++ rest :=
  ⟨data.take n, data.drop n, List.length_take_of_le h, (List.take_append_drop n data).symm⟩

/-- A byte string splits at each of its bytes. -/
theorem getElem?_eq_some_iff_append {i : ℕ} {data : Bytes} {n : UInt8} :
    data[i]? = some n ↔ ∃ front rest, front.length = i ∧ data = front ++ n :: rest := by
  constructor
  · intro h
    obtain ⟨hi, rfl⟩ := List.getElem?_eq_some_iff.1 h
    refine ⟨data.take i, data.drop (i + 1), List.length_take_of_le hi.le, ?_⟩
    rw [← List.drop_eq_getElem_cons hi, List.take_append_drop]
  · rintro ⟨front, rest, rfl, rfl⟩
    simp

namespace RawMessageCodec

open ByteStream

/-! ### The decoders, read backwards -/

theorem parse_eq_ok_iff {α : Type} {x : InputStream α} {data : Bytes} {a : α} :
    parse x data = .ok a ↔ ∃ rest, x.run data = .ok (a, rest) := by
  rw [parse]
  rcases x.run data with e | ⟨b, rest⟩ <;> simp

theorem decodeRegisterRequest_eq_ok_iff {data : Bytes} {r : RegisterRequest} :
    decodeRegisterRequest data = .ok r ↔ r.WellFormed ∧ encodeRegisterRequest r = data := by
  simp only [decodeRegisterRequest, flip, Except.mapError_eq_ok_iff, parse_eq_ok_iff,
    run_bind_eq_ok_iff, run_readFully_eq_ok_iff, run_available_eq_ok_iff, run_throwIf_eq_ok_iff,
    run_pure_eq_ok_iff]
  constructor
  · rintro ⟨_, challenge, _, ⟨hchallenge, rfl⟩, appId, rest, ⟨happId, rfl⟩, n, _, ⟨hn, rfl⟩, _, _,
      ⟨hempty, rfl⟩, rfl, rfl⟩
    obtain rfl : rest = [] := List.length_eq_zero_iff.1 (by omega)
    exact ⟨⟨happId, hchallenge⟩, by simp [encodeRegisterRequest]⟩
  · rintro ⟨⟨happId, hchallenge⟩, rfl⟩
    exact ⟨[], _, _, ⟨hchallenge, rfl⟩, _, [], ⟨happId, by simp⟩, 0, [], ⟨rfl, rfl⟩, ⟨⟩, [],
      ⟨by simp, rfl⟩, rfl, rfl⟩

theorem encodeAuthenticateRequest_eq_ok_iff {r : AuthenticateRequest} {data : Bytes} :
    encodeAuthenticateRequest r = .ok data ↔ r.keyHandle.length ≤ 255 ∧
      r.control :: r.challengeSha256 ++ r.applicationSha256 ++
        UInt8.ofNat r.keyHandle.length :: r.keyHandle = data := by
  simp only [encodeAuthenticateRequest, Except.bind_eq_ok_iff, throwIf_eq_ok_iff, gt_iff_lt,
    Nat.not_lt]
  exact ⟨fun ⟨_, h, hd⟩ => ⟨h, Except.ok.inj hd⟩, fun ⟨h, hd⟩ => ⟨(), h, congrArg _ hd⟩⟩

theorem decodeAuthenticateRequest_eq_ok_iff {data : Bytes} {r : AuthenticateRequest} :
    decodeAuthenticateRequest data = .ok r ↔
      r.WellFormed ∧ encodeAuthenticateRequest r = .ok data := by
  simp only [decodeAuthenticateRequest, flip, Except.mapError_eq_ok_iff, parse_eq_ok_iff,
    run_bind_eq_ok_iff, run_readByte_eq_ok_iff, run_readFully_eq_ok_iff,
    run_readUnsignedByte_eq_ok_iff, run_available_eq_ok_iff, run_throwIf_eq_ok_iff,
    run_pure_eq_ok_iff, encodeAuthenticateRequest_eq_ok_iff]
  constructor
  · rintro ⟨_, control, _, rfl, challenge, _, ⟨hchallenge, rfl⟩, appId, _, ⟨happId, rfl⟩, len, _,
      ⟨hlen, rfl⟩, keyHandle, rest, ⟨hkeyHandle, rfl⟩, n, _, ⟨hn, rfl⟩, _, _, ⟨hempty, rfl⟩, rfl,
      rfl⟩
    obtain rfl : rest = [] := List.length_eq_zero_iff.1 (by omega)
    subst hkeyHandle
    exact ⟨⟨hchallenge, happId, hlen⟩, hlen, by simp⟩
  · rintro ⟨⟨hchallenge, happId, hlen⟩, -, rfl⟩
    exact ⟨[], _, _, rfl, _, r.applicationSha256 ++ UInt8.ofNat r.keyHandle.length :: r.keyHandle,
      ⟨hchallenge, by simp⟩, _, _, ⟨happId, rfl⟩, _, _, ⟨hlen, rfl⟩, r.keyHandle, [],
      ⟨rfl, by simp⟩, 0, [], ⟨rfl, rfl⟩, ⟨⟩, [], ⟨by simp, rfl⟩, rfl, rfl⟩

theorem decodeAuthenticateResponse_eq_ok_iff {data : Bytes} {r : AuthenticateResponse} :
    decodeAuthenticateResponse data = .ok r ↔ encodeAuthenticateResponse r = data := by
  simp only [decodeAuthenticateResponse, flip, Except.mapError_eq_ok_iff, parse_eq_ok_iff,
    run_bind_eq_ok_iff, run_readByte_eq_ok_iff, run_readInt_eq_ok_iff, run_readFully_eq_ok_iff,
    run_available_eq_ok_iff, run_throwIf_eq_ok_iff, run_pure_eq_ok_iff]
  constructor
  · rintro ⟨_, presence, _, rfl, counter, _, rfl, m, _, ⟨hm, rfl⟩, signature, rest, ⟨hsig, hdata⟩,
      n, _, ⟨hn, rfl⟩, _, _, ⟨hempty, rfl⟩, rfl, rfl⟩
    obtain rfl : rest = [] := List.length_eq_zero_iff.1 (by omega)
    rw [List.append_nil] at hdata
    subst hdata
    rfl
  · rintro rfl
    exact ⟨[], _, _, rfl, _, r.signature, rfl, _, _, ⟨rfl, rfl⟩, _, [], ⟨rfl, by simp⟩, 0, [],
      ⟨rfl, rfl⟩, ⟨⟩, [], ⟨by simp, rfl⟩, rfl, rfl⟩

section RegisterResponse

variable {Cert : Type} {P : Platform Cert}

theorem encodeRegisterResponse_eq_ok_iff {r : RegisterResponse Cert} {data : Bytes} :
    encodeRegisterResponse P r = .ok data ↔ r.keyHandle.length ≤ 255 ∧
      ∃ bytes, P.getEncoded r.attestationCertificate = .ok bytes ∧
        REGISTRATION_RESERVED_BYTE_VALUE :: r.userPublicKey ++
          UInt8.ofNat r.keyHandle.length :: r.keyHandle ++ bytes ++ r.signature = data := by
  constructor
  · intro h
    obtain ⟨bytes, hbytes, hdata⟩ := Except.bind_eq_ok_iff.1 h
    rw [Except.mapError_eq_ok_iff] at hbytes
    obtain ⟨_, hlen, hdata⟩ := Except.bind_eq_ok_iff.1 hdata
    rw [throwIf_eq_ok_iff, Nat.not_lt] at hlen
    exact ⟨hlen, bytes, hbytes, Except.ok.inj hdata⟩
  · rintro ⟨hlen, bytes, hbytes, rfl⟩
    exact encodeRegisterResponse_eq hbytes hlen

theorem run_readCertificate_eq_ok_iff (hP : P.ParsesCertificates) {data rest : Bytes} {cert : Cert} :
    (readCertificate P).run data = .ok (cert, rest) ↔
      ∃ bytes, P.getEncoded cert = .ok bytes ∧ data = bytes ++ rest :=
  hP.generateCertificate_ok_iff data cert rest

theorem decodeRegisterResponse_eq_ok_iff (hP : P.ParsesCertificates) {data : Bytes}
    {r : RegisterResponse Cert} :
    decodeRegisterResponse P data = .ok r ↔
      r.WellFormed ∧ encodeRegisterResponse P r = .ok data := by
  simp only [decodeRegisterResponse, flip, Except.mapError_eq_ok_iff, parse_eq_ok_iff,
    run_bind_eq_ok_iff, run_readByte_eq_ok_iff, run_readFully_eq_ok_iff,
    run_readUnsignedByte_eq_ok_iff, run_readCertificate_eq_ok_iff hP, run_available_eq_ok_iff,
    run_throwIf_eq_ok_iff, run_pure_eq_ok_iff, encodeRegisterResponse_eq_ok_iff]
  constructor
  · rintro ⟨_, reserved, _, rfl, key, _, ⟨hkey, rfl⟩, len, _, ⟨hlen, rfl⟩, keyHandle, _,
      ⟨hkeyHandle, rfl⟩, cert, _, ⟨bytes, hbytes, rfl⟩, m, _, ⟨hm, rfl⟩, signature, rest,
      ⟨hsig, hdata⟩, n, _, ⟨hn, rfl⟩, _, _, ⟨hempty, rfl⟩, _, _, ⟨hreserved, rfl⟩, rfl, rfl⟩
    obtain rfl : rest = [] := List.length_eq_zero_iff.1 (by omega)
    rw [List.append_nil] at hdata
    subst hdata
    subst hkeyHandle
    exact ⟨⟨hkey, hlen⟩, hlen, bytes, hbytes, by simp [not_not.1 hreserved]⟩
  · rintro ⟨⟨hkey, hlen⟩, -, bytes, hbytes, rfl⟩
    exact ⟨[], REGISTRATION_RESERVED_BYTE_VALUE, _, rfl, r.userPublicKey,
      UInt8.ofNat r.keyHandle.length :: r.keyHandle ++ bytes ++ r.signature, ⟨hkey, by simp⟩, _,
      r.keyHandle ++ bytes ++ r.signature, ⟨hlen, rfl⟩, r.keyHandle, bytes ++ r.signature,
      ⟨rfl, by simp⟩, _, r.signature, ⟨bytes, hbytes, rfl⟩, _, _, ⟨rfl, rfl⟩, _, [],
      ⟨rfl, by simp⟩, 0, [], ⟨rfl, rfl⟩, ⟨⟩, [], ⟨by simp, rfl⟩, ⟨⟩, [], ⟨by simp, rfl⟩, rfl, rfl⟩

/-- What is decoded is well formed, whatever the X.509 parser does. -/
theorem wellFormed_of_decodeRegisterResponse {data : Bytes} {r : RegisterResponse Cert}
    (h : decodeRegisterResponse P data = .ok r) : r.WellFormed := by
  simp only [decodeRegisterResponse, flip, Except.mapError_eq_ok_iff, parse_eq_ok_iff,
    run_bind_eq_ok_iff, run_readByte_eq_ok_iff, run_readFully_eq_ok_iff,
    run_readUnsignedByte_eq_ok_iff, run_pure_eq_ok_iff] at h
  obtain ⟨_, _, _, -, key, _, ⟨hkey, -⟩, len, _, ⟨hlen, -⟩, keyHandle, _, ⟨hkeyHandle, -⟩, h⟩ := h
  obtain ⟨_, _, -, _, _, -, _, _, -, _, _, -, _, _, -, _, _, -, rfl, -⟩ := h
  exact ⟨hkey, hkeyHandle ▸ hlen⟩

end RegisterResponse

/-! ### The layouts are what the encoders write -/

theorem registerRequest_layout_iff {data : Bytes} :
    RegisterRequest.Layout data ↔ ∃ r : RegisterRequest, r.WellFormed ∧
      encodeRegisterRequest r = data := by
  constructor
  · intro h
    obtain ⟨challenge, appId, hchallenge, rfl⟩ :=
      exists_append_of_le (show 32 ≤ data.length from by rw [h]; decide)
    rw [RegisterRequest.Layout, List.length_append, hchallenge] at h
    have happId : appId.length = 32 := by omega
    exact ⟨⟨appId, challenge⟩, ⟨happId, hchallenge⟩, rfl⟩
  · rintro ⟨r, ⟨happId, hchallenge⟩, rfl⟩
    rw [RegisterRequest.Layout, encodeRegisterRequest, List.length_append, happId, hchallenge]

theorem authenticateRequest_layout_iff {data : Bytes} :
    AuthenticateRequest.Layout data ↔ ∃ r : AuthenticateRequest, r.WellFormed ∧
      encodeAuthenticateRequest r = .ok data := by
  simp only [encodeAuthenticateRequest_eq_ok_iff, AuthenticateRequest.Layout,
    getElem?_eq_some_iff_append]
  constructor
  · rintro ⟨n, ⟨front, keyHandle, hfront, rfl⟩, hlen⟩
    obtain ⟨control, hashes, rfl⟩ := List.exists_cons_of_length_eq_add_one hfront
    rw [List.length_cons] at hfront
    obtain ⟨challenge, appId, hchallenge, rfl⟩ :=
      exists_append_of_le (show 32 ≤ hashes.length by omega)
    simp only [List.length_append, List.length_cons] at hfront hlen
    have hkeyHandle : keyHandle.length = n.toNat := by omega
    have happId : appId.length = 32 := by omega
    have hn : n.toNat < 256 := n.toNat_lt_size
    refine ⟨⟨control, challenge, appId, keyHandle⟩, ⟨hchallenge, happId, ?_⟩, ?_, ?_⟩
    · exact hkeyHandle ▸ Nat.le_of_lt_succ hn
    · exact hkeyHandle ▸ Nat.le_of_lt_succ hn
    · simp [hkeyHandle]
  · rintro ⟨r, ⟨hchallenge, happId, -⟩, hlen, rfl⟩
    refine ⟨UInt8.ofNat r.keyHandle.length, ⟨r.control :: (r.challengeSha256 ++ r.applicationSha256),
      r.keyHandle, ?_, by simp⟩, ?_⟩
    · simp only [List.length_cons, List.length_append]
      omega
    · have hn : (UInt8.ofNat r.keyHandle.length).toNat = r.keyHandle.length :=
        UInt8.toNat_ofNat_of_lt (Nat.lt_succ_of_le hlen)
      simp only [List.length_cons, List.length_append]
      omega

theorem registerResponse_layout_iff {Cert : Type} {P : Platform Cert} {data : Bytes} :
    RegisterResponse.Layout P data ↔ ∃ r : RegisterResponse Cert, r.WellFormed ∧
      encodeRegisterResponse P r = .ok data := by
  simp only [encodeRegisterResponse_eq_ok_iff, RegisterResponse.Layout]
  constructor
  · rintro ⟨hreserved, n, hn, hlen, cert, bytes, hbytes, hder⟩
    obtain ⟨front, rest, hfront, rfl⟩ := getElem?_eq_some_iff_append.1 hn
    obtain ⟨reserved, key, rfl⟩ := List.exists_cons_of_length_eq_add_one hfront
    rw [List.length_cons] at hfront
    simp only [List.length_append, List.length_cons] at hlen
    -- what follows the length byte
    obtain ⟨keyHandle, rest, hkeyHandle, rfl⟩ :=
      exists_append_of_le (show n.toNat ≤ rest.length by omega)
    obtain ⟨signature, hsignature⟩ := hder
    have hsplit : (reserved :: key ++ n :: (keyHandle ++ rest)) =
        (reserved :: key ++ n :: keyHandle) ++ rest := by simp
    rw [hsplit, List.drop_left' (by simp only [List.length_append, List.length_cons]; omega)]
      at hsignature
    obtain rfl : reserved = 0x05 := by simpa using hreserved
    have hn : n.toNat < 256 := n.toNat_lt_size
    have hkey : key.length = 65 := by omega
    refine ⟨⟨key, keyHandle, cert, signature⟩, ⟨hkey, ?_⟩, ?_, bytes, hbytes, ?_⟩
    · exact hkeyHandle ▸ Nat.le_of_lt_succ hn
    · exact hkeyHandle ▸ Nat.le_of_lt_succ hn
    · rw [← hsignature]
      simp [hkeyHandle, REGISTRATION_RESERVED_BYTE_VALUE]
  · rintro ⟨r, ⟨hkey, -⟩, hlen, bytes, hbytes, rfl⟩
    have hn : (UInt8.ofNat r.keyHandle.length).toNat = r.keyHandle.length :=
      UInt8.toNat_ofNat_of_lt (Nat.lt_succ_of_le hlen)
    refine ⟨rfl, UInt8.ofNat r.keyHandle.length, getElem?_eq_some_iff_append.2
      ⟨REGISTRATION_RESERVED_BYTE_VALUE :: r.userPublicKey, r.keyHandle ++ bytes ++ r.signature, ?_,
        by simp⟩, ?_, _, bytes, hbytes, r.signature, ?_⟩
    · rw [List.length_cons, hkey]
    · simp only [List.length_cons, List.length_append]
      omega
    · rw [List.append_assoc _ bytes, List.drop_left']
      simp only [List.length_cons, List.length_append]
      omega

theorem authenticateResponse_layout_iff {data : Bytes} :
    AuthenticateResponse.Layout data ↔ ∃ r, encodeAuthenticateResponse r = data := by
  constructor
  · intro h
    obtain ⟨presence, b₁, b₂, b₃, b₄, signature, rfl⟩ : ∃ p b₁ b₂ b₃ b₄ signature,
        data = p :: b₁ :: b₂ :: b₃ :: b₄ :: signature := by
      match data, h with
      | p :: b₁ :: b₂ :: b₃ :: b₄ :: signature, _ => exact ⟨_, _, _, _, _, _, rfl⟩
    refine ⟨⟨presence, getInt b₁ b₂ b₃ b₄, signature⟩, ?_⟩
    rw [encodeAuthenticateResponse, putInt_getInt]
    rfl
  · rintro ⟨r, rfl⟩
    rw [AuthenticateResponse.Layout]
    simp [encodeAuthenticateResponse, putInt]

/-! ### Other byte strings end in a `U2FException` -/

theorem parse_throws {α : Type} {p : Throwable → Prop} {x : InputStream α} (hx : Throws p x)
    {data : Bytes} {e : Throwable} (h : parse x data = .error e) : p e := by
  rw [parse] at h
  rcases hr : x.run data with e' | ⟨a, rest⟩ <;> rw [hr] at h
  · obtain rfl := Except.error.inj h
    exact hx data _ hr
  · cases h

/-- A handler that maps the exceptions of the stream to a `U2FException`, and leaves those. -/
theorem mapError_throws {α : Type} {p : Throwable → Prop} {x : InputStream α}
    (hx : Throws p x) {data : Bytes} {f : Throwable → Throwable}
    (hf : ∀ e, p e → (f e).IsU2FException) {e : Throwable}
    (h : (flip parse data x).mapError f = .error e) : e.IsU2FException := by
  obtain ⟨e', he', rfl⟩ := Except.mapError_eq_error_iff.1 h
  exact hf e' (parse_throws hx he')

/-- The handler of three of the decoders. -/
theorem isU2FException_handler {message : String} {e : Throwable}
    (h : e = .ioException ∨ e.IsU2FException) :
    (if e = .ioException then Throwable.u2fException message else e).IsU2FException := by
  rcases h with rfl | ⟨message, rfl⟩
  · exact ⟨_, rfl⟩
  · exact ⟨message, rfl⟩

theorem decodeRegisterRequest_throws {data : Bytes} {e : Throwable}
    (h : decodeRegisterRequest data = .error e) : e.IsU2FException :=
  mapError_throws ((throws_readFully (.inl rfl) _).bind fun _ =>
    (throws_readFully (.inl rfl) _).bind fun _ => throws_available.bind fun _ =>
    (throws_throwIf (.inr ⟨_, rfl⟩)).bind fun _ => throws_pure _)
    (fun _ => isU2FException_handler) h

theorem decodeAuthenticateRequest_throws {data : Bytes} {e : Throwable}
    (h : decodeAuthenticateRequest data = .error e) : e.IsU2FException :=
  mapError_throws ((throws_readByte (.inl rfl)).bind fun _ =>
    (throws_readFully (.inl rfl) _).bind fun _ => (throws_readFully (.inl rfl) _).bind fun _ =>
    (throws_readUnsignedByte (.inl rfl)).bind fun _ => (throws_readFully (.inl rfl) _).bind fun _ =>
    throws_available.bind fun _ => (throws_throwIf (.inr ⟨_, rfl⟩)).bind fun _ => throws_pure _)
    (fun _ => isU2FException_handler) h

theorem decodeAuthenticateResponse_throws {data : Bytes} {e : Throwable}
    (h : decodeAuthenticateResponse data = .error e) : e.IsU2FException :=
  mapError_throws ((throws_readByte (.inl rfl)).bind fun _ =>
    (throws_readInt (.inl rfl)).bind fun _ => throws_available.bind fun _ =>
    (throws_readFully (.inl rfl) _).bind fun _ => throws_available.bind fun _ =>
    (throws_throwIf (.inr ⟨_, rfl⟩)).bind fun _ => throws_pure _)
    (fun _ => isU2FException_handler) h

theorem decodeRegisterResponse_throws {Cert : Type} {P : Platform Cert}
    (hP : P.ParsesCertificates) {data : Bytes} {e : Throwable}
    (h : decodeRegisterResponse P data = .error e) : e.IsU2FException := by
  refine mapError_throws (p := fun e => e.isCertificateException = true ∨
      (e = .ioException ∨ e.IsU2FException)) ?_ ?_ h
  · -- the certificate factory has errors of its own
    have hcert : Throws (fun e => e.isCertificateException = true ∨
        (e = .ioException ∨ e.IsU2FException)) (readCertificate P) :=
      fun data e h => .inl (hP.generateCertificate_throws data e h)
    exact (throws_readByte (.inr (.inl rfl))).bind fun _ =>
      (throws_readFully (.inr (.inl rfl)) _).bind fun _ =>
      (throws_readUnsignedByte (.inr (.inl rfl))).bind fun _ =>
      (throws_readFully (.inr (.inl rfl)) _).bind fun _ => hcert.bind fun _ =>
      throws_available.bind fun _ => (throws_readFully (.inr (.inl rfl)) _).bind fun _ =>
      throws_available.bind fun _ => (throws_throwIf (.inr (.inr ⟨_, rfl⟩))).bind fun _ =>
      (throws_throwIf (.inr (.inr ⟨_, rfl⟩))).bind fun _ => throws_pure _
  · rintro e (he | rfl | ⟨message, rfl⟩)
    · cases e <;> first | exact ⟨_, rfl⟩ | nomatch he
    · exact ⟨_, rfl⟩
    · exact ⟨message, rfl⟩

/-! ### The codec is exact -/

/-- **The four codecs are exact.**  A request cannot be truncated or extended, and a registration
response starts with the reserved byte. -/
structure Exact {Cert : Type} (P : Platform Cert) : Prop where
  registerRequest : ExactCodec RegisterRequest.WellFormed RegisterRequest.Layout
    (fun r => .ok (encodeRegisterRequest r)) decodeRegisterRequest Throwable.IsU2FException
  registerResponse : ExactCodec RegisterResponse.WellFormed (RegisterResponse.Layout P)
    (encodeRegisterResponse P) (decodeRegisterResponse P) Throwable.IsU2FException
  authenticateRequest : ExactCodec AuthenticateRequest.WellFormed AuthenticateRequest.Layout
    encodeAuthenticateRequest decodeAuthenticateRequest Throwable.IsU2FException
  authenticateResponse : ExactCodec (fun _ => True) AuthenticateResponse.Layout
    (fun r => .ok (encodeAuthenticateResponse r)) decodeAuthenticateResponse
    Throwable.IsU2FException
  registerRequest_truncated : ∀ b c, c ≠ [] → (∃ r, decodeRegisterRequest (b ++ c) = .ok r) →
    ∃ e, decodeRegisterRequest b = .error e ∧ e.IsU2FException
  registerRequest_extended : ∀ b c, c ≠ [] → (∃ r, decodeRegisterRequest b = .ok r) →
    ∃ e, decodeRegisterRequest (b ++ c) = .error e ∧ e.IsU2FException
  authenticateRequest_truncated : ∀ b c, c ≠ [] →
    (∃ r, decodeAuthenticateRequest (b ++ c) = .ok r) →
    ∃ e, decodeAuthenticateRequest b = .error e ∧ e.IsU2FException
  authenticateRequest_extended : ∀ b c, c ≠ [] → (∃ r, decodeAuthenticateRequest b = .ok r) →
    ∃ e, decodeAuthenticateRequest (b ++ c) = .error e ∧ e.IsU2FException
  registerResponse_reserved : ∀ reserved b, reserved ≠ REGISTRATION_RESERVED_BYTE_VALUE →
    ∃ e, decodeRegisterResponse P (reserved :: b) = .error e ∧ e.IsU2FException

theorem exactCodec_registerRequest : ExactCodec RegisterRequest.WellFormed RegisterRequest.Layout
    (fun r => .ok (encodeRegisterRequest r)) decodeRegisterRequest Throwable.IsU2FException := by
  refine .of_decode_iff (fun b r => ?_) (fun r _ => ⟨_, rfl⟩) (fun b => ?_)
    fun b e => decodeRegisterRequest_throws
  · rw [decodeRegisterRequest_eq_ok_iff, Except.ok.injEq]
  · simp only [registerRequest_layout_iff, Except.ok.injEq]

theorem exactCodec_authenticateRequest :
    ExactCodec AuthenticateRequest.WellFormed AuthenticateRequest.Layout
      encodeAuthenticateRequest decodeAuthenticateRequest Throwable.IsU2FException :=
  .of_decode_iff (fun _ _ => decodeAuthenticateRequest_eq_ok_iff)
    (fun _ hr => ⟨_, encodeAuthenticateRequest_eq_ok_iff.2 ⟨hr.length_keyHandle, rfl⟩⟩)
    (fun _ => authenticateRequest_layout_iff) fun _ _ => decodeAuthenticateRequest_throws

theorem exactCodec_authenticateResponse :
    ExactCodec (fun _ => True) AuthenticateResponse.Layout
      (fun r => .ok (encodeAuthenticateResponse r)) decodeAuthenticateResponse
      Throwable.IsU2FException := by
  refine .of_decode_iff (fun b r => ?_) (fun r _ => ⟨_, rfl⟩) (fun b => ?_)
    fun b e => decodeAuthenticateResponse_throws
  · rw [decodeAuthenticateResponse_eq_ok_iff, Except.ok.injEq, true_and]
  · simp only [authenticateResponse_layout_iff, Except.ok.injEq, true_and]

section

variable {Cert : Type} {P : Platform Cert}

theorem exactCodec_registerResponse (hP : P.ParsesCertificates) :
    ExactCodec RegisterResponse.WellFormed (RegisterResponse.Layout P)
      (encodeRegisterResponse P) (decodeRegisterResponse P) Throwable.IsU2FException := by
  refine .of_decode_iff (fun _ _ => decodeRegisterResponse_eq_ok_iff hP) (fun r hr => ?_)
    (fun _ => registerResponse_layout_iff) fun _ _ => decodeRegisterResponse_throws hP
  obtain ⟨bytes, hbytes⟩ := hP.getEncoded_ok r.attestationCertificate
  exact ⟨_, encodeRegisterResponse_eq hbytes hr.length_keyHandle⟩

/-- **The codec is exact.** -/
theorem exact_of_parsesCertificates (hP : P.ParsesCertificates) : Exact P where
  registerRequest := exactCodec_registerRequest
  registerResponse := exactCodec_registerResponse hP
  authenticateRequest := exactCodec_authenticateRequest
  authenticateResponse := exactCodec_authenticateResponse
  registerRequest_truncated _ _ :=
    exactCodec_registerRequest.refuses_truncation RegisterRequest.prefixFree_layout
  registerRequest_extended _ _ :=
    exactCodec_registerRequest.refuses_extension RegisterRequest.prefixFree_layout
  authenticateRequest_truncated _ _ :=
    exactCodec_authenticateRequest.refuses_truncation AuthenticateRequest.prefixFree_layout
  authenticateRequest_extended _ _ :=
    exactCodec_authenticateRequest.refuses_extension AuthenticateRequest.prefixFree_layout
  registerResponse_reserved reserved b hreserved := by
    refine (exactCodec_registerResponse hP).refuses _ fun hlayout => hreserved ?_
    exact Option.some.inj hlayout.1

/-- The codec is exact with the certificate factory of the tests. -/
theorem exact_vendorCertificate :
    Exact (TestVectors.platform (TestVectors.parseHex TestVectors.VENDOR_CERTIFICATE_HEX) []) :=
  exact_of_parsesCertificates (TestVectors.parsesCertificates_platform _ _)

end

end RawMessageCodec

end U2F
