/-
**Messages on a serial line.**

`SerialCodec.java` sends the messages of `RawMessageCodec.java` on a stream.  A request has the
version and a command in front, and every message its length in two bytes, so that the messages on
a stream can be told apart.

Main definitions:

* `SerialCodec.sendRegisterRequest`, `SerialCodec.sendAuthenticateRequest`,
  `SerialCodec.sendRegisterResponse`, `SerialCodec.sendAuthenticateResponse` — the senders;
* `SerialCodec.parseRequest`, `SerialCodec.parseRegisterResponse`,
  `SerialCodec.parseAuthenticateResponse` — the parsers;
* `SerialCodec.ReplaysExactly` — what holds of streams of messages.

Main results:

* `SerialCodec.parseRequest_eq_ok_iff` — the parser of requests, read backwards;
* `SerialCodec.replaysExactly` — **streams replay exactly**, and messages that are too long are not
  written at all.
-/

import U2F.Lib.Replay
import U2F.Codec.Layouts

set_option relaxedAutoImplicit false
set_option autoImplicit false

namespace U2F

inductive U2FRequest
  | register (registerRequest : RegisterRequest)
  | authenticate (authenticateRequest : AuthenticateRequest)

inductive U2FResponse (Cert : Type)
  | register (registerResponse : RegisterResponse Cert)
  | authenticate (authenticateResponse : AuthenticateResponse)

/-- The sizes of the parts. -/
def U2FRequest.WellFormed : U2FRequest → Prop
  | .register r => r.WellFormed
  | .authenticate r => r.WellFormed

def U2FResponse.WellFormed {Cert : Type} : U2FResponse Cert → Prop
  | .register r => r.WellFormed
  | .authenticate _ => True

namespace SerialCodec

open ByteStream RawMessageCodec

def VERSION : UInt8 := 0x02

def COMMAND_REGISTER : UInt8 := 0x01

def COMMAND_AUTHENTICATE : UInt8 := 0x02

/-- An output stream that keeps what is written. -/
abbrev OutputStream := Call Bytes Throwable

/-! ### Sending -/

def write (bytes : Bytes) : OutputStream Unit := modify (· ++ bytes)

def sendRequest (command : UInt8) (encodedBytes : Bytes) : OutputStream Unit := do
  throwIf (encodedBytes.length > 65535)
    (.u2fException "Message is too long to be transmitted over this protocol")
  write [VERSION]
  write [command]
  write (putShort encodedBytes.length)
  write encodedBytes

def sendResponse (encodedBytes : Bytes) : OutputStream Unit := do
  throwIf (encodedBytes.length > 65535)
    (.u2fException "Message is too long to be transmitted over this protocol")
  write (putShort encodedBytes.length)
  write encodedBytes

def sendRegisterRequest (registerRequest : RegisterRequest) : OutputStream Unit :=
  sendRequest COMMAND_REGISTER (encodeRegisterRequest registerRequest)

def sendRegisterResponse {Cert : Type} (P : Platform Cert)
    (registerResponse : RegisterResponse Cert) : OutputStream Unit := do
  let encodedBytes ← encodeRegisterResponse P registerResponse
  sendResponse encodedBytes

def sendAuthenticateRequest (authenticateRequest : AuthenticateRequest) : OutputStream Unit := do
  let encodedBytes ← encodeAuthenticateRequest authenticateRequest
  sendRequest COMMAND_AUTHENTICATE encodedBytes

def sendAuthenticateResponse (authenticateResponse : AuthenticateResponse) : OutputStream Unit :=
  sendResponse (encodeAuthenticateResponse authenticateResponse)

/-! ### Parsing -/

def parseMessage : InputStream Bytes := do
  let length ← readUnsignedShort .ioException
  readFully .ioException length

def parseRequest : InputStream U2FRequest := do
  let version ← readByte .ioException
  throwIf (version ≠ VERSION)
    (.u2fException ("Unsupported message version: " ++ toString version.toInt8))
  let command ← readByte .ioException
  if command = COMMAND_REGISTER then
    .register <$> liftM (decodeRegisterRequest (← parseMessage))
  else if command = COMMAND_AUTHENTICATE then
    .authenticate <$> liftM (decodeAuthenticateRequest (← parseMessage))
  else
    throw (.u2fException ("Unsupported command: " ++ toString command.toInt8))

def parseRegisterResponse {Cert : Type} (P : Platform Cert) : InputStream (RegisterResponse Cert) :=
  do liftM (decodeRegisterResponse P (← parseMessage))

def parseAuthenticateResponse : InputStream AuthenticateResponse := do
  liftM (decodeAuthenticateResponse (← parseMessage))

/-! ### Messages of either kind -/

/-- The command and the encoding of a request. -/
def command : U2FRequest → UInt8
  | .register _ => COMMAND_REGISTER
  | .authenticate _ => COMMAND_AUTHENTICATE

def encodeRequest : U2FRequest → Except Throwable Bytes
  | .register r => .ok (encodeRegisterRequest r)
  | .authenticate r => encodeAuthenticateRequest r

def sendU2FRequest : U2FRequest → OutputStream Unit
  | .register r => sendRegisterRequest r
  | .authenticate r => sendAuthenticateRequest r

section

variable {Cert : Type} (P : Platform Cert)

def encodeResponse : U2FResponse Cert → Except Throwable Bytes
  | .register r => encodeRegisterResponse P r
  | .authenticate r => .ok (encodeAuthenticateResponse r)

def sendU2FResponse : U2FResponse Cert → OutputStream Unit
  | .register r => sendRegisterResponse P r
  | .authenticate r => sendAuthenticateResponse r

/-- The parser for a response of the same kind. -/
def parseMatching : U2FResponse Cert → InputStream (U2FResponse Cert)
  | .register _ => .register <$> parseRegisterResponse P
  | .authenticate _ => .authenticate <$> parseAuthenticateResponse

end

/-! ### What is sent -/

/-- A request on the line. -/
def requestFrame (command : UInt8) (encodedBytes : Bytes) : Bytes :=
  VERSION :: command :: (putShort encodedBytes.length ++ encodedBytes)

/-- A response on the line. -/
def responseFrame (encodedBytes : Bytes) : Bytes := putShort encodedBytes.length ++ encodedBytes

theorem sends_write (bytes : Bytes) : Sends (write bytes) bytes := fun _ => rfl

theorem sends_throwIf {c : Prop} [Decidable c] (h : ¬ c) (e : Throwable) :
    Sends (throwIf c e : OutputStream Unit) [] := by
  rw [throwIf, if_neg h]
  exact Sends.nothing

theorem sends_sendRequest (command : UInt8) {encodedBytes : Bytes}
    (h : encodedBytes.length ≤ 65535) :
    Sends (sendRequest command encodedBytes) (requestFrame command encodedBytes) :=
  (sends_throwIf (Nat.not_lt.2 h) _).bind <| (sends_write [VERSION]).bind <|
    (sends_write [command]).bind <| (sends_write _).bind (sends_write _)

theorem sends_sendResponse {encodedBytes : Bytes} (h : encodedBytes.length ≤ 65535) :
    Sends (sendResponse encodedBytes) (responseFrame encodedBytes) :=
  (sends_throwIf (Nat.not_lt.2 h) _).bind <| (sends_write _).bind (sends_write _)

/-- A request is sent as its encoding is. -/
theorem outcome_sendU2FRequest {r : U2FRequest} {bytes : Bytes} (h : encodeRequest r = .ok bytes)
    (out : Bytes) :
    (sendU2FRequest r).outcome out = (sendRequest (command r) bytes).outcome out := by
  cases r with
  | register r =>
      obtain rfl := Except.ok.inj h
      rfl
  | authenticate r =>
      exact Call.outcome_bind_of_returns (Call.returns_lift h out)

theorem outcome_sendU2FResponse {Cert : Type} {P : Platform Cert} {r : U2FResponse Cert}
    {bytes : Bytes} (h : encodeResponse P r = .ok bytes) (out : Bytes) :
    (sendU2FResponse P r).outcome out = (sendResponse bytes).outcome out := by
  cases r with
  | register r => exact Call.outcome_bind_of_returns (Call.returns_lift h out)
  | authenticate r =>
      obtain rfl := Except.ok.inj h
      rfl

/-- What is too long is not sent. -/
theorem outcome_throwIf_tooLong {bytes : Bytes} (h : bytes.length > 65535) {message : String}
    (x : Unit → OutputStream Unit) (out : Bytes) :
    (throwIf (bytes.length > 65535) (.u2fException message) >>= x : OutputStream Unit).outcome
      out = (.error (.u2fException message), out) := by
  rw [throwIf, if_pos h]
  rfl

/-! ### The parsers, read backwards -/

theorem parseMessage_eq_ok_iff {data bytes rest : Bytes} :
    parseMessage.run data = .ok (bytes, rest) ↔
      bytes.length ≤ 65535 ∧ data = responseFrame bytes ++ rest := by
  simp only [parseMessage, run_bind_eq_ok_iff, run_readUnsignedShort_eq_ok_iff,
    run_readFully_eq_ok_iff, responseFrame]
  constructor
  · rintro ⟨n, _, ⟨hn, rfl⟩, rfl, rfl⟩
    exact ⟨hn, (List.append_assoc _ _ _).symm⟩
  · rintro ⟨hn, rfl⟩
    exact ⟨bytes.length, _, ⟨hn, List.append_assoc _ _ _⟩, rfl, rfl⟩

/-- A message that is read and then decoded. -/
theorem decodeMessage_eq_ok_iff {α β : Type} {decode : Bytes → Except Throwable α} {f : α → β}
    {data rest : Bytes} {b : β} :
    (do f <$> liftM (decode (← parseMessage)) : InputStream β).run data = .ok (b, rest) ↔
      ∃ bytes a, bytes.length ≤ 65535 ∧ data = responseFrame bytes ++ rest ∧
        decode bytes = .ok a ∧ f a = b := by
  simp only [run_bind_eq_ok_iff, parseMessage_eq_ok_iff, run_map_eq_ok_iff, run_lift_eq_ok_iff]
  constructor
  · rintro ⟨bytes, _, ⟨hlen, rfl⟩, a, ⟨hdecode, rfl⟩, rfl⟩
    exact ⟨bytes, a, hlen, rfl, hdecode, rfl⟩
  · rintro ⟨bytes, a, hlen, rfl, hdecode, rfl⟩
    exact ⟨bytes, _, ⟨hlen, rfl⟩, a, ⟨hdecode, rfl⟩, rfl⟩

/-- The commands are told apart. -/
theorem parseRequest_eq_ok_iff {data rest : Bytes} {r : U2FRequest} :
    parseRequest.run data = .ok (r, rest) ↔ r.WellFormed ∧
      ∃ bytes, encodeRequest r = .ok bytes ∧ bytes.length ≤ 65535 ∧
        data = requestFrame (command r) bytes ++ rest := by
  have hcommands : COMMAND_AUTHENTICATE ≠ COMMAND_REGISTER := by decide
  simp only [parseRequest, run_bind_eq_ok_iff, run_readByte_eq_ok_iff, run_throwIf_eq_ok_iff]
  constructor
  · rintro ⟨version, _, rfl, _, _, ⟨hversion, rfl⟩, c, tail, rfl, h⟩
    obtain rfl := not_not.1 hversion
    split at h
    · next hc =>
      obtain ⟨bytes, req, hlen, rfl, hdecode, rfl⟩ := decodeMessage_eq_ok_iff.1 h
      obtain ⟨hwf, rfl⟩ := decodeRegisterRequest_eq_ok_iff.1 hdecode
      subst hc
      exact ⟨hwf, _, rfl, hlen, rfl⟩
    · split at h
      · next hc =>
        obtain ⟨bytes, req, hlen, rfl, hdecode, rfl⟩ := decodeMessage_eq_ok_iff.1 h
        obtain ⟨hwf, hencode⟩ := decodeAuthenticateRequest_eq_ok_iff.1 hdecode
        subst hc
        exact ⟨hwf, _, hencode, hlen, rfl⟩
      · cases h
  · rintro ⟨hwf, bytes, hencode, hlen, rfl⟩
    refine ⟨VERSION, _, rfl, (), _, ⟨not_not.2 rfl, rfl⟩, command r, responseFrame bytes ++ rest,
      rfl, ?_⟩
    cases r with
    | register r =>
        rw [command, if_pos rfl]
        have hdecode := decodeRegisterRequest_eq_ok_iff.2 ⟨hwf, Except.ok.inj hencode⟩
        exact decodeMessage_eq_ok_iff.2 ⟨bytes, r, hlen, rfl, hdecode, rfl⟩
    | authenticate r =>
        rw [command, if_neg hcommands, if_pos rfl]
        have hdecode := decodeAuthenticateRequest_eq_ok_iff.2 ⟨hwf, hencode⟩
        exact decodeMessage_eq_ok_iff.2 ⟨bytes, r, hlen, rfl, hdecode, rfl⟩

/-- The parser of requests throws what the stream throws, or a `U2FException`. -/
theorem throws_parseRequest :
    Throws (fun e => e = .ioException ∨ e.IsU2FException) parseRequest := by
  have hmessage : Throws (fun e => e = .ioException ∨ e.IsU2FException) parseMessage :=
    ((throws_readUnsignedByte (.inl rfl)).bind fun _ =>
      (throws_readUnsignedByte (.inl rfl)).bind fun _ => throws_pure _).bind fun _ =>
      throws_readFully (.inl rfl) _
  refine (throws_readByte (.inl rfl)).bind fun _ => (throws_throwIf (.inr ⟨_, rfl⟩)).bind fun _ =>
    (throws_readByte (.inl rfl)).bind fun c => ?_
  split
  · exact hmessage.bind fun _ =>
      (throws_lift fun e he => .inr (decodeRegisterRequest_throws he)).map _
  · split
    · exact hmessage.bind fun _ =>
        (throws_lift fun e he => .inr (decodeAuthenticateRequest_throws he)).map _
    · intro bs e h
      obtain rfl := Except.error.inj h
      exact .inr ⟨_, rfl⟩

section

variable {Cert : Type} {P : Platform Cert}

/-- A response of either kind is read with the parser of its kind. -/
theorem parseMatching_run (hP : P.ParsesCertificates) {r : U2FResponse Cert} (hwf : r.WellFormed)
    {bytes : Bytes} (hencode : encodeResponse P r = .ok bytes) (hlen : bytes.length ≤ 65535)
    (rest : Bytes) : (parseMatching P r).run (responseFrame bytes ++ rest) = .ok (r, rest) := by
  cases r with
  | register r =>
      have hdecode := (decodeRegisterResponse_eq_ok_iff hP).2 ⟨hwf, hencode⟩
      rw [parseMatching, parseRegisterResponse, map_bind]
      exact decodeMessage_eq_ok_iff.2 ⟨bytes, r, hlen, rfl, hdecode, rfl⟩
  | authenticate r =>
      have hdecode := decodeAuthenticateResponse_eq_ok_iff.2 (Except.ok.inj hencode)
      rw [parseMatching, parseAuthenticateResponse, map_bind]
      exact decodeMessage_eq_ok_iff.2 ⟨bytes, r, hlen, rfl, hdecode, rfl⟩

end

/-! ### Streams replay exactly -/

/-- A well-formed request has an encoding, and it is short. -/
theorem encodeRequest_ok {r : U2FRequest} (h : r.WellFormed) :
    ∃ bytes, encodeRequest r = .ok bytes ∧ bytes.length ≤ 65535 := by
  cases r with
  | register r =>
      obtain ⟨happId, hchallenge⟩ := h
      refine ⟨_, rfl, ?_⟩
      rw [encodeRegisterRequest, List.length_append]
      omega
  | authenticate r =>
      obtain ⟨hchallenge, happId, hkeyHandle⟩ := h
      refine ⟨_, encodeAuthenticateRequest_eq_ok_iff.2 ⟨hkeyHandle, rfl⟩, ?_⟩
      simp only [List.length_append, List.length_cons]
      omega

theorem replays_request {r : U2FRequest} (h : r.WellFormed) :
    Replays (sendU2FRequest r) parseRequest r := by
  obtain ⟨bytes, hencode, hlen⟩ := encodeRequest_ok h
  refine ⟨requestFrame (command r) bytes, fun out => ?_, fun rest => ?_⟩
  · rw [Call.Returns, outcome_sendU2FRequest hencode]
    exact sends_sendRequest _ hlen out
  · exact parseRequest_eq_ok_iff.2 ⟨h, bytes, hencode, hlen, rfl⟩

theorem replays_response {Cert : Type} {P : Platform Cert} (hP : P.ParsesCertificates)
    {r : U2FResponse Cert} (h : r.WellFormed)
    (hlen : ∀ bytes, encodeResponse P r = .ok bytes → bytes.length ≤ 65535) :
    Replays (sendU2FResponse P r) (parseMatching P r) r := by
  obtain ⟨bytes, hencode⟩ : ∃ bytes, encodeResponse P r = .ok bytes := by
    cases r with
    | register r =>
        obtain ⟨bytes, hbytes⟩ := hP.getEncoded_ok r.attestationCertificate
        exact ⟨_, encodeRegisterResponse_eq hbytes h.length_keyHandle⟩
    | authenticate r => exact ⟨_, rfl⟩
  refine ⟨responseFrame bytes, fun out => ?_, parseMatching_run hP h hencode (hlen bytes hencode)⟩
  rw [Call.Returns, outcome_sendU2FResponse hencode]
  exact sends_sendResponse (hlen bytes hencode) out

/-- **Streams of messages replay exactly.**  Each sequence of requests, and each sequence of
responses that fit, is read back in order; a message that does not fit is refused before a byte of
it is written; and what the parser of requests returns is what has been consumed. -/
structure ReplaysExactly {Cert : Type} (P : Platform Cert) : Prop where
  requests : ∀ requests : List U2FRequest, (∀ r ∈ requests, r.WellFormed) →
    ∃ written, Sends (requests.forM sendU2FRequest) written ∧
      ∀ rest, (requests.mapM fun _ => parseRequest).run (written ++ rest) = .ok (requests, rest)
  responses : ∀ responses : List (U2FResponse Cert), (∀ r ∈ responses, r.WellFormed) →
    (∀ r ∈ responses, ∀ bytes, encodeResponse P r = .ok bytes → bytes.length ≤ 65535) →
    ∃ written, Sends (responses.forM (sendU2FResponse P)) written ∧
      ∀ rest, (responses.mapM (parseMatching P)).run (written ++ rest) = .ok (responses, rest)
  request_tooLong : ∀ r bytes, encodeRequest r = .ok bytes → bytes.length > 65535 →
    ∀ out, ∃ e, (sendU2FRequest r).outcome out = (.error e, out) ∧ e.IsU2FException
  response_tooLong : ∀ r bytes, encodeResponse P r = .ok bytes → bytes.length > 65535 →
    ∀ out, ∃ e, (sendU2FResponse P r).outcome out = (.error e, out) ∧ e.IsU2FException
  parseRequest_returns : ∀ data r rest, parseRequest.run data = .ok (r, rest) →
    ∃ consumed, Sends (sendU2FRequest r) consumed ∧ data = consumed ++ rest
  parseRequest_throws : ∀ data e, parseRequest.run data = .error e →
    e = .ioException ∨ e.IsU2FException

/-- **Streams of messages replay exactly.** -/
theorem replaysExactly {Cert : Type} {P : Platform Cert} (hP : P.ParsesCertificates) :
    ReplaysExactly P where
  requests requests h := Replays.sequence fun r hr => replays_request (h r hr)
  responses responses h hlen :=
    Replays.sequence fun r hr => replays_response hP (h r hr) (hlen r hr)
  request_tooLong r bytes hencode hlong out := by
    refine ⟨_, ?_, ⟨"Message is too long to be transmitted over this protocol", rfl⟩⟩
    rw [outcome_sendU2FRequest hencode]
    exact outcome_throwIf_tooLong hlong _ out
  response_tooLong r bytes hencode hlong out := by
    refine ⟨_, ?_, ⟨"Message is too long to be transmitted over this protocol", rfl⟩⟩
    rw [outcome_sendU2FResponse hencode]
    exact outcome_throwIf_tooLong hlong _ out
  parseRequest_returns data r rest h := by
    obtain ⟨-, bytes, hencode, hlen, rfl⟩ := parseRequest_eq_ok_iff.1 h
    refine ⟨_, fun out => ?_, rfl⟩
    rw [Call.Returns, outcome_sendU2FRequest hencode]
    exact sends_sendRequest _ hlen out
  parseRequest_throws data e h := throws_parseRequest data e h

/-- Streams replay exactly with the certificate factory of the tests. -/
theorem replaysExactly_vendorCertificate :
    ReplaysExactly
      (TestVectors.platform (TestVectors.parseHex TestVectors.VENDOR_CERTIFICATE_HEX) []) :=
  replaysExactly (TestVectors.parsesCertificates_platform _ _)

end SerialCodec

end U2F
