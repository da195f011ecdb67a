/-
**The Java platform under the server, the client and the key.**

The libraries that the Java code calls are not part of the repository.  They are the fields of a
structure, so that everything is proved for any of them; what the code relies on is stated where it
is needed.  What the code does with the values (exceptions, JSON elements, ASN.1 objects) is
defined here.

Main definitions:

* `Throwable` — what a call can throw;
* `JsonElement` — an element of a parsed JSON document, with the accessors of Gson;
* `Platform` — charset, Base64, JSON, URI, X.509 and ASN.1 libraries.
-/

import U2F.Lib.Call

set_option relaxedAutoImplicit false
set_option autoImplicit false

namespace U2F

/-- A `byte[]`. -/
abbrev Bytes := List UInt8

/-! ### Exceptions -/

/-- What a call can throw: the checked exceptions the code knows, and the unchecked ones. -/
inductive Throwable
  | u2fException (message : String)
  | ioException
  | certificateException
  | certificateEncodingException
  | certificateParsingException (message : String)
  | runtimeException (message : String)
  | nullPointerException
  | classCastException
  | illegalStateException
  | unsupportedOperationException
  | indexOutOfBoundsException
  | jsonParseException
  deriving DecidableEq

/-- `catch (CertificateException e)`: the class has two subclasses. -/
def Throwable.isCertificateException : Throwable → Bool
  | certificateException | certificateEncodingException | certificateParsingException _ => true
  | _ => false

/-- It is a `U2FException`, with some message. -/
def Throwable.IsU2FException (e : Throwable) : Prop := ∃ message, e = .u2fException message

/-- The use of a reference that may be null. -/
def requireNonNull {α : Type} (x : Option α) : Except Throwable α :=
  orThrow x .nullPointerException

@[simp] theorem requireNonNull_eq_ok_iff {α : Type} {x : Option α} {a : α} :
    requireNonNull x = .ok a ↔ x = some a := orThrow_eq_ok_iff

/-! ### JSON elements -/

/-- An element of a JSON document.  A primitive is kept as what `getAsString` returns for it. -/
inductive JsonElement
  | null
  | primitive (asString : String)
  | array (elements : List JsonElement)
  | object (members : List (String × JsonElement))

namespace JsonElement

/-- `getAsString`: an array of one element stands for that element. -/
def getAsString : JsonElement → Except Throwable String
  | null => .error .unsupportedOperationException
  | primitive s => .ok s
  | array [e] => e.getAsString
  | array _ => .error .illegalStateException
  | object _ => .error .unsupportedOperationException

end JsonElement

/-- The members of a `JsonObject`. -/
abbrev JsonObject := List (String × JsonElement)

namespace JsonObject

def has (o : JsonObject) (member : String) : Bool := (o.lookup member).isSome

/-- `get(member).getAsString()`, null for an absent member. -/
def getString (o : JsonObject) (member : String) : Except Throwable String :=
  match o.lookup member with
  | none => .error .nullPointerException
  | some e => e.getAsString

end JsonObject

/-! ### The libraries -/

/-- The components of a `java.net.URI` that the code reads; either can be null. -/
structure URI where
  scheme : Option String
  authority : Option String
  deriving DecidableEq

/-- String concatenation with a reference that may be null. -/
def orNull (s : Option String) : String := s.getD "null"

/-- The ASN.1 objects that the code tells apart. -/
inductive Asn1Object
  | octetString (octets : Bytes)
  | derBitString (bytes : Bytes)
  | other

/-- The libraries that the code calls.  `Cert` is `X509Certificate`. -/
structure Platform (Cert : Type) where
  /-- `new String(bytes)` -/
  newString : Bytes → String
  /-- `s.getBytes()` -/
  getBytes : String → Bytes
  /-- `Base64.encodeBase64URLSafeString` -/
  encodeBase64URLSafeString : Bytes → String
  /-- `Base64.decodeBase64` of a string that is not null -/
  decodeBase64 : String → Bytes
  /-- `new JsonParser().parse` -/
  parseJson : String → Except Throwable JsonElement
  /-- `toString` of a `JsonObject` -/
  jsonToString : JsonElement → String
  /-- `new URI`, none if it throws a `URISyntaxException` -/
  newURI : String → Option URI
  /-- `generateCertificate` of the X.509 factory on an input stream: the certificate and the
  rest of the stream -/
  generateCertificate : Bytes → Except Throwable (Cert × Bytes)
  getEncoded : Cert → Except Throwable Bytes
  /-- `getExtensionValue`, none for a null result -/
  getExtensionValue : Cert → String → Option Bytes
  /-- `new ASN1InputStream(octets).readObject()`, none for a null result -/
  readObject : Bytes → Except Throwable (Option Asn1Object)

/-- `new String(Base64.decodeBase64(s))`, where `s` can be null. -/
def Platform.stringOfBase64 {Cert : Type} (P : Platform Cert) (s : Option String) :
    Except Throwable String := do
  let s ← requireNonNull s
  return P.newString (P.decodeBase64 s)

/-- `Base64.decodeBase64(s)`, whose result is used next, where `s` can be null. -/
def Platform.bytesOfBase64 {Cert : Type} (P : Platform Cert) (s : Option String) :
    Except Throwable Bytes := do
  let s ← requireNonNull s
  return P.decodeBase64 s

/-- The encodings and their decoders are inverse to each other, as documented. -/
structure Platform.RoundTrips {Cert : Type} (P : Platform Cert) : Prop where
  newString_getBytes : ∀ s, P.newString (P.getBytes s) = s
  decodeBase64_encodeBase64 : ∀ bytes, P.decodeBase64 (P.encodeBase64URLSafeString bytes) = bytes
  generateCertificate_getEncoded : ∀ cert bytes rest, P.getEncoded cert = .ok bytes →
    P.generateCertificate (bytes ++ rest) = .ok (cert, rest)

/-- The X.509 parser, as documented: a certificate has an encoding, which says itself where it ends;
the parser reads exactly that, and throws a `CertificateException` if there is none. -/
structure Platform.ParsesCertificates {Cert : Type} (P : Platform Cert) : Prop where
  getEncoded_ok : ∀ cert, ∃ bytes, P.getEncoded cert = .ok bytes
  generateCertificate_ok_iff : ∀ data cert rest, P.generateCertificate data = .ok (cert, rest) ↔
    ∃ bytes, P.getEncoded cert = .ok bytes ∧ data = bytes ++ rest
  generateCertificate_throws : ∀ data e, P.generateCertificate data = .error e →
    e.isCertificateException = true

namespace Platform.RoundTrips

variable {Cert : Type} {P : Platform Cert} (hP : P.RoundTrips)
include hP

theorem bytesOfBase64_encode (bytes : Bytes) :
    P.bytesOfBase64 (some (P.encodeBase64URLSafeString bytes)) = .ok bytes :=
  congrArg Except.ok (hP.decodeBase64_encodeBase64 bytes)

theorem stringOfBase64_encode (s : String) :
    P.stringOfBase64 (some (P.encodeBase64URLSafeString (P.getBytes s))) = .ok s := by
  have h : P.newString (P.decodeBase64 (P.encodeBase64URLSafeString (P.getBytes s))) = s := by
    rw [hP.decodeBase64_encodeBase64, hP.newString_getBytes]
  exact congrArg Except.ok h

end Platform.RoundTrips

end U2F
