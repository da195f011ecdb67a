/-
**Requests of a web page.**

`webrequest.js`, `webrequestsender.js` and the validation and encoding functions of `signer.js`,
`enroller.js` and `appid.js`.  A string of a page is any list of UTF-16 code units, and a property
that an object does not have of its own is `none`.

Main definitions:

* `JSString`, `JSObject.put` — strings, and objects that are used as sets of strings;
* `JSProperties`, `JSProperties.assignAll` — the own properties of an object, and the loop that assigns
  those of another object to it;
* `SignChallenge`, `EnrollChallenge`, `U2fRequest` — what a page sends;
* `isValidSignRequest`, `isValidEnrollRequest` — the validation;
* `getDistinctAppIds`, `UTIL_unionArrays` — the lists of app ids that are checked;
* `encodeSignChallenges`, `encodeEnrollChallenge` — the challenges that a helper is given.

Main results:

* `JSProperties.lookup_assignAll` — what an object holds after the loop;
* `mem_getDistinctAppIds`, `mem_unionArrays` — what the lists of app ids hold.
-/

import Mathlib.Data.List.AList
import Mathlib.Data.List.Basic
import Mathlib.Data.Rat.Defs
import U2F.Lib.Traverse

set_option relaxedAutoImplicit false
set_option autoImplicit false

namespace U2F

/-! ### Strings, and objects as sets -/

/-- A string of JavaScript: its UTF-16 code units. -/
abbrev JSString := List UInt16

instance : LawfulBEq JSString := inferInstanceAs (LawfulBEq (List UInt16))

/-- A string of the source, which is ASCII. -/
def js (s : String) : JSString := s.toList.map fun c => UInt16.ofNat c.toNat

/-- `__proto__`, the one name that an assignment does not make a property of an object's own. -/
def PROTO : JSString := js "__proto__"

/-- A property that is read as a condition: it has to be there, and not the empty string. -/
def truthy (s : Option JSString) : Bool := s.getD [] ≠ []

namespace JSObject

/-- `obj[k] = k`, on the keys of an object in the order in which they were assigned.  A string that
is assigned to `__proto__` is ignored. -/
def put (obj : List JSString) (k : JSString) : List JSString :=
  if k = PROTO ∨ k ∈ obj then obj else obj ++ [k]

theorem mem_put {obj : List JSString} {k a : JSString} :
    a ∈ put obj k ↔ a ∈ obj ∨ a = k ∧ k ≠ PROTO := by
  unfold put
  split
  case isTrue h =>
    constructor
    · exact .inl
    · rintro (ha | ⟨rfl, hne⟩)
      · exact ha
      · exact h.resolve_left hne
  case isFalse h =>
    obtain ⟨hne, -⟩ := not_or.1 h
    simp [hne]

theorem mem_foldl_put {ks obj : List JSString} {a : JSString} :
    a ∈ ks.foldl put obj ↔ a ∈ obj ∨ a ∈ ks ∧ a ≠ PROTO := by
  induction ks generalizing obj with
  | nil => simp
  | cons k ks ih =>
      rw [List.foldl_cons, ih, mem_put, List.mem_cons]
      constructor
      · rintro ((ha | ⟨rfl, hne⟩) | ⟨ha, hne⟩)
        · exact .inl ha
        · exact .inr ⟨.inl rfl, hne⟩
        · exact .inr ⟨.inr ha, hne⟩
      · rintro (ha | ⟨rfl | ha, hne⟩)
        · exact .inl (.inl ha)
        · exact .inl (.inr ⟨rfl, hne⟩)
        · exact .inr ⟨ha, hne⟩

end JSObject

/-! ### Objects, by their own properties -/

/-- The value of a property.  What is only passed on is known by its text in JSON. -/
inductive PropertyValue
  | undefined
  | string (s : JSString)
  /-- An object, with the string that is its `appId`. -/
  | object (appId : Option JSString) (text : JSString)
  | other (text : JSString)
  deriving DecidableEq

/-- A string, or `undefined`. -/
def PropertyValue.ofOption : Option JSString → PropertyValue
  | none => .undefined
  | some s => .string s

/-- The properties that an object has of its own, by their names. -/
abbrev JSProperties := AList fun _ : JSString => PropertyValue

namespace JSProperties

/-- `obj[k] = v`.  An assignment to `__proto__` makes no property of the object's own. -/
def assign (obj : JSProperties) (k : JSString) (v : PropertyValue) : JSProperties :=
  if k = PROTO then obj else obj.insert k v

/-- `for (var k in source) obj[k] = source[k]` -/
def assignAll (obj source : JSProperties) : JSProperties :=
  source.entries.foldl (fun obj property => obj.assign property.1 property.2) obj

/-- `obj[k] = s`, where a string that is missing is no property at all. -/
def putString (k : JSString) (s : Option JSString) (obj : JSProperties) : JSProperties :=
  match s with
  | none => obj
  | some s => obj.insert k (.string s)

theorem lookup_assign (obj : JSProperties) (k l : JSString) (v : PropertyValue) :
    (obj.assign k v).lookup l = if l = k ∧ l ≠ PROTO then some v else obj.lookup l := by
  unfold assign
  by_cases hl : l = k
  · subst hl
    by_cases hproto : l = PROTO
    · simp [hproto]
    · simp [hproto, AList.lookup_insert]
  · have hnot : ¬ (l = k ∧ l ≠ PROTO) := fun h => hl h.1
    rw [if_neg hnot]
    split
    · rfl
    · exact AList.lookup_insert_ne hl

/-- **The loop gives an object every property of the other one but `__proto__`**, and keeps what the
other one does not have. -/
theorem lookup_assignAll (obj source : JSProperties) (k : JSString) :
    (obj.assignAll source).lookup k =
      if k = PROTO then obj.lookup k else (source.lookup k).or (obj.lookup k) := by
  obtain ⟨entries, hnodup⟩ := source
  simp only [assignAll, AList.lookup]
  -- the names of the entries are distinct, so none is assigned twice
  induction entries generalizing obj with
  | nil => simp
  | cons entry entries ih =>
      obtain ⟨name, value⟩ := entry
      obtain ⟨hfresh, hnodup⟩ := List.nodupKeys_cons.1 hnodup
      rw [List.foldl_cons, ih (obj.assign name value) hnodup]
      have hassign := lookup_assign obj name k value
      simp only [AList.lookup] at hassign
      rw [hassign]
      by_cases hproto : k = PROTO
      · simp [hproto]
      · by_cases hname : k = name
        · subst hname
          simp [hproto, List.dlookup_eq_none.2 hfresh]
        · simp [hproto, hname, List.dlookup_cons_ne entries ⟨name, value⟩ hname]

theorem lookup_putString (obj : JSProperties) (k l : JSString) (s : Option JSString) :
    (obj.putString k s).lookup l =
      if l = k then (s.map PropertyValue.string).or (obj.lookup l) else obj.lookup l := by
  cases s with
  | none => simp [putString]
  | some s =>
      by_cases hl : l = k
      · subst hl
        simp [putString, AList.lookup_insert]
      · simp [putString, hl, AList.lookup_insert_ne hl]

end JSProperties

/-! ### What a page sends -/

/-- An entry of `signRequests` or `registeredKeys`. -/
structure SignChallenge where
  challenge : Option JSString
  keyHandle : Option JSString
  appId : Option JSString
  version : Option JSString
  deriving DecidableEq

/-- The properties of an enroll challenge that no code reads by name. -/
structure OtherProperties where
  properties : JSProperties
  named : ∀ k ∈ properties.keys, k ≠ js "version" ∧ k ≠ js "challenge" ∧ k ≠ js "appId"
  deriving DecidableEq

namespace OtherProperties

def none : OtherProperties := ⟨∅, by simp⟩

/-- One property. -/
def single (k : JSString) (v : PropertyValue)
    (h : k ≠ js "version" ∧ k ≠ js "challenge" ∧ k ≠ js "appId") : OtherProperties :=
  ⟨.singleton k v, by simpa using h⟩

/-- All but the property `k`. -/
def without (k : JSString) (others : OtherProperties) : OtherProperties :=
  ⟨others.properties.erase k, fun l hl =>
    others.named l (AList.mem_keys.1 (AList.mem_erase.1 (AList.mem_keys.2 hl)).2)⟩

end OtherProperties

/-- An entry of `registerRequests`: the properties that are read by name, and all others. -/
structure EnrollChallenge where
  version : Option JSString
  challenge : Option JSString
  appId : Option JSString
  others : OtherProperties
  deriving DecidableEq

namespace EnrollChallenge

/-- The `appId` in the value of a property of its own that is named `__proto__`.  In the request
this is a property like any other; an assignment makes the value the prototype of an object. -/
def protoAppId (enrollChallenge : EnrollChallenge) : Option JSString :=
  match enrollChallenge.others.properties.lookup PROTO with
  | some (.object appId _) => appId
  | _ => none

/-- All the properties of an enroll challenge. -/
def properties (enrollChallenge : EnrollChallenge) : JSProperties :=
  ((enrollChallenge.others.properties.putString (js "appId") enrollChallenge.appId).putString
    (js "challenge") enrollChallenge.challenge).putString (js "version") enrollChallenge.version

/-- The properties are those that are read by name, and the others. -/
theorem lookup_properties (c : EnrollChallenge) (k : JSString) : c.properties.lookup k =
    if k = js "version" then c.version.map .string
    else if k = js "challenge" then c.challenge.map .string
    else if k = js "appId" then c.appId.map .string
    else c.others.properties.lookup k := by
  have hother (h : k = js "version" ∨ k = js "challenge" ∨ k = js "appId") :
      c.others.properties.lookup k = none := by
    rw [AList.lookup_eq_none, AList.mem_keys]
    intro hmem
    obtain ⟨hversion, hchallenge, happId⟩ := c.others.named k hmem
    rcases h with h | h | h
    · exact hversion h
    · exact hchallenge h
    · exact happId h
  simp only [properties, JSProperties.lookup_putString]
  by_cases hversion : k = js "version"
  · subst hversion
    have hne : js "version" ≠ js "challenge" ∧ js "version" ≠ js "appId" := by decide
    simp [hne, hother (.inl rfl)]
  · by_cases hchallenge : k = js "challenge"
    · subst hchallenge
      have hne : js "challenge" ≠ js "appId" := by decide
      simp [hne, hversion, hother (.inr (.inl rfl))]
    · by_cases happId : k = js "appId"
      · subst happId
        simp [hversion, hchallenge, hother (.inr (.inr rfl))]
      · simp [hversion, hchallenge, happId]

/-- A property whose name is not read. -/
theorem lookup_properties_of_ne {k : JSString}
    (h : k ≠ js "version" ∧ k ≠ js "challenge" ∧ k ≠ js "appId") (c : EnrollChallenge) :
    c.properties.lookup k = c.others.properties.lookup k := by
  rw [lookup_properties, if_neg h.1, if_neg h.2.1, if_neg h.2.2]

end EnrollChallenge

/-- A request.  The page's message has been parsed, and the fields are read by name. -/
structure U2fRequest where
  type : JSString
  requestId : Option ℤ
  challenge : Option JSString
  appId : Option JSString
  timeoutSeconds : Option ℚ
  timeout : Option ℚ
  logMsgUrl : Option JSString
  signRequests : Option (List SignChallenge)
  registeredKeys : Option (List SignChallenge)
  registerRequests : Option (List EnrollChallenge)

/-- What the browser says about the page. -/
structure MessageSender where
  url : JSString
  tlsChannelId : Option JSString
  tabId : Option ℤ

structure WebRequestSender where
  origin : JSString
  tlsChannelId : Option JSString
  tabId : Option ℤ

/-- The scheme and the host after `scheme` in a web url. -/
def originAfter (scheme url : JSString) : Option JSString :=
  if scheme <+: url then
    some (scheme ++ (url.drop scheme.length).takeWhile (· ≠ 47))
  else none

/-- Gets the scheme and origin from a web url: what `^(https?://)[^/]*/?` matches, without the
slashes at its end. -/
def getOriginFromUrl (url : JSString) : Option JSString := do
  let matched ← originAfter (js "http://") url <|> originAfter (js "https://") url
  let origin := (matched.reverse.dropWhile (· = 47)).reverse
  if origin = js "http:" ∨ origin = js "https:" then none else some origin

def createSenderFromMessageSender (messageSender : MessageSender) : Option WebRequestSender := do
  let origin ← getOriginFromUrl messageSender.url
  return ⟨origin, messageSender.tlsChannelId.filter (· ≠ []), messageSender.tabId⟩

/-- `sender.origin.indexOf('http://') == 0` -/
def WebRequestSender.isHttp (sender : WebRequestSender) : Bool := js "http://" <+: sender.origin

def HTTP_ORIGINS_ALLOWED : Bool := true

/-! ### Validation -/

def isValidRegisteredKey (registeredKey : SignChallenge) (appIdRequired : Bool) : Bool :=
  if appIdRequired && registeredKey.appId.isNone then false
  else if registeredKey.keyHandle.isNone then false
  else if truthy registeredKey.version then
    registeredKey.version = some (js "U2F_V1") ∨ registeredKey.version = some (js "U2F_V2")
  else true

/-- Gets the sign challenges from the request. -/
def getSignChallenges (request : U2fRequest) : Option (List SignChallenge) :=
  match request.signRequests with
  | some signRequests => some signRequests
  | none => request.registeredKeys

def isValidSignChallengeArray (signChallenges : List SignChallenge)
    (challengeValueRequired appIdRequired : Bool) : Bool :=
  signChallenges.all fun incomingChallenge =>
    if challengeValueRequired && incomingChallenge.challenge.isNone then false
    else isValidRegisteredKey incomingChallenge appIdRequired

/-- Whether the request appears to be a valid sign request. -/
def isValidSignRequest (request : U2fRequest) : Bool :=
  match getSignChallenges request with
  | none => false
  | some signChallenges =>
      let hasDefaultChallenge := request.challenge.isSome
      let hasAppId := request.appId.isSome
      if !hasAppId && signChallenges.isEmpty then false
      else isValidSignChallengeArray signChallenges (!hasDefaultChallenge) (!hasAppId)

/-- The version of an enroll challenge, which is implicitly V1. -/
def EnrollChallenge.versionOrV1 (enrollChallenge : EnrollChallenge) : JSString :=
  if truthy enrollChallenge.version then enrollChallenge.version.getD [] else js "U2F_V1"

/-- The loop of `isValidEnrollChallengeArray`, with the versions seen before. -/
def isValidEnrollChallengeArrayFrom (appIdRequired : Bool) (seenVersions : List JSString) :
    List EnrollChallenge → Bool
  | [] => true
  | enrollChallenge :: rest =>
      let version := enrollChallenge.versionOrV1
      if version ≠ js "U2F_V1" ∧ version ≠ js "U2F_V2" then false
      else if version ∈ seenVersions then false
      else if appIdRequired && !truthy enrollChallenge.appId then false
      else if !truthy enrollChallenge.challenge then false
      else isValidEnrollChallengeArrayFrom appIdRequired (version :: seenVersions) rest

def isValidEnrollChallengeArray (enrollChallenges : List EnrollChallenge) (appIdRequired : Bool) :
    Bool :=
  isValidEnrollChallengeArrayFrom appIdRequired [] enrollChallenges

/-- Whether the request appears to be a valid enroll request. -/
def isValidEnrollRequest (request : U2fRequest) : Bool :=
  match request.registerRequests with
  | none => false
  | some enrollChallenges =>
      if enrollChallenges.isEmpty then false
      else
        let hasAppId := request.appId.isSome
        if !isValidEnrollChallengeArray enrollChallenges (!hasAppId) then false
        else
          match getSignChallenges request with
          | none => true
          | some signChallenges => isValidSignChallengeArray signChallenges false (!hasAppId)

/-- Finds the enroll challenge of the given version, which has to be spelt the same way. -/
def findEnrollChallengeOfVersion (enrollChallenges : List EnrollChallenge)
    (version : Option JSString) : Option EnrollChallenge :=
  enrollChallenges.find? fun enrollChallenge => enrollChallenge.version = version

/-- Gets the sign challenges from an enroll request.  One that has no challenge is given an empty
one. -/
def getSignRequestsFromEnrollRequest (request : U2fRequest) : Option (List SignChallenge) :=
  let signChallenges :=
    match request.registeredKeys with
    | some registeredKeys => some registeredKeys
    | none => request.signRequests
  signChallenges.map fun signChallenges => signChallenges.map fun signChallenge =>
    { signChallenge with challenge := some (signChallenge.challenge.getD []) }

/-! ### Responses -/

inductive ErrorCodes
  | OK
  | OTHER_ERROR
  | BAD_REQUEST
  | CONFIGURATION_UNSUPPORTED
  | DEVICE_INELIGIBLE
  | TIMEOUT
  deriving DecidableEq

structure U2fError where
  errorCode : ErrorCodes
  errorMessage : Option JSString
  deriving DecidableEq

/-- An error without a message. -/
def U2fError.ofCode (errorCode : ErrorCodes) : U2fError := ⟨errorCode, none⟩

/-- The `responseData` of a response. -/
inductive ResponseData
  | error (error : U2fError)
  | sign (keyHandle : Option JSString) (clientData signatureData : JSString)
  | enroll (properties : JSProperties)
  deriving DecidableEq

structure Response where
  type : JSString
  requestId : Option ℤ
  responseData : ResponseData
  deriving DecidableEq

/-- `type.replace(/_request$/, '_response')` -/
def responseType (type : JSString) : JSString :=
  if js "_request" <:+ type then
    type.take (type.length - (js "_request").length) ++ js "_response"
  else type

def makeResponseForRequest (request : U2fRequest) (responseData : ResponseData) : Response :=
  ⟨responseType request.type, request.requestId.filter (· ≠ 0), responseData⟩

/-- An empty message is left out. -/
def makeU2fErrorResponse (request : U2fRequest) (error : U2fError) : Response :=
  makeResponseForRequest request
    (.error { error with errorMessage := error.errorMessage.filter (· ≠ []) })

def makeU2fSuccessResponse (request : U2fRequest) (responseData : ResponseData) : Response :=
  makeResponseForRequest request responseData

/-- `code.toString(16)` -/
def toHex (code : ℤ) : JSString :=
  (if code < 0 then js "-" else []) ++ js (String.ofList (Nat.toDigits 16 code.natAbs))

def WRONG_DATA_STATUS : ℤ := 0x6a80

def TIMEOUT_STATUS : ℤ := -5

def WAIT_TOUCH_STATUS : ℤ := 0x6985

/-- Maps a helper's error code to a `U2fError`. -/
def mapDeviceStatusCodeToU2fError (code : ℤ) : U2fError :=
  if code = WRONG_DATA_STATUS then .ofCode .DEVICE_INELIGIBLE
  else if code = TIMEOUT_STATUS ∨ code = WAIT_TOUCH_STATUS then .ofCode .TIMEOUT
  else ⟨.OTHER_ERROR, some (js "device status code: " ++ toHex code)⟩

/-! ### The app ids that are checked -/

/-- The distinct app ids of the sign challenges, except empty ones. -/
def getDistinctAppIds (signChallenges : Option (List SignChallenge)) : List JSString :=
  ((signChallenges.getD []).filterMap fun request => request.appId.filter (· ≠ [])).foldl
    JSObject.put []

def UTIL_unionArrays (a b : List JSString) : List JSString :=
  b.foldl JSObject.put (a.foldl JSObject.put [])

theorem mem_getDistinctAppIds {signChallenges : Option (List SignChallenge)} {a : JSString} :
    a ∈ getDistinctAppIds signChallenges ↔
      (∃ c ∈ signChallenges.getD [], c.appId = some a) ∧ a ≠ [] ∧ a ≠ PROTO := by
  simp [getDistinctAppIds, JSObject.mem_foldl_put, Option.filter_eq_some_iff, ← and_assoc]

theorem mem_unionArrays {a b : List JSString} {k : JSString} :
    k ∈ UTIL_unionArrays a b ↔ (k ∈ a ∨ k ∈ b) ∧ k ≠ PROTO := by
  simp [UTIL_unionArrays, JSObject.mem_foldl_put, or_and_right]

/-! ### The challenges that a helper is given -/

/-- What the encoding computes with: the hash, the base64 and the text of the browser data. -/
structure Primitives where
  sha256HashOfString : JSString → List ℕ
  B64_encode : List ℕ → JSString
  makeBrowserData : (typ serverChallenge origin : JSString) → Option JSString → JSString

namespace Primitives

variable (P : Primitives)

def makeSignBrowserData (serverChallenge : JSString) (sender : WebRequestSender) : JSString :=
  P.makeBrowserData (js "navigator.id.getAssertion") serverChallenge sender.origin
    sender.tlsChannelId

def makeEnrollBrowserData (serverChallenge : JSString) (sender : WebRequestSender) : JSString :=
  P.makeBrowserData (js "navigator.id.finishEnrollment") serverChallenge sender.origin
    sender.tlsChannelId

/-- `B64_encode(sha256HashOfString(s))` -/
def hash (s : JSString) : JSString := P.B64_encode (P.sha256HashOfString s)

end Primitives

/-- `UTIL_StringToBytes`: the code units, as numbers. -/
def UTIL_StringToBytes (s : JSString) : List ℕ := s.map UInt16.toNat

structure SignHelperChallenge where
  challengeHash : JSString
  appIdHash : JSString
  keyHandle : Option JSString
  version : JSString
  deriving DecidableEq

structure EnrollHelperChallenge where
  version : JSString
  challengeHash : Option JSString
  appIdHash : JSString
  deriving DecidableEq

/-- A request to a helper. -/
structure HelperRequest where
  type : JSString
  enrollChallenges : List EnrollHelperChallenge
  signData : List SignHelperChallenge
  timeoutSeconds : Option ℚ
  logMsgUrl : Option JSString

/-- The app id that a sign challenge is encoded with: its own, even if that is empty. -/
def SignChallenge.appIdOr (challenge : SignChallenge) (defaultAppId : Option JSString) :
    Option JSString :=
  match challenge.appId with
  | some appId => some appId
  | none => defaultAppId

/-- The challenge value that a sign challenge is encoded with. -/
def SignChallenge.challengeOr (challenge : SignChallenge) (defaultChallenge : Option JSString) :
    Option JSString :=
  match challenge.challenge with
  | some challenge => some challenge
  | none => defaultChallenge

/-- Encodes a sign challenge; `none` is the exception that hashing a missing string throws. -/
def encodeSignChallenge (P : Primitives) (defaultChallenge defaultAppId : Option JSString)
    (challengeHashFn : Option JSString → Option JSString → Option JSString)
    (challenge : SignChallenge) : Option SignHelperChallenge := do
  let challengeHash ←
    challengeHashFn challenge.keyHandle (challenge.challengeOr defaultChallenge)
  let appId ← challenge.appIdOr defaultAppId
  let version := if truthy challenge.version then challenge.version.getD [] else js "U2F_V1"
  return ⟨challengeHash, P.hash appId, challenge.keyHandle, version⟩

/-- The app id hash of an encoded challenge. -/
theorem encodeSignChallenge_appIdHash {P : Primitives} {defaultChallenge defaultAppId : Option JSString}
    {challengeHashFn : Option JSString → Option JSString → Option JSString}
    {challenge : SignChallenge} {encoded : SignHelperChallenge}
    (h : encodeSignChallenge P defaultChallenge defaultAppId challengeHashFn challenge =
      some encoded) :
    ∃ appId, challenge.appIdOr defaultAppId = some appId ∧ encoded.appIdHash = P.hash appId := by
  simp only [encodeSignChallenge, Option.bind_eq_bind, Option.bind_eq_some_iff, Option.pure_def,
    Option.some_inj] at h
  obtain ⟨_, -, appId, happId, rfl⟩ := h
  exact ⟨appId, happId, rfl⟩

/-- Encodes the sign data as an array of sign helper challenges. -/
def encodeSignChallenges (P : Primitives) (signChallenges : Option (List SignChallenge))
    (defaultChallenge defaultAppId : Option JSString)
    (challengeHashFn : Option JSString → Option JSString → Option JSString) :
    Option (List SignHelperChallenge) :=
  (signChallenges.getD []).mapM (encodeSignChallenge P defaultChallenge defaultAppId challengeHashFn)

/-- The hash function that `encodeSignChallenges` uses when it is given none. -/
def Primitives.encodedSha256 (P : Primitives) (_keyHandle challenge : Option JSString) :
    Option JSString :=
  challenge.map P.hash

def makeSignHelperRequest (challenges : List SignHelperChallenge) (timeoutSeconds : ℚ)
    (logMsgUrl : Option JSString) : HelperRequest :=
  ⟨js "sign_helper_request", [], challenges, some timeoutSeconds, logMsgUrl⟩

/-- The app id that an enroll challenge is encoded with: its own, unless that is empty. -/
def EnrollChallenge.appIdOr (enrollChallenge : EnrollChallenge) (appId : Option JSString) :
    Option JSString :=
  if truthy enrollChallenge.appId then enrollChallenge.appId else appId

/-- `Enroller.encodeEnrollChallenge_`; `none` is the exception that hashing a missing app id
throws. -/
def encodeEnrollChallenge (P : Primitives) (enrollChallenge : EnrollChallenge)
    (appId : Option JSString) : Option EnrollHelperChallenge := do
  let appId ← enrollChallenge.appIdOr appId
  return ⟨enrollChallenge.versionOrV1, enrollChallenge.challenge, P.hash appId⟩

theorem encodeEnrollChallenge_appIdHash {P : Primitives} {enrollChallenge : EnrollChallenge}
    {appId : Option JSString} {encoded : EnrollHelperChallenge}
    (h : encodeEnrollChallenge P enrollChallenge appId = some encoded) :
    ∃ a, enrollChallenge.appIdOr appId = some a ∧ encoded.appIdHash = P.hash a := by
  simp only [encodeEnrollChallenge, Option.bind_eq_bind, Option.bind_eq_some_iff, Option.pure_def,
    Option.some_inj] at h
  obtain ⟨a, ha, rfl⟩ := h
  exact ⟨a, ha, rfl⟩

end U2F
