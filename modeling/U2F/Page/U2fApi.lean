/-
**The requests that a page formats.**

`u2f-api.js` gives a page the functions `u2f.sign` and `u2f.register`.  They format a request for the
version of the JavaScript API that the extension supports: in version 1.0 each entry carries the app
id of the request, in version 1.1 the request carries it once and an entry can have its own.  An
app id of an entry's own is dropped by the 1.0 form and kept by the 1.1 form.

A property that is undefined is lost when the message is sent.

Main definitions:

* `PageApi.formatSignRequest`, `PageApi.formatRegisterRequest` — the requests;
* `PageApi.signData`, `PageApi.enrollSignData`, `PageApi.enrollData` — what the extension makes of
  them.

Main results:

* `PageApi.encodeSignChallenges_getSignRequestsFromEnrollRequest` — the sign data of a registration,
  as the extension gets to them;
* `PageApi.forms_agree_iff` — **when the two forms ask for the same keys**.
-/

import U2F.Extension.WebRequest

set_option relaxedAutoImplicit false
set_option autoImplicit false

namespace U2F

namespace PageApi

/-! ### Formatting -/

/-- `u2f.RegisteredKey` -/
structure RegisteredKey where
  version : Option JSString
  keyHandle : Option JSString
  appId : Option JSString
  deriving DecidableEq

/-- The test that the extension has not told a version from 1.1 on. -/
def isApi10 (js_api_version : Option ℚ) : Bool := js_api_version.all (· < 11 / 10)

/-- An entry of `signRequests`. -/
def RegisteredKey.toSignRequest (registeredKey : RegisteredKey) (challenge appId : Option JSString) :
    SignChallenge :=
  ⟨challenge, registeredKey.keyHandle, appId, registeredKey.version⟩

/-- An entry of `registeredKeys`, as it is. -/
def RegisteredKey.toSignChallenge (registeredKey : RegisteredKey) : SignChallenge :=
  ⟨none, registeredKey.keyHandle, registeredKey.appId, registeredKey.version⟩

/-- `u2f.formatSignRequest_` -/
def formatSignRequest (js_api_version : Option ℚ) (appId challenge : Option JSString)
    (registeredKeys : List RegisteredKey) (timeoutSeconds : ℚ) (reqId : ℤ) : U2fRequest :=
  if isApi10 js_api_version then
    -- Adapt request to the 1.0 JS API
    { type := js "u2f_sign_request"
      requestId := some reqId
      challenge := none
      appId := none
      timeoutSeconds := some timeoutSeconds
      timeout := none
      logMsgUrl := none
      signRequests := some (registeredKeys.map (·.toSignRequest challenge appId))
      registeredKeys := none
      registerRequests := none }
  else
    -- JS 1.1 API
    { type := js "u2f_sign_request"
      requestId := some reqId
      challenge := challenge
      appId := appId
      timeoutSeconds := some timeoutSeconds
      timeout := none
      logMsgUrl := none
      signRequests := none
      registeredKeys := some (registeredKeys.map (·.toSignChallenge))
      registerRequests := none }

/-- A challenge that is an object: it has no length, and is hashed as a string of one zero. -/
def OBJECT_CHALLENGE : JSString := [0]

/-- `u2f.formatRegisterRequest_`.  In the 1.0 form the challenge of a sign request is the whole first
register request. -/
def formatRegisterRequest (js_api_version : Option ℚ) (appId : Option JSString)
    (registeredKeys : List RegisteredKey) (registerRequests : List EnrollChallenge)
    (timeoutSeconds : ℚ) (reqId : ℤ) : U2fRequest :=
  if isApi10 js_api_version then
    -- Adapt request to the 1.0 JS API
    let registerRequests := registerRequests.map ({ · with appId := appId })
    let challenge := registerRequests.head?.map fun _ => OBJECT_CHALLENGE
    { type := js "u2f_register_request"
      requestId := some reqId
      challenge := none
      appId := none
      timeoutSeconds := some timeoutSeconds
      timeout := none
      logMsgUrl := none
      signRequests := some (registeredKeys.map (·.toSignRequest challenge appId))
      registeredKeys := none
      registerRequests := some registerRequests }
  else
    -- JS 1.1 API
    { type := js "u2f_register_request"
      requestId := some reqId
      challenge := none
      appId := appId
      timeoutSeconds := some timeoutSeconds
      timeout := none
      logMsgUrl := none
      signRequests := none
      registeredKeys := some (registeredKeys.map (·.toSignChallenge))
      registerRequests := some registerRequests }

/-! ### What the extension makes of a request -/

variable (P : Primitives) (challengeHashFn : Option JSString → Option JSString → Option JSString)

/-- The sign data of a sign request, with the challenge and the app id of the request as defaults. -/
def signData (request : U2fRequest) : Option (List SignHelperChallenge) :=
  encodeSignChallenges P (getSignChallenges request) request.challenge request.appId challengeHashFn

/-- The sign data of a registration, with the default challenge. -/
def enrollSignData (request : U2fRequest) : Option (List SignHelperChallenge) :=
  encodeSignChallenges P (getSignChallenges request) (some []) request.appId P.encodedSha256

/-- The enroll challenges of a registration. -/
def enrollData (request : U2fRequest) : Option (List EnrollHelperChallenge) :=
  (request.registerRequests.getD []).mapM fun enrollChallenge =>
    encodeEnrollChallenge P enrollChallenge request.appId

/-- The key that a sign challenge asks for. -/
def askedKey (c : SignHelperChallenge) : JSString × Option JSString × JSString :=
  (c.appIdHash, c.keyHandle, c.version)

/-- What an enroll challenge asks for. -/
def askedEnroll (c : EnrollHelperChallenge) : JSString × JSString := (c.appIdHash, c.version)

variable {P} in
/-- The sign challenges of a registration are given a challenge first; encoding them with a default
challenge is the same. -/
theorem encodeSignChallenges_getSignRequestsFromEnrollRequest {request : U2fRequest}
    (hone : request.signRequests = none ∨ request.registeredKeys = none) :
    encodeSignChallenges P (getSignRequestsFromEnrollRequest request) (some []) request.appId
        P.encodedSha256 =
      enrollSignData P request := by
  have hlist : getSignRequestsFromEnrollRequest request =
      (getSignChallenges request).map fun signChallenges => signChallenges.map fun c =>
        { c with challenge := some (c.challenge.getD []) } := by
    rcases hone with h | h
    · cases hkeys : request.registeredKeys <;>
        simp [getSignRequestsFromEnrollRequest, getSignChallenges, h, hkeys]
    · cases hsign : request.signRequests <;>
        simp [getSignRequestsFromEnrollRequest, getSignChallenges, h, hsign]
  rw [hlist, enrollSignData, encodeSignChallenges, encodeSignChallenges]
  cases getSignChallenges request with
  | none => rfl
  | some signChallenges =>
      simp only [Option.map_some, Option.getD_some, List.mapM_map]
      congr 1
      funext c
      obtain ⟨challenge, keyHandle, appId, version⟩ := c
      cases challenge <;> rfl

/-! ### When the two forms agree -/

/-- An app id of an entry's own, if there is one, has the hash of the app id of the request. -/
def SameAppId (appId own : Option JSString) : Prop :=
  ∀ a, own = some a → appId.map P.hash = some (P.hash a)

/-- Every registered key has the app id of the request, or under both forms some key has none at
all. -/
def KeysAgree (appId : Option JSString) (registeredKeys : List RegisteredKey) : Prop :=
  (∀ key ∈ registeredKeys, SameAppId P appId key.appId) ∨
    appId = none ∧ ∃ key ∈ registeredKeys, key.appId = none

/-- The app id of an enroll challenge's own that counts: an empty one does not. -/
def ownAppId (enrollChallenge : EnrollChallenge) : Option JSString :=
  enrollChallenge.appId.filter (· ≠ [])

/-- Every register request has the app id of the request, which is not empty, or under both forms
some register request has none at all. -/
def EnrollAgree (appId : Option JSString) (registerRequests : List EnrollChallenge) : Prop :=
  registerRequests = [] ∨
    (truthy appId ∧ ∀ r ∈ registerRequests, SameAppId P appId (ownAppId r)) ∨
    appId = none ∧ ∃ r ∈ registerRequests, ownAppId r = none

variable {P challengeHashFn}

theorem sameAppId_iff {appId own : Option JSString} :
    SameAppId P appId own ↔ appId.map P.hash = (own.or appId).map P.hash := by
  cases own with
  | none => simp [SameAppId]
  | some a => simp [SameAppId]

/-- An encoded sign challenge, from the hash of its challenge and its app id. -/
def encodedKey (P : Primitives) (key : RegisteredKey) (challengeHash appId : Option JSString) :
    Option SignHelperChallenge :=
  challengeHash.bind fun challengeHash => appId.map fun appId =>
    ⟨challengeHash, P.hash appId, key.keyHandle,
      if truthy key.version then key.version.getD [] else js "U2F_V1"⟩

theorem encodeSignChallenge_toSignRequest {key : RegisteredKey}
    {challenge appId defaultChallenge : Option JSString} :
    encodeSignChallenge P defaultChallenge none challengeHashFn
        (key.toSignRequest challenge appId) =
      encodedKey P key (challengeHashFn key.keyHandle (challenge.or defaultChallenge)) appId := by
  cases challenge <;> cases appId <;> rfl

theorem encodeSignChallenge_toSignChallenge {key : RegisteredKey}
    {appId defaultChallenge : Option JSString} :
    encodeSignChallenge P defaultChallenge appId challengeHashFn key.toSignChallenge =
      encodedKey P key (challengeHashFn key.keyHandle defaultChallenge) (key.appId.or appId) := by
  obtain ⟨version, keyHandle, own⟩ := key
  cases own <;> cases appId <;> rfl

theorem encodedKey_eq_iff {key : RegisteredKey} {challengeHash appId appId' : Option JSString} :
    encodedKey P key challengeHash appId = encodedKey P key challengeHash appId' ↔
      challengeHash = none ∨ appId.map P.hash = appId'.map P.hash := by
  cases challengeHash with
  | none => simp [encodedKey]
  | some h => cases appId <;> cases appId' <;> simp [encodedKey]

theorem encodedKey_eq_none_iff {key : RegisteredKey} {challengeHash appId : Option JSString} :
    encodedKey P key challengeHash appId = none ↔ challengeHash = none ∨ appId = none := by
  cases challengeHash <;> simp [encodedKey]

/-- The conditions on the keys, by what the two forms give an entry: the app id of the request, or
its own. -/
theorem keysAgree_iff {appId : Option JSString} {keys : List RegisteredKey} :
    KeysAgree P appId keys ↔
      (∀ key ∈ keys, appId.map P.hash = (key.appId.or appId).map P.hash) ∨
        (∃ key ∈ keys, appId = none) ∧ ∃ key ∈ keys, key.appId.or appId = none := by
  rw [KeysAgree]
  refine or_congr (forall₂_congr fun key _ => sameAppId_iff) ?_
  constructor
  · rintro ⟨rfl, key, hkey, hown⟩
    exact ⟨⟨key, hkey, rfl⟩, key, hkey, by rw [hown]; rfl⟩
  · rintro ⟨⟨_, _, rfl⟩, key, hkey, hown⟩
    exact ⟨rfl, key, hkey, by simpa using hown⟩

/-- The encoded keys of the two forms. -/
theorem encodedKeys_eq_iff {keys : List RegisteredKey} {appId : Option JSString}
    (challengeHash : RegisteredKey → Option JSString) :
    (keys.mapM fun key => encodedKey P key (challengeHash key) appId) =
        (keys.mapM fun key => encodedKey P key (challengeHash key) (key.appId.or appId)) ↔
      (∃ key ∈ keys, challengeHash key = none) ∨ KeysAgree P appId keys := by
  rw [Traverse.mapM_eq_mapM_iff, keysAgree_iff]
  simp only [encodedKey_eq_iff, encodedKey_eq_none_iff]
  by_cases hhash : ∃ key ∈ keys, challengeHash key = none
  · -- A challenge that cannot be hashed stops both forms.
    obtain ⟨key, hkey, hnone⟩ := hhash
    exact ⟨fun _ => .inl ⟨key, hkey, hnone⟩,
      fun _ => .inr ⟨⟨key, hkey, .inl hnone⟩, key, hkey, .inl hnone⟩⟩
  · have hsome : ∀ key ∈ keys, challengeHash key ≠ none := fun key hkey hnone =>
      hhash ⟨key, hkey, hnone⟩
    rw [or_iff_right hhash]
    refine or_congr (forall₂_congr fun key hkey => or_iff_right (hsome key hkey)) ?_
    refine and_congr ?_ ?_
    · exact exists_congr fun key => and_congr_right fun hkey => or_iff_right (hsome key hkey)
    · exact exists_congr fun key => and_congr_right fun hkey => or_iff_right (hsome key hkey)

/-- What is asked for does not depend on the hash of the challenge, as long as there is one. -/
theorem askedKey_eq_iff {key : RegisteredKey} {appId appId' : Option JSString} {h h' : JSString} :
    (encodedKey P key (some h) appId).map askedKey =
        (encodedKey P key (some h') appId').map askedKey ↔
      appId.map P.hash = appId'.map P.hash := by
  cases appId <;> cases appId' <;> simp [encodedKey, askedKey]

/-- The keys that the two forms ask for, when the challenges have hashes. -/
theorem askedKeys_eq_iff {keys : List RegisteredKey} {appId : Option JSString} (h h' : JSString) :
    ((keys.mapM fun key => encodedKey P key (some h) appId).map (List.map askedKey) =
        (keys.mapM fun key => encodedKey P key (some h') (key.appId.or appId)).map
          (List.map askedKey)) ↔
      KeysAgree P appId keys := by
  rw [Traverse.map_mapM, Traverse.map_mapM, Traverse.mapM_eq_mapM_iff, keysAgree_iff]
  simp only [askedKey_eq_iff, Option.map_eq_none_iff, encodedKey_eq_none_iff, reduceCtorEq, false_or]

/-- What an enroll challenge asks for, from its app id. -/
def encodedEnroll (P : Primitives) (enrollChallenge : EnrollChallenge) (appId : Option JSString) :
    Option (JSString × JSString) :=
  appId.map fun appId => (P.hash appId, enrollChallenge.versionOrV1)

theorem askedEnroll_encodeEnrollChallenge {enrollChallenge : EnrollChallenge}
    {appId : Option JSString} :
    (encodeEnrollChallenge P enrollChallenge appId).map askedEnroll =
      encodedEnroll P enrollChallenge (enrollChallenge.appIdOr appId) := by
  rw [encodeEnrollChallenge, encodedEnroll]
  cases enrollChallenge.appIdOr appId <;> rfl

theorem encodedEnroll_eq_iff {enrollChallenge : EnrollChallenge} {appId appId' : Option JSString} :
    encodedEnroll P enrollChallenge appId = encodedEnroll P enrollChallenge appId' ↔
      appId.map P.hash = appId'.map P.hash := by
  cases appId <;> cases appId' <;> simp [encodedEnroll]

theorem encodedEnroll_eq_none_iff {enrollChallenge : EnrollChallenge} {appId : Option JSString} :
    encodedEnroll P enrollChallenge appId = none ↔ appId = none :=
  Option.map_eq_none_iff

/-- The app id that an enroll challenge is encoded with. -/
theorem appIdOr_eq (enrollChallenge : EnrollChallenge) (appId : Option JSString) :
    enrollChallenge.appIdOr appId = (ownAppId enrollChallenge).or appId := by
  obtain ⟨version, challenge, own, others⟩ := enrollChallenge
  cases own with
  | none => rfl
  | some a =>
      by_cases ha : a = []
      · subst ha
        rfl
      · simp [EnrollChallenge.appIdOr, ownAppId, truthy, Option.filter, ha]

/-- The enroll challenges that the two forms ask for: in the 1.0 form an empty app id is none. -/
theorem askedEnrolls_eq_iff {registerRequests : List EnrollChallenge} {appId : Option JSString} :
    (registerRequests.mapM fun r => encodedEnroll P r (appId.filter (· ≠ []))) =
        (registerRequests.mapM fun r => encodedEnroll P r ((ownAppId r).or appId)) ↔
      EnrollAgree P appId registerRequests := by
  rw [Traverse.mapM_eq_mapM_iff, EnrollAgree]
  simp only [encodedEnroll_eq_iff, encodedEnroll_eq_none_iff]
  cases registerRequests with
  | nil => simp
  | cons r rs =>
      have hmem : ∃ r', r' ∈ r :: rs := ⟨r, List.mem_cons_self⟩
      rw [or_iff_right (List.cons_ne_nil r rs)]
      generalize r :: rs = requests at hmem ⊢
      obtain ⟨first, hfirst⟩ := hmem
      cases appId with
      | none =>
          simp only [Option.filter_none, Option.or_none, Option.map_none, truthy, Option.getD_none,
            ne_eq, not_true_eq_false, decide_false, Bool.false_eq_true, false_and, false_or,
            true_and]
          constructor
          · rintro (hall | ⟨_, hnone⟩)
            · exact ⟨first, hfirst, Option.map_eq_none_iff.1 (hall first hfirst).symm⟩
            · exact hnone
          · exact fun hnone => .inr ⟨⟨first, hfirst, trivial⟩, hnone⟩
      | some a =>
          by_cases ha : a = []
          · -- The 1.0 form fails, the 1.1 form hashes the empty string.
            subst ha
            simp only [Option.filter, truthy, Option.or_eq_none_iff]
            constructor
            · rintro (hall | ⟨_, _, _, _, hsome⟩)
              · have hfail := hall first hfirst
                cases hown : ownAppId first <;> simp [hown] at hfail
              · cases hsome
            · rintro (⟨htrue, _⟩ | ⟨hsome, _⟩)
              · simp at htrue
              · cases hsome
          · have hfilter : (some a).filter (fun s => decide (s ≠ [])) = some a := by
              simp [Option.filter, ha]
            have htruthy : truthy (some a) = true := by simp [truthy, ha]
            simp only [hfilter, htruthy, true_and, reduceCtorEq, false_and, or_false, and_false,
              exists_false, sameAppId_iff]

/-! ### The two forms -/

section Forms

variable {v₀ v₁ : Option ℚ} (h₀ : isApi10 v₀ = true) (h₁ : isApi10 v₁ = false)
  {appId challenge : Option JSString} {keys : List RegisteredKey}
  {registerRequests : List EnrollChallenge} {timeoutSeconds : ℚ} {reqId : ℤ}

include h₀ in
theorem signData_of_api10 :
    signData P challengeHashFn (formatSignRequest v₀ appId challenge keys timeoutSeconds reqId) =
      keys.mapM fun key => encodedKey P key (challengeHashFn key.keyHandle challenge) appId := by
  rw [formatSignRequest, if_pos h₀]
  simp only [signData, getSignChallenges, encodeSignChallenges, Option.getD_some, List.mapM_map]
  congr 1
  funext key
  rw [Function.comp_apply, encodeSignChallenge_toSignRequest, Option.or_none]

include h₁ in
theorem signData_of_api11 :
    signData P challengeHashFn (formatSignRequest v₁ appId challenge keys timeoutSeconds reqId) =
      keys.mapM fun key => encodedKey P key (challengeHashFn key.keyHandle challenge)
        (key.appId.or appId) := by
  rw [formatSignRequest, if_neg (by simp [h₁])]
  simp only [signData, getSignChallenges, encodeSignChallenges, Option.getD_some, List.mapM_map]
  congr 1
  funext key
  exact encodeSignChallenge_toSignChallenge

include h₀ in
theorem enrollSignData_of_api10 :
    enrollSignData P
        (formatRegisterRequest v₀ appId keys registerRequests timeoutSeconds reqId) =
      keys.mapM fun key => encodedKey P key
        (some (P.hash ((registerRequests.head?.map fun _ => OBJECT_CHALLENGE).getD []))) appId := by
  rw [formatRegisterRequest, if_pos h₀]
  simp only [enrollSignData, getSignChallenges, encodeSignChallenges, Option.getD_some,
    List.mapM_map]
  congr 1
  funext key
  rw [Function.comp_apply, encodeSignChallenge_toSignRequest]
  cases registerRequests <;> rfl

include h₁ in
theorem enrollSignData_of_api11 :
    enrollSignData P
        (formatRegisterRequest v₁ appId keys registerRequests timeoutSeconds reqId) =
      keys.mapM fun key => encodedKey P key (some (P.hash [])) (key.appId.or appId) := by
  rw [formatRegisterRequest, if_neg (by simp [h₁])]
  simp only [enrollSignData, getSignChallenges, encodeSignChallenges, Option.getD_some,
    List.mapM_map]
  congr 1
  funext key
  exact encodeSignChallenge_toSignChallenge

include h₀ in
theorem enrollData_of_api10 :
    (enrollData P (formatRegisterRequest v₀ appId keys registerRequests timeoutSeconds reqId)).map
        (List.map askedEnroll) =
      registerRequests.mapM fun r => encodedEnroll P r (appId.filter (· ≠ [])) := by
  rw [formatRegisterRequest, if_pos h₀]
  simp only [enrollData, Option.getD_some, List.mapM_map, Traverse.map_mapM]
  congr 1
  funext r
  rw [Function.comp_apply, askedEnroll_encodeEnrollChallenge, appIdOr_eq, Option.or_none]
  rfl

include h₁ in
theorem enrollData_of_api11 :
    (enrollData P (formatRegisterRequest v₁ appId keys registerRequests timeoutSeconds reqId)).map
        (List.map askedEnroll) =
      registerRequests.mapM fun r => encodedEnroll P r ((ownAppId r).or appId) := by
  rw [formatRegisterRequest, if_neg (by simp [h₁])]
  simp only [enrollData, Option.getD_some, Traverse.map_mapM]
  congr 1
  funext r
  rw [askedEnroll_encodeEnrollChallenge, appIdOr_eq]

variable (P challengeHashFn appId challenge keys registerRequests timeoutSeconds reqId)

include h₀ h₁ in
/-- **When the two forms agree.**  The sign data of a sign request, challenge hashes included, are
the same if and only if every registered key has the app id of the request, or encoding throws
under both forms.  For a registration it is the same condition on the keys, and the enroll
challenges ask for the same if and only if every register request has the app id of the request,
which is not empty, or encoding throws under both forms. -/
theorem forms_agree_iff :
    (signData P challengeHashFn (formatSignRequest v₀ appId challenge keys timeoutSeconds reqId) =
        signData P challengeHashFn
          (formatSignRequest v₁ appId challenge keys timeoutSeconds reqId) ↔
      (∃ key ∈ keys, challengeHashFn key.keyHandle challenge = none) ∨ KeysAgree P appId keys) ∧
    ((enrollSignData P
          (formatRegisterRequest v₀ appId keys registerRequests timeoutSeconds reqId)).map
          (List.map askedKey) =
        (enrollSignData P
          (formatRegisterRequest v₁ appId keys registerRequests timeoutSeconds reqId)).map
          (List.map askedKey) ↔
      KeysAgree P appId keys) ∧
    ((enrollData P
          (formatRegisterRequest v₀ appId keys registerRequests timeoutSeconds reqId)).map
          (List.map askedEnroll) =
        (enrollData P
          (formatRegisterRequest v₁ appId keys registerRequests timeoutSeconds reqId)).map
          (List.map askedEnroll) ↔
      EnrollAgree P appId registerRequests) := by
  refine ⟨?_, ?_, ?_⟩
  · rw [signData_of_api10 h₀, signData_of_api11 h₁]
    exact encodedKeys_eq_iff _
  · rw [enrollSignData_of_api10 h₀, enrollSignData_of_api11 h₁]
    exact askedKeys_eq_iff _ _
  · rw [enrollData_of_api10 h₀, enrollData_of_api11 h₁]
    exact askedEnrolls_eq_iff

end Forms

/-! ### An app id of a key's own -/

section OwnAppId

/-- Hashes that are the strings themselves. -/
def plain : Primitives where
  sha256HashOfString := UTIL_StringToBytes
  B64_encode bytes := bytes.map UInt16.ofNat
  makeBrowserData typ serverChallenge origin _ := typ ++ serverChallenge ++ origin

/-- A key, with an app id of its own or without. -/
def keyOf (appId : Option JSString) : RegisteredKey :=
  ⟨some (js "U2F_V2"), some (js "handle"), appId⟩

/-- A register request, with an app id of its own or without. -/
def enrollOf (appId : Option JSString) : EnrollChallenge :=
  ⟨some (js "U2F_V2"), some (js "c"), appId, .none⟩

/-- A sign request and a register request for the app id `a`. -/
def signRequestFor (js_api_version : Option ℚ) (keys : List RegisteredKey) : U2fRequest :=
  formatSignRequest js_api_version (some (js "a")) (some (js "c")) keys 30 1

def registerRequestFor (js_api_version : Option ℚ) (keys : List RegisteredKey)
    (registerRequests : List EnrollChallenge) : U2fRequest :=
  formatRegisterRequest js_api_version (some (js "a")) keys registerRequests 30 1

theorem isApi10_undefined : isApi10 none = true := rfl

theorem isApi10_eleven_tenths : isApi10 (some (11 / 10)) = false := by simp [isApi10]

/-- The two forms agree on keys without app ids of their own, and on those that have that of the
request. -/
theorem forms_agree_same :
    let keys := [keyOf none, keyOf (some (js "a"))]
    let registerRequests := [enrollOf none, enrollOf (some (js "a"))]
    signData plain plain.encodedSha256 (signRequestFor none keys) =
        signData plain plain.encodedSha256 (signRequestFor (some (11 / 10)) keys) ∧
      (enrollSignData plain (registerRequestFor none keys registerRequests)).map
          (List.map askedKey) =
        (enrollSignData plain (registerRequestFor (some (11 / 10)) keys registerRequests)).map
          (List.map askedKey) ∧
      (enrollData plain (registerRequestFor none keys registerRequests)).map
          (List.map askedEnroll) =
        (enrollData plain (registerRequestFor (some (11 / 10)) keys registerRequests)).map
          (List.map askedEnroll) := by
  intro keys registerRequests
  obtain ⟨hsign, hkeys, henroll⟩ := forms_agree_iff plain plain.encodedSha256
    isApi10_undefined isApi10_eleven_tenths (some (js "a")) (some (js "c")) keys registerRequests 30 1
  have hagree : KeysAgree plain (some (js "a")) keys := by
    refine .inl fun key hkey a ha => ?_
    simp only [keys, List.mem_cons, List.not_mem_nil, or_false] at hkey
    rcases hkey with rfl | rfl
    · cases ha
    · cases ha
      rfl
  refine ⟨hsign.2 (.inr hagree), hkeys.2 hagree, henroll.2 (.inr (.inl ⟨by decide, ?_⟩))⟩
  intro r hr a ha
  simp only [registerRequests, List.mem_cons, List.not_mem_nil, or_false] at hr
  rcases hr with rfl | rfl
  · cases ha
  · cases ha
    rfl

/-- **The two forms do not agree on an app id of an entry's own.**  The 1.1 form asks for a key that
was registered under another app id, and the 1.0 form for none that exists; a register request with
an app id of its own is for that one in the 1.1 form only. -/
theorem forms_disagree_own :
    signData plain plain.encodedSha256 (signRequestFor none [keyOf (some (js "b"))]) ≠
        signData plain plain.encodedSha256
          (signRequestFor (some (11 / 10)) [keyOf (some (js "b"))]) ∧
      (enrollSignData plain (registerRequestFor none [keyOf (some (js "b"))] [])).map
          (List.map askedKey) ≠
        (enrollSignData plain
          (registerRequestFor (some (11 / 10)) [keyOf (some (js "b"))] [])).map
          (List.map askedKey) ∧
      (enrollData plain (registerRequestFor none [] [enrollOf (some (js "b"))])).map
          (List.map askedEnroll) ≠
        (enrollData plain (registerRequestFor (some (11 / 10)) [] [enrollOf (some (js "b"))])).map
          (List.map askedEnroll) := by
  refine ⟨?_, ?_, ?_⟩
  · rw [signRequestFor, signRequestFor, signData_of_api10 rfl,
      signData_of_api11 isApi10_eleven_tenths]
    decide
  · rw [registerRequestFor, registerRequestFor, enrollSignData_of_api10 rfl,
      enrollSignData_of_api11 isApi10_eleven_tenths]
    decide
  · rw [registerRequestFor, registerRequestFor, enrollData_of_api10 rfl,
      enrollData_of_api11 isApi10_eleven_tenths]
    decide

end OwnAppId

end PageApi

end U2F
