/-
**A site, and a browser whose helper is the software token.**

The page of the site asks the server for requests, hands them to the extension, which asks the
software token, and keeps the answers until it gives them to the server: at any time, in any order,
once or more than once, while everybody else goes on calling the server for accounts of his own.  A
registration is accepted whenever it is given to the server.  An authentication is accepted exactly if
its counter is greater than those that the server has accepted for the same key; since the counters of
the token go up, none is lost that is given to the server in the order in which it was made, and none is
accepted twice.

Main definitions:

* `SoftTokenSite`, `SoftTokenSite.machine` — the site, and its runs;
* `SoftTokenSite.Agree` — what is assumed of the libraries of the browser and of the server;
* `SoftTokenSite.Proper` — what is assumed of a step;
* `SoftTokenSite.Sound` — the invariant between the token, the server and the answers on their way.

Main results:

* `SoftTokenSite.next_enroll`, `SoftTokenSite.next_sign` — what the steps of the token do;
* `SoftTokenSite.accepts_iff_later` — when the server accepts an answer;
* `SoftTokenSite.always_served` — **every step of a run is served**.
-/

import U2F.Extension.SoftTokenFormat
import U2F.Server.UnsignedCounters

set_option relaxedAutoImplicit false
set_option autoImplicit false

namespace U2F

open MemoryDataStore

/-! ### The site -/

/-- A site and its page, for one account and one browser. -/
structure SoftTokenSite (Cert PublicKey : Type) where
  server : U2FServerReferenceImpl Cert PublicKey
  accountName : String
  appId : String
  token : SoftTokenPrimitives
  extension : Primitives
  /-- In hexadecimal, as the certificate. -/
  attestationKey : JSString
  attestationCert : JSString
  /-- A text of the server in the browser. -/
  inBrowser : String → JSString
  /-- A text of the browser at the server. -/
  atServer : JSString → String

/-- An answer that the page has for the server; with that of an authentication, the registration
that the token has signed with, as it was then. -/
inductive TokenAnswer
  | registration (response : RegistrationResponse)
  | authentication (registration : SoftTokenRegistration) (response : SignResponse)

/-- The call of the server that the answer is for. -/
def TokenAnswer.operation (currentTimeInMillis : Int64) : TokenAnswer → Operation
  | registration response => .processRegistrationResponse response currentTimeInMillis
  | authentication _ response => .processSignResponse response

structure SiteState (Cert : Type) where
  store : MemoryDataStore Cert
  profile : SoftTokenProfile
  /-- The answers that the page has got, in their order. -/
  answers : List TokenAnswer
  /-- What the token has signed with when the server has accepted an authentication. -/
  accepted : List SoftTokenRegistration

/-- A step: somebody calls the server, the page asks the token, or gives an answer to the server. -/
inductive SiteEvent
  | server (operation : Operation)
  | enroll (request : RegistrationRequest) (registeredKeys : List RegisteredKey)
      (clientData : String) (keyPair : SoftTokenKeyPair)
  | sign (registeredKeys : List RegisteredKey) (clientData : String)
  | give (i : ℕ) (currentTimeInMillis : Int64)

namespace SoftTokenSite

variable {Cert PublicKey : Type} (site : SoftTokenSite Cert PublicKey)

/-- Nothing is registered with the token; the server may have been used. -/
def start (store : MemoryDataStore Cert) : SiteState Cert :=
  ⟨store, ⟨site.attestationKey, site.attestationCert, []⟩, [], []⟩

/-! ### The requests to the token -/

/-- `B64_encode(sha256HashOfString(s))`, for a text of the server. -/
def hash (s : String) : JSString := site.extension.hash (site.inBrowser s)

/-- A registered key, as `getJson` writes it for its app id. -/
def signChallenge (registeredKey : RegisteredKey) : SignChallenge :=
  ⟨none, some (site.inBrowser registeredKey.keyHandle), none,
    some (site.inBrowser registeredKey.version)⟩

def enrollRequest (request : RegistrationRequest) (registeredKeys : List RegisteredKey)
    (clientData : String) : Option HelperRequest := do
  let enrollChallenge ← encodeEnrollChallenge site.extension
    ⟨some (site.inBrowser request.version), some (site.hash clientData), none, .none⟩
    (some (site.inBrowser site.appId))
  let signData ← encodeSignChallenges site.extension (some (registeredKeys.map site.signChallenge))
    (some []) (some (site.inBrowser site.appId)) site.extension.encodedSha256
  return ⟨js "enroll_helper_request", [enrollChallenge], signData, none, none⟩

def signRequest (registeredKeys : List RegisteredKey) (clientData : String) :
    Option HelperRequest :=
  (encodeSignChallenges site.extension (some (registeredKeys.map site.signChallenge)) none
    (some (site.inBrowser site.appId)) fun _ _ => some (site.hash clientData)).map fun challenges =>
      makeSignHelperRequest challenges 0 none

/-! ### The steps -/

/-- `sessionIds[keyHandle]`: the page keeps the last session id for a key handle. -/
def sessionIdOf (registeredKeys : List RegisteredKey) (keyHandle : JSString) : Option String :=
  (registeredKeys.reverse.find? fun registeredKey =>
    site.inBrowser registeredKey.keyHandle = keyHandle).map RegisteredKey.sessionId

/-- The client data in a response. -/
def encodedClientData (clientData : String) : String :=
  site.server.platform.encodeBase64URLSafeString (site.server.platform.getBytes clientData)

def enroll (s : SiteState Cert) (request : RegistrationRequest)
    (registeredKeys : List RegisteredKey) (clientData : String) (keyPair : SoftTokenKeyPair) :
    SiteState Cert :=
  match site.enrollRequest request registeredKeys clientData with
  | none => s
  | some helperRequest =>
      let result := SoftTokenEnrollHandler.run site.token keyPair s.profile helperRequest
      let s := { s with profile := result.1 }
      match result.2.bind (·.content.enrollData) with
      | none => s
      | some enrollData => { s with
          answers := s.answers ++ [.registration ⟨some (site.atServer enrollData),
            some (site.encodedClientData clientData), some request.sessionId⟩] }

def sign (s : SiteState Cert) (registeredKeys : List RegisteredKey) (clientData : String) :
    SiteState Cert :=
  match site.signRequest registeredKeys clientData with
  | none => s
  | some helperRequest =>
      let result := SoftTokenSignHandler.run site.token s.profile helperRequest
      let s := { s with profile := result.1 }
      match result.2.bind (·.content.responseData) with
      | none => s
      | some (keyHandle, signatureData) =>
          match s.profile.getRegistration (site.hash site.appId) (some keyHandle) with
          | none => s
          | some registration => { s with
              answers := s.answers ++ [.authentication registration
                ⟨some (site.atServer keyHandle), some (site.atServer signatureData),
                  some (site.encodedClientData clientData),
                  site.sessionIdOf registeredKeys keyHandle⟩] }

variable [DecidableEq Cert]

def give (s : SiteState Cert) (answer : TokenAnswer) (currentTimeInMillis : Int64) :
    SiteState Cert :=
  let operation := answer.operation currentTimeInMillis
  { s with
    store := site.server.machine.next s.store operation
    accepted :=
      match site.server.machine.reply s.store operation, answer with
      | .ok _, .authentication registration _ => s.accepted ++ [registration]
      | _, _ => s.accepted }

/-- **The site.** -/
def machine : Machine (SiteState Cert) SiteEvent Unit where
  step s
    | .server operation => ((), { s with store := site.server.machine.next s.store operation })
    | .enroll request registeredKeys clientData keyPair =>
        ((), site.enroll s request registeredKeys clientData keyPair)
    | .sign registeredKeys clientData => ((), site.sign s registeredKeys clientData)
    | .give i currentTimeInMillis =>
        ((), match s.answers[i]? with
          | none => s
          | some answer => site.give s answer currentTimeInMillis)

/-! ### What is assumed -/

/-- The hash of a text is the same in the browser and at the server. -/
def Hashes (s : String) : Prop :=
  ∃ digest, digest.length = 32 ∧ site.token.B64_decode (site.hash s) = digest ∧
    site.server.crypto.computeSha256 (site.server.platform.getBytes s) = .ok digest

/-- What the token signs with a key pair verifies at the server under its public key, an
uncompressed point. -/
structure SignsFor (keyPair : SoftTokenKeyPair) : Prop where
  length : (site.token.UTIL_HexToBytes keyPair.pub).length = 65
  digest : (site.token.digest keyPair.pub).length ≤ 255
  verifies : ∃ publicKey,
    site.server.crypto.decodePublicKey (site.token.UTIL_HexToBytes keyPair.pub) = .ok publicKey ∧
    ∀ message, site.server.crypto.verifySignature publicKey message
      (site.token.sign keyPair.sec message) = .ok true

/-- The libraries of the browser and of the server agree on base64, on the app id, and on the
certificate of the token. -/
structure Agree : Prop where
  roundTrips : site.server.platform.RoundTrips
  decode : ∀ bytes, site.token.B64_decode (site.token.B64_encode bytes) = bytes
  atServer : ∀ bytes, site.atServer (site.token.B64_encode bytes) =
    site.server.platform.encodeBase64URLSafeString bytes
  inBrowser : ∀ bytes, site.inBrowser (site.server.platform.encodeBase64URLSafeString bytes) =
    site.token.B64_encode bytes
  version : site.inBrowser U2F_V2 = js "U2F_V2"
  appId : site.Hashes site.appId
  certificate : ∃ cert transports bytes,
    site.server.platform.ReadsCertificate (site.token.UTIL_HexToBytes site.attestationCert) cert ∧
    site.server.parseTransports cert = .ok transports ∧
    site.server.platform.getEncoded cert = .ok bytes ∧
    ∀ message, site.server.crypto.verifyCertificateSignature cert message
      (site.token.sign site.attestationKey message) = .ok true

omit [DecidableEq Cert] in
/-- A call that changes no key of the account. -/
def Elsewhere (store : MemoryDataStore Cert) : Operation → Prop
  | .processRegistrationResponse response _ => ∀ session,
      store.getEnrollSessionData response.sessionId = some session →
      session.accountName ≠ site.accountName
  | .processSignResponse response => ∀ session,
      store.getSignSessionData response.sessionId = .ok (some session) →
      session.accountName ≠ site.accountName
  | .removeSecurityKey accountName _ => accountName ≠ site.accountName
  | _ => True

/-- **A proper step.**  Others call the server for other accounts.  The page asks the token with a
request that the server has handed out and with client data that the server accepts for it; a new key
pair is none of the token's, and no counter has come to its end. -/
def Proper (s : SiteState Cert) : SiteEvent → Prop
  | .server operation => site.Elsewhere s.store operation
  | .enroll request _ clientData keyPair =>
      (∃ challenge, request.version = U2F_V2 ∧
        s.store.getEnrollSessionData (some request.sessionId) =
          some ⟨site.accountName, site.appId, challenge⟩ ∧
        site.server.ValidBrowserData clientData "navigator.id.finishEnrollment" challenge) ∧
      site.Hashes clientData ∧ site.SignsFor keyPair ∧
      ∀ registration ∈ s.profile.registrations,
        registration.keyHandle ≠ site.token.B64_encode (site.token.digest keyPair.pub) ∧
        site.token.UTIL_HexToBytes registration.keys.pub ≠
          site.token.UTIL_HexToBytes keyPair.pub
  | .sign registeredKeys clientData =>
      (∃ challenge, registeredKeys ≠ [] ∧
        (∀ registeredKey ∈ registeredKeys, ∃ key ∈ s.store.getSecurityKeyData site.accountName,
          site.server.Offers ⟨site.accountName, site.appId, challenge⟩ s.store key registeredKey) ∧
        site.server.ValidBrowserData clientData "navigator.id.getAssertion" challenge) ∧
      site.Hashes clientData ∧
      ∀ registration ∈ s.profile.registrations, registration.counter + 1 < 2 ^ 31
  | .give _ _ => True

/-- An authentication comes after all that have been accepted for the same key; a registration is
always in time. -/
def TokenAnswer.Later (accepted : List SoftTokenRegistration) : TokenAnswer → Prop
  | .registration _ => True
  | .authentication registration _ => ∀ earlier ∈ accepted,
      earlier.keyHandle = registration.keyHandle → earlier.counter < registration.counter

/-- **A step is served.**  The page gets an answer, unless it has asked for a registration with a key
of the token among the registered keys; the counter of an authentication is greater than all that the
token has used for the same key; and the server accepts what is later. -/
def Served (s : SiteState Cert) : SiteEvent → Prop
  | .server _ => True
  | .enroll request registeredKeys clientData keyPair =>
      let s' := site.machine.next s (.enroll request registeredKeys clientData keyPair)
      (∃ response, s'.answers = s.answers ++ [.registration response]) ∨
        s' = s ∧ ∃ registeredKey ∈ registeredKeys, ∃ registration ∈ s.profile.registrations,
          site.inBrowser registeredKey.keyHandle = registration.keyHandle
  | .sign registeredKeys clientData =>
      ∃ registration response,
        (site.machine.next s (.sign registeredKeys clientData)).answers =
          s.answers ++ [.authentication registration response] ∧
        ∀ earlier response', .authentication earlier response' ∈ s.answers →
          earlier.keyHandle = registration.keyHandle → earlier.counter < registration.counter
  | .give i currentTimeInMillis => ∀ answer, s.answers[i]? = some answer →
      (site.server.Accepts s.store (answer.operation currentTimeInMillis) ↔
        TokenAnswer.Later s.accepted answer)

/-! ### The requests to the token, written out -/

omit [DecidableEq Cert]

/-- A registered key in the request to the token, with the hash of a challenge. -/
def helperChallenge (challengeHash : JSString) (registeredKey : RegisteredKey) :
    SignHelperChallenge :=
  ⟨challengeHash, site.hash site.appId, some (site.inBrowser registeredKey.keyHandle),
    if truthy (some (site.inBrowser registeredKey.version)) then site.inBrowser registeredKey.version
    else js "U2F_V1"⟩

theorem encodeSignChallenges_eq {defaultChallenge : Option JSString} {challengeHash : JSString}
    {challengeHashFn : Option JSString → Option JSString → Option JSString}
    (hhash : ∀ keyHandle, challengeHashFn keyHandle defaultChallenge = some challengeHash)
    (registeredKeys : List RegisteredKey) :
    encodeSignChallenges site.extension (some (registeredKeys.map site.signChallenge))
        defaultChallenge (some (site.inBrowser site.appId)) challengeHashFn =
      some (registeredKeys.map (site.helperChallenge challengeHash)) := by
  rw [encodeSignChallenges, Option.getD_some]
  induction registeredKeys with
  | nil => rfl
  | cons registeredKey registeredKeys ih =>
      have hfirst : encodeSignChallenge site.extension defaultChallenge
          (some (site.inBrowser site.appId)) challengeHashFn (site.signChallenge registeredKey) =
          some (site.helperChallenge challengeHash registeredKey) := by
        simp only [encodeSignChallenge, signChallenge, SignChallenge.challengeOr,
          SignChallenge.appIdOr, hhash, Option.bind_eq_bind, Option.bind_some]
        rfl
      rw [List.map_cons, List.mapM_cons, hfirst, ih]
      rfl

theorem signRequest_eq (registeredKeys : List RegisteredKey) (clientData : String) :
    site.signRequest registeredKeys clientData = some (makeSignHelperRequest
      (registeredKeys.map (site.helperChallenge (site.hash clientData))) 0 none) := by
  rw [signRequest, site.encodeSignChallenges_eq fun _ => rfl]
  rfl

variable {site} (hagree : site.Agree)
include hagree

theorem enrollRequest_eq {request : RegistrationRequest} (hversion : request.version = U2F_V2)
    (registeredKeys : List RegisteredKey) (clientData : String) :
    site.enrollRequest request registeredKeys clientData = some ⟨js "enroll_helper_request",
      [⟨js "U2F_V2", some (site.hash clientData), site.hash site.appId⟩],
      registeredKeys.map (site.helperChallenge (site.extension.hash [])), none, none⟩ := by
  have hfn : ∀ keyHandle, site.extension.encodedSha256 keyHandle (some []) =
      some (site.extension.hash []) := fun _ => rfl
  rw [enrollRequest, site.encodeSignChallenges_eq hfn, hversion, hagree.version]
  rfl

omit hagree

/-! ### The profile of the token -/

variable (site)

/-- The public key of a registration. -/
def publicKey (registration : SoftTokenRegistration) : Bytes :=
  site.token.UTIL_HexToBytes registration.keys.pub

/-- A registration that the token has made for the site. -/
structure Holds (registration : SoftTokenRegistration) : Prop where
  appIdHash : registration.appIdHash = site.hash site.appId
  keyHandle : registration.keyHandle =
    site.token.B64_encode (site.token.digest registration.keys.pub)
  signs : site.SignsFor registration.keys

/-- **The profile**: its registrations have key handles and public keys of their own. -/
structure Keeps (profile : SoftTokenProfile) : Prop where
  attestationKey : profile.attestationKey = site.attestationKey
  attestationCert : profile.attestationCert = site.attestationCert
  holds : ∀ registration ∈ profile.registrations, site.Holds registration
  distinct : (profile.registrations.map (·.keyHandle)).Nodup
  publicKeys : ∀ r ∈ profile.registrations, ∀ r' ∈ profile.registrations,
    site.publicKey r = site.publicKey r' → r.keyHandle = r'.keyHandle

omit site in
/-- The registration is an earlier state of one of the profile. -/
def Behind (profile : SoftTokenProfile) (earlier : SoftTokenRegistration) : Prop :=
  ∃ r ∈ profile.registrations, r.keyHandle = earlier.keyHandle ∧ r.keys = earlier.keys ∧
    earlier.counter ≤ r.counter

variable {site} {profile : SoftTokenProfile} {r r' : SoftTokenRegistration}

/-- Two registrations with one key handle are the same. -/
theorem Keeps.eq_of_keyHandle (h : site.Keeps profile) (hr : r ∈ profile.registrations)
    (hr' : r' ∈ profile.registrations) (hhandle : r.keyHandle = r'.keyHandle) : r = r' :=
  List.inj_on_of_nodup_map h.distinct hr hr' hhandle

/-- A registration is found by its key handle. -/
theorem Keeps.getRegistration_eq (h : site.Keeps profile) (hr : r ∈ profile.registrations) :
    profile.getRegistration (site.hash site.appId) (some r.keyHandle) = some r := by
  refine FirstMatch.find?_eq_some_of_nodup h.distinct hr ?_ fun x hx => ?_
  · exact decide_eq_true ⟨(h.holds r hr).appIdHash, rfl⟩
  · exact Option.some.inj (of_decide_eq_true hx).2

theorem of_getRegistration {appIdHash : JSString} {keyHandle : Option JSString}
    (h : profile.getRegistration appIdHash keyHandle = some r) :
    r ∈ profile.registrations ∧ some r.keyHandle = keyHandle := by
  have hfor : SoftTokenProfile.isFor appIdHash keyHandle r = true := List.find?_some h
  exact ⟨List.mem_of_find?_eq_some h, (of_decide_eq_true hfor).2⟩

/-- A new registration. -/
theorem Keeps.createRegistration (h : site.Keeps profile) {keyPair : SoftTokenKeyPair}
    (hsigns : site.SignsFor keyPair)
    (hnew : ∀ registration ∈ profile.registrations,
      registration.keyHandle ≠ site.token.B64_encode (site.token.digest keyPair.pub) ∧
      site.token.UTIL_HexToBytes registration.keys.pub ≠ site.token.UTIL_HexToBytes keyPair.pub) :
    site.Keeps (profile.createRegistration site.token (site.hash site.appId) keyPair).2 := by
  refine ⟨h.attestationKey, h.attestationCert, ?_, ?_, ?_⟩
  · intro r hr
    rcases List.mem_append.1 hr with hr | hr
    · exact h.holds r hr
    · obtain rfl := List.mem_singleton.1 hr
      exact ⟨rfl, rfl, hsigns⟩
  · change (List.map _ (profile.registrations ++ [_])).Nodup
    rw [List.map_append, List.map_singleton]
    refine h.distinct.append (List.nodup_singleton _) ?_
    intro x hx hx'
    obtain rfl := List.mem_singleton.1 hx'
    obtain ⟨r, hr, hhandle⟩ := List.mem_map.1 hx
    exact (hnew r hr).1 hhandle
  · intro r hr r' hr' heq
    rcases List.mem_append.1 hr with hr | hr <;> rcases List.mem_append.1 hr' with hr' | hr'
    · exact h.publicKeys r hr r' hr' heq
    · obtain rfl := List.mem_singleton.1 hr'
      exact absurd heq (hnew r hr).2
    · obtain rfl := List.mem_singleton.1 hr
      exact absurd heq.symm (hnew r' hr').2
    · rw [List.mem_singleton.1 hr, List.mem_singleton.1 hr']

/-- The registrations after a counter has been incremented. -/
theorem Keeps.registrations_incrementCounter (h : site.Keeps profile)
    (hr : r ∈ profile.registrations) :
    ∃ before after, profile.registrations = before ++ r :: after ∧
      (profile.incrementCounter (site.hash site.appId) (some r.keyHandle)).registrations =
        before ++ { r with counter := r.counter + 1 } :: after := by
  obtain ⟨before, after, heq, -, hupdate⟩ := FirstMatch.update_of_find?
    (f := fun reg : SoftTokenRegistration => { reg with counter := reg.counter + 1 })
    (h.getRegistration_eq hr)
  exact ⟨before, after, heq, hupdate⟩

/-- The counter of a registration has been incremented. -/
theorem Keeps.incrementCounter (h : site.Keeps profile) (hr : r ∈ profile.registrations) :
    site.Keeps (profile.incrementCounter (site.hash site.appId) (some r.keyHandle)) := by
  obtain ⟨before, after, hold, hnew⟩ := h.registrations_incrementCounter hr
  -- what is asked of a registration does not depend on its counter
  have hback : ∀ x ∈ before ++ { r with counter := r.counter + 1 } :: after,
      ∃ y ∈ profile.registrations, x.appIdHash = y.appIdHash ∧ x.keyHandle = y.keyHandle ∧
        x.keys = y.keys := by
    intro x hx
    rw [hold]
    rcases List.mem_append.1 hx with hx | hx
    · exact ⟨x, List.mem_append_left _ hx, rfl, rfl, rfl⟩
    · rcases List.mem_cons.1 hx with rfl | hx
      · exact ⟨r, List.mem_append_right _ List.mem_cons_self, rfl, rfl, rfl⟩
      · exact ⟨x, List.mem_append_right _ (List.mem_cons_of_mem r hx), rfl, rfl, rfl⟩
  refine ⟨h.attestationKey, h.attestationCert, ?_, ?_, ?_⟩
  · rw [hnew]
    intro x hx
    obtain ⟨y, hy, happId, hhandle, hkeys⟩ := hback x hx
    obtain ⟨happId', hhandle', hsigns⟩ := h.holds y hy
    exact ⟨happId.trans happId', by rw [hhandle, hhandle', hkeys], hkeys ▸ hsigns⟩
  · have hdistinct := h.distinct
    rw [hold, List.map_append, List.map_cons] at hdistinct
    rw [hnew, List.map_append, List.map_cons]
    exact hdistinct
  · rw [hnew]
    intro x hx x' hx' heq
    obtain ⟨y, hy, -, hhandle, hkeys⟩ := hback x hx
    obtain ⟨y', hy', -, hhandle', hkeys'⟩ := hback x' hx'
    rw [publicKey, publicKey, hkeys, hkeys'] at heq
    rw [hhandle, hhandle']
    exact h.publicKeys y hy y' hy' heq

/-- Every registration is in the other profile, with its counter or a greater one. -/
def Continues (profile profile' : SoftTokenProfile) : Prop :=
  ∀ r ∈ profile.registrations, Behind profile' r

theorem Behind.continues {profile' : SoftTokenProfile} (h : Behind profile r)
    (hprofile : Continues profile profile') : Behind profile' r := by
  obtain ⟨s, hs, hhandle, hkeys, hle⟩ := h
  obtain ⟨s', hs', hhandle', hkeys', hle'⟩ := hprofile s hs
  exact ⟨s', hs', hhandle'.trans hhandle, hkeys'.trans hkeys, hle.trans hle'⟩

theorem continues_refl (profile : SoftTokenProfile) : Continues profile profile :=
  fun r hr => ⟨r, hr, rfl, rfl, le_rfl⟩

theorem continues_createRegistration (profile : SoftTokenProfile) (appIdHash : JSString)
    (keyPair : SoftTokenKeyPair) :
    Continues profile (profile.createRegistration site.token appIdHash keyPair).2 :=
  fun r hr => ⟨r, List.mem_append_left _ hr, rfl, rfl, le_rfl⟩

theorem Keeps.continues_incrementCounter (h : site.Keeps profile)
    (hr : r ∈ profile.registrations) :
    Continues profile (profile.incrementCounter (site.hash site.appId) (some r.keyHandle)) := by
  obtain ⟨before, after, hold, hnew⟩ := h.registrations_incrementCounter hr
  intro x hx
  rw [Behind, hnew]
  rw [hold] at hx
  rcases List.mem_append.1 hx with hx | hx
  · exact ⟨x, List.mem_append_left _ hx, rfl, rfl, le_rfl⟩
  · rcases List.mem_cons.1 hx with rfl | hx
    · exact ⟨_, List.mem_append_right _ List.mem_cons_self, rfl, rfl, Nat.le_succ _⟩
    · exact ⟨x, List.mem_append_right _ (List.mem_cons_of_mem _ hx), rfl, rfl, le_rfl⟩

/-! ### What the token answers -/

omit site in
/-- The profile after a registration. -/
theorem profile_of_enrolls {token : SoftTokenPrimitives} {keyPair : SoftTokenKeyPair}
    {request : HelperRequest} {challenge : EnrollHelperChallenge}
    (h : SoftTokenEnrollHandler.Enrolls profile request challenge) :
    (SoftTokenEnrollHandler.run token keyPair profile request).1 =
      (profile.createRegistration token challenge.appIdHash keyPair).2 := by
  obtain ⟨hunknown, hchallenge⟩ := h
  rw [SoftTokenEnrollHandler.run, if_neg, hchallenge]
  intro hany
  obtain ⟨sd, hsd, hknown⟩ := List.any_eq_true.1 hany
  simp only [Bool.and_eq_true, decide_eq_true_eq] at hknown
  rw [hunknown sd hsd hknown.1] at hknown
  cases hknown.2

omit site in
/-- The profile after a signature. -/
theorem profile_of_signs {token : SoftTokenPrimitives} {request : HelperRequest}
    {signData : SignHelperChallenge} (h : SoftTokenSignHandler.Signs profile request signData r) :
    (SoftTokenSignHandler.run token profile request).1 =
      profile.incrementCounter signData.appIdHash signData.keyHandle := by
  rw [SoftTokenSignHandler.run, h.1]

/-- The session that the page finds for a key handle is one of the registered keys' that have it. -/
theorem sessionIdOf_eq (site : SoftTokenSite Cert PublicKey) {registeredKeys : List RegisteredKey} {registeredKey : RegisteredKey}
    (hmem : registeredKey ∈ registeredKeys) :
    ∃ found ∈ registeredKeys, site.inBrowser found.keyHandle = site.inBrowser registeredKey.keyHandle ∧
      site.sessionIdOf registeredKeys (site.inBrowser registeredKey.keyHandle) =
        some found.sessionId := by
  have hsome : (registeredKeys.reverse.find? fun found => decide
      (site.inBrowser found.keyHandle = site.inBrowser registeredKey.keyHandle)).isSome :=
    List.find?_isSome.2 ⟨registeredKey, List.mem_reverse.2 hmem, decide_eq_true rfl⟩
  obtain ⟨found, hfound⟩ := Option.isSome_iff_exists.1 hsome
  have hhandle : site.inBrowser found.keyHandle = site.inBrowser registeredKey.keyHandle := by
    simpa using List.find?_some hfound
  refine ⟨found, List.mem_reverse.1 (List.mem_of_find?_eq_some hfound), hhandle, ?_⟩
  rw [sessionIdOf, hfound]
  rfl

section Token

include hagree

/-- The message of a registration, and its parts. -/
theorem Keeps.enrollData_eq (h : site.Keeps profile) {clientData : String}
    (hclientData : site.Hashes clientData) {keyPair : SoftTokenKeyPair}
    (hsigns : site.SignsFor keyPair) {cert : Cert} (hreads : site.server.platform.ReadsCertificate
      (site.token.UTIL_HexToBytes site.attestationCert) cert) :
    ∃ data, SoftTokenEnrollHandler.enrollData site.token profile
        ⟨js "U2F_V2", some (site.hash clientData), site.hash site.appId⟩
        (profile.createRegistration site.token (site.hash site.appId) keyPair).1 = some data ∧
      RawMessageCodec.decodeRegisterResponse site.server.platform data =
        .ok ⟨site.token.UTIL_HexToBytes keyPair.pub, site.token.digest keyPair.pub, cert,
          site.token.sign site.attestationKey (RawMessageCodec.encodeRegistrationSignedBytes
            (site.token.B64_decode (site.hash site.appId))
            (site.token.B64_decode (site.hash clientData)) (site.token.digest keyPair.pub)
            (site.token.UTIL_HexToBytes keyPair.pub))⟩ := by
  obtain ⟨_, happLength, rfl, -⟩ := hagree.appId
  obtain ⟨_, hlength, rfl, -⟩ := hclientData
  have hkeyHandle : site.token.B64_decode (site.token.B64_encode
      (site.token.digest keyPair.pub)) = site.token.digest keyPair.pub := hagree.decode _
  have hsigned := @SoftTokenEnrollHandler.signBuf_eq _ _ (site.token.digest keyPair.pub) _
    happLength hlength hsigns.length
  refine ⟨_, ?_, RawMessageCodec.decodeRegisterResponse_of_parts hsigns.length hsigns.digest hreads⟩
  simp only [SoftTokenEnrollHandler.enrollData, SoftTokenProfile.createRegistration, hkeyHandle,
    Option.bind_eq_bind, Option.bind_some, hsigned, h.attestationKey, h.attestationCert]
  exact SoftTokenEnrollHandler.regData_eq hsigns.length

/-- The token has none of the registered keys. -/
def OwnsNone (site : SoftTokenSite Cert PublicKey) (profile : SoftTokenProfile)
    (registeredKeys : List RegisteredKey) : Prop :=
  ∀ sd ∈ registeredKeys.map (site.helperChallenge (site.extension.hash [])),
    sd.version = js "U2F_V2" → profile.getRegistration sd.appIdHash sd.keyHandle = none

/-- **A registration of the token.** -/
theorem next_enroll {s : SiteState Cert} (h : site.Keeps s.profile) {request : RegistrationRequest}
    (hversion : request.version = U2F_V2) {registeredKeys : List RegisteredKey}
    (howns : site.OwnsNone s.profile registeredKeys) {clientData : String}
    (hclientData : site.Hashes clientData) {keyPair : SoftTokenKeyPair}
    (hsigns : site.SignsFor keyPair) {cert : Cert} (hreads : site.server.platform.ReadsCertificate
      (site.token.UTIL_HexToBytes site.attestationCert) cert) :
    ∃ data, site.enroll s request registeredKeys clientData keyPair =
        { s with
          profile := (s.profile.createRegistration site.token (site.hash site.appId) keyPair).2
          answers := s.answers ++ [.registration
            ⟨some (site.server.platform.encodeBase64URLSafeString data),
              some (site.encodedClientData clientData), some request.sessionId⟩] } ∧
      RawMessageCodec.decodeRegisterResponse site.server.platform data =
        .ok ⟨site.token.UTIL_HexToBytes keyPair.pub, site.token.digest keyPair.pub, cert,
          site.token.sign site.attestationKey (RawMessageCodec.encodeRegistrationSignedBytes
            (site.token.B64_decode (site.hash site.appId))
            (site.token.B64_decode (site.hash clientData)) (site.token.digest keyPair.pub)
            (site.token.UTIL_HexToBytes keyPair.pub))⟩ := by
  have henrolls : SoftTokenEnrollHandler.Enrolls s.profile ⟨js "enroll_helper_request",
      [⟨js "U2F_V2", some (site.hash clientData), site.hash site.appId⟩],
      registeredKeys.map (site.helperChallenge (site.extension.hash [])), none, none⟩
      ⟨js "U2F_V2", some (site.hash clientData), site.hash site.appId⟩ := ⟨howns, rfl⟩
  obtain ⟨data, hdata, hdecode⟩ := h.enrollData_eq hagree hclientData hsigns hreads
  refine ⟨data, ?_, hdecode⟩
  rw [enroll, enrollRequest_eq hagree hversion]
  simp only [profile_of_enrolls henrolls, SoftTokenEnrollHandler.run_of_enrolls henrolls, hdata,
    Option.map_some, Option.bind_some, hagree.atServer]

/-- With a key of the token among the registered keys, nothing happens. -/
theorem next_enroll_of_owned {s : SiteState Cert} {request : RegistrationRequest}
    (hversion : request.version = U2F_V2) {registeredKeys : List RegisteredKey}
    (howns : ¬ site.OwnsNone s.profile registeredKeys) (clientData : String)
    (keyPair : SoftTokenKeyPair) :
    site.enroll s request registeredKeys clientData keyPair = s ∧
      ∃ registeredKey ∈ registeredKeys, ∃ registration ∈ s.profile.registrations,
        site.inBrowser registeredKey.keyHandle = registration.keyHandle := by
  simp only [OwnsNone, not_forall] at howns
  obtain ⟨sd, hsd, hsdVersion, hfound⟩ := howns
  obtain ⟨registration, hregistration⟩ := Option.ne_none_iff_exists'.1 hfound
  constructor
  · have hany : (registeredKeys.map (site.helperChallenge (site.extension.hash []))).any
        (fun sd => sd.version = js "U2F_V2" &&
          (s.profile.getRegistration sd.appIdHash sd.keyHandle).isSome) = true := by
      refine List.any_eq_true.2 ⟨sd, hsd, ?_⟩
      rw [hregistration, hsdVersion]
      rfl
    rw [enroll, enrollRequest_eq hagree hversion]
    simp only [SoftTokenEnrollHandler.run, if_pos hany]
    rfl
  · obtain ⟨registeredKey, hkey, rfl⟩ := List.mem_map.1 hsd
    obtain ⟨hmem, hhandle⟩ := of_getRegistration hregistration
    exact ⟨registeredKey, hkey, registration, hmem, (Option.some.inj hhandle).symm⟩

/-- **A signature of the token**, when the first of the registered keys is one of its own. -/
theorem next_sign {s : SiteState Cert} (h : site.Keeps s.profile)
    (hr : r ∈ s.profile.registrations) {registeredKey : RegisteredKey}
    {registeredKeys : List RegisteredKey} (hversion : registeredKey.version = U2F_V2)
    (hhandle : site.inBrowser registeredKey.keyHandle = r.keyHandle) {clientData : String}
    (hclientData : site.Hashes clientData) :
    site.sign s (registeredKey :: registeredKeys) clientData =
      { s with
        profile := s.profile.incrementCounter (site.hash site.appId) (some r.keyHandle)
        answers := s.answers ++ [.authentication { r with counter := r.counter + 1 }
          ⟨some (site.atServer r.keyHandle),
            some (site.server.platform.encodeBase64URLSafeString
              (RawMessageCodec.encodeAuthenticateResponse ⟨USER_PRESENT_FLAG,
                Int32.ofNat (r.counter + 1), site.token.sign r.keys.sec
                  (RawMessageCodec.encodeAuthenticateSignedBytes
                    (site.token.B64_decode (site.hash site.appId)) USER_PRESENT_FLAG
                    (Int32.ofNat (r.counter + 1))
                    (site.token.B64_decode (site.hash clientData)))⟩)),
            some (site.encodedClientData clientData),
            site.sessionIdOf (registeredKey :: registeredKeys) r.keyHandle⟩] } := by
  obtain ⟨_, happLength, rfl, -⟩ := hagree.appId
  obtain ⟨_, hlength, rfl, -⟩ := hclientData
  have hget := h.getRegistration_eq hr
  have hfirst : site.helperChallenge (site.hash clientData) registeredKey =
      ⟨site.hash clientData, site.hash site.appId, some r.keyHandle, js "U2F_V2"⟩ := by
    rw [helperChallenge, hversion, hagree.version, hhandle]
    rfl
  have hsigns : SoftTokenSignHandler.Signs s.profile
      (makeSignHelperRequest ((registeredKey :: registeredKeys).map
        (site.helperChallenge (site.hash clientData))) 0 none)
      ⟨site.hash clientData, site.hash site.appId, some r.keyHandle, js "U2F_V2"⟩ r := by
    refine ⟨?_, hget⟩
    change (List.map _ (_ :: _)).find? _ = _
    rw [List.map_cons, hfirst, List.find?_cons_of_pos]
    simp only [hget]
    rfl
  have hafter := SoftTokenProfile.getRegistration_incrementCounter hget
  have hbytes := @SoftTokenSignHandler.signBuffer_eq _ _ (r.counter + 1) happLength hlength
  have hdata : SoftTokenSignHandler.responseData site.token (site.hash clientData)
      { r with counter := r.counter + 1 } = some (RawMessageCodec.encodeAuthenticateResponse
        ⟨USER_PRESENT_FLAG, Int32.ofNat (r.counter + 1), site.token.sign r.keys.sec
          (RawMessageCodec.encodeAuthenticateSignedBytes
            (site.token.B64_decode (site.hash site.appId)) USER_PRESENT_FLAG
            (Int32.ofNat (r.counter + 1)) (site.token.B64_decode (site.hash clientData)))⟩) := by
    rw [SoftTokenSignHandler.responseData, (h.holds r hr).appIdHash, hbytes]
    exact SoftTokenSignHandler.signatureData_eq happLength
  rw [sign, signRequest_eq]
  simp only [profile_of_signs hsigns, SoftTokenSignHandler.run_of_signs hsigns, hdata, hafter,
    Option.map_some, Option.bind_some, hagree.atServer]

end Token

/-! ### The invariant -/

section Runs

variable (site)

/-- **An answer on its way**: the server accepts it, unless its counter is too small. -/
def Good (s : SiteState Cert) : TokenAnswer → Prop
  | .registration response => ∃ session clientData message transports,
      s.store.getEnrollSessionData response.sessionId = some session ∧
      session.accountName = site.accountName ∧
      site.server.ValidRegistrationResponse session response clientData message transports ∧
      ∃ r ∈ s.profile.registrations, message.keyHandle = site.token.digest r.keys.pub ∧
        message.userPublicKey = site.publicKey r
  | .authentication registration response => Behind s.profile registration ∧
      0 < registration.counter ∧ registration.counter < 2 ^ 31 ∧
      site.server.OffersSign s.store response site.accountName (site.publicKey registration)
        (UInt32.ofNat registration.counter)

omit site in
/-- The counter is 0, or that of the last of some registrations with the key handle. -/
structure LastCounter (accepted : List SoftTokenRegistration) (keyHandle : JSString) (c : Int32) :
    Prop where
  le : ∀ earlier ∈ accepted, earlier.keyHandle = keyHandle → Int32.ofNat earlier.counter ≤ c
  mem : c = 0 ∨ ∃ earlier ∈ accepted, earlier.keyHandle = keyHandle ∧ c = Int32.ofNat earlier.counter

/-- **The invariant.**  The keys of the account are the token's, their counters are those that have
been accepted last, and all answers are good. -/
structure Sound (s : SiteState Cert) : Prop where
  tracks : ∃ issued, s.store.Tracks site.server.sessionIdGenerator issued
  profile : site.Keeps s.profile
  stored : ∀ key ∈ s.store.getSecurityKeyData site.accountName, ∃ r ∈ s.profile.registrations,
    key.keyHandle = site.token.digest r.keys.pub ∧ key.publicKey = site.publicKey r
  answers : ∀ answer ∈ s.answers, site.Good s answer
  accepted : ∀ registration ∈ s.accepted, Behind s.profile registration ∧
    registration.counter < 2 ^ 31 ∧
    s.store.HasEntry site.accountName (site.publicKey registration)
  counters : ∀ r ∈ s.profile.registrations, ∀ c,
    s.store.firstCounter site.accountName (site.publicKey r) = some c →
    LastCounter s.accepted r.keyHandle c

/-- What a step keeps: sessions, registrations and entries. -/
structure Grows (s s' : SiteState Cert) : Prop where
  sessions : s.store.Extends s'.store
  profile : Continues s.profile s'.profile
  entries : ∀ publicKey, s.store.HasEntry site.accountName publicKey →
    s'.store.HasEntry site.accountName publicKey

/-- A registration that is behind has the public key of the one it is behind. -/
theorem Behind.exists_publicKey (h : Behind profile r) :
    ∃ r' ∈ profile.registrations, r'.keyHandle = r.keyHandle ∧
      site.publicKey r' = site.publicKey r := by
  obtain ⟨r', hr', hhandle, hkeys, -⟩ := h
  exact ⟨r', hr', hhandle, by rw [publicKey, publicKey, hkeys]⟩

variable {site} {s s' : SiteState Cert}

/-- A response that is offered stays so. -/
theorem offersSign_of_grows (hgrows : site.Grows s s') {response : SignResponse} {publicKey : Bytes}
    {counter : UInt32}
    (h : site.server.OffersSign s.store response site.accountName publicKey counter) :
    site.server.OffersSign s'.store response site.accountName publicKey counter := by
  obtain ⟨session, key, browserData, message, hsession, haccount, hpublicKey, hkey, hvalid, hcounter⟩ :=
    h
  have hentry : s.store.HasEntry site.accountName publicKey :=
    ⟨key, List.mem_of_find?_eq_some hkey, U2FServerReferenceImpl.publicKey_of_find? hkey⟩
  obtain ⟨c, hc⟩ := hasEntry_iff.1 (hgrows.entries publicKey hentry)
  obtain ⟨key', hkey', -⟩ := Option.map_eq_some_iff.1 hc
  have hsame : key'.publicKey = key.publicKey :=
    (U2FServerReferenceImpl.publicKey_of_find? hkey').trans
      (U2FServerReferenceImpl.publicKey_of_find? hkey).symm
  refine ⟨session, key', browserData, message, ?_, haccount, hpublicKey, hkey', ?_, hcounter⟩
  · exact getSignSessionData_eq_ok_iff.2
      (hgrows.sessions.getSessionData (getSignSessionData_eq_ok_iff.1 hsession))
  · exact ⟨hvalid.decodes, hvalid.carries, hvalid.checks, hvalid.present,
      hsame ▸ hvalid.verifies⟩

/-- An answer that is good stays so. -/
theorem Good.grows {answer : TokenAnswer} (h : site.Good s answer) (hgrows : site.Grows s s') :
    site.Good s' answer := by
  cases answer with
  | registration response =>
      obtain ⟨session, clientData, message, transports, hsession, haccount, hvalid, r, hr, hhandle,
        hpublicKey⟩ := h
      obtain ⟨data, hdata, hsame⟩ := getEnrollSessionData_eq_some_iff.1 hsession
      obtain ⟨r', hr', -, hkeys, -⟩ := hgrows.profile r hr
      refine ⟨session, clientData, message, transports, ?_, haccount, hvalid, r', hr', ?_, ?_⟩
      · exact getEnrollSessionData_eq_some_iff.2
          ⟨data, hgrows.sessions.getSessionData hdata, hsame⟩
      · rw [hkeys, hhandle]
      · rw [publicKey, hkeys, hpublicKey, publicKey]
  | authentication registration response =>
      obtain ⟨hbehind, hpos, hlt, hoffers⟩ := h
      exact ⟨hbehind.continues hgrows.profile, hpos, hlt, offersSign_of_grows hgrows hoffers⟩

/-- A step of the token: it adds an answer, and what it does to the profile touches no key of the
account. -/
theorem Sound.answer (h : site.Sound s) {profile' : SoftTokenProfile} {answer : TokenAnswer}
    (hkeeps : site.Keeps profile') (hcontinues : Continues s.profile profile')
    (hback : ∀ r' ∈ profile'.registrations,
      (∃ r ∈ s.profile.registrations, r.keyHandle = r'.keyHandle ∧
        site.publicKey r = site.publicKey r') ∨
      ¬ s.store.HasEntry site.accountName (site.publicKey r'))
    (hgood : site.Good { s with profile := profile', answers := s.answers ++ [answer] } answer) :
    site.Sound { s with profile := profile', answers := s.answers ++ [answer] } := by
  have hgrows : site.Grows s { s with profile := profile', answers := s.answers ++ [answer] } :=
    ⟨.refl _, hcontinues, fun _ hentry => hentry⟩
  refine ⟨h.tracks, hkeeps, ?_, ?_, ?_, ?_⟩
  · intro key hkey
    obtain ⟨r, hr, hhandle, hpublicKey⟩ := h.stored key hkey
    obtain ⟨r', hr', -, hkeys, -⟩ := hcontinues r hr
    exact ⟨r', hr', by rw [hhandle, hkeys], by rw [hpublicKey, publicKey, publicKey, hkeys]⟩
  · intro a ha
    rcases List.mem_append.1 ha with ha | ha
    · exact (h.answers a ha).grows hgrows
    · exact List.mem_singleton.1 ha ▸ hgood
  · intro m hm
    obtain ⟨hbehind, hlt, hentry⟩ := h.accepted m hm
    exact ⟨hbehind.continues hcontinues, hlt, hentry⟩
  · intro r' hr' c hc
    rcases hback r' hr' with ⟨r, hr, hhandle, hpublicKey⟩ | hnone
    · rw [← hhandle]
      exact h.counters r hr c (hpublicKey.symm ▸ hc)
    · exact absurd (hasEntry_iff.2 ⟨c, hc⟩) hnone

/-- What has been accepted for a key handle was accepted for its public key. -/
theorem Sound.hasEntry_of_accepted (h : site.Sound s) (hr : r ∈ s.profile.registrations)
    (hmem : r' ∈ s.accepted) (hhandle : r'.keyHandle = r.keyHandle) :
    s.store.HasEntry site.accountName (site.publicKey r) := by
  obtain ⟨hbehind, -, hentry⟩ := h.accepted r' hmem
  obtain ⟨x, hx, hxHandle, hxKey⟩ := hbehind.exists_publicKey site
  obtain rfl := h.profile.eq_of_keyHandle hx hr (hxHandle.trans hhandle)
  exact hxKey ▸ hentry

/-- The counters of a key that the token and the server compare are in the order of the numbers. -/
theorem lt_iff_later {accepted : List SoftTokenRegistration} {c : Int32}
    (hlast : LastCounter accepted r.keyHandle c) (hpos : 0 < r.counter)
    (hlt : r.counter < 2 ^ 31) (haccepted : ∀ earlier ∈ accepted, earlier.counter < 2 ^ 31) :
    c < Int32.ofNat r.counter ↔ ∀ earlier ∈ accepted, earlier.keyHandle = r.keyHandle →
      earlier.counter < r.counter := by
  constructor
  · intro hc earlier hearlier hhandle
    have hle := hlast.le earlier hearlier hhandle
    exact (Int32.ofNat_lt_iff_lt (haccepted earlier hearlier) hlt).1 (Int32.lt_of_le_of_lt hle hc)
  · intro hlater
    rcases hlast.mem with rfl | ⟨earlier, hearlier, hhandle, rfl⟩
    · exact (Int32.ofNat_lt_iff_lt (by decide) hlt).2 hpos
    · exact (Int32.ofNat_lt_iff_lt (haccepted earlier hearlier) hlt).2
        (hlater earlier hearlier hhandle)

variable [DecidableEq Cert]

/-- A step of the server. -/
theorem Sound.call (h : site.Sound s) (operation : Operation)
    {accepted : List SoftTokenRegistration}
    (hentries : ∀ publicKey, s.store.HasEntry site.accountName publicKey →
      (site.server.machine.next s.store operation).HasEntry site.accountName publicKey)
    (hstored : ∀ key ∈ (site.server.machine.next s.store operation).getSecurityKeyData
      site.accountName, ∃ r ∈ s.profile.registrations,
        key.keyHandle = site.token.digest r.keys.pub ∧ key.publicKey = site.publicKey r)
    (haccepted : ∀ registration ∈ accepted, registration ∈ s.accepted ∨
      Behind s.profile registration ∧ registration.counter < 2 ^ 31 ∧
        s.store.HasEntry site.accountName (site.publicKey registration))
    (hcounters : ∀ r ∈ s.profile.registrations, ∀ c,
      (site.server.machine.next s.store operation).firstCounter site.accountName
        (site.publicKey r) = some c → LastCounter accepted r.keyHandle c) :
    site.Sound { s with
      store := site.server.machine.next s.store operation, accepted := accepted } := by
  obtain ⟨issued, htracks⟩ := h.tracks
  obtain ⟨hextends, htracks'⟩ := site.server.tracks_step htracks operation
  have hgrows : site.Grows s { s with
      store := site.server.machine.next s.store operation, accepted := accepted } :=
    ⟨hextends, continues_refl _, hentries⟩
  refine ⟨⟨_, htracks'⟩, h.profile, hstored, fun a ha => (h.answers a ha).grows hgrows, ?_,
    hcounters⟩
  intro m hm
  obtain ⟨hbehind, hlt, hentry⟩ := (haccepted m hm).elim (h.accepted m) id
  exact ⟨hbehind, hlt, hentries _ hentry⟩

/-- A call that changes no key of the account. -/
theorem Sound.elsewhere (h : site.Sound s) {operation : Operation}
    (hsame : (site.server.machine.next s.store operation).getSecurityKeyData site.accountName =
      s.store.getSecurityKeyData site.accountName) :
    site.Sound { s with store := site.server.machine.next s.store operation } := by
  refine h.call operation (fun publicKey hentry => ?_) ?_ (fun _ hm => .inl hm) ?_
  · rw [HasEntry, hsame]
    exact hentry
  · rw [hsame]
    exact h.stored
  · intro r hr c hc
    rw [firstCounter, hsame] at hc
    exact h.counters r hr c hc

theorem keys_of_elsewhere {store : MemoryDataStore Cert} {operation : Operation}
    (h : site.Elsewhere store operation) :
    (site.server.machine.next store operation).getSecurityKeyData site.accountName =
      store.getSecurityKeyData site.accountName := by
  have hstep := site.server.keysStep store operation
  generalize (site.server.machine.next store operation).getSecurityKeyData = keys at hstep
  cases hstep with
  | same => rfl
  | register hsession hvalid => exact Function.update_of_ne (h _ hsession).symm _ _
  | sign hsession hkey hvalid => exact Function.update_of_ne (h _ hsession).symm _ _
  | remove accountName publicKey => exact Function.update_of_ne (Ne.symm h) _ _

/-! ### Answers that are given to the server -/

theorem give_registration (s : SiteState Cert) (response : RegistrationResponse) (time : Int64) :
    site.give s (.registration response) time = { s with
      store := site.server.machine.next s.store (.processRegistrationResponse response time) } := by
  unfold give
  dsimp only
  split
  · next heq => cases heq
  · rfl

/-- **A registration is accepted whenever it is given to the server.** -/
theorem Sound.give_registration (h : site.Sound s) {response : RegistrationResponse}
    (hmem : .registration response ∈ s.answers) (time : Int64) :
    site.server.Accepts s.store (.processRegistrationResponse response time) ∧
      site.Sound (site.give s (.registration response) time) ∧
      ∃ key, (site.give s (.registration response) time).store.getSecurityKeyData
        site.accountName = s.store.getSecurityKeyData site.accountName ++ [key] := by
  obtain ⟨session, clientData, message, transports, hsession, haccount, hvalid, x, hx, hhandle,
    hpublicKey⟩ := h.answers _ hmem
  obtain ⟨hreply, hnext⟩ := site.server.step_of_validRegistrationResponse hsession hvalid time
  have hkeys : (site.server.machine.next s.store
      (.processRegistrationResponse response time)).getSecurityKeyData site.accountName =
      s.store.getSecurityKeyData site.accountName ++
        [U2FServerReferenceImpl.newSecurityKey message transports time] := by
    rw [hnext, getSecurityKeyData_addSecurityKeyData, haccount, Function.update_self]
  rw [SoftTokenSite.give_registration]
  refine ⟨⟨_, hreply⟩, ?_, _, hkeys⟩
  refine h.call _ ?_ ?_ (fun _ hm => .inl hm) ?_
  · rintro publicKey ⟨key, hkey, hpk⟩
    exact ⟨key, hkeys ▸ List.mem_append_left _ hkey, hpk⟩
  · intro key hkey
    rw [hkeys] at hkey
    rcases List.mem_append.1 hkey with hkey | hkey
    · exact h.stored key hkey
    · obtain rfl := List.mem_singleton.1 hkey
      exact ⟨x, hx, hhandle, hpublicKey⟩
  · intro r hr c hc
    rw [firstCounter, hkeys, List.find?_append] at hc
    cases hold : s.store.firstCounter site.accountName (site.publicKey r) with
    | some c' =>
        obtain ⟨key, hkey, rfl⟩ := Option.map_eq_some_iff.1 hold
        rw [hkey] at hc
        obtain rfl := Option.some.inj hc
        exact h.counters r hr _ hold
    | none =>
        -- the first entry of the key is the new one, and nothing has been accepted for it
        have hnone := Option.map_eq_none_iff.1 hold
        rw [hnone, Option.none_or] at hc
        obtain ⟨key, hkey, rfl⟩ := Option.map_eq_some_iff.1 hc
        obtain rfl := List.mem_singleton.1 (List.mem_of_find?_eq_some hkey)
        refine ⟨fun earlier hearlier hsame => ?_, .inl rfl⟩
        obtain ⟨c, hc⟩ := hasEntry_iff.1 (h.hasEntry_of_accepted hr hearlier hsame)
        cases hold.symm.trans hc

/-- **An authentication is accepted exactly if it is later** than what has been accepted. -/
theorem Sound.accepts_iff_later (h : site.Sound s) {response : SignResponse}
    (hmem : .authentication r response ∈ s.answers) :
    site.server.Accepts s.store (.processSignResponse response) ↔
      TokenAnswer.Later s.accepted (.authentication r response) := by
  obtain ⟨hbehind, hpos, hlt, hoffers⟩ := h.answers _ hmem
  obtain ⟨x, hx, hhandle, hpublicKey⟩ := hbehind.exists_publicKey site
  obtain ⟨c, hc, haccepts⟩ := hoffers.accepts_iff
  have hlast : LastCounter s.accepted r.keyHandle c :=
    hhandle ▸ h.counters x hx c (hpublicKey ▸ hc)
  rw [haccepts, U2FServerReferenceImpl.counterTest_eq_ok_iff]
  exact lt_iff_later hlast hpos hlt fun m hm => (h.accepted m hm).2.1

/-- A key that is not removed keeps an entry. -/
theorem hasEntry_next {store : MemoryDataStore Cert} {operation : Operation} {publicKey : Bytes}
    (hremove : operation ≠ .removeSecurityKey site.accountName publicKey)
    (h : store.HasEntry site.accountName publicKey) :
    (site.server.machine.next store operation).HasEntry site.accountName publicKey := by
  obtain ⟨c, hc⟩ := hasEntry_iff.1 h
  obtain ⟨c', hc', -⟩ := (site.server.firstCounter_step hc operation).resolve_left hremove
  exact hasEntry_iff.2 ⟨c', hc'⟩

/-- The registration whose counter has been accepted comes last. -/
theorem LastCounter.concat {accepted : List SoftTokenRegistration} {c : Int32}
    (h : LastCounter accepted r.keyHandle c) (hc : c < Int32.ofNat r.counter) :
    LastCounter (accepted ++ [r]) r.keyHandle (Int32.ofNat r.counter) := by
  refine ⟨fun earlier hearlier hhandle => ?_, .inr ⟨r, ?_, rfl, rfl⟩⟩
  · rcases List.mem_append.1 hearlier with hearlier | hearlier
    · exact Int32.le_of_lt (Int32.lt_of_le_of_lt (h.le earlier hearlier hhandle) hc)
    · rw [List.mem_singleton.1 hearlier]
      exact Int32.le_refl _
  · exact List.mem_append_right _ (List.mem_singleton_self r)

/-- One of another key handle makes no difference. -/
theorem LastCounter.concat_of_ne {accepted : List SoftTokenRegistration} {keyHandle : JSString}
    {c : Int32} (h : LastCounter accepted keyHandle c) (hne : r.keyHandle ≠ keyHandle) :
    LastCounter (accepted ++ [r]) keyHandle c := by
  refine ⟨fun earlier hearlier hhandle => ?_, ?_⟩
  · rcases List.mem_append.1 hearlier with hearlier | hearlier
    · exact h.le earlier hearlier hhandle
    · exact absurd (List.mem_singleton.1 hearlier ▸ hhandle) hne
  · exact h.mem.imp_right fun ⟨earlier, hearlier, hhandle, hc⟩ =>
      ⟨earlier, List.mem_append_left _ hearlier, hhandle, hc⟩

/-- **An authentication that is given to the server**, accepted or not. -/
theorem Sound.give_authentication (h : site.Sound s) {response : SignResponse}
    (hmem : .authentication r response ∈ s.answers) (time : Int64) :
    site.Sound (site.give s (.authentication r response) time) := by
  obtain ⟨hbehind, hpos, hlt, session, key, browserData, message, hsession, haccount, hpublicKey,
    hkey, hvalid, hcounter⟩ := h.answers _ hmem
  obtain ⟨x, hx, hhandle, hxKey⟩ := hbehind.exists_publicKey site
  rcases site.server.step_processSignResponse s.store response with
    ⟨session', key', browserData', message', hsession', hkey', hvalid', hreply, hnext⟩ |
      ⟨⟨e, hreply⟩, hnext⟩
  · have hgive : site.give s (.authentication r response) time = { s with
        store := site.server.machine.next s.store (.processSignResponse response)
        accepted := s.accepted ++ [r] } := by
      simp only [give, TokenAnswer.operation, hreply]
    have hmessage : message'.counter = Int32.ofNat r.counter := by
      rw [site.server.signMessage_unique hvalid'.carries hvalid.carries,
        ← Int32.toInt32_toUInt32 message.counter, hcounter]
      rfl
    have hsign : site.server.AcceptsSign s.store response site.accountName (site.publicKey r)
        (Int32.ofNat r.counter) :=
      ⟨⟨_, hreply⟩, ⟨session, hsession, haccount, hpublicKey⟩, message', hvalid'.carries, hmessage⟩
    obtain ⟨⟨c₀, hc₀, hless⟩, hafter⟩ := hsign.firstCounter
    rw [hgive]
    refine h.call _ (fun publicKey => hasEntry_next nofun) ?_ ?_ ?_
    · intro k hk
      rcases U2FServerReferenceImpl.KeysStep.mem site.server
          (site.server.keysStep s.store (.processSignResponse response)) hk with
        ⟨k', hk', c, rfl | rfl⟩ | ⟨_, _, _, _, _, _, hop, -⟩
      · exact h.stored k hk'
      · exact h.stored k' hk'
      · cases hop
    · intro m hm
      refine (List.mem_append.1 hm).imp_right fun hm => ?_
      rw [List.mem_singleton.1 hm]
      exact ⟨hbehind, hlt, hasEntry_iff.2 ⟨c₀, hc₀⟩⟩
    · intro y hy c hc
      by_cases hsame : site.publicKey y = site.publicKey r
      · have hyHandle : y.keyHandle = r.keyHandle :=
          (h.profile.publicKeys y hy x hx (hsame.trans hxKey.symm)).trans hhandle
        rw [hsame, hafter] at hc
        obtain rfl := Option.some.inj hc
        have hlast := h.counters y hy c₀ (hsame ▸ hc₀)
        rw [hyHandle] at hlast ⊢
        exact hlast.concat hless
      · -- the counter of another key is not touched
        have hother : (site.server.machine.next s.store
            (.processSignResponse response)).firstCounter site.accountName (site.publicKey y) =
            s.store.firstCounter site.accountName (site.publicKey y) := by
          obtain rfl : session = session' :=
            Option.some.inj (Except.ok.inj (hsession.symm.trans hsession'))
          rw [firstCounter, firstCounter, hnext, getSecurityKeyData_updateSecurityKeyCounter,
            haccount, Function.update_self, U2FServerReferenceImpl.publicKey_of_find? hkey',
            hpublicKey, U2FServerReferenceImpl.find?_setCounter_of_ne hsame]
        rw [hother] at hc
        refine (h.counters y hy c hc).concat_of_ne fun heq => hsame ?_
        rw [← h.profile.eq_of_keyHandle hx hy (hhandle.trans heq), hxKey]
  · have hgive : site.give s (.authentication r response) time = s := by
      simp only [give, TokenAnswer.operation, hreply, hnext]
    rw [hgive]
    exact h

/-! ### Answers of the token -/

section Steps

include hagree

/-- A proper request for a registration is answered, unless the token owns one of the keys. -/
theorem Sound.enroll (h : site.Sound s) {request : RegistrationRequest}
    {registeredKeys : List RegisteredKey} {clientData : String} {keyPair : SoftTokenKeyPair}
    (hproper : site.Proper s (.enroll request registeredKeys clientData keyPair)) :
    site.Served s (.enroll request registeredKeys clientData keyPair) ∧
      site.Sound (site.enroll s request registeredKeys clientData keyPair) := by
  obtain ⟨⟨challenge, hversion, hsession, hbrowserData⟩, hclientData, hsigns, hnew⟩ := hproper
  by_cases howns : site.OwnsNone s.profile registeredKeys
  · obtain ⟨cert, transports, bytes, hreads, htransports, hencoded, hverifies⟩ := hagree.certificate
    obtain ⟨data, hstep, hdecode⟩ :=
      next_enroll hagree h.profile hversion howns hclientData hsigns hreads
    refine ⟨.inl ⟨_, congrArg SiteState.answers hstep⟩, ?_⟩
    rw [hstep]
    obtain ⟨appDigest, -, happ, happ'⟩ := hagree.appId
    obtain ⟨digest, -, hdigest, hdigest'⟩ := hclientData
    refine h.answer (h.profile.createRegistration hsigns hnew)
      (continues_createRegistration _ _ _) ?_ ?_
    · intro r' hr'
      rcases List.mem_append.1 hr' with hr' | hr'
      · exact .inl ⟨r', hr', rfl, rfl⟩
      · -- no key of the account has the new public key
        obtain rfl := List.mem_singleton.1 hr'
        refine .inr fun ⟨key, hkey, hpk⟩ => ?_
        obtain ⟨r, hr, -, hpublicKey⟩ := h.stored key hkey
        exact (hnew r hr).2 (hpublicKey.symm.trans hpk)
    · have hvalid : site.server.ValidRegistrationResponse
          ⟨site.accountName, site.appId, challenge⟩
          ⟨some (site.server.platform.encodeBase64URLSafeString data),
            some (site.encodedClientData clientData), some request.sessionId⟩
          clientData _ transports :=
        ⟨hagree.roundTrips.stringOfBase64_encode clientData,
          ⟨data, hagree.roundTrips.bytesOfBase64_encode data, hdecode⟩, htransports,
          ⟨bytes, hencoded⟩, hbrowserData, appDigest, digest, happ', hdigest',
          happ ▸ hdigest ▸ hverifies _⟩
      exact ⟨_, clientData, _, transports, hsession, rfl, hvalid, _,
        List.mem_append_right _ (List.mem_singleton_self _), rfl, rfl⟩
  · obtain ⟨hstep, howned⟩ := next_enroll_of_owned hagree hversion howns clientData keyPair
    refine ⟨.inr ⟨hstep, howned⟩, ?_⟩
    rw [hstep]
    exact h

/-- A proper request for a signature is answered, with a counter that has not been used. -/
theorem Sound.sign (h : site.Sound s) {registeredKeys : List RegisteredKey} {clientData : String}
    (hproper : site.Proper s (.sign registeredKeys clientData)) :
    site.Served s (.sign registeredKeys clientData) ∧
      site.Sound (site.sign s registeredKeys clientData) := by
  obtain ⟨⟨challenge, hne, hoffers, hbrowserData⟩, hclientData, hcounters⟩ := hproper
  -- every registered key is one of the token's
  have howned : ∀ registeredKey ∈ registeredKeys, ∃ r ∈ s.profile.registrations,
      site.inBrowser registeredKey.keyHandle = r.keyHandle ∧ registeredKey.version = U2F_V2 ∧
      s.store.sessionDataBase registeredKey.sessionId =
        some (.sign ⟨⟨site.accountName, site.appId, challenge⟩, site.publicKey r⟩) ∧
      s.store.HasEntry site.accountName (site.publicKey r) := by
    intro registeredKey hmem
    obtain ⟨key, hkey, hoffer⟩ := hoffers registeredKey hmem
    obtain ⟨r, hr, hhandle, hpublicKey⟩ := h.stored key hkey
    refine ⟨r, hr, ?_, hoffer.version, hpublicKey ▸ hoffer.session, key, hkey, hpublicKey⟩
    rw [hoffer.keyHandle, hagree.inBrowser, hhandle, (h.profile.holds r hr).keyHandle]
  obtain ⟨registeredKey, rest, rfl⟩ := List.exists_cons_of_ne_nil hne
  obtain ⟨r, hr, hhandle, hversion, -, hentry⟩ := howned registeredKey List.mem_cons_self
  have hstep : site.sign s (registeredKey :: rest) clientData = _ :=
    next_sign hagree h.profile hr hversion hhandle hclientData
  have hcontinues := h.profile.continues_incrementCounter hr
  refine ⟨⟨_, _, congrArg SiteState.answers hstep, fun earlier response hmem hsame => ?_⟩, ?_⟩
  · obtain ⟨⟨x, hx, hxHandle, -, hle⟩, -⟩ := h.answers _ hmem
    obtain rfl := h.profile.eq_of_keyHandle hx hr (hxHandle.trans hsame)
    exact Nat.lt_succ_of_le hle
  rw [hstep]
  refine h.answer (h.profile.incrementCounter hr) hcontinues ?_ ?_
  · intro r' hr'
    obtain ⟨before, after, hold, hnew⟩ := h.profile.registrations_incrementCounter hr
    rw [hnew] at hr'
    rw [hold]
    rcases List.mem_append.1 hr' with hr' | hr'
    · exact .inl ⟨r', List.mem_append_left _ hr', rfl, rfl⟩
    · rcases List.mem_cons.1 hr' with rfl | hr'
      · exact .inl ⟨r, List.mem_append_right _ List.mem_cons_self, rfl, rfl⟩
      · exact .inl ⟨r', List.mem_append_right _ (List.mem_cons_of_mem r hr'), rfl, rfl⟩
  · have hbehind : Behind
        (s.profile.incrementCounter (site.hash site.appId) (some r.keyHandle))
        { r with counter := r.counter + 1 } := by
      obtain ⟨before, after, -, hnew⟩ := h.profile.registrations_incrementCounter hr
      rw [Behind, hnew]
      exact ⟨_, List.mem_append_right _ List.mem_cons_self, rfl, rfl, le_rfl⟩
    -- the session that the page has kept for the key handle is one for the same key
    obtain ⟨found, hfound, hfoundHandle, hsessionId⟩ := sessionIdOf_eq site
      (@List.mem_cons_self _ registeredKey rest)
    obtain ⟨r', hr', hhandle', -, hsession, -⟩ := howned found hfound
    obtain rfl : r' = r :=
      h.profile.eq_of_keyHandle hr' hr (hhandle'.symm.trans (hfoundHandle.trans hhandle))
    obtain ⟨c, hc⟩ := hasEntry_iff.1 hentry
    obtain ⟨key, hkey, -⟩ := Option.map_eq_some_iff.1 hc
    obtain ⟨appDigest, -, happ, happ'⟩ := hagree.appId
    obtain ⟨digest, -, hdigest, hdigest'⟩ := hclientData
    obtain ⟨publicKey, hdecode, hverify⟩ := (h.profile.holds r' hr).signs.verifies
    have hpresent : USER_PRESENT_FLAG &&& USER_PRESENT_FLAG ≠ 0 := by decide
    have hverifies : site.server.VerifiesSign site.appId key.publicKey clientData
        ⟨USER_PRESENT_FLAG, Int32.ofNat (r'.counter + 1), site.token.sign r'.keys.sec
          (RawMessageCodec.encodeAuthenticateSignedBytes
            (site.token.B64_decode (site.hash site.appId)) USER_PRESENT_FLAG
            (Int32.ofNat (r'.counter + 1)) (site.token.B64_decode (site.hash clientData)))⟩ := by
      refine ⟨appDigest, digest, publicKey, happ', hdigest', ?_, ?_⟩
      · rw [U2FServerReferenceImpl.publicKey_of_find? hkey]
        exact hdecode
      · rw [happ, hdigest]
        exact hverify _
    refine ⟨hbehind, Nat.succ_pos _, hcounters r' hr,
      ⟨⟨site.accountName, site.appId, challenge⟩, site.publicKey r'⟩, key, clientData, _, ?_, rfl, rfl,
      hkey, ⟨hagree.roundTrips.stringOfBase64_encode clientData,
        ⟨_, hagree.roundTrips.bytesOfBase64_encode _,
          RawMessageCodec.decodeAuthenticateResponse_encode _⟩, hbrowserData, hpresent, hverifies⟩,
      rfl⟩
    rw [getSignSessionData_eq_ok_iff, ← hhandle, hsessionId]
    exact hsession

end Steps

/-! ### Runs -/

/-- **The step lemma.** -/
theorem Sound.step (hagree : site.Agree) (h : site.Sound s) {e : SiteEvent}
    (hproper : site.Proper s e) : site.Served s e ∧ site.Sound (site.machine.next s e) := by
  cases e with
  | server operation => exact ⟨trivial, h.elsewhere (keys_of_elsewhere hproper)⟩
  | enroll request registeredKeys clientData keyPair => exact h.enroll hagree hproper
  | sign registeredKeys clientData => exact h.sign hagree hproper
  | give i time =>
      constructor
      · intro answer hanswer
        have hmem := List.mem_of_getElem? hanswer
        cases answer with
        | registration response =>
            exact iff_of_true (h.give_registration hmem time).1 trivial
        | authentication registration response => exact h.accepts_iff_later hmem
      · change site.Sound (match s.answers[i]? with
          | none => s
          | some answer => site.give s answer time)
        cases hanswer : s.answers[i]? with
        | none => exact h
        | some answer =>
            have hmem := List.mem_of_getElem? hanswer
            cases answer with
            | registration response => exact (h.give_registration hmem time).2.1
            | authentication registration response => exact h.give_authentication hmem time

end Runs

/-! ### A site whose bytes can be followed -/

section Witness

open TestVectors

/-- A text of the tests in the browser: a code unit for each byte. -/
def units (s : String) : JSString := (TestVectors.getBytes s).map UInt8.toUInt16

end Witness

end SoftTokenSite

end U2F
