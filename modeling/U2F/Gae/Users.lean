/-
**The demo on App Engine, for many users.**

Run by itself, each request that changes the keys of an account does to the store of the demo what
it does to the store of the tests: the two stores are two representations of the same keys.  The
requests of one user come one after another, and those of different users are for different
accounts.  Then it does not matter how the loads and saves of the users are interleaved: every user
gets the replies that the reference server gives him when he is its only user.

Main definitions:

* `TokenStorageData.Represents` — the tokens of an entity are the keys of an account;
* `DataStoreImpl.Operation.reference` — the operation as one of the reference server;
* `DataStoreImpl.SameReply` — both return or both throw;
* `DataStoreImpl.requests` — the requests of a user, one after another.

Main results:

* `DataStoreImpl.simulates` — **one request does the same to both stores**;
* `DataStoreImpl.users_independent` — **every user sees the reference server**, in every
  interleaving with the others.
-/

import U2F.Gae.Concurrency
import U2F.Lib.Footprint
import U2F.Lib.Traverse
import U2F.Server.Keys

set_option relaxedAutoImplicit false
set_option autoImplicit false

namespace U2F

/-! ### The checks of the methods -/

namespace U2FServerReferenceImpl

variable {Cert PublicKey : Type} (server : U2FServerReferenceImpl Cert PublicKey)

/-- The checks of a registration pass exactly when it is valid. -/
theorem checkRegistrationResponse_eq_ok_iff {response : RegistrationResponse} {time : Int64}
    {session : EnrollSessionData} {k : SecurityKeyData Cert} :
    server.checkRegistrationResponse response time session = .ok k ↔
      ∃ clientData message transports,
        server.ValidRegistrationResponse session response clientData message transports ∧
        k = newSecurityKey message transports time := by
  simp only [checkRegistrationResponse, Except.bind_eq_ok_iff, throwIf_eq_ok_iff,
    Except.mapError_eq_ok_iff, Bool.not_eq_true', Bool.not_eq_false]
  constructor
  · rintro ⟨clientData, hclient, raw, hraw, message, hmessage, transports, htransports, bytes, hbytes,
      h₁, hh₁, h₂, hh₂, element, hparse, _, hverify, verified, hverified, _, rfl, hk⟩
    exact ⟨clientData, message, transports, ⟨hclient, ⟨raw, hraw, hmessage⟩, htransports,
      ⟨bytes, hbytes⟩, (server.parse_and_verify_iff).1 ⟨element, hparse, _, hverify⟩, h₁, h₂, hh₁, hh₂,
      hverified⟩, (Except.ok.inj hk).symm⟩
  · rintro ⟨clientData, message, transports, ⟨hclient, ⟨raw, hraw, hmessage⟩, htransports,
      ⟨bytes, hbytes⟩, hdata, h₁, h₂, hh₁, hh₂, hverified⟩, rfl⟩
    obtain ⟨element, hparse, _, hverify⟩ := (server.parse_and_verify_iff).2 hdata
    exact ⟨clientData, hclient, raw, hraw, message, hmessage, transports, htransports, bytes, hbytes,
      h₁, hh₁, h₂, hh₂, element, hparse, _, hverify, true, hverified, (), rfl, rfl⟩

/-- The checks of a sign response pass exactly when it is valid. -/
theorem checkSignResponse_eq_ok_iff {response : SignResponse} {session : SignSessionData}
    {key : SecurityKeyData Cert} {counter : Int32} :
    server.checkSignResponse response session key = .ok counter ↔
      ∃ browserData message, server.ValidSignResponse session key response browserData message ∧
        counter = message.counter := by
  simp only [checkSignResponse, Except.bind_eq_ok_iff, throwIf_eq_ok_iff, Int32.not_le,
    Bool.not_eq_true', Bool.not_eq_false]
  constructor
  · rintro ⟨browserData, hclient, raw, hraw, element, hparse, _, hverify, message, hmessage, _,
      hpresence, _, hcounter, h₁, hh₁, h₂, hh₂, pk, hpk, verified, hverified, _, rfl, hc⟩
    exact ⟨browserData, message, ⟨hclient, ⟨raw, hraw, hmessage⟩,
      (server.parse_and_verify_iff).1 ⟨element, hparse, _, hverify⟩, hpresence, hcounter, h₁, h₂, pk,
      hh₁, hh₂, hpk, hverified⟩, (Except.ok.inj hc).symm⟩
  · rintro ⟨browserData, message, ⟨hclient, ⟨raw, hraw, hmessage⟩, hdata, hpresence, hcounter, h₁, h₂,
      pk, hh₁, hh₂, hpk, hverified⟩, rfl⟩
    obtain ⟨element, hparse, _, hverify⟩ := (server.parse_and_verify_iff).2 hdata
    exact ⟨browserData, hclient, raw, hraw, element, hparse, _, hverify, message, hmessage, (),
      hpresence, (), hcounter, h₁, hh₁, h₂, hh₂, pk, hpk, true, hverified, (), rfl, rfl⟩

end U2FServerReferenceImpl

/-! ### Tokens and keys -/

namespace TokenStorageData

variable {Cert : Type} (P : Platform Cert)

/-- The tokens are the keys, one by one. -/
def Represents (tokens : List TokenStorageData) (keys : List (SecurityKeyData Cert)) : Prop :=
  List.Forall₂ (fun token key => token.getSecurityKeyData P = .ok key) tokens keys

variable {P} {tokens : List TokenStorageData} {keys : List (SecurityKeyData Cert)}

/-- What a token is the key of. -/
theorem getSecurityKeyData_eq_ok_iff {token : TokenStorageData} {key : SecurityKeyData Cert} :
    token.getSecurityKeyData P = .ok key ↔
      parseCertificate P token.attestationCert = .ok key.attestationCert ∧
        key.enrollmentTime = token.enrollmentTime ∧ key.transports = token.transports ∧
        key.keyHandle = token.keyHandle ∧ key.publicKey = token.publicKey ∧
        key.counter = token.counter := by
  rw [getSecurityKeyData, Except.bind_eq_ok_iff]
  constructor
  · rintro ⟨cert, hcert, hkey⟩
    obtain rfl := Except.ok.inj hkey
    exact ⟨hcert, rfl, rfl, rfl, rfl, rfl⟩
  · obtain ⟨time, transports, keyHandle, publicKey, cert, counter⟩ := key
    rintro ⟨hcert, rfl, rfl, rfl, rfl, rfl⟩
    exact ⟨cert, hcert, rfl⟩

/-- The test of the loops, on a token and on its key. -/
theorem hasPublicKey_eq {token : TokenStorageData} {key : SecurityKeyData Cert}
    (h : token.getSecurityKeyData P = .ok key) (publicKey : Bytes) :
    decide (token.publicKey = publicKey) = MemoryDataStore.hasPublicKey publicKey key := by
  rw [MemoryDataStore.hasPublicKey, (getSecurityKeyData_eq_ok_iff.1 h).2.2.2.2.1]

/-- The loop of `getSecurityKeyData`. -/
theorem Represents.securityKeyData (h : Represents P tokens keys) (userId : String) :
    (UserTokens.mk userId tokens).securityKeyData P = .ok keys :=
  Traverse.mapM_eq_ok_iff.2 h

/-- The loop of `removeToken`. -/
theorem Represents.findToken (h : Represents P tokens keys) (publicKey : Bytes) :
    UserTokens.findToken P publicKey tokens =
      .ok (tokens.find? fun token => token.publicKey = publicKey) := by
  induction h with
  | nil => rfl
  | @cons token key tokens keys hkey _ ih =>
      have hsame := (getSecurityKeyData_eq_ok_iff.1 hkey).2.2.2.2.1
      rw [UserTokens.findToken, hkey, Except.ok_bind, hsame]
      by_cases hpk : token.publicKey = publicKey
      · rw [if_pos hpk, List.find?_cons_of_pos (by simpa using hpk)]
        rfl
      · rw [if_neg hpk, List.find?_cons_of_neg (by simpa using hpk)]
        exact ih

/-- The loop of `updateCounter`. -/
theorem Represents.updateFirst (h : Represents P tokens keys) (publicKey : Bytes) (counter : Int32) :
    UserTokens.updateFirst P publicKey counter tokens =
      .ok (FirstMatch.update (fun token => token.publicKey = publicKey) (·.updateCounter counter)
        tokens) := by
  induction h with
  | nil => rfl
  | @cons token key tokens keys hkey _ ih =>
      have hsame := (getSecurityKeyData_eq_ok_iff.1 hkey).2.2.2.2.1
      rw [UserTokens.updateFirst, hkey, Except.ok_bind, hsame, FirstMatch.update]
      by_cases hpk : token.publicKey = publicKey
      · rw [if_pos hpk, if_pos (by simpa using hpk)]
        rfl
      · rw [if_neg hpk, if_neg (by simpa using hpk), ih]
        rfl

theorem Represents.setCounter (h : Represents P tokens keys) (publicKey : Bytes) (counter : Int32) :
    Represents P
      (FirstMatch.update (fun token => token.publicKey = publicKey) (·.updateCounter counter) tokens)
      (FirstMatch.update (MemoryDataStore.hasPublicKey publicKey) (·.setCounter counter) keys) := by
  refine FirstMatch.forall₂_update (fun token key hkey => hasPublicKey_eq hkey publicKey) ?_ h
  intro token key hkey
  obtain ⟨hcert, htime, htransports, hhandle, hpublicKey, -⟩ := getSecurityKeyData_eq_ok_iff.1 hkey
  exact getSecurityKeyData_eq_ok_iff.2 ⟨hcert, htime, htransports, hhandle, hpublicKey, rfl⟩

theorem Represents.remove (h : Represents P tokens keys) (publicKey : Bytes) :
    Represents P (tokens.eraseP fun token => token.publicKey = publicKey)
      (keys.eraseP (MemoryDataStore.hasPublicKey publicKey)) :=
  FirstMatch.forall₂_eraseP (fun _ _ hkey => hasPublicKey_eq hkey publicKey) h

/-- `removeToken` takes out the first token with the public key, though it looks for it by
`equals`. -/
theorem eraseP_equals {publicKey : Bytes} {token : TokenStorageData}
    (h : tokens.find? (fun token => token.publicKey = publicKey) = some token) :
    tokens.eraseP token.equals = tokens.eraseP fun token => token.publicKey = publicKey := by
  have hpublicKey : token.publicKey = publicKey := by simpa using List.find?_some h
  refine FirstMatch.eraseP_congr h ?_ fun that hthat => ?_
  · simp [equals, SecurityKeyData.containSameTransports_self]
  · simp only [equals, Bool.and_eq_true, decide_eq_true_eq] at hthat
    exact decide_eq_true (hthat.1.2.symm.trans hpublicKey)

/-- A new key and its token. -/
theorem exists_ofSecurityKeyData (hP : P.RoundTrips) (key : SecurityKeyData Cert)
    (h : ∃ bytes, P.getEncoded key.attestationCert = .ok bytes) :
    ∃ token, ofSecurityKeyData P key = .ok token ∧ token.getSecurityKeyData P = .ok key := by
  obtain ⟨bytes, hbytes⟩ := h
  refine ⟨⟨key.enrollmentTime, key.transports, key.keyHandle, key.publicKey, bytes, key.counter⟩,
    ?_, getSecurityKeyData_eq_ok_iff.2 ⟨?_, rfl, rfl, rfl, rfl, rfl⟩⟩
  · rw [ofSecurityKeyData, hbytes]
    rfl
  · have hparse := hP.generateCertificate_getEncoded _ bytes [] hbytes
    rw [List.append_nil] at hparse
    rw [parseCertificate, hparse]
    rfl

end TokenStorageData

namespace DataStoreImpl

open LoadSave

variable {Cert PublicKey : Type} [DecidableEq Cert] (server : U2FServerReferenceImpl Cert PublicKey)
  (unsealed : Option String → Except Throwable SessionData)

/-! ### One request -/

/-- The tokens of an account. -/
def tokensOf (store : Entities String (List TokenStorageData)) (accountName : String) :
    List TokenStorageData :=
  (store accountName).getD []

/-- The operation of the reference server. -/
def Operation.reference : Operation → U2F.Operation
  | processRegistrationResponse registrationResponse currentTimeInMillis =>
      .processRegistrationResponse registrationResponse currentTimeInMillis
  | processSignResponse signResponse => .processSignResponse signResponse
  | removeSecurityKey accountName publicKey => .removeSecurityKey accountName publicKey

/-- The operation is a request for the keys of this account. -/
def Operation.IsFor (accountName : String) : Operation → Prop
  | processRegistrationResponse registrationResponse _ => ∀ session,
      unsealed registrationResponse.sessionId = .ok session →
      session.toEnrollSessionData.accountName = accountName
  | processSignResponse signResponse => ∀ session, unsealed signResponse.sessionId = .ok session →
      session.toEnrollSessionData.accountName = accountName
  | removeSecurityKey a _ => a = accountName

/-- The sessions of the store of the tests are those that can be unsealed. -/
def SameSessions (store : MemoryDataStore Cert) : Prop :=
  ∀ id session, unsealed id = .ok session ↔ store.getSessionData id = some session

/-- Both return, or both throw. -/
def SameReply {α β : Type} (r : Except Throwable α) (r' : Except Throwable β) : Prop :=
  (∃ a, r = .ok a) ↔ ∃ b, r' = .ok b

/-- **The entity of an account represents its keys in the store of the tests.** -/
def RepresentsAccount (accountName : String) (store : Entities String (List TokenStorageData))
    (store' : MemoryDataStore Cert) : Prop :=
  TokenStorageData.Represents server.platform (tokensOf store accountName)
    (store'.getSecurityKeyData accountName)

variable {server unsealed}

omit [DecidableEq Cert] in
theorem userTokens_eq (accountName : String) (tokens : Option (List TokenStorageData)) :
    userTokens accountName tokens = ⟨accountName, tokens.getD []⟩ := by
  cases tokens <;> rfl

theorem signSession_eq_ok {sessionId : Option String} {data : SignSessionData} :
    signSession unsealed sessionId = .ok data ↔ unsealed sessionId = .ok (.sign data) := by
  rw [signSession]
  rcases unsealed sessionId with e | ⟨session | session⟩
  · constructor <;> intro h <;> cases h
  · constructor <;> intro h <;> cases h
  · refine ⟨fun h => by rw [← Except.ok.inj h], fun h => ?_⟩
    rw [SessionData.sign.inj (Except.ok.inj h)]
    rfl

/-- The session of a sign response is one of its account. -/
theorem Operation.IsFor.account_eq {signResponse : SignResponse} {accountName : String}
    (h : (processSignResponse signResponse).IsFor unsealed accountName) {data : SignSessionData}
    (hdata : signSession unsealed signResponse.sessionId = .ok data) :
    data.accountName = accountName :=
  h (.sign data) (signSession_eq_ok.1 hdata)

omit [DecidableEq Cert] in
/-- A request reads and writes the entity of its account. -/
theorem Operation.IsFor.on {op : Operation} {accountName : String}
    (h : op.IsFor unsealed accountName) : (op.readModifyWrite server unsealed).On accountName := by
  cases op with
  | processRegistrationResponse registrationResponse currentTimeInMillis =>
      rw [readModifyWrite]
      cases hnew : newKey server unsealed registrationResponse currentTimeInMillis with
      | error e => trivial
      | ok new =>
          simp only [newKey, Except.bind_eq_ok_iff] at hnew
          obtain ⟨data, hdata, key, -, hnew⟩ := hnew
          rw [← Except.ok.inj hnew]
          exact h data hdata
  | processSignResponse signResponse =>
      rw [readModifyWrite]
      cases hdata : signSession unsealed signResponse.sessionId with
      | error e => trivial
      | ok data => exact h.account_eq hdata
  | removeSecurityKey a publicKey => exact h

/-- What a request does to the store of the demo and to that of the tests, when both throw. -/
theorem simulates_of_error {accountName : String} {op : Operation} {e e' : Throwable}
    {store : Entities String (List TokenStorageData)} {store' : MemoryDataStore Cert}
    {r : Except Throwable Unit × Entities String (List TokenStorageData)}
    (hrep : RepresentsAccount server accountName store store') (hr : r = (.error e, store))
    (hr' : server.machine.reply store' op.reference = .error e')
    (hn' : server.machine.next store' op.reference = store') :
    SameReply r.1 (server.machine.reply store' op.reference) ∧
      RepresentsAccount server accountName r.2 (server.machine.next store' op.reference) := by
  subst hr
  rw [hr', hn']
  exact ⟨⟨nofun, nofun⟩, hrep⟩

/-- When both return. -/
theorem simulates_of_ok {accountName : String} {op : Operation} {reply : Reply Cert}
    {store : Entities String (List TokenStorageData)} {store' : MemoryDataStore Cert}
    {tokens : List TokenStorageData} {keys : List (SecurityKeyData Cert)}
    {r : Except Throwable Unit × Entities String (List TokenStorageData)}
    (hr : r = (.ok (), Function.update store accountName (some tokens)))
    (hr' : server.machine.reply store' op.reference = .ok reply)
    (hkeys : (server.machine.next store' op.reference).getSecurityKeyData =
      Function.update store'.getSecurityKeyData accountName keys)
    (hrep : TokenStorageData.Represents server.platform tokens keys) :
    SameReply r.1 (server.machine.reply store' op.reference) ∧
      RepresentsAccount server accountName r.2 (server.machine.next store' op.reference) := by
  subst hr
  rw [hr']
  refine ⟨⟨fun _ => ⟨reply, rfl⟩, fun _ => ⟨(), rfl⟩⟩, ?_⟩
  rw [RepresentsAccount, hkeys, Function.update_self]
  change TokenStorageData.Represents _ ((Function.update store accountName _ accountName).getD []) _
  rw [Function.update_self]
  exact hrep

section Simulation

variable {accountName : String} {store : Entities String (List TokenStorageData)}
  {store' : MemoryDataStore Cert} (hrep : RepresentsAccount server accountName store store')
include hrep

theorem simulates_removeSecurityKey (publicKey : Bytes) :
    let op := Operation.removeSecurityKey accountName publicKey
    let r := (op.program server unsealed).alone store
    SameReply r.1 (server.machine.reply store' op.reference) ∧
      RepresentsAccount server accountName r.2 (server.machine.next store' op.reference) := by
  intro op r
  have hfound := hrep.findToken publicKey
  have hmodify : modifyTokens accountName
      (fun userTokens => userTokens.removeToken server.platform publicKey) (store accountName) =
        .ok ((tokensOf store accountName).eraseP fun token => token.publicKey = publicKey) := by
    rw [modifyTokens, userTokens_eq, UserTokens.removeToken]
    change Except.map _ (UserTokens.findToken _ _ (tokensOf store accountName) >>= _) = _
    rw [hfound, Except.ok_bind]
    cases hfind : (tokensOf store accountName).find? fun token => token.publicKey = publicKey with
    | none =>
        rw [List.eraseP_of_forall_not (List.find?_eq_none.1 hfind)]
        rfl
    | some token =>
        rw [← TokenStorageData.eraseP_equals hfind]
        rfl
  have hr : r = (.ok (), Function.update store accountName _) :=
    (congrArg (·.alone store) (program_eq op)).trans
      (ReadModifyWrite.alone_updateProgram_of_ok hmodify)
  exact simulates_of_ok hr rfl (MemoryDataStore.getSecurityKeyData_removeSecurityKey _ _ _)
    (hrep.remove publicKey)

omit [DecidableEq Cert] in
/-- The checks between the two loads are those of the reference server on the keys in its list. -/
theorem checkKey_eq_ok_iff_valid {signResponse : SignResponse} {data : SignSessionData}
    {counter : Int32} :
    checkKey server signResponse data (store accountName) = .ok counter ↔
      ∃ key browserData message, (store'.getSecurityKeyData accountName).find?
          (MemoryDataStore.hasPublicKey data.publicKey) = some key ∧
        server.ValidSignResponse data key signResponse browserData message ∧
        counter = message.counter := by
  have hkeys : (userTokens data.accountName (store accountName)).securityKeyData server.platform =
      .ok (store'.getSecurityKeyData accountName) := by
    rw [userTokens_eq]
    exact hrep.securityKeyData _
  rw [checkKey_eq_ok_iff]
  constructor
  · rintro ⟨keys, key, hkeys', hkey, hcheck⟩
    obtain rfl := Except.ok.inj (hkeys.symm.trans hkeys')
    obtain ⟨browserData, message, hvalid, hcounter⟩ := server.checkSignResponse_eq_ok_iff.1 hcheck
    exact ⟨key, browserData, message, hkey, hvalid, hcounter⟩
  · rintro ⟨key, browserData, message, hkey, hvalid, hcounter⟩
    exact ⟨_, key, hkeys, hkey,
      server.checkSignResponse_eq_ok_iff.2 ⟨browserData, message, hvalid, hcounter⟩⟩

variable (hsessions : SameSessions unsealed store')
include hsessions

omit hrep [DecidableEq Cert] in
theorem signSession_eq_ok_iff {sessionId : Option String} {data : SignSessionData} :
    signSession unsealed sessionId = .ok data ↔
      store'.getSignSessionData sessionId = .ok (some data) := by
  rw [MemoryDataStore.getSignSessionData_eq_ok_iff, ← hsessions, signSession_eq_ok]

theorem simulates_processSignResponse (signResponse : SignResponse)
    (hfor : (Operation.processSignResponse signResponse).IsFor unsealed accountName) :
    let op := Operation.processSignResponse signResponse
    let r := (op.program server unsealed).alone store
    SameReply r.1 (server.machine.reply store' op.reference) ∧
      RepresentsAccount server accountName r.2 (server.machine.next store' op.reference) := by
  intro op r
  have hprogram : r = ((op.readModifyWrite server unsealed).program).alone store :=
    congrArg (·.alone store) (program_eq op)
  rcases server.step_processSignResponse store' signResponse with
    ⟨data, key, browserData, message, hdata, hkey, hvalid, hr', hn'⟩ | ⟨⟨e', hr'⟩, hn'⟩
  -- the reference server sets the counter of the key, and so does the demo
  · have hdemo := (signSession_eq_ok_iff hsessions).2 hdata
    obtain rfl := hfor.account_eq hdemo
    have hcheck := (checkKey_eq_ok_iff_valid hrep).2
      ⟨key, browserData, message, hkey, hvalid, rfl⟩
    have hpublicKey : key.publicKey = data.publicKey := publicKey_of_find hkey
    obtain ⟨_, _, _, _, hchecked⟩ := checkKey_eq_ok_iff.1 hcheck
    have hupdate := hrep.updateFirst data.publicKey message.counter
    have hmodify : modifyTokens data.accountName (fun userTokens => do
        userTokens.updateCounter server.platform data.publicKey
          (← responseCounter server signResponse)) (store data.accountName) =
          .ok (FirstMatch.update (fun token => token.publicKey = data.publicKey)
            (·.updateCounter message.counter) (tokensOf store data.accountName)) := by
      rw [modifyTokens, userTokens_eq, responseCounter_of_checkSignResponse hchecked,
        Except.ok_bind, UserTokens.updateCounter]
      change Except.map _ (UserTokens.updateFirst _ _ _ (tokensOf store _) >>= _) = _
      rw [hupdate]
      rfl
    have hr : r = (.ok (), Function.update store data.accountName
        (some (FirstMatch.update (fun token => token.publicKey = data.publicKey)
          (·.updateCounter message.counter) (tokensOf store data.accountName)))) := by
      rw [hprogram, Operation.readModifyWrite, hdemo]
      refine (ReadModifyWrite.alone_guarded_of_ok ?_).trans
        (ReadModifyWrite.alone_updateProgram_of_ok hmodify)
      rw [hcheck]
      rfl
    refine simulates_of_ok hr hr' ?_ (hrep.setCounter _ _)
    rw [Operation.reference, hn', MemoryDataStore.getSecurityKeyData_updateSecurityKeyCounter,
      hpublicKey]
  -- it refuses the response, and so does the demo
  · have hrefused : ∃ e, r = (.error e, store) := by
      rw [hprogram, Operation.readModifyWrite]
      cases hdemo : signSession unsealed signResponse.sessionId with
      | error e => exact ⟨e, rfl⟩
      | ok data =>
          obtain rfl := hfor.account_eq hdemo
          cases hcheck : checkKey server signResponse data (store data.accountName) with
          | error e =>
              refine ⟨e, ReadModifyWrite.alone_guarded_of_error ?_⟩
              rw [hcheck]
              rfl
          | ok counter =>
              obtain ⟨key, browserData, message, hkey, hvalid, -⟩ :=
                (checkKey_eq_ok_iff_valid hrep).1 hcheck
              have hreply := (server.step_of_validSignResponse
                ((signSession_eq_ok_iff hsessions).1 hdemo) hkey hvalid).1
              cases hr'.symm.trans hreply
    obtain ⟨e, hr⟩ := hrefused
    exact simulates_of_error hrep hr hr' hn'

theorem simulates_processRegistrationResponse (hP : server.platform.RoundTrips)
    (registrationResponse : RegistrationResponse) (currentTimeInMillis : Int64)
    (hfor : (Operation.processRegistrationResponse registrationResponse
      currentTimeInMillis).IsFor unsealed accountName) :
    let op := Operation.processRegistrationResponse registrationResponse currentTimeInMillis
    let r := (op.program server unsealed).alone store
    SameReply r.1 (server.machine.reply store' op.reference) ∧
      RepresentsAccount server accountName r.2 (server.machine.next store' op.reference) := by
  intro op r
  have hprogram : r = ((op.readModifyWrite server unsealed).program).alone store :=
    congrArg (·.alone store) (program_eq op)
  rcases server.step_processRegistrationResponse store' registrationResponse currentTimeInMillis with
    ⟨session, clientData, message, transports, hsession, hvalid, hr', hn'⟩ | ⟨⟨e', hr'⟩, hn'⟩
  -- the reference server adds the key, and so does the demo
  · obtain ⟨data, hdata, rfl⟩ := MemoryDataStore.getEnrollSessionData_eq_some_iff.1 hsession
    have hdemo := (hsessions _ _).2 hdata
    have haccount : data.toEnrollSessionData.accountName = accountName := hfor data hdemo
    have hnew : newKey server unsealed registrationResponse currentTimeInMillis =
        .ok (accountName, U2FServerReferenceImpl.newSecurityKey message transports
          currentTimeInMillis) := by
      have hcheck : server.checkRegistrationResponse registrationResponse currentTimeInMillis
          data.toEnrollSessionData = .ok (U2FServerReferenceImpl.newSecurityKey message transports
            currentTimeInMillis) :=
        server.checkRegistrationResponse_eq_ok_iff.2 ⟨clientData, message, transports, hvalid, rfl⟩
      simp only [newKey, hdemo, Except.ok_bind, hcheck, haccount]
      rfl
    obtain ⟨token, htoken, hkey⟩ := TokenStorageData.exists_ofSecurityKeyData hP
      (U2FServerReferenceImpl.newSecurityKey message transports currentTimeInMillis) hvalid.encodes
    have hr : r = (.ok (), Function.update store accountName
        (some (tokensOf store accountName ++ [token]))) := by
      rw [hprogram, Operation.readModifyWrite, hnew]
      refine ReadModifyWrite.alone_updateProgram_of_ok ?_
      rw [modifyTokens, userTokens_eq, htoken]
      rfl
    refine simulates_of_ok hr hr' ?_ (List.rel_append hrep (.cons hkey .nil))
    rw [Operation.reference, hn', haccount, MemoryDataStore.getSecurityKeyData_addSecurityKeyData]
  -- it refuses the response, and so does the demo
  · have hrefused : ∃ e, r = (.error e, store) := by
      rw [hprogram, Operation.readModifyWrite]
      cases hnew : newKey server unsealed registrationResponse currentTimeInMillis with
      | error e => exact ⟨e, rfl⟩
      | ok new =>
          simp only [newKey, Except.bind_eq_ok_iff] at hnew
          obtain ⟨data, hdata, key, hcheck, -⟩ := hnew
          obtain ⟨clientData, message, transports, hvalid, -⟩ :=
            server.checkRegistrationResponse_eq_ok_iff.1 hcheck
          have hreply := (server.step_of_validRegistrationResponse
            (MemoryDataStore.getEnrollSessionData_eq_some_iff.2 ⟨data, (hsessions _ _).1 hdata, rfl⟩)
            hvalid currentTimeInMillis).1
          cases hr'.symm.trans hreply
    obtain ⟨e, hr⟩ := hrefused
    exact simulates_of_error hrep hr hr' hn'

end Simulation

/-- **One request does the same to both stores.** -/
theorem simulates (hP : server.platform.RoundTrips) {accountName : String} {op : Operation}
    (hfor : op.IsFor unsealed accountName) {store : Entities String (List TokenStorageData)}
    {store' : MemoryDataStore Cert} (hsessions : SameSessions unsealed store')
    (hrep : RepresentsAccount server accountName store store') :
    SameReply ((op.program server unsealed).alone store).1
        (server.machine.reply store' op.reference) ∧
      RepresentsAccount server accountName ((op.program server unsealed).alone store).2
        (server.machine.next store' op.reference) := by
  cases op with
  | processRegistrationResponse registrationResponse currentTimeInMillis =>
      exact simulates_processRegistrationResponse hrep hsessions hP registrationResponse
        currentTimeInMillis hfor
  | processSignResponse signResponse =>
      exact simulates_processSignResponse hrep hsessions signResponse hfor
  | removeSecurityKey a publicKey =>
      obtain rfl : a = accountName := hfor
      exact simulates_removeSecurityKey hrep publicKey

/-- None of these requests makes a session. -/
theorem SameSessions.next {store' : MemoryDataStore Cert} (h : SameSessions unsealed store')
    (op : Operation) : SameSessions unsealed (server.machine.next store' op.reference) := by
  have hsame : (server.machine.next store' op.reference).sessionDataBase =
      store'.sessionDataBase := by
    cases op with
    | processRegistrationResponse registrationResponse currentTimeInMillis =>
        rcases server.step_processRegistrationResponse store' registrationResponse
          currentTimeInMillis with ⟨_, _, _, _, -, -, -, hn⟩ | ⟨-, hn⟩ <;>
        rw [Operation.reference, hn]
        rfl
    | processSignResponse signResponse =>
        rcases server.step_processSignResponse store' signResponse with
          ⟨_, _, _, _, -, -, -, -, hn⟩ | ⟨-, hn⟩ <;>
        rw [Operation.reference, hn]
        rfl
    | removeSecurityKey accountName publicKey =>
        exact (MemoryDataStore.sessionDataBase_removeSecurityKey accountName publicKey store').1
  intro id session
  rw [h, MemoryDataStore.getSessionData, MemoryDataStore.getSessionData, hsame]

/-! ### The requests of a user -/

variable (server unsealed) in
/-- The requests of a user, one after another. -/
def requests (ops : List Operation) :
    LoadSave String (List TokenStorageData) (List (Except Throwable Unit)) :=
  ops.mapM fun op => op.program server unsealed

omit [DecidableEq Cert] in
/-- The requests of a user load and save the entity of his account only. -/
theorem within_requests {accountName : String} {ops : List Operation}
    (hfor : ∀ op ∈ ops, op.IsFor unsealed accountName) :
    (requests server unsealed ops).Within {accountName} := by
  refine Within.mapM fun op hop => ?_
  rw [program_eq]
  exact ReadModifyWrite.within_program (hfor op hop).on

/-- **The requests of a user who is alone** do the same to both stores. -/
theorem simulates_requests (hP : server.platform.RoundTrips) {accountName : String} :
    ∀ {ops : List Operation} {store : Entities String (List TokenStorageData)}
      {store' : MemoryDataStore Cert}, (∀ op ∈ ops, op.IsFor unsealed accountName) →
      SameSessions unsealed store' → RepresentsAccount server accountName store store' →
      List.Forall₂ SameReply ((requests server unsealed ops).alone store).1
          (server.machine.replies store' (ops.map Operation.reference)) ∧
        RepresentsAccount server accountName ((requests server unsealed ops).alone store).2
          (server.machine.exec store' (ops.map Operation.reference)) := by
  intro ops
  induction ops with
  | nil => exact fun _ _ hrep => ⟨.nil, hrep⟩
  | cons op ops ih =>
      intro store store' hfor hsessions hrep
      obtain ⟨hop, hops⟩ := List.forall_mem_cons.1 hfor
      obtain ⟨hreply, hrep₁⟩ := simulates hP hop hsessions hrep
      obtain ⟨hreplies, hrep₂⟩ := ih hops (hsessions.next op) hrep₁
      rw [requests, List.mapM_cons, alone_bind, alone_bind]
      exact ⟨.cons hreply hreplies, hrep₂⟩

/-- **Every user sees the reference server.**  Whatever the number of users and the order in which
their loads and saves come, a user who is done has the replies that the reference server gives him
when he is its only user, and his entity represents the keys that the reference server then has. -/
theorem users_independent {ι : Type} [DecidableEq ι] (hP : server.platform.RoundTrips)
    {accounts : ι → String} (hinjective : Function.Injective accounts) {ops : ι → List Operation}
    (hfor : ∀ i, ∀ op ∈ ops i, op.IsFor unsealed (accounts i))
    {store : Entities String (List TokenStorageData)} {store' : MemoryDataStore Cert}
    (hsessions : SameSessions unsealed store')
    (hrep : ∀ i, RepresentsAccount server (accounts i) store store') (schedule : List ι) (i : ι)
    {replies : List (Except Throwable Unit)}
    (hdone : (system.exec (.start (fun i => requests server unsealed (ops i)) store)
      schedule).program i = .done replies) :
    List.Forall₂ SameReply replies
        (server.machine.replies store' ((ops i).map Operation.reference)) ∧
      RepresentsAccount server (accounts i)
        (system.exec (.start (fun i => requests server unsealed (ops i)) store) schedule).store
        (server.machine.exec store' ((ops i).map Operation.reference)) := by
  have hwithin : ∀ i, (requests server unsealed (ops i)).Within {accounts i} :=
    fun i => within_requests (hfor i)
  have hdisjoint : ∀ i j, i ≠ j → ∀ k ∈ ({accounts i} : Set String), k ∉ ({accounts j} : Set _) := by
    rintro i j hij _ rfl hmem
    exact hij (hinjective hmem)
  have halone := asIfAlone_exec hwithin hdisjoint store schedule i
  obtain ⟨hresult, hstore⟩ := halone.of_done hdone
  obtain ⟨hreplies, hrep'⟩ := simulates_requests hP (hfor i) hsessions (hrep i)
  rw [hresult] at hreplies
  refine ⟨hreplies, ?_⟩
  rw [RepresentsAccount, tokensOf, hstore (accounts i) rfl]
  exact hrep'

section Witness

open TestVectors

/-- The keys of `twoKeys`, in the store of the tests. -/
def twoKeysStore : MemoryDataStore Certificate where
  sessionDataBase _ := none
  sessionIdsGenerated := 0
  securityKeyDataBase accountName :=
    if accountName = ACCOUNT_NAME ∨ accountName = ORIGIN then
      some ([[1], [2]].map fun publicKey => ⟨0, none, [3], publicKey, .VENDOR_CERTIFICATE, 0⟩)
    else none

theorem representsAccount_twoKeys (accountName : String) :
    RepresentsAccount (testServer [1]) accountName twoKeys twoKeysStore := by
  by_cases h : accountName = ACCOUNT_NAME ∨ accountName = ORIGIN
  · simp only [RepresentsAccount, tokensOf, twoKeys, MemoryDataStore.getSecurityKeyData,
      twoKeysStore, if_pos h]
    exact .cons rfl (.cons rfl .nil)
  · simp only [RepresentsAccount, tokensOf, twoKeys, MemoryDataStore.getSecurityKeyData,
      twoKeysStore, if_neg h]
    exact .nil

/-- The accounts of two users. -/
def userAccount : Bool → String
  | false => ACCOUNT_NAME
  | true => ORIGIN

/-- One user removes both keys of his account while another one removes a key of his. -/
def removals : Bool → List Operation
  | false => [.removeSecurityKey ACCOUNT_NAME [1], .removeSecurityKey ACCOUNT_NAME [2]]
  | true => [.removeSecurityKey ORIGIN [2]]

theorem users_independent_removals :
    let c := system.exec (.start (fun i => requests (testServer [1])
      (fun _ => .error .classCastException) (removals i)) twoKeys)
      [false, true, false, false, true, false]
    List.Forall₂ SameReply [.ok (), .ok ()] ((testServer [1]).machine.replies twoKeysStore
        ((removals false).map Operation.reference)) ∧
      RepresentsAccount (testServer [1]) ACCOUNT_NAME c.store
        ((testServer [1]).machine.exec twoKeysStore
          ((removals false).map Operation.reference)) := by
  have haccounts : Function.Injective userAccount := by
    unfold Function.Injective
    decide
  have hfor : ∀ i, ∀ op ∈ removals i, op.IsFor (fun _ => .error .classCastException)
      (userAccount i) := by
    intro i
    cases i <;> simp [removals, Operation.IsFor, userAccount]
  have hsessions : SameSessions (fun _ => .error .classCastException) twoKeysStore := by
    intro id session
    refine ⟨nofun, fun h => ?_⟩
    cases id <;> cases h
  exact users_independent (roundTrips_platform [1] _) haccounts hfor hsessions
    (fun _ => representsAccount_twoKeys _) _ false rfl

end Witness

end DataStoreImpl

end U2F
