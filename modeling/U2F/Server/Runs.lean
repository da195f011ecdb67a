/-
**Runs of the server.**

The server over its data store is a reactive machine whose events are the calls of its methods, by
pages and by the relying party, with any arguments.

Main definitions:

* `U2FServerReferenceImpl.machine` — the machine;
* `Reply.issued` — the session ids that the reply to a call hands out, with their kinds;
* `MemoryDataStore.Tracks` — the session map holds exactly the sessions that have been issued.

Main results:

* `U2FServerReferenceImpl.getSignRequest_spec` — what `getSignRequest` returns and stores;
* `U2FServerReferenceImpl.tracks_exec` — **in every run the session map holds exactly the sessions
  issued so far**, each under its own id;
* `U2FServerReferenceImpl.extends_exec` — a session is never changed or dropped.
-/

import Mathlib.Data.List.Forall2
import U2F.Lib.Machine
import U2F.Server.Accept

set_option relaxedAutoImplicit false
set_option autoImplicit false

namespace U2F

/-- A call of a method of the server. -/
inductive Operation
  | getRegistrationRequest (accountName appId : String) (challenge : Bytes)
  | processRegistrationResponse (response : RegistrationResponse) (currentTimeInMillis : Int64)
  | getSignRequest (accountName appId : String) (challenge : Bytes)
  | processSignResponse (response : SignResponse)
  | getAllSecurityKeys (accountName : String)
  | removeSecurityKey (accountName : String) (publicKey : Bytes)

/-- The session id that a response carries. -/
def Operation.sessionId : Operation → Option String
  | processRegistrationResponse response _ => response.sessionId
  | processSignResponse response => response.sessionId
  | _ => none

/-- What a method returns. -/
inductive Reply (Cert : Type)
  | registrationRequest (request : RegistrationRequest)
  | securityKeyData (key : SecurityKeyData Cert)
  | signRequest (request : U2fSignRequest)
  | securityKeys (keys : List (SecurityKeyData Cert))
  | done

inductive SessionKind
  | enroll
  | sign
  deriving DecidableEq

def SessionData.kind : SessionData → SessionKind
  | enroll _ => .enroll
  | sign _ => .sign

/-- The session ids in the reply to a call, with the kind of request they are for. -/
def Reply.issued {Cert : Type} : Except Throwable (Reply Cert) → List (SessionKind × String)
  | .ok (.registrationRequest request) => [(.enroll, request.sessionId)]
  | .ok (.signRequest request) => request.registeredKeys.map fun key => (.sign, key.sessionId)
  | _ => []

namespace U2FServerReferenceImpl

variable {Cert PublicKey : Type} [DecidableEq Cert] (server : U2FServerReferenceImpl Cert PublicKey)

def perform : Operation → Call (MemoryDataStore Cert) Throwable (Reply Cert)
  | .getRegistrationRequest accountName appId challenge =>
      .registrationRequest <$> server.getRegistrationRequest accountName appId challenge
  | .processRegistrationResponse response currentTimeInMillis =>
      .securityKeyData <$> server.processRegistrationResponse response currentTimeInMillis
  | .getSignRequest accountName appId challenge =>
      .signRequest <$> server.getSignRequest accountName appId challenge
  | .processSignResponse response => .securityKeyData <$> server.processSignResponse response
  | .getAllSecurityKeys accountName => .securityKeys <$> getAllSecurityKeys accountName
  | .removeSecurityKey accountName publicKey =>
      (fun _ => .done) <$> removeSecurityKey accountName publicKey

/-- **The server over its data store.** -/
def machine : Machine (MemoryDataStore Cert) Operation (Except Throwable (Reply Cert)) :=
  ⟨fun store operation => (server.perform operation).outcome store⟩

/-- The operation is accepted: the method returns. -/
def Accepts (store : MemoryDataStore Cert) (operation : Operation) : Prop :=
  ∃ reply, server.machine.reply store operation = .ok reply

/-- An operation that throws is not accepted. -/
theorem not_accepts_of_error {store : MemoryDataStore Cert} {operation : Operation} {e : Throwable}
    (h : server.machine.reply store operation = .error e) : ¬ server.Accepts store operation := by
  intro ⟨reply, hreply⟩
  cases hreply.symm.trans h

/-- The session ids that the replies of a run hand out. -/
def issued (store : MemoryDataStore Cert) (operations : List Operation) :
    List (SessionKind × String) :=
  (server.machine.replies store operations).flatMap Reply.issued

theorem issued_concat (store : MemoryDataStore Cert) (operations : List Operation)
    (operation : Operation) :
    server.issued store (operations ++ [operation]) = server.issued store operations ++
      Reply.issued (server.machine.reply (server.machine.exec store operations) operation) := by
  simp [issued, Machine.replies]

/-! ### Steps -/

/-- A call that returns. -/
theorem step_of_returns {store store' : MemoryDataStore Cert} {operation : Operation} {α : Type}
    (f : α → Reply Cert) {x : Call (MemoryDataStore Cert) Throwable α} {a : α}
    (hx : server.perform operation = f <$> x) (h : x.Returns store a store') :
    server.machine.reply store operation = .ok (f a) ∧
      server.machine.next store operation = store' := by
  have hstep : server.machine.step store operation = (.ok (f a), store') := by
    change (server.perform operation).outcome store = _
    rw [hx, Call.outcome_map, h]
  exact ⟨congrArg Prod.fst hstep, congrArg Prod.snd hstep⟩

/-- A call that throws. -/
theorem step_of_throws {store store' : MemoryDataStore Cert} {operation : Operation} {α : Type}
    (f : α → Reply Cert) {x : Call (MemoryDataStore Cert) Throwable α} {e : Throwable}
    (hx : server.perform operation = f <$> x) (h : x.outcome store = (.error e, store')) :
    server.machine.reply store operation = .error e ∧
      server.machine.next store operation = store' := by
  have hstep : server.machine.step store operation = (.error e, store') := by
    change (server.perform operation).outcome store = _
    rw [hx, Call.outcome_map, h]
  exact ⟨congrArg Prod.fst hstep, congrArg Prod.snd hstep⟩

/-- A call of an atomic method returns, or throws and changes nothing. -/
theorem step_of_atomic (store : MemoryDataStore Cert) {operation : Operation} {α : Type}
    (f : α → Reply Cert) {x : Call (MemoryDataStore Cert) Throwable α}
    (hx : server.perform operation = f <$> x) (hatomic : x.Atomic) :
    (∃ a store', x.Returns store a store' ∧ server.machine.reply store operation = .ok (f a) ∧
      server.machine.next store operation = store') ∨
    (∃ e, server.machine.reply store operation = .error e) ∧
      server.machine.next store operation = store := by
  by_cases h : ∃ a store', x.Returns store a store'
  · obtain ⟨a, store', h⟩ := h
    exact .inl ⟨a, store', h, server.step_of_returns f hx h⟩
  · obtain ⟨e, store', he⟩ := Call.outcome_of_not_returns h
    obtain rfl := hatomic _ _ _ he
    obtain ⟨hr, hn⟩ := server.step_of_throws f hx he
    exact .inr ⟨⟨e, hr⟩, hn⟩

/-- **What a registration response does**: its key is added, or nothing happens. -/
theorem step_processRegistrationResponse (store : MemoryDataStore Cert)
    (response : RegistrationResponse) (time : Int64) :
    (∃ session clientData message transports,
      store.getEnrollSessionData response.sessionId = some session ∧
      server.ValidRegistrationResponse session response clientData message transports ∧
      server.machine.reply store (.processRegistrationResponse response time) =
        .ok (.securityKeyData (newSecurityKey message transports time)) ∧
      server.machine.next store (.processRegistrationResponse response time) =
        store.addSecurityKeyData session.accountName (newSecurityKey message transports time)) ∨
    (∃ e, server.machine.reply store (.processRegistrationResponse response time) = .error e) ∧
      server.machine.next store (.processRegistrationResponse response time) = store := by
  refine (server.step_of_atomic store Reply.securityKeyData rfl
    (server.atomic_processRegistrationResponse response time)).imp ?_ id
  rintro ⟨k, store', h, hr, rfl⟩
  obtain ⟨session, clientData, message, transports, hsession, hvalid, hstore, rfl⟩ :=
    server.processRegistrationResponse_returns_iff.1 h
  exact ⟨session, clientData, message, transports, hsession, hvalid, hr, hstore⟩

/-- **What a sign response does**: it sets the counter of a key, or nothing happens. -/
theorem step_processSignResponse (store : MemoryDataStore Cert) (response : SignResponse) :
    (∃ session key browserData message,
      store.getSignSessionData response.sessionId = .ok (some session) ∧
      (store.getSecurityKeyData session.accountName).find?
        (MemoryDataStore.hasPublicKey session.publicKey) = some key ∧
      server.ValidSignResponse session key response browserData message ∧
      server.machine.reply store (.processSignResponse response) =
        .ok (.securityKeyData (key.setCounter message.counter)) ∧
      server.machine.next store (.processSignResponse response) =
        store.updateSecurityKeyCounter session.accountName key.publicKey message.counter) ∨
    (∃ e, server.machine.reply store (.processSignResponse response) = .error e) ∧
      server.machine.next store (.processSignResponse response) = store := by
  refine (server.step_of_atomic store Reply.securityKeyData rfl
    (server.atomic_processSignResponse response)).imp ?_ id
  rintro ⟨k, store', h, hr, rfl⟩
  obtain ⟨session, key, browserData, message, hsession, hkey, hvalid, hstore, rfl⟩ :=
    server.processSignResponse_returns_iff.1 h
  exact ⟨session, key, browserData, message, hsession, hkey, hvalid, hr, hstore⟩

/-- A valid registration response adds its key. -/
theorem step_of_validRegistrationResponse {store : MemoryDataStore Cert}
    {response : RegistrationResponse} {session : EnrollSessionData} {clientData : String}
    {message : RegisterResponse Cert} {transports : Option (List Transports)}
    (hsession : store.getEnrollSessionData response.sessionId = some session)
    (hvalid : server.ValidRegistrationResponse session response clientData message transports)
    (time : Int64) :
    server.machine.reply store (.processRegistrationResponse response time) =
        .ok (.securityKeyData (newSecurityKey message transports time)) ∧
      server.machine.next store (.processRegistrationResponse response time) =
        store.addSecurityKeyData session.accountName (newSecurityKey message transports time) :=
  server.step_of_returns Reply.securityKeyData rfl
    (server.processRegistrationResponse_returns_iff.2
      ⟨session, clientData, message, transports, hsession, hvalid, rfl, rfl⟩)

/-- A valid sign response sets the counter of its key. -/
theorem step_of_validSignResponse {store : MemoryDataStore Cert} {response : SignResponse}
    {session : SignSessionData} {key : SecurityKeyData Cert} {browserData : String}
    {message : AuthenticateResponse}
    (hsession : store.getSignSessionData response.sessionId = .ok (some session))
    (hkey : (store.getSecurityKeyData session.accountName).find?
      (MemoryDataStore.hasPublicKey session.publicKey) = some key)
    (hvalid : server.ValidSignResponse session key response browserData message) :
    server.machine.reply store (.processSignResponse response) =
        .ok (.securityKeyData (key.setCounter message.counter)) ∧
      server.machine.next store (.processSignResponse response) =
        store.updateSecurityKeyCounter session.accountName key.publicKey message.counter :=
  server.step_of_returns Reply.securityKeyData rfl (server.processSignResponse_returns_iff.2
    ⟨session, key, browserData, message, hsession, hkey, hvalid, rfl, rfl⟩)

end U2FServerReferenceImpl

/-! ### The session map -/

namespace MemoryDataStore

variable {Cert : Type}

/-- The sessions of `store` are sessions of `store'`. -/
def Extends (store store' : MemoryDataStore Cert) : Prop :=
  ∀ id session, store.sessionDataBase id = some session → store'.sessionDataBase id = some session

theorem Extends.refl (store : MemoryDataStore Cert) : store.Extends store := fun _ _ h => h

theorem Extends.trans {s₁ s₂ s₃ : MemoryDataStore Cert} (h₁ : s₁.Extends s₂)
    (h₂ : s₂.Extends s₃) : s₁.Extends s₃ := fun id session h => h₂ id session (h₁ id session h)

theorem Extends.getSessionData {store store' : MemoryDataStore Cert} (h : store.Extends store')
    {sessionId : Option String} {session : SessionData}
    (hsession : store.getSessionData sessionId = some session) :
    store'.getSessionData sessionId = some session := by
  obtain ⟨id, rfl, hid⟩ := Option.bind_eq_some_iff.1 hsession
  exact h id session hid

theorem getEnrollSessionData_eq_some_iff {store : MemoryDataStore Cert} {sessionId : Option String}
    {session : EnrollSessionData} :
    store.getEnrollSessionData sessionId = some session ↔
      ∃ data, store.getSessionData sessionId = some data ∧ data.toEnrollSessionData = session :=
  Option.map_eq_some_iff

theorem getSignSessionData_eq_ok_iff {store : MemoryDataStore Cert} {sessionId : Option String}
    {session : SignSessionData} :
    store.getSignSessionData sessionId = .ok (some session) ↔
      store.getSessionData sessionId = some (.sign session) := by
  rw [getSignSessionData]
  rcases store.getSessionData sessionId with _ | ⟨_ | _⟩ <;> simp

/-- The session map holds exactly the sessions issued, and their ids come from the generator. -/
structure Tracks (generator : SessionIdGenerator) (issued : List (SessionKind × String))
    (store : MemoryDataStore Cert) : Prop where
  mem_iff : ∀ kind id, (kind, id) ∈ issued ↔
    ∃ session, store.sessionDataBase id = some session ∧ session.kind = kind
  generated : ∀ id session, store.sessionDataBase id = some session →
    ∃ n a, n < store.sessionIdsGenerated ∧ id = generator.generateSessionId n a

theorem tracks_new (generator : SessionIdGenerator) :
    Tracks generator [] (new : MemoryDataStore Cert) :=
  ⟨fun kind id => by simp [new], fun id session h => by simp [new] at h⟩

variable {generator : SessionIdGenerator} {issued : List (SessionKind × String)}
  {store : MemoryDataStore Cert}

/-- The id of a new session is not in the map. -/
theorem Tracks.fresh (h : store.Tracks generator issued) (session : SessionData) :
    store.sessionDataBase (store.storeSessionData generator session).1 = none := by
  rw [Option.eq_none_iff_forall_not_mem]
  intro d hd
  obtain ⟨n, a, hn, hid⟩ := h.generated _ d hd
  have : store.sessionIdsGenerated = n := generator.fresh hid
  omega

theorem Tracks.extends (h : store.Tracks generator issued) (session : SessionData) :
    store.Extends (store.storeSessionData generator session).2 := by
  intro id d hd
  refine (Function.update_of_ne ?_ _ _).trans hd
  intro hid
  rw [hid] at hd
  exact absurd ((h.fresh session).symm.trans hd) (by simp)

theorem Tracks.storeSessionData (h : store.Tracks generator issued) (session : SessionData) :
    (store.storeSessionData generator session).2.Tracks generator
      (issued ++ [(session.kind, (store.storeSessionData generator session).1)]) := by
  constructor
  · intro kind id
    by_cases hid : id = (store.storeSessionData generator session).1
    · -- the new id is not in the map before, so that it has one kind
      have hnone := h.fresh session
      rw [← hid] at hnone
      have hnot : (kind, id) ∉ issued := fun hmem => by
        obtain ⟨d, hd, -⟩ := (h.mem_iff kind id).1 hmem
        exact absurd (hnone.symm.trans hd) (by simp)
      have hnew : (store.storeSessionData generator session).2.sessionDataBase id =
          some session := by
        rw [hid]
        exact Function.update_self _ _ _
      simp [hnot, hnew, ← hid, eq_comm]
    · have hold : (store.storeSessionData generator session).2.sessionDataBase id =
          store.sessionDataBase id := Function.update_of_ne hid _ _
      simp [hold, hid, h.mem_iff]
  · intro id d hd
    by_cases hid : id = (store.storeSessionData generator session).1
    · exact ⟨_, _, Nat.lt_succ_self _, hid⟩
    · have hold : store.sessionDataBase id = some d :=
        (Function.update_of_ne hid _ _).symm.trans hd
      obtain ⟨n, a, hn, hna⟩ := h.generated id d hold
      exact ⟨n, a, Nat.lt_succ_of_lt hn, hna⟩

/-- What is kept by an operation that leaves the session map alone. -/
theorem Tracks.congr {store' : MemoryDataStore Cert} (h : store.Tracks generator issued)
    (hmap : store'.sessionDataBase = store.sessionDataBase)
    (hcount : store'.sessionIdsGenerated = store.sessionIdsGenerated) :
    store'.Tracks generator issued := by
  constructor
  · rw [hmap]
    exact h.mem_iff
  · rw [hmap, hcount]
    exact h.generated

theorem sessionDataBase_removeSecurityKey [DecidableEq Cert] (a : String) (pk : Bytes)
    (store : MemoryDataStore Cert) :
    (store.removeSecurityKey a pk).sessionDataBase = store.sessionDataBase ∧
      (store.removeSecurityKey a pk).sessionIdsGenerated = store.sessionIdsGenerated := by
  simp only [removeSecurityKey]
  cases (store.getSecurityKeyData a).find? (hasPublicKey pk) <;> exact ⟨rfl, rfl⟩

end MemoryDataStore

namespace U2FServerReferenceImpl

variable {Cert PublicKey : Type} (server : U2FServerReferenceImpl Cert PublicKey)

/-! ### What each request issues -/

/-- A registered key as `getSignRequest` offers it: its session is stored under its id. -/
structure Offers (sessionData : EnrollSessionData) (store : MemoryDataStore Cert)
    (key : SecurityKeyData Cert) (registeredKey : RegisteredKey) : Prop where
  version : registeredKey.version = U2F_V2
  keyHandle : registeredKey.keyHandle = server.platform.encodeBase64URLSafeString key.keyHandle
  transports : registeredKey.transports = key.transports
  appId : registeredKey.appId = sessionData.appId
  session : store.sessionDataBase registeredKey.sessionId =
    some (.sign ⟨sessionData, key.publicKey⟩)

/-- The loop of `getSignRequest`, over any list of keys. -/
theorem mapM_getRegisteredKey_spec (accountName appId : String) (challenge : Bytes)
    (keys : List (SecurityKeyData Cert)) (store : MemoryDataStore Cert) :
    ∃ registeredKeys store',
      (keys.mapM (server.getRegisteredKey accountName appId challenge)).Returns store
        registeredKeys store' ∧
      store'.securityKeyDataBase = store.securityKeyDataBase ∧
      ∀ issued, store.Tracks server.sessionIdGenerator issued →
        store.Extends store' ∧
        store'.Tracks server.sessionIdGenerator
          (issued ++ registeredKeys.map fun key => (.sign, key.sessionId)) ∧
        List.Forall₂ (server.Offers ⟨accountName, appId, challenge⟩ store') keys registeredKeys := by
  induction keys generalizing store with
  | nil =>
      refine ⟨[], store, rfl, rfl, fun issued h => ⟨.refl store, ?_, .nil⟩⟩
      simpa using h
  | cons key keys ih =>
      let session : SessionData := .sign ⟨⟨accountName, appId, challenge⟩, key.publicKey⟩
      let id := (store.storeSessionData server.sessionIdGenerator session).1
      let store₁ := (store.storeSessionData server.sessionIdGenerator session).2
      let registeredKey : RegisteredKey :=
        ⟨U2F_V2, server.platform.encodeBase64URLSafeString key.keyHandle, key.transports, appId, id⟩
      obtain ⟨registeredKeys, store', hreturns, hkeys, h⟩ := ih store₁
      refine ⟨registeredKey :: registeredKeys, store', ?_, hkeys, ?_⟩
      · rw [List.mapM_cons, Call.returns_bind_iff]
        refine ⟨registeredKey, store₁, rfl, ?_⟩
        rw [Call.returns_bind_iff]
        exact ⟨registeredKeys, store', hreturns, rfl⟩
      · intro issued htracks
        obtain ⟨hextends, htracks', hoffers⟩ := h _ (htracks.storeSessionData session)
        refine ⟨(htracks.extends session).trans hextends, ?_, .cons ?_ hoffers⟩
        · simpa [session, SessionData.kind, registeredKey, id] using htracks'
        · refine ⟨rfl, rfl, rfl, rfl, hextends _ _ ?_⟩
          exact Function.update_self _ _ _

/-- **What `getSignRequest` does**: it returns, offers the keys of the account one by one and in
order, and stores one sign session for each. -/
theorem getSignRequest_spec (accountName appId : String) (challenge : Bytes)
    (store : MemoryDataStore Cert) :
    ∃ registeredKeys store',
      (server.getSignRequest accountName appId challenge).Returns store
        ⟨server.platform.encodeBase64URLSafeString challenge, registeredKeys⟩ store' ∧
      store'.securityKeyDataBase = store.securityKeyDataBase ∧
      ∀ issued, store.Tracks server.sessionIdGenerator issued →
        store.Extends store' ∧
        store'.Tracks server.sessionIdGenerator
          (issued ++ registeredKeys.map fun key => (.sign, key.sessionId)) ∧
        List.Forall₂ (server.Offers ⟨accountName, appId, challenge⟩ store')
          (store.getSecurityKeyData accountName) registeredKeys := by
  obtain ⟨registeredKeys, store', hreturns, h⟩ := server.mapM_getRegisteredKey_spec accountName
    appId challenge (store.getSecurityKeyData accountName) store
  refine ⟨registeredKeys, store', ?_, h⟩
  rw [getSignRequest, Call.returns_get_bind_iff, Call.returns_bind_iff]
  exact ⟨registeredKeys, store', hreturns, rfl⟩

variable [DecidableEq Cert]

/-- The step of `getRegistrationRequest`. -/
theorem step_getRegistrationRequest (store : MemoryDataStore Cert) (accountName appId : String)
    (challenge : Bytes) :
    server.machine.reply store (.getRegistrationRequest accountName appId challenge) =
      .ok (.registrationRequest ⟨U2F_V2, server.platform.encodeBase64URLSafeString challenge, appId,
        (store.storeSessionData server.sessionIdGenerator
          (.enroll ⟨accountName, appId, challenge⟩)).1⟩) ∧
    server.machine.next store (.getRegistrationRequest accountName appId challenge) =
      (store.storeSessionData server.sessionIdGenerator
        (.enroll ⟨accountName, appId, challenge⟩)).2 :=
  server.step_of_returns Reply.registrationRequest rfl rfl

/-- The step of `removeSecurityKey`. -/
theorem next_removeSecurityKey (store : MemoryDataStore Cert) (accountName : String)
    (publicKey : Bytes) : server.machine.next store (.removeSecurityKey accountName publicKey) =
      store.removeSecurityKey accountName publicKey := rfl

/-- The step of `getSignRequest`. -/
theorem step_getSignRequest (store : MemoryDataStore Cert) (accountName appId : String)
    (challenge : Bytes) :
    ∃ registeredKeys,
      server.machine.reply store (.getSignRequest accountName appId challenge) =
        .ok (.signRequest ⟨server.platform.encodeBase64URLSafeString challenge, registeredKeys⟩) ∧
      (server.machine.next store (.getSignRequest accountName appId challenge)).securityKeyDataBase =
        store.securityKeyDataBase ∧
      ∀ issued, store.Tracks server.sessionIdGenerator issued →
        store.Extends (server.machine.next store (.getSignRequest accountName appId challenge)) ∧
        (server.machine.next store (.getSignRequest accountName appId challenge)).Tracks
          server.sessionIdGenerator
          (issued ++ registeredKeys.map fun key => (.sign, key.sessionId)) ∧
        List.Forall₂ (server.Offers ⟨accountName, appId, challenge⟩
          (server.machine.next store (.getSignRequest accountName appId challenge)))
          (store.getSecurityKeyData accountName) registeredKeys := by
  obtain ⟨registeredKeys, store', hret, h⟩ :=
    server.getSignRequest_spec accountName appId challenge store
  have hstep : server.machine.reply store (.getSignRequest accountName appId challenge) = _ ∧
      server.machine.next store (.getSignRequest accountName appId challenge) = store' :=
    server.step_of_returns Reply.signRequest rfl hret
  refine ⟨registeredKeys, hstep.1, ?_⟩
  rw [hstep.2]
  exact h

/-! ### Sessions in a run -/

/-- **The step lemma for sessions.** -/
theorem tracks_step {issued : List (SessionKind × String)} {store : MemoryDataStore Cert}
    (h : store.Tracks server.sessionIdGenerator issued) (operation : Operation) :
    store.Extends (server.machine.next store operation) ∧
      (server.machine.next store operation).Tracks server.sessionIdGenerator
        (issued ++ Reply.issued (server.machine.reply store operation)) := by
  cases operation with
  | getRegistrationRequest accountName appId challenge =>
      obtain ⟨hr, hn⟩ := server.step_getRegistrationRequest store accountName appId challenge
      rw [hr, hn]
      exact ⟨h.extends _, h.storeSessionData (.enroll ⟨accountName, appId, challenge⟩)⟩
  | processRegistrationResponse response time =>
      rcases server.step_processRegistrationResponse store response time with
        ⟨session, _, _, _, -, -, hr, hn⟩ | ⟨⟨e, hr⟩, hn⟩
      · rw [hr, hn]
        exact ⟨.refl store, (List.append_nil issued).symm ▸ h.congr rfl rfl⟩
      · rw [hr, hn]
        exact ⟨.refl store, (List.append_nil issued).symm ▸ h⟩
  | getSignRequest accountName appId challenge =>
      obtain ⟨registeredKeys, hr, -, hs'⟩ :=
        server.step_getSignRequest store accountName appId challenge
      rw [hr]
      exact ⟨(hs' _ h).1, (hs' _ h).2.1⟩
  | processSignResponse response =>
      rcases server.step_processSignResponse store response with
        ⟨session, key, _, message, -, -, -, hr, hn⟩ | ⟨⟨e, hr⟩, hn⟩
      · rw [hr, hn]
        exact ⟨.refl store, (List.append_nil issued).symm ▸ h.congr rfl rfl⟩
      · rw [hr, hn]
        exact ⟨.refl store, (List.append_nil issued).symm ▸ h⟩
  | getAllSecurityKeys accountName =>
      exact ⟨.refl store, (List.append_nil issued).symm ▸ h⟩
  | removeSecurityKey accountName publicKey =>
      obtain ⟨hmap, hcount⟩ :=
        MemoryDataStore.sessionDataBase_removeSecurityKey accountName publicKey store
      refine ⟨fun id session hid => ?_, (List.append_nil issued).symm ▸ h.congr hmap hcount⟩
      exact (congrFun hmap id).trans hid

/-- **In every run the session map holds exactly the sessions that have been issued.** -/
theorem tracks_exec (operations : List Operation) :
    (server.machine.exec MemoryDataStore.new operations).Tracks server.sessionIdGenerator
      (server.issued MemoryDataStore.new operations) := by
  induction operations using List.reverseRecOn with
  | nil => exact MemoryDataStore.tracks_new _
  | append_singleton operations operation ih =>
      rw [Machine.exec_concat, issued_concat]
      exact (server.tracks_step ih operation).2

/-- A session issued in a run stays as it is for the rest of the run. -/
theorem extends_exec (before after : List Operation) :
    (server.machine.exec MemoryDataStore.new before).Extends
      (server.machine.exec MemoryDataStore.new (before ++ after)) := by
  -- a store that tracks its sessions goes on doing so, and each step extends it
  let I (store : MemoryDataStore Cert) := ∃ issued, store.Tracks server.sessionIdGenerator issued
  have hinv : ∀ store operation, I store → I (server.machine.next store operation) :=
    fun _ operation ⟨_, h⟩ => ⟨_, (server.tracks_step h operation).2⟩
  have hstep : ∀ store operation, I store →
      store.Extends (server.machine.next store operation) :=
    fun _ operation ⟨_, h⟩ => (server.tracks_step h operation).1
  rw [Machine.exec_append]
  exact Machine.exec_rel MemoryDataStore.Extends.refl MemoryDataStore.Extends.trans hinv hstep
    ⟨_, server.tracks_exec before⟩ after

end U2FServerReferenceImpl

end U2F
