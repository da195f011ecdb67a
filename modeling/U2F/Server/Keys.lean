/-
**The keys of an account.**

Registration appends to the list of an account, a sign response updates the first entry with the
session's public key, and a removal takes out the first entry with the given public key.  The list
is sound when it has one entry for each public key; registration does not check this.

Main definitions:

* `U2FServerReferenceImpl.KeysStep` — all that an operation can do to the lists of keys;
* `MemoryDataStore.OneEntryPerKey` — one entry for each public key;
* `U2FServerReferenceImpl.KeysSound` — that, and what it means for removal;
* `U2FServerReferenceImpl.RegistersNewKey` — the operation registers no key that its account has.

Main results:

* `U2FServerReferenceImpl.keysStep` — the inversion lemma;
* `U2FServerReferenceImpl.keysSound_iff_registersNewKey` — **the lists are sound at every point of
  a run exactly when no registration of the run is of a key that its account has**.
-/

import U2F.Lib.Traverse
import U2F.Server.TestVectors

set_option relaxedAutoImplicit false
set_option autoImplicit false

namespace U2F

open MemoryDataStore

/-- One entry for each public key, in every account. -/
def MemoryDataStore.OneEntryPerKey {Cert : Type} (store : MemoryDataStore Cert) : Prop :=
  ∀ accountName, ((store.getSecurityKeyData accountName).map (·.publicKey)).Nodup

namespace U2FServerReferenceImpl

variable {Cert PublicKey : Type} [DecidableEq Cert] (server : U2FServerReferenceImpl Cert PublicKey)

/-! ### What an operation does to the lists of keys -/

/-- The lists of keys after an operation. -/
inductive KeysStep (store : MemoryDataStore Cert) :
    Operation → (String → List (SecurityKeyData Cert)) → Prop
  | same (operation : Operation) : KeysStep store operation store.getSecurityKeyData
  | register {response : RegistrationResponse} {time : Int64} {session : EnrollSessionData}
      {clientData : String} {message : RegisterResponse Cert}
      {transports : Option (List Transports)}
      (hsession : store.getEnrollSessionData response.sessionId = some session)
      (hvalid : server.ValidRegistrationResponse session response clientData message transports) :
      KeysStep store (.processRegistrationResponse response time)
        (Function.update store.getSecurityKeyData session.accountName
          (store.getSecurityKeyData session.accountName ++ [newSecurityKey message transports time]))
  | sign {response : SignResponse} {session : SignSessionData} {key : SecurityKeyData Cert}
      {browserData : String} {message : AuthenticateResponse}
      (hsession : store.getSignSessionData response.sessionId = .ok (some session))
      (hkey : (store.getSecurityKeyData session.accountName).find?
        (hasPublicKey session.publicKey) = some key)
      (hvalid : server.ValidSignResponse session key response browserData message) :
      KeysStep store (.processSignResponse response)
        (Function.update store.getSecurityKeyData session.accountName
          (FirstMatch.update (hasPublicKey session.publicKey) (·.setCounter message.counter)
            (store.getSecurityKeyData session.accountName)))
  | remove (accountName : String) (publicKey : Bytes) :
      KeysStep store (.removeSecurityKey accountName publicKey)
        (Function.update store.getSecurityKeyData accountName
          ((store.getSecurityKeyData accountName).eraseP (hasPublicKey publicKey)))

theorem publicKey_of_find? {Cert : Type} {keys : List (SecurityKeyData Cert)} {publicKey : Bytes}
    {key : SecurityKeyData Cert} (h : keys.find? (hasPublicKey publicKey) = some key) :
    key.publicKey = publicKey := by
  simpa [hasPublicKey] using List.find?_some h

theorem getSecurityKeyData_congr {Cert : Type} {store store' : MemoryDataStore Cert}
    (h : store'.securityKeyDataBase = store.securityKeyDataBase) :
    store'.getSecurityKeyData = store.getSecurityKeyData := by
  funext accountName
  rw [getSecurityKeyData, getSecurityKeyData, h]

/-- **The inversion lemma for the lists of keys.** -/
theorem keysStep (store : MemoryDataStore Cert) (operation : Operation) :
    server.KeysStep store operation (server.machine.next store operation).getSecurityKeyData := by
  cases operation with
  | getRegistrationRequest accountName appId challenge =>
      rw [(server.step_getRegistrationRequest store accountName appId challenge).2]
      exact .same _
  | processRegistrationResponse response time =>
      rcases server.step_processRegistrationResponse store response time with
        ⟨session, _, message, transports, hsession, hvalid, -, hn⟩ | ⟨-, hn⟩
      · rw [hn, getSecurityKeyData_addSecurityKeyData]
        exact .register hsession hvalid
      · rw [hn]
        exact .same _
  | getSignRequest accountName appId challenge =>
      obtain ⟨_, -, hkeys, -⟩ := server.step_getSignRequest store accountName appId challenge
      rw [getSecurityKeyData_congr hkeys]
      exact .same _
  | processSignResponse response =>
      rcases server.step_processSignResponse store response with
        ⟨session, key, _, message, hsession, hkey, hvalid, -, hn⟩ | ⟨-, hn⟩
      · rw [hn, getSecurityKeyData_updateSecurityKeyCounter, publicKey_of_find? hkey]
        exact .sign hsession hkey hvalid
      · rw [hn]
        exact .same _
  | getAllSecurityKeys accountName => exact .same _
  | removeSecurityKey accountName publicKey =>
      rw [next_removeSecurityKey, getSecurityKeyData_removeSecurityKey]
      exact .remove accountName publicKey

omit [DecidableEq Cert] in
/-- A key that is stored after an operation has been stored before it, but for its counter, or the
operation has registered it. -/
theorem KeysStep.mem {store : MemoryDataStore Cert} {operation : Operation}
    {keys : String → List (SecurityKeyData Cert)} (h : server.KeysStep store operation keys)
    {accountName : String} {k : SecurityKeyData Cert} (hk : k ∈ keys accountName) :
    (∃ k' ∈ store.getSecurityKeyData accountName, ∃ counter, k = k' ∨ k = k'.setCounter counter) ∨
    ∃ response time session clientData message transports,
      operation = .processRegistrationResponse response time ∧
      store.getEnrollSessionData response.sessionId = some session ∧
      server.ValidRegistrationResponse session response clientData message transports ∧
      session.accountName = accountName ∧ k = newSecurityKey message transports time := by
  cases h with
  | same => exact .inl ⟨k, hk, 0, .inl rfl⟩
  | @register response time session clientData message transports hsession hvalid =>
      by_cases ha : accountName = session.accountName
      · subst ha
        rw [Function.update_self] at hk
        rcases List.mem_append.1 hk with hk | hk
        · exact .inl ⟨k, hk, 0, .inl rfl⟩
        · exact .inr ⟨response, time, session, clientData, message, transports, rfl, hsession, hvalid,
            rfl, List.mem_singleton.1 hk⟩
      · rw [Function.update_of_ne ha] at hk
        exact .inl ⟨k, hk, 0, .inl rfl⟩
  | @sign response session key browserData message hsession hkey hvalid =>
      by_cases ha : accountName = session.accountName
      · subst ha
        rw [Function.update_self] at hk
        rcases FirstMatch.mem_update hk with hk | ⟨k', hk', rfl⟩
        · exact .inl ⟨k, hk, 0, .inl rfl⟩
        · exact .inl ⟨k', List.mem_of_find?_eq_some hk', message.counter, .inr rfl⟩
      · rw [Function.update_of_ne ha] at hk
        exact .inl ⟨k, hk, 0, .inl rfl⟩
  | remove account publicKey =>
      by_cases ha : accountName = account
      · subst ha
        rw [Function.update_self] at hk
        exact .inl ⟨k, List.mem_of_mem_eraseP hk, 0, .inl rfl⟩
      · rw [Function.update_of_ne ha] at hk
        exact .inl ⟨k, hk, 0, .inl rfl⟩

/-! ### One entry for each key -/

/-- The operation is not the registration of a key that its account has already. -/
def RegistersNewKey (store : MemoryDataStore Cert) : Operation → Prop
  | .processRegistrationResponse response _ =>
      ∀ session clientData message transports,
        store.getEnrollSessionData response.sessionId = some session →
        server.ValidRegistrationResponse session response clientData message transports →
        ∀ key ∈ store.getSecurityKeyData session.accountName,
          key.publicKey ≠ message.userPublicKey
  | _ => True

/-- A change of one account's list. -/
theorem nodup_update {Cert : Type} {keys : String → List (SecurityKeyData Cert)}
    {accountName : String} {list : List (SecurityKeyData Cert)}
    (h : ∀ a, ((keys a).map (·.publicKey)).Nodup) (hlist : (list.map (·.publicKey)).Nodup) :
    ∀ a, ((Function.update keys accountName list a).map (·.publicKey)).Nodup := by
  intro a
  by_cases ha : a = accountName
  · subst ha
    rwa [Function.update_self]
  · rw [Function.update_of_ne ha]
    exact h a

/-- **The step lemma.** -/
theorem oneEntryPerKey_step {store : MemoryDataStore Cert} {operation : Operation}
    (h : store.OneEntryPerKey) (hnew : server.RegistersNewKey store operation) :
    (server.machine.next store operation).OneEntryPerKey := by
  have hstep := server.keysStep store operation
  generalize hk : (server.machine.next store operation).getSecurityKeyData = keys at hstep
  intro accountName
  rw [hk]
  cases hstep with
  | same => exact h accountName
  | register hsession hvalid =>
      refine nodup_update h ?_ accountName
      rw [List.map_append, List.nodup_append]
      refine ⟨h _, List.nodup_singleton _, ?_⟩
      intro pk hpk pk' hpk'
      obtain ⟨key, hkey, rfl⟩ := List.mem_map.1 hpk
      rw [List.map_singleton, List.mem_singleton] at hpk'
      rw [hpk']
      exact hnew _ _ _ _ hsession hvalid key hkey
  | sign hsession hkey hvalid =>
      refine nodup_update h ?_ accountName
      rw [FirstMatch.map_update fun k => SecurityKeyData.publicKey_setCounter k _]
      exact h _
  | remove accountName' publicKey =>
      refine nodup_update h ?_ accountName
      exact (h accountName').sublist ((List.eraseP_sublist).map _)

/-! ### What removal means -/

/-- After the removal of a key: the keys of other public keys stay, in their order, and so do the
other accounts. -/
theorem removeSecurityKey_kept (store : MemoryDataStore Cert) (accountName : String)
    (publicKey : Bytes) :
    ((store.removeSecurityKey accountName publicKey).getSecurityKeyData accountName).filter
        (fun key => !hasPublicKey publicKey key) =
      (store.getSecurityKeyData accountName).filter (fun key => !hasPublicKey publicKey key) ∧
    ∀ a, a ≠ accountName → (store.removeSecurityKey accountName publicKey).getSecurityKeyData a =
      store.getSecurityKeyData a := by
  rw [getSecurityKeyData_removeSecurityKey, Function.update_self]
  exact ⟨FirstMatch.filter_not_eraseP _, fun a ha => Function.update_of_ne ha _ _⟩

/-- **After the removal of a key no entry of it is left**, if there is one entry for each key. -/
theorem removeSecurityKey_gone {store : MemoryDataStore Cert} (h : store.OneEntryPerKey)
    (accountName : String) (publicKey : Bytes) :
    ∀ key ∈ (store.removeSecurityKey accountName publicKey).getSecurityKeyData accountName,
      key.publicKey ≠ publicKey := by
  rw [getSecurityKeyData_removeSecurityKey, Function.update_self]
  have hnone := FirstMatch.find?_eraseP_eq_none (p := hasPublicKey publicKey) (h accountName)
    fun x y hx hy => by simp_all [hasPublicKey]
  intro key hkey
  simpa [hasPublicKey] using List.find?_eq_none.1 hnone key hkey

/-- The sessions that `getSignRequest` offers are for the keys that the account has. -/
theorem getSignRequest_offers {issued : List (SessionKind × String)}
    {store : MemoryDataStore Cert} (h : store.Tracks server.sessionIdGenerator issued)
    (accountName appId : String) (challenge : Bytes) :
    ∃ request, server.machine.reply store (.getSignRequest accountName appId challenge) =
        .ok (.signRequest request) ∧
      ∀ registeredKey ∈ request.registeredKeys, ∃ session,
        (server.machine.next store (.getSignRequest accountName appId challenge)).getSessionData
          (some registeredKey.sessionId) = some (.sign session) ∧
        ∃ key ∈ store.getSecurityKeyData accountName, session.publicKey = key.publicKey := by
  obtain ⟨registeredKeys, hr, -, hs⟩ :=
    server.step_getSignRequest store accountName appId challenge
  refine ⟨_, hr, fun registeredKey hmem => ?_⟩
  obtain ⟨key, hkey, hoffer⟩ := Traverse.exists_of_forall₂_right (hs _ h).2.2 hmem
  exact ⟨_, hoffer.session, key, hkey, rfl⟩

/-- The lists of keys are sound: one entry for each key, so that after the removal of a key no
entry of it is left and it is not offered any more, and the other entries stay. -/
structure KeysSound (store : MemoryDataStore Cert) : Prop where
  one : store.OneEntryPerKey
  gone : ∀ accountName publicKey, ∀ key ∈ (server.machine.next store
      (.removeSecurityKey accountName publicKey)).getSecurityKeyData accountName,
    key.publicKey ≠ publicKey
  notOffered : ∀ accountName publicKey appId challenge,
    let removed := server.machine.next store (.removeSecurityKey accountName publicKey)
    ∃ request, server.machine.reply removed (.getSignRequest accountName appId challenge) =
        .ok (.signRequest request) ∧
      ∀ registeredKey ∈ request.registeredKeys, ∃ session,
        (server.machine.next removed (.getSignRequest accountName appId challenge)).getSessionData
          (some registeredKey.sessionId) = some (.sign session) ∧
        session.publicKey ≠ publicKey
  kept : ∀ accountName publicKey,
    let removed := server.machine.next store (.removeSecurityKey accountName publicKey)
    (removed.getSecurityKeyData accountName).filter (fun key => !hasPublicKey publicKey key) =
        (store.getSecurityKeyData accountName).filter (fun key => !hasPublicKey publicKey key) ∧
      ∀ a, a ≠ accountName → removed.getSecurityKeyData a = store.getSecurityKeyData a

theorem keysSound_of_oneEntryPerKey {issued : List (SessionKind × String)}
    {store : MemoryDataStore Cert} (htracks : store.Tracks server.sessionIdGenerator issued)
    (h : store.OneEntryPerKey) : server.KeysSound store where
  one := h
  gone accountName publicKey := removeSecurityKey_gone h accountName publicKey
  notOffered accountName publicKey appId challenge := by
    have htracks' := (server.tracks_step htracks (.removeSecurityKey accountName publicKey)).2
    obtain ⟨request, hr, hoffers⟩ :=
      server.getSignRequest_offers htracks' accountName appId challenge
    refine ⟨request, hr, fun registeredKey hmem => ?_⟩
    obtain ⟨session, hsession, key, hkey, hpk⟩ := hoffers registeredKey hmem
    exact ⟨session, hsession, hpk ▸ removeSecurityKey_gone h accountName publicKey key hkey⟩
  kept accountName publicKey := removeSecurityKey_kept store accountName publicKey

/-! ### Runs -/

theorem oneEntryPerKey_new {Cert : Type} :
    (MemoryDataStore.new : MemoryDataStore Cert).OneEntryPerKey :=
  fun _ => List.nodup_nil

/-- A registration of a key that the account has already makes a second entry for it. -/
theorem not_oneEntryPerKey_of_not_registersNewKey {store : MemoryDataStore Cert}
    {operation : Operation} (hnew : ¬ server.RegistersNewKey store operation) :
    ¬ (server.machine.next store operation).OneEntryPerKey := by
  cases operation with
  | processRegistrationResponse response time =>
      simp only [RegistersNewKey, not_forall, not_not] at hnew
      obtain ⟨session, clientData, message, transports, hsession, hvalid, key, hkey, hpk⟩ := hnew
      have hn := (server.step_of_validRegistrationResponse hsession hvalid time).2
      intro h
      have hnodup := h session.accountName
      rw [hn, getSecurityKeyData_addSecurityKeyData, Function.update_self, List.map_append] at hnodup
      exact (List.nodup_append.1 hnodup).2.2 _ (List.mem_map_of_mem hkey) _
        (List.mem_singleton_self _) hpk
  | _ => exact absurd trivial hnew

/-- **The lists of keys are sound at every point of a run exactly when every registration of the
run is of a key that its account does not have yet.** -/
theorem keysSound_iff_registersNewKey (operations : List Operation) :
    server.machine.Always server.KeysSound MemoryDataStore.new operations ↔
      server.machine.AllSteps server.RegistersNewKey MemoryDataStore.new operations := by
  constructor
  · intro h
    by_contra hnot
    obtain ⟨before, operation, after, rfl, -, hfail⟩ := Machine.not_allSteps hnot
    have hsound := h (before ++ [operation]) ⟨after, by simp⟩
    rw [Machine.exec_concat] at hsound
    exact server.not_oneEntryPerKey_of_not_registersNewKey hfail hsound.one
  · intro h before hbefore
    refine server.keysSound_of_oneEntryPerKey (server.tracks_exec before) ?_
    exact Machine.exec_invariant (fun s e hs he => server.oneEntryPerKey_step hs he)
      (Machine.allSteps_initial h hbefore) oneEntryPerKey_new

/-! ### A registration that is replayed -/

section Replay

open TestVectors

/-- The registration of a key, and the same registration once more. -/
def replayedRegistration (encoded : Bytes) : List Operation :=
  [registrationRequestOp, registrationOp encoded KEY_HANDLE USER_PUBLIC_KEY_ENROLL firstSessionId 0,
    registrationOp encoded KEY_HANDLE USER_PUBLIC_KEY_ENROLL firstSessionId 1]

/-- The registration is accepted whatever keys have been added since its request. -/
theorem step_registrationOp_KEY_HANDLE (encoded : Bytes) {store : MemoryDataStore Certificate}
    (hsession : store.getSessionData = requestedStore.getSessionData) (time : Int64) :
    (testServer encoded).machine.reply store
        (registrationOp encoded KEY_HANDLE USER_PUBLIC_KEY_ENROLL firstSessionId time) =
        .ok (.securityKeyData (newKey KEY_HANDLE USER_PUBLIC_KEY_ENROLL time)) ∧
      (testServer encoded).machine.next store
        (registrationOp encoded KEY_HANDLE USER_PUBLIC_KEY_ENROLL firstSessionId time) =
        store.addSecurityKeyData ACCOUNT_NAME (newKey KEY_HANDLE USER_PUBLIC_KEY_ENROLL time) :=
  step_registrationOp encoded
    ((congrFun hsession (some firstSessionId)).trans getSessionData_requestedStore) rfl
    length_USER_PUBLIC_KEY_ENROLL length_KEY_HANDLE_le time

/-- Both registrations add an entry. -/
theorem exec_replayedRegistration (encoded : Bytes) :
    (testServer encoded).machine.exec .new (replayedRegistration encoded) =
      (requestedStore.addSecurityKeyData ACCOUNT_NAME
        (newKey KEY_HANDLE USER_PUBLIC_KEY_ENROLL 0)).addSecurityKeyData ACCOUNT_NAME
          (newKey KEY_HANDLE USER_PUBLIC_KEY_ENROLL 1) := by
  have h₀ : (testServer encoded).machine.next .new registrationRequestOp = requestedStore := rfl
  rw [replayedRegistration, Machine.exec_cons, Machine.exec_cons, Machine.exec_cons,
    Machine.exec_nil, h₀, (step_registrationOp_KEY_HANDLE encoded rfl 0).2,
    (step_registrationOp_KEY_HANDLE encoded (getSessionData_addSecurityKeyData _ _ _) 1).2]

theorem getSecurityKeyData_requestedStore (accountName : String) :
    requestedStore.getSecurityKeyData accountName = [] := rfl

/-- Whatever the certificate is, the two entries are of one key. -/
theorem not_oneEntryPerKey_replayedRegistration (encoded : Bytes) :
    ¬ ((testServer encoded).machine.exec .new (replayedRegistration encoded)).OneEntryPerKey := by
  intro h
  have hone := h ACCOUNT_NAME
  rw [exec_replayedRegistration, getSecurityKeyData_addSecurityKeyData, Function.update_self,
    getSecurityKeyData_addSecurityKeyData, Function.update_self,
    getSecurityKeyData_requestedStore] at hone
  exact (List.nodup_cons.1 hone).1 (List.mem_singleton_self _)

/-- A server that processes one registration twice has two entries for its key. -/
theorem not_keysSound_of_replayedRegistration :
    ¬ (testServer (parseHex VENDOR_CERTIFICATE_HEX)).machine.Always
      (testServer (parseHex VENDOR_CERTIFICATE_HEX)).KeysSound .new
      (replayedRegistration (parseHex VENDOR_CERTIFICATE_HEX)) :=
  fun h => not_oneEntryPerKey_replayedRegistration _ (h _ (List.prefix_refl _)).one

end Replay

end U2FServerReferenceImpl

end U2F
