/-
**Counters, and what they protect.**

A sign response is accepted when its counter is greater than the counter of the first entry of the
session's key, and that counter is then set to it.  So the counter of the first entry goes up as
long as the entry is there; a removal that uncovers an older entry of the same key brings an old
counter back.  Session ids are no protection: a session is never used up.

Main definitions:

* `MemoryDataStore.firstCounter` — the counter that a sign response for a key is compared with;
* `U2FServerReferenceImpl.AcceptsSign` — a sign response is accepted, for a key, with a counter;
* `U2FServerReferenceImpl.CountersIncrease` — accepted counters strictly increase;
* `U2FServerReferenceImpl.UncoversNoOlder` — the operation uncovers no entry with a smaller counter.

Main results:

* `U2FServerReferenceImpl.firstCounter_step` — the step lemma;
* `U2FServerReferenceImpl.countersIncrease_of_uncoversNoOlder` — **accepted counters strictly
  increase in every run whose removals uncover no smaller counter**;
* `U2FServerReferenceImpl.sessions_reusable` — what holds of the responses for one session.
-/

import U2F.Server.Keys

set_option relaxedAutoImplicit false
set_option autoImplicit false

namespace U2F

open MemoryDataStore

namespace MemoryDataStore

variable {Cert : Type}

/-- The counter of the first entry of a key. -/
def firstCounter (store : MemoryDataStore Cert) (accountName : String) (publicKey : Bytes) :
    Option Int32 :=
  ((store.getSecurityKeyData accountName).find? (hasPublicKey publicKey)).map (·.counter)

/-- The account has an entry for the key. -/
def HasEntry (store : MemoryDataStore Cert) (accountName : String) (publicKey : Bytes) : Prop :=
  ∃ key ∈ store.getSecurityKeyData accountName, key.publicKey = publicKey

theorem hasEntry_iff {store : MemoryDataStore Cert} {accountName : String} {publicKey : Bytes} :
    store.HasEntry accountName publicKey ↔ ∃ c, store.firstCounter accountName publicKey = some c := by
  constructor
  · rintro ⟨key, hkey, hpk⟩
    have hsome : ((store.getSecurityKeyData accountName).find? (hasPublicKey publicKey)).isSome :=
      List.find?_isSome.2 ⟨key, hkey, by simpa [hasPublicKey] using hpk⟩
    obtain ⟨first, hfirst⟩ := Option.isSome_iff_exists.1 hsome
    exact ⟨first.counter, by rw [firstCounter, hfirst]; rfl⟩
  · rintro ⟨c, hc⟩
    obtain ⟨key, hkey, -⟩ := Option.map_eq_some_iff.1 hc
    exact ⟨key, List.mem_of_find?_eq_some hkey, by simpa [hasPublicKey] using List.find?_some hkey⟩

end MemoryDataStore

namespace U2FServerReferenceImpl

variable {Cert PublicKey : Type} [DecidableEq Cert] (server : U2FServerReferenceImpl Cert PublicKey)

/-! ### The counter of the first entry -/

/-- A key with one public key has not another one. -/
theorem not_hasPublicKey_of_ne {Cert : Type} {pk pk' : Bytes} (h : pk ≠ pk')
    {key : SecurityKeyData Cert} (hkey : hasPublicKey pk' key) : ¬ hasPublicKey pk key := by
  intro hkey'
  simp only [hasPublicKey, decide_eq_true_eq] at hkey hkey'
  exact h (hkey'.symm.trans hkey)

/-- The first entry of a key, when the counter of a key has been set. -/
theorem find?_setCounter {Cert : Type} (keys : List (SecurityKeyData Cert)) (pk : Bytes)
    (c : Int32) :
    (FirstMatch.update (hasPublicKey pk) (·.setCounter c) keys).find? (hasPublicKey pk) =
      (keys.find? (hasPublicKey pk)).map (·.setCounter c) :=
  FirstMatch.find?_update (f := (·.setCounter c)) (fun _ hx => hx) keys

theorem find?_setCounter_of_ne {Cert : Type} {pk pk' : Bytes} (h : pk ≠ pk')
    (keys : List (SecurityKeyData Cert)) (c : Int32) :
    (FirstMatch.update (hasPublicKey pk') (·.setCounter c) keys).find? (hasPublicKey pk) =
      keys.find? (hasPublicKey pk) :=
  FirstMatch.find?_update_of_not (p := hasPublicKey pk') (q := hasPublicKey pk)
    (f := (·.setCounter c))
    (fun _ hx => ⟨not_hasPublicKey_of_ne h hx, not_hasPublicKey_of_ne h hx⟩) keys

/-- **The step lemma.**  The counter of the first entry of a key goes up as long as there is one,
unless the operation removes the entry. -/
theorem firstCounter_step {store : MemoryDataStore Cert} {accountName : String}
    {publicKey : Bytes} {c : Int32} (h : store.firstCounter accountName publicKey = some c)
    (operation : Operation) :
    operation = .removeSecurityKey accountName publicKey ∨
      ∃ c', (server.machine.next store operation).firstCounter accountName publicKey = some c' ∧
        c ≤ c' := by
  have hstep := server.keysStep store operation
  generalize hk : (server.machine.next store operation).getSecurityKeyData = keys at hstep
  obtain ⟨first, hfirst, rfl⟩ := Option.map_eq_some_iff.1 h
  rw [firstCounter, hk]
  cases hstep with
  | same => exact .inr ⟨_, by rw [hfirst]; rfl, Int32.le_refl _⟩
  | @register _ _ session =>
      refine .inr ⟨first.counter, ?_, Int32.le_refl _⟩
      by_cases ha : accountName = session.accountName
      · subst ha
        -- a key added behind the first entry
        rw [Function.update_self, FirstMatch.find?_append_of_some hfirst]
        rfl
      · rw [Function.update_of_ne ha, hfirst]
        rfl
  | @sign _ session key _ message _ hkey hvalid =>
      by_cases ha : accountName = session.accountName
      · subst ha
        rw [Function.update_self]
        by_cases hpk : publicKey = session.publicKey
        · subst hpk
          -- the response is for this key, whose first entry it checked
          obtain rfl : first = key := Option.some.inj (hfirst.symm.trans hkey)
          rw [find?_setCounter, hfirst]
          exact .inr ⟨_, rfl, Int32.le_of_lt hvalid.greater⟩
        · rw [find?_setCounter_of_ne hpk, hfirst]
          exact .inr ⟨_, rfl, Int32.le_refl _⟩
      · rw [Function.update_of_ne ha, hfirst]
        exact .inr ⟨_, rfl, Int32.le_refl _⟩
  | remove accountName' publicKey' =>
      by_cases ha : accountName = accountName'
      · subst ha
        by_cases hpk : publicKey = publicKey'
        · subst hpk
          exact .inl rfl
        · rw [Function.update_self,
            FirstMatch.find?_eraseP_of_not (fun x hx => not_hasPublicKey_of_ne hpk hx), hfirst]
          exact .inr ⟨_, rfl, Int32.le_refl _⟩
      · rw [Function.update_of_ne ha, hfirst]
        exact .inr ⟨_, rfl, Int32.le_refl _⟩

/-- A removal uncovers the second entry of the key, if there is one. -/
theorem firstCounter_removeSecurityKey (store : MemoryDataStore Cert) (accountName : String)
    (publicKey : Bytes) :
    (store.removeSecurityKey accountName publicKey).firstCounter accountName publicKey =
      ((store.getSecurityKeyData accountName).filter (hasPublicKey publicKey)).tail.head?.map
        (·.counter) := by
  rw [firstCounter, getSecurityKeyData_removeSecurityKey, Function.update_self,
    FirstMatch.find?_eraseP]

/-! ### Accepted sign responses -/

/-- A sign response is accepted for a key of an account, with the counter it carries. -/
structure AcceptsSign (store : MemoryDataStore Cert) (response : SignResponse)
    (accountName : String) (publicKey : Bytes) (counter : Int32) : Prop where
  accepted : ∃ key,
    server.machine.reply store (.processSignResponse response) = .ok (.securityKeyData key)
  session : ∃ session, store.getSignSessionData response.sessionId = .ok (some session) ∧
    session.accountName = accountName ∧ session.publicKey = publicKey
  carries : ∃ message, server.SignMessage response message ∧ message.counter = counter

omit [DecidableEq Cert] in
theorem signMessage_unique {response : SignResponse} {m m' : AuthenticateResponse}
    (h : server.SignMessage response m) (h' : server.SignMessage response m') : m = m' := by
  obtain ⟨raw, hraw, hm⟩ := h
  obtain ⟨raw', hraw', hm'⟩ := h'
  obtain rfl : raw = raw' := Except.ok.inj (hraw.symm.trans hraw')
  exact Except.ok.inj (hm.symm.trans hm')

variable {server}

/-- An accepted counter is greater than the one before it, and is the one after it. -/
theorem AcceptsSign.firstCounter {store : MemoryDataStore Cert} {response : SignResponse}
    {accountName : String} {publicKey : Bytes} {counter : Int32}
    (h : server.AcceptsSign store response accountName publicKey counter) :
    (∃ c, store.firstCounter accountName publicKey = some c ∧ c < counter) ∧
      (server.machine.next store (.processSignResponse response)).firstCounter accountName
        publicKey = some counter := by
  obtain ⟨⟨k, hk⟩, ⟨session, hsession, rfl, rfl⟩, ⟨message, hmessage, rfl⟩⟩ := h
  rcases server.step_processSignResponse store response with
    ⟨session', key, _, message', hsession', hkey, hvalid, -, hn⟩ | ⟨⟨e, he⟩, -⟩
  · obtain rfl : session = session' :=
      Option.some.inj (Except.ok.inj (hsession.symm.trans hsession'))
    obtain rfl := server.signMessage_unique hmessage hvalid.carries
    refine ⟨⟨key.counter, by rw [MemoryDataStore.firstCounter, hkey]; rfl, hvalid.greater⟩, ?_⟩
    rw [hn, MemoryDataStore.firstCounter, getSecurityKeyData_updateSecurityKeyCounter,
      Function.update_self, publicKey_of_find? hkey, find?_setCounter, hkey]
    rfl
  · cases hk.symm.trans he

/-! ### Runs -/

variable (server)

/-- The operation uncovers no entry of a key with a smaller counter: the second entry of the key
that it removes, if there is one, has at least the counter of the first. -/
def UncoversNoOlder (store : MemoryDataStore Cert) : Operation → Prop
  | .removeSecurityKey accountName publicKey => ∀ key key' rest,
      (store.getSecurityKeyData accountName).filter (hasPublicKey publicKey) = key :: key' :: rest →
        key.counter ≤ key'.counter
  | _ => True

omit [DecidableEq Cert] in
theorem uncoversNoOlder_remove {store : MemoryDataStore Cert} {accountName : String}
    {publicKey : Bytes} {c c' : Int32}
    (h : UncoversNoOlder store (.removeSecurityKey accountName publicKey))
    (hc : store.firstCounter accountName publicKey = some c)
    (hc' : ((store.getSecurityKeyData accountName).filter
      (hasPublicKey publicKey)).tail.head?.map (·.counter) = some c') : c ≤ c' := by
  rw [firstCounter, ← List.head?_filter] at hc
  generalize hkeys : (store.getSecurityKeyData accountName).filter (hasPublicKey publicKey) = keys
    at hc hc'
  rcases keys with _ | ⟨key, _ | ⟨key', rest⟩⟩
  · simp at hc
  · simp at hc'
  · obtain rfl : key.counter = c := by simpa using hc
    obtain rfl : key'.counter = c' := by simpa using hc'
    exact h key key' rest hkeys

/-- **The run lemma.**  From a state in which a key has a counter, the counter goes up as long as
the account has an entry for the key. -/
theorem firstCounter_exec {store : MemoryDataStore Cert} {operations : List Operation}
    {accountName : String} {publicKey : Bytes} {c : Int32}
    (h : store.firstCounter accountName publicKey = some c)
    (hG : server.machine.AllSteps UncoversNoOlder store operations)
    (hentry : ∀ before, before <+: operations →
      (server.machine.exec store before).HasEntry accountName publicKey) :
    ∃ c', (server.machine.exec store operations).firstCounter accountName publicKey = some c' ∧
      c ≤ c' := by
  induction operations using List.reverseRecOn with
  | nil => exact ⟨c, h, Int32.le_refl c⟩
  | append_singleton operations operation ih =>
      rw [Machine.allSteps_append] at hG
      obtain ⟨c₁, hc₁, hle⟩ := ih hG.1 fun before hbefore =>
        hentry before (hbefore.trans (List.prefix_append _ _))
      obtain ⟨c₂, hc₂⟩ := hasEntry_iff.1 (hentry _ (List.prefix_refl _))
      rw [Machine.exec_concat] at hc₂ ⊢
      refine ⟨c₂, hc₂, Int32.le_trans hle ?_⟩
      rcases server.firstCounter_step hc₁ operation with rfl | ⟨c₃, hc₃, hle₃⟩
      · refine uncoversNoOlder_remove hG.2.1 hc₁ ?_
        rw [← firstCounter_removeSecurityKey]
        exact hc₂
      · obtain rfl : c₂ = c₃ := Option.some.inj (hc₂.symm.trans hc₃)
        exact hle₃

/-- Between two sign responses accepted for a key, with an entry for the key at every point in
between, the counter strictly increases. -/
def CountersIncrease (operations : List Operation) : Prop :=
  ∀ before response between response' after accountName publicKey c c',
    operations = before ++ .processSignResponse response ::
      (between ++ .processSignResponse response' :: after) →
    server.AcceptsSign (server.machine.exec .new before) response accountName publicKey c →
    server.AcceptsSign (server.machine.exec .new (before ++ .processSignResponse response :: between))
      response' accountName publicKey c' →
    (∀ mid, mid <+: between → (server.machine.exec .new
      (before ++ .processSignResponse response :: mid)).HasEntry accountName publicKey) →
    c < c'

/-- **Counters only go up in every run whose removals uncover no smaller counter**; so no sign
response is accepted twice. -/
theorem countersIncrease_of_uncoversNoOlder {operations : List Operation}
    (h : server.machine.AllSteps UncoversNoOlder .new operations) :
    server.CountersIncrease operations := by
  rintro before response between response' after accountName publicKey c c' rfl hfirst hsecond
    hentry
  simp only [Machine.allSteps_append, Machine.allSteps_cons] at h
  obtain ⟨-, -, hbetween, -⟩ := h
  simp only [Machine.exec_append, Machine.exec_cons] at hsecond hentry
  obtain ⟨c₁, hc₁, hle⟩ := server.firstCounter_exec hfirst.firstCounter.2 hbetween hentry
  obtain ⟨⟨c₂, hc₂, hlt⟩, -⟩ := hsecond.firstCounter
  obtain rfl : c₁ = c₂ := Option.some.inj (hc₁.symm.trans hc₂)
  exact Int32.lt_of_le_of_lt hle hlt

/-! ### Sessions are not used up -/

/-- Without a removal of the key, its counter goes up. -/
theorem firstCounter_exec_of_not_removed {store : MemoryDataStore Cert}
    {operations : List Operation} {accountName : String} {publicKey : Bytes} {c : Int32}
    (h : store.firstCounter accountName publicKey = some c)
    (hremove : .removeSecurityKey accountName publicKey ∉ operations) :
    ∃ c', (server.machine.exec store operations).firstCounter accountName publicKey = some c' ∧
      c ≤ c' := by
  have hsteps : server.machine.AllSteps
      (fun _ operation => operation ≠ .removeSecurityKey accountName publicKey) store operations := by
    refine Machine.allSteps_of_forall_mem ?_ store
    rintro _ hmem _ rfl
    exact hremove hmem
  refine Machine.exec_invariant
    (I := fun s => ∃ c', s.firstCounter accountName publicKey = some c' ∧ c ≤ c') ?_ hsteps
    ⟨c, h, Int32.le_refl c⟩
  rintro s operation ⟨c₁, hc₁, hle⟩ hne
  obtain ⟨c₂, hc₂, hle₂⟩ := (server.firstCounter_step hc₁ operation).resolve_left hne
  exact ⟨c₂, hc₂, Int32.le_trans hle hle₂⟩

/-- **A session stays as it is for the rest of a run, and is not used up.**  A registration
response that is accepted is accepted again at any later point; of two sign responses that are
accepted for one session, with no removal of the key in between, the second has the greater
counter. -/
theorem sessions_reusable (before after : List Operation) :
    (server.machine.exec .new before).Extends (server.machine.exec .new (before ++ after)) ∧
    (∀ response time time',
      server.Accepts (server.machine.exec .new before)
        (.processRegistrationResponse response time) →
      server.Accepts (server.machine.exec .new (before ++ after))
        (.processRegistrationResponse response time')) ∧
    ∀ response response' accountName publicKey accountName' publicKey' c c',
      response'.sessionId = response.sessionId →
      server.AcceptsSign (server.machine.exec .new before) response accountName publicKey c →
      server.AcceptsSign (server.machine.exec .new (before ++ .processSignResponse response :: after))
        response' accountName' publicKey' c' →
      .removeSecurityKey accountName publicKey ∉ after →
      accountName' = accountName ∧ publicKey' = publicKey ∧ c < c' := by
  refine ⟨server.extends_exec before after, ?_, ?_⟩
  · intro response time time' haccepts
    rcases server.step_processRegistrationResponse (server.machine.exec .new before) response time
      with ⟨session, _, message, transports, hsession, hvalid, -⟩ | ⟨⟨e, he⟩, -⟩
    · obtain ⟨data, hdata, hdata'⟩ := getEnrollSessionData_eq_some_iff.1 hsession
      have hlater := getEnrollSessionData_eq_some_iff.2
        ⟨data, (server.extends_exec before after).getSessionData hdata, hdata'⟩
      exact ⟨_, (server.step_of_validRegistrationResponse hlater hvalid time').1⟩
    · exact absurd haccepts (server.not_accepts_of_error he)
  · intro response response' accountName publicKey accountName' publicKey' c c' hid hfirst hsecond
      hremove
    obtain ⟨session, hsession, ha, hpk⟩ := hfirst.session
    obtain ⟨session', hsession', ha', hpk'⟩ := hsecond.session
    have hlater :=
      (server.extends_exec before (.processSignResponse response :: after)).getSessionData
        (getSignSessionData_eq_ok_iff.1 hsession)
    rw [hid, getSignSessionData_eq_ok_iff, hlater] at hsession'
    obtain rfl : session = session' := by simpa using hsession'
    subst ha hpk ha' hpk'
    refine ⟨rfl, rfl, ?_⟩
    rw [Machine.exec_append, Machine.exec_cons] at hsecond
    -- the counter after the first response, and at the second
    obtain ⟨c₁, hc₁, hle⟩ := server.firstCounter_exec_of_not_removed hfirst.firstCounter.2 hremove
    obtain ⟨⟨c₂, hc₂, hlt⟩, -⟩ := hsecond.firstCounter
    obtain rfl : c₁ = c₂ := Option.some.inj (hc₁.symm.trans hc₂)
    exact Int32.lt_of_le_of_lt hle hlt

/-- Each session id that the run issues is accepted at most once. -/
def SingleUse (operations : List Operation) : Prop :=
  ∀ kind id, (kind, id) ∈ server.issued .new operations →
    ∀ before operation between operation' after,
      operations = before ++ operation :: (between ++ operation' :: after) →
      operation.sessionId = some id → operation'.sessionId = some id →
      server.Accepts (server.machine.exec .new before) operation →
      ¬ server.Accepts (server.machine.exec .new (before ++ operation :: between)) operation'

/-- One registration response is accepted twice. -/
theorem not_singleUse_replayedRegistration (encoded : Bytes) :
    ¬ (TestVectors.testServer encoded).SingleUse (replayedRegistration encoded) := by
  intro h
  have hissued : (SessionKind.enroll, TestVectors.firstSessionId) ∈
      (TestVectors.testServer encoded).issued .new (replayedRegistration encoded) :=
    List.mem_flatMap.2 ⟨_, List.mem_cons_self, List.mem_singleton.2 rfl⟩
  obtain ⟨hr₁, hn₁⟩ := step_registrationOp_KEY_HANDLE encoded
    (rfl : TestVectors.requestedStore.getSessionData = TestVectors.requestedStore.getSessionData) 0
  obtain ⟨hr₂, -⟩ := step_registrationOp_KEY_HANDLE encoded (getSessionData_addSecurityKeyData
    TestVectors.requestedStore TestVectors.ACCOUNT_NAME (TestVectors.newKey TestVectors.KEY_HANDLE
      TestVectors.USER_PUBLIC_KEY_ENROLL 0)) 1
  rw [← hn₁] at hr₂
  exact h _ _ hissued [TestVectors.registrationRequestOp] _ [] _ [] rfl rfl rfl ⟨_, hr₁⟩ ⟨_, hr₂⟩

/-- The session of a registration is accepted twice. -/
theorem not_singleUse_of_replayedRegistration :
    ¬ (TestVectors.testServer (TestVectors.parseHex TestVectors.VENDOR_CERTIFICATE_HEX)).SingleUse
      (replayedRegistration (TestVectors.parseHex TestVectors.VENDOR_CERTIFICATE_HEX)) :=
  not_singleUse_replayedRegistration _

/-! ### A registration that brings an old counter back -/

section Replay

open TestVectors

variable (encoded : Bytes)

/-- The key of the tests, registered with the session of its request. -/
def registeredStore : MemoryDataStore Certificate :=
  requestedStore.addSecurityKeyData ACCOUNT_NAME (newKey KEY_HANDLE USER_PUBLIC_KEY_ENROLL 0)

/-- A sign request after that. -/
def offeredStore : MemoryDataStore Certificate :=
  (registeredStore.storeSessionData httpSessionIdGenerator
    (.sign ⟨SESSION, USER_PUBLIC_KEY_ENROLL⟩)).2

theorem getSecurityKeyData_offeredStore :
    offeredStore.getSecurityKeyData ACCOUNT_NAME = [newKey KEY_HANDLE USER_PUBLIC_KEY_ENROLL 0] := by
  rw [offeredStore, getSecurityKeyData_storeSessionData, registeredStore,
    getSecurityKeyData_addSecurityKeyData, Function.update_self]
  rfl

theorem getSessionData_offeredStore :
    offeredStore.getSessionData (some secondSessionId) =
        some (.sign ⟨SESSION, USER_PUBLIC_KEY_ENROLL⟩) ∧
      offeredStore.getSessionData (some firstSessionId) = some (.enroll SESSION) := by
  refine ⟨getSessionData_storeSessionData _ _ _, ?_⟩
  have hne : some firstSessionId ≠ some secondSessionId := fun h =>
    absurd (httpSessionIdGenerator.fresh (Option.some.inj h)) (by omega)
  exact (getSessionData_storeSessionData_of_ne _ hne).trans getSessionData_requestedStore

theorem exec_offeredStore :
    (testServer encoded).machine.exec .new
        [registrationRequestOp,
          registrationOp encoded KEY_HANDLE USER_PUBLIC_KEY_ENROLL firstSessionId 0,
          signRequestOp] = offeredStore := by
  have hkeys : registeredStore.getSecurityKeyData ACCOUNT_NAME =
      [newKey KEY_HANDLE USER_PUBLIC_KEY_ENROLL 0] := getSecurityKeyData_offeredStore
  rw [Machine.exec_cons, next_registrationRequestOp, ← requestedStore, Machine.exec_cons,
    (step_registrationOp_KEY_HANDLE encoded rfl 0).2, Machine.exec_cons, Machine.exec_nil]
  exact (next_signRequestOp encoded hkeys).trans (by rw [publicKey_newKey, offeredStore])

/-- A sign response for the key of the tests is accepted, and sets the counter of the first entry,
if its counter is greater. -/
theorem acceptsSign_signOp {store : MemoryDataStore Certificate} {key : SecurityKeyData Certificate}
    {rest : List (SecurityKeyData Certificate)} (counter : Int32)
    (hsession : store.getSessionData = offeredStore.getSessionData)
    (hkeys : store.getSecurityKeyData ACCOUNT_NAME = key :: rest)
    (hpk : key.publicKey = USER_PUBLIC_KEY_ENROLL) (hcounter : key.counter < counter) :
    (testServer encoded).AcceptsSign store (signResponse encoded secondSessionId counter)
        ACCOUNT_NAME USER_PUBLIC_KEY_ENROLL counter ∧
      ((testServer encoded).machine.next store
        (signOp encoded secondSessionId counter)).getSessionData = offeredStore.getSessionData ∧
      ((testServer encoded).machine.next store
        (signOp encoded secondSessionId counter)).getSecurityKeyData ACCOUNT_NAME =
          key.setCounter counter :: rest := by
  have hstored : store.getSessionData (some secondSessionId) =
      some (.sign ⟨SESSION, USER_PUBLIC_KEY_ENROLL⟩) :=
    (congrFun hsession _).trans getSessionData_offeredStore.1
  rw [← hpk] at hstored ⊢
  have hhas : hasPublicKey key.publicKey key = true := decide_eq_true rfl
  have hfind : (store.getSecurityKeyData ACCOUNT_NAME).find? (hasPublicKey key.publicKey) =
      some key := by rw [hkeys, List.find?_cons_of_pos hhas]
  have hsign : store.getSignSessionData (some secondSessionId) =
      .ok (some ⟨SESSION, key.publicKey⟩) := by rw [getSignSessionData, hstored]
  obtain ⟨hr, hn⟩ := step_signOp encoded hstored hfind hcounter
  rw [hn]
  refine ⟨⟨⟨_, hr⟩, ⟨_, hsign, rfl, rfl⟩,
    ⟨_, (valid_signResponse encoded secondSessionId hcounter).carries, rfl⟩⟩, hsession, ?_⟩
  rw [getSecurityKeyData_updateSecurityKeyCounter, Function.update_self, hkeys, FirstMatch.update,
    if_pos hhas]

/-- A registration, a sign request and two responses to it, and the removal of the key. -/
def signedTwice : List Operation :=
  [registrationRequestOp, registrationOp encoded KEY_HANDLE USER_PUBLIC_KEY_ENROLL firstSessionId 0,
    signRequestOp] ++ [signOp encoded secondSessionId 5, signOp encoded secondSessionId 7,
    .removeSecurityKey ACCOUNT_NAME USER_PUBLIC_KEY_ENROLL]

theorem uncoversNoOlder_of_singleton {store : MemoryDataStore Certificate}
    {key : SecurityKeyData Certificate} {accountName : String} (publicKey : Bytes)
    (hkeys : store.getSecurityKeyData accountName = [key]) :
    UncoversNoOlder store (.removeSecurityKey accountName publicKey) := by
  intro key₁ key₂ rest hfilter
  have hlength := List.length_filter_le (hasPublicKey publicKey) [key]
  rw [hkeys] at hfilter
  rw [hfilter] at hlength
  simp at hlength

theorem uncoversNoOlder_signedTwice :
    (testServer encoded).machine.AllSteps UncoversNoOlder .new (signedTwice encoded) := by
  rw [signedTwice, Machine.allSteps_append, exec_offeredStore]
  obtain ⟨-, hsession, hkeys⟩ := acceptsSign_signOp encoded 5 rfl
    getSecurityKeyData_offeredStore (by simp) (by decide)
  obtain ⟨-, -, hkeys⟩ := acceptsSign_signOp encoded 7 hsession hkeys (by simp) (by decide)
  exact ⟨⟨trivial, trivial, trivial, trivial⟩, trivial, trivial,
    uncoversNoOlder_of_singleton _ hkeys, trivial⟩

/-- Both responses are accepted, the second with the greater counter. -/
theorem countersIncrease_signedTwice :
    (testServer (parseHex VENDOR_CERTIFICATE_HEX)).CountersIncrease
      (signedTwice (parseHex VENDOR_CERTIFICATE_HEX)) :=
  countersIncrease_of_uncoversNoOlder _ (uncoversNoOlder_signedTwice _)

/-- A sign response that is sent again after the registration has been sent again, and the older
entry of the key removed. -/
def replayedSign : List Operation :=
  [registrationRequestOp, registrationOp encoded KEY_HANDLE USER_PUBLIC_KEY_ENROLL firstSessionId 0,
    signRequestOp] ++ signOp encoded secondSessionId 5 ::
    ([registrationOp encoded KEY_HANDLE USER_PUBLIC_KEY_ENROLL firstSessionId 1,
      .removeSecurityKey ACCOUNT_NAME USER_PUBLIC_KEY_ENROLL] ++ signOp encoded secondSessionId 5 :: [])

/-- What the replayed registration and the removal leave. -/
theorem exec_replayedSign_between {store : MemoryDataStore Certificate}
    {key : SecurityKeyData Certificate}
    (hsession : store.getSessionData = offeredStore.getSessionData)
    (hkeys : store.getSecurityKeyData ACCOUNT_NAME = [key])
    (hpk : key.publicKey = USER_PUBLIC_KEY_ENROLL) :
    let registered := (testServer encoded).machine.next store
      (registrationOp encoded KEY_HANDLE USER_PUBLIC_KEY_ENROLL firstSessionId 1)
    let removed := (testServer encoded).machine.next registered
      (.removeSecurityKey ACCOUNT_NAME USER_PUBLIC_KEY_ENROLL)
    registered.getSecurityKeyData ACCOUNT_NAME =
        [key, newKey KEY_HANDLE USER_PUBLIC_KEY_ENROLL 1] ∧
      removed.getSessionData = offeredStore.getSessionData ∧
      removed.getSecurityKeyData ACCOUNT_NAME = [newKey KEY_HANDLE USER_PUBLIC_KEY_ENROLL 1] := by
  have hhas : hasPublicKey USER_PUBLIC_KEY_ENROLL key = true := decide_eq_true hpk
  have hstored : store.getSessionData (some firstSessionId) = some (.enroll SESSION) :=
    (congrFun hsession _).trans getSessionData_offeredStore.2
  have hn := (step_registrationOp encoded hstored rfl length_USER_PUBLIC_KEY_ENROLL
    length_KEY_HANDLE_le 1).2
  have hadded : (store.addSecurityKeyData ACCOUNT_NAME
      (newKey KEY_HANDLE USER_PUBLIC_KEY_ENROLL 1)).getSecurityKeyData ACCOUNT_NAME =
        [key, newKey KEY_HANDLE USER_PUBLIC_KEY_ENROLL 1] := by
    rw [getSecurityKeyData_addSecurityKeyData, Function.update_self, hkeys]
    rfl
  dsimp only
  rw [hn, next_removeSecurityKey]
  refine ⟨hadded, ?_, ?_⟩
  · rw [getSessionData_removeSecurityKey, getSessionData_addSecurityKeyData, hsession]
  · rw [getSecurityKeyData_removeSecurityKey, Function.update_self, hadded,
      List.eraseP_cons_of_pos hhas]

theorem not_countersIncrease_replayedSign :
    ¬ (testServer encoded).CountersIncrease (replayedSign encoded) := by
  intro h
  obtain ⟨hfirst, hsession, hkeys⟩ := acceptsSign_signOp encoded 5 rfl
    getSecurityKeyData_offeredStore (by simp) (by decide)
  obtain ⟨hkeys₁, hsession₂, hkeys₂⟩ := exec_replayedSign_between encoded hsession hkeys (by simp)
  obtain ⟨hsecond, -⟩ := acceptsSign_signOp encoded 5 hsession₂ hkeys₂ (by simp) (by decide)
  have hlt : (5 : Int32) < 5 := by
    refine h _ _ _ _ _ ACCOUNT_NAME USER_PUBLIC_KEY_ENROLL _ _ rfl ?_ ?_ ?_
    · rw [exec_offeredStore]
      exact hfirst
    · rw [Machine.exec_append, exec_offeredStore, Machine.exec_cons, Machine.exec_cons,
        Machine.exec_cons, Machine.exec_nil]
      exact hsecond
    · -- the key has an entry at each of the three points in between
      intro mid hmid
      rw [Machine.exec_append, exec_offeredStore, Machine.exec_cons]
      obtain rfl | ⟨mid₁, rfl, hmid₁⟩ := List.prefix_cons_iff.1 hmid
      · exact ⟨_, hkeys ▸ List.mem_cons_self, by simp⟩
      rw [Machine.exec_cons]
      obtain rfl | ⟨mid₂, rfl, hmid₂⟩ := List.prefix_cons_iff.1 hmid₁
      · exact ⟨_, hkeys₁ ▸ List.mem_cons_self, by simp⟩
      rw [Machine.exec_cons, List.prefix_nil.1 hmid₂]
      exact ⟨_, hkeys₂ ▸ List.mem_cons_self, by simp⟩
  exact absurd hlt (by decide)

/-- A sign response that is accepted twice, with an entry for its key all the time. -/
theorem not_countersIncrease_of_replayedSign :
    ¬ (testServer (parseHex VENDOR_CERTIFICATE_HEX)).CountersIncrease
      (replayedSign (parseHex VENDOR_CERTIFICATE_HEX)) :=
  not_countersIncrease_replayedSign _

end Replay

end U2FServerReferenceImpl

end U2F
