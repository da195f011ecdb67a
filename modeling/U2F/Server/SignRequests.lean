/-
**What a sign request offers.**

The loop of `getSignRequest` goes through three sequences in step: the keys that are stored for the
account, the entries that it returns, and the sessions that it stores.  Each session is stored under
an id of its own, that no session had before, so that those stored first are still there in the end.

Main definitions:

* `U2FServerReferenceImpl.OffersStored` — the keys of a list are offered one by one, and nothing but
  their sessions has been stored.

Main results:

* `U2FServerReferenceImpl.offersStored_mapM` — the loop offers the keys of its list;
* `U2FServerReferenceImpl.getSignRequest_offersStored` — **at every point of every run a sign
  request offers exactly the stored keys**;
* `U2FServerReferenceImpl.offersStored_securityKeyDataBase` — those that the data base has.
-/

import U2F.Server.Runs
import U2F.Server.TestVectors

set_option relaxedAutoImplicit false
set_option autoImplicit false

namespace U2F

open MemoryDataStore

namespace U2FServerReferenceImpl

variable {Cert PublicKey : Type} (server : U2FServerReferenceImpl Cert PublicKey)

/-! ### The loop -/

/-- The keys are offered one by one and in order, under new session ids that are all different, and
nothing but their sessions has been stored. -/
structure OffersStored (sessionData : EnrollSessionData) (store store' : MemoryDataStore Cert)
    (keys : List (SecurityKeyData Cert)) (registeredKeys : List RegisteredKey) : Prop where
  offers : List.Forall₂ (server.Offers sessionData store') keys registeredKeys
  nodup : (registeredKeys.map RegisteredKey.sessionId).Nodup
  fresh : ∀ registeredKey ∈ registeredKeys,
    store.sessionDataBase registeredKey.sessionId = none
  others : ∀ id, (∀ registeredKey ∈ registeredKeys, registeredKey.sessionId ≠ id) →
    store'.sessionDataBase id = store.sessionDataBase id

/-- One more key in front, whose session is stored first. -/
theorem OffersStored.cons {sessionData : EnrollSessionData}
    {store store₁ store' : MemoryDataStore Cert} {key : SecurityKeyData Cert}
    {keys : List (SecurityKeyData Cert)} {id : String} {registeredKeys : List RegisteredKey}
    (hnew : store.sessionDataBase id = none)
    (hstored : store₁.sessionDataBase = Function.update store.sessionDataBase id
      (some (.sign ⟨sessionData, key.publicKey⟩)))
    (h : server.OffersStored sessionData store₁ store' keys registeredKeys) :
    server.OffersStored sessionData store store' (key :: keys)
      (⟨U2F_V2, server.platform.encodeBase64URLSafeString key.keyHandle, key.transports,
        sessionData.appId, id⟩ :: registeredKeys) := by
  obtain ⟨hoffers, hnodup, hfresh, hothers⟩ := h
  rw [hstored] at hfresh hothers
  -- the other sessions are new after this one has been stored, so that none of them has its id
  have hne : ∀ registeredKey ∈ registeredKeys, registeredKey.sessionId ≠ id := by
    intro registeredKey hmem hid
    have hnone := hfresh registeredKey hmem
    rw [hid] at hnone
    simp at hnone
  constructor
  · refine .cons ⟨rfl, rfl, rfl, rfl, ?_⟩ hoffers
    rw [hothers id hne]
    exact Function.update_self _ _ _
  · rw [List.map_cons, List.nodup_cons]
    refine ⟨fun hmem => ?_, hnodup⟩
    obtain ⟨registeredKey, hmem, hid⟩ := List.mem_map.1 hmem
    exact hne registeredKey hmem hid
  · intro registeredKey hmem
    rcases List.mem_cons.1 hmem with rfl | hmem
    · exact hnew
    · have hnone := hfresh registeredKey hmem
      rwa [Function.update_of_ne (hne registeredKey hmem)] at hnone
  · intro other hother
    rw [List.forall_mem_cons] at hother
    rw [hothers other hother.2]
    exact Function.update_of_ne hother.1.symm _ _

/-- **The loop offers the keys of its list.** -/
theorem offersStored_mapM (accountName appId : String) (challenge : Bytes)
    (keys : List (SecurityKeyData Cert)) {store : MemoryDataStore Cert}
    {issued : List (SessionKind × String)}
    (htracks : store.Tracks server.sessionIdGenerator issued) :
    ∃ registeredKeys store',
      (keys.mapM (server.getRegisteredKey accountName appId challenge)).Returns store
        registeredKeys store' ∧
      store'.securityKeyDataBase = store.securityKeyDataBase ∧
      server.OffersStored ⟨accountName, appId, challenge⟩ store store' keys registeredKeys := by
  induction keys generalizing store issued with
  | nil =>
      refine ⟨[], store, rfl, rfl, .nil, List.nodup_nil, ?_, fun id _ => rfl⟩
      intro registeredKey hmem
      cases hmem
  | cons key keys ih =>
      let session : SessionData := .sign ⟨⟨accountName, appId, challenge⟩, key.publicKey⟩
      obtain ⟨registeredKeys, store', hreturns, hkeys, h⟩ := ih (htracks.storeSessionData session)
      refine ⟨_ :: registeredKeys, store', ?_, hkeys, .cons server (htracks.fresh session) rfl h⟩
      rw [List.mapM_cons, Call.returns_bind_iff]
      refine ⟨_, (store.storeSessionData server.sessionIdGenerator session).2, rfl, ?_⟩
      rw [Call.returns_bind_iff]
      exact ⟨registeredKeys, store', hreturns, rfl⟩

/-! ### The request -/

variable [DecidableEq Cert]

/-- A sign request in a run: its reply, and the store after it. -/
theorem reply_getSignRequest (operations : List Operation) (accountName appId : String)
    (challenge : Bytes) :
    let store := server.machine.exec .new operations
    let store' := server.machine.next store (.getSignRequest accountName appId challenge)
    ∃ registeredKeys : List RegisteredKey,
      server.machine.reply store (.getSignRequest accountName appId challenge) =
        .ok (.signRequest ⟨server.platform.encodeBase64URLSafeString challenge, registeredKeys⟩) ∧
      store'.securityKeyDataBase = store.securityKeyDataBase ∧
      server.OffersStored ⟨accountName, appId, challenge⟩ store store'
        (store.getSecurityKeyData accountName) registeredKeys := by
  intro store store'
  obtain ⟨registeredKeys, after, hreturns, hkeys, hoffers⟩ :=
    server.offersStored_mapM accountName appId challenge (store.getSecurityKeyData accountName)
      (server.tracks_exec operations)
  have hrequest : (server.getSignRequest accountName appId challenge).Returns store
      ⟨server.platform.encodeBase64URLSafeString challenge, registeredKeys⟩ after := by
    rw [getSignRequest, Call.returns_get_bind_iff, Call.returns_bind_iff]
    exact ⟨registeredKeys, after, hreturns, rfl⟩
  obtain ⟨hreply, hnext⟩ : server.machine.reply store _ = _ ∧ store' = after :=
    server.step_of_returns Reply.signRequest rfl hrequest
  exact ⟨registeredKeys, hreply, hnext ▸ hkeys, hnext ▸ hoffers⟩

/-- **At every point of every run a sign request offers exactly the stored keys**: its entries are
those of the keys that the account has, each with the id of a sign session for that key, and no
session and no key that was there before is changed. -/
theorem getSignRequest_offersStored (operations : List Operation) (accountName appId : String)
    (challenge : Bytes) :
    let store := server.machine.exec .new operations
    let store' := server.machine.next store (.getSignRequest accountName appId challenge)
    let keys := store.getSecurityKeyData accountName
    ∃ registeredKeys : List RegisteredKey,
      server.machine.reply store (.getSignRequest accountName appId challenge) =
        .ok (.signRequest ⟨server.platform.encodeBase64URLSafeString challenge, registeredKeys⟩) ∧
      registeredKeys.length = keys.length ∧
      (∀ i (hkey : i < keys.length) (hentry : i < registeredKeys.length),
        registeredKeys[i].keyHandle =
            server.platform.encodeBase64URLSafeString keys[i].keyHandle ∧
          registeredKeys[i].transports = keys[i].transports ∧
          store'.getSignSessionData (some registeredKeys[i].sessionId) =
            .ok (some ⟨⟨accountName, appId, challenge⟩, keys[i].publicKey⟩)) ∧
      (registeredKeys.map RegisteredKey.sessionId).Nodup ∧
      (∀ id session, store.getSessionData (some id) = some session →
        store'.getSessionData (some id) = some session) ∧
      (∀ id, (∀ registeredKey ∈ registeredKeys, registeredKey.sessionId ≠ id) →
        store'.getSessionData (some id) = store.getSessionData (some id)) ∧
      store'.securityKeyDataBase = store.securityKeyDataBase := by
  intro store store' keys
  obtain ⟨registeredKeys, hreply, hkeys, hoffers, hnodup, hfresh, hothers⟩ :=
    server.reply_getSignRequest operations accountName appId challenge
  obtain ⟨hlength, hoffer⟩ := List.forall₂_iff_get.1 hoffers
  refine ⟨registeredKeys, hreply, hlength.symm, ?_, hnodup, ?_, hothers, hkeys⟩
  · intro i hkey hentry
    have hoffer := hoffer i hkey hentry
    rw [getSignSessionData_eq_ok_iff]
    exact ⟨hoffer.keyHandle, hoffer.transports, hoffer.session⟩
  · intro id session hid
    refine (hothers id fun registeredKey hmem hsame => ?_).trans hid
    have hnone := hfresh registeredKey hmem
    rw [hsame] at hnone
    cases hnone.symm.trans hid

/-- **What is offered is what the data base has for the account**: nothing, if it has no list. -/
theorem offersStored_securityKeyDataBase (operations : List Operation) (accountName appId : String)
    (challenge : Bytes) :
    let store := server.machine.exec .new operations
    ∃ registeredKeys : List RegisteredKey,
      server.machine.reply store (.getSignRequest accountName appId challenge) =
        .ok (.signRequest ⟨server.platform.encodeBase64URLSafeString challenge, registeredKeys⟩) ∧
      match store.securityKeyDataBase accountName with
      | none => registeredKeys = []
      | some keys => server.OffersStored ⟨accountName, appId, challenge⟩ store
          (server.machine.next store (.getSignRequest accountName appId challenge)) keys
          registeredKeys := by
  intro store
  obtain ⟨registeredKeys, hreply, -, hoffers⟩ :=
    server.reply_getSignRequest operations accountName appId challenge
  refine ⟨registeredKeys, hreply, ?_⟩
  rw [getSecurityKeyData] at hoffers
  cases hkeys : store.securityKeyDataBase accountName with
  | none =>
      rw [hkeys] at hoffers
      exact List.forall₂_nil_left_iff.1 hoffers.offers
  | some keys =>
      rw [hkeys] at hoffers
      exact hoffers

section Example

open TestVectors

/-- The request for a registration and the registration. -/
def oneRegistration (encoded : Bytes) : List Operation :=
  [registrationRequestOp, registrationOp encoded KEY_HANDLE USER_PUBLIC_KEY_ENROLL firstSessionId 0]

/-- The data base has the key then, and it is offered. -/
theorem offers_oneRegistration (encoded : Bytes) :
    ((testServer encoded).machine.exec .new (oneRegistration encoded)).securityKeyDataBase
        ACCOUNT_NAME = some [newKey KEY_HANDLE USER_PUBLIC_KEY_ENROLL 0] ∧
      ∃ registeredKey,
        (testServer encoded).machine.reply
            ((testServer encoded).machine.exec .new (oneRegistration encoded)) signRequestOp =
          .ok (.signRequest ⟨Base64.encode SESSION.challenge, [registeredKey]⟩) ∧
        registeredKey.keyHandle = Base64.encode KEY_HANDLE := by
  have hstored : ((testServer encoded).machine.exec .new
      (oneRegistration encoded)).securityKeyDataBase ACCOUNT_NAME =
        some [newKey KEY_HANDLE USER_PUBLIC_KEY_ENROLL 0] := by
    have hnext := (step_registrationOp encoded getSessionData_requestedStore rfl
      length_USER_PUBLIC_KEY_ENROLL length_KEY_HANDLE_le 0).2
    have hexec : (testServer encoded).machine.exec .new (oneRegistration encoded) =
        requestedStore.addSecurityKeyData ACCOUNT_NAME
          (newKey KEY_HANDLE USER_PUBLIC_KEY_ENROLL 0) := hnext
    rw [hexec, addSecurityKeyData, putSecurityKeyData]
    dsimp only
    rw [Function.update_self]
    rfl
  obtain ⟨registeredKeys, hreply, hoffers⟩ := (testServer encoded).offersStored_securityKeyDataBase
    (oneRegistration encoded) ACCOUNT_NAME ORIGIN SESSION.challenge
  rw [hstored] at hoffers
  obtain ⟨registeredKey, rest, hoffer, hrest, rfl⟩ := List.forall₂_cons_left_iff.1 hoffers.offers
  obtain rfl := List.forall₂_nil_left_iff.1 hrest
  exact ⟨hstored, registeredKey, hreply, hoffer.keyHandle⟩

end Example

end U2FServerReferenceImpl

end U2F
