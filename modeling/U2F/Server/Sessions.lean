/-
**What a response does, by the kind of its session.**

The sessions of both kinds are in one map.  A sign session is also an enroll session, so that a
registration response is processed with it; an enroll session is not a sign session, and the cast
throws.  With a session of its own kind a response is accepted exactly when it is valid.

Main definitions:

* `U2FServerReferenceImpl.KeptApart` — a response is accepted only with a session of its kind, and
  otherwise the call throws a `U2FException` and changes nothing;
* `U2FServerReferenceImpl.SignResponseAccepted` — what an accepted sign response does.

Main results:

* `U2FServerReferenceImpl.keptApart_of_not_otherKind` — **sessions are kept apart unless the
  session id was issued by the other kind of request**; for sign responses this is exact;
* `U2FServerReferenceImpl.processSignResponse_spec` — **a sign response with an id that
  `getSignRequest` issued is accepted exactly when it is valid**; then one counter changes, else
  nothing.
-/

import U2F.Server.Counters

set_option relaxedAutoImplicit false
set_option autoImplicit false

namespace U2F

open MemoryDataStore

namespace U2FServerReferenceImpl

variable {Cert PublicKey : Type} [DecidableEq Cert] (server : U2FServerReferenceImpl Cert PublicKey)

/-! ### Calls without a session -/

/-- A registration response with an id that is not in the session map. -/
theorem step_processRegistrationResponse_of_unknown {store : MemoryDataStore Cert}
    {response : RegistrationResponse} (h : store.getSessionData response.sessionId = none)
    (time : Int64) :
    server.machine.reply store (.processRegistrationResponse response time) =
        .error (.u2fException "Unknown session_id") ∧
      server.machine.next store (.processRegistrationResponse response time) = store := by
  have hnone : store.getEnrollSessionData response.sessionId = none := by
    rw [getEnrollSessionData, h]
    rfl
  refine server.step_of_throws Reply.securityKeyData rfl ?_
  rw [processRegistrationResponse, Call.outcome_bind]
  simp only [Call.outcome_get, hnone]
  rfl

/-- A sign response whose session cannot be read. -/
theorem step_processSignResponse_of_not_sign (store : MemoryDataStore Cert)
    (response : SignResponse)
    (h : ∀ session, store.getSessionData response.sessionId ≠ some (.sign session)) :
    server.machine.reply store (.processSignResponse response) =
        .error (if store.getSessionData response.sessionId = none then
          .u2fException "Unknown session_id" else .classCastException) ∧
      server.machine.next store (.processSignResponse response) = store := by
  refine server.step_of_throws Reply.securityKeyData rfl ?_
  rw [processSignResponse, Call.outcome_bind]
  simp only [Call.outcome_get, getSignSessionData]
  rcases hs : store.getSessionData response.sessionId with _ | session | session
  · rfl
  · rfl
  · exact absurd hs (h session)

/-! ### Sessions of both kinds -/

/-- The response carries a session id of the given kind. -/
def HasIssued (issued : List (SessionKind × String)) (kind : SessionKind) (operation : Operation) :
    Prop :=
  ∃ id, operation.sessionId = some id ∧ (kind, id) ∈ issued

/-- A response for sessions of one kind is accepted only with a session id of that kind;
otherwise the call throws a `U2FException` and the store is unchanged. -/
structure KeptApart (issued : List (SessionKind × String)) (kind : SessionKind)
    (store : MemoryDataStore Cert) (operation : Operation) : Prop where
  accepted : server.Accepts store operation → HasIssued issued kind operation
  refused : ¬ HasIssued issued kind operation →
    (∃ message, server.machine.reply store operation = .error (.u2fException message)) ∧
      server.machine.next store operation = store

omit [DecidableEq Cert] in
/-- The kind of the session in the map is the kind of request that issued it. -/
theorem hasIssued_iff {issued : List (SessionKind × String)} {store : MemoryDataStore Cert}
    (htracks : store.Tracks server.sessionIdGenerator issued) (kind : SessionKind)
    (operation : Operation) :
    HasIssued issued kind operation ↔
      ∃ session, store.getSessionData operation.sessionId = some session ∧ session.kind = kind := by
  constructor
  · rintro ⟨id, hid, hmem⟩
    rw [hid]
    exact (htracks.mem_iff kind id).1 hmem
  · rintro ⟨session, hsession, hkind⟩
    obtain ⟨id, hid, hstored⟩ := Option.bind_eq_some_iff.1 hsession
    exact ⟨id, hid, (htracks.mem_iff kind id).2 ⟨session, hstored, hkind⟩⟩

omit [DecidableEq Cert] in
/-- A response without a session of either kind is for no session. -/
theorem getSessionData_eq_none {issued : List (SessionKind × String)} {store : MemoryDataStore Cert}
    (htracks : store.Tracks server.sessionIdGenerator issued) (operation : Operation)
    (h : ∀ kind, ¬ HasIssued issued kind operation) :
    store.getSessionData operation.sessionId = none := by
  rw [Option.eq_none_iff_forall_not_mem]
  intro session hsession
  exact h session.kind ((server.hasIssued_iff htracks _ _).2 ⟨session, hsession, rfl⟩)

/-- Registration: an id of its own kind, or no known id, is handled as it should be. -/
theorem keptApart_registration {issued : List (SessionKind × String)} {store : MemoryDataStore Cert}
    (htracks : store.Tracks server.sessionIdGenerator issued) {response : RegistrationResponse}
    {time : Int64} (h : ¬ HasIssued issued .sign (.processRegistrationResponse response time)) :
    server.KeptApart issued .enroll store (.processRegistrationResponse response time) := by
  have hrefused : ¬ HasIssued issued .enroll (.processRegistrationResponse response time) →
      store.getSessionData response.sessionId = none := by
    intro hnot
    refine server.getSessionData_eq_none htracks (.processRegistrationResponse response time) ?_
    rintro (_ | _)
    · exact hnot
    · exact h
  constructor
  · intro haccepts
    by_contra hnot
    exact server.not_accepts_of_error
      (server.step_processRegistrationResponse_of_unknown (hrefused hnot) time).1 haccepts
  · intro hnot
    obtain ⟨hr, hn⟩ :=
      server.step_processRegistrationResponse_of_unknown (hrefused hnot) time
    exact ⟨⟨_, hr⟩, hn⟩

/-- Authentication: the same, and an id of the other kind is not. -/
theorem keptApart_sign_iff {issued : List (SessionKind × String)} {store : MemoryDataStore Cert}
    (htracks : store.Tracks server.sessionIdGenerator issued) {response : SignResponse} :
    server.KeptApart issued .sign store (.processSignResponse response) ↔
      ¬ HasIssued issued .enroll (.processSignResponse response) := by
  have hsign := server.hasIssued_iff htracks .sign (.processSignResponse response)
  have henroll := server.hasIssued_iff htracks .enroll (.processSignResponse response)
  rw [Operation.sessionId] at hsign henroll
  rcases hs : store.getSessionData response.sessionId with _ | session | session
  · -- an unknown id
    obtain ⟨hr, hn⟩ := server.step_processSignResponse_of_not_sign store response
      (by simp [hs])
    rw [if_pos hs] at hr
    have hnot : ¬ HasIssued issued .enroll (.processSignResponse response) := by
      simp [henroll, hs]
    exact iff_of_true ⟨fun haccepts => absurd haccepts (server.not_accepts_of_error hr),
      fun _ => ⟨⟨_, hr⟩, hn⟩⟩ hnot
  · -- an id of an enroll session: the cast throws
    obtain ⟨hr, -⟩ := server.step_processSignResponse_of_not_sign store response
      (by simp [hs])
    have hhas : HasIssued issued .enroll (.processSignResponse response) :=
      henroll.2 ⟨_, hs, rfl⟩
    have hnot : ¬ HasIssued issued .sign (.processSignResponse response) := by
      simp [hsign, hs, SessionData.kind]
    refine iff_of_false ?_ (not_not.2 hhas)
    intro hkept
    obtain ⟨⟨message, hmessage⟩, -⟩ := hkept.refused hnot
    rw [hr, hs] at hmessage
    simp at hmessage
  · -- an id of a sign session
    have hhas : HasIssued issued .sign (.processSignResponse response) := hsign.2 ⟨_, hs, rfl⟩
    have hnot : ¬ HasIssued issued .enroll (.processSignResponse response) := by
      simp [henroll, hs, SessionData.kind]
    exact iff_of_true ⟨fun _ => hhas, fun h => absurd hhas h⟩ hnot

/-- **Sessions of both kinds are kept apart** at every point of every run, unless the session id
was issued by the other kind of request; for sign responses, exactly then. -/
theorem keptApart_of_not_otherKind (operations : List Operation) :
    (∀ response time,
      ¬ HasIssued (server.issued .new operations) .sign
        (.processRegistrationResponse response time) →
      server.KeptApart (server.issued .new operations) .enroll
        (server.machine.exec .new operations) (.processRegistrationResponse response time)) ∧
    ∀ response,
      server.KeptApart (server.issued .new operations) .sign
        (server.machine.exec .new operations) (.processSignResponse response) ↔
      ¬ HasIssued (server.issued .new operations) .enroll (.processSignResponse response) :=
  ⟨fun _ _ h => server.keptApart_registration (server.tracks_exec operations) h,
    fun _ => server.keptApart_sign_iff (server.tracks_exec operations)⟩

section OtherKind

open TestVectors

variable (encoded : Bytes)

/-- The run of a registration and a sign request. -/
def offeredRun : List Operation :=
  [registrationRequestOp, registrationOp encoded KEY_HANDLE USER_PUBLIC_KEY_ENROLL firstSessionId 0,
    signRequestOp]

theorem tracks_offeredRun :
    offeredStore.Tracks httpSessionIdGenerator
      ((testServer encoded).issued .new (offeredRun encoded)) :=
  exec_offeredStore encoded ▸ (testServer encoded).tracks_exec (offeredRun encoded)

/-- The registration is accepted with the session of the sign request, and the sign response with
the session of the registration fails in the cast. -/
theorem not_keptApart_offeredRun :
    ¬ (testServer encoded).KeptApart ((testServer encoded).issued .new (offeredRun encoded)) .enroll
        offeredStore (registrationOp encoded KEY_HANDLE USER_PUBLIC_KEY_ENROLL secondSessionId 1) ∧
      ¬ (testServer encoded).KeptApart ((testServer encoded).issued .new (offeredRun encoded)) .sign
        offeredStore (signOp encoded firstSessionId 5) := by
  have htracks := tracks_offeredRun encoded
  obtain ⟨hsecond, hfirst⟩ := getSessionData_offeredStore
  constructor
  · intro hkept
    obtain ⟨hr, -⟩ := step_registrationOp encoded hsecond rfl length_USER_PUBLIC_KEY_ENROLL
      length_KEY_HANDLE_le 1
    obtain ⟨session, hsession, hkind⟩ :=
      ((testServer encoded).hasIssued_iff htracks _ _).1 (hkept.accepted ⟨_, hr⟩)
    obtain rfl := Option.some.inj (hsecond.symm.trans hsession)
    cases hkind
  · intro hkept
    exact ((testServer encoded).keptApart_sign_iff htracks).1 hkept
      (((testServer encoded).hasIssued_iff htracks _ _).2 ⟨_, hfirst, rfl⟩)

/-- Sessions of the wrong kind: one is accepted, the other one makes the call throw an unchecked
exception. -/
theorem not_keptApart_of_otherKind :
    let server := testServer (parseHex VENDOR_CERTIFICATE_HEX)
    let operations := offeredRun (parseHex VENDOR_CERTIFICATE_HEX)
    ¬ server.KeptApart (server.issued .new operations) .enroll (server.machine.exec .new operations)
        (registrationOp (parseHex VENDOR_CERTIFICATE_HEX) KEY_HANDLE USER_PUBLIC_KEY_ENROLL
          secondSessionId 1) ∧
      ¬ server.KeptApart (server.issued .new operations) .sign (server.machine.exec .new operations)
        (signOp (parseHex VENDOR_CERTIFICATE_HEX) firstSessionId 5) := by
  have h := not_keptApart_offeredRun (parseHex VENDOR_CERTIFICATE_HEX)
  rw [← exec_offeredStore (parseHex VENDOR_CERTIFICATE_HEX)] at h
  exact h

end OtherKind

/-! ### Sign responses with a session of their kind -/

/-- What an accepted sign response does to the store: the counter of the first key of the account
with the session's public key is set, and nothing else changes. -/
structure SetsCounter (session : SignSessionData) (key : SecurityKeyData Cert) (counter : Int32)
    (store store' : MemoryDataStore Cert) : Prop where
  sessions : store'.sessionDataBase = store.sessionDataBase
  sessionIds : store'.sessionIdsGenerated = store.sessionIdsGenerated
  others : ∀ accountName, accountName ≠ session.accountName →
    store'.securityKeyDataBase accountName = store.securityKeyDataBase accountName
  keys : ∃ before after,
    store.securityKeyDataBase session.accountName = some (before ++ key :: after) ∧
    (∀ k ∈ before, k.publicKey ≠ session.publicKey) ∧
    store'.securityKeyDataBase session.accountName =
      some (before ++ { key with counter := counter } :: after)

omit [DecidableEq Cert] in
theorem setsCounter_updateSecurityKeyCounter {session : SignSessionData}
    {key : SecurityKeyData Cert} {store : MemoryDataStore Cert} (counter : Int32)
    (hkey : (store.getSecurityKeyData session.accountName).find? (hasPublicKey session.publicKey) =
      some key) :
    SetsCounter session key counter store
      (store.updateSecurityKeyCounter session.accountName key.publicKey counter) := by
  obtain ⟨before, after, hkeys, hbefore, hupdate⟩ :=
    FirstMatch.update_of_find? (f := (·.setCounter counter)) hkey
  have hstored : store.securityKeyDataBase session.accountName = some (before ++ key :: after) := by
    rw [getSecurityKeyData] at hkeys
    cases hbase : store.securityKeyDataBase session.accountName with
    | none => simp [hbase] at hkeys
    | some keys => rw [hbase] at hkeys; exact congrArg some hkeys
  rw [publicKey_of_find? hkey]
  refine ⟨rfl, rfl, fun a ha => Function.update_of_ne ha _ _, before, after, hstored, ?_, ?_⟩
  · intro k hk hpk
    exact hbefore k hk (decide_eq_true hpk)
  · refine (Function.update_self _ _ _).trans ?_
    rw [getSecurityKeyData, hstored] at hupdate
    rw [hstored, Option.map_some]
    exact congrArg some hupdate

/-- **A sign response with an id that `getSignRequest` issued is accepted exactly when it is
valid** for the session and the first key of its account with its public key.  Then that key's
counter is set, and when the call throws nothing is changed. -/
theorem processSignResponse_spec (operations : List Operation) (response : SignResponse)
    (hissued : HasIssued (server.issued .new operations) .sign (.processSignResponse response)) :
    let store := server.machine.exec .new operations
    let store' := server.machine.next store (.processSignResponse response)
    ∃ session, store.getSessionData response.sessionId = some (.sign session) ∧
      (server.Accepts store (.processSignResponse response) ↔
        ∃ key browserData message,
          (store.getSecurityKeyData session.accountName).find? (hasPublicKey session.publicKey) =
            some key ∧
          server.ValidSignResponse session key response browserData message) ∧
      (server.Accepts store (.processSignResponse response) →
        ∃ key message,
          (store.getSecurityKeyData session.accountName).find? (hasPublicKey session.publicKey) =
            some key ∧
          server.SignMessage response message ∧
          SetsCounter session key message.counter store store') ∧
      (¬ server.Accepts store (.processSignResponse response) → store' = store) := by
  obtain ⟨data, hdata, hkind⟩ := (server.hasIssued_iff (server.tracks_exec operations) _ _).1 hissued
  cases data with
  | enroll session => cases hkind
  | sign session =>
      refine ⟨session, hdata, ?_⟩
      have hsession := getSignSessionData_eq_ok_iff.2 hdata
      rcases server.step_processSignResponse (server.machine.exec .new operations) response with
        ⟨session', key, browserData, message, hsession', hkey, hvalid, hr, hn⟩ | ⟨⟨e, he⟩, hn⟩
      · obtain rfl : session = session' :=
          Option.some.inj (Except.ok.inj (hsession.symm.trans hsession'))
        refine ⟨iff_of_true ⟨_, hr⟩ ⟨key, browserData, message, hkey, hvalid⟩, fun _ => ?_,
          fun h => absurd ⟨_, hr⟩ h⟩
        rw [hn]
        exact ⟨key, message, hkey, hvalid.carries, setsCounter_updateSecurityKeyCounter _ hkey⟩
      · have hnot : ¬ server.Accepts (server.machine.exec .new operations)
            (.processSignResponse response) := server.not_accepts_of_error he
        refine ⟨iff_of_false hnot ?_, fun h => absurd h hnot, fun _ => hn⟩
        rintro ⟨key, browserData, message, hkey, hvalid⟩
        exact hnot ⟨_, (server.step_of_validSignResponse hsession hkey hvalid).1⟩

section Witness

open TestVectors

theorem hasIssued_offeredRun (encoded : Bytes) (counter : Int32) :
    HasIssued ((testServer encoded).issued .new (offeredRun encoded)) .sign
      (.processSignResponse (signResponse encoded secondSessionId counter)) :=
  ((testServer encoded).hasIssued_iff (tracks_offeredRun encoded) _ _).2
    ⟨_, getSessionData_offeredStore.1, rfl⟩

/-- The key that is offered, and a response that is valid for it. -/
theorem valid_offeredStore (encoded : Bytes) :
    ∃ key browserData message,
      (offeredStore.getSecurityKeyData ACCOUNT_NAME).find? (hasPublicKey USER_PUBLIC_KEY_ENROLL) =
        some key ∧
      (testServer encoded).ValidSignResponse ⟨SESSION, USER_PUBLIC_KEY_ENROLL⟩ key
        (signResponse encoded secondSessionId 5) browserData message := by
  have hhas : hasPublicKey USER_PUBLIC_KEY_ENROLL (newKey KEY_HANDLE USER_PUBLIC_KEY_ENROLL 0) :=
    decide_eq_true (publicKey_newKey _ _ _)
  have hcounter : (newKey KEY_HANDLE USER_PUBLIC_KEY_ENROLL 0).counter < 5 := by decide
  refine ⟨_, _, _, ?_, valid_signResponse encoded secondSessionId hcounter⟩
  rw [getSecurityKeyData_offeredStore, List.find?_cons_of_pos hhas]

/-- The first sign response of the tests is accepted. -/
theorem accepts_signResponse :
    (testServer (parseHex VENDOR_CERTIFICATE_HEX)).Accepts
      ((testServer (parseHex VENDOR_CERTIFICATE_HEX)).machine.exec .new
        (offeredRun (parseHex VENDOR_CERTIFICATE_HEX)))
      (.processSignResponse
        (signResponse (parseHex VENDOR_CERTIFICATE_HEX) secondSessionId 5)) := by
  obtain ⟨session, hsession, hiff, -⟩ := processSignResponse_spec _ _ _
    (hasIssued_offeredRun (parseHex VENDOR_CERTIFICATE_HEX) 5)
  rw [offeredRun, exec_offeredStore] at hsession hiff ⊢
  rw [signResponse, getSessionData_offeredStore.1] at hsession
  obtain rfl : ⟨SESSION, USER_PUBLIC_KEY_ENROLL⟩ = session := by simpa using hsession
  exact hiff.2 (valid_offeredStore _)

end Witness

end U2FServerReferenceImpl

end U2F
