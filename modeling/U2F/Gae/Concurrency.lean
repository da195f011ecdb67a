/-
**Concurrent requests against the store on App Engine.**

Two requests that change the keys of an account run over `DataStoreImpl`, with the loads and the
saves of both interleaved in any order.  Each operation is a program of one of the kinds of
`U2F.Lib.LoadSave`: a registration and a removal load the entity and save it, and a sign response
loads it once to look at the key and once more to update it.  The two have the effect of one after
the other if no save overwrites an entity that has changed since its load, and no sign response
saves a counter over one that is not smaller.  Nothing in the code sees to that, and two removals at
once can leave a key that was removed.

Main definitions:

* `DataStoreImpl.Operation`, `DataStoreImpl.Operation.program` — the operations, as programs;
* `DataStoreImpl.Operation.readModifyWrite` — what an operation does with the entity;
* `DataStoreImpl.CounterBelow`, `DataStoreImpl.SavesFresh` — the condition on a save.

Main results:

* `DataStoreImpl.program_eq` — each operation is a program of one of the kinds;
* `DataStoreImpl.serializable` — **a run whose saves are fresh is a serial one**;
* `DataStoreImpl.removed_key_returns` — two removals one of which is lost.
-/

import U2F.Gae.DataStoreImpl
import U2F.Server.TestVectors

set_option relaxedAutoImplicit false
set_option autoImplicit false

namespace U2F

namespace DataStoreImpl

open LoadSave

/-- The requests that change the keys of an account. -/
inductive Operation
  | processRegistrationResponse (registrationResponse : RegistrationResponse)
      (currentTimeInMillis : Int64)
  | processSignResponse (signResponse : SignResponse)
  | removeSecurityKey (accountName : String) (publicKey : Bytes)

variable {Cert PublicKey : Type} (server : U2FServerReferenceImpl Cert PublicKey)
  (unsealed : Option String → Except Throwable SessionData)

/-! ### The operations as programs -/

/-- The call of the server; of its result only the exception is kept. -/
def Operation.call : Operation → StoreCall Unit
  | processRegistrationResponse registrationResponse currentTimeInMillis => do
      let _ ← (dataStore server.platform unsealed).processRegistrationResponse server
        registrationResponse currentTimeInMillis
  | processSignResponse signResponse => do
      let _ ← (dataStore server.platform unsealed).processSignResponse server signResponse
  | removeSecurityKey accountName publicKey =>
      (dataStore server.platform unsealed).removeSecurityKey accountName publicKey

def Operation.program (op : Operation) :
    LoadSave String (List TokenStorageData) (Except Throwable Unit) :=
  (op.call server unsealed).run

/-- The entity that `getUserTokens` returns. -/
def userTokens (accountName : String) (tokens : Option (List TokenStorageData)) : UserTokens :=
  (tokens.map (UserTokens.mk accountName)).getD (UserTokens.new accountName)

/-- A change of the entity, on its tokens. -/
def modifyTokens (accountName : String) (change : UserTokens → Except Throwable UserTokens)
    (tokens : Option (List TokenStorageData)) : Except Throwable (List TokenStorageData) :=
  (change (userTokens accountName tokens)).map UserTokens.tokens

/-- `getSignSessionData` -/
def signSession (sessionId : Option String) : Except Throwable SignSessionData := do
  match ← unsealed sessionId with
  | .sign data => return data
  | .enroll _ => throw .classCastException

/-- The counter in a sign response. -/
def responseCounter (signResponse : SignResponse) : Except Throwable Int32 := do
  let rawSignData ← server.platform.bytesOfBase64 signResponse.signatureData
  return (← RawMessageCodec.decodeAuthenticateResponse rawSignData).counter

/-- The account and the new key of a registration. -/
def newKey (registrationResponse : RegistrationResponse) (currentTimeInMillis : Int64) :
    Except Throwable (String × SecurityKeyData Cert) := do
  let sessionData := (← unsealed registrationResponse.sessionId).toEnrollSessionData
  return (sessionData.accountName,
    ← server.checkRegistrationResponse registrationResponse currentTimeInMillis sessionData)

/-- What `processSignResponse` does between its two loads. -/
def checkKey (signResponse : SignResponse) (data : SignSessionData)
    (tokens : Option (List TokenStorageData)) : Except Throwable Int32 := do
  let keys ← (userTokens data.accountName tokens).securityKeyData server.platform
  let key ← orThrow (keys.find? (MemoryDataStore.hasPublicKey data.publicKey))
    (.u2fException "No security keys registered for this user")
  server.checkSignResponse signResponse data key

/-- **What an operation does with the entity of its account.** -/
def Operation.readModifyWrite :
    Operation → ReadModifyWrite String (List TokenStorageData) Throwable
  | processRegistrationResponse registrationResponse currentTimeInMillis =>
      match newKey server unsealed registrationResponse currentTimeInMillis with
      | .error e => .fail e
      | .ok (accountName, key) =>
          .update accountName (modifyTokens accountName fun userTokens =>
            (TokenStorageData.ofSecurityKeyData server.platform key).map userTokens.addToken)
  | processSignResponse signResponse =>
      match signSession unsealed signResponse.sessionId with
      | .error e => .fail e
      | .ok data =>
          .guarded data.accountName
            (fun tokens => (checkKey server signResponse data tokens).map fun _ => ())
            (modifyTokens data.accountName fun userTokens => do
              userTokens.updateCounter server.platform data.publicKey
                (← responseCounter server signResponse))
  | removeSecurityKey accountName publicKey =>
      .update accountName (modifyTokens accountName fun userTokens =>
        userTokens.removeToken server.platform publicKey)

/-! ### The programs -/

variable {server unsealed}

@[simp] theorem userId_userTokens (accountName : String) (tokens : Option (List TokenStorageData)) :
    (userTokens accountName tokens).userId = accountName := by
  cases tokens <;> rfl

theorem userId_removeToken {userTokens userTokens' : UserTokens} {publicKey : Bytes}
    (h : userTokens.removeToken server.platform publicKey = .ok userTokens') :
    userTokens'.userId = userTokens.userId := by
  rw [UserTokens.removeToken, Except.bind_eq_ok_iff] at h
  obtain ⟨_ | token, _, h⟩ := h
  · rw [← Except.ok.inj h]
  · rw [← Except.ok.inj h]

theorem userId_updateCounter {userTokens userTokens' : UserTokens} {publicKey : Bytes}
    {counter : Int32}
    (h : userTokens.updateCounter server.platform publicKey counter = .ok userTokens') :
    userTokens'.userId = userTokens.userId := by
  rw [UserTokens.updateCounter, Except.bind_eq_ok_iff] at h
  obtain ⟨tokens, _, h⟩ := h
  rw [← Except.ok.inj h]

theorem run_getUserTokens_bind {α : Type} (accountName : String) (f : UserTokens → StoreCall α) :
    (getUserTokens accountName >>= f).run =
      .load accountName fun tokens => (f (userTokens accountName tokens)).run := rfl

theorem run_liftM_bind {α β : Type} (x : Except Throwable α) (f : α → StoreCall β) :
    ((liftM x : StoreCall α) >>= f).run = match x with
      | .error e => .done (.error e)
      | .ok a => (f a).run := by
  cases x <;> rfl

/-- **A method that loads the entity, changes it and saves it.** -/
theorem run_update {accountName : String} {change : UserTokens → Except Throwable UserTokens}
    (hid : ∀ tokens tokens', change tokens = .ok tokens' → tokens'.userId = tokens.userId) :
    (getUserTokens accountName >>= fun tokens =>
      (liftM (change tokens) : StoreCall UserTokens) >>= save).run =
      ReadModifyWrite.updateProgram accountName (modifyTokens accountName change) := by
  rw [run_getUserTokens_bind, ReadModifyWrite.updateProgram]
  congr 1
  funext tokens
  rw [run_liftM_bind, modifyTokens]
  cases h : change (userTokens accountName tokens) with
  | error e => rfl
  | ok tokens' =>
      have hkey : tokens'.userId = accountName := (hid _ _ h).trans (userId_userTokens _ _)
      simp only [save, Except.map, hkey]
      rfl

theorem program_removeSecurityKey (accountName : String) (publicKey : Bytes) :
    (Operation.removeSecurityKey accountName publicKey).program server unsealed =
      ((Operation.removeSecurityKey accountName publicKey).readModifyWrite server
        unsealed).program :=
  run_update fun _ _ => userId_removeToken

theorem call_processRegistrationResponse (registrationResponse : RegistrationResponse)
    (currentTimeInMillis : Int64) :
    (Operation.processRegistrationResponse registrationResponse currentTimeInMillis).call server
        unsealed =
      (liftM (newKey server unsealed registrationResponse currentTimeInMillis) >>= fun new =>
        (dataStore server.platform unsealed).addSecurityKeyData new.1 new.2 : StoreCall Unit) := by
  simp only [Operation.call, DataStore.processRegistrationResponse, newKey, dataStore,
    ExceptT.liftM_bind, ExceptT.liftM_pure, bind_assoc, pure_bind, orThrow,
    bind_pure_unit]

theorem program_processRegistrationResponse (registrationResponse : RegistrationResponse)
    (currentTimeInMillis : Int64) :
    (Operation.processRegistrationResponse registrationResponse currentTimeInMillis).program server
        unsealed =
      ((Operation.processRegistrationResponse registrationResponse
        currentTimeInMillis).readModifyWrite server unsealed).program := by
  rw [Operation.program, call_processRegistrationResponse, run_liftM_bind,
    Operation.readModifyWrite]
  cases newKey server unsealed registrationResponse currentTimeInMillis with
  | error e => rfl
  | ok new =>
      obtain ⟨accountName, key⟩ := new
      change _ = ReadModifyWrite.updateProgram accountName _
      rw [← run_update]
      · simp only [dataStore]
        congr 1
        refine bind_congr fun tokens => ?_
        cases TokenStorageData.ofSecurityKeyData server.platform key <;> rfl
      · intro tokens tokens' h
        cases hnew : TokenStorageData.ofSecurityKeyData server.platform key with
        | error e => simp [hnew, Except.map] at h
        | ok newToken =>
            rw [hnew] at h
            rw [← Except.ok.inj h]
            rfl

theorem call_processSignResponse (signResponse : SignResponse) :
    (Operation.processSignResponse signResponse).call server unsealed =
      (liftM (signSession unsealed signResponse.sessionId) >>= fun data => do
        let tokens ← getUserTokens data.accountName
        let keys ← tokens.securityKeyData server.platform
        let key ← orThrow (keys.find? (MemoryDataStore.hasPublicKey data.publicKey))
          (.u2fException "No security keys registered for this user")
        let counter ← server.checkSignResponse signResponse data key
        (dataStore server.platform unsealed).updateSecurityKeyCounter data.accountName
          key.publicKey counter : StoreCall Unit) := by
  simp only [Operation.call, DataStore.processSignResponse, signSession, dataStore,
    ExceptT.liftM_bind, bind_assoc, pure_bind, orThrow, bind_pure_unit]
  refine bind_congr fun session => ?_
  cases session <;> rfl

/-- The counter that the checks return is the one in the response. -/
theorem responseCounter_of_checkSignResponse {signResponse : SignResponse} {data : SignSessionData}
    {key : SecurityKeyData Cert} {counter : Int32}
    (h : server.checkSignResponse signResponse data key = .ok counter) :
    responseCounter server signResponse = .ok counter := by
  simp only [U2FServerReferenceImpl.checkSignResponse, Except.bind_eq_ok_iff] at h
  obtain ⟨_, _, raw, hraw, _, _, _, _, response, hresponse, _, _, _, _, _, _, _, _, _, _, _, _,
    _, _, hcounter⟩ := h
  rw [responseCounter, hraw, Except.ok_bind, hresponse, Except.ok_bind]
  exact hcounter

theorem publicKey_of_find {keys : List (SecurityKeyData Cert)} {publicKey : Bytes}
    {key : SecurityKeyData Cert}
    (h : keys.find? (MemoryDataStore.hasPublicKey publicKey) = some key) :
    key.publicKey = publicKey := by
  simpa [MemoryDataStore.hasPublicKey] using List.find?_some h

theorem program_processSignResponse (signResponse : SignResponse) :
    (Operation.processSignResponse signResponse).program server unsealed =
      ((Operation.processSignResponse signResponse).readModifyWrite server unsealed).program := by
  rw [Operation.program, call_processSignResponse, run_liftM_bind, Operation.readModifyWrite]
  cases signSession unsealed signResponse.sessionId with
  | error e => rfl
  | ok data =>
      simp only [run_getUserTokens_bind, ReadModifyWrite.program]
      congr 1
      funext tokens
      rw [run_liftM_bind, checkKey]
      cases (userTokens data.accountName tokens).securityKeyData server.platform with
      | error e => rfl
      | ok keys =>
          simp only [Except.ok_bind]
          cases hkey : keys.find? (MemoryDataStore.hasPublicKey data.publicKey) with
          | none => rfl
          | some key =>
              have hpublicKey : key.publicKey = data.publicKey := publicKey_of_find hkey
              simp only [orThrow, pure_bind]
              rw [run_liftM_bind]
              cases hcheck : server.checkSignResponse signResponse data key with
              | error e => rfl
              | ok counter =>
                  simp only [responseCounter_of_checkSignResponse hcheck, Except.ok_bind, Except.map,
                    hpublicKey, dataStore]
                  exact run_update fun _ _ => userId_updateCounter

/-- **Each operation is a program that reads, modifies and writes.** -/
theorem program_eq (op : Operation) :
    op.program server unsealed = (op.readModifyWrite server unsealed).program := by
  cases op with
  | processRegistrationResponse registrationResponse currentTimeInMillis =>
      exact program_processRegistrationResponse registrationResponse currentTimeInMillis
  | processSignResponse signResponse => exact program_processSignResponse signResponse
  | removeSecurityKey accountName publicKey =>
      exact program_removeSecurityKey accountName publicKey

/-! ### The condition on a save -/

variable (server unsealed)

/-- The first token with the public key of the session has a counter below that of the response;
the certificates of all tokens can be parsed. -/
def Operation.CounterBelow (op : Operation) (tokens : Option (List TokenStorageData)) : Prop :=
  match op with
  | processSignResponse signResponse =>
      ∀ data counter, signSession unsealed signResponse.sessionId = .ok data →
        responseCounter server signResponse = .ok counter →
        ∃ keys key, (userTokens data.accountName tokens).securityKeyData server.platform = .ok keys ∧
          keys.find? (MemoryDataStore.hasPublicKey data.publicKey) = some key ∧
          key.counter < counter
  | _ => True

/-- The two operations, by the event that names them. -/
def both (op₁ op₂ : Operation) : Bool → Operation
  | false => op₁
  | true => op₂

/-- **The condition on a step that saves**: the entity in the store is still the one that the
operation has loaded last, and if the operation is a sign response, the key it has checked still has
a smaller counter. -/
def SavesFresh (ops : Bool → Operation)
    (c : Interleaved Bool String (List TokenStorageData) (Except Throwable Unit)) (i : Bool) : Prop :=
  ReadModifyWrite.Fresh (fun j => (ops j).CounterBelow server unsealed) c i

variable {server unsealed}

/-- The checks of a sign response look at the public key and at the counter of the key. -/
theorem checkSignResponse_congr {signResponse : SignResponse} {data : SignSessionData}
    {key key' : SecurityKeyData Cert} {counter : Int32}
    (h : server.checkSignResponse signResponse data key = .ok counter)
    (hpublicKey : key'.publicKey = key.publicKey) (hcounter : key'.counter < counter) :
    server.checkSignResponse signResponse data key' = .ok counter := by
  have hresponse := responseCounter_of_checkSignResponse h
  simp only [U2FServerReferenceImpl.checkSignResponse, Except.bind_eq_ok_iff,
    throwIf_eq_ok_iff] at h ⊢
  obtain ⟨browserData, hbrowser, raw, hraw, json, hjson, u, hverify, response, hdecode, v, hpresence,
    w, _, appId, happId, hash, hhash, publicKey, hdecodeKey, verified, hverified, x, htrue, hc⟩ := h
  obtain rfl : response.counter = counter := Except.ok.inj hc
  exact ⟨browserData, hbrowser, raw, hraw, json, hjson, u, hverify, response, hdecode, v, hpresence,
    w, Int32.not_le.2 hcounter, appId, happId, hash, hhash, publicKey, hpublicKey ▸ hdecodeKey,
    verified, hverified, x, htrue, hc⟩

/-- What the loop of `updateCounter` throws is what parsing all the tokens throws. -/
theorem mapM_of_updateFirst_error {publicKey : Bytes} {counter : Int32} {e : Throwable} :
    ∀ {tokens : List TokenStorageData},
      UserTokens.updateFirst server.platform publicKey counter tokens = .error e →
      tokens.mapM (TokenStorageData.getSecurityKeyData server.platform) = .error e := by
  intro tokens
  induction tokens with
  | nil => exact nofun
  | cons token tokens ih =>
      intro h
      rw [UserTokens.updateFirst] at h
      rw [List.mapM_cons]
      cases hkey : token.getSecurityKeyData server.platform with
      | error e' =>
          rw [hkey] at h
          obtain rfl : e' = e := Except.error.inj h
          rfl
      | ok key =>
          rw [hkey, Except.ok_bind] at h
          rw [Except.ok_bind]
          split at h
          · cases h
          · cases hrest : UserTokens.updateFirst server.platform publicKey counter tokens with
            | error e' =>
                rw [hrest] at h
                obtain rfl : e' = e := Except.error.inj h
                rw [ih hrest]
                rfl
            | ok tokens' =>
                rw [hrest] at h
                cases h

/-- Only a sign response looks at the entity before it updates it. -/
theorem eq_of_guarded {op : Operation} {accountName : String}
    {guard : Option (List TokenStorageData) → Except Throwable Unit}
    {modify : Option (List TokenStorageData) → Except Throwable (List TokenStorageData)}
    (h : op.readModifyWrite server unsealed = .guarded accountName guard modify) :
    ∃ signResponse data, op = .processSignResponse signResponse ∧
      signSession unsealed signResponse.sessionId = .ok data ∧
      guard = (fun tokens => (checkKey server signResponse data tokens).map fun _ => ()) ∧
      modify = modifyTokens data.accountName (fun userTokens => do
        userTokens.updateCounter server.platform data.publicKey
          (← responseCounter server signResponse)) := by
  cases op with
  | processRegistrationResponse registrationResponse currentTimeInMillis =>
      rw [Operation.readModifyWrite] at h
      split at h <;> cases h
  | removeSecurityKey accountName publicKey => cases h
  | processSignResponse signResponse =>
      rw [Operation.readModifyWrite] at h
      split at h
      · cases h
      · rename_i data hdata
        obtain ⟨-, rfl, rfl⟩ := ReadModifyWrite.guarded.inj h
        exact ⟨signResponse, data, rfl, hdata, rfl, rfl⟩

theorem checkKey_eq_ok_iff {signResponse : SignResponse} {data : SignSessionData}
    {tokens : Option (List TokenStorageData)} {counter : Int32} :
    checkKey server signResponse data tokens = .ok counter ↔
      ∃ keys key, (userTokens data.accountName tokens).securityKeyData server.platform = .ok keys ∧
        keys.find? (MemoryDataStore.hasPublicKey data.publicKey) = some key ∧
        server.checkSignResponse signResponse data key = .ok counter := by
  simp only [checkKey, Except.bind_eq_ok_iff, orThrow_eq_ok_iff]
  constructor
  · rintro ⟨keys, hkeys, key, hkey, hcheck⟩
    exact ⟨keys, key, hkeys, hkey, hcheck⟩
  · rintro ⟨keys, key, hkeys, hkey, hcheck⟩
    exact ⟨keys, hkeys, key, hkey, hcheck⟩

theorem map_eq_ok_iff {α : Type} {x : Except Throwable α} :
    (x.map fun _ => ()) = .ok () ↔ ∃ a, x = .ok a := by
  cases x <;> simp [Except.map]

/-- **A sign response that has passed its checks would pass them again**, and would be refused with
what an update throws. -/
theorem rechecks (ops : Bool → Operation) :
    ReadModifyWrite.Rechecks (fun i => (ops i).readModifyWrite server unsealed)
      fun i => (ops i).CounterBelow server unsealed where
  passes := by
    intro i accountName guard modify v v' hop hguard hstill
    obtain ⟨signResponse, data, hi, hdata, rfl, rfl⟩ := eq_of_guarded hop
    obtain ⟨counter, hcheck⟩ := map_eq_ok_iff.1 hguard
    obtain ⟨_, key, _, hkey, hchecked⟩ := checkKey_eq_ok_iff.1 hcheck
    rw [hi] at hstill
    -- the checks read the key only through its public key and its counter
    obtain ⟨keys', key', hkeys', hkey', hcounter⟩ :=
      hstill data counter hdata (responseCounter_of_checkSignResponse hchecked)
    have hpublicKey : key'.publicKey = key.publicKey :=
      (publicKey_of_find hkey').trans (publicKey_of_find hkey).symm
    exact map_eq_ok_iff.2 ⟨counter, checkKey_eq_ok_iff.2
      ⟨keys', key', hkeys', hkey', checkSignResponse_congr hchecked hpublicKey hcounter⟩⟩
  refuses := by
    intro i accountName guard modify v v' e hop hguard hmodify
    obtain ⟨signResponse, data, hi, hdata, rfl, rfl⟩ := eq_of_guarded hop
    obtain ⟨counter, hcheck⟩ := map_eq_ok_iff.1 hguard
    obtain ⟨_, key, _, hkey, hchecked⟩ := checkKey_eq_ok_iff.1 hcheck
    rw [modifyTokens, responseCounter_of_checkSignResponse hchecked, Except.ok_bind,
      UserTokens.updateCounter] at hmodify
    -- the update throws, and the checks would have thrown the same
    cases hupdate : UserTokens.updateFirst server.platform data.publicKey counter
        (userTokens data.accountName v').tokens with
    | ok tokens =>
        rw [hupdate] at hmodify
        cases hmodify
    | error e' =>
        rw [hupdate] at hmodify
        obtain rfl : e' = e := Except.error.inj hmodify
        have hcheck' : checkKey server signResponse data v' = .error e' := by
          rw [checkKey, UserTokens.securityKeyData, mapM_of_updateFirst_error hupdate]
          rfl
        exact congrArg (Except.map fun _ => ()) hcheck'

/-! ### Runs of two operations -/

/-- **A run whose saves are fresh is a serial one.**  Whatever the operations, the entities and the
order of their loads and saves, if both operations have ended, the entities and the results are
those of the operations one after the other. -/
theorem serializable {op₁ op₂ : Operation} {store : Entities String (List TokenStorageData)}
    {schedule : List Bool} {r₁ r₂ : Except Throwable Unit}
    (hfresh : system.AllSteps (SavesFresh server unsealed (both op₁ op₂))
      (.start (fun i => (both op₁ op₂ i).program server unsealed) store) schedule)
    (h₁ : (system.exec (.start (fun i => (both op₁ op₂ i).program server unsealed) store)
      schedule).program false = .done r₁)
    (h₂ : (system.exec (.start (fun i => (both op₁ op₂ i).program server unsealed) store)
      schedule).program true = .done r₂) :
    InSomeOrder (op₁.program server unsealed) (op₂.program server unsealed) store r₁ r₂
      (system.exec (.start (fun i => (both op₁ op₂ i).program server unsealed) store)
        schedule).store := by
  have hprograms : (fun i => (both op₁ op₂ i).program server unsealed) =
      fun i => ((both op₁ op₂ i).readModifyWrite server unsealed).program :=
    funext fun i => program_eq _
  have hserial : Serialized (fun i => (both op₁ op₂ i).program server unsealed) store
      (system.exec (.start (fun i => (both op₁ op₂ i).program server unsealed) store) schedule) := by
    rw [hprograms] at hfresh ⊢
    exact ReadModifyWrite.serialized_exec (rechecks _) hfresh
  exact inSomeOrder_of_serialized hserial h₁ h₂

/-! ### Two removals -/

section Removals

open TestVectors

/-- A key of the account of the tests. -/
def token (publicKey : Bytes) : TokenStorageData := ⟨0, none, [3], publicKey, [1], 0⟩

/-- Two accounts with two keys each. -/
def twoKeys : Entities String (List TokenStorageData) := fun accountName =>
  if accountName = ACCOUNT_NAME ∨ accountName = ORIGIN then some [token [1], token [2]] else none

/-- The removal of a key, for the server of the tests and a certificate with a short encoding. -/
def removal (accountName : String) (publicKey : Bytes) :
    LoadSave String (List TokenStorageData) (Except Throwable Unit) :=
  (Operation.removeSecurityKey accountName publicKey).program (testServer [1])
    fun _ => .error .classCastException

/-- Two removals, each of which loads the entity before one of them saves it. -/
def interleavedRemovals (op₁ op₂ : Operation) :
    Interleaved Bool String (List TokenStorageData) (Except Throwable Unit) :=
  system.exec (.start (fun i => (both op₁ op₂ i).program (testServer [1])
    fun _ => .error .classCastException) twoKeys) [false, true, false, true]

/-- Removals for two accounts are fresh in any order. -/
theorem serializable_removals :
    InSomeOrder (removal ACCOUNT_NAME [1]) (removal ORIGIN [2]) twoKeys (.ok ()) (.ok ())
      (interleavedRemovals (.removeSecurityKey ACCOUNT_NAME [1])
        (.removeSecurityKey ORIGIN [2])).store := by
  rw [removal, removal, interleavedRemovals]
  refine serializable ?_ rfl rfl
  refine ⟨nofun, nofun, ?_, ?_, trivial⟩
  · intro k w next h
    obtain ⟨rfl, rfl, rfl⟩ := LoadSave.save.inj h
    exact ⟨rfl, trivial⟩
  · intro k w next h
    obtain ⟨rfl, rfl, rfl⟩ := LoadSave.save.inj h
    exact ⟨rfl, trivial⟩

/-- **Two removals at once can leave a key.**  Both return, and the first of the keys is back. -/
theorem removed_key_returns :
    let c := interleavedRemovals (.removeSecurityKey ACCOUNT_NAME [1])
      (.removeSecurityKey ACCOUNT_NAME [2])
    c.program false = .done (.ok ()) ∧ c.program true = .done (.ok ()) ∧
      c.store ACCOUNT_NAME = some [token [1]] ∧
      ¬ InSomeOrder (removal ACCOUNT_NAME [1]) (removal ACCOUNT_NAME [2]) twoKeys (.ok ()) (.ok ())
        c.store := by
  have hleft : (interleavedRemovals (.removeSecurityKey ACCOUNT_NAME [1])
      (.removeSecurityKey ACCOUNT_NAME [2])).store ACCOUNT_NAME = some [token [1]] := rfl
  refine ⟨rfl, rfl, hleft, ?_⟩
  -- In either order, both keys are gone.
  rintro (⟨store, h₁, h₂⟩ | ⟨store, h₁, h₂⟩)
  · have hgone : ((removal ACCOUNT_NAME [2]).alone
        ((removal ACCOUNT_NAME [1]).alone twoKeys).2).2 ACCOUNT_NAME = some [] := rfl
    rw [h₁, h₂] at hgone
    exact absurd (hleft.symm.trans hgone) nofun
  · have hgone : ((removal ACCOUNT_NAME [1]).alone
        ((removal ACCOUNT_NAME [2]).alone twoKeys).2).2 ACCOUNT_NAME = some [] := rfl
    rw [h₁, h₂] at hgone
    exact absurd (hleft.symm.trans hgone) nofun

end Removals

end DataStoreImpl

end U2F
