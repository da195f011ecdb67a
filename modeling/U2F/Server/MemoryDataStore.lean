/-
**The data store of the server.**

`MemoryDataStore.java` keeps the sessions in one map, by session id, and the registered keys in
another, by account name.  The keys of an account are a list; a key is updated and removed at the
first entry that has its public key.

Main definitions:

* `SessionIdGenerator` — a generator of session ids, all different;
* `MemoryDataStore` — the store, and its operations under their names in the source.

Main results:

* `MemoryDataStore.getSecurityKeyData_removeSecurityKey` — a removal takes out the first entry
  with the public key, though the code looks for it by `equals`;
* the lemmas that say what each operation does to the list of an account and to a session.
-/

import Mathlib.Logic.Function.Basic
import U2F.Lib.FirstMatch
import U2F.Server.Data

set_option relaxedAutoImplicit false
set_option autoImplicit false

namespace U2F

/-- A generator of session ids: the id that its `n`-th call returns.  Ids are fresh. -/
structure SessionIdGenerator where
  generateSessionId : ℕ → String → String
  fresh : ∀ {m n a b}, generateSessionId m a = generateSessionId n b → m = n

/-- The maps of the store, and the number of session ids it has asked for. -/
structure MemoryDataStore (Cert : Type) where
  sessionDataBase : String → Option SessionData
  securityKeyDataBase : String → Option (List (SecurityKeyData Cert))
  sessionIdsGenerated : ℕ

namespace MemoryDataStore

variable {Cert : Type}

/-! ### The code -/

/-- The constructor. -/
def new : MemoryDataStore Cert := ⟨fun _ => none, fun _ => none, 0⟩

def storeSessionData (generator : SessionIdGenerator) (sessionData : SessionData)
    (store : MemoryDataStore Cert) : String × MemoryDataStore Cert :=
  let sessionId := generator.generateSessionId store.sessionIdsGenerated
    sessionData.toEnrollSessionData.accountName
  (sessionId, { store with
    sessionDataBase := Function.update store.sessionDataBase sessionId (some sessionData)
    sessionIdsGenerated := store.sessionIdsGenerated + 1 })

/-- `sessionDataBase.get(sessionId)`; no session has the null id. -/
def getSessionData (store : MemoryDataStore Cert) (sessionId : Option String) :
    Option SessionData :=
  sessionId.bind store.sessionDataBase

def getEnrollSessionData (store : MemoryDataStore Cert) (sessionId : Option String) :
    Option EnrollSessionData :=
  (store.getSessionData sessionId).map SessionData.toEnrollSessionData

/-- The cast to `SignSessionData` throws on a session that is not one. -/
def getSignSessionData (store : MemoryDataStore Cert) (sessionId : Option String) :
    Except Throwable (Option SignSessionData) :=
  match store.getSessionData sessionId with
  | none => .ok none
  | some (.sign data) => .ok (some data)
  | some (.enroll _) => .error .classCastException

def getSecurityKeyData (store : MemoryDataStore Cert) (accountName : String) :
    List (SecurityKeyData Cert) :=
  (store.securityKeyDataBase accountName).getD []

/-- `securityKeyDataBase.put`, and the effect of a change of the account's list in place. -/
def putSecurityKeyData (accountName : String) (tokens : Option (List (SecurityKeyData Cert)))
    (store : MemoryDataStore Cert) : MemoryDataStore Cert :=
  { store with
    securityKeyDataBase := Function.update store.securityKeyDataBase accountName tokens }

def addSecurityKeyData (accountName : String) (securityKeyData : SecurityKeyData Cert)
    (store : MemoryDataStore Cert) : MemoryDataStore Cert :=
  store.putSecurityKeyData accountName
    (some (store.getSecurityKeyData accountName ++ [securityKeyData]))

/-- The test `Arrays.equals(token.getPublicKey(), publicKey)`. -/
def hasPublicKey (publicKey : Bytes) (token : SecurityKeyData Cert) : Bool :=
  token.publicKey = publicKey

theorem hasPublicKey_self (token : SecurityKeyData Cert) :
    hasPublicKey token.publicKey token = true :=
  decide_eq_true rfl

/-- The first token with the public key is taken out by `tokens.remove(token)`, which removes the
first element that it equals. -/
def removeSecurityKey [DecidableEq Cert] (accountName : String) (publicKey : Bytes)
    (store : MemoryDataStore Cert) : MemoryDataStore Cert :=
  let tokens := store.getSecurityKeyData accountName
  match tokens.find? (hasPublicKey publicKey) with
  | none => store
  | some token => store.putSecurityKeyData accountName (some (tokens.eraseP token.equals))

/-- The list of the account is changed in place, if there is one. -/
def updateSecurityKeyCounter (accountName : String) (publicKey : Bytes) (newCounterValue : Int32)
    (store : MemoryDataStore Cert) : MemoryDataStore Cert :=
  store.putSecurityKeyData accountName ((store.securityKeyDataBase accountName).map
    (FirstMatch.update (hasPublicKey publicKey) (·.setCounter newCounterValue)))

/-! ### The lists of keys -/

variable (store : MemoryDataStore Cert) (accountName : String) (publicKey : Bytes)

@[simp] theorem getSecurityKeyData_storeSessionData (generator : SessionIdGenerator)
    (sessionData : SessionData) :
    (store.storeSessionData generator sessionData).2.getSecurityKeyData =
      store.getSecurityKeyData := rfl

theorem getSecurityKeyData_putSecurityKeyData (tokens : Option (List (SecurityKeyData Cert))) :
    (store.putSecurityKeyData accountName tokens).getSecurityKeyData =
      Function.update store.getSecurityKeyData accountName (tokens.getD []) := by
  funext a
  by_cases ha : a = accountName
  · subst ha
    simp [putSecurityKeyData, getSecurityKeyData]
  · simp [putSecurityKeyData, getSecurityKeyData, ha]

theorem getSecurityKeyData_addSecurityKeyData (k : SecurityKeyData Cert) :
    (store.addSecurityKeyData accountName k).getSecurityKeyData =
      Function.update store.getSecurityKeyData accountName
        (store.getSecurityKeyData accountName ++ [k]) :=
  getSecurityKeyData_putSecurityKeyData _ _ _

theorem getSecurityKeyData_updateSecurityKeyCounter (c : Int32) :
    (store.updateSecurityKeyCounter accountName publicKey c).getSecurityKeyData =
      Function.update store.getSecurityKeyData accountName
        (FirstMatch.update (hasPublicKey publicKey) (·.setCounter c)
          (store.getSecurityKeyData accountName)) := by
  rw [updateSecurityKeyCounter, getSecurityKeyData_putSecurityKeyData, getSecurityKeyData]
  cases store.securityKeyDataBase accountName <;> rfl

/-- **A removal takes out the first entry with the public key.** -/
theorem getSecurityKeyData_removeSecurityKey [DecidableEq Cert] :
    (store.removeSecurityKey accountName publicKey).getSecurityKeyData =
      Function.update store.getSecurityKeyData accountName
        ((store.getSecurityKeyData accountName).eraseP (hasPublicKey publicKey)) := by
  simp only [removeSecurityKey]
  cases h : (store.getSecurityKeyData accountName).find? (hasPublicKey publicKey) with
  | none =>
      rw [List.find?_eq_none] at h
      rw [List.eraseP_of_forall_not h, Function.update_eq_self]
  | some token =>
      have htoken : token.publicKey = publicKey := by
        simpa [hasPublicKey] using List.find?_some h
      have herase : (store.getSecurityKeyData accountName).eraseP token.equals =
          (store.getSecurityKeyData accountName).eraseP (hasPublicKey publicKey) := by
        refine FirstMatch.eraseP_congr h token.equals_self fun k hk => ?_
        simpa [hasPublicKey, htoken] using (SecurityKeyData.publicKey_eq_of_equals hk).symm
      simp only [getSecurityKeyData_putSecurityKeyData, Option.getD_some, herase]

/-! ### The sessions -/

theorem getSessionData_storeSessionData_of_ne {generator : SessionIdGenerator}
    {sessionData : SessionData} {sessionId : Option String}
    (h : sessionId ≠ some (store.storeSessionData generator sessionData).1) :
    (store.storeSessionData generator sessionData).2.getSessionData sessionId =
      store.getSessionData sessionId := by
  cases sessionId with
  | none => rfl
  | some id =>
      have hid : id ≠ (store.storeSessionData generator sessionData).1 := fun he => h (he ▸ rfl)
      exact Function.update_of_ne hid _ _

@[simp] theorem getSessionData_storeSessionData (generator : SessionIdGenerator)
    (sessionData : SessionData) :
    (store.storeSessionData generator sessionData).2.getSessionData
      (some (store.storeSessionData generator sessionData).1) = some sessionData :=
  Function.update_self _ _ _

@[simp] theorem getSessionData_addSecurityKeyData (k : SecurityKeyData Cert) :
    (store.addSecurityKeyData accountName k).getSessionData = store.getSessionData := rfl

@[simp] theorem getSessionData_updateSecurityKeyCounter (c : Int32) :
    (store.updateSecurityKeyCounter accountName publicKey c).getSessionData =
      store.getSessionData := rfl

@[simp] theorem getSessionData_removeSecurityKey [DecidableEq Cert] :
    (store.removeSecurityKey accountName publicKey).getSessionData = store.getSessionData := by
  simp only [removeSecurityKey]
  cases (store.getSecurityKeyData accountName).find? (hasPublicKey publicKey) <;> rfl

end MemoryDataStore

end U2F
