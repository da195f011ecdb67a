/-
**The data store of the demo on App Engine.**

`DataStoreImpl.java` keeps the keys of an account in one entity, `UserTokens`, which every method
loads, changes in memory and saves.  A load of an entity and a save of one are single steps; what
lies between them is not in a transaction.  A session is not stored: its sealed data are the session
id, and unsealing an id is a parameter here.

Main definitions:

* `TokenStorageData`, `UserTokens` — the entity of an account;
* `DataStoreImpl.dataStore` — the store as an implementation of `DataStore`, whose calls are
  programs of loads and saves.
-/

import U2F.Lib.LoadSave
import U2F.Server.DataStore

set_option relaxedAutoImplicit false
set_option autoImplicit false

namespace U2F

/-! ### The entity -/

structure TokenStorageData where
  enrollmentTime : Int64
  transports : Option (List Transports)
  keyHandle : Bytes
  publicKey : Bytes
  attestationCert : Bytes
  counter : Int32
  deriving DecidableEq

namespace TokenStorageData

variable {Cert : Type} (P : Platform Cert)

/-- The constructor; its exception has no message. -/
def ofSecurityKeyData (tokenData : SecurityKeyData Cert) : Except Throwable TokenStorageData := do
  let attestationCert ← (P.getEncoded tokenData.attestationCert).mapError fun e =>
    if e = .certificateEncodingException then .runtimeException "" else e
  return ⟨tokenData.enrollmentTime, tokenData.transports, tokenData.keyHandle, tokenData.publicKey,
    attestationCert, tokenData.counter⟩

def updateCounter (token : TokenStorageData) (newCounterValue : Int32) : TokenStorageData :=
  { token with counter := newCounterValue }

/-- The exception that wraps another has the name of that one in its message. -/
def parseCertificate (encodedDerCertificate : Bytes) : Except Throwable Cert :=
  ((P.generateCertificate encodedDerCertificate).map Prod.fst).mapError fun e =>
    if e.isCertificateException then
      .runtimeException "java.security.cert.CertificateException"
    else e

def getSecurityKeyData (token : TokenStorageData) : Except Throwable (SecurityKeyData Cert) := do
  let x509cert ← parseCertificate P token.attestationCert
  return ⟨token.enrollmentTime, token.transports, token.keyHandle, token.publicKey, x509cert,
    token.counter⟩

def equals (this that : TokenStorageData) : Bool :=
  this.enrollmentTime = that.enrollmentTime &&
    SecurityKeyData.containSameTransports this.transports that.transports &&
    this.counter = that.counter && this.keyHandle = that.keyHandle &&
    this.publicKey = that.publicKey && this.attestationCert = that.attestationCert

end TokenStorageData

/-- The entity `UserTokens`. -/
structure UserTokens where
  userId : String
  tokens : List TokenStorageData

namespace UserTokens

variable {Cert : Type} (P : Platform Cert)

/-- `new UserTokens(userId)` -/
def new (userId : String) : UserTokens := ⟨userId, []⟩

/-- The loop of `removeToken`: the first token with the public key. -/
def findToken (publicKey : Bytes) : List TokenStorageData →
    Except Throwable (Option TokenStorageData)
  | [] => return none
  | token :: tokens => do
      let securityKeyData ← token.getSecurityKeyData P
      if securityKeyData.publicKey = publicKey then return some token
      else findToken publicKey tokens

/-- `tokens.remove(token)` removes the first element that the token equals. -/
def removeToken (userTokens : UserTokens) (publicKey : Bytes) : Except Throwable UserTokens := do
  match ← findToken P publicKey userTokens.tokens with
  | none => return userTokens
  | some token => return { userTokens with tokens := userTokens.tokens.eraseP token.equals }

/-- The loop of `updateCounter`, which changes the first token with the public key in place. -/
def updateFirst (publicKey : Bytes) (newCounterValue : Int32) : List TokenStorageData →
    Except Throwable (List TokenStorageData)
  | [] => return []
  | token :: tokens => do
      let securityKeyData ← token.getSecurityKeyData P
      if securityKeyData.publicKey = publicKey then
        return token.updateCounter newCounterValue :: tokens
      else return token :: (← updateFirst publicKey newCounterValue tokens)

def updateCounter (userTokens : UserTokens) (publicKey : Bytes) (newCounterValue : Int32) :
    Except Throwable UserTokens := do
  return { userTokens with tokens := ← updateFirst P publicKey newCounterValue userTokens.tokens }

/-- The loop of `DataStoreImpl.getSecurityKeyData`. -/
def securityKeyData (userTokens : UserTokens) : Except Throwable (List (SecurityKeyData Cert)) :=
  userTokens.tokens.mapM (TokenStorageData.getSecurityKeyData P)

def addToken (userTokens : UserTokens) (token : TokenStorageData) : UserTokens :=
  { userTokens with tokens := userTokens.tokens ++ [token] }

end UserTokens

/-! ### The store -/

namespace DataStoreImpl

variable {Cert : Type}

/-- A call: loads and saves of the tokens of users, by their ids, that may throw. -/
abbrev StoreCall := ExceptT Throwable (LoadSave String (List TokenStorageData))

/-- `ofy().load().type(UserTokens.class).id(accountName).now()`: the id is the key of the entity. -/
def load (accountName : String) : StoreCall (Option UserTokens) :=
  ExceptT.lift (.load accountName fun tokens => .done (tokens.map (UserTokens.mk accountName)))

/-- `ofy().save().entity(userTokens).now()` -/
def save (userTokens : UserTokens) : StoreCall Unit :=
  ExceptT.lift (.save userTokens.userId userTokens.tokens (.done ()))

def getUserTokens (accountName : String) : StoreCall UserTokens := do
  return (← load accountName).getD (UserTokens.new accountName)

/-- `DataStoreImpl`, for a platform and the data that are sealed in a session id. -/
def dataStore (P : Platform Cert) (unsealed : Option String → Except Throwable SessionData) :
    DataStore Cert StoreCall where
  getEnrollSessionData sessionId := do
    return some (← unsealed sessionId).toEnrollSessionData
  getSignSessionData sessionId := do
    match ← unsealed sessionId with
    | .sign data => return some data
    | .enroll _ => throw .classCastException
  addSecurityKeyData accountName securityKeyData := do
    let tokens ← getUserTokens accountName
    let newToken ← TokenStorageData.ofSecurityKeyData P securityKeyData
    save (tokens.addToken newToken)
  getSecurityKeyData accountName := do
    let tokens ← getUserTokens accountName
    tokens.securityKeyData P
  removeSecurityKey accountName publicKey := do
    let tokens ← getUserTokens accountName
    save (← tokens.removeToken P publicKey)
  updateSecurityKeyCounter accountName publicKey newCounterValue := do
    let tokens ← getUserTokens accountName
    save (← tokens.updateCounter P publicKey newCounterValue)

end DataStoreImpl

end U2F
