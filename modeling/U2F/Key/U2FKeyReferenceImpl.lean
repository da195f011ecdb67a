/-
**The reference key.**

`U2FKeyReferenceImpl.java` makes a key pair for a registration and signs with it later.  The key
pairs are stored by key handle, and all of them share one counter.  The key pair and the key handle
that the generators return, and the answer of the user presence verifier, are given with the calls.

Main definitions:

* `KeyDataStore` — the data store of the key;
* `U2FKeyReferenceImpl` — a key, with the libraries it uses;
* `U2FKeyReferenceImpl.register`, `U2FKeyReferenceImpl.authenticate` — the methods.

Main results:

* `U2FKeyReferenceImpl.register_returns_iff`, `U2FKeyReferenceImpl.authenticate_returns_iff` — when
  each method returns, with what, and what it writes.
-/

import Mathlib.Logic.Function.Basic
import U2F.Codec.RawMessageCodec
import U2F.Server.U2FServerReferenceImpl

set_option relaxedAutoImplicit false
set_option autoImplicit false

namespace U2F

structure KeyPair (PublicKey PrivateKey : Type) where
  publicKey : PublicKey
  privateKey : PrivateKey

/-- The stored key pairs, and how often the counter has been incremented. -/
structure KeyDataStore (PublicKey PrivateKey : Type) where
  keyPairs : Bytes → Option (KeyPair PublicKey PrivateKey)
  countersReturned : ℕ

namespace KeyDataStore

variable {PublicKey PrivateKey : Type}

def new : KeyDataStore PublicKey PrivateKey := ⟨fun _ => none, 0⟩

def storeKeyPair (keyHandle : Bytes) (keyPair : KeyPair PublicKey PrivateKey)
    (store : KeyDataStore PublicKey PrivateKey) : KeyDataStore PublicKey PrivateKey :=
  { store with keyPairs := Function.update store.keyPairs keyHandle (some keyPair) }

/-- Null for a key handle that is not stored. -/
def getKeyPair (store : KeyDataStore PublicKey PrivateKey) (keyHandle : Bytes) :
    Option (KeyPair PublicKey PrivateKey) :=
  store.keyPairs keyHandle

/-- The counter that the `n`-th call returns is `counters n`. -/
def incrementCounter (counters : ℕ → Int32) (store : KeyDataStore PublicKey PrivateKey) :
    Int32 × KeyDataStore PublicKey PrivateKey :=
  (counters store.countersReturned, { store with countersReturned := store.countersReturned + 1 })

end KeyDataStore

/-- A key. -/
structure U2FKeyReferenceImpl (Cert PublicKey PrivateKey : Type) where
  vendorCertificate : Cert
  certificatePrivateKey : PrivateKey
  encodePublicKey : PublicKey → Bytes
  /-- What the calls of `incrementCounter` return, one after another. -/
  counters : ℕ → Int32
  sign : Bytes → PrivateKey → Except Throwable Bytes

namespace U2FKeyReferenceImpl

variable {Cert PublicKey PrivateKey : Type} (key : U2FKeyReferenceImpl Cert PublicKey PrivateKey)

def register (registerRequest : RegisterRequest) (userPresent : UInt8)
    (keyPair : KeyPair PublicKey PrivateKey) (keyHandle : Bytes) :
    Call (KeyDataStore PublicKey PrivateKey) Throwable (RegisterResponse Cert) := do
  throwIf (userPresent &&& USER_PRESENT_FLAG = 0) (.u2fException "Cannot verify user presence")
  modify (KeyDataStore.storeKeyPair keyHandle keyPair)
  let userPublicKey := key.encodePublicKey keyPair.publicKey
  let signedData := RawMessageCodec.encodeRegistrationSignedBytes
    registerRequest.applicationSha256 registerRequest.challengeSha256 keyHandle userPublicKey
  let signature ← key.sign signedData key.certificatePrivateKey
  return ⟨userPublicKey, keyHandle, key.vendorCertificate, signature⟩

/-- The counter is incremented before the key pair is used. -/
def authenticate (authenticateRequest : AuthenticateRequest) (userPresence : UInt8) :
    Call (KeyDataStore PublicKey PrivateKey) Throwable AuthenticateResponse := do
  let keyPair := (← get).getKeyPair authenticateRequest.keyHandle
  let counter ← modifyGet (KeyDataStore.incrementCounter key.counters)
  let signedData := RawMessageCodec.encodeAuthenticateSignedBytes
    authenticateRequest.applicationSha256 userPresence counter authenticateRequest.challengeSha256
  let signature ← key.sign signedData (← requireNonNull keyPair).privateKey
  return ⟨userPresence, counter, signature⟩

theorem register_returns_iff {registerRequest : RegisterRequest} {userPresent : UInt8}
    {keyPair : KeyPair PublicKey PrivateKey} {keyHandle : Bytes}
    {s s' : KeyDataStore PublicKey PrivateKey} {r : RegisterResponse Cert} :
    (key.register registerRequest userPresent keyPair keyHandle).Returns s r s' ↔
      userPresent &&& USER_PRESENT_FLAG ≠ 0 ∧
      (∃ signature,
        key.sign (RawMessageCodec.encodeRegistrationSignedBytes registerRequest.applicationSha256
          registerRequest.challengeSha256 keyHandle (key.encodePublicKey keyPair.publicKey))
          key.certificatePrivateKey = .ok signature ∧
        r = ⟨key.encodePublicKey keyPair.publicKey, keyHandle, key.vendorCertificate, signature⟩) ∧
      s' = s.storeKeyPair keyHandle keyPair := by
  simp only [register, Call.returns_throwIf_bind_iff, Call.returns_modify_bind_iff,
    Call.returns_lift_bind_iff, Call.returns_pure_iff]
  constructor
  · rintro ⟨hpresent, signature, hsign, rfl, rfl⟩
    exact ⟨hpresent, ⟨signature, hsign, rfl⟩, rfl⟩
  · rintro ⟨hpresent, ⟨signature, hsign, rfl⟩, rfl⟩
    exact ⟨hpresent, signature, hsign, rfl, rfl⟩

theorem authenticate_returns_iff {authenticateRequest : AuthenticateRequest} {userPresence : UInt8}
    {s s' : KeyDataStore PublicKey PrivateKey} {r : AuthenticateResponse} :
    (key.authenticate authenticateRequest userPresence).Returns s r s' ↔
      (∃ keyPair signature,
        s.getKeyPair authenticateRequest.keyHandle = some keyPair ∧
        key.sign (RawMessageCodec.encodeAuthenticateSignedBytes
          authenticateRequest.applicationSha256 userPresence (key.counters s.countersReturned)
          authenticateRequest.challengeSha256) keyPair.privateKey = .ok signature ∧
        r = ⟨userPresence, key.counters s.countersReturned, signature⟩) ∧
      s' = { s with countersReturned := s.countersReturned + 1 } := by
  simp only [authenticate, KeyDataStore.incrementCounter, Call.returns_get_bind_iff,
    Call.returns_modifyGet_bind_iff, Call.returns_lift_bind_iff, requireNonNull_eq_ok_iff,
    Call.returns_pure_iff]
  constructor
  · rintro ⟨keyPair, hkeyPair, signature, hsign, rfl, rfl⟩
    exact ⟨⟨keyPair, signature, hkeyPair, hsign, rfl⟩, rfl⟩
  · rintro ⟨⟨keyPair, signature, hkeyPair, hsign, rfl⟩, rfl⟩
    exact ⟨keyPair, hkeyPair, signature, hsign, rfl, rfl⟩

end U2FKeyReferenceImpl

end U2F
