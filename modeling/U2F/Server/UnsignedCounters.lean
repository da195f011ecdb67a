/-
**Counters past 2^31.**

A counter is four bytes of a message, and a token counts with all of them.  The server reads it as an
`int` and compares it as one, so from 2^31 on a counter is negative.  Here the counter of a response
is the unsigned number of its four bytes.  A token that has been registered counts up from there, and
the server accepts its responses as long as the counter is below 2^31, and none after that.

Main definitions:

* `U2FServerReferenceImpl.counterTest` — the test of `processSignResponse` on the counter;
* `U2FServerReferenceImpl.ValidButCounter` — what a response has to pass besides this test;
* `U2FServerReferenceImpl.OffersSign` — such a response comes for a key, with a counter;
* `U2FServerReferenceImpl.CountsUp` — the counters of the responses for a key strictly increase, and
  begin with 1 or more.

Main results:

* `U2FServerReferenceImpl.reply_of_validButCounter` — the test decides;
* `U2FServerReferenceImpl.counters_exec` — the counters that are stored in a run;
* `U2FServerReferenceImpl.acceptsIncreasing_iff_below` — **the test is the unsigned one exactly for
  two counters on the same side of 2^31, and a token that counts up is accepted exactly below 2^31**.
-/

import U2F.Server.Counters

set_option relaxedAutoImplicit false
set_option autoImplicit false

namespace U2F

open MemoryDataStore

namespace U2FServerReferenceImpl

/-! ### The test -/

/-- `if (counter <= securityKeyData.getCounter()) throw …` -/
def counterTest (stored counter : Int32) : Except Throwable Unit :=
  throwIf (counter ≤ stored) (.u2fException "Counter value smaller than expected!")

theorem counterTest_eq_ok_iff {stored counter : Int32} {u : Unit} :
    counterTest stored counter = .ok u ↔ stored < counter := by
  rw [counterTest, throwIf_eq_ok_iff, Int32.not_le]

/-- A signed word, from the unsigned number that it stands for. -/
theorem toInt_toInt32 (c : UInt32) :
    c.toInt32.toInt = if c.toNat < 0x80000000 then (c.toNat : ℤ) else c.toNat - 0x100000000 := by
  have h : c.toInt32.toInt = c.toBitVec.toInt := rfl
  have hnat : c.toBitVec.toNat = c.toNat := rfl
  rw [h, BitVec.toInt_eq_toNat_cond, hnat]
  split <;> split <;> omega

/-- **The signed order is the unsigned one exactly on each side of 2^31.** -/
theorem lt_toInt32_iff (stored received : UInt32) :
    (stored.toInt32 < received.toInt32 ↔ stored < received) ↔
      (stored < 0x80000000 ↔ received < 0x80000000) := by
  have hs := stored.toNat_lt
  have hr := received.toNat_lt
  have hhalf : (0x80000000 : UInt32).toNat = 2 ^ 31 := rfl
  simp only [Int32.lt_iff_toInt_lt, toInt_toInt32, UInt32.lt_iff_toNat_lt, hhalf]
  split <;> split <;> omega

variable {Cert PublicKey : Type} [DecidableEq Cert] (server : U2FServerReferenceImpl Cert PublicKey)

/-! ### Responses that only the counter can fail -/

/-- A sign response that is valid for a session and a stored key, whatever its counter is. -/
structure ValidButCounter (session : SignSessionData) (key : SecurityKeyData Cert)
    (response : SignResponse) (browserData : String) (message : AuthenticateResponse) : Prop where
  decodes : server.platform.stringOfBase64 response.clientData = .ok browserData
  carries : server.SignMessage response message
  checks : server.ValidBrowserData browserData "navigator.id.getAssertion" session.challenge
  present : message.userPresence &&& USER_PRESENT_FLAG ≠ 0
  verifies : server.VerifiesSign session.appId key.publicKey browserData message

omit [DecidableEq Cert] in
theorem validSignResponse_iff {session : SignSessionData} {key : SecurityKeyData Cert}
    {response : SignResponse} {browserData : String} {message : AuthenticateResponse} :
    server.ValidSignResponse session key response browserData message ↔
      server.ValidButCounter session key response browserData message ∧
        key.counter < message.counter := by
  constructor
  · intro h
    exact ⟨⟨h.decodes, h.carries, h.checks, h.present, h.verifies⟩, h.greater⟩
  · rintro ⟨h, hgreater⟩
    exact ⟨h.decodes, h.carries, h.checks, h.present, hgreater, h.verifies⟩

variable {server}

/-- **The test decides**: a response that is valid but for its counter is accepted if it passes the
test, and is refused with the exception of the test if not. -/
theorem reply_of_validButCounter {store : MemoryDataStore Cert} {response : SignResponse}
    {session : SignSessionData} {key : SecurityKeyData Cert} {browserData : String}
    {message : AuthenticateResponse}
    (hsession : store.getSignSessionData response.sessionId = .ok (some session))
    (hkey : (store.getSecurityKeyData session.accountName).find?
      (hasPublicKey session.publicKey) = some key)
    (h : server.ValidButCounter session key response browserData message) :
    server.machine.reply store (.processSignResponse response) =
      (fun _ => .securityKeyData (key.setCounter message.counter)) <$>
        counterTest key.counter message.counter := by
  by_cases hle : message.counter ≤ key.counter
  · -- the checks before the test are passed
    obtain ⟨raw, hraw, hmessage⟩ := h.carries
    obtain ⟨element, hparse, u, hverify⟩ := server.parse_and_verify_iff.2 h.checks
    have hthrows : (server.processSignResponse response).outcome store =
        (.error (.u2fException "Counter value smaller than expected!"), store) := by
      simp [processSignResponse, Call.outcome_bind, hsession, hkey, orThrow, h.decodes, hraw, hparse,
        hverify, hmessage, throwIf, h.present, hle]
    rw [(server.step_of_throws Reply.securityKeyData rfl hthrows).1, counterTest, throwIf, if_pos hle]
    rfl
  · have hvalid := server.validSignResponse_iff.2 ⟨h, Int32.not_le.1 hle⟩
    rw [(server.step_of_validSignResponse hsession hkey hvalid).1, counterTest, throwIf, if_neg hle]
    rfl

variable (server)

/-- A response that is valid but for its counter, for a key of an account.  Its counter is read as an
unsigned number. -/
def OffersSign (store : MemoryDataStore Cert) (response : SignResponse) (accountName : String)
    (publicKey : Bytes) (counter : UInt32) : Prop :=
  ∃ session key browserData message,
    store.getSignSessionData response.sessionId = .ok (some session) ∧
    session.accountName = accountName ∧ session.publicKey = publicKey ∧
    (store.getSecurityKeyData accountName).find? (hasPublicKey publicKey) = some key ∧
    server.ValidButCounter session key response browserData message ∧
    message.counter.toUInt32 = counter

variable {server}

/-- The response is accepted exactly if its counter passes the test. -/
theorem OffersSign.accepts_iff {store : MemoryDataStore Cert} {response : SignResponse}
    {accountName : String} {publicKey : Bytes} {counter : UInt32}
    (h : server.OffersSign store response accountName publicKey counter) :
    ∃ stored, store.firstCounter accountName publicKey = some stored ∧
      (server.Accepts store (.processSignResponse response) ↔
        counterTest stored counter.toInt32 = .ok ()) := by
  obtain ⟨session, key, browserData, message, hsession, rfl, rfl, hkey, hvalid, rfl⟩ := h
  refine ⟨key.counter, by rw [firstCounter, hkey]; rfl, ?_⟩
  rw [Accepts, reply_of_validButCounter hsession hkey hvalid, Int32.toInt32_toUInt32]
  cases counterTest key.counter message.counter with
  | error e =>
      constructor
      · rintro ⟨_, h⟩
        cases h
      · intro h
        cases h
  | ok u => exact ⟨fun _ => rfl, fun _ => ⟨_, rfl⟩⟩

/-! ### The counters that are stored -/

variable (server)

/-- In a run, a response for a key is offered after `before`, with a counter. -/
structure Offered (operations : List Operation) (accountName : String) (publicKey : Bytes)
    (before : List Operation) (response : SignResponse) (counter : UInt32) : Prop where
  comes : before ++ [.processSignResponse response] <+: operations
  offers : server.OffersSign (server.machine.exec .new before) response accountName publicKey counter

/-- **The responses for a key count up**: their counters are 1 or more, and each is greater than the
ones before it. -/
structure CountsUp (operations : List Operation) (accountName : String) (publicKey : Bytes) :
    Prop where
  positive : ∀ before response counter,
    server.Offered operations accountName publicKey before response counter → 0 < counter
  increases : ∀ before response counter before' response' counter',
    server.Offered operations accountName publicKey before response counter →
    server.Offered operations accountName publicKey before' response' counter' →
    before.length < before'.length → counter < counter'

/-- A counter that is stored for a key: it is 0, or has come with a response for the key, and it is
not negative. -/
structure Stored (operations : List Operation) (accountName : String) (publicKey : Bytes)
    (stored : Int32) : Prop where
  comes : stored = 0 ∨ ∃ before response,
    server.Offered operations accountName publicKey before response stored.toUInt32
  nonneg : 0 ≤ stored

variable {server}

theorem Stored.append {operations after : List Operation} {accountName : String} {publicKey : Bytes}
    {stored : Int32} (h : server.Stored operations accountName publicKey stored) :
    server.Stored (operations ++ after) accountName publicKey stored := by
  refine ⟨h.comes.imp id ?_, h.nonneg⟩
  rintro ⟨before, response, hoffered⟩
  exact ⟨before, response, hoffered.comes.trans (List.prefix_append _ _), hoffered.offers⟩

/-- **The step lemma.** -/
theorem stored_concat {operations : List Operation} {operation : Operation}
    (h : ∀ accountName, ∀ key ∈ (server.machine.exec .new operations).getSecurityKeyData accountName,
      server.Stored operations accountName key.publicKey key.counter) (accountName : String) :
    ∀ key ∈ (server.machine.exec .new (operations ++ [operation])).getSecurityKeyData accountName,
      server.Stored (operations ++ [operation]) accountName key.publicKey key.counter := by
  have hkept : ∀ key ∈ (server.machine.exec .new operations).getSecurityKeyData accountName,
      server.Stored (operations ++ [operation]) accountName key.publicKey key.counter :=
    fun key hkey => (h accountName key hkey).append
  have hstep := server.keysStep (server.machine.exec .new operations) operation
  rw [Machine.exec_concat]
  generalize hkeys : (server.machine.next (server.machine.exec .new operations)
    operation).getSecurityKeyData = keys at hstep
  intro key hkey
  cases hstep with
  | same => exact hkept key hkey
  | @register _ _ session =>
      by_cases ha : accountName = session.accountName
      · subst ha
        rw [Function.update_self] at hkey
        rcases List.mem_append.1 hkey with hkey | hkey
        · exact hkept key hkey
        · rw [List.mem_singleton.1 hkey]
          exact ⟨.inl rfl, Int32.le_refl 0⟩
      · rw [Function.update_of_ne ha] at hkey
        exact hkept key hkey
  | @sign response session first browserData message hsession hfirst hvalid =>
      by_cases ha : accountName = session.accountName
      · subst ha
        rw [Function.update_self] at hkey
        rcases FirstMatch.mem_update hkey with hkey | ⟨old, hold, rfl⟩
        · exact hkept key hkey
        · -- the counter of the response, which is greater than one that is not negative
          obtain rfl : first = old := Option.some.inj (hfirst.symm.trans hold)
          have hnonneg := (h _ first (List.mem_of_find?_eq_some hfirst)).nonneg
          have hbut := (server.validSignResponse_iff.1 hvalid).1
          have hpk : first.publicKey = session.publicKey := publicKey_of_find? hfirst
          change server.Stored _ _ first.publicKey message.counter
          rw [hpk]
          exact ⟨.inr ⟨operations, response, List.prefix_refl _, session, first, browserData, message,
            hsession, rfl, rfl, hfirst, hbut, rfl⟩,
            Int32.le_trans hnonneg (Int32.le_of_lt hvalid.greater)⟩
      · rw [Function.update_of_ne ha] at hkey
        exact hkept key hkey
  | remove accountName' publicKey' =>
      by_cases ha : accountName = accountName'
      · subst ha
        rw [Function.update_self] at hkey
        exact hkept key (List.mem_of_mem_eraseP hkey)
      · rw [Function.update_of_ne ha] at hkey
        exact hkept key hkey

/-- **The run lemma.**  What is stored in a run for a key. -/
theorem counters_exec (operations : List Operation) (accountName : String) :
    ∀ key ∈ (server.machine.exec .new operations).getSecurityKeyData accountName,
      server.Stored operations accountName key.publicKey key.counter := by
  induction operations using List.reverseRecOn generalizing accountName with
  | nil =>
      intro key hkey
      cases hkey
  | append_singleton operations operation ih => exact stored_concat ih accountName

/-! ### A token that counts up -/

/-- A response of a token that counts up comes with a greater counter than the one that is stored. -/
theorem CountsUp.lt {operations : List Operation} {accountName : String} {publicKey : Bytes}
    (h : server.CountsUp operations accountName publicKey) {before : List Operation}
    {response : SignResponse} {counter : UInt32} {stored : Int32}
    (hoffered : server.Offered operations accountName publicKey before response counter)
    (hstored : server.Stored before accountName publicKey stored) : stored.toUInt32 < counter := by
  rcases hstored.comes with rfl | ⟨before', response', hoffered'⟩
  · exact h.positive _ _ _ hoffered
  · have hprefix : before <+: operations :=
      (List.prefix_append _ _).trans hoffered.comes
    refine h.increases before' response' _ before response _
      ⟨hoffered'.comes.trans hprefix, hoffered'.offers⟩ hoffered ?_
    have hlength := hoffered'.comes.length_le
    rw [List.length_append, List.length_singleton] at hlength
    omega

/-- A response of a token that counts up is accepted exactly if its counter is below 2^31. -/
theorem CountsUp.accepts_iff {operations : List Operation} {accountName : String}
    {publicKey : Bytes} (h : server.CountsUp operations accountName publicKey)
    {before : List Operation} {response : SignResponse} {counter : UInt32}
    (hoffered : server.Offered operations accountName publicKey before response counter) :
    server.Accepts (server.machine.exec .new before) (.processSignResponse response) ↔
      counter < 0x80000000 := by
  obtain ⟨stored, hfirst, haccepts⟩ := hoffered.offers.accepts_iff
  obtain ⟨key, hkey, rfl⟩ := Option.map_eq_some_iff.1 hfirst
  have hstored : server.Stored before accountName key.publicKey key.counter :=
    counters_exec before accountName key (List.mem_of_find?_eq_some hkey)
  rw [publicKey_of_find? hkey] at hstored
  have hlt := h.lt hoffered hstored
  have hhalf : key.counter.toUInt32 < 0x80000000 := by
    have hnonneg := Int32.le_iff_toInt_le.1 hstored.nonneg
    have hvalue := toInt_toInt32 key.counter.toUInt32
    have hbound := key.counter.toUInt32.toNat_lt
    rw [Int32.toInt32_toUInt32] at hvalue
    rw [UInt32.lt_iff_toNat_lt]
    change _ < 2 ^ 31
    have hzero : (0 : Int32).toInt = 0 := rfl
    rw [hzero] at hnonneg
    split at hvalue <;> omega
  -- below 2^31 the test is the unsigned one, and above it is not
  have hiff := lt_toInt32_iff key.counter.toUInt32 counter
  rw [Int32.toInt32_toUInt32] at hiff
  rw [haccepts, counterTest_eq_ok_iff]
  constructor
  · intro hpasses
    exact (hiff.1 ⟨fun _ => hlt, fun _ => hpasses⟩).1 hhalf
  · intro hbelow
    exact (hiff.2 ⟨fun _ => hbelow, fun _ => hhalf⟩).2 hlt

variable (server)

/-- **The test on the counter is the test on the unsigned numbers exactly for two counters on the same
side of 2^31.**  It decides about a response that is valid but for its counter; and in every run in
which the responses for a key count up, each is accepted exactly if its counter is below 2^31. -/
theorem acceptsIncreasing_iff_below :
    (∀ stored received : UInt32,
      (counterTest stored.toInt32 received.toInt32 = .ok () ↔ stored < received) ↔
        (stored < 0x80000000 ↔ received < 0x80000000)) ∧
    (∀ store response accountName publicKey counter,
      server.OffersSign store response accountName publicKey counter →
      ∃ stored, store.firstCounter accountName publicKey = some stored ∧
        (server.Accepts store (.processSignResponse response) ↔
          counterTest stored counter.toInt32 = .ok ())) ∧
    ∀ operations accountName publicKey, server.CountsUp operations accountName publicKey →
      ∀ before response counter,
        server.Offered operations accountName publicKey before response counter →
        (server.Accepts (server.machine.exec .new before) (.processSignResponse response) ↔
          counter < 0x80000000) := by
  refine ⟨?_, ?_, ?_⟩
  · intro stored received
    rw [counterTest_eq_ok_iff]
    exact lt_toInt32_iff stored received
  · intro store response accountName publicKey counter h
    exact h.accepts_iff
  · intro operations accountName publicKey h before response counter hoffered
    exact h.accepts_iff hoffered

/-! ### A token that counts past 2^31 -/

section Past

open TestVectors

omit [DecidableEq Cert] in
variable {server} in
/-- The counter that is offered is the one of the message. -/
theorem OffersSign.counter_eq {store : MemoryDataStore Cert} {response : SignResponse}
    {accountName : String} {publicKey : Bytes} {counter : UInt32} {message : AuthenticateResponse}
    (h : server.OffersSign store response accountName publicKey counter)
    (hmessage : server.SignMessage response message) : counter = message.counter.toUInt32 := by
  obtain ⟨_, _, _, message', -, -, -, -, hvalid, rfl⟩ := h
  rw [server.signMessage_unique hmessage hvalid.carries]

variable (encoded : Bytes)

/-- A sign response of the tests is valid but for its counter. -/
theorem validButCounter_signResponse (key : SecurityKeyData Certificate) (sessionId : String)
    (counter : Int32) :
    (testServer encoded).ValidButCounter ⟨SESSION, key.publicKey⟩ key
      (signResponse encoded sessionId counter) (jsonText BROWSER_DATA_SIGN)
      (authenticateResponse counter) where
  decodes := (roundTrips_platform encoded _).stringOfBase64_encode _
  carries := ⟨_, (roundTrips_platform encoded _).bytesOfBase64_encode _,
    RawMessageCodec.decodeAuthenticateResponse_encode _⟩
  checks := validBrowserData_sign encoded
  present := by simp [authenticateResponse, USER_PRESENT_FLAG]
  verifies := verifiesSign encoded _ _ _ _ _

theorem offersSign_signOp {store : MemoryDataStore Certificate} {key : SecurityKeyData Certificate}
    (counter : Int32) (hsession : store.getSessionData = offeredStore.getSessionData)
    (hkeys : store.getSecurityKeyData ACCOUNT_NAME = [key])
    (hpk : key.publicKey = USER_PUBLIC_KEY_ENROLL) :
    (testServer encoded).OffersSign store (signResponse encoded secondSessionId counter) ACCOUNT_NAME
      USER_PUBLIC_KEY_ENROLL counter.toUInt32 := by
  have hstored : store.getSessionData (some secondSessionId) =
      some (.sign ⟨SESSION, USER_PUBLIC_KEY_ENROLL⟩) :=
    (congrFun hsession _).trans getSessionData_offeredStore.1
  have hhas : hasPublicKey USER_PUBLIC_KEY_ENROLL key = true := decide_eq_true hpk
  refine ⟨⟨SESSION, USER_PUBLIC_KEY_ENROLL⟩, key, jsonText BROWSER_DATA_SIGN,
    authenticateResponse counter, getSignSessionData_eq_ok_iff.2 hstored, rfl, rfl, ?_, ?_, rfl⟩
  · rw [hkeys, List.find?_cons_of_pos hhas]
  · rw [← hpk]
    exact validButCounter_signResponse encoded key secondSessionId counter

/-- A registration, a sign request, and two responses, with the counters 5 and 2^31. -/
def countedPast : List Operation :=
  [registrationRequestOp, registrationOp encoded KEY_HANDLE USER_PUBLIC_KEY_ENROLL firstSessionId 0,
    signRequestOp] ++ [signOp encoded secondSessionId 5, signOp encoded secondSessionId Int32.minValue]

/-- The two responses are the ones that are offered. -/
theorem offered_countedPast :
    (testServer encoded).Offered (countedPast encoded) ACCOUNT_NAME USER_PUBLIC_KEY_ENROLL
      ((countedPast encoded).take 3) (signResponse encoded secondSessionId 5) 5 ∧
    (testServer encoded).Offered (countedPast encoded) ACCOUNT_NAME USER_PUBLIC_KEY_ENROLL
      ((countedPast encoded).take 4) (signResponse encoded secondSessionId Int32.minValue)
      0x80000000 := by
  obtain ⟨-, hsession, hkeys⟩ := acceptsSign_signOp encoded 5 rfl
    getSecurityKeyData_offeredStore (by simp) (by decide)
  refine ⟨⟨⟨_, rfl⟩, ?_⟩, ⟨⟨_, rfl⟩, ?_⟩⟩
  · change (testServer encoded).OffersSign ((testServer encoded).machine.exec .new
      [registrationRequestOp, _, signRequestOp]) _ _ _ _
    rw [exec_offeredStore]
    exact offersSign_signOp encoded 5 rfl getSecurityKeyData_offeredStore (by simp)
  · change (testServer encoded).OffersSign ((testServer encoded).machine.exec .new
      ([registrationRequestOp, _, signRequestOp] ++ [signOp encoded secondSessionId 5])) _ _ _ _
    rw [Machine.exec_append, exec_offeredStore]
    exact offersSign_signOp encoded Int32.minValue hsession hkeys rfl

/-- Whatever is offered in the run is one of the two. -/
theorem offered_countedPast_cases {accountName : String} {publicKey : Bytes}
    {before : List Operation} {response : SignResponse} {counter : UInt32}
    (h : (testServer encoded).Offered (countedPast encoded) accountName publicKey before response
      counter) :
    before.length = 3 ∧ counter = 5 ∨ before.length = 4 ∧ counter = 0x80000000 := by
  have hat : (countedPast encoded)[before.length]? = some (.processSignResponse response) := by
    obtain ⟨after, hafter⟩ := h.comes
    rw [← hafter, List.append_assoc, List.getElem?_append_right (Nat.le_refl _), Nat.sub_self]
    rfl
  have hcarries : ∀ c, (testServer encoded).SignMessage (signResponse encoded secondSessionId c)
      (authenticateResponse c) := fun c =>
    (validButCounter_signResponse encoded (newKey [] [] 0) secondSessionId c).carries
  generalize before.length = i at hat
  match i, hat with
  | 0, hat => cases hat
  | 1, hat => cases hat
  | 2, hat => cases hat
  | 3, hat =>
      cases hat
      exact .inl ⟨rfl, h.offers.counter_eq (hcarries 5)⟩
  | 4, hat =>
      cases hat
      exact .inr ⟨rfl, h.offers.counter_eq (hcarries Int32.minValue)⟩
  | _ + 5, hat => cases hat

theorem countsUp_countedPast (accountName : String) (publicKey : Bytes) :
    (testServer encoded).CountsUp (countedPast encoded) accountName publicKey where
  positive before response counter h := by
    rcases offered_countedPast_cases encoded h with ⟨-, rfl⟩ | ⟨-, rfl⟩
    · decide
    · decide
  increases before response counter before' response' counter' h h' hlt := by
    rcases offered_countedPast_cases encoded h with ⟨hlen, rfl⟩ | ⟨hlen, rfl⟩
    · rcases offered_countedPast_cases encoded h' with ⟨hlen', rfl⟩ | ⟨-, rfl⟩
      · omega
      · decide
    · rcases offered_countedPast_cases encoded h' with ⟨hlen', rfl⟩ | ⟨hlen', rfl⟩
      · omega
      · omega

/-- The first response of the run is accepted, and the second is not. -/
theorem accepts_countedPast :
    let server := testServer (parseHex VENDOR_CERTIFICATE_HEX)
    let operations := countedPast (parseHex VENDOR_CERTIFICATE_HEX)
    server.Accepts (server.machine.exec .new (operations.take 3)) (.processSignResponse
        (signResponse (parseHex VENDOR_CERTIFICATE_HEX) secondSessionId 5)) ∧
      ¬ server.Accepts (server.machine.exec .new (operations.take 4)) (.processSignResponse
        (signResponse (parseHex VENDOR_CERTIFICATE_HEX) secondSessionId Int32.minValue)) := by
  intro server operations
  have hcounts := countsUp_countedPast (parseHex VENDOR_CERTIFICATE_HEX) ACCOUNT_NAME
    USER_PUBLIC_KEY_ENROLL
  obtain ⟨hfirst, hsecond⟩ := offered_countedPast (parseHex VENDOR_CERTIFICATE_HEX)
  have h := (acceptsIncreasing_iff_below server).2.2 operations _ _ hcounts
  refine ⟨(h _ _ _ hfirst).2 (by decide), fun haccepts => ?_⟩
  exact absurd ((h _ _ _ hsecond).1 haccepts) (by decide)

/-- A token that counts up, one of whose responses the server refuses: 2^31 fails the test after 5. -/
theorem not_acceptsIncreasing_countedPast :
    ¬ (counterTest (5 : UInt32).toInt32 (0x80000000 : UInt32).toInt32 = .ok () ↔
      (5 : UInt32) < 0x80000000) ∧
    ¬ ∀ operations accountName publicKey,
      (testServer (parseHex VENDOR_CERTIFICATE_HEX)).CountsUp operations accountName publicKey →
      ∀ before response counter,
        (testServer (parseHex VENDOR_CERTIFICATE_HEX)).Offered operations accountName publicKey before
          response counter →
        (testServer (parseHex VENDOR_CERTIFICATE_HEX)).Accepts
          ((testServer (parseHex VENDOR_CERTIFICATE_HEX)).machine.exec .new before)
          (.processSignResponse response) := by
  constructor
  · rw [counterTest_eq_ok_iff]
    decide
  · intro h
    have hcounts := countsUp_countedPast (parseHex VENDOR_CERTIFICATE_HEX) ACCOUNT_NAME
      USER_PUBLIC_KEY_ENROLL
    have hoffered := (offered_countedPast (parseHex VENDOR_CERTIFICATE_HEX)).2
    exact absurd ((hcounts.accepts_iff hoffered).1 (h _ _ _ hcounts _ _ _ hoffered)) (by decide)

end Past

end U2FServerReferenceImpl

end U2F
