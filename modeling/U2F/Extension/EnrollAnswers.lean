/-
**The answer to an enroll challenge.**

An enroll challenge without a version is one of version U2F_V1.  The validation and the encoding
fill the version in; the page's callback looks for the challenge of the version that has enrolled
by the version as it is spelt in the request.  It then echoes every property of the challenge over
the registration data, and writes the client data over these.

Main definitions:

* `EnrollPage.Carries` — a response holds the fields of a challenge and its enroll data;
* `EnrollPage.Answered` — the page is sent one response, a success that carries them;
* `Echoable` — no property of a challenge's own takes the place of what the response adds.

Main results:

* `nodup_versionOrV1` — no two challenges of a valid request have the same version;
* `findEnrollChallengeOfVersion_eq` — a challenge is found by its version exactly if it names it;
* `EnrollPage.lookup_makeEnrollResponseData`, `EnrollPage.carries_iff` — what the response holds;
* `EnrollPage.answered_iff` — **an enroll challenge can be answered exactly if it names its
  version** and can be echoed.
-/

import U2F.Extension.Finished
import U2F.Extension.OneAnswer

set_option relaxedAutoImplicit false
set_option autoImplicit false

namespace U2F

/-! ### Finding a challenge by its version -/

/-- The versions of an array that is accepted are different from each other, and from the versions
seen before. -/
theorem nodup_of_isValidEnrollChallengeArrayFrom {appIdRequired : Bool} {seenVersions : List JSString}
    {enrollChallenges : List EnrollChallenge}
    (h : isValidEnrollChallengeArrayFrom appIdRequired seenVersions enrollChallenges = true) :
    (enrollChallenges.map EnrollChallenge.versionOrV1).Nodup ∧
      ∀ c ∈ enrollChallenges, c.versionOrV1 ∉ seenVersions := by
  induction enrollChallenges generalizing seenVersions with
  | nil => simp
  | cons c rest ih =>
      simp only [isValidEnrollChallengeArrayFrom] at h
      split at h
      · cases h
      split at h
      · cases h
      rename_i hseen
      split at h
      · cases h
      split at h
      · cases h
      obtain ⟨hnodup, hfresh⟩ := ih h
      refine ⟨List.nodup_cons.2 ⟨fun hmem => ?_, hnodup⟩, ?_⟩
      · obtain ⟨c', hc', hversion⟩ := List.mem_map.1 hmem
        exact hfresh c' hc' (by simp [hversion])
      · rintro c' hc'
        rcases List.mem_cons.1 hc' with rfl | hc'
        · exact hseen
        · exact fun hmem => hfresh c' hc' (List.mem_cons_of_mem _ hmem)

/-- No two challenges of a valid request have the same version. -/
theorem nodup_versionOrV1 {request : U2fRequest} (h : isValidEnrollRequest request = true) :
    ((request.registerRequests.getD []).map EnrollChallenge.versionOrV1).Nodup := by
  unfold isValidEnrollRequest at h
  cases hchallenges : request.registerRequests with
  | none => simp [hchallenges] at h
  | some enrollChallenges =>
      simp only [hchallenges] at h
      split at h
      · cases h
      · split at h
        · cases h
        · rename_i hvalid
          exact (nodup_of_isValidEnrollChallengeArrayFrom (by
            simpa [isValidEnrollChallengeArray] using hvalid)).1

/-- A challenge names its version. -/
theorem version_eq_iff (c : EnrollChallenge) :
    c.version = some c.versionOrV1 ↔ truthy c.version = true := by
  unfold EnrollChallenge.versionOrV1
  split
  case isTrue h =>
    cases hversion : c.version with
    | none => simp [hversion, truthy] at h
    | some version => simpa [hversion] using h
  case isFalse h =>
    refine iff_of_false (fun hversion => h ?_) h
    rw [hversion]
    decide

/-- A challenge that is found by a version names it. -/
theorem truthy_of_find {enrollChallenges : List EnrollChallenge} {c c' : EnrollChallenge}
    (h : findEnrollChallengeOfVersion enrollChallenges (some c.versionOrV1) = some c') :
    c' ∈ enrollChallenges ∧ c'.version = some c.versionOrV1 ∧ truthy c'.version = true := by
  have hversion : c'.version = some c.versionOrV1 := by simpa using List.find?_some h
  refine ⟨List.mem_of_find?_eq_some h, hversion, ?_⟩
  rw [hversion]
  unfold EnrollChallenge.versionOrV1
  split
  case isTrue hnamed => simpa [truthy] using hnamed
  case isFalse => decide

/-- **A challenge of a valid request is found by its version if it names it**, and no challenge is
found otherwise. -/
theorem findEnrollChallengeOfVersion_eq {request : U2fRequest}
    (hvalid : isValidEnrollRequest request = true) {c : EnrollChallenge}
    (hc : c ∈ request.registerRequests.getD []) :
    findEnrollChallengeOfVersion (request.registerRequests.getD []) (some c.versionOrV1) =
      if truthy c.version = true then some c else none := by
  have hsame {c' : EnrollChallenge} (hc' : c' ∈ request.registerRequests.getD [])
      (hversion : c'.version = some c.versionOrV1) (hnamed : truthy c'.version = true) : c' = c := by
    -- no other challenge has the version
    refine List.inj_on_of_nodup_map (nodup_versionOrV1 hvalid) hc' hc ?_
    exact Option.some_inj.1 (((version_eq_iff c').2 hnamed).symm.trans hversion)
  cases hfind : findEnrollChallengeOfVersion (request.registerRequests.getD []) (some c.versionOrV1) with
  | none =>
      have hnot : ¬ truthy c.version = true := by
        intro hnamed
        have hne := List.find?_eq_none.1 hfind c hc
        simp [(version_eq_iff c).2 hnamed] at hne
      rw [if_neg hnot]
  | some c' =>
      obtain ⟨hc', hversion, hnamed⟩ := truthy_of_find hfind
      obtain rfl := hsame hc' hversion hnamed
      rw [if_pos hnamed]

/-- The version that a challenge is encoded with, which a copy of it has as well. -/
theorem encodeEnrollChallenge_version {P : Primitives} {s : Enroller} {c : EnrollChallenge}
    {encoded : EnrollHelperChallenge} (h : s.encodeEnrollChallenge P c = some encoded) :
    encoded.version = c.versionOrV1 := by
  simp only [Enroller.encodeEnrollChallenge, U2F.encodeEnrollChallenge, Option.bind_eq_bind,
    Option.pure_def] at h
  split at h
  · obtain ⟨_, -, h⟩ := Option.bind_eq_some_iff.1 h
    rw [← Option.some_inj.1 h]
    rfl
  · obtain ⟨_, -, h⟩ := Option.bind_eq_some_iff.1 h
    rw [← Option.some_inj.1 h]

/-! ### The response to a page -/

namespace EnrollPage

open PageRequest

/-- A response holds the properties of the challenge `c`, the enroll data and, for a U2F_V2
challenge, the client data. -/
structure Carries (c : EnrollChallenge) (enrollData clientData : Option JSString)
    (responseData : JSProperties) : Prop where
  challenge : ∀ k v, c.properties.lookup k = some v → responseData.lookup k = some v
  enrollData : responseData.lookup (js "registrationData") = some (.ofOption enrollData)
  clientData : c.versionOrV1 = js "U2F_V2" →
    responseData.lookup (js "clientData") = some (.ofOption clientData)

/-- The page has been sent one response, and it is a success that carries the challenge `c`, the
enroll data and, for a U2F_V2 challenge, the client data that the enroller has stored. -/
def Answered (request : U2fRequest) (c : EnrollChallenge) (enrollData : Option JSString)
    (s t : EnrollPage) : Prop :=
  ∃ responseData, t.sent = [makeU2fSuccessResponse request (.enroll responseData)] ∧
    Carries c enrollData s.work.browserData responseData

/-- A challenge has no property `__proto__` of its own, and one with the name of what the response
adds has its value. -/
structure Echoable (c : EnrollChallenge) (enrollData clientData : Option JSString) : Prop where
  proto : PROTO ∉ c.others.properties
  enrollData : ∀ v, c.others.properties.lookup (js "registrationData") = some v →
    v = .ofOption enrollData
  clientData : c.versionOrV1 = js "U2F_V2" →
    ∀ v, c.others.properties.lookup (js "clientData") = some v → v = .ofOption clientData

/-- A property of the response: the client data of a U2F_V2 challenge, or else the challenge's own,
or else the registration data. -/
theorem lookup_makeEnrollResponseData (c : EnrollChallenge)
    (u2fVersion info clientData : Option JSString) (k : JSString) :
    (makeEnrollResponseData c u2fVersion info clientData).lookup k =
      if u2fVersion = some (js "U2F_V2") ∧ k = js "clientData" then some (.ofOption clientData)
      else if k = PROTO then none
      else (c.properties.lookup k).or
        (if k = js "registrationData" then some (.ofOption info) else none) := by
  have hproto : js "clientData" ≠ PROTO ∧ js "registrationData" ≠ PROTO := by decide
  have hechoed : ((JSProperties.assign ∅ (js "registrationData") (.ofOption info)).assignAll
      c.properties).lookup k = if k = PROTO then none else (c.properties.lookup k).or
        (if k = js "registrationData" then some (.ofOption info) else none) := by
    rw [JSProperties.lookup_assignAll, JSProperties.lookup_assign]
    by_cases hk : k = PROTO
    · subst hk
      simp [hproto.2.symm]
    · simp [hk]
  unfold makeEnrollResponseData
  by_cases hversion : u2fVersion = some (js "U2F_V2")
  · simp only [hversion, if_true, true_and, JSProperties.lookup_assign, hechoed]
    by_cases hk : k = js "clientData"
    · subst hk
      simp [hproto.1]
    · simp [hk]
  · simp only [hversion, if_false, false_and, hechoed]

/-- **The response for a challenge carries it exactly if the challenge can be echoed.** -/
theorem carries_iff (c : EnrollChallenge) (info clientData : Option JSString) :
    Carries c info clientData (makeEnrollResponseData c (some c.versionOrV1) info clientData) ↔
      Echoable c info clientData := by
  have hlookup := lookup_makeEnrollResponseData c (some c.versionOrV1) info clientData
  simp only [Option.some_inj] at hlookup
  have hreg : c.properties.lookup (js "registrationData") =
      c.others.properties.lookup (js "registrationData") :=
    c.lookup_properties_of_ne (by decide)
  have hclient : c.properties.lookup (js "clientData") =
      c.others.properties.lookup (js "clientData") := c.lookup_properties_of_ne (by decide)
  have hproto : c.properties.lookup PROTO = c.others.properties.lookup PROTO :=
    c.lookup_properties_of_ne (by decide)
  have hne : js "registrationData" ≠ js "clientData" ∧ js "registrationData" ≠ PROTO ∧
      PROTO ≠ js "clientData" := by decide
  constructor
  · rintro ⟨hchallenge, hdata, -⟩
    refine ⟨fun hmem => ?_, fun v hv => ?_, fun hversion v hv => ?_⟩
    · -- an own `__proto__` is lost
      obtain ⟨v, hv⟩ := Option.isSome_iff_exists.1 (AList.lookup_isSome.2 hmem)
      have hsent := hchallenge PROTO v (hproto.trans hv)
      rw [hlookup, if_neg (by simp [hne.2.2]), if_pos rfl] at hsent
      cases hsent
    · have hsent := hchallenge _ v (hreg.trans hv)
      rw [hdata] at hsent
      exact (Option.some_inj.1 hsent).symm
    · have hsent := hchallenge _ v (hclient.trans hv)
      rw [hlookup, if_pos ⟨hversion, rfl⟩] at hsent
      exact (Option.some_inj.1 hsent).symm
  · intro h
    refine ⟨fun k v hv => ?_, ?_, fun hversion => ?_⟩
    · rw [hlookup]
      split
      case isTrue hk =>
        obtain ⟨hversion, rfl⟩ := hk
        rw [h.clientData hversion v (hclient.symm.trans hv)]
      case isFalse =>
        have hk : k ≠ PROTO := by
          rintro rfl
          exact h.proto (AList.lookup_isSome.1 (by rw [← hproto, hv]; rfl))
        rw [if_neg hk, hv, Option.some_or]
    · rw [hlookup, if_neg (by simp [hne.1]), if_neg hne.2.1, if_pos rfl, hreg]
      cases hv : c.others.properties.lookup (js "registrationData") with
      | none => rfl
      | some v => rw [h.enrollData v hv, Option.some_or]
    · rw [hlookup, if_pos ⟨hversion, rfl⟩]

/-- A challenge with registration data of its own hides the key's. -/
example : (makeEnrollResponseData ⟨some (js "U2F_V2"), some (js "challenge"), none,
      .single (js "registrationData") (.string (js "x")) (by decide)⟩
    (some (js "U2F_V2")) (some (js "BQ")) none).lookup (js "registrationData") =
      some (.string (js "x")) := by
  decide

variable {request : U2fRequest} {P : Primitives}

/-- Nothing has been sent to a page whose enroller is not done. -/
theorem sent_of_not_done {messageSender : MessageSender} {es : List Event} {s : EnrollPage}
    (hs : (machine request P).exec (handleU2fEnrollRequest messageSender request) es = .ok s)
    (hdone : s.work.done = false) : s.sent = [] := by
  have hstart : Handled (fun s => Watched s ∧ ∃ c, view.Shows s c)
      (handleU2fEnrollRequest messageSender request) := by
    cases h : handleU2fEnrollRequest messageSender request with
    | error => trivial
    | ok t =>
        obtain ⟨sender, rfl⟩ := eq_startEnroller h
        exact ⟨watched_startEnroller request sender, .waiting, rfl, rfl⟩
  have hinv := Machine.exec_invariant' (M := machine request P)
    (Handled.next fun s e ⟨hwatched, c, hc⟩ =>
      have hstep := step_handle request P hwatched e
      have ⟨d, _, hd⟩ := hstep.2 c hc
      ⟨hstep.1, d, hd⟩) es hstart
  rw [hs] at hinv
  obtain ⟨hwatched, c, hopen, hsent⟩ := hinv
  cases c with
  | waiting => exact hsent
  | answered | dismissed =>
      have hclosed : s.watchdog.closed = true := by simpa [view, OneShot.isWaiting] using hopen
      exact absurd (hdone.symm.trans (hwatched.done hclosed)) (by simp)

/-- The response that a helper's success leads to. -/
def successResponse (request : U2fRequest) (u2fVersion info clientData : Option JSString) :
    Response :=
  match findEnrollChallengeOfVersion (request.registerRequests.getD []) u2fVersion with
  | none => makeU2fErrorResponse request (.ofCode .OTHER_ERROR)
  | some enrollChallenge =>
      makeU2fSuccessResponse request
        (.enroll (makeEnrollResponseData enrollChallenge u2fVersion info clientData))

theorem sent_sendSuccessResponse (u2fVersion info clientData : Option JSString) (s : EnrollPage) :
    (sendSuccessResponse request u2fVersion info clientData s).sent =
      s.sent ++ [successResponse request u2fVersion info clientData] := by
  have hclose := (close_spec (fun s _ => same_closeWork s) s).2
  unfold sendSuccessResponse successResponse
  cases findEnrollChallengeOfVersion (request.registerRequests.getD []) u2fVersion <;>
    simp [sendErrorResponse, sendResponseOnce, hclose]

/-- The response does not depend on the client data that is given for another version. -/
theorem successResponse_clientData (u2fVersion info clientData : Option JSString) :
    successResponse request u2fVersion info
        (if u2fVersion = some (js "U2F_V2") then clientData else none) =
      successResponse request u2fVersion info clientData := by
  unfold successResponse makeEnrollResponseData
  by_cases hversion : u2fVersion = some (js "U2F_V2")
  · simp only [hversion, if_true]
  · simp only [hversion, if_false]

/-- What a helper's success has the page be sent. -/
theorem sent_helperComplete {s : EnrollPage} (hran : s.work.ran ≠ []) (hdone : s.work.done = false)
    {reply : EnrollHelperReply} (hreply : reply.failed = false) :
    (handle request P s (.enroller (.helperComplete reply))).sent = s.sent ++
      [successResponse request reply.content.version reply.content.enrollData
        (if reply.content.version = some (js "U2F_V2") then s.work.browserData else none)] := by
  have hcall : s.work.handle P (.helperComplete reply) = (s.work.close,
      [.success reply.content.version reply.content.enrollData
        (if reply.content.version = some (js "U2F_V2") then s.work.browserData else none)]) := by
    simp [Enroller.handle, hran, Enroller.helperComplete, hreply, Enroller.notifySuccess,
      Enroller.notify, hdone]
  simp only [handle, Enroller.Event.isExternal, if_true, runEnroller, hcall, List.foldl_cons,
    List.foldl_nil, enrollerCalls]
  exact sent_sendSuccessResponse _ _ _ _

/-- **An enroll challenge is answered with success exactly if it names its version and can be
echoed**, in every run in which the helper has been asked and the enroller is not done. -/
theorem answered_iff (P : Primitives) (messageSender : MessageSender)
    (hvalid : isValidEnrollRequest request = true) (es : List Event) {s : EnrollPage}
    (hs : (machine request P).exec (handleU2fEnrollRequest messageSender request) es = .ok s)
    (hran : s.work.ran ≠ []) (hdone : s.work.done = false) {c : EnrollChallenge}
    (hc : c ∈ request.registerRequests.getD []) {encoded : EnrollHelperChallenge}
    (hencoded : s.work.encodeEnrollChallenge P c = some encoded) {reply : EnrollHelperReply}
    (hreply : reply.code = some 0) (hversion : reply.content.version = some encoded.version) :
    Answered request c reply.content.enrollData s
        (handle request P s (.enroller (.helperComplete reply))) ↔
      truthy c.version = true ∧ Echoable c reply.content.enrollData s.work.browserData := by
  have hfailed : reply.failed = false := by simp [HelperReply.failed, hreply]
  have hsame : encoded.version = c.versionOrV1 := encodeEnrollChallenge_version hencoded
  unfold Answered
  rw [sent_helperComplete hran hdone hfailed, sent_of_not_done hs hdone, List.nil_append,
    successResponse_clientData, hversion, hsame, successResponse,
    findEnrollChallengeOfVersion_eq hvalid hc]
  by_cases hnamed : truthy c.version = true
  · simp only [hnamed, if_true, true_and, List.singleton_inj]
    rw [← carries_iff]
    constructor
    · rintro ⟨responseData, hsent, hcarries⟩
      obtain rfl : makeEnrollResponseData c (some c.versionOrV1) reply.content.enrollData
          s.work.browserData = responseData := by
        simpa [makeU2fSuccessResponse, makeResponseForRequest] using hsent
      exact hcarries
    · exact fun hcarries => ⟨_, rfl, hcarries⟩
  · simp [hnamed, makeU2fErrorResponse, makeU2fSuccessResponse, makeResponseForRequest]

/-- The origin and the app ids are checked, and the handler of the helper is run. -/
def enrollingRun : List Event :=
  [.enroller .tabIdResolved, .enroller (.approvalResolved true), .enroller (.originChecked true),
    .enroller (.appIdChecked true (some ⟨[], true⟩))]

/-- The page of the examples. -/
def exampleMessageSender : MessageSender := ⟨js "https://example.com/", none, some 1⟩

/-- A register request with the given versions, for keys of the example's app id. -/
def registerRequest (versions : List (Option JSString)) : U2fRequest :=
  { type := js "u2f_register_request", requestId := some 1, challenge := none
    appId := some (js "https://example.com"), timeoutSeconds := none, timeout := none
    logMsgUrl := none, signRequests := none, registeredKeys := none
    registerRequests := some (versions.map fun version =>
      ⟨version, some (js "challenge"), none, .none⟩) }

/-- An enroll reply with code 0. -/
def enrolledReply (version : JSString) : EnrollHelperReply := ⟨some 0, some version, some (js "BQ")⟩

theorem answered_version2 : ∃ s,
    (machine (registerRequest [some [], some (js "U2F_V2")]) examplePrimitives).exec
        (handleU2fEnrollRequest exampleMessageSender
          (registerRequest [some [], some (js "U2F_V2")])) enrollingRun = .ok s ∧
      Answered (registerRequest [some [], some (js "U2F_V2")])
        ⟨some (js "U2F_V2"), some (js "challenge"), none, .none⟩ (some (js "BQ")) s
        (handle (registerRequest [some [], some (js "U2F_V2")]) examplePrimitives s
          (.enroller (.helperComplete (enrolledReply (js "U2F_V2"))))) := by
  refine ⟨_, rfl, ?_⟩
  exact (answered_iff examplePrimitives exampleMessageSender (by decide) enrollingRun rfl
    (by decide) rfl (by simp [registerRequest]) rfl rfl rfl).2
      ⟨by decide, by decide, nofun, fun _ => nofun⟩

/-- **A challenge without a version is answered with an error when it is enrolled.** -/
theorem not_answered_implicitV1 : isValidEnrollRequest (registerRequest [none]) = true ∧ ∃ s,
    (machine (registerRequest [none]) examplePrimitives).exec
        (handleU2fEnrollRequest exampleMessageSender (registerRequest [none])) enrollingRun = .ok s ∧
      s.work.ran ≠ [] ∧ s.work.done = false ∧
      (s.work.encodeEnrollChallenge examplePrimitives
        ⟨none, some (js "challenge"), none, .none⟩).map EnrollHelperChallenge.version =
          some (js "U2F_V1") ∧
      (handle (registerRequest [none]) examplePrimitives s
        (.enroller (.helperComplete (enrolledReply (js "U2F_V1"))))).sent =
          [makeU2fErrorResponse (registerRequest [none]) (.ofCode .OTHER_ERROR)] ∧
      ¬ Answered (registerRequest [none]) ⟨none, some (js "challenge"), none, .none⟩
        (some (js "BQ")) s
        (handle (registerRequest [none]) examplePrimitives s
          (.enroller (.helperComplete (enrolledReply (js "U2F_V1"))))) := by
  refine ⟨by decide, _, rfl, by decide, rfl, rfl, rfl, ?_⟩
  rintro ⟨responseData, hsent, -⟩
  change [makeU2fErrorResponse (registerRequest [none]) (.ofCode .OTHER_ERROR)] = _ at hsent
  simp [makeU2fErrorResponse, makeU2fSuccessResponse, makeResponseForRequest] at hsent

end EnrollPage

end U2F
