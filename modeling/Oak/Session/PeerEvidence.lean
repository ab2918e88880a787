import Oak.Session.Transitions

namespace Oak.Session.PeerEvidence

open Oak.Data Oak.Crypto

/-! What a session knows about its peer from the messages it accepted.

The history of a session is the list of its calls with their answers.
`PeerChecked` is what is promised of an open session.  `Attesting`, `Verified`,
`ClientReady` and `ServerReady` are what the handlers of the earlier steps
know, and how the messages they accept extend it. -/

abbrev History := List (Call × Answer)

def acceptedAttest : Call × Answer → Option AttestMessage
  | (.putIncomingMessage ⟨content⟩ _, .put (.ok _)) =>
    match content with
    | some (.attest message) => some message
    | _ => none
  | _ => none

def acceptedHandshake : Call × Answer → Option HandshakeMessage
  | (.putIncomingMessage ⟨content⟩ _, .put (.ok _)) =>
    match content with
    | some (.handshake message) => some message
    | _ => none
  | _ => none

def attests (history : History) : List AttestMessage := history.filterMap acceptedAttest

def handshakes (history : History) : List HandshakeMessage := history.filterMap acceptedHandshake

/-- Both aggregators return `Ok` on the verification results of a message. -/
structure Approved (config : AttestationHandlerConfig) (message : AttestMessage)
    (legacyResults : BTreeMap String VerifierResult)
    (assertionResults : BTreeMap String BoundAssertionVerifierResult) : Prop where
  legacyVerified : combineAttestationResults config.peerVerifiers message.endorsedEvidence =
    .ok legacyResults
  assertionsVerified :
    combineAssertionResults config.peerAssertionVerifiers message.assertions = assertionResults
  legacyApproved : config.legacyAttestationResultsAggregator legacyResults = .ok ()
  assertionsApproved : config.assertionAttestationAggregator assertionResults = .ok ()

/-- The peer has bound all verified evidence to the handshake hash. -/
def LegacyBound (config : AttestationHandlerConfig) (received : List HandshakeMessage)
    (legacyResults : BTreeMap String VerifierResult) (handshakeHash : Bytes) : Prop :=
  ∀ id evidence result, legacyResults.get? id = some (.success evidence result) →
    ∃ verifier verifyBinding message binding,
      config.peerVerifiers.get? id = some verifier ∧
      verifier.createSessionBindingVerifier result = .ok verifyBinding ∧
      message ∈ received ∧ message.attestationBindings.get? id = some binding ∧
      verifyBinding handshakeHash binding.binding = .ok ()

/-- The peer has bound all verified assertions to the session binding token. -/
def AssertionsBound (crypto : Primitives) (received : List HandshakeMessage)
    (assertionResults : BTreeMap String BoundAssertionVerifierResult)
    (attestationBindingToken handshakeHash : Bytes) : Prop :=
  ∀ id assertion, assertionResults.get? id = some (.success assertion) →
    ∃ message binding, message ∈ received ∧ message.assertionBindings.get? id = some binding ∧
      assertion.verifyBinding
        (createSessionBindingToken crypto attestationBindingToken handshakeHash) binding = .ok ()

/-- What an open session has checked.  `fromHandshake` says which handshake
hashes a side can have. -/
structure PeerChecked (crypto : Primitives) (config : AttestationHandlerConfig)
    (fromHandshake : List HandshakeMessage → Bytes → Prop)
    (attested : List AttestMessage) (received : List HandshakeMessage)
    (attestationState : AttestationState) (handshakeState : HandshakeState) : Prop where
  checked : ∃ message legacyResults assertionResults,
    attested = [message] ∧ Approved config message legacyResults assertionResults ∧
    attestationState.peerAttestationVerdict = .attestationPassed legacyResults assertionResults ∧
    LegacyBound config received legacyResults handshakeState.handshakeBindingToken ∧
    AssertionsBound crypto received assertionResults attestationState.attestationBindingToken
      handshakeState.handshakeBindingToken
  ownHash : fromHandshake received handshakeState.handshakeBindingToken

def verdictOn (config : AttestationHandlerConfig) (message : AttestMessage)
    (legacyResults : BTreeMap String VerifierResult) : PeerAttestationVerdict :=
  let assertionResults :=
    combineAssertionResults config.peerAssertionVerifiers message.assertions
  combineLegacyAndAssertionAggregatedVerification
    (config.legacyAttestationResultsAggregator legacyResults)
    (config.assertionAttestationAggregator assertionResults) legacyResults assertionResults

def Attesting (config : AttestationHandlerConfig) (attested : List AttestMessage) :
    Option PeerAttestationVerdict → Prop
  | none => attested = []
  | some verdict => ∃ message legacyResults, attested = [message] ∧
      combineAttestationResults config.peerVerifiers message.endorsedEvidence =
        .ok legacyResults ∧
      verdict = verdictOn config message legacyResults

/-- The attestation state that a handshaker was built with. -/
def Verified (config : AttestationHandlerConfig) (attested : List AttestMessage)
    (attestationState : AttestationState) : Prop :=
  ∃ message legacyResults assertionResults,
    attested = [message] ∧ Approved config message legacyResults assertionResults ∧
    attestationState.peerAttestationVerdict = .attestationPassed legacyResults assertionResults ∧
    legacyResults.filterMapM (AttestationHandler.bindingVerifierFor config.peerVerifiers) =
      .ok attestationState.peerSessionBindingVerifiers

/-- The bindings of a handshake result were sent by the peer. -/
structure FromPeer (received : List HandshakeMessage) (handshakeState : HandshakeState) :
    Prop where
  session : ∀ id binding, handshakeState.peerSessionBindings.get? id = some binding →
    ∃ message ∈ received, message.attestationBindings.get? id = some binding
  assertion : ∀ id binding, handshakeState.peerAssertionBindings.get? id = some binding →
    ∃ message ∈ received, message.assertionBindings.get? id = some binding

theorem FromPeer.of_message {received : List HandshakeMessage} {message : HandshakeMessage}
    (sent : message ∈ received) (hash : Bytes) :
    FromPeer received ⟨hash, message.attestationBindings, message.assertionBindings⟩ where
  session := fun _ _ found => ⟨message, sent, found⟩
  assertion := fun _ _ found => ⟨message, sent, found⟩

theorem FromPeer.of_nothing (received : List HandshakeMessage) (hash : Bytes) :
    FromPeer received ⟨hash, .empty, .empty⟩ where
  session := fun _ _ found => by simp [BTreeMap.get?, BTreeMap.empty] at found
  assertion := fun _ _ found => by simp [BTreeMap.get?, BTreeMap.empty] at found

variable {attestationState : AttestationState} {message : HandshakeRequest}

section Advance

variable {crypto : Primitives} {config : AttestationHandlerConfig} {attested : List AttestMessage}
  {received : List HandshakeMessage}

variable {legacyResults : BTreeMap String VerifierResult}

theorem approved_of_passed {message : AttestMessage} {passedLegacy : BTreeMap String VerifierResult}
    {passedAssertions : BTreeMap String BoundAssertionVerifierResult}
    (verified : combineAttestationResults config.peerVerifiers message.endorsedEvidence =
      .ok legacyResults) (passed : verdictOn config message legacyResults =
      .attestationPassed passedLegacy passedAssertions) :
    Approved config message passedLegacy passedAssertions := by
  simp only [verdictOn, combineLegacyAndAssertionAggregatedVerification] at passed
  cases legacy : config.legacyAttestationResultsAggregator legacyResults with
  | error err =>
    cases assertion : config.assertionAttestationAggregator
        (combineAssertionResults config.peerAssertionVerifiers message.assertions) with
    | error | ok => simp [legacy, assertion] at passed
  | ok _ =>
    cases assertion : config.assertionAttestationAggregator
        (combineAssertionResults config.peerAssertionVerifiers message.assertions) with
    | error err => simp [legacy, assertion] at passed
    | ok _ =>
      simp only [legacy, assertion] at passed
      obtain ⟨rfl, rfl⟩ := passed
      exact ⟨verified, rfl, legacy, assertion⟩

theorem verified_of_taken {attester : AttestationHandler}
    {assertionResults : BTreeMap String BoundAssertionVerifierResult}
    (configured : attester.config = config)
    (attesting : Attesting config attested attester.attestationResult)
    (taken : attester.takeAttestationState = .ok attestationState)
    (passed : attestationState.peerAttestationVerdict =
      .attestationPassed legacyResults assertionResults) :
    Verified config attested attestationState := by
  unfold AttestationHandler.takeAttestationState at taken
  cases judged : attester.attestationResult with
  | none => simp [judged, Outcome.err] at taken
  | some verdict =>
    rw [judged] at attesting taken
    obtain ⟨message, combined, only, verified, rfl⟩ := attesting
    rw [configured] at taken
    cases collected : (verdictOn config message combined).getLegacyVerificationResults.filterMapM
        (AttestationHandler.bindingVerifierFor config.peerVerifiers) with
    | error fault => simp [collected] at taken
    | ok verifiers =>
      simp only [collected, Except.ok.injEq] at taken
      subst taken
      simp only at passed
      rw [passed] at collected
      exact ⟨message, legacyResults, assertionResults, only,
        approved_of_passed verified passed, passed, collected⟩

theorem bindingVerifier_of_success {verifiers : BTreeMap String SessionBindingVerifier}
    {id : String} {evidence : EndorsedEvidence} {result : AttestationResults}
    (collected : legacyResults.filterMapM
      (AttestationHandler.bindingVerifierFor config.peerVerifiers) = .ok verifiers)
    (success : legacyResults.get? id = some (.success evidence result)) :
    ∃ verifier verifyBinding, config.peerVerifiers.get? id = some verifier ∧
      verifier.createSessionBindingVerifier result = .ok verifyBinding ∧
      verifiers.get? id = some verifyBinding := by
  obtain ⟨chosen, selected⟩ := BTreeMap.filterMapM_total collected success
  simp only [AttestationHandler.bindingVerifierFor] at selected
  cases registered : config.peerVerifiers.get? id with
  | none => simp [registered, Outcome.panic] at selected
  | some verifier =>
    cases created : verifier.createSessionBindingVerifier result with
    | error reason =>
      simp [registered, created, Except.map, Outcome.returned, Outcome.err] at selected
    | ok verifyBinding =>
      refine ⟨verifier, verifyBinding, rfl, created, ?_⟩
      rw [BTreeMap.get?_filterMapM collected]
      refine ⟨_, success, ?_⟩
      simp only [AttestationHandler.bindingVerifierFor, registered, created, Except.map,
        Outcome.returned]

theorem peerChecked_of_verified {fromHandshake : List HandshakeMessage → Bytes → Prop} {handshakeState : HandshakeState}
    (verified : Verified config attested attestationState)
    (fromPeer : FromPeer received handshakeState)
    (ownHash : fromHandshake received handshakeState.handshakeBindingToken)
    (sessionBound : verifySessionBinding attestationState.peerSessionBindingVerifiers
      handshakeState.peerSessionBindings handshakeState.handshakeBindingToken = .ok ())
    (assertionsBound : verifyAssertionSessionBinding crypto
      attestationState.peerAttestationVerdict.getAssertionVerificationResults
      handshakeState.peerAssertionBindings attestationState.attestationBindingToken
      handshakeState.handshakeBindingToken = .ok ()) :
    PeerChecked crypto config fromHandshake attested received attestationState handshakeState := by
  obtain ⟨message, legacyResults, assertionResults, only, approved, passed, collected⟩ := verified
  refine ⟨⟨message, legacyResults, assertionResults, only, approved, passed, ?_, ?_⟩, ownHash⟩
  · intro id evidence result success
    obtain ⟨verifier, verifyBinding, registered, created, kept⟩ :=
      bindingVerifier_of_success collected success
    obtain ⟨binding, sent, accepted⟩ :=
      verifySessionBinding_eq_ok.mp sessionBound id verifyBinding kept
    obtain ⟨source, member, found⟩ := fromPeer.session id binding sent
    exact ⟨verifier, verifyBinding, source, binding, registered, created, member, found, accepted⟩
  · intro id assertion success
    rw [passed] at assertionsBound
    obtain ⟨binding, sent, accepted⟩ :=
      verifyAssertionSessionBinding_eq_ok.mp assertionsBound id assertion success
    obtain ⟨source, member, found⟩ := fromPeer.assertion id binding sent
    exact ⟨source, binding, member, found, accepted⟩

end Advance

section Sides

variable (crypto : Primitives) (config : HandshakeHandlerConfig)

/-- The initiators that a client session can hold after its initial message. -/
inductive Initiated : HandshakeInitiator → Prop where
  | built {random : Block 32} {initiator : HandshakeInitiator} {message : NoiseMessage}
      (created : ClientHandshakeHandler.newInitiator config random = .ok initiator)
      (sent : (initiator.buildInitialMessage crypto).1 = .ok message) :
      Initiated (initiator.buildInitialMessage crypto).2
  | processed {initiator : HandshakeInitiator} (message : NoiseMessage)
      (initiated : Initiated initiator) : Initiated (initiator.processResponse crypto message).2

/-- A hash that the client's initiator computed from the server's message. -/
def ClientHash (received : List HandshakeMessage) (hash : Bytes) : Prop :=
  ∃ initiator message noiseMessage keys, Initiated crypto config initiator ∧
    message ∈ received ∧ message.handshakeType = some noiseMessage ∧
    (initiator.processResponse crypto noiseMessage.toNoise).1 = .ok keys ∧
    keys.handshakeHash.toList = hash

/-- A hash that the server computed in its response to the client's message. -/
def ServerHash (received : List HandshakeMessage) (hash : Bytes) : Prop :=
  ∃ clientBindingExpected attestationState message noiseMessage random response,
    message ∈ received ∧ message.handshakeType = some noiseMessage ∧
    (ServerHandshakeHandler.new config clientBindingExpected attestationState).respond crypto
      noiseMessage.toNoise random = .ok response ∧
    response.handshakeHash.toList = hash

def Completed (fromHandshake : List HandshakeMessage → Bytes → Prop)
    (received : List HandshakeMessage) (result : HandshakeResult) : Prop :=
  FromPeer received result.handshakeState ∧
    fromHandshake received result.handshakeState.handshakeBindingToken

structure ClientReady (attestation : AttestationHandlerConfig) (attested : List AttestMessage)
    (received : List HandshakeMessage) (handshaker : ClientHandshakeHandler) : Prop where
  verified : Verified attestation attested handshaker.attestationState
  initiated : Initiated crypto config handshaker.handshakeInitiator
  completed : ∀ result, handshaker.handshakeResult = some result →
    Completed (ClientHash crypto config) received result

structure ServerReady (attestation : AttestationHandlerConfig) (attested : List AttestMessage)
    (received : List HandshakeMessage) (handshaker : ServerHandshakeHandler) : Prop where
  verified : Verified attestation attested handshaker.attestationState
  handshakeType : handshaker.handshakeType = config.handshakeType
  selfIdentityKey : handshaker.selfIdentityKey = config.selfStaticPrivateKey
  peerPublicKey : handshaker.peerPublicKey = config.peerStaticPublicKey
  responded : ∀ response, handshaker.noiseResponse = some response →
    ServerHash crypto config received response.handshakeHash.toList
  completed : ∀ result, handshaker.handshakeResult = some result →
    Completed (ServerHash crypto config) received result

end Sides

section Monotone

variable {crypto : Primitives} {config : HandshakeHandlerConfig}
  {received more : List HandshakeMessage}

theorem Initiated.after {initiator next : HandshakeInitiator} {message : NoiseMessage}
    {result : Outcome NoiseError HandshakeKeys} (initiated : Initiated crypto config initiator)
    (processed : initiator.processResponse crypto message = (result, next)) :
    Initiated crypto config next := by
  have reached := initiated.processed message
  rwa [processed] at reached

theorem ServerHash.mono {hash : Bytes} (computed : ServerHash crypto config received hash)
    (extended : received ⊆ more) : ServerHash crypto config more hash := by
  obtain ⟨expected, state, message, noiseMessage, random, response, member, rest⟩ := computed
  exact ⟨expected, state, message, noiseMessage, random, response, extended member, rest⟩

end Monotone

namespace ClientReady

variable {crypto : Primitives} {config : HandshakeHandlerConfig}
  {attestation : AttestationHandlerConfig} {attested : List AttestMessage}
  {received : List HandshakeMessage} {handshaker : ClientHandshakeHandler}

theorem start {random : Block 32} (verified : Verified attestation attested attestationState)
    (created : ClientHandshakeHandler.create crypto config attestationState random =
      .ok handshaker) : ClientReady crypto config attestation attested received handshaker := by
  simp only [ClientHandshakeHandler.create, Outcome.bind_eq_ok, Outcome.mapErr_eq_ok] at created
  obtain ⟨initiator, made, message, sent, created⟩ := created
  cases created
  exact ⟨verified, .built made sent, fun _ absent => by simp at absent⟩

theorem getOutgoingMessage
    (ready : ClientReady crypto config attestation attested received handshaker) :
    ClientReady crypto config attestation attested received handshaker.getOutgoingMessage.2 := by
  unfold ClientHandshakeHandler.getOutgoingMessage
  cases handshaker.initialMessage with
  | some | none => exact { ready with }

theorem putIncomingMessage
    (ready : ClientReady crypto config attestation attested received handshaker)
    {message : HandshakeResponse} {result : Outcome AnyError (Option Unit) × ClientHandshakeHandler}
    (put : ClientPut crypto handshaker message result) : (result.1 = .ok (some ()) →
      ClientReady crypto config attestation attested (received ++ [message]) result.2) ∧
    (result.1 ≠ .ok (some ()) →
      ClientReady crypto config attestation attested received result.2) := by
  cases put with
  | unused rejected => exact ⟨fun accepted => absurd accepted rejected, fun _ => ready⟩
  | failed processed rejected =>
    refine ⟨fun accepted => absurd accepted rejected, fun _ => ?_⟩
    exact { ready with initiated := ready.initiated.after processed }
  | completed followupMessage sent processed =>
    refine ⟨fun _ => ?_, fun rejected => absurd rfl rejected⟩
    have member : message ∈ received ++ [message] := by simp
    refine ⟨ready.verified, ready.initiated.after processed, ?_⟩
    intro result done
    cases done
    exact ⟨.of_message member _, _, message, _, _, ready.initiated, member, sent,
      congrArg Prod.fst processed, rfl⟩

end ClientReady

namespace ServerReady

variable {crypto : Primitives} {config : HandshakeHandlerConfig}
  {attestation : AttestationHandlerConfig} {attested : List AttestMessage}
  {received : List HandshakeMessage} {handshaker : ServerHandshakeHandler}

theorem start {clientBindingExpected : Bool}
    (verified : Verified attestation attested attestationState) :
    ServerReady crypto config attestation attested received
      (.new config clientBindingExpected attestationState) :=
  ⟨verified, rfl, rfl, rfl, (fun _ absent => nomatch absent), (fun _ absent => nomatch absent)⟩

section

variable (ready : ServerReady crypto config attestation attested received handshaker)

include ready

theorem getOutgoingMessage :
    ServerReady crypto config attestation attested received handshaker.getOutgoingMessage.2 :=
  { ready with }

theorem serverHash {noiseMessage : NoiseHandshakeMessage} {random : Block 32}
    {response : Response} (sent : message.handshakeType = some noiseMessage)
    (responded : handshaker.respond crypto noiseMessage.toNoise random = .ok response) :
    ServerHash crypto config (received ++ [message]) response.handshakeHash.toList := by
  have same : (ServerHandshakeHandler.new config handshaker.clientBindingExpected
      handshaker.attestationState).respond crypto noiseMessage.toNoise random =
      handshaker.respond crypto noiseMessage.toNoise random := by
    simp only [ServerHandshakeHandler.respond, ServerHandshakeHandler.new,
      ServerHandshakeHandler.identityKey, ready.handshakeType, ready.selfIdentityKey,
      ready.peerPublicKey]
  exact ⟨_, _, message, noiseMessage, random, response, by simp, sent, same.trans responded, rfl⟩

theorem putIncomingMessage {result : Outcome AnyError (Option Unit) × ServerHandshakeHandler}
    (put : ServerPut crypto handshaker message result) : (result.1 = .ok (some ()) →
      ServerReady crypto config attestation attested (received ++ [message]) result.2) ∧
    (result.1 ≠ .ok (some ()) →
      ServerReady crypto config attestation attested received result.2) := by
  have extended : received ⊆ received ++ [message] := List.subset_append_left _ _
  cases put with
  | unused rejected => exact ⟨fun accepted => absurd accepted rejected, fun _ => ready⟩
  | answered handshakeResponse sent responded unfinished =>
    refine ⟨fun _ => { ready with responded := ?_, completed := ?_ },
      fun rejected => absurd rfl rejected⟩
    · intro response kept
      cases kept
      exact ready.serverHash sent responded
    · intro result done
      simp [unfinished] at done
  | completed handshakeResponse sent responded =>
    refine ⟨fun _ => { ready with completed := ?_, responded := fun _ absent => nomatch absent },
      fun rejected => absurd rfl rejected⟩
    intro result done
    cases done
    exact ⟨.of_nothing _ _, ready.serverHash sent responded⟩
  | bound responded =>
    refine ⟨fun _ => { ready with completed := ?_, responded := fun _ absent => nomatch absent },
      fun rejected => absurd rfl rejected⟩
    intro result done
    cases done
    exact ⟨.of_message (by simp) _, (ready.responded _ responded).mono extended⟩

end

end ServerReady

end Oak.Session.PeerEvidence
