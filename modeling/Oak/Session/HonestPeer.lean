import Oak.Crypto.HandshakeAgreement
import Oak.Session.Transitions

namespace Oak.Session.HonestPeer

open Oak.Data Oak.Crypto

/-! What one side makes of the messages of an honest peer.

`Accepts` is what is asked of the verifiers and aggregators that the
application plugs in.  The rest of the module follows the attestation, the
bindings and the Noise messages through the handlers. -/

/-- A peer's evidence, assertions and bindings are accepted. -/
structure Accepts (verifier : AttestationHandlerConfig) (message : AttestMessage)
    (bindableAssertions : BTreeMap String BindableAssertion)
    (sessionBinders : BTreeMap String SessionBinder) : Prop where
  legacy : ∀ legacyResults,
    combineAttestationResults verifier.peerVerifiers message.endorsedEvidence =
      .ok legacyResults →
    verifier.legacyAttestationResultsAggregator legacyResults = .ok ()
  assertion : verifier.assertionAttestationAggregator
    (combineAssertionResults verifier.peerAssertionVerifiers message.assertions) = .ok ()
  sessionBinding : ∀ id peerVerifier received result,
    verifier.peerVerifiers.get? id = some peerVerifier →
    message.endorsedEvidence.get? id = some received →
    verifyEvidence peerVerifier received = .success received result →
    ∃ verifyBinding, peerVerifier.createSessionBindingVerifier result = .ok verifyBinding ∧
      ∀ bind boundData, sessionBinders.get? id = some bind →
        verifyBinding boundData (bind boundData) = .ok ()
  assertionBinding : ∀ id verifyAssertion bindable verified boundData binding,
    verifier.peerAssertionVerifiers.get? id = some verifyAssertion →
    bindableAssertions.get? id = some bindable →
    verifyAssertion bindable.assertion = .ok verified →
    bindable.bind boundData = .ok binding →
    verified.verifyBinding boundData binding = .ok ()

def legacyResultsOf (verifier : AttestationHandlerConfig) (message : AttestMessage) :
    BTreeMap String VerifierResult :=
  (verifier.peerVerifiers.mergeJoin message.endorsedEvidence).mapValues fun _ joined =>
    match joined with
    | .both peerVerifier received => verifyEvidence peerVerifier received
    | .left _ => .missing
    | .right evidence => .unverified evidence

theorem combineAttestationResults_eq (verifier : AttestationHandlerConfig)
    (message : AttestMessage) :
    combineAttestationResults verifier.peerVerifiers message.endorsedEvidence =
      .ok (legacyResultsOf verifier message) := rfl

def assertionResultsOf (verifier : AttestationHandlerConfig) (message : AttestMessage) :
    BTreeMap String BoundAssertionVerifierResult :=
  combineAssertionResults verifier.peerAssertionVerifiers message.assertions

def passed (verifier : AttestationHandlerConfig) (message : AttestMessage) :
    PeerAttestationVerdict :=
  .attestationPassed (legacyResultsOf verifier message) (assertionResultsOf verifier message)

theorem get?_legacyResultsOf {verifier : AttestationHandlerConfig} {message : AttestMessage}
    {id : String} {evidence : EndorsedEvidence} {result : AttestationResults}
    (success : (legacyResultsOf verifier message).get? id = some (.success evidence result)) :
    ∃ peerVerifier received, verifier.peerVerifiers.get? id = some peerVerifier ∧
      message.endorsedEvidence.get? id = some received ∧
      verifyEvidence peerVerifier received = .success evidence result :=
  BTreeMap.get?_judged (fun _ => VerifierResult.noConfusion) (fun _ => VerifierResult.noConfusion) success

theorem verifyEvidence_evidence {peerVerifier : PeerAttestationVerifier}
    {received evidence : EndorsedEvidence} {result : AttestationResults}
    (success : verifyEvidence peerVerifier received = .success evidence result) :
    evidence = received := by
  unfold verifyEvidence at success
  split at success
  · split at success
    · split at success
      · cases success
        rfl
      · contradiction
    · contradiction
  · contradiction

theorem get?_assertionResultsOf {verifier : AttestationHandlerConfig} {message : AttestMessage}
    {id : String} {verified : VerifiedBoundAssertion}
    (success : (assertionResultsOf verifier message).get? id = some (.success verified)) :
    ∃ verifyAssertion assertion,
      verifier.peerAssertionVerifiers.get? id = some verifyAssertion ∧
      message.assertions.get? id = some assertion ∧
      verifyAssertion assertion = .ok verified := by
  obtain ⟨verifyAssertion, assertion, registered, received, judged⟩ :=
    BTreeMap.get?_judged (by simp) (by simp) success
  refine ⟨verifyAssertion, assertion, registered, received, ?_⟩
  cases outcome : verifyAssertion assertion with
  | error error => simp [outcome] at judged
  | ok found => simpa [outcome] using judged

section

variable (verifier : AttestationHandlerConfig) (message : AttestMessage)

include verifier message

/-- There is a result other than `missing` exactly for what the peer sent. -/
theorem legacyResult_provided (id : String) :
    (∃ result, (legacyResultsOf verifier message).get? id = some result ∧ result ≠ .missing) ↔
      ∃ received, message.endorsedEvidence.get? id = some received := by
  refine BTreeMap.judged_iff (fun _ => rfl) (fun peerVerifier received => ?_) (by simp)
  change verifyEvidence peerVerifier received ≠ .missing
  unfold verifyEvidence
  split
  · split
    · split
      · simp
      · simp
    · simp
  · simp

theorem assertionResult_provided (id : String) :
    (∃ result, (assertionResultsOf verifier message).get? id = some result ∧
        result ≠ .missing) ↔
      ∃ received, message.assertions.get? id = some received := by
  refine BTreeMap.judged_iff (fun _ => rfl) (fun verifyAssertion assertion => ?_) (by simp)
  cases outcome : verifyAssertion assertion with
  | ok | error => simp [outcome]

theorem needsSessionBindings_passed : (passed verifier message).needsSessionBindings =
      (!message.assertions.isEmpty || !message.endorsedEvidence.isEmpty) := by
  rw [Bool.eq_iff_iff]
  simp only [PeerAttestationVerdict.needsSessionBindings, Bool.or_eq_true,
    BTreeMap.any_entries_iff, Bool.not_eq_true', BTreeMap.isEmpty_eq_false_iff]
  apply or_congr
  · apply exists_congr
    intro id
    rw [← assertionResult_provided verifier message id]
    apply exists_congr
    intro result
    cases result <;> simp [passed, PeerAttestationVerdict.getAssertionVerificationResults]
  · apply exists_congr
    intro id
    rw [← legacyResult_provided verifier message id]
    apply exists_congr
    intro result
    cases result <;> simp [passed, PeerAttestationVerdict.getLegacyVerificationResults]

end

section Attestation

variable {verifier : AttestationHandlerConfig} {message : AttestMessage}
  {bindableAssertions : BTreeMap String BindableAssertion}
  {sessionBinders : BTreeMap String SessionBinder} {attester : AttestationHandler}

theorem putIncomingMessage_passed (accepts : Accepts verifier message bindableAssertions sessionBinders) (configured : attester.config = verifier)
    (unjudged : attester.attestationResult = none) :
    attester.putIncomingMessage message = (.ok (some ()), { attester with
      attestationResult := some (passed verifier message)
      attestationBindingToken := attester.attestationBindingToken ++
        serializeAssertions message.assertions }) := by
  subst configured
  have legacy := accepts.legacy _ (combineAttestationResults_eq attester.config message)
  have assertion := accepts.assertion
  simp only [AttestationHandler.putIncomingMessage, unjudged, combineAttestationResults_eq, legacy,
    assertion]
  rfl

theorem bindingVerifiers_exist
    (accepts : Accepts verifier message bindableAssertions sessionBinders) :
    ∃ verifiers, (legacyResultsOf verifier message).filterMapM
      (AttestationHandler.bindingVerifierFor verifier.peerVerifiers) = .ok verifiers := by
  apply BTreeMap.filterMapM_exists
  intro id result found
  cases result with
  | success evidence result =>
    obtain ⟨peerVerifier, received, registered, sent, verified⟩ := get?_legacyResultsOf found
    obtain rfl := verifyEvidence_evidence verified
    obtain ⟨verifyBinding, created, _⟩ :=
      accepts.sessionBinding id peerVerifier _ result registered sent verified
    refine ⟨some verifyBinding, ?_⟩
    simp only [AttestationHandler.bindingVerifierFor, registered, created, Except.map,
      Outcome.returned]
  | failure | missing | unverified => exact ⟨none, rfl⟩

variable {verifiers : BTreeMap String SessionBindingVerifier}

theorem takeAttestationState_passed (configured : attester.config = verifier)
    (judged : attester.attestationResult = some (passed verifier message))
    (collected : (legacyResultsOf verifier message).filterMapM
      (AttestationHandler.bindingVerifierFor verifier.peerVerifiers) = .ok verifiers) :
    attester.takeAttestationState = .ok {
      peerAttestationVerdict := passed verifier message
      selfAssertions := attester.bindableAssertions
      peerSessionBindingVerifiers := verifiers
      attestationBindingToken := attester.attestationBindingToken } := by
  subst configured
  have kept : (passed attester.config message).getLegacyVerificationResults.filterMapM
      (AttestationHandler.bindingVerifierFor attester.config.peerVerifiers) = .ok verifiers :=
    collected
  simp only [AttestationHandler.takeAttestationState, judged, kept]

theorem verifySessionBinding_bindSession (accepts : Accepts verifier message bindableAssertions sessionBinders)
    (collected : (legacyResultsOf verifier message).filterMapM
      (AttestationHandler.bindingVerifierFor verifier.peerVerifiers) = .ok verifiers)
    (bound : ∀ id, message.endorsedEvidence.get? id ≠ none → sessionBinders.get? id ≠ none)
    (handshakeHash : Bytes) :
    verifySessionBinding verifiers (bindSession sessionBinders handshakeHash) handshakeHash =
      .ok () := by
  rw [verifySessionBinding_eq_ok]
  intro id verifyBinding kept
  obtain ⟨result, found, selected⟩ := (BTreeMap.get?_filterMapM collected id verifyBinding).mp kept
  cases result with
  | success evidence result =>
    obtain ⟨peerVerifier, received, registered, sent, verified⟩ := get?_legacyResultsOf found
    obtain rfl := verifyEvidence_evidence verified
    obtain ⟨accepted, created, verifies⟩ :=
      accepts.sessionBinding id peerVerifier _ result registered sent verified
    obtain ⟨bind, binder⟩ := Option.ne_none_iff_exists'.mp (bound id (by simp [sent]))
    have same : accepted = verifyBinding := by
      simpa [AttestationHandler.bindingVerifierFor, registered, created, Except.map,
        Outcome.returned] using selected
    subst same
    refine ⟨{ binding := bind handshakeHash }, ?_, verifies bind handshakeHash binder⟩
    rw [bindSession, BTreeMap.get?_mapValues, binder]
    rfl
  | failure | missing | unverified => simp [AttestationHandler.bindingVerifierFor] at selected

/-- The peer's assertion bindings are accepted when both sides hold the same
attestation binding token and handshake hash. -/
theorem verifyAssertionSessionBinding_bindAssertions
    (accepts : Accepts verifier message bindableAssertions sessionBinders)
    (sent : message.assertions = AttestationHandler.assertionsOf bindableAssertions)
    {crypto : Primitives} {peer : AttestationState}
    (own : peer.selfAssertions = bindableAssertions)
    {handshakeHash : Bytes} {bindings : BTreeMap String SessionBinding}
    (bound : bindAssertions crypto peer handshakeHash = .ok bindings) :
    verifyAssertionSessionBinding crypto (assertionResultsOf verifier message) bindings
      peer.attestationBindingToken handshakeHash = .ok () := by
  rw [verifyAssertionSessionBinding_eq_ok]
  intro id verified success
  obtain ⟨verifyAssertion, assertion, registered, received, accepted⟩ :=
    get?_assertionResultsOf success
  rw [sent, AttestationHandler.assertionsOf, BTreeMap.get?_mapValues, Option.map_eq_some_iff]
    at received
  obtain ⟨bindable, kept, rfl⟩ := received
  rw [bindAssertions, own] at bound
  obtain ⟨binding, made⟩ := BTreeMap.mapM_total bound kept
  refine ⟨binding, (BTreeMap.get?_mapM bound id binding).mpr ⟨bindable, kept, made⟩, ?_⟩
  exact accepts.assertionBinding id verifyAssertion bindable verified _ binding registered kept
    accepted made

end Attestation

section Handshake

open HandshakeAgreement

variable {crypto : Primitives}

def patternOf : HandshakeType → Option NoisePattern
  | .noiseKK => some .kk
  | .noiseNK => some .nk
  | .noiseNN => some .nn
  | .noiseKN => none

/-- Both sides hold the static keys that their handshake type needs. -/
def MatchingKeys (clientStatic serverStatic : KeyPair crypto)
    (client server : HandshakeHandlerConfig) : Prop :=
  client.handshakeType = server.handshakeType ∧
  match client.handshakeType with
  | .noiseKK =>
    client.selfStaticPrivateKey = some clientStatic.identity ∧
    client.peerStaticPublicKey = some serverStatic.publicKey.toList ∧
    server.selfStaticPrivateKey = some serverStatic.identity ∧
    server.peerStaticPublicKey = some clientStatic.publicKey.toList
  | .noiseKN =>
    client.selfStaticPrivateKey = some clientStatic.identity ∧
    server.peerStaticPublicKey = some clientStatic.publicKey.toList
  | .noiseNK =>
    client.peerStaticPublicKey = some serverStatic.publicKey.toList ∧
    server.selfStaticPrivateKey = some serverStatic.identity
  | .noiseNN => True

variable {clientStatic serverStatic : KeyPair crypto} {client server : HandshakeHandlerConfig}
  {pattern : NoisePattern}

section

variable (matching : MatchingKeys clientStatic serverStatic client server)
    (known : patternOf client.handshakeType = some pattern)

include matching known

theorem newInitiator_of_matching (random : Block 32) {initiator : HandshakeInitiator}
    (created : HandshakeAgreement.newInitiator pattern serverStatic.publicKey
      clientStatic.identity random = .ok initiator) :
    ClientHandshakeHandler.newInitiator client random = .ok initiator := by
  obtain ⟨same, keys⟩ := matching
  cases kind : client.handshakeType with
  | noiseKK =>
    rw [kind] at keys known
    cases known
    obtain ⟨own, peer, _, _⟩ := keys
    have widened : (HandshakeInitiator.newKk serverStatic.publicKey clientStatic.identity
        random).widen = (.ok initiator : Outcome AnyError HandshakeInitiator) := by
      rw [show HandshakeInitiator.newKk serverStatic.publicKey clientStatic.identity random =
        .ok initiator from created]
      rfl
    simp [ClientHandshakeHandler.newInitiator, kind, ClientHandshakeHandler.peerPublicKey, peer,
      own, widened]
  | noiseNK =>
    rw [kind] at keys known
    cases known
    obtain ⟨peer, _⟩ := keys
    have widened : (HandshakeInitiator.newNk serverStatic.publicKey random).widen =
        (.ok initiator : Outcome AnyError HandshakeInitiator) := by
      rw [show HandshakeInitiator.newNk serverStatic.publicKey random = .ok initiator
        from created]
      rfl
    simp [ClientHandshakeHandler.newInitiator, kind, ClientHandshakeHandler.peerPublicKey, peer,
      widened]
  | noiseNN =>
    rw [kind] at known
    cases known
    have widened : (HandshakeInitiator.newNn random).widen =
        (.ok initiator : Outcome AnyError HandshakeInitiator) := by
      rw [show HandshakeInitiator.newNn random = .ok initiator from created]
      rfl
    simp [ClientHandshakeHandler.newInitiator, kind, widened]
  | noiseKN =>
    rw [kind] at known
    cases known

theorem respond_of_matching (clientBindingExpected : Bool)
    (attestationState : AttestationState) {message : NoiseMessage} {random : Block 32}
    {response : Response}
    (responded : HandshakeAgreement.respond crypto pattern serverStatic.identity
      clientStatic.publicKey.toList message random = .ok response) :
    (ServerHandshakeHandler.new server clientBindingExpected attestationState).respond crypto
      message random = .ok response := by
  obtain ⟨same, keys⟩ := matching
  cases kind : client.handshakeType with
  | noiseKK =>
    rw [kind] at keys known same
    cases known
    obtain ⟨_, _, own, peer⟩ := keys
    have answered : respondKk crypto serverStatic.identity clientStatic.publicKey.toList message
      random = .ok response := responded
    simp [ServerHandshakeHandler.respond, ServerHandshakeHandler.new, ← same,
      ServerHandshakeHandler.identityKey, own, peer, answered, Outcome.mapErr]
  | noiseNK =>
    rw [kind] at keys known same
    cases known
    obtain ⟨_, own⟩ := keys
    have answered : respondNk crypto serverStatic.identity message random = .ok response :=
      responded
    simp [ServerHandshakeHandler.respond, ServerHandshakeHandler.new, ← same,
      ServerHandshakeHandler.identityKey, own, answered, Outcome.mapErr]
  | noiseNN =>
    rw [kind] at known same
    cases known
    have answered : respondNn crypto message random = .ok response := responded
    simp [ServerHandshakeHandler.respond, ServerHandshakeHandler.new, ← same, answered,
      Outcome.mapErr]
  | noiseKN =>
    rw [kind] at known
    cases known

end

theorem noise_exchange (commutes : crypto.DhCommutes) (opens : crypto.OpensSealed)
    (matching : MatchingKeys clientStatic serverStatic client server)
    (known : patternOf client.handshakeType = some pattern)
    (clientEphemeral serverEphemeral : EphemeralKeyPair crypto) :
    ∃ handshakeInitiator message response keys finished,
      (∀ attestationState,
        ClientHandshakeHandler.create crypto client attestationState clientEphemeral.random = .ok {
          handshakeInitiator
          sessionBinders := client.sessionBinders
          attestationState
          initialMessage := some {
            handshakeType := some (.ofNoise message)
            attestationBindings := .empty
            assertionBindings := .empty }
          followupMessage := none
          handshakeResult := none }) ∧
      (∀ clientBindingExpected attestationState,
        (ServerHandshakeHandler.new server clientBindingExpected attestationState).respond crypto
          message serverEphemeral.random = .ok response) ∧
      handshakeInitiator.processResponse crypto response.response = (.ok keys, finished) ∧
      keys.handshakeHash = response.handshakeHash := by
  obtain ⟨initiator, message, sent, noise, created, built, rfl, sealedState, ephemeral, identity,
    received⟩ := first_message_agreement commutes pattern clientStatic serverStatic clientEphemeral
  obtain ⟨response, keys, finished, responded, processed, agree⟩ :=
    second_message_agreement commutes opens serverEphemeral sealedState
      (ephemeral ▸ clientEphemeral.matching) identity
  refine ⟨sent, {
      ephemeralPublicKey := clientEphemeral.publicKey.toList
      ciphertext := (noise.encryptAndHash crypto []).1 },
    response, keys, finished, ?_, ?_, processed, agree.handshakeHash⟩
  · intro attestationState
    simp only [ClientHandshakeHandler.create, newInitiator_of_matching matching known _ created,
      built, Outcome.ok_bind]
    rfl
  · intro clientBindingExpected attestationState
    exact respond_of_matching matching known clientBindingExpected attestationState
      ((received _).trans responded)

end Handshake

end Oak.Session.HonestPeer
