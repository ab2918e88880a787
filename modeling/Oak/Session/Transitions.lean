import Oak.Session.Session

namespace Oak.Session

open Oak.Data Oak.Crypto

/-! What `Step::next` can do, and what the binding checks in it establish. -/

theorem AttestationHandler.create_eq_ok {config : AttestationHandlerConfig}
    {attester : AttestationHandler} (made : create config = .ok attester) :
    ∃ endorsedEvidence, config.selfAttesters.mapM (quoteEvidence config) = .ok endorsedEvidence ∧
      attester = {
        config
        attestMessage := some {
          endorsedEvidence
          assertions := assertionsOf attester.bindableAssertions }
        attestationResult := none
        bindableAssertions := attester.bindableAssertions
        attestationBindingToken := [] } := by
  simp only [create, bind, Except.bind] at made
  split at made
  · contradiction
  · split at made
    · contradiction
    · rename_i endorsedEvidence quoted
      cases made
      exact ⟨endorsedEvidence, quoted, rfl⟩

theorem Endpoint.create_eq_ok {η ε : Type} {provider : HandshakeHandlerBuilder η}
    {config : SessionConfig ε} {session : Endpoint η ε}
    (created : create provider config = .ok session) :
    ∃ attester, AttestationHandler.create config.attestationHandlerConfig = .ok attester ∧
      session = ⟨.attestation attester provider config.provideEncryptor, [], []⟩ := by
  cases made : AttestationHandler.create config.attestationHandlerConfig with
  | error reason => simp [create, made] at created
  | ok attester =>
    simp only [create, made, bind, Except.bind, pure, Except.pure, Except.ok.injEq] at created
    exact ⟨attester, rfl, created.symm⟩

variable {η ε : Type}

namespace Step

/-- `Step::Error` and `Step::Invalid`. -/
def IsDead : Step η ε → Prop
  | error _ _ => True
  | invalid => True
  | _ => False

theorem IsDead.cases {step : Step η ε} (isDead : step.IsDead) :
    (∃ attestationState handshakeState, step = error attestationState handshakeState) ∨
      step = invalid := by
  cases step with
  | error attestationState handshakeState => exact .inl ⟨_, _, rfl⟩
  | invalid => exact .inr rfl
  | attestation | handshake | opened => exact isDead.elim

theorem IsDead.not_isOpen {step : Step η ε} (isDead : step.IsDead) : ¬ step.IsOpen := by
  rcases isDead.cases with ⟨attestationState, handshakeState, rfl⟩ | rfl
  · exact id
  · exact id

variable [HandshakeHandler η]

/-- The results of `Step::next`. -/
inductive NextStep (crypto : Primitives) (random : Block 32) :
    Step η ε → Outcome AnyError Unit × Step η ε → Prop where
  | toHandshake {attester : AttestationHandler} {provider : HandshakeHandlerBuilder η}
      {provideEncryptor : OrderedCrypter → Outcome AnyError ε}
      {attestationState : AttestationState} {handshaker : η}
      {legacyResults : BTreeMap String VerifierResult}
      {assertionResults : BTreeMap String BoundAssertionVerifierResult}
      (taken : attester.takeAttestationState = .ok attestationState)
      (passed : attestationState.peerAttestationVerdict =
        .attestationPassed legacyResults assertionResults)
      (built : provider attestationState.peerAttestationVerdict.needsSessionBindings
        attestationState random = .ok handshaker) :
      NextStep crypto random (attestation attester provider provideEncryptor)
        (.ok (), handshake handshaker provideEncryptor)
  | toOpened {handshaker : η} {provideEncryptor : OrderedCrypter → Outcome AnyError ε}
      {attestationState : AttestationState} {handshakeResult : HandshakeResult} {encryptor : ε}
      (taken : HandshakeHandler.takeHandshakeResult handshaker =
        .ok (handshakeResult, attestationState))
      (sessionBound : verifySessionBinding attestationState.peerSessionBindingVerifiers
        handshakeResult.handshakeState.peerSessionBindings
        handshakeResult.handshakeState.handshakeBindingToken = .ok ())
      (assertionsBound : verifyAssertionSessionBinding crypto
        attestationState.peerAttestationVerdict.getAssertionVerificationResults
        handshakeResult.handshakeState.peerAssertionBindings
        attestationState.attestationBindingToken
        handshakeResult.handshakeState.handshakeBindingToken = .ok ())
      (provided : provideEncryptor handshakeResult.crypter = .ok encryptor) :
      NextStep crypto random (handshake handshaker provideEncryptor)
        (.ok (), opened encryptor attestationState handshakeResult.handshakeState)
  | failed {step dead : Step η ε} (fault : Fault AnyError) (isDead : dead.IsDead) :
      NextStep crypto random step (.error fault, dead)

theorem next_cases (crypto : Primitives) (step : Step η ε) (random : Block 32) :
    NextStep crypto random step (step.next crypto random) := by
  unfold next
  split
  · split
    · exact .failed _ trivial
    · exact .failed _ trivial
    · next taken =>
      split
      · exact .failed _ trivial
      · next passed =>
        split
        · exact .failed _ trivial
        · exact .failed _ trivial
        · next built => exact .toHandshake taken passed built
  · split
    · exact .failed _ trivial
    · exact .failed _ trivial
    · next taken =>
      dsimp only
      split
      · exact .failed _ trivial
      · next sessionBound =>
        split
        · exact .failed _ trivial
        · next assertionsBound =>
          split
          · exact .failed _ trivial
          · next provided => exact .toOpened taken sessionBound assertionsBound provided
  · exact .failed _ trivial
  · exact .failed _ trivial
  · exact .failed _ trivial

end Step

inductive ClientPut (crypto : Primitives) (handshaker : ClientHandshakeHandler)
    (message : HandshakeResponse) :
    Outcome AnyError (Option Unit) × ClientHandshakeHandler → Prop where
  | unused {outcome : Outcome AnyError (Option Unit)} (rejected : outcome ≠ .ok (some ())) :
      ClientPut crypto handshaker message (outcome, handshaker)
  | failed {outcome : Outcome AnyError (Option Unit)} {noiseMessage : NoiseMessage}
      {result : Outcome NoiseError HandshakeKeys} {handshakeInitiator : HandshakeInitiator}
      (processed : handshaker.handshakeInitiator.processResponse crypto noiseMessage =
        (result, handshakeInitiator))
      (rejected : outcome ≠ .ok (some ())) :
      ClientPut crypto handshaker message (outcome, { handshaker with handshakeInitiator })
  | completed {noiseMessage : NoiseHandshakeMessage} {keys : HandshakeKeys}
      {handshakeInitiator : HandshakeInitiator} (followupMessage : Option HandshakeRequest)
      (sent : message.handshakeType = some noiseMessage)
      (processed : handshaker.handshakeInitiator.processResponse crypto noiseMessage.toNoise =
        (.ok keys, handshakeInitiator)) :
      ClientPut crypto handshaker message (.ok (some ()), { handshaker with
        handshakeInitiator
        followupMessage
        handshakeResult := some {
          crypter := keys.crypter
          handshakeState := {
            handshakeBindingToken := keys.handshakeHash.toList
            peerSessionBindings := message.attestationBindings
            peerAssertionBindings := message.assertionBindings } } })

theorem ClientHandshakeHandler.put_cases (crypto : Primitives)
    (handshaker : ClientHandshakeHandler) (message : HandshakeResponse) :
    ClientPut crypto handshaker message (handshaker.putIncomingMessage crypto message) := by
  unfold putIncomingMessage
  split
  · exact .unused (by simp)
  · cases sent : message.handshakeType with
    | none => exact .unused (by simp [Outcome.err])
    | some noiseMessage =>
      cases processed : handshaker.handshakeInitiator.processResponse crypto
          noiseMessage.toNoise with
      | mk outcome handshakeInitiator =>
        cases outcome with
        | error fault =>
          simp only [processed]
          exact .failed processed (by simp)
        | ok keys =>
          simp only [processed]
          split
          · cases bound : bindAssertions crypto handshaker.attestationState
                keys.handshakeHash.toList with
            | error reason =>
              exact .failed processed (by simp [Outcome.err])
            | ok assertionBindings => exact .completed _ sent processed
          · exact .completed _ sent processed

inductive ServerPut (crypto : Primitives) (handshaker : ServerHandshakeHandler)
    (message : HandshakeRequest) :
    Outcome AnyError (Option Unit) × ServerHandshakeHandler → Prop where
  | unused {outcome : Outcome AnyError (Option Unit)} (rejected : outcome ≠ .ok (some ())) :
      ServerPut crypto handshaker message (outcome, handshaker)
  | answered {noiseMessage : NoiseHandshakeMessage} {random : Block 32} {response : Response}
      (handshakeResponse : HandshakeResponse)
      (sent : message.handshakeType = some noiseMessage)
      (responded : handshaker.respond crypto noiseMessage.toNoise random = .ok response)
      (unfinished : handshaker.handshakeResult = none) :
      ServerPut crypto handshaker message (.ok (some ()), { handshaker with
        handshakeResponse := some handshakeResponse
        noiseResponse := some response })
  | completed {noiseMessage : NoiseHandshakeMessage} {random : Block 32} {response : Response}
      (handshakeResponse : HandshakeResponse)
      (sent : message.handshakeType = some noiseMessage)
      (responded : handshaker.respond crypto noiseMessage.toNoise random = .ok response) :
      ServerPut crypto handshaker message (.ok (some ()), { handshaker with
        noiseResponse := none
        handshakeResponse := some handshakeResponse
        handshakeResult := some (ServerHandshakeHandler.resultOf response .empty .empty) })
  | bound {response : Response} (responded : handshaker.noiseResponse = some response) :
      ServerPut crypto handshaker message (.ok (some ()), { handshaker with
        noiseResponse := none
        handshakeResult := some (ServerHandshakeHandler.resultOf response
          message.attestationBindings message.assertionBindings) })

theorem ServerHandshakeHandler.put_cases (crypto : Primitives)
    (handshaker : ServerHandshakeHandler) (message : HandshakeRequest) (random : Block 32) :
    ServerPut crypto handshaker message
      (handshaker.putIncomingMessage crypto message random) := by
  unfold putIncomingMessage
  split
  · exact .unused (by simp)
  · rename_i unfinished
    have unfinished : handshaker.handshakeResult = none := by simpa using unfinished
    cases responded : handshaker.noiseResponse with
    | some response => exact .bound responded
    | none =>
      cases sent : message.handshakeType with
      | none => exact .unused (by simp [Outcome.err])
      | some noiseMessage =>
        cases answer : handshaker.respond crypto noiseMessage.toNoise random with
        | error fault =>
          simp only [answer]
          exact .unused (by simp)
        | ok response =>
          simp only [answer]
          cases signed : bindAssertions crypto handshaker.attestationState
              response.handshakeHash.toList with
          | error reason => exact .unused (by simp [Outcome.err])
          | ok assertionBindings =>
            dsimp only
            split
            · exact .answered _ sent answer unfinished
            · exact .completed _ sent answer

namespace Endpoint

theorem advance_cases [HandshakeHandler η] {α : Type} (crypto : Primitives) (session : Endpoint η ε)
    (random : Block 32) (result : α) :
    ∃ outcome step, Step.NextStep crypto random session.step (outcome, step) ∧
      session.advance crypto random result = (outcome.map fun _ => result, { session with step }) := by
  have possible := Step.next_cases crypto session.step random
  rw [advance]
  cases moved : session.step.next crypto random with
  | mk outcome step =>
    rw [moved] at possible
    refine ⟨outcome, step, possible, ?_⟩
    cases outcome with
    | ok | error => rfl

section Kept

variable [Encryptor ε] {session : Endpoint η ε} {holds : Step η ε → Prop}
  (blind : ∀ {encryptor other attestationState handshakeState},
    holds (.opened encryptor attestationState handshakeState) →
      holds (.opened other attestationState handshakeState)) (kept : holds session.step)

include blind kept

/-- Application data changes the encryptor of an open session only. -/
theorem write_kept (plaintext : PlaintextMessage) : holds (session.write plaintext).2.step := by
  obtain ⟨step, outgoing, incoming⟩ := session
  unfold write
  split
  · next current =>
    subst current
    split
    · split
      · exact blind kept
      · exact blind kept
    · exact kept
  · exact kept

theorem readFrom_kept (messageName : String) : holds (session.readFrom messageName).2.step := by
  obtain ⟨step, outgoing, incoming⟩ := session
  unfold readFrom
  split
  · next current =>
    subst current
    split
    · exact kept
    · split
      · exact blind kept
      · exact blind kept
    · exact kept
  · exact kept

end Kept

@[simp] theorem pushIncoming_step (session : Endpoint η ε) (message : SessionMessage) :
    (session.pushIncoming message).2.step = session.step := by
  unfold pushIncoming
  split
  · rfl
  · rfl

end Endpoint

theorem verifySessionBinding_eq_ok {bindingVerifiers : BTreeMap String SessionBindingVerifier}
    {bindings : BTreeMap String SessionBinding} {handshakeBindingToken : Bytes} :
    verifySessionBinding bindingVerifiers bindings handshakeBindingToken = .ok () ↔
      ∀ id verifyBinding, bindingVerifiers.get? id = some verifyBinding →
        ∃ binding, bindings.get? id = some binding ∧
          verifyBinding handshakeBindingToken binding.binding = .ok () := by
  simp only [verifySessionBinding, forM_eq_ok_iff, Prod.forall, ← BTreeMap.get?_eq_some_iff]
  constructor
  · intro checked id verifyBinding registered
    have accepted := checked id verifyBinding registered
    cases sent : bindings.get? id with
    | none => simp [sent] at accepted
    | some binding =>
      simp only [sent] at accepted
      exact ⟨binding, rfl, accepted⟩
  · intro accepted id verifyBinding registered
    obtain ⟨binding, sent, verified⟩ := accepted id verifyBinding registered
    simp only [sent, verified]

theorem verifyAssertionSessionBinding_eq_ok {crypto : Primitives}
    {verifiedBoundAssertions : BTreeMap String BoundAssertionVerifierResult}
    {assertionBindings : BTreeMap String SessionBinding}
    {attestationBindingToken handshakeHash : Bytes} :
    verifyAssertionSessionBinding crypto verifiedBoundAssertions assertionBindings
        attestationBindingToken handshakeHash = .ok () ↔
      ∀ id assertion, verifiedBoundAssertions.get? id = some (.success assertion) →
        ∃ binding, assertionBindings.get? id = some binding ∧
          assertion.verifyBinding
            (createSessionBindingToken crypto attestationBindingToken handshakeHash) binding =
              .ok () := by
  simp only [verifyAssertionSessionBinding, forM_eq_ok_iff, Prod.forall,
    ← BTreeMap.get?_eq_some_iff]
  constructor
  · intro checked id assertion registered
    have accepted := checked id _ registered
    cases sent : assertionBindings.get? id with
    | none => simp [sent] at accepted
    | some binding =>
      refine ⟨binding, rfl, ?_⟩
      cases verified : assertion.verifyBinding
          (createSessionBindingToken crypto attestationBindingToken handshakeHash) binding with
      | ok _ => rfl
      | error error => simp [sent, verified] at accepted
  · intro accepted id result registered
    cases result with
    | success assertion =>
      obtain ⟨binding, sent, verified⟩ := accepted id assertion registered
      simp only [sent, verified]
    | failure | missing | unverified => rfl

end Oak.Session
