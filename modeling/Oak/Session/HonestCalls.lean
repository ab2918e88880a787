import Oak.Session.HonestPeer

namespace Oak.Session.HonestCalls

open Oak.Data Oak.Crypto
open Oak.Session.HonestPeer

/-! The calls of an honest exchange.

One lemma for every call that a session answers while it attests, shakes hands
and opens: what the call returns and the step the session is left in. -/

variable {ε : Type} {crypto : Primitives} {random : Block 32}
  {attester : AttestationHandler} {provideEncryptor : OrderedCrypter → Outcome AnyError ε}

structure Opens (crypto : Primitives) (provideEncryptor : OrderedCrypter → Outcome AnyError ε)
    (attestationState : AttestationState) (result : HandshakeResult) (encryptor : ε) : Prop where
  sessionBound : verifySessionBinding attestationState.peerSessionBindingVerifiers
    result.handshakeState.peerSessionBindings result.handshakeState.handshakeBindingToken = .ok ()
  assertionsBound : verifyAssertionSessionBinding crypto
    attestationState.peerAttestationVerdict.getAssertionVerificationResults
    result.handshakeState.peerAssertionBindings attestationState.attestationBindingToken
    result.handshakeState.handshakeBindingToken = .ok ()
  provided : provideEncryptor result.crypter = .ok encryptor

variable {attestationState : AttestationState} {encryptor : ε} {result : HandshakeResult}

section Advance

variable {η α : Type} [HandshakeHandler η]

theorem Opens.advance (opens : Opens crypto provideEncryptor attestationState result encryptor)
    {handshaker : η} (taken : HandshakeHandler.takeHandshakeResult handshaker =
      .ok (result, attestationState)) (answer : α) :
    Endpoint.advance crypto ⟨.handshake handshaker provideEncryptor, [], []⟩ random answer =
      (.ok answer, ⟨.opened encryptor attestationState result.handshakeState, [], []⟩) := by
  simp only [Endpoint.advance, Step.next, taken, opens.sessionBound, opens.assertionsBound,
    opens.provided]

theorem advance_attestation (provider : HandshakeHandlerBuilder η) {handshaker : η}
    {legacyResults : BTreeMap String VerifierResult}
    {assertionResults : BTreeMap String BoundAssertionVerifierResult}
    (taken : attester.takeAttestationState = .ok attestationState)
    (passed : attestationState.peerAttestationVerdict =
      .attestationPassed legacyResults assertionResults)
    (built : provider attestationState.peerAttestationVerdict.needsSessionBindings
      attestationState random = .ok handshaker) (answer : α) :
    Endpoint.advance crypto ⟨.attestation attester provider provideEncryptor, [], []⟩ random answer =
      (.ok answer, ⟨.handshake handshaker provideEncryptor, [], []⟩) := by
  rw [passed] at built
  simp only [Endpoint.advance, Step.next, taken, passed, built]

end Advance

variable [Encryptor ε]

def fetched (attester : AttestationHandler) : AttestationHandler :=
  attester.getOutgoingMessage.2

def judged (attester : AttestationHandler) (message : AttestMessage) : AttestationHandler :=
  { attester with
    attestationResult := some (passed attester.config message)
    attestationBindingToken := attester.attestationBindingToken ++
      serializeAssertions message.assertions }

def stateOf (attester : AttestationHandler) (message : AttestMessage)
    (verifiers : BTreeMap String SessionBindingVerifier) : AttestationState where
  peerAttestationVerdict := passed attester.config message
  selfAssertions := attester.bindableAssertions
  peerSessionBindingVerifiers := verifiers
  attestationBindingToken := attester.attestationBindingToken

theorem client_fetch_attest {message : AttestMessage}
    {provider : HandshakeHandlerBuilder ClientHandshakeHandler}
    (offered : attester.attestMessage = some message) :
    ClientSession.call crypto ⟨.attestation attester provider provideEncryptor, [], []⟩
        (.getOutgoingMessage random) = (.got (.ok (some ⟨some (.attest message)⟩)),
        ⟨.attestation (fetched attester) provider provideEncryptor, [], []⟩) := by
  simp [ClientSession.call, ClientSession.getOutgoingMessage, fetched,
    AttestationHandler.getOutgoingMessage, offered]

variable {handshaker : ClientHandshakeHandler}
  {provider : HandshakeHandlerBuilder ServerHandshakeHandler}

section Attested

variable {message : AttestMessage} {bindableAssertions : BTreeMap String BindableAssertion}
  {sessionBinders : BTreeMap String SessionBinder}
  {verifiers : BTreeMap String SessionBindingVerifier} {config : HandshakeHandlerConfig}

theorem taken_after_judging (collected : (legacyResultsOf attester.config message).filterMapM
      (AttestationHandler.bindingVerifierFor attester.config.peerVerifiers) = .ok verifiers) :
    (judged attester message).takeAttestationState =
      .ok (stateOf (judged attester message) message verifiers) :=
  takeAttestationState_passed rfl rfl collected

section

variable (accepts : Accepts attester.config message bindableAssertions sessionBinders)
    (unjudged : attester.attestationResult = none)
    (small : message.encodedLen < defaultMaxAttestationSize)

include accepts unjudged small

theorem client_put_attest (collected : (legacyResultsOf attester.config message).filterMapM
      (AttestationHandler.bindingVerifierFor attester.config.peerVerifiers) = .ok verifiers) (built : ClientHandshakeHandler.create crypto config
      (stateOf (judged attester message) message verifiers) random = .ok handshaker) :
    ClientSession.call crypto
        ⟨.attestation attester (clientHandshakeHandlerBuilder crypto config) provideEncryptor,
          [], []⟩ (.putIncomingMessage ⟨some (.attest message)⟩ random) =
      (.put (.ok (some ())), ⟨.handshake handshaker provideEncryptor, [], []⟩) := by
  have put : attester.putIncomingMessage message = (.ok (some ()), judged attester message) :=
    putIncomingMessage_passed accepts rfl unjudged
  simp [ClientSession.call, ClientSession.putIncomingMessage, small, put, advance_attestation
    (clientHandshakeHandlerBuilder crypto config) (taken_after_judging collected) rfl built]

theorem server_put_attest :
    ServerSession.call crypto ⟨.attestation attester provider provideEncryptor, [], []⟩
        (.putIncomingMessage ⟨some (.attest message)⟩ random) = (.put (.ok (some ())),
        ⟨.attestation (judged attester message) provider provideEncryptor, [], []⟩) := by
  have put : attester.putIncomingMessage message = (.ok (some ()), judged attester message) :=
    putIncomingMessage_passed accepts rfl unjudged
  simp [ServerSession.call, ServerSession.putIncomingMessage, small, put]

end

theorem server_put_oversize (large : ¬ message.encodedLen < defaultMaxAttestationSize) :
    ServerSession.call crypto ⟨.attestation attester provider provideEncryptor, [], []⟩
        (.putIncomingMessage ⟨some (.attest message)⟩ random) =
      (.put (.err s!"Max attest message size exceeded, actual size: {message.encodedLen}"),
        ⟨.attestation attester provider provideEncryptor, [], []⟩) := by
  simp [ServerSession.call, ServerSession.putIncomingMessage, large]

theorem server_fetch_attest {response : AttestMessage}
    (offered : attester.attestMessage = some response)
    (collected : (legacyResultsOf attester.config message).filterMapM
      (AttestationHandler.bindingVerifierFor attester.config.peerVerifiers) = .ok verifiers)
    (passedPeer : attester.attestationResult = some (passed attester.config message)) :
    ServerSession.call crypto
        ⟨.attestation attester (serverHandshakeHandlerBuilder config) provideEncryptor, [], []⟩
        (.getOutgoingMessage random) = (.got (.ok (some ⟨some (.attest response)⟩)),
        ⟨.handshake (.new config (passed attester.config message).needsSessionBindings
          (stateOf (fetched attester) message verifiers)) provideEncryptor, [], []⟩) := by
  have got : attester.getOutgoingMessage = (.ok (some response), fetched attester) := by
    simp only [AttestationHandler.getOutgoingMessage, offered, fetched]
  have taken : (fetched attester).takeAttestationState =
      .ok (stateOf (fetched attester) message verifiers) :=
    takeAttestationState_passed rfl passedPeer collected
  simp only [ServerSession.call, ServerSession.getOutgoingMessage, got,
    advance_attestation (serverHandshakeHandlerBuilder config) taken rfl rfl]
  rfl

end Attested

variable {message : HandshakeRequest}

theorem client_fetch_initial (ready : handshaker.initialMessage = some message)
    (unfinished : handshaker.handshakeResult = none) :
    ClientSession.call crypto ⟨.handshake handshaker provideEncryptor, [], []⟩
        (.getOutgoingMessage random) =
      (.got (.ok (some ⟨some (.handshake message)⟩)),
        ⟨.handshake { handshaker with initialMessage := none } provideEncryptor, [], []⟩) := by
  simp [ClientSession.call, ClientSession.getOutgoingMessage,
    ClientHandshakeHandler.getOutgoingMessage, ready,
    ClientHandshakeHandler.isHandshakeComplete, unfinished]

theorem client_fetch_nothing (sent : handshaker.initialMessage = none) (waiting : handshaker.followupMessage = none) :
    ClientSession.call crypto ⟨.handshake handshaker provideEncryptor, [], []⟩
        (.getOutgoingMessage random) =
      (.got (.ok none), ⟨.handshake handshaker provideEncryptor, [], []⟩) := by
  obtain ⟨initiator, binders, state, initial, followup, result⟩ := handshaker
  cases sent
  cases waiting
  rfl

theorem server_fetch_nothing {handshaker : ServerHandshakeHandler}
    (nothing : handshaker.handshakeResponse = none)
    (unfinished : handshaker.handshakeResult = none) :
    ServerSession.call crypto ⟨.handshake handshaker provideEncryptor, [], []⟩
        (.getOutgoingMessage random) =
      (.got (.ok none), ⟨.handshake handshaker provideEncryptor, [], []⟩) := by
  obtain ⟨kind, own, peer, binders, expected, state, noise, response, result⟩ := handshaker
  cases nothing
  cases unfinished
  rfl

variable {noiseMessage : NoiseHandshakeMessage} {message : HandshakeResponse}
  {assertionBindings : BTreeMap String SessionBinding} {finished : HandshakeInitiator}

section Client

variable {handshaker : ClientHandshakeHandler} {encryptor : ε}

def responseResult (keys : HandshakeKeys) (message : HandshakeResponse) : HandshakeResult where
  crypter := keys.crypter
  handshakeState := {
    handshakeBindingToken := keys.handshakeHash.toList
    peerSessionBindings := message.attestationBindings
    peerAssertionBindings := message.assertionBindings }

theorem client_put_response_opens {keys : HandshakeKeys}
    (unfinished : handshaker.handshakeResult = none) (quiet : handshaker.followupMessage = none)
    (sent : message.handshakeType = some noiseMessage)
    (processed : handshaker.handshakeInitiator.processResponse crypto noiseMessage.toNoise =
      (.ok keys, finished)) (silent : handshaker.hasBindings = false)
    (opens : Opens crypto provideEncryptor handshaker.attestationState
      (responseResult keys message) encryptor) :
    ClientSession.call crypto ⟨.handshake handshaker provideEncryptor, [], []⟩
        (.putIncomingMessage ⟨some (.handshake message)⟩ random) =
      (.put (.ok (some ())), ⟨.opened encryptor handshaker.attestationState
        (responseResult keys message).handshakeState, [], []⟩) := by
  let finishedHandshaker : ClientHandshakeHandler := { handshaker with
    handshakeInitiator := finished
    handshakeResult := some (responseResult keys message) }
  have put : handshaker.putIncomingMessage crypto message = (.ok (some ()), finishedHandshaker) := by
    rw [ClientHandshakeHandler.hasBindings] at silent
    simp only [ClientHandshakeHandler.putIncomingMessage, unfinished, sent, processed,
      ClientHandshakeHandler.hasBindings, silent]
    rfl
  have complete : finishedHandshaker.isHandshakeComplete = true := by
    simp [ClientHandshakeHandler.isHandshakeComplete, finishedHandshaker, quiet]
  have taken : HandshakeHandler.takeHandshakeResult finishedHandshaker = _ := rfl
  simp [ClientSession.call, ClientSession.putIncomingMessage, put, complete, opens.advance taken]

theorem client_put_response_binds {keys : HandshakeKeys}
    (unfinished : handshaker.handshakeResult = none)
    (sent : message.handshakeType = some noiseMessage)
    (processed : handshaker.handshakeInitiator.processResponse crypto noiseMessage.toNoise =
      (.ok keys, finished))
    (speaks : handshaker.hasBindings = true)
    (bound : bindAssertions crypto handshaker.attestationState keys.handshakeHash.toList =
      .ok assertionBindings) :
    ClientSession.call crypto ⟨.handshake handshaker provideEncryptor, [], []⟩
        (.putIncomingMessage ⟨some (.handshake message)⟩ random) =
      (.put (.ok (some ())), ⟨.handshake { handshaker with
        handshakeInitiator := finished
        followupMessage := some {
          handshakeType := none
          attestationBindings := bindSession handshaker.sessionBinders keys.handshakeHash.toList
          assertionBindings }
        handshakeResult := some (responseResult keys message) } provideEncryptor, [], []⟩) := by
  rw [ClientHandshakeHandler.hasBindings] at speaks
  simp only [ClientSession.call, ClientSession.putIncomingMessage,
    ClientHandshakeHandler.putIncomingMessage, unfinished, sent, processed,
    ClientHandshakeHandler.hasBindings, speaks, bound]
  rfl

theorem client_fetch_followup (sent : handshaker.initialMessage = none) (ready : handshaker.followupMessage = some message)
    (done : handshaker.handshakeResult = some result)
    (opens : Opens crypto provideEncryptor handshaker.attestationState result encryptor) :
    ClientSession.call crypto ⟨.handshake handshaker provideEncryptor, [], []⟩
        (.getOutgoingMessage random) = (.got (.ok (some ⟨some (.handshake message)⟩)),
        ⟨.opened encryptor handshaker.attestationState result.handshakeState, [], []⟩) := by
  let finishedHandshaker : ClientHandshakeHandler := { handshaker with followupMessage := none }
  have got : handshaker.getOutgoingMessage = (.ok (some message), finishedHandshaker) := by
    simp only [ClientHandshakeHandler.getOutgoingMessage, sent, ready, finishedHandshaker]
  have complete : finishedHandshaker.isHandshakeComplete = true := by
    simp [ClientHandshakeHandler.isHandshakeComplete, finishedHandshaker, done]
  have taken : HandshakeHandler.takeHandshakeResult finishedHandshaker =
      .ok (result, handshaker.attestationState) := by
    simp only [HandshakeHandler.takeHandshakeResult, ClientHandshakeHandler.takeHandshakeResult,
      finishedHandshaker, done]
  simp [ClientSession.call, ClientSession.getOutgoingMessage, got, complete, opens.advance taken]

end Client

section Server

variable {handshaker : ServerHandshakeHandler} {encryptor : ε}

def responseOf (handshaker : ServerHandshakeHandler) (response : Response)
    (assertionBindings : BTreeMap String SessionBinding) : HandshakeResponse where
  handshakeType := some (.ofNoise response.response)
  attestationBindings := bindSession handshaker.sessionBinders response.handshakeHash.toList
  assertionBindings := assertionBindings

/-- The server's handshaker after the client's first handshake message. -/
def answered (handshaker : ServerHandshakeHandler) (response : Response)
    (assertionBindings : BTreeMap String SessionBinding) : ServerHandshakeHandler :=
  if handshaker.clientBindingExpected then
    { handshaker with
      noiseResponse := some response
      handshakeResponse := some (responseOf handshaker response assertionBindings) }
  else
    { handshaker with
      handshakeResponse := some (responseOf handshaker response assertionBindings)
      handshakeResult := some (ServerHandshakeHandler.resultOf response .empty .empty) }

theorem server_put_initial {response : Response}
    (unfinished : handshaker.handshakeResult = none) (fresh : handshaker.noiseResponse = none)
    (sent : message.handshakeType = some noiseMessage)
    (responded : handshaker.respond crypto noiseMessage.toNoise random = .ok response)
    (bound : bindAssertions crypto handshaker.attestationState response.handshakeHash.toList =
      .ok assertionBindings) :
    ServerSession.call crypto ⟨.handshake handshaker provideEncryptor, [], []⟩
        (.putIncomingMessage ⟨some (.handshake message)⟩ random) = (.put (.ok (some ())),
        ⟨.handshake (answered handshaker response assertionBindings) provideEncryptor,
          [], []⟩) := by
  have put : handshaker.putIncomingMessage crypto message random =
      (.ok (some ()), answered handshaker response assertionBindings) := by
    simp only [ServerHandshakeHandler.putIncomingMessage, unfinished, Option.isSome_none,
      Bool.false_eq_true, ↓reduceIte, fresh, sent, responded, bound, answered]
    split
    · rfl
    · rfl
  simp only [ServerSession.call, ServerSession.putIncomingMessage, put]

theorem server_fetch_response (ready : handshaker.handshakeResponse = some message)
    (unfinished : handshaker.handshakeResult = none) :
    ServerSession.call crypto ⟨.handshake handshaker provideEncryptor, [], []⟩
        (.getOutgoingMessage random) =
      (.got (.ok (some ⟨some (.handshake message)⟩)),
        ⟨.handshake { handshaker with handshakeResponse := none } provideEncryptor, [], []⟩) := by
  simp [ServerSession.call, ServerSession.getOutgoingMessage,
    ServerHandshakeHandler.getOutgoingMessage, ready,
    ServerHandshakeHandler.isHandshakeComplete, unfinished]

theorem server_fetch_opens (done : handshaker.handshakeResult = some result)
    (opens : Opens crypto provideEncryptor handshaker.attestationState result encryptor) :
    ServerSession.call crypto ⟨.handshake handshaker provideEncryptor, [], []⟩
        (.getOutgoingMessage random) =
      (.got (.ok (handshaker.handshakeResponse.map fun message => ⟨some (.handshake message)⟩)),
        ⟨.opened encryptor handshaker.attestationState result.handshakeState, [], []⟩) := by
  let fetchedHandshaker : ServerHandshakeHandler := { handshaker with handshakeResponse := none }
  have complete : fetchedHandshaker.isHandshakeComplete = true := by
    simp [ServerHandshakeHandler.isHandshakeComplete, fetchedHandshaker, done]
  have taken : HandshakeHandler.takeHandshakeResult fetchedHandshaker =
      .ok (result, handshaker.attestationState) := by
    simp only [HandshakeHandler.takeHandshakeResult, ServerHandshakeHandler.takeHandshakeResult,
      fetchedHandshaker, done]
  have got : handshaker.getOutgoingMessage =
      (.ok handshaker.handshakeResponse, fetchedHandshaker) := rfl
  simp [ServerSession.call, ServerSession.getOutgoingMessage, got, complete, opens.advance taken]

theorem server_put_followup {response : Response} (unfinished : handshaker.handshakeResult = none)
    (waiting : handshaker.noiseResponse = some response) :
    ServerSession.call crypto ⟨.handshake handshaker provideEncryptor, [], []⟩
        (.putIncomingMessage ⟨some (.handshake message)⟩ random) =
      (.put (.ok (some ())), ⟨.handshake { handshaker with
        noiseResponse := none
        handshakeResult := some (ServerHandshakeHandler.resultOf response
          message.attestationBindings message.assertionBindings) } provideEncryptor, [], []⟩) := by
  simp [ServerSession.call, ServerSession.putIncomingMessage,
    ServerHandshakeHandler.putIncomingMessage, unfinished, waiting]

end Server

end Oak.Session.HonestCalls
