import Oak.Data.MergeJoin
import Oak.Session.Config

namespace Oak.Session

open Oak.Data Oak.Crypto

/-! The attestation step of `attestation.rs`.

`ClientAttestationHandler` and `ServerAttestationHandler` are the same code
over the same fields, so both are `AttestationHandler` here. -/

inductive PeerAttestationVerdict where
  | attestationPassed (legacyVerificationResults : BTreeMap String VerifierResult)
      (assertionVerificationResults : BTreeMap String BoundAssertionVerifierResult)
  | attestationFailed (reason : String)
      (legacyVerificationResults : BTreeMap String VerifierResult)
      (assertionVerificationResults : BTreeMap String BoundAssertionVerifierResult)

namespace PeerAttestationVerdict

def getLegacyVerificationResults : PeerAttestationVerdict → BTreeMap String VerifierResult
  | attestationPassed legacy _ => legacy
  | attestationFailed _ legacy _ => legacy

def getAssertionVerificationResults :
    PeerAttestationVerdict → BTreeMap String BoundAssertionVerifierResult
  | attestationPassed _ assertion => assertion
  | attestationFailed _ _ assertion => assertion

def needsSessionBindings (verdict : PeerAttestationVerdict) : Bool :=
  (verdict.getAssertionVerificationResults.entries.any fun entry =>
    match entry.2 with
    | .success _ | .failure _ _ | .unverified _ => true
    | .missing => false) ||
  (verdict.getLegacyVerificationResults.entries.any fun entry =>
    match entry.2 with
    | .success _ _ | .failure _ _ | .unverified _ => true
    | .missing => false)

end PeerAttestationVerdict

structure AttestationState where
  peerAttestationVerdict : PeerAttestationVerdict
  selfAssertions : BTreeMap String BindableAssertion
  peerSessionBindingVerifiers : BTreeMap String SessionBindingVerifier
  attestationBindingToken : Bytes

def genericFailure (reason : String) : AttestationResults where
  status := .genericFailure
  reason := reason
  details := []

def verifyEvidence (peerVerifier : PeerAttestationVerifier) (received : EndorsedEvidence) :
    VerifierResult :=
  match received.evidence, received.endorsements with
  | some evidence, some endorsements =>
    match peerVerifier.verify evidence endorsements with
    | .ok result =>
      if result.status = .success then .success received result else .failure received result
    | .error reason => .failure received (genericFailure reason)
  | _, _ => .failure received (genericFailure "Both evidence and endorsements need to be provided")

/-- No entry of the join is an error, so neither is the whole. -/
def combineAttestationResults (verifiers : BTreeMap String PeerAttestationVerifier)
    (attestedEvidence : BTreeMap String EndorsedEvidence) :
    Except AnyError (BTreeMap String VerifierResult) :=
  .ok <| (verifiers.mergeJoin attestedEvidence).mapValues fun _ joined =>
    match joined with
    | .both peerVerifier received => verifyEvidence peerVerifier received
    | .left _ => .missing
    | .right evidence => .unverified evidence

def combineAssertionResults (assertionVerifiers : BTreeMap String BoundAssertionVerifier)
    (assertions : BTreeMap String Assertion) : BTreeMap String BoundAssertionVerifierResult :=
  (assertionVerifiers.mergeJoin assertions).mapValues fun _ joined =>
    match joined with
    | .both verifyAssertion assertion =>
      match verifyAssertion assertion with
      | .ok verifiedBoundAssertion => .success verifiedBoundAssertion
      | .error error => .failure assertion error
    | .left _ => .missing
    | .right assertion => .unverified assertion

def combineLegacyAndAssertionAggregatedVerification
    (legacyResult assertionResult : Except AggregatedVerificationError Unit)
    (legacyVerificationResults : BTreeMap String VerifierResult)
    (assertionVerificationResults : BTreeMap String BoundAssertionVerifierResult) :
    PeerAttestationVerdict :=
  match legacyResult, assertionResult with
  | .ok (), .ok () =>
    .attestationPassed legacyVerificationResults assertionVerificationResults
  | .ok (), .error err =>
    .attestationFailed ("Assertion verification failed: " ++ err.display)
      legacyVerificationResults assertionVerificationResults
  | .error err, .ok () =>
    .attestationFailed ("Legacy verification failed: " ++ err.display)
      legacyVerificationResults assertionVerificationResults
  | .error legacyErr, .error assertionErr =>
    .attestationFailed ("Legacy verification failed: " ++ legacyErr.display ++
        ". Assertion verification failed: " ++ assertionErr.display)
      legacyVerificationResults assertionVerificationResults

def serializeAssertion (entry : String × Assertion) : Bytes :=
  Protobuf.encodeString entry.1 ++ [58] ++ entry.2.content ++ [124]

def serializeAssertions (attestations : BTreeMap String Assertion) : Bytes :=
  attestations.entries.flatMap serializeAssertion

/-- The client's or the server's side.  `attestMessage` is the request of the
one and the response of the other. -/
structure AttestationHandler where
  config : AttestationHandlerConfig
  attestMessage : Option AttestMessage
  attestationResult : Option PeerAttestationVerdict
  bindableAssertions : BTreeMap String BindableAssertion
  attestationBindingToken : Bytes

abbrev ClientAttestationHandler := AttestationHandler

abbrev ServerAttestationHandler := AttestationHandler

namespace AttestationHandler

def quoteEvidence (config : AttestationHandlerConfig) (id : String)
    (attester : Except AnyError Bytes) : Except AnyError EndorsedEvidence := do
  let evidence ← attester
  let endorsements ← match config.selfEndorsers.get? id with
    | none => .ok none
    | some endorse => (endorse (some evidence)).map some
  return { evidence := some evidence, endorsements }

def assertionsOf (bindableAssertions : BTreeMap String BindableAssertion) :
    BTreeMap String Assertion :=
  bindableAssertions.mapValues fun _ bindable => bindable.assertion

def create (config : AttestationHandlerConfig) : Except AnyError AttestationHandler := do
  let bindableAssertions ← config.selfAssertionGenerators.mapM fun _ generated => generated
  let endorsedEvidence ← config.selfAttesters.mapM (quoteEvidence config)
  return {
    config
    attestMessage := some { endorsedEvidence, assertions := assertionsOf bindableAssertions }
    attestationResult := none
    bindableAssertions
    attestationBindingToken := [] }

/-- Only successfully verified evidence yields a binding verifier. -/
def bindingVerifierFor (peerVerifiers : BTreeMap String PeerAttestationVerifier) (id : String)
    (result : VerifierResult) : Outcome AnyError (Option SessionBindingVerifier) :=
  match result with
  | .success _ result =>
    match peerVerifiers.get? id with
    | none => .panic ("no peer verifier for already succesfully verified evidence: " ++
        "it cannot happen")
    | some peerVerifier =>
      Outcome.returned ((peerVerifier.createSessionBindingVerifier result).map some)
  | _ => .ok none

def takeAttestationState (handler : AttestationHandler) : Outcome AnyError AttestationState :=
  match handler.attestationResult with
  | none => .err "attestation is not complete"
  | some verdict =>
    match verdict.getLegacyVerificationResults.filterMapM
        (bindingVerifierFor handler.config.peerVerifiers) with
    | .error fault => .error fault
    | .ok peerSessionBindingVerifiers =>
      .ok {
        peerAttestationVerdict := verdict
        selfAssertions := handler.bindableAssertions
        peerSessionBindingVerifiers
        attestationBindingToken := handler.attestationBindingToken }

/-- Every call extends the token, also when there is no message left. -/
def getOutgoingMessage (handler : AttestationHandler) :
    Outcome AnyError (Option AttestMessage) × AttestationHandler :=
  (.ok handler.attestMessage, { handler with
    attestMessage := none
    attestationBindingToken := handler.attestationBindingToken ++
      serializeAssertions (assertionsOf handler.bindableAssertions) })

/-- The token is extended before a surplus message is refused. -/
def putIncomingMessage (handler : AttestationHandler) (incomingMessage : AttestMessage) :
    Outcome AnyError (Option Unit) × AttestationHandler :=
  let extended := { handler with
    attestationBindingToken := handler.attestationBindingToken ++
      serializeAssertions incomingMessage.assertions }
  if handler.attestationResult.isSome then (.ok none, extended)
  else
    match combineAttestationResults handler.config.peerVerifiers
        incomingMessage.endorsedEvidence with
    | .error reason => (.err reason, extended)
    | .ok legacyResults =>
      let assertionResults := combineAssertionResults handler.config.peerAssertionVerifiers
        incomingMessage.assertions
      (.ok (some ()), { extended with
        attestationResult := some <| combineLegacyAndAssertionAggregatedVerification
          (handler.config.legacyAttestationResultsAggregator legacyResults)
          (handler.config.assertionAttestationAggregator assertionResults)
          legacyResults assertionResults })

end AttestationHandler

end Oak.Session
