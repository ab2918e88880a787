import Oak.Session.Aggregators
import Oak.Session.PeerEvidence

namespace Oak.Session.Verdicts

open Oak.Data Oak.Crypto Aggregators

/-! What the verification results of an attest message are, and what the verdict on them depends on. -/

inductive EvidenceResult (verifier : PeerAttestationVerifier) (received : EndorsedEvidence) :
    VerifierResult → Prop
  | incomplete (absent : received.evidence = none ∨ received.endorsements = none) :
      EvidenceResult verifier received (.failure received
        (genericFailure "Both evidence and endorsements need to be provided"))
  | refused {evidence endorsements : Bytes} {reason : AnyError}
      (hasEvidence : received.evidence = some evidence)
      (hasEndorsements : received.endorsements = some endorsements)
      (error : verifier.verify evidence endorsements = .error reason) :
      EvidenceResult verifier received (.failure received (genericFailure reason))
  | failed {evidence endorsements : Bytes} {result : AttestationResults}
      (hasEvidence : received.evidence = some evidence)
      (hasEndorsements : received.endorsements = some endorsements)
      (returned : verifier.verify evidence endorsements = .ok result)
      (status : result.status ≠ .success) :
      EvidenceResult verifier received (.failure received result)
  | passed {evidence endorsements : Bytes} {result : AttestationResults}
      (hasEvidence : received.evidence = some evidence)
      (hasEndorsements : received.endorsements = some endorsements)
      (returned : verifier.verify evidence endorsements = .ok result)
      (status : result.status = .success) :
      EvidenceResult verifier received (.success received result)

theorem verifyEvidence_result (verifier : PeerAttestationVerifier) (received : EndorsedEvidence) :
    EvidenceResult verifier received (verifyEvidence verifier received) := by
  obtain ⟨evidence, endorsements⟩ := received
  cases evidence with
  | none => exact .incomplete (Or.inl rfl)
  | some evidence =>
    cases endorsements with
    | none => exact .incomplete (Or.inr rfl)
    | some endorsements =>
      simp only [verifyEvidence]
      cases returned : verifier.verify evidence endorsements with
      | error reason => exact .refused rfl rfl returned
      | ok result =>
        dsimp only
        split
        · next status => exact .passed rfl rfl returned status
        · next status => exact .failed rfl rfl returned status

inductive AssertionResult (verifier : BoundAssertionVerifier) (assertion : Assertion) :
    BoundAssertionVerifierResult → Prop
  | refused {error : BoundAssertionVerificationError} (returned : verifier assertion = .error error) :
      AssertionResult verifier assertion (.failure assertion error)
  | passed {verified : VerifiedBoundAssertion} (returned : verifier assertion = .ok verified) :
      AssertionResult verifier assertion (.success verified)

/-- A result for every id that has a verifier or something received, and for no other. -/
structure Joined {ν ρ γ : Type} (verifiers : BTreeMap String ν) (received : BTreeMap String ρ)
    (verified : ν → ρ → γ → Prop) (missing : γ) (unverified : ρ → γ) (results : BTreeMap String γ) :
    Prop where
  keys : ∀ id, id ∈ results.keys ↔ id ∈ verifiers.keys ∨ id ∈ received.keys
  both : ∀ id verifier content, verifiers.get? id = some verifier → received.get? id = some content →
    ∃ result, results.get? id = some result ∧ verified verifier content result
  onlyVerifier : ∀ id, id ∈ verifiers.keys → received.get? id = none →
    results.get? id = some missing
  onlyReceived : ∀ id content, verifiers.get? id = none → received.get? id = some content →
    results.get? id = some (unverified content)

theorem joined_mergeJoin {ν ρ γ : Type} {verifiers : BTreeMap String ν} {received : BTreeMap String ρ}
    {judge : EitherOrBoth ν ρ → γ} {verified : ν → ρ → γ → Prop} {missing : γ} {unverified : ρ → γ}
    (both : ∀ verifier content, verified verifier content (judge (.both verifier content)))
    (left : ∀ verifier, judge (.left verifier) = missing)
    (right : ∀ content, judge (.right content) = unverified content) :
    Joined verifiers received verified missing unverified
      ((verifiers.mergeJoin received).mapValues fun _ => judge) where
  keys id := by rw [BTreeMap.keys_mapValues, BTreeMap.mem_keys_mergeJoin]
  both id verifier content hasVerifier hasContent := by
    refine ⟨_, ?_, both verifier content⟩
    rw [BTreeMap.get?_mapValues, BTreeMap.get?_mergeJoin, hasVerifier, hasContent]
    rfl
  onlyVerifier id hasVerifier absent := by
    obtain ⟨verifier, hasVerifier⟩ := BTreeMap.mem_keys_iff.mp hasVerifier
    rw [BTreeMap.get?_mapValues, BTreeMap.get?_mergeJoin, hasVerifier, absent, ← left verifier]
    rfl
  onlyReceived id content absent hasContent := by
    rw [BTreeMap.get?_mapValues, BTreeMap.get?_mergeJoin, absent, hasContent, ← right content]
    rfl

theorem combineAttestationResults_joined (verifiers : BTreeMap String PeerAttestationVerifier)
    (attestedEvidence : BTreeMap String EndorsedEvidence) :
    ∃ results, combineAttestationResults verifiers attestedEvidence = .ok results ∧
      Joined verifiers attestedEvidence EvidenceResult .missing .unverified results :=
  ⟨_, rfl, joined_mergeJoin verifyEvidence_result (fun _ => rfl) fun _ => rfl⟩

theorem combineAssertionResults_joined (assertionVerifiers : BTreeMap String BoundAssertionVerifier)
    (assertions : BTreeMap String Assertion) :
    Joined assertionVerifiers assertions AssertionResult .missing .unverified
      (combineAssertionResults assertionVerifiers assertions) := by
  refine joined_mergeJoin (fun verifier assertion => ?_) (fun _ => rfl) fun _ => rfl
  cases returned : verifier assertion with
  | error error => simpa [returned] using AssertionResult.refused returned
  | ok verified => simpa [returned] using AssertionResult.passed returned

inductive Reached (config : AttestationHandlerConfig) : AttestationHandler → Prop
  | created {handler : AttestationHandler} (created : AttestationHandler.create config = .ok handler) :
      Reached config handler
  | sent {handler : AttestationHandler} (reached : Reached config handler) :
      Reached config handler.getOutgoingMessage.2
  | received {handler : AttestationHandler} (reached : Reached config handler)
      (message : AttestMessage) : Reached config (handler.putIncomingMessage message).2

/-- The verdict of an attester, if it has one, is on the results for some message. -/
structure Judged (config : AttestationHandlerConfig) (handler : AttestationHandler) : Prop where
  config_eq : handler.config = config
  onResults : ∀ verdict, handler.attestationResult = some verdict → ∃ message,
    combineAttestationResults config.peerVerifiers message =
      .ok verdict.getLegacyVerificationResults

theorem getLegacyVerificationResults_combine
    (legacyResult assertionResult : Except AggregatedVerificationError Unit)
    (legacyResults : BTreeMap String VerifierResult)
    (assertionResults : BTreeMap String BoundAssertionVerifierResult) :
    (combineLegacyAndAssertionAggregatedVerification legacyResult assertionResult legacyResults
      assertionResults).getLegacyVerificationResults = legacyResults := by
  rcases legacyResult with _ | ⟨⟩ <;> rcases assertionResult with _ | ⟨⟩ <;> rfl

variable {handler : AttestationHandler} {config : AttestationHandlerConfig}

theorem Reached.judged (reached : Reached config handler) : Judged config handler := by
  induction reached with
  | created created =>
    obtain ⟨bindable, -, created⟩ := except_bind_eq_ok.mp created
    obtain ⟨evidence, -, created⟩ := except_bind_eq_ok.mp created
    cases created
    exact ⟨rfl, nofun⟩
  | sent _ ih => exact { ih with }
  | @received handler _ message ih =>
    rw [AttestationHandler.putIncomingMessage]
    split
    · exact { ih with }
    · obtain ⟨results, combined, -⟩ :=
        combineAttestationResults_joined handler.config.peerVerifiers message.endorsedEvidence
      rw [combined]
      refine ⟨ih.config_eq, fun verdict same => ⟨message.endorsedEvidence, ?_⟩⟩
      cases same
      rw [getLegacyVerificationResults_combine, ← ih.config_eq, combined]

theorem Judged.not_isPanic (judged : Judged config handler) :
    ¬ handler.takeAttestationState.IsPanic := by
  rw [AttestationHandler.takeAttestationState]
  cases verdict_eq : handler.attestationResult with
  | none => exact id
  | some verdict =>
    obtain ⟨evidence, combined⟩ := judged.onResults verdict verdict_eq
    obtain ⟨results, same, joined⟩ :=
      combineAttestationResults_joined config.peerVerifiers evidence
    cases combined.symm.trans same
    dsimp only
    cases collected : verdict.getLegacyVerificationResults.filterMapM
        (AttestationHandler.bindingVerifierFor handler.config.peerVerifiers) with
    | ok verifiers => exact id
    | error fault =>
      obtain ⟨id, result, found, failed⟩ := BTreeMap.filterMapM_error collected
      cases fault with
      | error reason => exact not_false
      | panic message =>
        rw [judged.config_eq] at failed
        cases result with
        | failure | missing | unverified => cases failed
        | success received result =>
          rw [AttestationHandler.bindingVerifierFor] at failed
          cases hasVerifier : config.peerVerifiers.get? id with
          | some verifier =>
            rw [hasVerifier] at failed
            dsimp only at failed
            cases created : verifier.createSessionBindingVerifier result <;>
              rw [created] at failed <;> cases failed
          | none =>
            have inKeys := (joined.keys id).mp (BTreeMap.mem_keys_iff.mpr ⟨_, found⟩)
            rw [BTreeMap.get?_eq_none_iff] at hasVerifier
            obtain ⟨content, hasContent⟩ :=
              BTreeMap.mem_keys_iff.mp (inKeys.resolve_left hasVerifier)
            have unverified := joined.onlyReceived id content
              (BTreeMap.get?_eq_none_iff.mpr hasVerifier) hasContent
            cases found.symm.trans unverified

def failureReason : PeerAttestationVerdict → Option String
  | .attestationPassed _ _ => none
  | .attestationFailed reason _ _ => some reason

def evidenceConfigured : VerifierResult → Bool
  | .unverified _ => false
  | _ => true

theorem foldl_filter_of_neutral {σ α : Type} {step : σ → α → σ} {keep : α → Bool}
    (neutral : ∀ state entry, keep entry = false → step state entry = state) (start : σ)
    (entries : List α) : (entries.filter keep).foldl step start = entries.foldl step start := by
  rw [List.foldl_filter]
  congr
  funext state entry
  cases kept : keep entry with
  | true => rfl
  | false => exact (neutral state entry kept).symm

/-- The aggregator reads only the results under ids that have verifiers. -/
def ReadsConfigured {γ : Type} (keep : γ → Bool)
    (aggregator : BTreeMap String γ → Except AggregatedVerificationError Unit) : Prop :=
  ∀ results others : BTreeMap String γ,
    results.entries.filter (keep ·.2) = others.entries.filter (keep ·.2) →
    aggregator results = aggregator others

theorem default_readsConfigured : ReadsConfigured evidenceConfigured
    DefaultLegacyVerifierResultsAggregator.processAssertionResults := by
  intro results others same
  have neutral (tally : DefaultLegacyVerifierResultsAggregator.Tally)
      (entry : String × VerifierResult) (dropped : evidenceConfigured entry.2 = false) :
      DefaultLegacyVerifierResultsAggregator.count tally entry = tally := by
    obtain ⟨id, result⟩ := entry
    cases result <;> first | rfl | cases dropped
  simp only [DefaultLegacyVerifierResultsAggregator.processAssertionResults]
  rw [← foldl_filter_of_neutral neutral, same, foldl_filter_of_neutral neutral]

theorem search_filter (failures : Failures)
    (entries : List (String × BoundAssertionVerifierResult)) :
    Any.search failures (entries.filter (configured ·.2)) = Any.search failures entries := by
  induction entries generalizing failures with
  | nil => rfl
  | cons entry rest ih =>
    obtain ⟨id, result⟩ := entry
    cases result with
    | success => rfl
    | failure | missing | unverified => exact ih _

theorem any_readsConfigured : ReadsConfigured configured Any.processAssertionResults := by
  intro results others same
  rw [Any.processAssertionResults, ← search_filter, same, search_filter, Any.processAssertionResults]

theorem all_readsConfigured : ReadsConfigured configured All.processAssertionResults := by
  intro results others same
  have neutral (failures : Failures) (entry : String × BoundAssertionVerifierResult)
      (dropped : configured entry.2 = false) : All.collect failures entry = failures := by
    obtain ⟨id, result⟩ := entry
    cases result <;> first | rfl | cases dropped
  simp only [All.processAssertionResults]
  rw [← foldl_filter_of_neutral neutral, same, foldl_filter_of_neutral neutral]

theorem passThrough_readsConfigured :
    ReadsConfigured configured PassThrough.processAssertionResults := by
  intro results others same
  rw [PassThrough.processAssertionResults, same, PassThrough.processAssertionResults]

theorem empty_readsConfigured : ReadsConfigured configured Empty.processAssertionResults := by
  have none_iff (results : BTreeMap String BoundAssertionVerifierResult) :
      (results.entries.all fun entry => !configured entry.2) =
        (results.entries.filter (configured ·.2)).isEmpty := by
    rw [Bool.eq_iff_iff]
    simp
  intro results others same
  rw [Empty.processAssertionResults, Empty.processAssertionResults, none_iff, none_iff, same]

/-- Two messages that agree under every id that has a verifier. -/
structure SameVerified (config : AttestationHandlerConfig) (message other : AttestMessage) :
    Prop where
  evidence : ∀ id ∈ config.peerVerifiers.keys,
    message.endorsedEvidence.get? id = other.endorsedEvidence.get? id
  assertions : ∀ id ∈ config.peerAssertionVerifiers.keys,
    message.assertions.get? id = other.assertions.get? id

theorem failureReason_combine (legacyResult assertionResult : Except AggregatedVerificationError Unit)
    (legacyResults otherLegacy : BTreeMap String VerifierResult)
    (assertionResults otherAssertions : BTreeMap String BoundAssertionVerifierResult) :
    failureReason (combineLegacyAndAssertionAggregatedVerification legacyResult assertionResult
        legacyResults assertionResults) =
      failureReason (combineLegacyAndAssertionAggregatedVerification legacyResult assertionResult
        otherLegacy otherAssertions) := by
  rcases legacyResult with _ | ⟨⟩ <;> rcases assertionResult with _ | ⟨⟩ <;> rfl

theorem filter_combineAttestationResults {verifiers : BTreeMap String PeerAttestationVerifier}
    {evidence others : BTreeMap String EndorsedEvidence}
    {results otherResults : BTreeMap String VerifierResult}
    (same : ∀ id ∈ verifiers.keys, evidence.get? id = others.get? id)
    (combined : combineAttestationResults verifiers evidence = .ok results)
    (otherCombined : combineAttestationResults verifiers others = .ok otherResults) :
    results.entries.filter (evidenceConfigured ·.2) =
      otherResults.entries.filter (evidenceConfigured ·.2) := by
  cases combined
  cases otherCombined
  refine BTreeMap.filter_mergeJoin_congr (fun received => ?_) same
  rfl

theorem filter_combineAssertionResults {verifiers : BTreeMap String BoundAssertionVerifier}
    {assertions others : BTreeMap String Assertion}
    (same : ∀ id ∈ verifiers.keys, assertions.get? id = others.get? id) :
    (combineAssertionResults verifiers assertions).entries.filter (configured ·.2) =
      (combineAssertionResults verifiers others).entries.filter (configured ·.2) := by
  refine BTreeMap.filter_mergeJoin_congr (fun received => ?_) same
  rfl

/-- With aggregators that read only configured results, the rest of a message does not matter. -/
theorem failureReason_congr {message other : AttestMessage}
    (legacy : ReadsConfigured evidenceConfigured handler.config.legacyAttestationResultsAggregator)
    (assertion : ReadsConfigured configured handler.config.assertionAttestationAggregator)
    (same : SameVerified handler.config message other) :
    (handler.putIncomingMessage message).2.attestationResult.map failureReason =
      (handler.putIncomingMessage other).2.attestationResult.map failureReason := by
  rw [AttestationHandler.putIncomingMessage, AttestationHandler.putIncomingMessage]
  split
  · rfl
  · obtain ⟨results, combined, -⟩ :=
      combineAttestationResults_joined handler.config.peerVerifiers message.endorsedEvidence
    obtain ⟨others, otherCombined, -⟩ :=
      combineAttestationResults_joined handler.config.peerVerifiers other.endorsedEvidence
    rw [combined, otherCombined]
    dsimp only
    rw [legacy _ _ (filter_combineAttestationResults same.evidence combined otherCombined),
      assertion _ _ (filter_combineAssertionResults same.assertions), Option.map_some, Option.map_some,
      failureReason_combine]

/-- The results of both kinds are those of the configured verifiers, no verifier is looked up in
vain, and with the aggregators of the library a verdict and its reason depend only on what is
received under ids that have a verifier. -/
theorem results_and_verdict (config : AttestationHandlerConfig) : (∀ attestedEvidence, ∃ results,
      combineAttestationResults config.peerVerifiers attestedEvidence = .ok results ∧
      Joined config.peerVerifiers attestedEvidence EvidenceResult .missing .unverified results) ∧
    (∀ assertions, Joined config.peerAssertionVerifiers assertions AssertionResult .missing
      .unverified (combineAssertionResults config.peerAssertionVerifiers assertions)) ∧
    (∀ handler, Reached config handler → ¬ handler.takeAttestationState.IsPanic) ∧
    (config.legacyAttestationResultsAggregator =
        DefaultLegacyVerifierResultsAggregator.processAssertionResults →
      config.assertionAttestationAggregator ∈ [Any.processAssertionResults,
        All.processAssertionResults, PassThrough.processAssertionResults,
        Empty.processAssertionResults] →
      ∀ handler message other, Reached config handler → SameVerified config message other →
        (handler.putIncomingMessage message).2.attestationResult.map failureReason =
          (handler.putIncomingMessage other).2.attestationResult.map failureReason) := by
  refine ⟨combineAttestationResults_joined config.peerVerifiers,
    combineAssertionResults_joined config.peerAssertionVerifiers,
    fun handler reached => reached.judged.not_isPanic, ?_⟩
  intro isDefault isKnown handler message other reached same
  have assertion : ReadsConfigured configured config.assertionAttestationAggregator := by
    simp only [List.mem_cons, List.not_mem_nil, or_false] at isKnown
    rcases isKnown with known | known | known | known <;> rw [known]
    · exact any_readsConfigured
    · exact all_readsConfigured
    · exact passThrough_readsConfigured
    · exact empty_readsConfigured
  have config_eq := reached.judged.config_eq
  refine failureReason_congr ?_ ?_ ?_ <;> rw [config_eq]
  · rw [isDefault]
    exact default_readsConfigured
  · exact assertion
  · exact same

def strict : AttestationHandlerConfig where
  selfAttesters := .empty
  selfAssertionGenerators := .empty
  selfEndorsers := .empty
  peerVerifiers := .singleton "tee" ⟨fun _ _ => .error "refused", fun _ => .error "refused"⟩
  peerAssertionVerifiers := .empty
  legacyAttestationResultsAggregator :=
    DefaultLegacyVerifierResultsAggregator.processAssertionResults
  assertionAttestationAggregator := Empty.processAssertionResults

/-- Evidence under an id that has no verifier does not help. -/
theorem strict_refuses : ∃ handler, AttestationHandler.create strict = .ok handler ∧
      (handler.putIncomingMessage ⟨.empty, .empty⟩).2.attestationResult.map failureReason =
        (handler.putIncomingMessage
          ⟨.singleton "other" ⟨some [1], some [2]⟩, .empty⟩).2.attestationResult.map failureReason := by
  refine ⟨_, rfl, ?_⟩
  refine (results_and_verdict strict).2.2.2 rfl ?_ _ _ _ (.created rfl) ⟨?_, nofun⟩
  · exact List.mem_cons_of_mem _ (List.mem_cons_of_mem _ (List.mem_cons_of_mem _ List.mem_cons_self))
  · intro id member
    cases List.mem_singleton.mp member
    decide

end Oak.Session.Verdicts
