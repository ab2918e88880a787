import Oak.Gcp.PolicyExact

namespace Oak.Gcp

open Oak.Data Oak.Tr Oak.Attestation Oak.Data.Outcome

/-! The two ways to hold a Confidential Space workload to its reference values: the policy made from
them (`policy_generator.rs`), and the verifier of assertions (`assertions.rs`). -/

structure CosignReferenceValues where
  developerPublicKey : Option VerifyingKey
  rekorPublicKey : Option VerifyingKey

inductive ContainerImage where
  | cosignReferenceValues (values : CosignReferenceValues)
  | containerImageReferencePrefix (start : Text)
  | imageReferenceValue (refValue : BinaryReferenceValue)

structure ConfidentialSpaceReferenceValues where
  rootCertificatePem : Text
  containerImage : Option ContainerImage

structure Assertion where
  content : Bytes

structure ConfidentialSpaceAssertion where
  jwtToken : Bytes
  containerImageEndorsement : Option ConfidentialSpaceEndorsement

structure AssertionCrates (Certificate Key Reference : Type) extends
    PolicyCrates Certificate Key Reference where
  fromPem : Text → Except String Certificate
  decodeAssertion : Bytes → Except String ConfidentialSpaceAssertion

/-- The cause of an error that `anyhow` carries. -/
inductive AssertionErrorSource where
  | message (text : String)
  | invalidUtf8
  | confidentialSpace (reason : ConfidentialSpaceVerificationError)
  | attestation (reason : AttestationVerificationError)

inductive AssertionVerifierError where
  | assertedDataMismatch (expected actual : Text)
  | other (contexts : List String) (source : AssertionErrorSource)

structure GcpAssertionVerifier where
  audience : Text
  referenceValues : ConfidentialSpaceReferenceValues

/-- The reference value that both make of a developer's key and an optional Rekor key. -/
def cosignReferenceValue (endorserKey : VerifyingKey) (rekorKey : Option VerifyingKey) :
    BinaryReferenceValue :=
  ⟨some (.endorsement (createEndorsementReferenceValue endorserKey []
    (createTlogReferenceValuesAll rekorKey none)))⟩

section Verifiers

variable {Certificate Key Reference : Type} (crates : AssertionCrates Certificate Key Reference)

def confidentialSpacePolicyFromReferenceValues (values : ConfidentialSpaceReferenceValues) :
    Anyhow.Result (ConfidentialSpacePolicy Certificate) := do
  let rootCertificate ← Anyhow.mapText id (crates.fromPem values.rootCertificatePem)
  match values.containerImage with
  | some (.cosignReferenceValues cosign) =>
    let endorserKey ← Anyhow.present "endorser public key missing" cosign.developerPublicKey
    return ⟨rootCertificate,
      some (.imageReferenceValue (cosignReferenceValue endorserKey cosign.rekorPublicKey))⟩
  | some (.containerImageReferencePrefix start) =>
    return ⟨rootCertificate, some (.containerImageReferencePrefix start)⟩
  | some (.imageReferenceValue refValue) =>
    return ⟨rootCertificate, some (.imageReferenceValue refValue)⟩
  | none => return ⟨rootCertificate, none⟩

def generateNonceFromAssertedData (data : Bytes) : Text :=
  Hex.encode (crates.endorsement.sha2.sha256 data).toList

def verifyAttestationToken (token : Token) (root : Certificate) (currentTime : Instant)
    (expectedAudience : Text) : Verdict Token :=
  (reportAttestationToken crates.token token root currentTime expectedAudience).intoCheckedToken

/-- Without any endorsement an empty one is checked; one without a workload endorsement is an
error. -/
def signedEndorsementOf : Option ConfidentialSpaceEndorsement →
    Except AssertionVerifierError SignedEndorsement
  | some ⟨_, some signed⟩ => .ok signed
  | some ⟨_, none⟩ => .error (.other [] (.message "missing workload endorsement"))
  | none => .ok .default

def verifyEndorsedContainerImage (verificationTime : Instant) (imageReference : Reference)
    (refValue : BinaryReferenceValue) (endorsement : Option ConfidentialSpaceEndorsement) :
    Outcome AssertionVerifierError Unit := do
  let signedEndorsement ← returned (signedEndorsementOf endorsement)
  (verifyEndorsementWrapper crates.toPolicyCrates verificationTime imageReference signedEndorsement
    refValue).mapErr fun reason => .other ["verifying workload endorsement"] (.confidentialSpace reason)

def verifyContainerImage (verificationTime : Instant) (imageReference : Reference)
    (endorsement : Option ConfidentialSpaceEndorsement) :
    Option ContainerImage → Outcome AssertionVerifierError Unit
  | none => .ok ()
  | some (.cosignReferenceValues cosign) =>
    match cosign.developerPublicKey with
    | none => .err (.other [] (.message "endorser public key missing"))
    | some endorserKey =>
      verifyEndorsedContainerImage crates verificationTime imageReference
        (cosignReferenceValue endorserKey cosign.rekorPublicKey) endorsement
  | some (.containerImageReferencePrefix start) =>
    if start <+: crates.oci.whole imageReference then .ok ()
    else .err (.other [] (.confidentialSpace
      (.endorsementContainerImageVerifyError (crates.oci.whole imageReference) start)))
  | some (.imageReferenceValue refValue) =>
    verifyEndorsedContainerImage crates verificationTime imageReference refValue endorsement

def GcpAssertionVerifier.verify (verifier : GcpAssertionVerifier) (assertion : Assertion)
    (assertedData : Bytes) (verificationTime : Instant) : Outcome AssertionVerifierError Unit := do
  let csAssertion ← returned ((crates.decodeAssertion assertion.content).mapError fun text =>
    .other ["parsing ConfidentialSpaceAssertion"] (.message text))
  let jwt ← returned ((Text.ofUtf8 csAssertion.jwtToken).elim
    (.error (.other ["decoding JWT token as UTF-8 string"] .invalidUtf8)) .ok)
  let token ← returned ((crates.token.parseUnverified jwt).mapError fun text =>
    .other ["parsing the JWT token"] (.message text))
  let rootCertificate ← returned
    ((crates.fromPem verifier.referenceValues.rootCertificatePem).mapError fun text =>
      .other [] (.message ("failed to parse the root certificate: " ++ text)))
  let imageReference ← returned
    ((token.claims.effectiveReference crates.toPolicyCrates).mapError fun text =>
      .other ["parsing the effective OCI container reference"] (.message text))
  verifyContainerImage crates verificationTime imageReference csAssertion.containerImageEndorsement
    verifier.referenceValues.containerImage
  let expectedNonce := generateNonceFromAssertedData crates assertedData
  let verified ← returned ((verifyAttestationToken crates token rootCertificate
    verificationTime verifier.audience).mapError fun reason =>
      .other ["verifying the JWT token"] (.attestation reason))
  if verified.claims.eatNonce ≠ expectedNonce then
    .err (.assertedDataMismatch expectedNonce verified.claims.eatNonce)
  else return ()

/-- What a policy asks of the workload, or nothing if no policy can be made. -/
def ContainerImage.generated : Option ContainerImage → Option (Option WorkloadReferenceValues)
  | none => some none
  | some (.cosignReferenceValues cosign) => cosign.developerPublicKey.map fun endorserKey =>
    some (.imageReferenceValue (cosignReferenceValue endorserKey cosign.rekorPublicKey))
  | some (.containerImageReferencePrefix start) => some (some (.containerImageReferencePrefix start))
  | some (.imageReferenceValue refValue) => some (some (.imageReferenceValue refValue))

def effectiveEndorsement : Option ConfidentialSpaceEndorsement → Option SignedEndorsement
  | some carried => carried.workloadEndorsement
  | none => some .default

variable {crates}

variable {values : ConfidentialSpaceReferenceValues}

theorem policyFromReferenceValues_eq_ok {policy : ConfidentialSpacePolicy Certificate} :
    confidentialSpacePolicyFromReferenceValues crates values = .ok policy ↔
      crates.fromPem values.rootCertificatePem = .ok policy.rootCertificate ∧
        ContainerImage.generated values.containerImage = some policy.workloadReferenceValues := by
  obtain ⟨root, workload⟩ := policy
  rw [confidentialSpacePolicyFromReferenceValues, except_bind_eq_ok]
  cases crates.fromPem values.rootCertificatePem with
  | error text => simp
  | ok parsed =>
    cases values.containerImage with
    | none => simp [ContainerImage.generated]
    | some image =>
      cases image with
      | containerImageReferencePrefix | imageReferenceValue =>
        simp [ContainerImage.generated]
      | cosignReferenceValues cosign =>
        cases found : cosign.developerPublicKey with
        | none => simp [Anyhow.present, Anyhow.bail, ContainerImage.generated, found]
        | some key => simp [Anyhow.present, ContainerImage.generated, found]

variable {endorsement : Option ConfidentialSpaceEndorsement}

theorem signedEndorsementOf_eq_ok {signed : SignedEndorsement} :
    signedEndorsementOf endorsement = .ok signed ↔ effectiveEndorsement endorsement = some signed := by
  cases endorsement with
  | none => simp [signedEndorsementOf, effectiveEndorsement]
  | some carried =>
    obtain ⟨jwtToken, workload⟩ := carried
    cases workload with
    | none | some => simp [signedEndorsementOf, effectiveEndorsement]

variable {time : Instant} {reference : Reference} {claimed : Text} {refValue : BinaryReferenceValue}

theorem verifyEndorsedContainerImage_eq_ok :
    verifyEndorsedContainerImage crates time (crates.oci.cloneWithDigest reference claimed) refValue
        endorsement = .ok () ↔
      WorkloadHolds crates.toPolicyCrates (some (.imageReferenceValue refValue))
        (effectiveEndorsement endorsement) reference claimed time := by
  simp [verifyEndorsedContainerImage, WorkloadHolds, bind_eq_ok, returned_eq_ok, mapErr_eq_ok,
    verifyEndorsementWrapper_eq_ok, signedEndorsementOf_eq_ok]

variable {image : Option ContainerImage}

theorem verifyContainerImage_eq_ok :
    verifyContainerImage crates time (crates.oci.cloneWithDigest reference claimed) endorsement image =
        .ok () ↔ ∃ workload, ContainerImage.generated image = some workload ∧
        WorkloadHolds crates.toPolicyCrates workload (effectiveEndorsement endorsement) reference
          claimed time := by
  cases image with
  | none => simp [verifyContainerImage, ContainerImage.generated, WorkloadHolds]
  | some image =>
    cases image with
    | imageReferenceValue refValue =>
      simp [verifyContainerImage, ContainerImage.generated, verifyEndorsedContainerImage_eq_ok]
    | containerImageReferencePrefix start =>
      simp only [verifyContainerImage, ContainerImage.generated, WorkloadHolds]
      split
      · next starts => simp [starts]
      · next differs => simp [differs, err]
    | cosignReferenceValues cosign =>
      cases found : cosign.developerPublicKey with
      | none => simp [verifyContainerImage, ContainerImage.generated, found, err]
      | some key =>
        simp [verifyContainerImage, ContainerImage.generated, found,
          verifyEndorsedContainerImage_eq_ok]

variable (crates) in
/-- The token holds at the time and names the key, and its workload is what the reference values ask
for. -/
def Accepted (values : ConfidentialSpaceReferenceValues) (time : Instant) (audience jwt : Text)
    (workload : Option SignedEndorsement) (key : Bytes) : Prop :=
  ∃ token root reference asked, crates.token.parseUnverified jwt = .ok token ∧
    crates.fromPem values.rootCertificatePem = .ok root ∧
    crates.oci.fromStr token.claims.imageReference = .ok reference ∧
    ContainerImage.generated values.containerImage = some asked ∧
    WorkloadHolds crates.toPolicyCrates asked workload reference token.claims.imageDigest time ∧
    TokenHolds crates.token root time audience token ∧
    NonceOf crates.toPolicyCrates token.claims key

theorem GcpAssertionVerifier.accepted_iff {verifier : GcpAssertionVerifier}
    {assertion : Assertion} {assertedData jwtBytes : Bytes} {time : Instant} {jwt : Text}
    {carried : Option ConfidentialSpaceEndorsement}
    (asserts : crates.decodeAssertion assertion.content = .ok ⟨jwtBytes, carried⟩)
    (isText : Text.ofUtf8 jwtBytes = some jwt) :
    verifier.verify crates assertion assertedData time = .ok () ↔
      Accepted crates verifier.referenceValues time verifier.audience jwt
        (effectiveEndorsement carried) assertedData := by
  simp only [GcpAssertionVerifier.verify, verifyAttestationToken, bind_eq_ok, returned_eq_ok,
    except_mapError_eq_ok, effectiveReference_eq_ok, Unique.exists_iff, intoCheckedToken_eq_ok,
    asserts, Except.ok.injEq, exists_eq_left', isText, Option.elim_some]
  constructor
  · intro accepted
    obtain ⟨token, parsed, root, rootParsed, _, ⟨reference, found, rfl⟩, image, _, ⟨holds, rfl⟩,
      nonce⟩ := accepted
    obtain ⟨workload, generated, workloadHolds⟩ := verifyContainerImage_eq_ok.mp image
    refine ⟨token, root, reference, workload, parsed, rootParsed, found, generated, workloadHolds,
      holds, ?_⟩
    by_contra other
    have differs : token.claims.eatNonce ≠ generateNonceFromAssertedData crates assertedData := other
    rw [if_pos differs] at nonce
    cases nonce
  · intro held
    obtain ⟨token, root, reference, workload, parsed, rootParsed, found, generated, workloadHolds,
      holds, nonce⟩ := held
    refine ⟨token, parsed, root, rootParsed, _, ⟨reference, found, rfl⟩,
      verifyContainerImage_eq_ok.mpr ⟨workload, generated, workloadHolds⟩, token, ⟨holds, rfl⟩, ?_⟩
    have same : token.claims.eatNonce = generateNonceFromAssertedData crates assertedData := nonce
    rw [if_neg (not_not_intro same)]
    rfl

variable (crates) in
def PolicyAccepts (values : ConfidentialSpaceReferenceValues) (time : Instant) (evidence : Bytes)
    (endorsement : Variant) : Prop :=
  ∃ policy results, confidentialSpacePolicyFromReferenceValues crates values = .ok policy ∧
    policy.verify crates.toPolicyCrates time evidence endorsement = .ok results

theorem policyAccepts_iff {evidence key : Bytes} {endorsement : Variant} {jwt : Text}
    {workload : Option SignedEndorsement}
    (carriesKey : decodeEventProto crates.decodeEvent crates.decodeKeyData
      sessionBindingPublicKeyDataUrl evidence = .ok ⟨key⟩)
    (carries : tryIntoMessage crates.decodeEndorsement confidentialSpaceEndorsementId endorsement =
      .ok ⟨jwt, workload⟩) : PolicyAccepts crates values time evidence endorsement ↔
      Accepted crates values time oakSessionNoiseV1Audience jwt workload key := by
  constructor
  · intro accepts
    obtain ⟨policy, results, made, accepted⟩ := accepts
    obtain ⟨rootParsed, generated⟩ := policyFromReferenceValues_eq_ok.mp made
    obtain ⟨_, ⟨supplied, token, reference, presented, holds, nonce, found, workloadHolds⟩, -⟩ :=
      (ConfidentialSpacePolicy.grants_iff _).mp accepted
    have sameKey := Except.ok.inj (presented.key.symm.trans carriesKey)
    have sameEndorsement := Except.ok.inj (presented.endorsement.symm.trans carries)
    cases sameKey
    subst sameEndorsement
    exact ⟨token, _, reference, _, presented.token, rootParsed, found, generated, workloadHolds, holds,
      nonce⟩
  · intro held
    obtain ⟨token, root, reference, asked, parsed, rootParsed, found, generated, workloadHolds, holds,
      nonce⟩ := held
    refine ⟨⟨root, asked⟩, _, policyFromReferenceValues_eq_ok.mpr ⟨rootParsed, generated⟩,
      (ConfidentialSpacePolicy.grants_iff _).mpr ⟨key, ⟨_, token, reference,
        ⟨carriesKey, carries, parsed⟩, holds, nonce, found, workloadHolds⟩, rfl⟩⟩

/-- The reference values that are decided without looking at an endorsement. -/
def DecidedByDigest (image : Option ContainerImage) : Prop :=
  ∃ refValue, image = some (.imageReferenceValue refValue) ∧
    (refValue.type = some .skip ∨ ∃ digests, refValue.type = some (.digests digests))

theorem decidedByDigest_of_generated (generated : ContainerImage.generated image = some (some (.imageReferenceValue refValue)))
    (kind : refValue.type = some .skip ∨ ∃ digests, refValue.type = some (.digests digests)) :
    DecidedByDigest image := by
  cases image with
  | none => cases generated
  | some image =>
    cases image with
    | containerImageReferencePrefix start => cases generated
    | imageReferenceValue value =>
      cases generated
      exact ⟨refValue, rfl, kind⟩
    | cosignReferenceValues cosign =>
      -- what is made of the keys asks for an endorsement
      obtain ⟨endorserKey, -, made⟩ := Option.map_eq_some_iff.mp generated
      cases made
      simp [cosignReferenceValue] at kind

theorem not_verifyEndorsement_default {millis : Int64} {value : EndorsementReferenceValue}
    {statement : Statement} :
    verifyEndorsement crates.endorsement millis .default value ≠ .ok statement := by
  intro verified
  cases verified

variable {workload : Option WorkloadReferenceValues}

theorem workloadHolds_default (generated : ContainerImage.generated image = some workload)
    (needed : ¬ DecidedByDigest image) :
    WorkloadHolds crates.toPolicyCrates workload (some .default) reference claimed time ↔
      WorkloadHolds crates.toPolicyCrates workload none reference claimed time := by
  cases workload with
  | none => exact Iff.rfl
  | some value =>
    cases value with
    | containerImageReferencePrefix start => exact Iff.rfl
    | imageReferenceValue refValue =>
      apply iff_of_false
      · intro holds
        obtain ⟨signed, digest, same, -, admitted⟩ := holds
        cases same
        rw [ImageAdmitted] at admitted
        cases type : refValue.type with
        | none => simp [type] at admitted
        | some kind =>
          cases kind with
          | skip => exact needed (decidedByDigest_of_generated generated (.inl type))
          | digests digests =>
            exact needed (decidedByDigest_of_generated generated (.inr ⟨digests, type⟩))
          | endorsement value =>
            rw [type] at admitted
            obtain ⟨millis, statement, -, verified, -⟩ := admitted
            exact not_verifyEndorsement_default verified
      · intro holds
        obtain ⟨signed, digest, absent, -⟩ := holds
        cases absent

theorem workloadHolds_of_decidedByDigest (signed other : SignedEndorsement)
    (generated : ContainerImage.generated image = some workload) (decided : DecidedByDigest image) :
    WorkloadHolds crates.toPolicyCrates workload (some signed) reference claimed time ↔
      WorkloadHolds crates.toPolicyCrates workload (some other) reference claimed time := by
  obtain ⟨refValue, rfl, kind⟩ := decided
  cases generated
  simp only [WorkloadHolds, Option.some.injEq, exists_and_left, exists_eq_left', ImageAdmitted]
  cases kind with
  | inl skip => rw [skip]
  | inr listed =>
    obtain ⟨digests, type⟩ := listed
    rw [type]

theorem not_workloadHolds_none (generated : ContainerImage.generated image = some workload) (decided : DecidedByDigest image) :
    ¬ WorkloadHolds crates.toPolicyCrates workload none reference claimed time := by
  obtain ⟨refValue, rfl, -⟩ := decided
  cases generated
  intro holds
  obtain ⟨signed, digest, absent, -⟩ := holds
  cases absent

/-- Two endorsements that are worth the same to the reference values give the same verdict. -/
theorem Accepted.congr {audience jwt : Text} {first second : Option SignedEndorsement} {key : Bytes}
    (same : ∀ asked reference claimed, ContainerImage.generated values.containerImage = some asked →
      (WorkloadHolds crates.toPolicyCrates asked first reference claimed time ↔
        WorkloadHolds crates.toPolicyCrates asked second reference claimed time)) :
    Accepted crates values time audience jwt first key ↔
      Accepted crates values time audience jwt second key := by
  constructor
  · intro accepted
    obtain ⟨token, root, reference, asked, parsed, rootParsed, found, generated, holds, rest⟩ := accepted
    exact ⟨token, root, reference, asked, parsed, rootParsed, found, generated,
      (same _ _ _ generated).mp holds, rest⟩
  · intro accepted
    obtain ⟨token, root, reference, asked, parsed, rootParsed, found, generated, holds, rest⟩ := accepted
    exact ⟨token, root, reference, asked, parsed, rootParsed, found, generated,
      (same _ _ _ generated).mpr holds, rest⟩

end Verifiers

namespace SkippedImage

def token : Token :=
  { UnparsedReference.token with
    claims :=
      { UnparsedReference.token.claims with
        imageReference := ['i'], imageDigest := "sha256:".toList ++ Hex.encode (Block.zero 32).toList } }

/-- The assertion carries the endorsement, and the endorsement of the policy the same one. -/
def crates (carried : Option ConfidentialSpaceEndorsement) :
    AssertionCrates Unit Unit (Option Text) :=
  { UnparsedReference.acceptingCrates with
    decodeEndorsement := fun _ => .ok ⟨[], carried.bind (·.workloadEndorsement)⟩
    token := { UnparsedReference.acceptingCrates.token with parseUnverified := fun _ => .ok token }
    fromPem := fun _ => .ok ()
    decodeAssertion := fun _ => .ok ⟨[], carried⟩ }

def values : ConfidentialSpaceReferenceValues :=
  { rootCertificatePem := [], containerImage := some (.imageReferenceValue ⟨some .skip⟩) }

def policy : ConfidentialSpacePolicy Unit := ⟨(), some (.imageReferenceValue ⟨some .skip⟩)⟩

end SkippedImage

end Oak.Gcp
