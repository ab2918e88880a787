import Oak.C2sp.ProofSoundness
import Oak.Gcp.Policy

namespace Oak.Gcp

open Oak.Data Oak.Tr Oak.Attestation

/-! What the policy accepts. -/

variable {Certificate Key Reference : Type} (crates : PolicyCrates Certificate Key Reference)

/-- The evidence holds the key, and the endorsement a token. -/
structure Presented (evidence : Bytes) (endorsement : Variant) (key : Bytes)
    (supplied : ConfidentialSpaceEndorsement) (token : Token) : Prop where
  key : decodeEventProto crates.decodeEvent crates.decodeKeyData sessionBindingPublicKeyDataUrl
    evidence = .ok ⟨key⟩
  endorsement : tryIntoMessage crates.decodeEndorsement confidentialSpaceEndorsementId endorsement =
    .ok supplied
  token : crates.token.parseUnverified supplied.jwtToken = .ok token

/-- The image with the digest is one that the reference value admits. -/
def ImageAdmitted (refValue : BinaryReferenceValue) (signed : SignedEndorsement) (digest : Digest)
    (time : Instant) : Prop :=
  match refValue.type with
  | some (.endorsement value) => ∃ millis statement,
      (time.intoUnixMillis : Outcome Anyhow Int64) = .ok millis ∧
        verifyEndorsement crates.endorsement millis signed value = .ok statement ∧
          statement.SubjectMatches digest.toHex
  | some .skip => True
  | some (.digests digests) => digest.algorithm = .sha2_256 ∧
      ∃ expected ∈ digests, expected .sha2_256 = digest.bytes
  | none => False

/-- What the policy asks of the workload: nothing, a start of the reference to its image, or an
endorsement for the digest of the image. -/
def WorkloadHolds (values : Option WorkloadReferenceValues) (endorsement : Option SignedEndorsement)
    (reference : Reference) (claimed : Text) (time : Instant) : Prop :=
  match values with
  | none => True
  | some (.containerImageReferencePrefix start) =>
    start <+: crates.oci.whole (crates.oci.cloneWithDigest reference claimed)
  | some (.imageReferenceValue refValue) => ∃ signed digest, endorsement = some signed ∧
      Digest.fromTypedHash claimed = .ok digest ∧ ImageAdmitted crates refValue signed digest time

def NonceOf (claims : Claims) (key : Bytes) : Prop :=
  claims.eatNonce = Hex.encode (crates.endorsement.sha2.sha256 key).toList

variable {time : Instant}

theorem intoUnixMillis_eq_ok {ε δ : Type} {millis : Int64} :
    (time.intoUnixMillis : Outcome ε Int64) = .ok millis ↔
      (time.intoUnixMillis : Outcome δ Int64) = .ok millis := by
  simp only [Instant.intoUnixMillis, Instant.toI64]
  split <;> simp [Outcome.panic]

theorem verifyImageDigest_eq_ok {refValue : BinaryReferenceValue} {signed : SignedEndorsement}
    {digest : Digest} : verifyImageDigest crates time digest signed refValue = .ok () ↔
      ImageAdmitted crates refValue signed digest time := by
  rw [verifyImageDigest, ImageAdmitted]
  match refValue.type with
  | none => simp [Outcome.err]
  | some .skip => simp
  | some (.digests digests) =>
    simp only
    split
    · next sha256 =>
        split
        · next listed => simp [sha256, listed]
        · next missing => simp [missing, Outcome.err]
    · next other => simp [other, Outcome.err]
  | some (.endorsement value) =>
    simp only [Outcome.bind_eq_ok, Outcome.mapErr_eq_ok, Outcome.returned_eq_ok,
      Statement.validateSubjectDigest_eq_ok]
    constructor
    · rintro ⟨millis, converted, statement, verified, subject⟩
      exact ⟨millis, statement, intoUnixMillis_eq_ok.mp converted, verified, subject⟩
    · rintro ⟨millis, statement, converted, verified, subject⟩
      exact ⟨millis, intoUnixMillis_eq_ok.mp converted, statement, verified, subject⟩

theorem verifyEndorsementWrapper_eq_ok {reference : Reference} {claimed : Text}
    {refValue : BinaryReferenceValue} {signed : SignedEndorsement} :
    verifyEndorsementWrapper crates time (crates.oci.cloneWithDigest reference claimed) signed
        refValue = .ok () ↔ ∃ digest, Digest.fromTypedHash claimed = .ok digest ∧
        ImageAdmitted crates refValue signed digest time := by
  simp [verifyEndorsementWrapper, crates.oci.digest_cloneWithDigest, Outcome.bind_eq_ok,
    Outcome.returned_eq_ok, except_mapError_eq_ok, verifyImageDigest_eq_ok]

/-- The report of the workload holds no error exactly if the workload is what the policy asks for. -/
theorem reportWorkload_eq_ok {values : Option WorkloadReferenceValues}
    {endorsement : Option SignedEndorsement} {reference : Reference} {claimed : Text} :
    (∃ verification, reportWorkload crates time (crates.oci.cloneWithDigest reference claimed)
        endorsement values = .ok verification ∧ verification.getD (.ok ()) = .ok ()) ↔
      WorkloadHolds crates values endorsement reference claimed time := by
  cases values with
  | none => simp [reportWorkload, WorkloadHolds]
  | some value =>
    have kept : (∃ verification, reportWorkload crates time
          (crates.oci.cloneWithDigest reference claimed) endorsement (some value) =
            .ok verification ∧ verification.getD (.ok ()) = .ok ()) ↔
        verifyWorkload crates time (crates.oci.cloneWithDigest reference claimed) endorsement
          value = .ok () := by
      simp only [reportWorkload, Outcome.bind_eq_ok, pure, Except.pure, Except.ok.injEq]
      constructor
      · rintro ⟨_, ⟨verification, caught, rfl⟩, passed⟩
        cases passed
        exact Outcome.caught_eq_ok_ok.mp caught
      · exact fun passed => ⟨_, ⟨_, Outcome.caught_eq_ok_ok.mpr passed, rfl⟩, rfl⟩
    rw [kept]
    cases value with
    | containerImageReferencePrefix start =>
      simp only [verifyWorkload, WorkloadHolds]
      split
      · next starts => simp [starts]
      · next differs => simp [differs, Outcome.err]
    | imageReferenceValue refValue =>
      cases endorsement with
      | none => simp [verifyWorkload, WorkloadHolds, Outcome.err]
      | some signed =>
        simp [verifyWorkload, WorkloadHolds, verifyEndorsementWrapper_eq_ok]

theorem verifyClaimsPublicKey_eq_ok {claims : Claims} {key : Bytes} :
    verifyClaimsPublicKey crates claims key = .ok () ↔ NonceOf crates claims key := by
  rw [verifyClaimsPublicKey, NonceOf]
  split
  · next other => simp [other]
  · next same => simpa using same

theorem effectiveReference_eq_ok {claims : Claims} {effective : Reference} :
    claims.effectiveReference crates = .ok effective ↔
      ∃ reference, crates.oci.fromStr claims.imageReference = .ok reference ∧
        crates.oci.cloneWithDigest reference claims.imageDigest = effective := by
  simp [Claims.effectiveReference, except_bind_eq_ok, pure, Except.pure]

theorem intoSessionBindingPublicKey_eq_ok {report : ConfidentialSpaceVerificationReport}
    {key : Bytes} : report.intoSessionBindingPublicKey = .ok key ↔
      report.publicKeyVerification = .ok () ∧
        report.workloadEndorsementVerification.getD (.ok ()) = .ok () ∧
          (∃ token, report.tokenReport.intoCheckedToken = .ok token) ∧
            report.sessionBindingPublicKey = key := by
  simp [ConfidentialSpaceVerificationReport.intoSessionBindingPublicKey, except_bind_eq_ok,
    except_mapError_eq_ok, Unique.exists_iff, pure, Except.pure]

/-- The token holds at the time, names the key in the evidence, and is for a workload that the policy
asks for; the reference to its image parses. -/
def ConfidentialSpacePolicy.Grants (policy : ConfidentialSpacePolicy Certificate) (time : Instant)
    (evidence : Bytes) (endorsement : Variant) (key : Bytes) : Prop :=
  ∃ supplied token reference,
    Presented crates evidence endorsement key supplied token ∧
    TokenHolds crates.token policy.rootCertificate time oakSessionNoiseV1Audience token ∧
    NonceOf crates token.claims key ∧
    crates.oci.fromStr token.claims.imageReference = .ok reference ∧
    WorkloadHolds crates policy.workloadReferenceValues supplied.workloadEndorsement reference
      token.claims.imageDigest time

theorem ConfidentialSpacePolicy.grants_iff {policy : ConfidentialSpacePolicy Certificate}
    {time : Instant} {evidence : Bytes} {endorsement : Variant} {results : EventAttestationResults} :
    policy.verify crates time evidence endorsement = .ok results ↔
      ∃ key, policy.Grants crates time evidence endorsement key ∧
        results = ⟨.singleton sessionBindingPublicKeyId key⟩ := by
  simp only [ConfidentialSpacePolicy.verify, ConfidentialSpacePolicy.report, Outcome.bind_eq_ok,
    Outcome.returned_eq_ok, except_mapError_eq_ok, pure, Except.pure, Except.ok.injEq,
    effectiveReference_eq_ok]
  constructor
  · rintro ⟨report, ⟨⟨key⟩, keyDecoded, supplied, decoded, token, parsed, _, ⟨reference, found, rfl⟩,
      workload, reported, rfl⟩, returned, accepted, rfl⟩
    obtain ⟨nonce, noError, ⟨checked, passed⟩, rfl⟩ := intoSessionBindingPublicKey_eq_ok.mp accepted
    exact ⟨key, ⟨supplied, token, reference, ⟨keyDecoded, decoded, parsed⟩,
      ((intoCheckedToken_eq_ok _).mp passed).1, (verifyClaimsPublicKey_eq_ok crates).mp nonce, found,
      (reportWorkload_eq_ok crates).mp ⟨workload, reported, noError⟩⟩, rfl⟩
  · rintro ⟨key, ⟨supplied, token, reference, presented, holds, nonce, found, workload⟩, rfl⟩
    obtain ⟨verification, reported, noError⟩ := (reportWorkload_eq_ok crates).mpr workload
    refine ⟨_, ⟨⟨key⟩, presented.key, supplied, presented.endorsement, token, presented.token, _,
      ⟨reference, found, rfl⟩, verification, reported, rfl⟩, key, ?_, rfl⟩
    exact intoSessionBindingPublicKey_eq_ok.mpr ⟨(verifyClaimsPublicKey_eq_ok crates).mpr nonce,
      noError, ⟨token, (intoCheckedToken_eq_ok _).mpr ⟨holds, rfl⟩⟩, rfl⟩

/-- The policy accepts exactly a token that holds at the time, names the key in the evidence, and is
for a workload that the policy asks for, provided that the reference to its image parses.  The result
is the key. -/
theorem ConfidentialSpacePolicy.verify_eq_ok_iff (policy : ConfidentialSpacePolicy Certificate)
    (time : Instant) (evidence : Bytes) (endorsement : Variant)
    (results : EventAttestationResults) :
    policy.verify crates time evidence endorsement = .ok results ↔ ∃ key supplied token reference,
        Presented crates evidence endorsement key supplied token ∧
        TokenHolds crates.token policy.rootCertificate time oakSessionNoiseV1Audience token ∧
        NonceOf crates token.claims key ∧
        crates.oci.fromStr token.claims.imageReference = .ok reference ∧
        WorkloadHolds crates policy.workloadReferenceValues supplied.workloadEndorsement reference
          token.claims.imageDigest time ∧ results = ⟨.singleton sessionBindingPublicKeyId key⟩ := by
  rw [grants_iff]
  simp only [Grants, ← exists_and_right, and_assoc]

namespace UnparsedReference

def sha2 : Sha2 :=
  { sha256 := fun _ => Block.zero 32, sha384 := fun _ => Block.zero 48
    sha512 := fun _ => Block.zero 64 }

def token : Token :=
  { header := { algorithm := .rs256, x509Chain := [[]] }
    claims :=
      { audience := oakSessionNoiseV1Audience, notAfter := ⟨0⟩, notBefore := ⟨0⟩
        debugStatus := disabledSinceBoot, eatNonce := Hex.encode (Block.zero 32).toList
        supportAttributes := [stable], imageReference := [], imageDigest := []
        softwareName := confidentialSpace }
    headerText := [], claimsText := [], signatureText := [] }

def endorsementCrates : EndorsementCrates Unit :=
  { statementJson := fun _ => .error ""
    rekorJson := { logEntries := fun _ => .error "", body := fun _ => .error "" }
    pesJson := fun _ _ => .error ""
    certificateFromDer := fun _ => .ok ()
    spkiToDer := fun _ => .error ""
    keys :=
      { documentFromPem := fun _ => .error "", documentFromDer := fun _ => .error ""
        p256FromPublicKeyDer := fun _ => .error "", ecdsaSignatureFromDer := fun _ => .error ""
        p256Verify := fun _ _ _ => .error "", rsaFromPublicKeyDer := fun _ => .error ""
        rsaVerify := fun _ _ _ => .error "" }
    schemes := C2sp.TLogProof.acceptAll
    merkle := C2sp.TLogProof.zeroMerkle
    sha2 := sha2
    calendar := { render := fun _ _ => none } }

/-- One certificate, which every key has signed.  A reference is its digest, and only the empty text
is not one. -/
def acceptingCrates : PolicyCrates Unit Unit (Option Text) :=
  { decodeEvent := fun _ => .ok ⟨some ⟨sessionBindingPublicKeyDataUrl, []⟩⟩
    decodeKeyData := fun _ => .ok ⟨[]⟩
    decodeEndorsement := fun _ => .ok ⟨[], none⟩
    token :=
      { fromDer := fun _ => .ok (), notBefore := fun _ => 0, notAfter := fun _ => 0
        verifyingKey := fun _ => .ok (), verifyCertificate := fun _ _ => .ok ()
        verifySha256WithRsa := fun _ _ _ => .ok (), parseUnverified := fun _ => .ok token
        verifyWithKey := fun _ _ _ => .ok () }
    oci :=
      { fromStr := fun text => if text = [] then .error "invalid reference format" else .ok none
        cloneWithDigest := fun _ claimed => some claimed
        digest := id
        whole := fun _ => []
        digest_cloneWithDigest := fun _ _ => rfl }
    endorsement := endorsementCrates }

def policy : ConfidentialSpacePolicy Unit := ⟨(), none⟩

def endorsement : Variant := ⟨confidentialSpaceEndorsementId, []⟩

end UnparsedReference

/-- A policy that asks nothing of the workload still refuses a token without an image. -/
theorem unparsed_reference_refused :
    (Presented UnparsedReference.acceptingCrates [] UnparsedReference.endorsement [] ⟨[], none⟩
        UnparsedReference.token ∧
      TokenHolds UnparsedReference.acceptingCrates.token UnparsedReference.policy.rootCertificate ⟨0⟩
        oakSessionNoiseV1Audience UnparsedReference.token ∧
      NonceOf UnparsedReference.acceptingCrates UnparsedReference.token.claims [] ∧
      UnparsedReference.policy.workloadReferenceValues = none) ∧
    UnparsedReference.policy.verify UnparsedReference.acceptingCrates ⟨0⟩ [] UnparsedReference.endorsement =
      .err (.parseError "invalid reference format") := by
  refine ⟨⟨⟨rfl, rfl, rfl⟩, ⟨⟨(), [], ⟨.cons rfl .nil, ?_, ?_⟩, (), rfl, rfl⟩, ?_, ?_,
    ⟨rfl, rfl, rfl, .head _⟩⟩, rfl, rfl⟩, rfl⟩
  · rintro ⟨⟩ -
    exact ⟨by decide, by decide⟩
  · exact .cons_cons ⟨(), rfl, rfl⟩ (.singleton ())
  · decide
  · decide

end Oak.Gcp
