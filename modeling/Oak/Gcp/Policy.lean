import Oak.Attestation.Messages
import Oak.Gcp.TokenMeaning

namespace Oak.Gcp

open Oak.Data Oak.Tr Oak.Attestation

/-! The policy for container workloads in Confidential Space
(`oak_attestation_gcp/src/policy.rs`). -/

def oakSessionNoiseV1Audience : Text := "d9b8d46d-6841-4825-9b5e-e77768638044".toList

def sessionBindingPublicKeyDataUrl : Text :=
  "type.googleapis.com/oak.attestation.v1.SessionBindingPublicKeyData".toList

def confidentialSpaceEndorsementId : Bytes :=
  [101, 107, 31, 55, 118, 106, 162, 143, 49, 81, 224, 1, 135, 123, 189, 122]

structure SessionBindingPublicKeyData where
  sessionBindingPublicKey : Bytes
deriving DecidableEq

structure ConfidentialSpaceEndorsement where
  jwtToken : Text
  workloadEndorsement : Option SignedEndorsement
deriving DecidableEq

/-- Code outside the repository: references to container images (`oci_spec`).  A reference made with
a digest has that digest. -/
structure OciReferences (Reference : Type) where
  fromStr : Text → Except String Reference
  cloneWithDigest : Reference → Text → Reference
  digest : Reference → Option Text
  whole : Reference → Text
  digest_cloneWithDigest : ∀ reference claimed,
    digest (cloneWithDigest reference claimed) = some claimed

structure PolicyCrates (Certificate Key Reference : Type) where
  decodeEvent : Bytes → Except String Event
  decodeKeyData : Bytes → Except String SessionBindingPublicKeyData
  decodeEndorsement : Bytes → Except String ConfidentialSpaceEndorsement
  token : TokenCrates Certificate Key
  oci : OciReferences Reference
  endorsement : EndorsementCrates Certificate

inductive ConfidentialSpaceVerificationError where
  | missingField (message : String)
  | invalidField (message : String)
  | protoDecodeError (reason : Anyhow)
  | variantDecodeError (message : String)
  | tokenParseError (reason : String)
  | tokenClaimPublicKeyMismatch (expected actual : Text)
  | tokenVerificationError (reason : AttestationVerificationError)
  | missingWorkloadEndorsementError
  | parseError (reason : String)
  | endorsementVerificationError (message : String)
  | endorsementContainerImageVerifyError (actual start : Text)
deriving DecidableEq

inductive WorkloadReferenceValues where
  | imageReferenceValue (refValue : BinaryReferenceValue)
  | containerImageReferencePrefix (start : Text)

structure ConfidentialSpacePolicy (Certificate : Type) where
  rootCertificate : Certificate
  workloadReferenceValues : Option WorkloadReferenceValues

structure ConfidentialSpaceVerificationReport where
  sessionBindingPublicKey : Bytes
  publicKeyVerification : Except ConfidentialSpaceVerificationError Unit
  workloadEndorsementVerification : Option (Except ConfidentialSpaceVerificationError Unit)
  tokenReport : AttestationTokenVerificationReport

def ConfidentialSpaceVerificationReport.intoSessionBindingPublicKey
    (report : ConfidentialSpaceVerificationReport) :
    Except ConfidentialSpaceVerificationError Bytes := do
  report.publicKeyVerification
  report.workloadEndorsementVerification.getD (.ok ())
  let _ ← report.tokenReport.intoCheckedToken.mapError .tokenVerificationError
  return report.sessionBindingPublicKey

section Policy

variable {Certificate Key Reference : Type} (crates : PolicyCrates Certificate Key Reference)

def Claims.effectiveReference (claims : Claims) : Except String Reference := do
  let reference ← crates.oci.fromStr claims.imageReference
  return crates.oci.cloneWithDigest reference claims.imageDigest

def verifyClaimsPublicKey (claims : Claims) (expectedPublicKey : Bytes) :
    Except ConfidentialSpaceVerificationError Unit :=
  let publicKeyHash := Hex.encode (crates.endorsement.sha2.sha256 expectedPublicKey).toList
  if claims.eatNonce ≠ publicKeyHash then
    .error (.tokenClaimPublicKeyMismatch publicKeyHash claims.eatNonce)
  else .ok ()

def verifyImageDigest (verificationTime : Instant) (digest : Digest)
    (signedEndorsement : SignedEndorsement) (refValue : BinaryReferenceValue) :
    Outcome ConfidentialSpaceVerificationError Unit :=
  match refValue.type with
  | some (.endorsement value) => do
    let millis ← verificationTime.intoUnixMillis
    let statement ← (verifyEndorsement crates.endorsement millis signedEndorsement value).mapErr
      fun reason => .endorsementVerificationError reason.displayAll
    (Outcome.returned (statement.validateSubjectDigest digest.toHex)).mapErr
      fun reason => .endorsementVerificationError reason.displayAll
  | some .skip => .ok ()
  | some (.digests digests) =>
    if digest.algorithm = .sha2_256 then
      if ∃ expected ∈ digests, expected .sha2_256 = digest.bytes then .ok ()
      else .err (.endorsementVerificationError "Digest mismatch")
    else .err (.invalidField "Missing SHA2-256 digest in OCI reference")
  | none => .err (.invalidField "Missing reference value type")

def verifyEndorsementWrapper (verificationTime : Instant) (imageReference : Reference)
    (signedEndorsement : SignedEndorsement) (refValue : BinaryReferenceValue) :
    Outcome ConfidentialSpaceVerificationError Unit := do
  let typedHash ← Outcome.returned ((crates.oci.digest imageReference).elim
    (.error (.missingField "Missing digest in OCI reference")) .ok)
  let digest ← Outcome.returned ((Digest.fromTypedHash typedHash).mapError fun _ =>
    .invalidField "Malformed digest in OCI reference")
  verifyImageDigest crates verificationTime digest signedEndorsement refValue

def verifyWorkload (verificationTime : Instant) (imageReference : Reference)
    (workloadEndorsement : Option SignedEndorsement) :
    WorkloadReferenceValues → Outcome ConfidentialSpaceVerificationError Unit
  | .imageReferenceValue refValue =>
    match workloadEndorsement with
    | some endorsement =>
      verifyEndorsementWrapper crates verificationTime imageReference endorsement refValue
    | none => .err .missingWorkloadEndorsementError
  | .containerImageReferencePrefix start =>
    if start <+: crates.oci.whole imageReference then .ok ()
    else .err (.endorsementContainerImageVerifyError (crates.oci.whole imageReference) start)

/-- `map` over the reference values of the policy; the result of the check is kept. -/
def reportWorkload (verificationTime : Instant) (imageReference : Reference)
    (workloadEndorsement : Option SignedEndorsement) (values : Option WorkloadReferenceValues) :
    Outcome ConfidentialSpaceVerificationError
      (Option (Except ConfidentialSpaceVerificationError Unit)) :=
  match values with
  | none => .ok none
  | some refValue => do
    let verification ← (verifyWorkload crates verificationTime imageReference workloadEndorsement
      refValue).caught
    return some verification

namespace ConfidentialSpacePolicy

variable (policy : ConfidentialSpacePolicy Certificate)

def report (verificationTime : Instant) (evidence : Bytes) (endorsement : Variant) :
    Outcome ConfidentialSpaceVerificationError ConfidentialSpaceVerificationReport := do
  let publicKeyData ← Outcome.returned ((decodeEventProto crates.decodeEvent crates.decodeKeyData
    sessionBindingPublicKeyDataUrl evidence).mapError .protoDecodeError)
  let endorsement ← Outcome.returned ((tryIntoMessage crates.decodeEndorsement
    confidentialSpaceEndorsementId endorsement).mapError .variantDecodeError)
  let token ← Outcome.returned ((crates.token.parseUnverified endorsement.jwtToken).mapError
    .tokenParseError)
  let imageReference ← Outcome.returned ((token.claims.effectiveReference crates).mapError
    .parseError)
  let workloadEndorsementVerification ← reportWorkload crates verificationTime imageReference
    endorsement.workloadEndorsement policy.workloadReferenceValues
  return {
    sessionBindingPublicKey := publicKeyData.sessionBindingPublicKey
    publicKeyVerification :=
      verifyClaimsPublicKey crates token.claims publicKeyData.sessionBindingPublicKey
    workloadEndorsementVerification
    tokenReport := reportAttestationToken crates.token token policy.rootCertificate verificationTime
      oakSessionNoiseV1Audience }

def verify (verificationTime : Instant) (evidence : Bytes) (endorsement : Variant) :
    Outcome ConfidentialSpaceVerificationError EventAttestationResults := do
  let report ← policy.report crates verificationTime evidence endorsement
  let key ← Outcome.returned report.intoSessionBindingPublicKey
  return setSessionBindingPublicKey ⟨.empty⟩ key

end ConfidentialSpacePolicy

end Policy

end Oak.Gcp
