import Oak.Data.Base64
import Oak.Data.Protobuf
import Oak.Tr.Time

namespace Oak.Gcp

open Oak.Data Oak.Tr

/-! Attestation tokens of Confidential Space (`oak_attestation_gcp/src/jwt`). -/

/-- The algorithms of the `jwt` crate. -/
inductive AlgorithmType where
  | hs256
  | hs384
  | hs512
  | rs256
  | rs384
  | rs512
  | es256
  | es384
  | es512
  | ps256
  | ps384
  | ps512
  | none
deriving Repr, DecidableEq

structure Header where
  algorithm : AlgorithmType
  /-- In base64, the certificate of the token's signer first. -/
  x509Chain : List Text
deriving DecidableEq

structure Claims where
  audience : Text
  notAfter : Instant
  notBefore : Instant
  debugStatus : Text
  eatNonce : Text
  supportAttributes : List Text
  imageReference : Text
  imageDigest : Text
  softwareName : Text
deriving DecidableEq

structure Token where
  header : Header
  claims : Claims
  headerText : Text
  claimsText : Text
  signatureText : Text
deriving DecidableEq

/-- Code outside the repository: X.509 certificates (`x509_cert`, `x509_verify`) and tokens (`jwt`).
Errors are texts. -/
structure TokenCrates (Certificate Key : Type) where
  fromDer : Bytes → Except String Certificate
  notBefore : Certificate → Duration
  notAfter : Certificate → Duration
  /-- `VerifyingKey::try_from`. -/
  verifyingKey : Certificate → Except String Key
  verifyCertificate : Key → Certificate → Except String Unit
  /-- `VerifyingKey::verify` of a message and its signature, for SHA-256 with RSA encryption. -/
  verifySha256WithRsa : Key → Bytes → Bytes → Except String Unit
  parseUnverified : Text → Except String Token
  /-- `Token::verify_with_key`, with the algorithm of the key and its verification of the first two
  parts against the decoded signature. -/
  verifyWithKey : AlgorithmType → (Text → Text → Bytes → Except String Bool) → Token →
    Except String Unit

inductive AttestationVerificationError where
  | jwtError (reason : String)
  | x509VerificationError (reason : String)
  | x509Base64DecodeError
  | x509DerDecodeError (reason : String)
  | x509ValidityNotBefore (notBefore currentTime : Instant)
  | x509ValidityNotAfter (notAfter currentTime : Instant)
  | jwtValidityNotBefore (nbf currentTime : Instant)
  | jwtValidityExpiration (exp currentTime : Instant)
  | emptyX509Chain
  | invalidAudience (want got : Text)
  | invalidDebugStatus (want got : Text)
  | invalidSoftwareName (want got : Text)
  | missingRequiredSupportAttribute (want : Text) (got : List Text)
deriving DecidableEq

/-- A `Result` of the module. -/
abbrev Verdict (α : Type) := Except AttestationVerificationError α

section Checks

variable {Certificate Key : Type} (crates : TokenCrates Certificate Key)

/-- `CertificateAlgorithm::verify_bytes`. -/
def verifyBytes (key : Key) (headerBase64 claimsBase64 : Text) (signature : Bytes) :
    Except String Bool :=
  match crates.verifySha256WithRsa key (Protobuf.utf8 (String.ofList (headerBase64 ++ '.' :: claimsBase64)))
      signature with
  | .ok () => .ok true
  | .error _ => .error "invalid signature"

/-- The interval of a certificate or a token, of which both ends belong to it. -/
def verifyInterval (notBefore notAfter currentTime : Instant)
    (early late : Instant → Instant → AttestationVerificationError) : Verdict Unit :=
  if currentTime < notBefore then .error (early notBefore currentTime)
  else if notAfter < currentTime then .error (late notAfter currentTime)
  else .ok ()

def verifyCertificateValidity (certificate : Certificate) (currentTime : Instant) : Verdict Unit :=
  verifyInterval (.fromUnixDuration (crates.notBefore certificate))
    (.fromUnixDuration (crates.notAfter certificate)) currentTime .x509ValidityNotBefore
    .x509ValidityNotAfter

def verifyCertificate (issuer certificate : Certificate) : Verdict Unit := do
  let key ← (crates.verifyingKey issuer).mapError .x509VerificationError
  (crates.verifyCertificate key certificate).mapError .x509VerificationError

def verifyTokenValidity (token : Token) (currentTime : Instant) : Verdict Unit :=
  verifyInterval token.claims.notBefore token.claims.notAfter currentTime .jwtValidityNotBefore
    .jwtValidityExpiration

def disabledSinceBoot : Text := "disabled-since-boot".toList

def confidentialSpace : Text := "CONFIDENTIAL_SPACE".toList

def stable : Text := "STABLE".toList

def enforceRequiredClaims (claims : Claims) (expectedAudience : Text) : Verdict Unit :=
  if claims.audience ≠ expectedAudience then
    .error (.invalidAudience expectedAudience claims.audience)
  else if claims.debugStatus ≠ disabledSinceBoot then
    .error (.invalidDebugStatus disabledSinceBoot claims.debugStatus)
  else if claims.softwareName ≠ confidentialSpace then
    .error (.invalidSoftwareName confidentialSpace claims.softwareName)
  else if stable ∉ claims.supportAttributes then
    .error (.missingRequiredSupportAttribute stable claims.supportAttributes)
  else .ok ()

def decodeCertificate (base64Der : Text) : Verdict Certificate :=
  match Base64.decode base64Der with
  | none => .error .x509Base64DecodeError
  | some der => (crates.fromDer der).mapError .x509DerDecodeError

def verifyTokenSignature (issuer : Certificate) (token : Token) : Verdict Token := do
  let key ← (crates.verifyingKey issuer).mapError .x509VerificationError
  let _ ← (crates.verifyWithKey .rs256 (verifyBytes crates key) token).mapError .jwtError
  return token

end Checks

inductive IssuerReport (Report : Type) where
  | otherCertificate (report : Except AttestationVerificationError Report)
  | root

inductive CertificateReport where
  | mk (validity verification : Verdict Unit) (issuerReport : IssuerReport CertificateReport)

structure AttestationTokenVerificationReport where
  hasRequiredClaims : Verdict Unit
  validity : Verdict Unit
  verification : Verdict Token
  issuerReport : Verdict CertificateReport

/-- The loop of `into_checked_token`, from the report of one certificate to that of its issuer. -/
def CertificateReport.check : CertificateReport → Verdict Unit
  | .mk (.error reason) _ _ => .error reason
  | .mk (.ok ()) (.error reason) _ => .error reason
  | .mk (.ok ()) (.ok ()) .root => .ok ()
  | .mk (.ok ()) (.ok ()) (.otherCertificate (.error reason)) => .error reason
  | .mk (.ok ()) (.ok ()) (.otherCertificate (.ok report)) => report.check

def AttestationTokenVerificationReport.intoCheckedToken
    (report : AttestationTokenVerificationReport) : Verdict Token := do
  report.hasRequiredClaims
  report.validity
  let verifiedToken ← report.verification
  let issuerReport ← report.issuerReport
  issuerReport.check
  return verifiedToken

section Reporting

variable {Certificate Key : Type} (crates : TokenCrates Certificate Key)

structure Walk (Certificate : Type) where
  issuer : Certificate
  issuerReport : Option (Verdict CertificateReport)

/-- One entry.  The issuer stays in place if the entry does not decode. -/
def Walk.step (currentTime : Instant) (base64Der : Text) (walk : Walk Certificate) :
    Walk Certificate :=
  match decodeCertificate crates base64Der with
  | .error reason => { walk with issuerReport := some (.error reason) }
  | .ok certificate =>
    { issuer := certificate
      issuerReport := some (.ok (.mk (verifyCertificateValidity crates certificate currentTime)
        (verifyCertificate crates walk.issuer certificate)
        (match walk.issuerReport with
          | some report => .otherCertificate report
          | none => .root))) }

def walkChain (root : Certificate) (currentTime : Instant) (x509Chain : List Text) :
    Walk Certificate :=
  x509Chain.foldr (Walk.step crates currentTime) ⟨root, none⟩

def reportAttestationToken (token : Token) (root : Certificate) (currentTime : Instant)
    (expectedAudience : Text) : AttestationTokenVerificationReport :=
  let walk := walkChain crates root currentTime token.header.x509Chain
  { hasRequiredClaims := enforceRequiredClaims token.claims expectedAudience
    validity := verifyTokenValidity token currentTime
    verification := verifyTokenSignature crates walk.issuer token
    issuerReport := walk.issuerReport.getD (.error .emptyX509Chain) }

end Reporting

end Oak.Gcp
