import Oak.C2sp.TLogProof
import Oak.Tr.Pes
import Oak.Tr.Rekor
import Oak.Tr.Statement

namespace Oak.Tr

open Oak.Data Oak.Data.Anyhow

/-! Verification of signed endorsements (`tr/verify_endorsement`). -/

structure Endorsement where
  serialized : Bytes
  subject : Bytes
deriving DecidableEq

structure SignedEndorsement where
  endorsement : Option Endorsement
  signature : Option Signature
  rekorLogEntry : Bytes
  c2spTlogProof : Bytes
  pesConfirmation : Bytes
deriving DecidableEq

def SignedEndorsement.default : SignedEndorsement :=
  { endorsement := none, signature := none, rekorLogEntry := [], c2spTlogProof := []
    pesConfirmation := [] }

inductive Strategy where
  | skip
  | all
  | any
deriving Repr, DecidableEq

structure PesReferenceValue where
  keySet : Option VerifyingKeySet
deriving DecidableEq

structure TLogReferenceValues where
  strategy : Option Strategy
  rekor : Option VerifyingKeySet
  /-- The text of the policy. -/
  c2sp : Option Text
  pes : Option PesReferenceValue
deriving DecidableEq

/-- `VerifyingKeyReferenceValue`, the deprecated way to ask for a Rekor log entry. -/
inductive RekorRule where
  | skip
  | verify (keySet : VerifyingKeySet)
deriving DecidableEq

structure EndorsementReferenceValue where
  endorser : Option VerifyingKeySet
  requiredClaims : Option (List Text)
  /-- The field, and the `oneof` in it. -/
  rekor : Option (Option RekorRule)
  tlog : Option TLogReferenceValues
deriving DecidableEq

def createTlogReferenceValues (strategy : Strategy) (rekorKey : Option VerifyingKey)
    (c2spPolicy : Option Text) : TLogReferenceValues :=
  { strategy := some strategy, rekor := rekorKey.map fun key => ⟨[key], none⟩, c2sp := c2spPolicy
    pes := none }

def createTlogReferenceValuesAll (rekorKey : Option VerifyingKey) (c2spPolicy : Option Text) :
    TLogReferenceValues :=
  createTlogReferenceValues .all rekorKey c2spPolicy

def createEndorsementReferenceValue (endorserKey : VerifyingKey) (claimTypes : List Text)
    (tlog : TLogReferenceValues) : EndorsementReferenceValue :=
  { endorser := some ⟨[endorserKey], none⟩, requiredClaims := some claimTypes, rekor := none
    tlog := some tlog }

/-- What the verification of an endorsement takes from outside the repository. -/
structure EndorsementCrates (Certificate : Type) where
  statementJson : Bytes → Except String Statement
  rekorJson : RekorJson
  pesJson : (Text → Option Bytes) → Bytes → Except String Pes.PublicEndorsementJson
  certificateFromDer : Bytes → Except String Certificate
  spkiToDer : Certificate → Except String Bytes
  keys : KeyCrates
  schemes : C2sp.SignatureSchemes
  merkle : C2sp.MerkleLibrary
  sha2 : Sha2
  calendar : Calendar

variable {Certificate : Type}

def EndorsementCrates.rekor (crates : EndorsementCrates Certificate) : RekorCrates :=
  { json := crates.rekorJson, keys := crates.keys, sha2 := crates.sha2, calendar := crates.calendar }

def EndorsementCrates.pes (crates : EndorsementCrates Certificate) : Pes.Crates Certificate :=
  { fromSlice := crates.pesJson, certificateFromDer := crates.certificateFromDer
    spkiToDer := crates.spkiToDer, keys := crates.keys, sha2 := crates.sha2 }

variable (crates : EndorsementCrates Certificate)

def parseStatement (bytes : Bytes) : Anyhow.Result Statement :=
  mapText id (crates.statementJson bytes)

def compareEndorserPublicKey (logEntry : LogEntry) (key : VerifyingKey) : Anyhow.Result Unit :=
  match key.keyType with
  | .undefined => bail "Undefined key type"
  | .ecdsaP256Sha256 => logEntry.comparePublicKey crates.rekor key.raw
  | .rsaSha2256 => bail "RSA keys are not supported yet"

/-- The check of a Rekor entry, which the strategies and the deprecated rule share. -/
def verifyRekor (keySet : VerifyingKeySet) (signedEndorsement : SignedEndorsement)
    (endorsement : Endorsement) (trustedEndorserKey : VerifyingKey) (nowUtcMillis : Int64) :
    Outcome Anyhow Unit := do
  let logEntry ← (verifyRekorLogEntry crates.rekor signedEndorsement.rekorLogEntry keySet
    endorsement.serialized nowUtcMillis).mapErr ("verifying Rekor log entry" :: ·)
  Outcome.returned (compareEndorserPublicKey crates logEntry trustedEndorserKey)

/-- `TLogProof::try_from`. -/
def tLogProofFromBytes (bytes : Bytes) : Except C2sp.TLogProofError C2sp.TLogProof :=
  match Text.ofUtf8 bytes with
  | none => .error .format
  | some text => C2sp.TLogProof.parse text

def noteErrorText : C2sp.NoteError → String
  | .malformedSignature => "malformed signature"
  | .malformedVerifyingKey => "malformed verifying key"
  | .malformedCheckpoint _ => "malformed checkpoint"
  | .signatureVerificationFailed => "signature verification failed"
  | .opaqueDataTooLong => "opaque data exceeds 255 bytes"

def tLogProofErrorText : C2sp.TLogProofError → String
  | .invalidHeader => "invalid proof header"
  | .invalidIndex => "invalid index format"
  | .malformedCheckpoint _ => "malformed checkpoint"
  | .malformedProof => "malformed proof"
  | .signatureMismatch => "mismatch between signatures and verifying keys"
  | .rootMismatch => "root hash mismatch"
  | .invalidMerkleChain => "invalid Merkle chain"
  | .insufficientWitnesses => "witness quorum not satisfied"
  | .note reason => noteErrorText reason
  | .format => "malformed data"

def policyErrorText (reason : C2sp.PolicyError) : String :=
  "line " ++ toString reason.line ++ ": " ++ reason.reason

def verifyC2spTlogProof (proofBytes : Bytes) (endorsement : Endorsement) (policyText : Text) :
    Outcome Anyhow Unit := do
  let proof ← (Outcome.returned (tLogProofFromBytes proofBytes)).mapErr (fun reason =>
    [tLogProofErrorText reason])
  let policy ← (C2sp.Policy.parse crates.schemes policyText).mapErr fun reason =>
    [policyErrorText reason]
  (proof.verify crates.schemes crates.merkle policy endorsement.serialized).mapErr fun reason =>
    [tLogProofErrorText reason]

/-- One verification of the strategy `any`: success ends it, and an error is kept for the message in
case no other verification succeeds. -/
def attempt (label : String) (populated : Option (Outcome Anyhow Unit)) (errors : List String)
    (next : List String → Outcome Anyhow Unit) : Outcome Anyhow Unit :=
  match populated with
  | none => next errors
  | some (.ok ()) => .ok ()
  | some (.error (.panic message)) => .panic message
  | some (.error (.error reason)) => next (errors ++ [label ++ display reason])

/-- The end of the strategy `any`. -/
def allFailed (errors : List String) : Outcome Anyhow Unit :=
  let errors :=
    if errors = [] then ["strategy is 'any' but no t-log verifications are populated"] else errors
  .err ["t-log verifications failed: " ++ "; ".intercalate errors]

def verifyAll (tlog : TLogReferenceValues) (signedEndorsement : SignedEndorsement)
    (endorsement : Endorsement) (trustedEndorserKey : VerifyingKey) (nowUtcMillis : Int64) :
    Outcome Anyhow Unit := do
  Outcome.ifSome tlog.rekor fun rekor =>
    verifyRekor crates rekor signedEndorsement endorsement trustedEndorserKey nowUtcMillis
  Outcome.ifSome tlog.c2sp fun policy =>
    (verifyC2spTlogProof crates signedEndorsement.c2spTlogProof endorsement policy).mapErr
      ("verifying C2SP tlog proof" :: ·)
  Outcome.ifSome tlog.pes fun pes => do
    let keySet ← Outcome.returned (present "missing PES key set" pes.keySet)
    Outcome.returned (context "verifying PES confirmation"
      (Pes.verifyPesConfirmation crates.pes signedEndorsement.pesConfirmation keySet
        endorsement.serialized trustedEndorserKey))

/-- The last verification of the strategy `any`; a missing key set ends it at once. -/
def verifyAnyPes (pes : Option PesReferenceValue) (signedEndorsement : SignedEndorsement)
    (endorsement : Endorsement) (trustedEndorserKey : VerifyingKey) (errors : List String) :
    Outcome Anyhow Unit :=
  match pes with
  | none => allFailed errors
  | some ⟨none⟩ => .err ["missing PES key set"]
  | some ⟨some keySet⟩ =>
    attempt "verifying PES confirmation: "
      (some (Outcome.returned (Pes.verifyPesConfirmation crates.pes
        signedEndorsement.pesConfirmation keySet endorsement.serialized trustedEndorserKey)))
      errors allFailed

def verifyAny (tlog : TLogReferenceValues) (signedEndorsement : SignedEndorsement)
    (endorsement : Endorsement) (trustedEndorserKey : VerifyingKey) (nowUtcMillis : Int64) :
    Outcome Anyhow Unit :=
  attempt "Rekor verification failed: "
    (tlog.rekor.map fun rekor =>
      verifyRekor crates rekor signedEndorsement endorsement trustedEndorserKey nowUtcMillis) []
    fun errors => attempt "verifying C2SP tlog proof: "
      (tlog.c2sp.map fun policy =>
        verifyC2spTlogProof crates signedEndorsement.c2spTlogProof endorsement policy) errors
      (verifyAnyPes crates tlog.pes signedEndorsement endorsement trustedEndorserKey)

def verifyTlog (tlog : TLogReferenceValues) (signedEndorsement : SignedEndorsement)
    (trustedEndorserKey : VerifyingKey) (nowUtcMillis : Int64) : Outcome Anyhow Unit := do
  let endorsement ← Outcome.returned
    (present "no endorsement in signed endorsement" signedEndorsement.endorsement)
  let strategy ← Outcome.returned
    (present "missing t-log verification strategy" tlog.strategy)
  match strategy with
  | .skip => .ok ()
  | .all => verifyAll crates tlog signedEndorsement endorsement trustedEndorserKey nowUtcMillis
  | .any => verifyAny crates tlog signedEndorsement endorsement trustedEndorserKey nowUtcMillis

/-- The deprecated rule, for a reference value without a `tlog` entry. -/
def verifyRekorRule (rule : Option (Option RekorRule)) (signedEndorsement : SignedEndorsement)
    (endorsement : Endorsement) (trustedEndorserKey : VerifyingKey) (nowUtcMillis : Int64) :
    Outcome Anyhow Unit := do
  let rekorRefValue ← Outcome.returned
    (present "no rekor key set in signed endorsement" rule)
  match rekorRefValue with
  | some .skip => .ok ()
  | some (.verify keySet) =>
    if signedEndorsement.rekorLogEntry ≠ [] then
      verifyRekor crates keySet signedEndorsement endorsement trustedEndorserKey nowUtcMillis
    else .err ["log entry unavailable but verification was requested"]
  | none => .err ["empty Rekor verifying key set reference value"]

def verifyTransparency (refValue : EndorsementReferenceValue) (signedEndorsement : SignedEndorsement)
    (endorsement : Endorsement) (trustedEndorserKey : VerifyingKey) (nowUtcMillis : Int64) :
    Outcome Anyhow Unit :=
  match refValue.tlog with
  | some tlog => (verifyTlog crates tlog signedEndorsement trustedEndorserKey nowUtcMillis).mapErr
      ("verifying t-log" :: ·)
  | none =>
    verifyRekorRule crates refValue.rekor signedEndorsement endorsement trustedEndorserKey
      nowUtcMillis

def suppliedDigest (endorsement : Endorsement) : Option HexDigest :=
  if endorsement.subject = [] then none
  else some (rawToHexDigest (rawDigestFromContents crates.sha2 endorsement.subject))

def verifyEndorsement (nowUtcMillis : Int64) (signedEndorsement : SignedEndorsement)
    (refValue : EndorsementReferenceValue) : Outcome Anyhow Statement := do
  let endorsement ← Outcome.returned
    (present "no endorsement in signed endorsement" signedEndorsement.endorsement)
  let signature ← Outcome.returned
    (present "no signature in signed endorsement" signedEndorsement.signature)
  let endorserKeySet ← Outcome.returned
    (present "no endorser key set in signed endorsement" refValue.endorser)
  let requiredClaims ← Outcome.returned
    (present "required claims missing" refValue.requiredClaims)
  let trustedEndorserKey ← Outcome.returned (present
    ("could not find endorser key id " ++ toString signature.keyId ++ " in key set")
    (endorserKeySet.keys.find? fun key => key.keyId = signature.keyId))
  Outcome.returned (context "verifying signature"
    (verifySignature crates.keys crates.sha2 signature endorsement.serialized endorserKeySet))
  let statement ← Outcome.returned (context "parsing endorsement statement"
    (parseStatement crates endorsement.serialized))
  Outcome.returned (context "validating endorsement statement"
    (statement.validate (suppliedDigest crates endorsement) (.fromUnixMillis nowUtcMillis)
      requiredClaims))
  verifyTransparency crates refValue signedEndorsement endorsement trustedEndorserKey nowUtcMillis
  return statement

end Oak.Tr
