import Oak.Tr.Digest
import Oak.Tr.Time

namespace Oak.Tr

open Oak.Data Oak.Data.Anyhow

/-! In-toto endorsement statements (`tr/intoto/statement.rs`). -/

def statementType : Text := "https://in-toto.io/Statement/v1".toList

def predicateTypeV1 : Text := "https://project-oak.github.io/oak/tr/endorsement/v1".toList

structure Validity where
  notBefore : Instant
  notAfter : Instant
deriving DecidableEq

def Validity.check (validity : Validity) (currentTime : Instant) : Anyhow.Result Unit := do
  ensure (¬ currentTime < validity.notBefore) "the claim is not yet applicable"
  ensure (¬ validity.notAfter < currentTime) "the claim is no longer applicable"

/-- The statement as parsed.  A subject is the digest set in it, and a claim is its type. -/
structure Statement where
  type : Text
  predicateType : Text
  subject : List DigestSet
  validity : Option Validity
  claims : List Text

def getHexDigestFromStatement (statement : Statement) : Anyhow.Result HexDigest :=
  match statement.subject with
  | [digest] => setToHexDigest digest
  | subjects => bail s!"expected a single subject, found {subjects.length}"

theorem Validity.check_eq_ok {validity : Validity} {currentTime : Instant} :
    validity.check currentTime = .ok () ↔
      validity.notBefore ≤ currentTime ∧ currentTime ≤ validity.notAfter := by
  simp only [check, unit_bind_eq_ok, ensure_eq_ok, Instant.not_lt]

namespace Statement

def validateSubjectDigest (statement : Statement) (digest : HexDigest) : Anyhow.Result Unit := do
  let actual ← getHexDigestFromStatement statement
  context "comparing subject digests" (isHexDigestMatch digest actual)

def validateSubject (sha2 : Sha2) (statement : Statement) (subject : Bytes) : Anyhow.Result Unit :=
  statement.validateSubjectDigest (rawToHexDigest (rawDigestFromContents sha2 subject))

def validateHeader (statement : Statement) : Anyhow.Result Unit := do
  ensure (statement.type = statementType) "unsupported statement type"
  ensure (statement.predicateType = predicateTypeV1) "unsupported predicate type"

/-- `DefaultPredicate::validate`. -/
def validatePredicate (statement : Statement) (currentTime : Instant) (requiredClaims : List Text) :
    Anyhow.Result Unit := do
  let validity ← present "the validity field is not set" statement.validity
  validity.check currentTime
  requiredClaims.forM fun claimType =>
    ensure (claimType ∈ statement.claims) "required claim type not found"

def validate (statement : Statement) (digest : Option HexDigest) (verificationTime : Instant)
    (requiredClaims : List Text) : Anyhow.Result Unit := do
  statement.validateHeader
  ifSome digest statement.validateSubjectDigest
  statement.validatePredicate verificationTime requiredClaims

structure HasHeader (statement : Statement) : Prop where
  type : statement.type = statementType
  predicateType : statement.predicateType = predicateTypeV1

def ValidAt (statement : Statement) (time : Instant) : Prop :=
  ∃ validity, statement.validity = some validity ∧ validity.notBefore ≤ time ∧
    time ≤ validity.notAfter

def SubjectMatches (statement : Statement) (digest : HexDigest) : Prop :=
  ∃ actual, getHexDigestFromStatement statement = .ok actual ∧ DigestsAgree digest actual

variable {statement : Statement}

@[simp] theorem validateHeader_eq_ok : statement.validateHeader = .ok () ↔ statement.HasHeader := by
  rw [validateHeader, unit_bind_eq_ok, ensure_eq_ok, ensure_eq_ok]
  exact ⟨fun ⟨type, predicateType⟩ => ⟨type, predicateType⟩, fun ⟨type, predicateType⟩ =>
    ⟨type, predicateType⟩⟩

@[simp] theorem validateSubjectDigest_eq_ok {digest : HexDigest} :
    statement.validateSubjectDigest digest = .ok () ↔ statement.SubjectMatches digest := by
  simp [validateSubjectDigest, SubjectMatches]

@[simp] theorem validatePredicate_eq_ok {currentTime : Instant} {requiredClaims : List Text} :
    statement.validatePredicate currentTime requiredClaims = .ok () ↔
      statement.ValidAt currentTime ∧ ∀ claimType ∈ requiredClaims, claimType ∈ statement.claims := by
  rw [validatePredicate, bind_eq_ok]
  simp only [unit_bind_eq_ok, present_eq_ok, Validity.check_eq_ok, forM_eq_ok_iff, ensure_eq_ok]
  constructor
  · rintro ⟨validity, found, within, claims⟩
    exact ⟨⟨validity, found, within⟩, claims⟩
  · rintro ⟨⟨validity, found, within⟩, claims⟩
    exact ⟨validity, found, within, claims⟩

theorem validate_eq_ok {digest : Option HexDigest} {verificationTime : Instant}
    {requiredClaims : List Text} :
    statement.validate digest verificationTime requiredClaims = .ok () ↔
      statement.HasHeader ∧ (∀ supplied ∈ digest, statement.SubjectMatches supplied) ∧
        statement.ValidAt verificationTime ∧
          ∀ claimType ∈ requiredClaims, claimType ∈ statement.claims := by
  simp only [validate, unit_bind_eq_ok, ifSome_eq_ok, validateHeader_eq_ok,
    validateSubjectDigest_eq_ok, validatePredicate_eq_ok]

end Statement

end Oak.Tr
