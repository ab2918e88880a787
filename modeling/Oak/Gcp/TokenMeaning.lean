import Oak.Gcp.Token
import Mathlib.Data.List.Chain

namespace Oak.Gcp

open Oak.Data Oak.Tr

/-! What a checked token satisfies.

The walk along the chain never stops early: an entry that fails leaves an error
in the report of the entry before it.  The check of the nested reports finds
every such error, so it passes exactly if no entry failed. -/

variable {Certificate Key : Type} (crates : TokenCrates Certificate Key)

def ValidAt (certificate : Certificate) (time : Instant) : Prop :=
  Instant.fromUnixDuration (crates.notBefore certificate) ≤ time ∧
    time ≤ Instant.fromUnixDuration (crates.notAfter certificate)

def SignedBy (certificate issuer : Certificate) : Prop :=
  ∃ key, crates.verifyingKey issuer = .ok key ∧ crates.verifyCertificate key certificate = .ok ()

/-- The entries decode to these certificates, each valid at the time and signed by the next one, the
last one by the root. -/
structure ChainVerified (root : Certificate) (time : Instant) (entries : List Text)
    (certificates : List Certificate) : Prop where
  decoded : List.Forall₂ (fun entry certificate => decodeCertificate crates entry = .ok certificate)
    entries certificates
  valid : ∀ certificate ∈ certificates, ValidAt crates certificate time
  signed : List.IsChain (SignedBy crates) (certificates ++ [root])

/-- The RS256 signature of the token verifies under the key of the certificate. -/
def TokenSignedBy (token : Token) (certificate : Certificate) : Prop :=
  ∃ key, crates.verifyingKey certificate = .ok key ∧
    crates.verifyWithKey .rs256 (verifyBytes crates key) token = .ok ()

structure ClaimsRequired (claims : Claims) (audience : Text) : Prop where
  audience : claims.audience = audience
  debugStatus : claims.debugStatus = disabledSinceBoot
  softwareName : claims.softwareName = confidentialSpace
  stable : stable ∈ claims.supportAttributes

structure TokenHolds (root : Certificate) (time : Instant) (audience : Text) (token : Token) :
    Prop where
  certificates : ∃ leaf issuers,
    ChainVerified crates root time token.header.x509Chain (leaf :: issuers) ∧
      TokenSignedBy crates token leaf
  notBefore : token.claims.notBefore ≤ time
  notAfter : time ≤ token.claims.notAfter
  claims : ClaimsRequired token.claims audience

variable {time : Instant}

theorem verifyInterval_eq_ok {notBefore notAfter : Instant}
    {early late : Instant → Instant → AttestationVerificationError} :
    verifyInterval notBefore notAfter time early late = .ok () ↔
      notBefore ≤ time ∧ time ≤ notAfter := by
  rw [verifyInterval, ← Instant.not_lt, ← Instant.not_lt]
  split
  · next early => simp [early]
  split
  · next late => simp [late]
  · next notEarly notLate => simp [notEarly, notLate]

variable {certificate root : Certificate}

theorem verifyCertificateValidity_eq_ok :
    verifyCertificateValidity crates certificate time = .ok () ↔ ValidAt crates certificate time :=
  verifyInterval_eq_ok

theorem verifyCertificate_eq_ok {issuer : Certificate} :
    verifyCertificate crates issuer certificate = .ok () ↔ SignedBy crates certificate issuer := by
  simp only [verifyCertificate, except_bind_eq_ok, except_mapError_eq_ok, SignedBy]

theorem verifyTokenSignature_eq_ok {issuer : Certificate} {token verified : Token} :
    verifyTokenSignature crates issuer token = .ok verified ↔
      TokenSignedBy crates token issuer ∧ token = verified := by
  simp only [verifyTokenSignature, except_bind_eq_ok, except_mapError_eq_ok, pure, Except.pure,
    Except.ok.injEq, Unique.exists_iff]
  constructor
  · rintro ⟨key, found, verified, same⟩
    exact ⟨⟨key, found, verified⟩, same⟩
  · rintro ⟨⟨key, found, verified⟩, same⟩
    exact ⟨key, found, verified, same⟩

theorem enforceRequiredClaims_eq_ok {claims : Claims} {audience : Text} :
    enforceRequiredClaims claims audience = .ok () ↔ ClaimsRequired claims audience := by
  rw [enforceRequiredClaims]
  split
  · next other => exact ⟨nofun, fun required => absurd required.audience other⟩
  split
  · next other => exact ⟨nofun, fun required => absurd required.debugStatus other⟩
  split
  · next other => exact ⟨nofun, fun required => absurd required.softwareName other⟩
  split
  · next missing => exact ⟨nofun, fun required => absurd required.stable missing⟩
  · next audience status name stable =>
      exact ⟨fun _ => ⟨not_not.mp audience, not_not.mp status, not_not.mp name,
        not_not.mp stable⟩, fun _ => rfl⟩

def Walk.check (walk : Walk Certificate) : Verdict Unit :=
  match walk.issuerReport with
  | none => .ok ()
  | some (.error reason) => .error reason
  | some (.ok report) => report.check

variable {entry : Text}

theorem Walk.check_step_of_error {walk : Walk Certificate} {reason : AttestationVerificationError}
    (failed : decodeCertificate crates entry = .error reason) :
    (walk.step crates time entry).check = .error reason := by
  simp only [step, failed, check]

theorem Walk.check_step_of_ok (walk : Walk Certificate) (time : Instant)
    (decoded : decodeCertificate crates entry = .ok certificate) :
    (walk.step crates time entry).issuer = certificate ∧
      ((walk.step crates time entry).check = .ok () ↔ ValidAt crates certificate time ∧
        SignedBy crates certificate walk.issuer ∧ walk.check = .ok ()) := by
  rw [← verifyCertificateValidity_eq_ok, ← verifyCertificate_eq_ok]
  simp only [step, decoded, check]
  cases verifyCertificateValidity crates certificate time with
  | error reason => simp [CertificateReport.check]
  | ok valid =>
    cases verifyCertificate crates walk.issuer certificate with
    | error reason => simp [CertificateReport.check]
    | ok signed =>
      rcases walk.issuerReport with _ | (reason | report) <;> simp [CertificateReport.check]

theorem chainVerified_nil {certificates : List Certificate} :
    ChainVerified crates root time [] certificates ↔ certificates = [] := by
  constructor
  · rintro ⟨decoded, -, -⟩
    exact List.forall₂_nil_left_iff.mp decoded
  · rintro rfl
    exact ⟨.nil, by simp, by simp⟩

theorem chainVerified_cons {entries : List Text} {certificates : List Certificate} :
    ChainVerified crates root time (entry :: entries) (certificate :: certificates) ↔
      decodeCertificate crates entry = .ok certificate ∧ ValidAt crates certificate time ∧
        (∀ issuer ∈ (certificates ++ [root]).head?, SignedBy crates certificate issuer) ∧
          ChainVerified crates root time entries certificates := by
  constructor
  · rintro ⟨decoded, valid, signed⟩
    rw [List.forall₂_cons] at decoded
    rw [List.forall_mem_cons] at valid
    rw [List.cons_append, List.isChain_cons] at signed
    exact ⟨decoded.1, valid.1, signed.1, decoded.2, valid.2, signed.2⟩
  · rintro ⟨decoded, valid, signed, rest⟩
    refine ⟨.cons decoded rest.decoded, List.forall_mem_cons.mpr ⟨valid, rest.valid⟩, ?_⟩
    rw [List.cons_append, List.isChain_cons]
    exact ⟨signed, rest.signed⟩

/-- The check of the reports passes exactly if the chain is verified.  The walk then ends at the
first certificate, or at the root if there is none. -/
theorem walkChain_check (entries : List Text) (issuer : Certificate) :
    (walkChain crates root time entries).check = .ok () ∧
        (walkChain crates root time entries).issuer = issuer ↔
      ∃ certificates, ChainVerified crates root time entries certificates ∧
        (certificates ++ [root]).head? = some issuer := by
  induction entries generalizing issuer with
  | nil => simp [walkChain, Walk.check, chainVerified_nil]
  | cons entry entries ih =>
    have unfolded : walkChain crates root time (entry :: entries) =
        (walkChain crates root time entries).step crates time entry := rfl
    rw [unfolded]
    cases decoded : decodeCertificate crates entry with
    | error reason =>
      rw [Walk.check_step_of_error crates decoded]
      constructor
      · rintro ⟨⟨⟩, -⟩
      rintro ⟨certificates, verified, -⟩
      cases certificates with
      | nil => cases verified.decoded
      | cons certificate certificates =>
        cases decoded.symm.trans ((chainVerified_cons crates).mp verified).1
    | ok certificate =>
      obtain ⟨position, passes⟩ := (walkChain crates root time entries).check_step_of_ok crates
        time decoded
      rw [passes, position]
      constructor
      · rintro ⟨⟨valid, signed, rest⟩, rfl⟩
        obtain ⟨certificates, verified, first⟩ := (ih _).mp ⟨rest, rfl⟩
        refine ⟨certificate :: certificates, (chainVerified_cons crates).mpr
          ⟨decoded, valid, ?_, verified⟩, rfl⟩
        rw [first]
        rintro _ ⟨⟩
        exact signed
      · rintro ⟨certificates, verified, first⟩
        cases certificates with
        | nil => cases verified.decoded
        | cons head certificates =>
          obtain ⟨decodedHead, valid, signed, verifiedRest⟩ := (chainVerified_cons crates).mp verified
          cases decoded.symm.trans decodedHead
          cases first
          obtain ⟨next, found⟩ : ∃ next, (certificates ++ [root]).head? = some next := by
            cases certificates <;> exact ⟨_, rfl⟩
          obtain ⟨passed, reached⟩ := (ih next).mpr ⟨certificates, verifiedRest, found⟩
          refine ⟨⟨valid, ?_, passed⟩, rfl⟩
          rw [reached]
          exact signed next found

theorem walkChain_issuerReport {entries : List Text} :
    (∃ report, (walkChain crates root time entries).issuerReport.getD (.error .emptyX509Chain) =
        .ok report ∧ report.check = .ok ()) ↔
      entries ≠ [] ∧ (walkChain crates root time entries).check = .ok () := by
  cases entries with
  | nil => simp [walkChain]
  | cons entry entries =>
    have unfolded : walkChain crates root time (entry :: entries) =
        (walkChain crates root time entries).step crates time entry := rfl
    rw [unfolded, Walk.check, Walk.step]
    cases decodeCertificate crates entry <;> simp

/-- A token is checked exactly if its chain, its signature, its times and its claims hold. -/
theorem intoCheckedToken_eq_ok {audience : Text} {token verified : Token} :
    (reportAttestationToken crates token root time audience).intoCheckedToken = .ok verified ↔
      TokenHolds crates root time audience token ∧ token = verified := by
  simp only [AttestationTokenVerificationReport.intoCheckedToken, reportAttestationToken,
    except_bind_eq_ok, Unique.exists_iff, PUnit.default_eq_unit, enforceRequiredClaims_eq_ok,
    verifyTokenValidity, verifyInterval_eq_ok, verifyTokenSignature_eq_ok, pure, Except.pure,
    Except.ok.injEq]
  constructor
  · rintro ⟨claims, ⟨notBefore, notAfter⟩, _, ⟨signed, rfl⟩, report, reported, checked, rfl⟩
    obtain ⟨nonempty, passed⟩ := (walkChain_issuerReport crates).mp ⟨report, reported, checked⟩
    obtain ⟨certificates, verified, first⟩ := (walkChain_check crates _ _).mp ⟨passed, rfl⟩
    refine ⟨⟨?_, notBefore, notAfter, claims⟩, rfl⟩
    cases certificates with
    | nil => exact absurd (List.forall₂_nil_right_iff.mp verified.decoded) nonempty
    | cons leaf issuers =>
      cases first
      exact ⟨_, issuers, verified, signed⟩
  · rintro ⟨⟨⟨leaf, issuers, verified, signed⟩, notBefore, notAfter, claims⟩, rfl⟩
    have nonempty : token.header.x509Chain ≠ [] := fun empty => by
      cases empty ▸ verified.decoded
    obtain ⟨passed, last⟩ := (walkChain_check crates _ leaf).mpr ⟨_, verified, rfl⟩
    obtain ⟨report, reported, checked⟩ := (walkChain_issuerReport crates).mpr ⟨nonempty, passed⟩
    exact ⟨claims, ⟨notBefore, notAfter⟩, token, ⟨last.symm ▸ signed, rfl⟩, report, reported, checked,
      rfl⟩

end Oak.Gcp
