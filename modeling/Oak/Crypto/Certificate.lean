import Oak.Data.Bytes
import Oak.Tr.Time

namespace Oak.Crypto

open Oak.Data Oak.Tr

/-! Certificates of an authority for a key and a purpose
(`oak_crypto/src/certificate/certificate_verifier.rs`). -/

/-- `oak_time::Duration`, which is signed. -/
structure SignedDuration where
  nanoseconds : Int
  lower : -2 ^ 127 ≤ nanoseconds
  upper : nanoseconds < 2 ^ 127

/-- The arithmetic of `i128`, in a build without overflow checks. -/
def wrapI128 (number : Int) : Int := number.bmod (2 ^ 128)

structure Validity where
  notBefore : Option ProtoTime
  notAfter : Option ProtoTime

structure SubjectPublicKeyInfo where
  publicKey : Bytes
  purposeId : Bytes

structure CertificatePayload where
  validity : Option Validity
  subjectPublicKeyInfo : Option SubjectPublicKeyInfo
  /-- Whether the field is set; nothing reads what is in it. -/
  proofOfFreshness : Bool

structure Certificate where
  serializedPayload : Bytes
  /-- `signature_info.signature` -/
  signatureInfo : Option Bytes

inductive ProofOfFreshnessVerification where
  | ignore
  | verify
deriving DecidableEq

inductive CertificateVerificationError where
  | missingField (field : String)
  | protoDecodeError (text : String)
  | signatureVerificationError (reason : Anyhow)
  | subjectPublicKeyMismatch (expected actual : String)
  | purposeIdMismatch (expected actual : String)
  | validityPeriodInvalid (notBefore notAfter : Instant)
  | validityPeriodTooLong (period limit : Int)
  | validityPeriodNotYetStarted (skewedNotBefore currentTime : Instant)
  | validityPeriodExpired (skewedNotAfter currentTime : Instant)
  | proofOfFreshnessUnimplemented
  | unknownError (text : String)
deriving DecidableEq

structure CertificateVerificationReport where
  validity : Except CertificateVerificationError Unit
  verification : Except CertificateVerificationError Unit
  freshness : Option (Except CertificateVerificationError Unit)

def CertificateVerificationReport.intoChecked (report : CertificateVerificationReport) :
    Except CertificateVerificationError Unit :=
  match report with
  | ⟨.ok (), .ok (), none⟩ => .ok ()
  | ⟨.ok (), .ok (), some (.ok ())⟩ => .ok ()
  | ⟨validity, verification, freshness⟩ => do
    validity
    verification
    freshness.getD (.ok ())
    .error (.unknownError "CertificateVerificationReport verification failed")

/-- The verifier, with what it takes from outside the repository: the raw signatures and the decoder
of the payload. -/
structure CertificateVerifier where
  signatureVerifier : (message signature : Bytes) → Anyhow.Result Unit
  decodePayload : Bytes → Except String CertificatePayload
  allowedClockSkew : SignedDuration
  maxValidityDuration : Option SignedDuration
  proofOfFreshnessVerification : ProofOfFreshnessVerification

/-- `{:?}` of a slice of bytes. -/
def debugBytes (bytes : Bytes) : String :=
  "[" ++ ", ".intercalate (bytes.map fun byte => toString byte.toNat) ++ "]"

def requireField {α : Type} (field : String) (value : Option α) :
    Except CertificateVerificationError α :=
  match value with
  | some found => .ok found
  | none => .error (.missingField field)

namespace CertificateVerifier

variable (verifier : CertificateVerifier)

def verifySubjectPublicKeyInfo (expectedSubjectPublicKey expectedPurposeId : Bytes)
    (info : SubjectPublicKeyInfo) : Except CertificateVerificationError Unit :=
  if info.publicKey ≠ expectedSubjectPublicKey then
    .error (.subjectPublicKeyMismatch (debugBytes expectedSubjectPublicKey)
      (debugBytes info.publicKey))
  else if info.purposeId ≠ expectedPurposeId then
    .error (.purposeIdMismatch (debugBytes expectedPurposeId) (debugBytes info.purposeId))
  else .ok ()

def skewedNotBefore (notBefore : Instant) : Instant :=
  ⟨wrapI128 (notBefore.nanoseconds - verifier.allowedClockSkew.nanoseconds)⟩

def skewedNotAfter (notAfter : Instant) : Instant :=
  ⟨wrapI128 (notAfter.nanoseconds + verifier.allowedClockSkew.nanoseconds)⟩

def verifyDuration (validityDuration : Int) : Except CertificateVerificationError Unit :=
  match verifier.maxValidityDuration with
  | some limit =>
    if validityDuration > limit.nanoseconds then
      .error (.validityPeriodTooLong validityDuration limit.nanoseconds)
    else .ok ()
  | none => .ok ()

def verifyTime (currentTime skewedNotBefore skewedNotAfter : Instant) :
    Except CertificateVerificationError Unit :=
  if currentTime < skewedNotBefore then
    .error (.validityPeriodNotYetStarted skewedNotBefore currentTime)
  else if skewedNotAfter < currentTime then
    .error (.validityPeriodExpired skewedNotAfter currentTime)
  else .ok ()

def verifyPeriod (currentTime notBefore notAfter : Instant) :
    Except CertificateVerificationError Unit :=
  if notAfter < notBefore then .error (.validityPeriodInvalid notBefore notAfter)
  else do
    verifier.verifyDuration (wrapI128 (notAfter.nanoseconds - notBefore.nanoseconds))
    verifyTime currentTime (verifier.skewedNotBefore notBefore) (verifier.skewedNotAfter notAfter)

def verifyValidity (currentTime : Instant) (validity : Validity) :
    Except CertificateVerificationError Unit := do
  let notBefore ← requireField "Validity.not_before" validity.notBefore
  let notAfter ← requireField "Validity.not_after" validity.notAfter
  verifier.verifyPeriod currentTime notBefore.toInstant notAfter.toInstant

/-- The `try` block of the report. -/
def verifySignedKey (subjectPublicKey purposeId : Bytes) (certificate : Certificate)
    (info : SubjectPublicKeyInfo) : Except CertificateVerificationError Unit := do
  let signature ← requireField "Certificate.signature_info" certificate.signatureInfo
  (verifier.signatureVerifier certificate.serializedPayload signature).mapError
    .signatureVerificationError
  verifySubjectPublicKeyInfo subjectPublicKey purposeId info

def verifyProofOfFreshness : Except CertificateVerificationError Unit :=
  .error .proofOfFreshnessUnimplemented

def reportFreshness (payload : CertificatePayload) :
    Except CertificateVerificationError (Option (Except CertificateVerificationError Unit)) :=
  match verifier.proofOfFreshnessVerification with
  | .ignore => .ok none
  | .verify =>
    if payload.proofOfFreshness then .ok (some verifyProofOfFreshness)
    else .error (.missingField "Certificate.proof_of_freshness")

def report (currentTime : Instant) (subjectPublicKey purposeId : Bytes) (certificate : Certificate) :
    Except CertificateVerificationError CertificateVerificationReport := do
  let payload ← (verifier.decodePayload certificate.serializedPayload).mapError .protoDecodeError
  let info ← requireField "CertificatePayload.subject_public_key_info" payload.subjectPublicKeyInfo
  let validity ← requireField "CertificatePayload.validity" payload.validity
  let freshness ← verifier.reportFreshness payload
  return {
    validity := verifier.verifyValidity currentTime validity
    verification := verifier.verifySignedKey subjectPublicKey purposeId certificate info
    freshness }

def verify (currentTime : Instant) (subjectPublicKey purposeId : Bytes) (certificate : Certificate) :
    Except CertificateVerificationError Unit := do
  let report ← verifier.report currentTime subjectPublicKey purposeId certificate
  report.intoChecked

end CertificateVerifier

def displayInstants (calendar : Calendar) (first second : Instant) (text : String → String → String) :
    Outcome Empty String := do
  let shown ← first.display calendar
  let other ← second.display calendar
  return text shown other

/-- `{}` of an error. -/
def CertificateVerificationError.display (calendar : Calendar) :
    CertificateVerificationError → Outcome Empty String
  | .missingField field => .ok ("missing field: " ++ field)
  | .protoDecodeError text => .ok ("could not decode proto: " ++ text)
  | .signatureVerificationError reason =>
    .ok ("signature verification failed: " ++ Anyhow.display reason)
  | .subjectPublicKeyMismatch expected actual =>
    .ok ("subject public key mismatch; expected " ++ expected ++ " but got " ++ actual)
  | .purposeIdMismatch expected actual =>
    .ok ("purpose ID mismatch; expected " ++ expected ++ " but got " ++ actual)
  | .validityPeriodInvalid notBefore notAfter =>
    displayInstants calendar notBefore notAfter fun start stop =>
      "invalid certificate validity period; not_before " ++ start ++ " is after not_after " ++ stop
  | .validityPeriodTooLong period limit =>
    .ok ("certificate validity period Duration \x7b nanoseconds: " ++ toString period ++
      " \x7d exceeds the limit Duration \x7b nanoseconds: " ++ toString limit ++ " \x7d")
  | .validityPeriodNotYetStarted skewedNotBefore currentTime =>
    displayInstants calendar skewedNotBefore currentTime fun start now =>
      "certificate validity period begins at (skewed) " ++ start ++ ", after " ++ now
  | .validityPeriodExpired skewedNotAfter currentTime =>
    displayInstants calendar skewedNotAfter currentTime fun stop now =>
      "certificate validity period ends at (skewed) " ++ stop ++ ", before " ++ now
  | .proofOfFreshnessUnimplemented =>
    .ok "proof of freshness verification is not implemented"
  | .unknownError text => .ok ("unknown error: " ++ text)

def InI128 (number : Int) : Prop := -2 ^ 127 ≤ number ∧ number < 2 ^ 127

theorem wrapI128_of_inI128 {number : Int} (fits : InI128 number) : wrapI128 number = number := by
  obtain ⟨lower, upper⟩ := fits
  apply Int.bmod_eq_of_le
  · simpa using lower
  · simpa using upper

theorem inI128_sub (first second : ProtoTime) :
    InI128 (first.nanoseconds - second.nanoseconds) := by
  have seconds := And.intro first.seconds.le_toInt first.seconds.toInt_lt
  have nanos := And.intro first.nanos.le_toInt first.nanos.toInt_lt
  have otherSeconds := And.intro second.seconds.le_toInt second.seconds.toInt_lt
  have otherNanos := And.intro second.nanos.le_toInt second.nanos.toInt_lt
  rw [InI128, ProtoTime.nanoseconds, ProtoTime.nanoseconds]
  omega

namespace CertificateVerifier

variable (verifier : CertificateVerifier)

/-- The clock skew does not take the period of the certificate out of `i128`. -/
def SkewFits (certificate : Certificate) : Prop :=
  ∀ payload validity notBefore notAfter,
    verifier.decodePayload certificate.serializedPayload = .ok payload →
    payload.validity = some validity → validity.notBefore = some notBefore →
    validity.notAfter = some notAfter →
      InI128 (notBefore.nanoseconds - verifier.allowedClockSkew.nanoseconds) ∧
        InI128 (notAfter.nanoseconds + verifier.allowedClockSkew.nanoseconds)

/-- The period is one, is not longer than the maximum, and holds the time, with the skew. -/
structure PeriodHolds (time : Instant) (notBefore notAfter : ProtoTime) : Prop where
  ordered : notBefore.nanoseconds ≤ notAfter.nanoseconds
  short : ∀ limit ∈ verifier.maxValidityDuration,
    notAfter.nanoseconds - notBefore.nanoseconds ≤ limit.nanoseconds
  started : notBefore.nanoseconds - verifier.allowedClockSkew.nanoseconds ≤ time.nanoseconds
  notExpired : time.nanoseconds ≤ notAfter.nanoseconds + verifier.allowedClockSkew.nanoseconds

/-- The certificate is a signed one for the key and the purpose at the time. -/
structure CertificateHolds (time : Instant) (key purpose : Bytes) (certificate : Certificate) : Prop where
  payload : ∃ payload notBefore notAfter signature,
    verifier.decodePayload certificate.serializedPayload = .ok payload ∧
      payload.subjectPublicKeyInfo = some ⟨key, purpose⟩ ∧
      payload.validity = some ⟨some notBefore, some notAfter⟩ ∧
      certificate.signatureInfo = some signature ∧
      verifier.signatureVerifier certificate.serializedPayload signature = .ok () ∧
      verifier.PeriodHolds time notBefore notAfter
  freshness : verifier.proofOfFreshnessVerification = .ignore

variable {verifier}

theorem verifyDuration_eq_ok {duration : Int} : verifier.verifyDuration duration = .ok () ↔
      ∀ limit ∈ verifier.maxValidityDuration, duration ≤ limit.nanoseconds := by
  rw [verifyDuration]
  cases verifier.maxValidityDuration with
  | none => simp
  | some limit =>
    simp only
    split
    · next long => simp [Int.not_le.mpr long]
    · next short => simp [Int.not_lt.mp short]

variable {time : Instant}

theorem verifyTime_eq_ok {start stop : Instant} :
    verifyTime time start stop = .ok () ↔ start ≤ time ∧ time ≤ stop := by
  rw [verifyTime]
  split
  · next early => simp [← Instant.not_lt, early]
  · next started =>
      split
      · next late => simp [← Instant.not_lt, late]
      · next within => simp [Instant.not_lt.mp started, Instant.not_lt.mp within]

variable {notBefore notAfter : ProtoTime}

section

variable
    (fits : InI128 (notBefore.nanoseconds - verifier.allowedClockSkew.nanoseconds) ∧ InI128 (notAfter.nanoseconds + verifier.allowedClockSkew.nanoseconds))

include fits

/-- Where the skew fits, the bounds of the time are the ones on the certificate, moved by it. -/
theorem verifyPeriod_of_fits :
    verifier.verifyPeriod time notBefore.toInstant notAfter.toInstant =
      if notAfter.toInstant < notBefore.toInstant then
        .error (.validityPeriodInvalid notBefore.toInstant notAfter.toInstant)
      else verifier.verifyDuration (notAfter.nanoseconds - notBefore.nanoseconds) >>= fun _ =>
        verifyTime time ⟨notBefore.nanoseconds - verifier.allowedClockSkew.nanoseconds⟩
          ⟨notAfter.nanoseconds + verifier.allowedClockSkew.nanoseconds⟩ := by
  rw [verifyPeriod, skewedNotBefore, skewedNotAfter, ProtoTime.toInstant, ProtoTime.toInstant,
    wrapI128_of_inI128 fits.1, wrapI128_of_inI128 fits.2, wrapI128_of_inI128 (inI128_sub _ _)]

theorem verifyPeriod_eq_ok :
    verifier.verifyPeriod time notBefore.toInstant notAfter.toInstant = .ok () ↔
      verifier.PeriodHolds time notBefore notAfter := by
  rw [verifyPeriod_of_fits fits]
  split
  · next reversed =>
      refine ⟨nofun, fun holds => ?_⟩
      exact absurd holds.ordered (Int.not_le.mpr reversed)
  · next ordered =>
      rw [except_bind_eq_ok]
      simp only [Unique.exists_iff, PUnit.default_eq_unit, verifyDuration_eq_ok, verifyTime_eq_ok]
      constructor
      · intro passed
        exact ⟨Int.not_lt.mp ordered, passed.1, passed.2.1, passed.2.2⟩
      · intro holds
        exact ⟨holds.short, holds.started, holds.notExpired⟩

end

theorem requireField_eq_ok {α : Type} {field : String} {value : Option α} {found : α} :
    requireField field value = .ok found ↔ value = some found := by
  cases value <;> simp [requireField]

variable {key purpose : Bytes} {info : SubjectPublicKeyInfo}

theorem verifySubjectPublicKeyInfo_eq_ok :
    verifySubjectPublicKeyInfo key purpose info = .ok () ↔ info = ⟨key, purpose⟩ := by
  obtain ⟨publicKey, purposeId⟩ := info
  rw [verifySubjectPublicKeyInfo]
  split
  · next differs => simp [differs]
  · next sameKey =>
      split
      · next differs => simp [differs]
      · next samePurpose => simpa using And.intro (not_not.mp sameKey) (not_not.mp samePurpose)

variable {certificate : Certificate}

theorem verifySignedKey_eq_ok :
    verifier.verifySignedKey key purpose certificate info = .ok () ↔
      ∃ signature, certificate.signatureInfo = some signature ∧
        verifier.signatureVerifier certificate.serializedPayload signature = .ok () ∧
          info = ⟨key, purpose⟩ := by
  simp only [verifySignedKey, except_bind_eq_ok, requireField_eq_ok, except_mapError_eq_ok,
    Unique.exists_iff, verifySubjectPublicKeyInfo_eq_ok]

theorem verifyValidity_eq_ok {validity : Validity} :
    verifier.verifyValidity time validity = .ok () ↔
      ∃ notBefore notAfter, validity = ⟨some notBefore, some notAfter⟩ ∧
        verifier.verifyPeriod time notBefore.toInstant notAfter.toInstant = .ok () := by
  obtain ⟨start, stop⟩ := validity
  simp only [verifyValidity, except_bind_eq_ok, requireField_eq_ok, Validity.mk.injEq]
  constructor
  · intro passed
    obtain ⟨notBefore, rfl, notAfter, rfl, period⟩ := passed
    exact ⟨notBefore, notAfter, ⟨rfl, rfl⟩, period⟩
  · intro passed
    obtain ⟨notBefore, notAfter, ⟨rfl, rfl⟩, period⟩ := passed
    exact ⟨notBefore, rfl, notAfter, rfl, period⟩

theorem intoChecked_eq_ok {report : CertificateVerificationReport} : report.intoChecked = .ok () ↔
      report.validity = .ok () ∧ report.verification = .ok () ∧ report.freshness.getD (.ok ()) = .ok () := by
  obtain ⟨validity, verification, freshness⟩ := report
  cases validity with
  | error reason => simp [CertificateVerificationReport.intoChecked, bind, Except.bind]
  | ok =>
    cases verification with
    | error reason => simp [CertificateVerificationReport.intoChecked, bind, Except.bind]
    | ok =>
      cases freshness with
      | none => simp [CertificateVerificationReport.intoChecked]
      | some result =>
        cases result with
        | error reason => simp [CertificateVerificationReport.intoChecked, bind, Except.bind]
        | ok => simp [CertificateVerificationReport.intoChecked]

theorem reportFreshness_passes {payload : CertificatePayload} :
    (∃ freshness, verifier.reportFreshness payload = .ok freshness ∧
        freshness.getD (.ok ()) = .ok ()) ↔ verifier.proofOfFreshnessVerification = .ignore := by
  rw [reportFreshness]
  cases verifier.proofOfFreshnessVerification with
  | ignore => simp
  | verify => cases payload.proofOfFreshness <;> simp [verifyProofOfFreshness]

theorem report_eq_ok {value : CertificateVerificationReport} :
    verifier.report time key purpose certificate = .ok value ↔
      ∃ payload, verifier.decodePayload certificate.serializedPayload = .ok payload ∧
        ∃ info, payload.subjectPublicKeyInfo = some info ∧
        ∃ validity, payload.validity = some validity ∧
        ∃ freshness, verifier.reportFreshness payload = .ok freshness ∧
          ⟨verifier.verifyValidity time validity,
            verifier.verifySignedKey key purpose certificate info, freshness⟩ = value := by
  simp only [report, except_bind_eq_ok, except_mapError_eq_ok, requireField_eq_ok, pure, Except.pure,
    Except.ok.injEq]

theorem verified_iff {time : Instant} {key purpose : Bytes} {certificate : Certificate}
    (fits : verifier.SkewFits certificate) : verifier.verify time key purpose certificate = .ok () ↔
      verifier.CertificateHolds time key purpose certificate := by
  simp only [verify, except_bind_eq_ok, report_eq_ok, intoChecked_eq_ok]
  constructor
  · intro accepted
    obtain ⟨_, ⟨payload, decoded, info, hasInfo, validity, hasValidity, freshness, fresh, rfl⟩, valid,
      signedKey, passes⟩ := accepted
    obtain ⟨notBefore, notAfter, rfl, period⟩ := verifyValidity_eq_ok.mp valid
    obtain ⟨signature, signed, verified, rfl⟩ := verifySignedKey_eq_ok.mp signedKey
    rw [verifyPeriod_eq_ok (fits _ _ _ _ decoded hasValidity rfl rfl)] at period
    exact ⟨⟨payload, notBefore, notAfter, signature, decoded, hasInfo, hasValidity, signed, verified,
      period⟩, reportFreshness_passes.mp ⟨freshness, fresh, passes⟩⟩
  · intro holds
    obtain ⟨payload, notBefore, notAfter, signature, decoded, hasInfo, hasValidity, signed, verified,
      period⟩ := holds.payload
    obtain ⟨freshness, fresh, passes⟩ := (@reportFreshness_passes verifier payload).mpr holds.freshness
    rw [← verifyPeriod_eq_ok (fits _ _ _ _ decoded hasValidity rfl rfl)] at period
    exact ⟨_, ⟨payload, decoded, _, hasInfo, _, hasValidity, freshness, fresh, rfl⟩,
      verifyValidity_eq_ok.mpr ⟨notBefore, notAfter, rfl, period⟩,
      verifySignedKey_eq_ok.mpr ⟨signature, signed, verified, rfl⟩, passes⟩

/-- The second verifier allows for more skew, and for a longer period. -/
structure Widens (verifier wider : CertificateVerifier) : Prop where
  signatures : wider.signatureVerifier = verifier.signatureVerifier
  payloads : wider.decodePayload = verifier.decodePayload
  freshness : wider.proofOfFreshnessVerification = verifier.proofOfFreshnessVerification
  skew : 0 ≤ verifier.allowedClockSkew.nanoseconds ∧
    verifier.allowedClockSkew.nanoseconds ≤ wider.allowedClockSkew.nanoseconds
  limit : ∀ limit ∈ wider.maxValidityDuration, ∃ smaller ∈ verifier.maxValidityDuration,
    smaller.nanoseconds ≤ limit.nanoseconds

theorem PeriodHolds.widen {wider : CertificateVerifier} (widens : verifier.Widens wider)
    (holds : verifier.PeriodHolds time notBefore notAfter) :
    wider.PeriodHolds time notBefore notAfter := by
  have skew := widens.skew
  have started := holds.started
  have notExpired := holds.notExpired
  refine ⟨holds.ordered, ?_, by omega, by omega⟩
  intro limit set
  obtain ⟨smaller, setSmaller, smallerLe⟩ := widens.limit limit set
  exact (holds.short smaller setSmaller).trans smallerLe

theorem CertificateHolds.widen {wider : CertificateVerifier} (widens : verifier.Widens wider)
    (holds : verifier.CertificateHolds time key purpose certificate) :
    wider.CertificateHolds time key purpose certificate := by
  obtain ⟨payload, notBefore, notAfter, signature, decoded, hasInfo, hasValidity, signed, verified,
    period⟩ := holds.payload
  refine ⟨⟨payload, notBefore, notAfter, signature, ?_, hasInfo, hasValidity, signed, ?_,
    period.widen widens⟩, widens.freshness.trans holds.freshness⟩
  · rw [widens.payloads]
    exact decoded
  · rw [widens.signatures]
    exact verified

end CertificateVerifier

end Oak.Crypto
