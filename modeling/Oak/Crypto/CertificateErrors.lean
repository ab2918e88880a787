import Oak.Crypto.Certificate

namespace Oak.Crypto

open Oak.Data Oak.Tr

/-! The errors of the verification of a certificate, and whether they have a text. -/

theorem displayInstants_isPanic {calendar : Calendar} {first second : Instant}
    {text : String → String → String} : (displayInstants calendar first second text).IsPanic ↔
      ¬ (first.InCalendar calendar ∧ second.InCalendar calendar) := by
  rw [displayInstants]
  rcases Instant.display_cases calendar first with ⟨shown, printed, inside⟩ | ⟨message, failed, outside⟩
  · rw [printed]
    rcases Instant.display_cases calendar second with ⟨other, printed, within⟩ | ⟨message, failed, beyond⟩
    · rw [printed]
      simp [inside, within, pure, Except.pure]
    · rw [failed]
      simp [beyond, Outcome.panic, Outcome.IsPanic]
  · rw [failed]
    simp [outside, Outcome.panic, Outcome.IsPanic, bind, Except.bind]

namespace CertificateVerifier

variable {verifier : CertificateVerifier}

def Shown {α : Type} (calendar : Calendar) (result : Except CertificateVerificationError α) : Prop :=
  ∀ reason, result = .error reason → ¬ (reason.display calendar).IsPanic

variable {calendar : Calendar}

theorem shown_ok {α : Type} (value : α) : Shown calendar (.ok value) := by
  intro reason failed
  cases failed

theorem shown_error {α : Type} {reason : CertificateVerificationError} :
    Shown calendar (.error reason : Except CertificateVerificationError α) ↔
      ¬ (reason.display calendar).IsPanic := by
  simp [Shown]

theorem shown_bind {α β : Type} {result : Except CertificateVerificationError α}
    {next : α → Except CertificateVerificationError β} : Shown calendar (result >>= next) ↔
      Shown calendar result ∧ ∀ value, result = .ok value → Shown calendar (next value) := by
  cases result with
  | error | ok => simp [Shown, bind, Except.bind]

theorem shown_requireField {α : Type} (field : String) (value : Option α) :
    Shown calendar (requireField field value) := by
  cases value with
  | none => exact shown_error.mpr id
  | some found => exact shown_ok found

theorem shown_verifySignedKey (key purpose : Bytes) (certificate : Certificate)
    (info : SubjectPublicKeyInfo) :
    Shown calendar (verifier.verifySignedKey key purpose certificate info) := by
  refine shown_bind.mpr ⟨shown_requireField _ _, fun signature _ => ?_⟩
  refine shown_bind.mpr ⟨?_, fun _ _ => ?_⟩
  · cases verifier.signatureVerifier certificate.serializedPayload signature with
    | error reason => exact shown_error.mpr id
    | ok => exact shown_ok ()
  · rw [verifySubjectPublicKeyInfo]
    split
    · exact shown_error.mpr id
    split
    · exact shown_error.mpr id
    · exact shown_ok ()

theorem shown_reportFreshness (payload : CertificatePayload) :
    Shown calendar (verifier.reportFreshness payload) := by
  rw [reportFreshness]
  cases verifier.proofOfFreshnessVerification with
  | ignore => exact shown_ok none
  | verify =>
    cases payload.proofOfFreshness with
    | false => exact shown_error.mpr id
    | true => exact shown_ok _

theorem shown_intoChecked {report : CertificateVerificationReport}
    (verification : Shown calendar report.verification)
    (freshness : Shown calendar (report.freshness.getD (.ok ()))) :
    Shown calendar report.intoChecked ↔ Shown calendar report.validity := by
  obtain ⟨validity, signedKey, fresh⟩ := report
  cases validity with
  | error reason => exact Iff.rfl
  | ok =>
    refine iff_of_true ?_ (shown_ok ())
    cases signedKey with
    | error reason => exact shown_error.mpr (shown_error.mp verification)
    | ok =>
      cases fresh with
      | none => exact shown_ok ()
      | some result =>
        cases result with
        | ok => exact shown_ok ()
        | error reason => exact shown_error.mpr (shown_error.mp freshness)

variable (verifier calendar) in
/-- The instants that the message about the period names, if there is to be one, are in the
calendar. -/
def PeriodShown (time : Instant) (notBefore notAfter : ProtoTime) : Prop :=
  (notAfter.nanoseconds < notBefore.nanoseconds →
    notBefore.toInstant.InCalendar calendar ∧ notAfter.toInstant.InCalendar calendar) ∧
  (notBefore.nanoseconds ≤ notAfter.nanoseconds →
    (∀ limit ∈ verifier.maxValidityDuration,
      notAfter.nanoseconds - notBefore.nanoseconds ≤ limit.nanoseconds) →
    (time.nanoseconds < notBefore.nanoseconds - verifier.allowedClockSkew.nanoseconds →
      Instant.InCalendar calendar
          ⟨notBefore.nanoseconds - verifier.allowedClockSkew.nanoseconds⟩ ∧
        time.InCalendar calendar) ∧
    (notBefore.nanoseconds - verifier.allowedClockSkew.nanoseconds ≤ time.nanoseconds →
      notAfter.nanoseconds + verifier.allowedClockSkew.nanoseconds < time.nanoseconds →
      Instant.InCalendar calendar
          ⟨notAfter.nanoseconds + verifier.allowedClockSkew.nanoseconds⟩ ∧
        time.InCalendar calendar))

theorem shown_verifyDuration (duration : Int) :
    Shown calendar (verifier.verifyDuration duration) := by
  rw [verifyDuration]
  cases verifier.maxValidityDuration with
  | none => exact shown_ok ()
  | some limit =>
    simp only
    split
    · exact shown_error.mpr id
    · exact shown_ok ()

variable {time : Instant}

theorem shown_verifyTime {start stop : Instant} : Shown calendar (verifyTime time start stop) ↔
      (time < start → start.InCalendar calendar ∧ time.InCalendar calendar) ∧
        (start ≤ time → stop < time → stop.InCalendar calendar ∧ time.InCalendar calendar) := by
  rw [verifyTime]
  split
  · next early =>
      rw [shown_error, CertificateVerificationError.display, displayInstants_isPanic]
      have notStarted : ¬ start ≤ time := Int.not_le.mpr early
      simp [early, notStarted]
  · next started =>
      have begun := Instant.not_lt.mp started
      split
      · next late =>
          rw [shown_error, CertificateVerificationError.display, displayInstants_isPanic]
          simp [begun, late]
      · next within =>
          apply iff_of_true (shown_ok ())
          exact ⟨fun early => absurd early started, fun _ late => absurd late within⟩

theorem shown_verifyPeriod {notBefore notAfter : ProtoTime}
    (fits : InI128 (notBefore.nanoseconds - verifier.allowedClockSkew.nanoseconds) ∧
      InI128 (notAfter.nanoseconds + verifier.allowedClockSkew.nanoseconds)) :
    Shown calendar (verifier.verifyPeriod time notBefore.toInstant notAfter.toInstant) ↔
      verifier.PeriodShown calendar time notBefore notAfter := by
  rw [verifyPeriod_of_fits fits]
  split
  · next reversed =>
      have disordered : ¬ notBefore.nanoseconds ≤ notAfter.nanoseconds := Int.not_le.mpr reversed
      rw [shown_error, CertificateVerificationError.display, displayInstants_isPanic, not_not]
      constructor
      · intro inside
        exact ⟨fun _ => inside, fun ordered => absurd ordered disordered⟩
      · intro shown
        exact shown.1 reversed
  · next inOrder =>
      rw [shown_bind]
      constructor
      · intro shown
        refine ⟨fun reversed => absurd reversed inOrder, fun _ short => ?_⟩
        exact shown_verifyTime.mp (shown.2 () (verifyDuration_eq_ok.mpr short))
      · intro shown
        refine ⟨shown_verifyDuration _, fun _ passed => shown_verifyTime.mpr ?_⟩
        exact shown.2 (Int.not_lt.mp inOrder) (verifyDuration_eq_ok.mp passed)

variable (verifier calendar) in
/-- If the period of the certificate is looked at, what is said about it can be. -/
def ErrorShown (time : Instant) (certificate : Certificate) : Prop :=
  ∀ payload info notBefore notAfter,
    verifier.decodePayload certificate.serializedPayload = .ok payload →
    payload.subjectPublicKeyInfo = some info →
    payload.validity = some ⟨some notBefore, some notAfter⟩ →
    (verifier.proofOfFreshnessVerification = .verify → payload.proofOfFreshness = true) →
      verifier.PeriodShown calendar time notBefore notAfter

theorem reportFreshness_returns {payload : CertificatePayload} :
    (∃ freshness, verifier.reportFreshness payload = .ok freshness) ↔
      (verifier.proofOfFreshnessVerification = .verify → payload.proofOfFreshness = true) := by
  rw [reportFreshness]
  cases verifier.proofOfFreshnessVerification with
  | ignore => simp
  | verify => cases payload.proofOfFreshness <;> simp

theorem shown_freshness {payload : CertificatePayload}
    {freshness : Option (Except CertificateVerificationError Unit)}
    (fresh : verifier.reportFreshness payload = .ok freshness) :
    Shown calendar (freshness.getD (.ok ())) := by
  rw [reportFreshness] at fresh
  cases asked : verifier.proofOfFreshnessVerification with
  | ignore =>
    rw [asked] at fresh
    cases fresh
    exact shown_ok ()
  | verify =>
    cases set : payload.proofOfFreshness with
    | false => simp [asked, set] at fresh
    | true =>
      simp only [asked, set, if_true, Except.ok.injEq] at fresh
      subst fresh
      exact shown_error.mpr id

theorem shown_verifyValidity {validity : Validity} :
    Shown calendar (verifier.verifyValidity time validity) ↔
      ∀ notBefore notAfter, validity = ⟨some notBefore, some notAfter⟩ →
        Shown calendar (verifier.verifyPeriod time notBefore.toInstant notAfter.toInstant) := by
  obtain ⟨start, stop⟩ := validity
  rw [verifyValidity, shown_bind]
  constructor
  · intro shown notBefore notAfter same
    cases same
    exact (shown_bind.mp (shown.2 notBefore rfl)).2 notAfter rfl
  · intro shown
    refine ⟨shown_requireField _ _, fun notBefore hasStart => shown_bind.mpr
      ⟨shown_requireField _ _, fun notAfter hasStop => ?_⟩⟩
    cases requireField_eq_ok.mp hasStart
    cases requireField_eq_ok.mp hasStop
    exact shown notBefore notAfter rfl

theorem shown_verify_iff {key purpose : Bytes} {certificate : Certificate}
    (fits : verifier.SkewFits certificate) :
    Shown calendar (verifier.verify time key purpose certificate) ↔
      verifier.ErrorShown calendar time certificate := by
  have decoder : Shown calendar ((verifier.decodePayload certificate.serializedPayload).mapError
      CertificateVerificationError.protoDecodeError) := by
    cases verifier.decodePayload certificate.serializedPayload with
    | error text => exact shown_error.mpr id
    | ok payload => exact shown_ok payload
  rw [verify, shown_bind]
  constructor
  · intro shown payload info notBefore notAfter decoded hasInfo hasValidity asked
    obtain ⟨freshness, fresh⟩ := reportFreshness_returns.mpr asked
    have reported := shown.2 _ (report_eq_ok.mpr
      ⟨payload, decoded, info, hasInfo, _, hasValidity, freshness, fresh, rfl⟩)
    rw [shown_intoChecked (shown_verifySignedKey _ _ _ _) (shown_freshness fresh),
      shown_verifyValidity] at reported
    exact (shown_verifyPeriod (fits _ _ _ _ decoded hasValidity rfl rfl)).mp
      (reported notBefore notAfter rfl)
  · intro shown
    refine ⟨?_, ?_⟩
    · refine shown_bind.mpr ⟨decoder, fun payload _ => ?_⟩
      refine shown_bind.mpr ⟨shown_requireField _ _, fun info _ => ?_⟩
      refine shown_bind.mpr ⟨shown_requireField _ _, fun validity _ => ?_⟩
      exact shown_bind.mpr ⟨shown_reportFreshness _, fun _ _ => shown_ok _⟩
    · intro value reported
      obtain ⟨payload, decoded, info, hasInfo, validity, hasValidity, freshness, fresh, rfl⟩ :=
        report_eq_ok.mp reported
      rw [shown_intoChecked (shown_verifySignedKey _ _ _ _) (shown_freshness fresh),
        shown_verifyValidity]
      intro notBefore notAfter same
      subst same
      exact (shown_verifyPeriod (fits _ _ _ _ decoded hasValidity rfl rfl)).mpr
        (shown payload info notBefore notAfter decoded hasInfo hasValidity
          (reportFreshness_returns.mp ⟨freshness, fresh⟩))

end CertificateVerifier

namespace FarFuture

/-- The years that `chrono` has. -/
def calendar : Calendar :=
  { render := fun seconds _ =>
      if -8334601228800 ≤ seconds ∧ seconds ≤ 8210266876799 then some "" else none }

def payload (notBefore notAfter : Int64) : CertificatePayload :=
  { validity := some ⟨some ⟨notBefore, 0⟩, some ⟨notAfter, 0⟩⟩, subjectPublicKeyInfo := some ⟨[], []⟩
    proofOfFreshness := false }

/-- Every signature is refused, and there is no skew. -/
def verifier (notBefore notAfter : Int64) : CertificateVerifier :=
  { signatureVerifier := fun _ _ => .error ["invalid signature"]
    decodePayload := fun _ => .ok (payload notBefore notAfter)
    allowedClockSkew := ⟨0, by decide, by decide⟩, maxValidityDuration := none
    proofOfFreshnessVerification := .ignore }

def certificate : Certificate := { serializedPayload := [], signatureInfo := some [] }

theorem skewFits (notBefore notAfter : Int64) : (verifier notBefore notAfter).SkewFits certificate := by
  intro decoded validity start stop found hasValidity hasStart hasStop
  cases found
  cases hasValidity
  cases hasStart
  cases hasStop
  have lower := And.intro notBefore.le_toInt notBefore.toInt_lt
  have upper := And.intro notAfter.le_toInt notAfter.toInt_lt
  constructor
  · change -2 ^ 127 ≤ 1000000000 * notBefore.toInt + 0 - 0 ∧ 1000000000 * notBefore.toInt + 0 - 0 < 2 ^ 127
    omega
  · change -2 ^ 127 ≤ 1000000000 * notAfter.toInt + 0 + 0 ∧ 1000000000 * notAfter.toInt + 0 + 0 < 2 ^ 127
    omega

end FarFuture

end Oak.Crypto
