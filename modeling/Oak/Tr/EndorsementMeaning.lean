import Oak.C2sp.ProofSoundness
import Oak.Tr.Endorsement

namespace Oak.Tr

open Oak.Data Oak.Data.Outcome

/-! What the verification of an endorsement accepts. -/

variable {Certificate : Type} (crates : EndorsementCrates Certificate)

/-- The endorser's key is the one in the entry.  Only ECDSA keys can be. -/
structure EntryOfEndorser (logEntry : LogEntry) (endorser : VerifyingKey) : Prop where
  keyType : endorser.keyType = .ecdsaP256Sha256
  publicKey : ∃ publicKey, logEntry.getPublicKey crates.rekor = .ok publicKey ∧
    SameKey crates.keys publicKey endorser.raw

/-- The entry is signed by the log and in time, its hash and its signature are those of the
endorsement, and its key is the endorser's. -/
def RekorVerified (keySet : VerifyingKeySet) (signed : SignedEndorsement) (endorsement : Endorsement)
    (endorser : VerifyingKey) (now : Int64) : Prop :=
  ∃ logEntry, EntryVerified crates.rekor signed.rekorLogEntry keySet endorsement.serialized now
    logEntry ∧ EntryOfEndorser crates logEntry endorser

def C2spVerified (policyText : Text) (signed : SignedEndorsement) (endorsement : Endorsement) : Prop :=
  ∃ proof policy, tLogProofFromBytes signed.c2spTlogProof = .ok proof ∧
    C2sp.Policy.parse crates.schemes policyText = .ok policy ∧
      proof.verify crates.schemes crates.merkle policy endorsement.serialized = .ok ()

def PesVerified (pes : PesReferenceValue) (signed : SignedEndorsement) (endorsement : Endorsement)
    (endorser : VerifyingKey) : Prop :=
  ∃ keySet, pes.keySet = some keySet ∧
    Pes.Confirmed crates.pes signed.pesConfirmation keySet endorsement.serialized endorser

variable {endorser : VerifyingKey}

theorem compareEndorserPublicKey_eq_ok {logEntry : LogEntry} :
    compareEndorserPublicKey crates logEntry endorser = .ok () ↔
      EntryOfEndorser crates logEntry endorser := by
  rw [compareEndorserPublicKey]
  cases kind : endorser.keyType with
  | undefined | rsaSha2256 => exact ⟨nofun, fun same => absurd same.keyType (by simp [kind])⟩
  | ecdsaP256Sha256 =>
    simp only [LogEntry.comparePublicKey, Anyhow.bind_eq_ok, Anyhow.ensure_eq_ok]
    constructor
    · rintro ⟨publicKey, found, equal, compared, rfl⟩
      exact ⟨kind, publicKey, found, equalKeys_eq_ok_true.mp compared⟩
    · rintro ⟨-, publicKey, found, same⟩
      exact ⟨publicKey, found, true, equalKeys_eq_ok_true.mpr same, rfl⟩

theorem verifyRekor_decides (keySet : VerifyingKeySet) (signed : SignedEndorsement)
    (endorsement : Endorsement) (endorser : VerifyingKey) (now : Int64) :
    Decides (verifyRekor crates keySet signed endorsement endorser now)
      (fun _ => RekorVerified crates keySet signed endorsement endorser now)
      (EntryUnprintable crates.rekor signed.rekorLogEntry keySet now) :=
  ((verifyRekorLogEntry_decides _ _ _ _ _).mapErr.bind fun _ _ =>
    Decides.returned fun _ => compareEndorserPublicKey_eq_ok crates).congr
    (fun _ => Iff.rfl) (by simp)

theorem verifyC2spTlogProof_decides (policyText : Text) (signed : SignedEndorsement)
    (endorsement : Endorsement) :
    Decides (verifyC2spTlogProof crates signed.c2spTlogProof endorsement policyText)
      (fun _ => C2spVerified crates policyText signed endorsement) False := by
  have policy : Decides (C2sp.Policy.parse crates.schemes policyText)
      (fun policy => C2sp.Policy.parse crates.schemes policyText = .ok policy) False :=
    ⟨fun _ => Iff.rfl, iff_false_intro (C2sp.Policy.parse_not_isPanic policyText)⟩
  have proof : ∀ (proof : C2sp.TLogProof) (policy : C2sp.Policy),
      C2sp.Policy.parse crates.schemes policyText = .ok policy →
        Decides (proof.verify crates.schemes crates.merkle policy endorsement.serialized)
          (fun _ => proof.verify crates.schemes crates.merkle policy endorsement.serialized = .ok ())
          False :=
    fun _ _ parsed => ⟨fun _ => Iff.rfl, iff_false_intro (C2sp.TLogProof.verify_not_isPanic parsed)⟩
  refine ((Decides.returned fun _ => Iff.rfl).mapErr.bind fun found _ => policy.mapErr.bind
    fun parsedPolicy parsed => (proof found parsedPolicy parsed).mapErr).congr (fun _ => ?_) (by simp)
  constructor
  · rintro ⟨found, read, policy, parsed, verified⟩
    exact ⟨found, policy, read, parsed, verified⟩
  · rintro ⟨found, policy, read, parsed, verified⟩
    exact ⟨found, read, policy, parsed, verified⟩

theorem attempt_decides {α : Type} {label : String} {option : Option α}
    {verify : α → Outcome Anyhow Unit} {errors : List String}
    {next : List String → Outcome Anyhow Unit} {passes panics : α → Prop} {rest restPanics : Prop}
    (each : ∀ value ∈ option, Decides (verify value) (fun _ => passes value) (panics value))
    (after : ∀ errors, Decides (next errors) (fun _ => rest) restPanics) :
    Decides (attempt label (option.map verify) errors next)
      (fun _ => (∃ value ∈ option, passes value) ∨ (¬ ∃ value ∈ option, panics value) ∧ rest)
      ((∃ value ∈ option, panics value) ∨ (¬ ∃ value ∈ option, passes value) ∧ restPanics) := by
  cases option with
  | none => exact (after errors).congr (by simp) (by simp)
  | some value =>
    have decides := each value rfl
    simp only [Option.map_some]
    cases outcome : verify value with
    | ok done =>
      have passed : passes value := (decides.ok_iff done).mp outcome
      have calm : ¬ panics value := by
        rw [← decides.panic_iff, outcome]
        exact id
      exact (Decides.ok ()).congr (fun _ => by simp [passed]) (by simp [passed, calm])
    | error fault =>
      have failed : ¬ passes value := fun passed => by
        cases outcome.symm.trans ((decides.ok_iff ()).mpr passed)
      cases fault with
      | panic message =>
        have panicked : panics value := by
          rw [← decides.panic_iff, outcome]
          exact trivial
        exact (Decides.panic message).congr (fun _ => by simp [failed, panicked])
          (by simp [panicked])
      | error reason =>
        have calm : ¬ panics value := by
          rw [← decides.panic_iff, outcome]
          exact id
        exact (after _).congr (fun _ => by simp [failed, calm]) (by simp [failed, calm])

theorem allFailed_decides (errors : List String) :
    Decides (allFailed errors) (fun _ => False) False := Decides.err _

theorem verifyPes_decides (keySet : VerifyingKeySet) (signed : SignedEndorsement)
    (endorsement : Endorsement) (endorser : VerifyingKey) :
    Decides (returned (Pes.verifyPesConfirmation crates.pes signed.pesConfirmation keySet
        endorsement.serialized endorser))
      (fun _ => Pes.Confirmed crates.pes signed.pesConfirmation keySet endorsement.serialized endorser)
      False :=
  Decides.returned fun _ => Pes.verifyPesConfirmation_eq_ok crates.pes

theorem verifyAll_decides (tlog : TLogReferenceValues) (signed : SignedEndorsement)
    (endorsement : Endorsement) (endorser : VerifyingKey) (now : Int64) :
    Decides (verifyAll crates tlog signed endorsement endorser now)
      (fun _ => (∀ keySet ∈ tlog.rekor, RekorVerified crates keySet signed endorsement endorser now) ∧
        (∀ policy ∈ tlog.c2sp, C2spVerified crates policy signed endorsement) ∧
          ∀ pes ∈ tlog.pes, PesVerified crates pes signed endorsement endorser)
      (∃ keySet ∈ tlog.rekor, EntryUnprintable crates.rekor signed.rekorLogEntry keySet now) := by
  refine ((Decides.ifSome fun keySet _ =>
    verifyRekor_decides crates keySet signed endorsement endorser now).andThen fun _ =>
      (Decides.ifSome fun policy _ =>
        (verifyC2spTlogProof_decides crates policy signed endorsement).mapErr).andThen fun _ =>
          Decides.ifSome fun pes _ => (Decides.returned fun _ => Anyhow.present_eq_ok).bind
            fun keySet _ => Decides.returned fun _ => Anyhow.context_eq_ok.trans
              (Pes.verifyPesConfirmation_eq_ok crates.pes)).congr (fun _ => Iff.rfl) (by simp)

theorem verifyAnyPes_decides (pes : Option PesReferenceValue) (signed : SignedEndorsement)
    (endorsement : Endorsement) (endorser : VerifyingKey) (errors : List String) :
    Decides (verifyAnyPes crates pes signed endorsement endorser errors)
      (fun _ => ∃ value ∈ pes, PesVerified crates value signed endorsement endorser) False := by
  match pes with
  | none => exact (allFailed_decides errors).congr (by simp) Iff.rfl
  | some ⟨none⟩ => exact (Decides.err _).congr (by simp [PesVerified]) Iff.rfl
  | some ⟨some keySet⟩ =>
    have last := @attempt_decides _ "verifying PES confirmation: " (some keySet) _ errors allFailed
      _ _ _ _ (fun value _ => verifyPes_decides crates value signed endorsement endorser)
      allFailed_decides
    exact last.congr (by simp [PesVerified]) (by simp)

/-- Success of one verification is enough, unless the one of the Rekor entry, which comes first,
panics. -/
theorem verifyAny_decides (tlog : TLogReferenceValues) (signed : SignedEndorsement)
    (endorsement : Endorsement) (endorser : VerifyingKey) (now : Int64) :
    Decides (verifyAny crates tlog signed endorsement endorser now)
      (fun _ =>
        ((∃ keySet ∈ tlog.rekor, RekorVerified crates keySet signed endorsement endorser now) ∨
          (∃ policy ∈ tlog.c2sp, C2spVerified crates policy signed endorsement) ∨
            ∃ pes ∈ tlog.pes, PesVerified crates pes signed endorsement endorser) ∧
        ¬ ∃ keySet ∈ tlog.rekor, EntryUnprintable crates.rekor signed.rekorLogEntry keySet now)
      (∃ keySet ∈ tlog.rekor, EntryUnprintable crates.rekor signed.rekorLogEntry keySet now) := by
  have rekorPart := fun keySet (_ : keySet ∈ tlog.rekor) =>
    verifyRekor_decides crates keySet signed endorsement endorser now
  have exclusive : ∀ keySet ∈ tlog.rekor,
      RekorVerified crates keySet signed endorsement endorser now →
        ¬ EntryUnprintable crates.rekor signed.rekorLogEntry keySet now := by
    intro keySet member verified unprintable
    have panicked := (rekorPart keySet member).panic_iff.mpr unprintable
    rw [((rekorPart keySet member).ok_iff ()).mpr verified] at panicked
    exact panicked
  refine (attempt_decides rekorPart fun errors => attempt_decides (fun policy _ =>
    verifyC2spTlogProof_decides crates policy signed endorsement)
    (verifyAnyPes_decides crates tlog.pes signed endorsement endorser)).congr (fun _ => ?_) (by simp)
  constructor
  · rintro (⟨keySet, member, verified⟩ | ⟨calm, others⟩)
    · refine ⟨.inl ⟨keySet, member, verified⟩, ?_⟩
      rintro ⟨other, memberOther, unprintable⟩
      cases Option.mem_unique member memberOther
      exact exclusive keySet member verified unprintable
    · rcases others with policy | ⟨-, pes⟩
      · exact ⟨.inr (.inl policy), calm⟩
      · exact ⟨.inr (.inr pes), calm⟩
  · rintro ⟨rekor | policy | pes, calm⟩
    · exact .inl rekor
    · exact .inr ⟨calm, .inl policy⟩
    · exact .inr ⟨calm, .inr ⟨by simp, pes⟩⟩

/-- What the reference value asks of the transparency logs. -/
def TransparencyHolds (refValue : EndorsementReferenceValue) (signed : SignedEndorsement)
    (endorsement : Endorsement) (endorser : VerifyingKey) (now : Int64) : Prop :=
  match refValue.tlog with
  | some tlog =>
    match tlog.strategy with
    | none => False
    | some .skip => True
    | some .all =>
      (∀ keySet ∈ tlog.rekor, RekorVerified crates keySet signed endorsement endorser now) ∧
        (∀ policy ∈ tlog.c2sp, C2spVerified crates policy signed endorsement) ∧
          ∀ pes ∈ tlog.pes, PesVerified crates pes signed endorsement endorser
    | some .any =>
      (∃ keySet ∈ tlog.rekor, RekorVerified crates keySet signed endorsement endorser now) ∨
        (∃ policy ∈ tlog.c2sp, C2spVerified crates policy signed endorsement) ∨
          ∃ pes ∈ tlog.pes, PesVerified crates pes signed endorsement endorser
  -- without a `tlog` entry the deprecated rule applies
  | none =>
    match refValue.rekor with
    | some (some .skip) => True
    | some (some (.verify keySet)) =>
      signed.rekorLogEntry ≠ [] ∧ RekorVerified crates keySet signed endorsement endorser now
    | some none => False
    | none => False

/-- Under the strategy `any` the check of the Rekor entry does not end in a message that cannot be
printed. -/
def MessagePrintable (refValue : EndorsementReferenceValue) (signed : SignedEndorsement)
    (now : Int64) : Prop :=
  ∀ tlog ∈ refValue.tlog, tlog.strategy = some .any → ∀ keySet ∈ tlog.rekor,
    ¬ EntryUnprintable crates.rekor signed.rekorLogEntry keySet now

variable {endorsement : Endorsement}

theorem verifyRekorRule_eq_ok {rule : Option (Option RekorRule)} {signed : SignedEndorsement}
    {now : Int64} :
    verifyRekorRule crates rule signed endorsement endorser now = .ok () ↔
      match rule with
      | some (some .skip) => True
      | some (some (.verify keySet)) =>
        signed.rekorLogEntry ≠ [] ∧ RekorVerified crates keySet signed endorsement endorser now
      | some none => False
      | none => False := by
  match rule with
  | none => exact ⟨nofun, nofun⟩
  | some none => exact ⟨nofun, nofun⟩
  | some (some .skip) => exact ⟨fun _ => trivial, fun _ => rfl⟩
  | some (some (.verify keySet)) =>
    exact (Decides.ite fun _ =>
      verifyRekor_decides crates keySet signed endorsement endorser now).ok_iff ()

theorem verifyTransparency_eq_ok {refValue : EndorsementReferenceValue}
    {signed : SignedEndorsement} {now : Int64} (supplied : signed.endorsement = some endorsement) :
    verifyTransparency crates refValue signed endorsement endorser now = .ok () ↔
      TransparencyHolds crates refValue signed endorsement endorser now ∧
        MessagePrintable crates refValue signed now := by
  rw [verifyTransparency, TransparencyHolds, MessagePrintable]
  cases refValue.tlog with
  | none =>
    rw [verifyRekorRule_eq_ok]
    simp
  | some tlog =>
    simp only [mapErr_eq_ok, verifyTlog, supplied, Anyhow.present, returned]
    cases strategy : tlog.strategy with
    | none => simp [Anyhow.bail, err, bind, Except.bind]
    | some chosen =>
      cases chosen with
      | skip => simp [strategy]
      | all =>
        simp only [ok_bind]
        rw [(verifyAll_decides crates tlog signed endorsement endorser now).ok_iff ()]
        simp [strategy]
      | any =>
        simp only [ok_bind]
        rw [(verifyAny_decides crates tlog signed endorsement endorser now).ok_iff ()]
        simp [strategy]

/-- The first key of the set with the key id of the signature is the endorser's, and the signature
over the serialized endorsement verifies under it. -/
structure SignedByEndorser (signed : SignedEndorsement) (refValue : EndorsementReferenceValue)
    (endorsement : Endorsement) (endorser : VerifyingKey) : Prop where
  supplied : signed.endorsement = some endorsement
  signature : ∃ signature keySet, signed.signature = some signature ∧
    refValue.endorser = some keySet ∧
      (keySet.keys.find? fun key => key.keyId = signature.keyId) = some endorser ∧
        verifyWithKey crates.keys crates.sha2 endorser signature.raw endorsement.serialized = .ok ()

/-- The statement in the endorsement is one for the time, the claims and the subject. -/
structure StatementHolds (refValue : EndorsementReferenceValue) (endorsement : Endorsement)
    (now : Int64) (statement : Statement) : Prop where
  parsed : parseStatement crates endorsement.serialized = .ok statement
  header : statement.HasHeader
  time : statement.ValidAt (.fromUnixMillis now)
  claims : ∀ required ∈ refValue.requiredClaims, ∀ claimType ∈ required, claimType ∈ statement.claims
  subject : endorsement.subject ≠ [] → statement.SubjectMatches
    (rawToHexDigest (rawDigestFromContents crates.sha2 endorsement.subject))

structure Accepted (now : Int64) (signed : SignedEndorsement) (refValue : EndorsementReferenceValue)
    (statement : Statement) : Prop where
  verified : ∃ endorsement endorser, SignedByEndorser crates signed refValue endorsement endorser ∧
    StatementHolds crates refValue endorsement now statement ∧
      TransparencyHolds crates refValue signed endorsement endorser now

theorem forall_suppliedDigest {property : HexDigest → Prop} :
    (∀ digest ∈ suppliedDigest crates endorsement, property digest) ↔ (endorsement.subject ≠ [] →
        property (rawToHexDigest (rawDigestFromContents crates.sha2 endorsement.subject))) := by
  rw [suppliedDigest]
  split
  · next empty => simp [empty]
  · next given => simp [given]

namespace Unprintable

def statement : Statement :=
  { type := statementType, predicateType := predicateTypeV1, subject := []
    validity := some ⟨⟨0⟩, ⟨0⟩⟩, claims := [] }

def logEntry : LogEntry :=
  { body := [], integratedTime := 0, logId := [], logIndex := 0, signedEntryTimestamp := some [] }

def confirmation : Pes.PublicEndorsementJson :=
  let signature : Pes.SignatureJson := ⟨[], some ⟨none, some []⟩⟩
  { name := none, statement := some [], statementSignature := some signature
    endorsementSignatures := some [signature], tlogReceipt := some none }

/-- Crates that take every key and every signature, and a calendar of the years that `chrono` has. -/
def acceptingCrates : EndorsementCrates Empty :=
  { statementJson := fun _ => .ok statement
    rekorJson := { logEntries := fun _ => .ok (.singleton [] logEntry), body := fun _ => .error "" }
    pesJson := fun _ _ => .ok confirmation
    certificateFromDer := fun _ => .error ""
    spkiToDer := nofun
    keys :=
      { documentFromPem := fun _ => .error "", documentFromDer := .ok, p256FromPublicKeyDer := .ok
        ecdsaSignatureFromDer := .ok, p256Verify := fun _ _ _ => .ok ()
        rsaFromPublicKeyDer := .ok, rsaVerify := fun _ _ _ => .ok () }
    schemes := C2sp.TLogProof.acceptAll
    merkle := C2sp.TLogProof.zeroMerkle
    sha2 :=
      { sha256 := fun _ => Block.zero 32, sha384 := fun _ => Block.zero 48
        sha512 := fun _ => Block.zero 64 }
    calendar :=
      { render := fun seconds _ =>
          if -8334601228800 ≤ seconds ∧ seconds ≤ 8210266876799 then some "" else none } }

def keySet : VerifyingKeySet := { keys := [⟨1, 0, []⟩], signedTimestamp := none }

def signed : SignedEndorsement :=
  { endorsement := some ⟨[], []⟩, signature := some ⟨0, []⟩, rekorLogEntry := [], c2spTlogProof := []
    pesConfirmation := [] }

/-- Rekor or the endorsement service will do, and the entry must not be older than the last second
of an `i64`. -/
def refValue : EndorsementReferenceValue :=
  { endorser := some keySet, requiredClaims := some [], rekor := none
    tlog := some
      { strategy := some .any
        rekor := some { keySet with signedTimestamp := some ⟨some ⟨9223372036854775807, 0⟩, none⟩ }
        c2sp := none
        pes := some ⟨some keySet⟩ } }

end Unprintable

end Oak.Tr
