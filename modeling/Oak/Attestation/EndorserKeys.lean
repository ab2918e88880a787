import Oak.Tr.EndorsementMeaning

namespace Oak.Attestation

open Oak.Data Oak.Tr Oak.Data.Outcome

/-! Endorsements of the verification without policies, which come without a key id
(`oak_attestation_verification/src/expect.rs`). -/

/-- What is left of the deprecated `TransparentReleaseEndorsement`. -/
structure RawEndorsement where
  endorsement : Bytes
  signature : Bytes
  logEntry : Bytes

def RawEndorsement.assemble (raw : RawEndorsement) (keyId : UInt32) : SignedEndorsement :=
  { endorsement := some ⟨raw.endorsement, []⟩, signature := some ⟨keyId, raw.signature⟩
    rekorLogEntry := raw.logEntry, c2spTlogProof := [], pesConfirmation := [] }

section Wrapper

variable {Certificate : Type} (crates : EndorsementCrates Certificate) (now : Int64)
  (raw : RawEndorsement) (refValue : EndorsementReferenceValue)

/-- The loop over the keys.  The last error is the one that is returned if no key will do. -/
def tryKeys : List VerifyingKey → Anyhow → Outcome Anyhow Statement
  | [], reason => .err reason
  | key :: rest, _ =>
    match verifyEndorsement crates now (raw.assemble key.keyId) refValue with
    | .ok statement => .ok statement
    | .error (.error reason) => tryKeys rest reason
    | .error (.panic message) => .panic message

def verifyEndorsementWrapper : Outcome Anyhow Statement := do
  let endorser ← returned (Anyhow.present "missing endorser key set" refValue.endorser)
  tryKeys crates now raw refValue endorser.keys ["no endorser keys"]

end Wrapper

section Keys

variable {Certificate : Type} {crates : EndorsementCrates Certificate} {now : Int64}
  {raw : RawEndorsement} {refValue : EndorsementReferenceValue}

variable {statement : Statement} {keys : List VerifyingKey}

theorem exists_of_tryKeys {reason : Anyhow}
    (verified : tryKeys crates now raw refValue keys reason = .ok statement) :
    ∃ key ∈ keys, verifyEndorsement crates now (raw.assemble key.keyId) refValue = .ok statement := by
  induction keys generalizing reason with
  | nil => cases verified
  | cons key rest ih =>
    rw [tryKeys] at verified
    split at verified
    · next first =>
        cases verified
        exact ⟨key, List.mem_cons_self, first⟩
    · obtain ⟨later, member, found⟩ := ih verified
      exact ⟨later, List.mem_cons_of_mem _ member, found⟩
    · cases verified

variable {key : VerifyingKey}

theorem tryKeys_of_exists {reason : Anyhow} (calm : ∀ key ∈ keys,
      ¬ (verifyEndorsement crates now (raw.assemble key.keyId) refValue).IsPanic)
    (member : key ∈ keys)
    (verified : verifyEndorsement crates now (raw.assemble key.keyId) refValue = .ok statement) :
    ∃ found, tryKeys crates now raw refValue keys reason = .ok found := by
  induction keys generalizing reason with
  | nil => cases member
  | cons first rest ih =>
    rw [tryKeys]
    cases outcome : verifyEndorsement crates now (raw.assemble first.keyId) refValue with
    | ok found => exact ⟨found, rfl⟩
    | error fault =>
      cases fault with
      | panic message =>
        have panicked := calm first List.mem_cons_self
        rw [outcome] at panicked
        exact absurd trivial panicked
      | error failed =>
        apply ih fun other inside => calm other (List.mem_cons_of_mem _ inside)
        cases List.mem_cons.mp member with
        | inl same =>
          rw [same, outcome] at verified
          cases verified
        | inr later => exact later

def onlyKey (refValue : EndorsementReferenceValue) (key : VerifyingKey) : EndorsementReferenceValue :=
  { refValue with endorser := some ⟨[key], none⟩ }

variable {keySet : VerifyingKeySet}

theorem verifyEndorsement_eq_onlyKey {keyId : UInt32} {first : VerifyingKey}
    (endorser : refValue.endorser = some keySet)
    (found : (keySet.keys.find? fun key => key.keyId = keyId) = some first) :
    verifyEndorsement crates now (raw.assemble keyId) refValue =
      verifyEndorsement crates now (raw.assemble first.keyId) (onlyKey refValue first) := by
  have alone : ([first].find? fun key => key.keyId = first.keyId) = some first := by simp
  simp only [verifyEndorsement, RawEndorsement.assemble, onlyKey, endorser, Anyhow.present,
    returned, ok_bind, verifySignature, found, alone]
  rfl

variable (crates now refValue) in
/-- The check of the Rekor entry is made, and ends in a message that cannot be printed.  The key of the
endorser has no part in it. -/
def LogsUnprintable (logEntry : Bytes) : Prop :=
  match refValue.tlog with
  | some tlog => (tlog.strategy = some .all ∨ tlog.strategy = some .any) ∧
      ∃ keySet ∈ tlog.rekor, EntryUnprintable crates.rekor logEntry keySet now
  | none => ∃ keySet, refValue.rekor = some (some (.verify keySet)) ∧ logEntry ≠ [] ∧
      EntryUnprintable crates.rekor logEntry keySet now

variable {signed : SignedEndorsement} {endorsement : Endorsement}

theorem verifyRekorRule_isPanic {rule : Option (Option RekorRule)} {endorser : VerifyingKey} :
    (verifyRekorRule crates rule signed endorsement endorser now).IsPanic ↔
      ∃ keySet, rule = some (some (.verify keySet)) ∧ signed.rekorLogEntry ≠ [] ∧
        EntryUnprintable crates.rekor signed.rekorLogEntry keySet now := by
  rw [verifyRekorRule]
  cases rule with
  | none => simp [Anyhow.present, Anyhow.bail, returned]
  | some set =>
    simp only [Anyhow.present, returned]
    cases set with
    | none => simp
    | some rule =>
      cases rule with
      | skip => simp
      | verify keySet =>
        apply (Decides.ite fun _ =>
          verifyRekor_decides crates keySet signed endorsement endorser now).panic_iff.trans
        simp

theorem verifyTransparency_isPanic (supplied : signed.endorsement = some endorsement) (endorser : VerifyingKey) :
    (verifyTransparency crates refValue signed endorsement endorser now).IsPanic ↔
      LogsUnprintable crates now refValue signed.rekorLogEntry := by
  rw [verifyTransparency, LogsUnprintable]
  cases refValue.tlog with
  | none => exact verifyRekorRule_isPanic
  | some tlog =>
    simp only [isPanic_mapErr, verifyTlog, supplied, Anyhow.present, returned]
    cases tlog.strategy with
    | none => simp [Anyhow.bail]
    | some strategy =>
      cases strategy with
      | skip => simp
      | all => simpa using (verifyAll_decides crates tlog signed endorsement endorser now).panic_iff
      | any => simpa using (verifyAny_decides crates tlog signed endorsement endorser now).panic_iff

theorem logsUnprintable_of_isPanic
    (panicked : (verifyEndorsement crates now signed refValue).IsPanic) :
    LogsUnprintable crates now refValue signed.rekorLogEntry := by
  by_contra printable
  revert panicked
  refine (Decides.returned fun _ => Anyhow.present_eq_ok).not_isPanic_bind.mpr
    ⟨id, fun endorsement supplied => ?_⟩
  refine (Decides.returned fun _ => Iff.rfl).not_isPanic_bind.mpr ⟨id, fun signature _ => ?_⟩
  refine (Decides.returned fun _ => Iff.rfl).not_isPanic_bind.mpr ⟨id, fun keySet _ => ?_⟩
  refine (Decides.returned fun _ => Iff.rfl).not_isPanic_bind.mpr ⟨id, fun required _ => ?_⟩
  refine (Decides.returned fun _ => Iff.rfl).not_isPanic_bind.mpr ⟨id, fun endorser _ => ?_⟩
  refine (Decides.returned fun _ => Iff.rfl).not_isPanic_bind.mpr ⟨id, fun _ _ => ?_⟩
  refine (Decides.returned fun _ => Iff.rfl).not_isPanic_bind.mpr ⟨id, fun statement _ => ?_⟩
  refine (Decides.returned fun _ => Iff.rfl).not_isPanic_bind.mpr ⟨id, fun _ _ => ?_⟩
  apply not_isPanic_bind
  · rw [verifyTransparency_isPanic supplied]
    exact printable
  · exact fun _ => id

theorem not_isPanic_of_verified {keyId other : UInt32}
    (verified : verifyEndorsement crates now (raw.assemble keyId) (onlyKey refValue key) =
      .ok statement) : ¬ (verifyEndorsement crates now (raw.assemble other) refValue).IsPanic := by
  intro panicked
  have unprintable : LogsUnprintable crates now (onlyKey refValue key) raw.logEntry :=
    logsUnprintable_of_isPanic panicked
  simp only [verifyEndorsement, bind_eq_ok, returned_eq_ok, Anyhow.present_eq_ok]
    at verified
  obtain ⟨endorsement, supplied, _, _, _, _, _, _, endorser, _, _, _, _, _, _, _, _, transparent, _⟩ :=
    verified
  exact ((verifyTransparency_isPanic supplied endorser).mpr unprintable).ne_ok _ transparent

variable (crates now raw refValue) in
/-- The endorsement verifies, with its signature checked under the key. -/
def VerifiesUnder (key : VerifyingKey) : Prop :=
  ∃ statement, verifyEndorsement crates now (raw.assemble key.keyId) (onlyKey refValue key) =
    .ok statement

/-- No other key of the set with its id comes before the key. -/
def IsFirstWithId (keySet : VerifyingKeySet) (key : VerifyingKey) : Prop :=
  (keySet.keys.find? fun other => other.keyId = key.keyId) = some key

theorem exists_first (member : key ∈ keySet.keys) :
    ∃ first ∈ keySet.keys, first.keyId = key.keyId ∧ IsFirstWithId keySet first ∧
      (keySet.keys.find? fun other => other.keyId = key.keyId) = some first := by
  cases found : keySet.keys.find? fun other => other.keyId = key.keyId with
  | none => simpa using List.find?_eq_none.mp found key member
  | some first =>
    have same : first.keyId = key.keyId := by simpa using List.find?_some found
    refine ⟨first, List.mem_of_find?_eq_some found, same, ?_, rfl⟩
    rw [IsFirstWithId, same]
    exact found

theorem verifyEndorsementWrapper_ok_iff (endorser : refValue.endorser = some keySet) :
    (∃ statement, verifyEndorsementWrapper crates now raw refValue = .ok statement) ↔
      ∃ key ∈ keySet.keys, IsFirstWithId keySet key ∧ VerifiesUnder crates now raw refValue key := by
  simp only [verifyEndorsementWrapper, endorser]
  constructor
  · intro succeeded
    obtain ⟨statement, verified⟩ := succeeded
    obtain ⟨key, member, attempt⟩ := exists_of_tryKeys verified
    obtain ⟨first, firstMember, same, isFirst, found⟩ := exists_first member
    rw [verifyEndorsement_eq_onlyKey endorser found] at attempt
    exact ⟨first, firstMember, isFirst, statement, attempt⟩
  · intro held
    obtain ⟨key, member, isFirst, statement, verified⟩ := held
    have attempt := (verifyEndorsement_eq_onlyKey endorser isFirst).trans verified
    exact tryKeys_of_exists (fun _ _ => not_isPanic_of_verified verified) member attempt

/-- All keys count exactly if, where any key verifies the endorsement, one does that is the first of
the set with its key id. -/
theorem all_keys_tried_iff (crates : EndorsementCrates Certificate) (now : Int64)
    (raw : RawEndorsement) (refValue : EndorsementReferenceValue) (keySet : VerifyingKeySet)
    (endorser : refValue.endorser = some keySet) :
    ((∃ statement, verifyEndorsementWrapper crates now raw refValue = .ok statement) ↔
        ∃ key ∈ keySet.keys, VerifiesUnder crates now raw refValue key) ↔
      ((∃ key ∈ keySet.keys, VerifiesUnder crates now raw refValue key) →
        ∃ key ∈ keySet.keys, IsFirstWithId keySet key ∧ VerifiesUnder crates now raw refValue key) := by
  rw [verifyEndorsementWrapper_ok_iff endorser]
  constructor
  · intro agree
    exact agree.mpr
  · intro shown
    refine ⟨?_, shown⟩
    intro held
    obtain ⟨key, member, -, verified⟩ := held
    exact ⟨key, member, verified⟩

end Keys

namespace RepeatedId

def crates : EndorsementCrates Empty :=
  { Unprintable.acceptingCrates with
    keys :=
      { Unprintable.acceptingCrates.keys with
        p256Verify := fun key _ signature =>
          if key = signature then .ok () else .error "signature error" } }

def raw : RawEndorsement := { endorsement := [], signature := [2], logEntry := [] }

def other : VerifyingKey := ⟨1, 0, [1]⟩

def signer : VerifyingKey := ⟨1, 0, [2]⟩

def refValue (keys : List VerifyingKey) : EndorsementReferenceValue :=
  { endorser := some ⟨keys, none⟩, requiredClaims := some [], rekor := some (some .skip)
    tlog := none }

end RepeatedId

/-- The signature is the second key's, and the id of both is looked up as the first key. -/
theorem second_key_not_tried : VerifiesUnder RepeatedId.crates 0 RepeatedId.raw
        (RepeatedId.refValue [RepeatedId.other, RepeatedId.signer]) RepeatedId.signer ∧
      (verifyEndorsementWrapper RepeatedId.crates 0 RepeatedId.raw
        (RepeatedId.refValue [RepeatedId.other, RepeatedId.signer])).IsErr ∧
      verifyEndorsementWrapper RepeatedId.crates 0 RepeatedId.raw
        (RepeatedId.refValue [RepeatedId.signer, RepeatedId.other]) = .ok Unprintable.statement := by
  refine ⟨⟨Unprintable.statement, ?_⟩, ?_, ?_⟩
  · rfl
  · decide +kernel
  · rfl

theorem only_key_tried : (∃ statement, verifyEndorsementWrapper RepeatedId.crates 0 RepeatedId.raw
        (RepeatedId.refValue [RepeatedId.signer]) = .ok statement) ↔
      ∃ key ∈ [RepeatedId.signer], VerifiesUnder RepeatedId.crates 0 RepeatedId.raw
        (RepeatedId.refValue [RepeatedId.signer]) key := by
  apply (all_keys_tried_iff RepeatedId.crates 0 RepeatedId.raw
    (RepeatedId.refValue [RepeatedId.signer]) ⟨[RepeatedId.signer], none⟩ rfl).mpr
  intro held
  obtain ⟨key, member, verified⟩ := held
  cases List.mem_singleton.mp member
  exact ⟨_, member, rfl, verified⟩

end Oak.Attestation
