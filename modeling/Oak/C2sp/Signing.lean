import Oak.C2sp.Checkpoint
import Oak.Data.Framing
import Oak.Tr.Time

namespace Oak.C2sp

open Oak.Data Oak.Tr

/-! The messages that logs and witnesses sign (`tr/c2sp/note.rs`). -/

/-- `SignatureType::message` at an instant.  Only the timestamped types read it, and the subtree
message parses the checkpoint before. -/
def SignatureType.messageAt (kind : SignatureType) (checkpointText : Text) (timestamp : Instant)
    (cosignerName : Text) : Outcome NoteError Bytes :=
  match kind, Checkpoint.parse checkpointText with
  | .ed25519, _ => .ok (utf8 checkpointText)
  | .mlDsa44SubtreeV1, .error reason => .err (.malformedCheckpoint reason)
  | _, _ => do
    let epochSecs ← timestamp.intoUnixSeconds
    .returned (kind.message checkpointText epochSecs.toUInt64 cosignerName)

variable {kind other : SignatureType} {text otherText name otherName : Text}
  {timestamp otherTime : Instant} {message : Bytes}

/-- The seconds of a message do not matter for the type that has none. -/
theorem messageAt_eq_ok (built : kind.messageAt text timestamp name = .ok message) :
    ∃ seconds : Int64, (kind ≠ .ed25519 → timestamp.intoUnixSeconds (ε := NoteError) = .ok seconds) ∧
      kind.message text seconds.toUInt64 name = .ok message := by
  unfold SignatureType.messageAt at built
  split at built
  · cases built
    exact ⟨0, fun timed => absurd rfl timed, rfl⟩
  · cases built
  · obtain ⟨seconds, read, returned⟩ := Outcome.bind_eq_ok.mp built
    exact ⟨seconds, fun _ => read, Outcome.returned_eq_ok.mp returned⟩

/-- A text starts with the characters whose encoding its encoding starts with. -/
theorem exists_of_utf8_append {start : Text} {rest : Bytes} (same : utf8 text = utf8 start ++ rest) :
    ∃ tail, text = start ++ tail := by
  have valid : (start.utf8Encode ++ ⟨rest.toArray⟩).IsValidUTF8 := by
    refine ⟨text, ByteArray.ext (Array.toList_inj.mp ?_)⟩
    simpa [utf8] using same.symm
  have restValid : ByteArray.IsValidUTF8 ⟨rest.toArray⟩ := by
    clear same
    induction start with
    | nil => simpa using valid
    | cons char start ih =>
      apply ih
      rw [← List.singleton_append, List.utf8Encode_append, ByteArray.append_assoc] at valid
      exact ByteArray.isValidUTF8_utf8Encode_singleton_append_iff.mp valid
  obtain ⟨tail, encoded⟩ := restValid
  refine ⟨tail, utf8_inj (same.trans ?_)⟩
  simpa [utf8] using congrArg (·.data.toList) encoded

theorem exists_linesFrom {char : Char} (notReturn : char ≠ '\r') (current tail : Text) :
    ∃ line rest, Text.linesFrom (char :: current) tail = (char :: line) :: rest := by
  induction tail generalizing current with
  | nil => exact ⟨current, [], rfl⟩
  | cons next tail ih =>
    rw [Text.linesFrom]
    split
    · cases current with
      | nil => exact ⟨[], _, by rw [Text.chomp_of_getLast? (by simpa using notReturn)]⟩
      | cons second current =>
        rw [Text.chomp]
        split
        · exact ⟨_, _, rfl⟩
        · exact ⟨_, _, rfl⟩
    · exact ih _

/-- No number starts in the second line, so this is not a checkpoint. -/
theorem parse_ne_ok (label tail : Text) {char : Char} (oneLine : '\n' ∉ label)
    (notFeed : char ≠ '\n') (notReturn : char ≠ '\r') (notPlus : char ≠ '+')
    (notDigit : char.isDigit = false) (checkpoint : Checkpoint) :
    Checkpoint.parse (label ++ '\n' :: char :: tail) ≠ .ok checkpoint := by
  obtain ⟨line, rest, second⟩ := exists_linesFrom notReturn [] tail
  have unsized : parseU64 (char :: line) = none := by
    have unsigned : Text.withoutPlus (char :: line) = char :: line := by
      unfold Text.withoutPlus
      split
      · next same => exact absurd (List.head_eq_of_cons_eq same) notPlus
      · rfl
    simp [parseU64, Text.parseUnsigned, unsigned, Text.parseDigits, notDigit]
  rw [Checkpoint.parse, Text.lines_cons oneLine, Text.lines, Text.linesFrom, if_neg notFeed,
    List.nil_append, second]
  intro parsed
  cases rest with
  | nil => cases parsed
  | cons third rest =>
    rw [Checkpoint.parseLines, unsized] at parsed
    cases parsed

theorem cosignature_inj {seconds otherSeconds : Nat}
    (same : utf8 ("cosignature/v1\ntime ".toList ++ Text.decimal seconds ++ '\n' :: text) =
      utf8 ("cosignature/v1\ntime ".toList ++ Text.decimal otherSeconds ++ '\n' :: otherText)) :
    seconds = otherSeconds ∧ text = otherText := by
  have texts := utf8_inj same
  rw [List.append_assoc, List.append_assoc, List.append_cancel_left_eq] at texts
  obtain ⟨digits, rest⟩ := Framing.append_cons_inj (Text.notMem_decimal (by decide) seconds)
    (Text.notMem_decimal (by decide) otherSeconds) texts
  exact ⟨Text.decimal_injective digits, rest⟩

section Fields

variable {first second later rest : Bytes}

theorem pushOpaqueU8_append_inj {pushed : Bytes} {otherPushed : Bytes}
    (isPushed : pushOpaqueU8 first = .ok pushed) (otherIs : pushOpaqueU8 second = .ok otherPushed)
    (same : pushed ++ later = otherPushed ++ rest) : first = second ∧ later = rest := by
  rw [pushOpaqueU8] at isPushed otherIs
  split at isPushed
  · cases isPushed
  split at otherIs
  · cases otherIs
  cases isPushed
  cases otherIs
  obtain ⟨sameLength, sameBytes⟩ := List.cons.inj same
  refine List.append_inj sameBytes ?_
  have lengths := congrArg UInt8.toNat sameLength
  rw [UInt8.toNat_ofNat', UInt8.toNat_ofNat'] at lengths
  omega

theorem bigEndian_append_inj {number otherNumber : UInt64}
    (same : bigEndian 8 number.toNat ++ later = bigEndian 8 otherNumber.toNat ++ rest) :
    number = otherNumber ∧ later = rest := by
  obtain ⟨sameBytes, sameRest⟩ := List.append_inj same (by simp)
  have numbers := congrArg ofBigEndian sameBytes
  rw [ofBigEndian_bigEndian number.toNat_lt, ofBigEndian_bigEndian otherNumber.toNat_lt] at numbers
  exact ⟨UInt64.toNat_inj.mp numbers, sameRest⟩

end Fields

theorem subtree_eq_ok {seconds : UInt64}
    (built : SignatureType.mlDsa44SubtreeV1.message text seconds name = .ok message) :
    ∃ checkpoint cosigner origin, Checkpoint.parse text = .ok checkpoint ∧
      pushOpaqueU8 (utf8 name) = .ok cosigner ∧ pushOpaqueU8 (utf8 checkpoint.origin) = .ok origin ∧
      message = utf8 "subtree/v1\n\x00".toList ++ (cosigner ++ (bigEndian 8 seconds.toNat ++
        (origin ++ (List.replicate 8 0 ++ (bigEndian 8 checkpoint.treeSize.toNat ++
          checkpoint.rootHash.toList))))) := by
  rw [SignatureType.message] at built
  split at built
  · cases built
  · next checkpoint parsed =>
    obtain ⟨cosigner, isCosigner, rest⟩ := except_bind_eq_ok.mp built
    obtain ⟨origin, isOrigin, rest⟩ := except_bind_eq_ok.mp rest
    cases rest
    exact ⟨checkpoint, cosigner, origin, parsed, isCosigner, isOrigin, by simp⟩

/-- The fields of a subtree message are those of the parsed checkpoints. -/
def SameCheckpoint (text otherText : Text) : Prop :=
  ∃ checkpoint another, Checkpoint.parse text = .ok checkpoint ∧
    Checkpoint.parse otherText = .ok another ∧ checkpoint.origin = another.origin ∧
    checkpoint.treeSize = another.treeSize ∧ checkpoint.rootHash = another.rootHash

theorem subtree_inj {seconds otherSeconds : UInt64}
    (built : SignatureType.mlDsa44SubtreeV1.message text seconds name = .ok message)
    (otherBuilt : SignatureType.mlDsa44SubtreeV1.message otherText otherSeconds otherName =
      .ok message) :
    name = otherName ∧ seconds = otherSeconds ∧ SameCheckpoint text otherText := by
  obtain ⟨checkpoint, cosigner, origin, parsed, isCosigner, isOrigin, rfl⟩ := subtree_eq_ok built
  obtain ⟨another, cosigner', origin', parsed', isCosigner', isOrigin', same⟩ :=
    subtree_eq_ok otherBuilt
  rw [List.append_cancel_left_eq] at same
  obtain ⟨sameName, same⟩ := pushOpaqueU8_append_inj isCosigner isCosigner' same
  obtain ⟨sameTime, same⟩ := bigEndian_append_inj same
  obtain ⟨sameOrigin, same⟩ := pushOpaqueU8_append_inj isOrigin isOrigin' same
  rw [List.append_cancel_left_eq] at same
  obtain ⟨sameSize, sameRoot⟩ := bigEndian_append_inj same
  exact ⟨utf8_inj sameName, sameTime, checkpoint, another, parsed, parsed', utf8_inj sameOrigin,
    sameSize, Subtype.ext sameRoot⟩

theorem log_ne_cosignature {checkpoint : Checkpoint} (parsed : Checkpoint.parse text = .ok checkpoint)
    (rest : Text) : utf8 text ≠ utf8 ("cosignature/v1\ntime ".toList ++ rest) := by
  intro same
  rw [utf8_inj same] at parsed
  exact parse_ne_ok "cosignature/v1".toList ("ime ".toList ++ rest) (by decide) (by decide)
    (by decide) (by decide) (by decide) checkpoint parsed

theorem log_ne_subtree {checkpoint : Checkpoint} (parsed : Checkpoint.parse text = .ok checkpoint)
    (rest : Bytes) : utf8 text ≠ utf8 "subtree/v1\n\x00".toList ++ rest := by
  intro same
  obtain ⟨tail, rfl⟩ := exists_of_utf8_append same
  exact parse_ne_ok "subtree/v1".toList tail
    (by decide) (by decide) (by decide) (by decide) (by decide) checkpoint parsed

theorem cosignature_ne_subtree (rest : Text) (later : Bytes) :
    utf8 ("cosignature/v1\ntime ".toList ++ rest) ≠ utf8 "subtree/v1\n\x00".toList ++ later := by
  intro same
  obtain ⟨tail, texts⟩ := exists_of_utf8_append same
  exact absurd (List.head_eq_of_cons_eq texts) (by decide)

/-- Only log messages need this: the other types write what they are in front of the text. -/
def Signable (kind : SignatureType) (text : Text) : Prop :=
  kind = .ed25519 → ∃ checkpoint, Checkpoint.parse text = .ok checkpoint

theorem message_ne {seconds otherSeconds : UInt64} (different : kind ≠ other)
    (signable : Signable kind text) (otherSignable : Signable other otherText)
    (built : kind.message text seconds name = .ok message) :
    other.message otherText otherSeconds otherName ≠ .ok message := by
  intro otherBuilt
  cases kind with
  | ed25519 =>
    obtain ⟨checkpoint, parsed⟩ := signable rfl
    cases built
    cases other with
    | ed25519 => exact different rfl
    | ed25519CosignatureV1 =>
      exact log_ne_cosignature parsed _ (Except.ok.inj otherBuilt).symm
    | mlDsa44SubtreeV1 =>
      obtain ⟨_, _, _, _, _, _, same⟩ := subtree_eq_ok otherBuilt
      exact log_ne_subtree parsed _ same
  | ed25519CosignatureV1 =>
    cases built
    cases other with
    | ed25519 =>
      obtain ⟨checkpoint, parsed⟩ := otherSignable rfl
      exact log_ne_cosignature parsed _ (Except.ok.inj otherBuilt)
    | ed25519CosignatureV1 => exact different rfl
    | mlDsa44SubtreeV1 =>
      obtain ⟨_, _, _, _, _, _, same⟩ := subtree_eq_ok otherBuilt
      exact cosignature_ne_subtree _ _ same
  | mlDsa44SubtreeV1 =>
    obtain ⟨_, _, _, _, _, _, rfl⟩ := subtree_eq_ok built
    cases other with
    | ed25519 =>
      obtain ⟨checkpoint, parsed⟩ := otherSignable rfl
      exact log_ne_subtree parsed _ (Except.ok.inj otherBuilt)
    | ed25519CosignatureV1 => exact cosignature_ne_subtree _ _ (Except.ok.inj otherBuilt)
    | mlDsa44SubtreeV1 => exact different rfl

def SameSecond (timestamp otherTime : Instant) : Prop :=
  timestamp.nanoseconds.tdiv 1000000000 = otherTime.nanoseconds.tdiv 1000000000

theorem sameSecond {seconds otherSeconds : Int64}
    (read : timestamp.intoUnixSeconds (ε := NoteError) = .ok seconds)
    (otherRead : otherTime.intoUnixSeconds (ε := NoteError) = .ok otherSeconds)
    (same : seconds.toUInt64 = otherSeconds.toUInt64) : SameSecond timestamp otherTime := by
  rw [Instant.intoUnixSeconds, Instant.toI64] at read otherRead
  split at read
  · split at otherRead
    · next bounds otherBounds =>
      cases read
      cases otherRead
      have numbers := congrArg (fun number => (Int64.ofUInt64 number).toInt) same
      rwa [Int64.toInt_ofInt_of_le (by omega) (by omega),
        Int64.toInt_ofInt_of_le (by omega) (by omega)] at numbers
    · cases otherRead
  · cases read

/-- What is signed can be read in one way only, within a type and, for texts that are checkpoints,
across the types. -/
theorem messages_unambiguous :
    (∀ text timestamp name otherText otherTime otherName message,
      SignatureType.ed25519CosignatureV1.messageAt text timestamp name = .ok message →
      SignatureType.ed25519CosignatureV1.messageAt otherText otherTime otherName = .ok message →
      SameSecond timestamp otherTime ∧ text = otherText) ∧
    (∀ text timestamp name otherText otherTime otherName message,
      SignatureType.mlDsa44SubtreeV1.messageAt text timestamp name = .ok message →
      SignatureType.mlDsa44SubtreeV1.messageAt otherText otherTime otherName = .ok message →
      name = otherName ∧ SameSecond timestamp otherTime ∧ SameCheckpoint text otherText) ∧
    (∀ text timestamp name otherText otherTime otherName message,
      SignatureType.ed25519.messageAt text timestamp name = .ok message →
      SignatureType.ed25519.messageAt otherText otherTime otherName = .ok message →
      text = otherText) ∧
    ∀ kind other text timestamp name otherText otherTime otherName message, kind ≠ other →
      Signable kind text → Signable other otherText →
      kind.messageAt text timestamp name = .ok message →
      other.messageAt otherText otherTime otherName ≠ .ok message := by
  refine ⟨?_, ?_, ?_, ?_⟩
  · intro text timestamp name otherText otherTime otherName message built otherBuilt
    obtain ⟨seconds, read, isMessage⟩ := messageAt_eq_ok built
    obtain ⟨otherSeconds, otherRead, isOther⟩ := messageAt_eq_ok otherBuilt
    cases isMessage
    obtain ⟨sameSeconds, sameText⟩ := cosignature_inj (Except.ok.inj isOther)
    exact ⟨sameSecond (read nofun) (otherRead nofun) (UInt64.toNat_inj.mp sameSeconds.symm),
      sameText.symm⟩
  · intro text timestamp name otherText otherTime otherName message built otherBuilt
    obtain ⟨seconds, read, isMessage⟩ := messageAt_eq_ok built
    obtain ⟨otherSeconds, otherRead, isOther⟩ := messageAt_eq_ok otherBuilt
    obtain ⟨sameName, sameSeconds, same⟩ := subtree_inj isMessage isOther
    exact ⟨sameName, sameSecond (read nofun) (otherRead nofun) sameSeconds, same⟩
  · intro text timestamp name otherText otherTime otherName message built otherBuilt
    cases built
    exact utf8_inj (Except.ok.inj otherBuilt).symm
  · intro kind other text timestamp name otherText otherTime otherName message different signable
      otherSignable built otherBuilt
    obtain ⟨seconds, -, isMessage⟩ := messageAt_eq_ok built
    obtain ⟨otherSeconds, -, isOther⟩ := messageAt_eq_ok otherBuilt
    exact message_ne different signable otherSignable isMessage isOther

/-- A text for the log can look like a cosignature, and the parts of a second are not signed. -/
theorem messages_collide :
    SignatureType.ed25519.messageAt "cosignature/v1\ntime 1\n".toList ⟨0⟩ [] =
      SignatureType.ed25519CosignatureV1.messageAt [] ⟨1000000000⟩ [] ∧
    SignatureType.ed25519CosignatureV1.messageAt [] ⟨1000000000⟩ [] =
      SignatureType.ed25519CosignatureV1.messageAt [] ⟨1500000000⟩ [] :=
  ⟨by rfl, by rfl⟩

end Oak.C2sp
