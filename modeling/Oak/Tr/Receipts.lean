import Oak.Data.Framing
import Oak.Tr.Pes
import Oak.Tr.Rekor

namespace Oak.Tr

open Oak.Data Oak.Data.Anyhow Oak.Data.Text

/-! What a log signs can be read in one way only: the canonical JSON of a Rekor entry, and the
pre-authentication encoding of a confirmation. -/

structure SameEntry (first second : LogEntry) : Prop where
  body : first.body = second.body
  integratedTime : first.integratedTime = second.integratedTime
  logId : first.logId = second.logId
  logIndex : first.logIndex = second.logIndex

/-- Two texts and two numbers can be read back from between fixed texts if each of these starts with
a character that the field in front of it does not hold. -/
theorem fields_inj {opening afterBody afterTime afterId closing : Text}
    (quoted : ∃ rest, afterBody = '"' :: rest) (numbered : ∃ rest, afterTime = ',' :: rest)
    (quotedId : ∃ rest, afterId = '"' :: rest) (closed : ∃ rest, closing = '\x7d' :: rest)
    {body logId otherBody otherId : Text} {time index otherTime otherIndex : Nat}
    (cleanBody : '"' ∉ body) (cleanId : '"' ∉ logId) (cleanOther : '"' ∉ otherBody)
    (cleanOtherId : '"' ∉ otherId)
    (same : opening ++ body ++ afterBody ++ decimal time ++ afterTime ++ logId ++ afterId
        ++ decimal index ++ closing =
      opening ++ otherBody ++ afterBody ++ decimal otherTime ++ afterTime ++ otherId ++ afterId
        ++ decimal otherIndex ++ closing) :
    body = otherBody ∧ time = otherTime ∧ logId = otherId ∧ index = otherIndex := by
  obtain ⟨afterBody, rfl⟩ := quoted
  obtain ⟨afterTime, rfl⟩ := numbered
  obtain ⟨afterId, rfl⟩ := quotedId
  obtain ⟨closing, rfl⟩ := closed
  simp only [List.append_assoc] at same
  obtain ⟨sameBody, fromTime⟩ :=
    Framing.append_cons_inj cleanBody cleanOther (List.append_cancel_left same)
  obtain ⟨sameTime, fromId⟩ := Framing.append_cons_inj (notMem_decimal (by decide) _)
    (notMem_decimal (by decide) _) (List.append_cancel_left fromTime)
  obtain ⟨sameId, fromIndex⟩ :=
    Framing.append_cons_inj cleanId cleanOtherId (List.append_cancel_left fromId)
  obtain ⟨sameIndex, -⟩ := Framing.append_cons_inj (notMem_decimal (by decide) _)
    (notMem_decimal (by decide) _) (List.append_cancel_left fromIndex)
  exact ⟨sameBody, decimal_injective sameTime, sameId, decimal_injective sameIndex⟩

variable {logEntry first second : LogEntry}

theorem createCanonicalJson_eq_ok {json : Bytes} : createCanonicalJson logEntry = .ok json ↔
      '"' ∉ logEntry.body ∧ '"' ∉ logEntry.logId ∧ C2sp.utf8 (canonicalText logEntry) = json := by
  simp only [createCanonicalJson, unit_bind_eq_ok, ensure_eq_ok, pure, Except.pure,
    Except.ok.injEq]

theorem createCanonicalJson_inj {json : Bytes} (created : createCanonicalJson first = .ok json)
    (again : createCanonicalJson second = .ok json) : SameEntry first second := by
  obtain ⟨cleanBody, cleanId, text⟩ := createCanonicalJson_eq_ok.mp created
  obtain ⟨otherBody, otherId, other⟩ := createCanonicalJson_eq_ok.mp again
  have same := C2sp.utf8_inj (text.trans other.symm)
  obtain ⟨body, time, logId, index⟩ := fields_inj
    ⟨",\"integratedTime\":".toList, by decide⟩ ⟨"\"logID\":\"".toList, by decide⟩
    ⟨",\"logIndex\":".toList, by decide⟩ ⟨[], by decide⟩ cleanBody cleanId otherBody otherId same
  exact ⟨body, UInt64.toNat_inj.mp time, logId, UInt64.toNat_inj.mp index⟩

theorem parseRekorSignature_eq_ok {signature : Bytes} :
    parseRekorSignature logEntry = .ok signature ↔
      ∃ text, logEntry.signedEntryTimestamp = some text ∧ Base64.decode text = some signature := by
  simp [parseRekorSignature]

theorem signedEntryTimestamp_of_signature {signature : Bytes}
    (parsed : parseRekorSignature first = .ok signature)
    (again : parseRekorSignature second = .ok signature) :
    first.signedEntryTimestamp = second.signedEntryTimestamp := by
  obtain ⟨text, found, decoded⟩ := parseRekorSignature_eq_ok.mp parsed
  obtain ⟨other, foundOther, decodedOther⟩ := parseRekorSignature_eq_ok.mp again
  rw [found, foundOther, ← Base64.encode_of_decode decoded, ← Base64.encode_of_decode decodedOther]

namespace Pes

def lengthDigits (number : Nat) : Bytes := C2sp.utf8 (decimal number)

theorem lengthDigits_injective : Function.Injective lengthDigits := by
  intro first second same
  exact decimal_injective (C2sp.utf8_inj same)

theorem space_notMem_lengthDigits (number : Nat) : 0x20 ∉ lengthDigits number := by
  have digits : ∀ digit < 10, 0x20 ∉ String.utf8EncodeChar (Nat.digitChar digit) := by decide
  intro member
  rw [lengthDigits, C2sp.utf8_eq] at member
  obtain ⟨char, inside, encoded⟩ := List.mem_flatMap.mp member
  obtain ⟨digit, small, rfl⟩ := exists_digitChar_of_mem_digitsOf inside
  exact digits digit small encoded

theorem encodePart_append_inj {first second later rest : Bytes}
    (same : encodePart first ++ later = encodePart second ++ rest) : first = second ∧ later = rest :=
  Framing.lengthPrefixed_append_inj space_notMem_lengthDigits lengthDigits_injective
    (List.tail_eq_of_cons_eq same)

theorem calculate_inj {endorsement otherEndorsement material otherMaterial signature otherSignature :
      Bytes} {entryId otherId : Text} (same : calculate endorsement material signature entryId =
      calculate otherEndorsement otherMaterial otherSignature otherId) :
    endorsement = otherEndorsement ∧ material = otherMaterial ∧ signature = otherSignature ∧
      entryId = otherId := by
  simp only [calculate, List.append_assoc] at same
  obtain ⟨sameEndorsement, fromMaterial⟩ := encodePart_append_inj (List.append_cancel_left same)
  obtain ⟨sameMaterial, fromSignature⟩ := encodePart_append_inj fromMaterial
  obtain ⟨sameSignature, fromId⟩ := encodePart_append_inj fromSignature
  rw [← List.append_nil (encodePart (C2sp.utf8 entryId)),
    ← List.append_nil (encodePart (C2sp.utf8 otherId))] at fromId
  obtain ⟨sameId, -⟩ := encodePart_append_inj fromId
  exact ⟨sameEndorsement, sameMaterial, sameSignature, C2sp.utf8_inj sameId⟩

/-- What the service signs of a confirmation.  Of the material of the endorser it signs the bytes, not
whether they are a certificate or a key. -/
def PublicEndorsement.signedParts (publicEndorsement : PublicEndorsement) :
    Option Bytes × Option (Bytes × Option (Anyhow.Result Bytes)) × Option Text :=
  (publicEndorsement.statement,
    publicEndorsement.statementSignature.map fun signature =>
      (signature.signature, signature.verificationMaterial.map extractRawVmBytes),
    publicEndorsement.tlogReceipt)

/-- The first signature of the service, which is the one that is verified. -/
def PublicEndorsement.pesSignature (publicEndorsement : PublicEndorsement) : Option Bytes :=
  publicEndorsement.endorsementSignatures.head?.map fun signature => signature.signature

end Pes

def SignedUnder (keys : KeyCrates) (sha2 : Sha2) (key : VerifyingKey) (signature message : Bytes) :
    Prop :=
  verifySignatureEcdsa keys signature message key.raw = .ok () ∨
    verifySignatureRsa keys sha2 signature message key.raw = .ok ()

/-- No signature is one over two messages, under keys of the set. -/
def BindsMessages (keys : KeyCrates) (sha2 : Sha2) (keySet : VerifyingKeySet) : Prop :=
  ∀ first ∈ keySet.keys, ∀ second ∈ keySet.keys, ∀ signature message other : Bytes,
    SignedUnder keys sha2 first signature message → SignedUnder keys sha2 second signature other →
      message = other

theorem verifyRekorSignature_eq_ok {keys : KeyCrates} {key : Bytes} :
    verifyRekorSignature keys logEntry key = .ok () ↔
      ∃ json signature, createCanonicalJson logEntry = .ok json ∧
        parseRekorSignature logEntry = .ok signature ∧
          verifySignatureEcdsa keys signature json key = .ok () := by
  simp [verifyRekorSignature]

theorem eq_of_signedByRekor {keys : KeyCrates} {sha2 : Sha2} {keySet : VerifyingKeySet}
    (binds : BindsMessages keys sha2 keySet) (signed : SignedByRekor keys keySet first)
    (again : SignedByRekor keys keySet second)
    (same : parseRekorSignature first = parseRekorSignature second) : first = second := by
  obtain ⟨key, member, verified⟩ := signed
  obtain ⟨json, signature, created, parsed, valid⟩ := verifyRekorSignature_eq_ok.mp verified
  obtain ⟨other, otherMember, verifiedOther⟩ := again
  obtain ⟨otherJson, otherSignature, createdOther, parsedOther, validOther⟩ :=
    verifyRekorSignature_eq_ok.mp verifiedOther
  rw [parsed, parsedOther, Except.ok.injEq] at same
  subst same
  have sameJson := binds key member other otherMember signature json otherJson (.inl valid)
    (.inl validOther)
  subst sameJson
  obtain ⟨body, time, logId, index⟩ := createCanonicalJson_inj created createdOther
  have timestamp := signedEntryTimestamp_of_signature parsed parsedOther
  cases first
  cases second
  cases body
  cases time
  cases logId
  cases index
  cases timestamp
  rfl

namespace Pes

variable {Certificate : Type} {crates : Crates Certificate} {keySet : VerifyingKeySet}

theorem signedUnder_of_verifyPesSignature {key signature pae : Bytes}
    (verified : verifyPesSignature crates keySet key signature pae = .ok ()) :
    ∃ trusted ∈ keySet.keys, SignedUnder crates.keys crates.sha2 trusted signature pae := by
  obtain ⟨trusted, present, checked⟩ := bind_eq_ok.mp verified
  have found := present_eq_ok.mp present
  have sameKey : trusted.raw = key := by simpa using List.find?_some found
  refine ⟨trusted, List.mem_of_find?_eq_some found, ?_⟩
  cases kind : trusted.keyType with
  | undefined => simp [kind] at checked
  | ecdsaP256Sha256 =>
    simp only [kind, context_eq_ok] at checked
    exact .inl (sameKey ▸ checked)
  | rsaSha2256 =>
    simp only [kind, context_eq_ok] at checked
    exact .inr (sameKey ▸ checked)

variable {publicEndorsement : PublicEndorsement}

theorem HasParts.signedParts {parts : Parts}
    {rawMaterial : Bytes} (has : HasParts publicEndorsement parts)
    (raw : extractRawVmBytes parts.endorserMaterial = .ok rawMaterial) :
    publicEndorsement.signedParts = (some parts.endorsement,
      some (parts.endorserSignature, some (.ok rawMaterial)), some parts.entryId) := by
  rw [PublicEndorsement.signedParts, has.statement, has.statementSignature, has.tlogReceipt]
  simp [raw]

theorem HasParts.pesSignature {parts : Parts} (has : HasParts publicEndorsement parts) :
    publicEndorsement.pesSignature = some parts.pesSignature := by
  rw [PublicEndorsement.pesSignature, has.endorsementSignature, Option.map_some]

theorem signedParts_eq_of_confirmed (binds : BindsMessages crates.keys crates.sha2 keySet)
    {confirmation other expected otherExpected : Bytes} {endorser otherEndorser : VerifyingKey}
    {first second : PublicEndorsement}
    (confirmed : Confirmed crates confirmation keySet expected endorser)
    (again : Confirmed crates other keySet otherExpected otherEndorser)
    (parsed : parsePesConfirmation crates confirmation = .ok first)
    (parsedOther : parsePesConfirmation crates other = .ok second)
    (same : first.pesSignature = second.pesSignature) : first.signedParts = second.signedParts := by
  obtain ⟨_, parts, raw, _, _, parsedFirst, has, extracted, -, -, -, verified, -⟩ := confirmed.parts
  obtain ⟨_, others, rawOther, _, _, parsedSecond, hasOther, extractedOther, -, -, -, verifiedOther,
    -⟩ := again.parts
  cases Except.ok.inj (parsed.symm.trans parsedFirst)
  cases Except.ok.inj (parsedOther.symm.trans parsedSecond)
  rw [has.pesSignature, hasOther.pesSignature, Option.some.injEq] at same
  obtain ⟨trusted, member, signed⟩ := signedUnder_of_verifyPesSignature verified
  obtain ⟨trustedOther, memberOther, signedOther⟩ := signedUnder_of_verifyPesSignature verifiedOther
  rw [← same] at signedOther
  obtain ⟨endorsement, material, signature, entryId⟩ :=
    calculate_inj (binds _ member _ memberOther _ _ _ signed signedOther)
  rw [has.signedParts extracted, hasOther.signedParts extractedOther, endorsement, material, signature,
    entryId]

end Pes

/-- The canonical JSON and the pre-authentication encoding determine what they are made of.  So a
signature of a log is over one receipt, as far as the log signs it: all of a Rekor entry, and of a
confirmation all but which kind of material goes with the signatures.  An accepted receipt is for the
hash of the artifact. -/
theorem receipts_unambiguous {Certificate : Type} (rekor : RekorCrates)
    (pes : Pes.Crates Certificate) (keySet : VerifyingKeySet) :
    (∀ first second json, createCanonicalJson first = .ok json → createCanonicalJson second = .ok json →
      SameEntry first second) ∧
    (∀ (endorsement otherEndorsement material otherMaterial signature otherSignature : Bytes)
        (entryId otherId : Text), Pes.calculate endorsement material signature entryId =
          Pes.calculate otherEndorsement otherMaterial otherSignature otherId →
        endorsement = otherEndorsement ∧ material = otherMaterial ∧ signature = otherSignature ∧
          entryId = otherId) ∧ (BindsMessages rekor.keys rekor.sha2 keySet →
      ∀ serialized other artifact otherArtifact now later first second,
        verifyRekorLogEntry rekor serialized keySet artifact now = .ok first →
        verifyRekorLogEntry rekor other keySet otherArtifact later = .ok second →
        parseRekorSignature first = parseRekorSignature second → first = second) ∧
    (BindsMessages pes.keys pes.sha2 keySet →
      ∀ confirmation other expected otherExpected endorser otherEndorser first second,
        Pes.verifyPesConfirmation pes confirmation keySet expected endorser = .ok () →
        Pes.verifyPesConfirmation pes other keySet otherExpected otherEndorser = .ok () →
        Pes.parsePesConfirmation pes confirmation = .ok first →
        Pes.parsePesConfirmation pes other = .ok second →
        first.pesSignature = second.pesSignature → first.signedParts = second.signedParts) ∧
    (∀ serialized artifact now logEntry,
      verifyRekorLogEntry rekor serialized keySet artifact now = .ok logEntry →
      ∃ body, logEntry.parsedBody rekor.json = .ok body ∧ body.hashAlgorithm = "sha256".toList ∧
        body.hashValue = Hex.encode (rekor.sha2.sha256 artifact).toList) ∧
    (∀ confirmation expected endorser,
      Pes.verifyPesConfirmation pes confirmation keySet expected endorser = .ok () →
      ∃ publicEndorsement endorsement,
        Pes.parsePesConfirmation pes confirmation = .ok publicEndorsement ∧
          publicEndorsement.statement = some endorsement ∧
            pes.sha2.sha256 endorsement = pes.sha2.sha256 expected) := by
  refine ⟨?_, ?_, ?_, ?_, ?_, ?_⟩
  · intro first second json created again
    exact createCanonicalJson_inj created again
  · intro endorsement otherEndorsement material otherMaterial signature otherSignature entryId otherId
    exact Pes.calculate_inj
  · intro binds serialized other artifact otherArtifact now later first second verified again same
    exact eq_of_signedByRekor binds
      (((verifyRekorLogEntry_decides ..).ok_iff _).mp verified).signed
      (((verifyRekorLogEntry_decides ..).ok_iff _).mp again).signed same
  · intro binds confirmation other expected otherExpected endorser otherEndorser first second verified
      again parsed parsedOther same
    exact Pes.signedParts_eq_of_confirmed binds ((Pes.verifyPesConfirmation_eq_ok _).mp verified)
      ((Pes.verifyPesConfirmation_eq_ok _).mp again) parsed parsedOther same
  · intro serialized artifact now logEntry verified
    obtain ⟨body, parsed, bodyVerified⟩ := (((verifyRekorLogEntry_decides ..).ok_iff _).mp verified).body
    exact ⟨body, parsed, bodyVerified.algorithm, bodyVerified.hash.symm⟩
  · intro confirmation expected endorser verified
    obtain ⟨publicEndorsement, parts, _, _, _, parsed, has, -, -, -, -, -, digest⟩ :=
      ((Pes.verifyPesConfirmation_eq_ok _).mp verified).parts
    exact ⟨publicEndorsement, parts.endorsement, parsed, has.statement, digest⟩

namespace RelabelledKey

def keys : KeyCrates :=
  { documentFromPem := fun _ => .error "", documentFromDer := .ok, p256FromPublicKeyDer := .ok
    ecdsaSignatureFromDer := .ok
    p256Verify := fun _ contents signature =>
      if signature = contents then .ok () else .error "signature error"
    rsaFromPublicKeyDer := fun _ => .error "", rsaVerify := fun _ _ _ => .error "" }

def sha2 : Sha2 :=
  { sha256 := fun _ => Block.zero 32, sha384 := fun _ => Block.zero 48
    sha512 := fun _ => Block.zero 64 }

def json (material : Pes.MaterialJson) : Pes.PublicEndorsementJson :=
  { name := none, statement := some [], statementSignature := some ⟨[], some ⟨none, some [1]⟩⟩
    endorsementSignatures := some [⟨Pes.calculate [] [1] [] [], some material⟩]
    tlogReceipt := some (some []) }

def crates : Pes.Crates Unit :=
  { fromSlice := fun _ confirmation =>
      .ok (json (if confirmation = [] then ⟨some [3], none⟩ else ⟨none, some [2]⟩))
    certificateFromDer := fun _ => .ok (), spkiToDer := fun _ => .ok [2], keys := keys, sha2 := sha2 }

def endorser : VerifyingKey := ⟨1, 0, [1]⟩

def keySet : VerifyingKeySet := ⟨[⟨1, 0, [2]⟩], none⟩

theorem eq_of_signedUnder {key : VerifyingKey} {signature message : Bytes}
    (signed : SignedUnder keys sha2 key signature message) : signature = message := by
  cases signed with
  | inl ecdsa =>
    by_contra differs
    simp [verifySignatureEcdsa, keys, differs] at ecdsa
  | inr rsa => cases rsa

theorem bindsMessages : BindsMessages crates.keys crates.sha2 keySet := by
  intro first _ second _ signature message other signed again
  exact (eq_of_signedUnder signed).symm.trans (eq_of_signedUnder again)

end RelabelledKey

/-- Two confirmations with one signature, which come with the key of the service in different forms. -/
theorem relabelled_key_accepted :
    BindsMessages RelabelledKey.crates.keys RelabelledKey.crates.sha2 RelabelledKey.keySet ∧
      Pes.verifyPesConfirmation RelabelledKey.crates [] RelabelledKey.keySet [] RelabelledKey.endorser =
        .ok () ∧ Pes.verifyPesConfirmation RelabelledKey.crates [0] RelabelledKey.keySet []
        RelabelledKey.endorser = .ok () ∧
      ∃ first second, Pes.parsePesConfirmation RelabelledKey.crates [] = .ok first ∧
        Pes.parsePesConfirmation RelabelledKey.crates [0] = .ok second ∧
        first.pesSignature = second.pesSignature ∧
        first.endorsementSignatures ≠ second.endorsementSignatures := by
  refine ⟨RelabelledKey.bindsMessages, by decide +kernel, by decide +kernel, _, _, rfl, rfl, rfl, ?_⟩
  decide +kernel

theorem relabelled_key_same_parts : ∃ first second,
    Pes.parsePesConfirmation RelabelledKey.crates [] = .ok first ∧
      Pes.parsePesConfirmation RelabelledKey.crates [0] = .ok second ∧
      first.signedParts = second.signedParts := by
  let rekor : RekorCrates :=
    { json := { logEntries := fun _ => .error "", body := fun _ => .error "" }
      keys := RelabelledKey.keys, sha2 := RelabelledKey.sha2
      calendar := { render := fun _ _ => none } }
  refine ⟨_, _, rfl, rfl, ?_⟩
  exact (receipts_unambiguous rekor RelabelledKey.crates RelabelledKey.keySet).2.2.2.1
    RelabelledKey.bindsMessages [] [0] [] [] RelabelledKey.endorser RelabelledKey.endorser _ _
    (by decide +kernel) (by decide +kernel) rfl rfl rfl

end Oak.Tr
