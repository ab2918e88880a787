import Oak.C2sp.Checkpoint
import Oak.Tr.Keys

namespace Oak.Tr

open Oak.Data Oak.Data.Anyhow

/-! Rekor log entries and their verification (`tr/rekor`). -/

structure LogEntry where
  /-- Base64 of the JSON of the body. -/
  body : Text
  /-- Seconds since the epoch. -/
  integratedTime : UInt64
  logId : Text
  logIndex : UInt64
  /-- `verification.signedEntryTimestamp`. -/
  signedEntryTimestamp : Option Text
deriving DecidableEq

structure Body where
  kind : Text
  /-- `spec.data.hash.algorithm` -/
  hashAlgorithm : Text
  /-- `spec.data.hash.value` -/
  hashValue : Text
  /-- `spec.signature.content` -/
  signatureContent : Text
  /-- `spec.signature.publicKey.content` -/
  publicKeyContent : Text
deriving DecidableEq

/-- Code outside the repository: `serde_json` at the two types read here, with the texts of its
errors. -/
structure RekorJson where
  logEntries : Bytes → Except String (BTreeMap Text LogEntry)
  body : Bytes → Except String Body

structure RekorCrates where
  json : RekorJson
  keys : KeyCrates
  sha2 : Sha2
  calendar : Calendar

def verifyNotBeforeAbsolute (calendar : Calendar) (timestamp bound : Instant) :
    Outcome Anyhow Unit :=
  if timestamp < bound then do
    let shown ← timestamp.display calendar
    let shownBound ← bound.display calendar
    .err ["Timestamp is too early: timestamp = " ++ shown ++ ", must not be before = " ++ shownBound]
  else .ok ()

def verifyNotBeforeRelative (calendar : Calendar) (currentTime timestamp : Instant)
    (offset : ProtoTime) : Outcome Anyhow Unit :=
  if timestamp < currentTime.after offset then do
    let shown ← timestamp.display calendar
    let lower ← (currentTime.after offset).display calendar
    let upper ← currentTime.display calendar
    .err ["Timestamp is out of range: timestamp = " ++ shown ++ ", range [" ++ lower ++ ", " ++ upper
      ++ "]"]
  else .ok ()

def verifyTimestamp (calendar : Calendar) (currentTime timestamp : Instant)
    (referenceValue : TimestampReferenceValue) : Outcome Anyhow Unit := do
  Outcome.ifSome referenceValue.notBeforeAbsolute fun bound =>
    verifyNotBeforeAbsolute calendar timestamp bound.toInstant
  Outcome.ifSome referenceValue.notBeforeRelative fun offset =>
    verifyNotBeforeRelative calendar currentTime timestamp offset

def parseRekorLogEntry (json : RekorJson) (serializedLogEntry : Bytes) : Anyhow.Result LogEntry := do
  let parsed ← mapText ("couldn't parse log entry map: " ++ ·)
    (json.logEntries serializedLogEntry)
  present "unexpected empty map" parsed.values.head?

def canonicalText (logEntry : LogEntry) : Text :=
  "\x7b\"body\":\"".toList ++ logEntry.body ++ "\",\"integratedTime\":".toList
    ++ Text.decimal logEntry.integratedTime.toNat ++ ",\"logID\":\"".toList ++ logEntry.logId
    ++ "\",\"logIndex\":".toList ++ Text.decimal logEntry.logIndex.toNat ++ "\x7d".toList

def createCanonicalJson (logEntry : LogEntry) : Anyhow.Result Bytes := do
  ensure ('"' ∉ logEntry.body) "unexpected quotes in log entry body"
  ensure ('"' ∉ logEntry.logId) "unexpected quotes in log entry ID"
  return C2sp.utf8 (canonicalText logEntry)

def parseRekorSignature (logEntry : LogEntry) : Anyhow.Result Bytes := do
  let sigBase64 ← present "no verification field in the log entry"
    logEntry.signedEntryTimestamp
  present "failed to base64-decode Rekor signature" (Base64.decode sigBase64)

def verifyRekorSignature (keys : KeyCrates) (logEntry : LogEntry) (rekorPublicKey : Bytes) :
    Anyhow.Result Unit := do
  let json ← createCanonicalJson logEntry
  let signature ← parseRekorSignature logEntry
  context "verifying rekor signature"
    (verifySignatureEcdsa keys signature json rekorPublicKey)

def LogEntry.parsedBody (json : RekorJson) (logEntry : LogEntry) : Anyhow.Result Body := do
  let bodyBytes ← present "failed to decode log entry body" (Base64.decode logEntry.body)
  mapText ("couldn't parse log entry body: " ++ ·) (json.body bodyBytes)

def Body.publicKey (keys : KeyCrates) (body : Body) : Anyhow.Result Bytes := do
  let publicKeyPemVec ← present "failed to base64-decode public key"
    (Base64.decode body.publicKeyContent)
  let publicKeyPem ← present "failed to convert public key to string"
    (Text.ofUtf8 publicKeyPemVec)
  convertPemToRaw keys publicKeyPem

def LogEntry.getPublicKey (crates : RekorCrates) (logEntry : LogEntry) : Anyhow.Result Bytes := do
  let body ← logEntry.parsedBody crates.json
  body.publicKey crates.keys

/-- The text of the source also prints both keys. -/
def LogEntry.comparePublicKey (crates : RekorCrates) (logEntry : LogEntry) (publicKey : Bytes) :
    Anyhow.Result Unit := do
  let selfPublicKey ← logEntry.getPublicKey crates
  let equal ← equalKeys crates.keys selfPublicKey publicKey
  ensure (equal = true) "endorser public key mismatch"

def verifyRekorBody (crates : RekorCrates) (body : Body) (artifactBytes : Bytes) :
    Anyhow.Result Unit := do
  ensure (body.kind = "rekord".toList ∨ body.kind = "hashedrekord".toList)
    ("unsupported Rekor type: " ++ String.ofList body.kind)
  ensure (body.hashAlgorithm = "sha256".toList)
    ("unsupported hashing algorithm: " ++ String.ofList body.hashAlgorithm)
  -- the text of the source also prints both hashes
  ensure (Hex.encode (crates.sha2.sha256 artifactBytes).toList = body.hashValue)
    "hash of artifact does not match hash in Rekor log entry"
  let signature ← present "failed to base64-decode signature"
    (Base64.decode body.signatureContent)
  let publicKey ← body.publicKey crates.keys
  context "verifying endorsement signature"
    (verifySignatureEcdsa crates.keys signature artifactBytes publicKey)

/-- The integrated time as an instant: `i64::try_from` of a `usize`. -/
def LogEntry.integratedAt (logEntry : LogEntry) : Anyhow.Result Instant :=
  if logEntry.integratedTime.toNat < 2 ^ 63 then
    .ok (.fromUnixSeconds (Int64.ofNat logEntry.integratedTime.toNat))
  else bail "out of range integral type conversion attempted"

def verifySignedTimestamp (crates : RekorCrates) (logEntry : LogEntry) (nowUtcMillis : Int64)
    (signedTimestamp : TimestampReferenceValue) : Outcome Anyhow Unit := do
  let timestamp ← Outcome.returned logEntry.integratedAt
  (verifyTimestamp crates.calendar (.fromUnixMillis nowUtcMillis) timestamp signedTimestamp).mapErr
    ("verifying rekor integrate timestamp" :: ·)

def verifyRekorLogEntry (crates : RekorCrates) (serializedLogEntry : Bytes)
    (keySet : VerifyingKeySet) (artifactBytes : Bytes) (nowUtcMillis : Int64) :
    Outcome Anyhow LogEntry := do
  let logEntry ← Outcome.returned
    (context "parsing Rekor log entry" (parseRekorLogEntry crates.json serializedLogEntry))
  if keySet.keys.any fun key => (verifyRekorSignature crates.keys logEntry key.raw).isOk then do
    Outcome.ifSome keySet.signedTimestamp (verifySignedTimestamp crates logEntry nowUtcMillis)
    let body ← Outcome.returned (logEntry.parsedBody crates.json)
    Outcome.returned
      (context "verifying Rekor body" (verifyRekorBody crates body artifactBytes))
    return logEntry
  else .err ["could not verify rekor signature"]

/-- The timestamp is not before the bounds. -/
structure TimestampHolds (currentTime timestamp : Instant) (referenceValue : TimestampReferenceValue) :
    Prop where
  absolute : ∀ bound ∈ referenceValue.notBeforeAbsolute, bound.toInstant ≤ timestamp
  relative : ∀ offset ∈ referenceValue.notBeforeRelative, currentTime.after offset ≤ timestamp

/-- The timestamp is before a bound, and the calendar has no text for an instant that the error
message prints. -/
inductive TimestampUnprintable (calendar : Calendar) (currentTime timestamp : Instant)
    (referenceValue : TimestampReferenceValue) : Prop where
  | absolute (bound : ProtoTime) (set : bound ∈ referenceValue.notBeforeAbsolute)
      (early : timestamp < bound.toInstant)
      (unprintable : ¬ (timestamp.InCalendar calendar ∧ bound.toInstant.InCalendar calendar))
  | relative (passed : ∀ bound ∈ referenceValue.notBeforeAbsolute, bound.toInstant ≤ timestamp)
      (offset : ProtoTime) (set : offset ∈ referenceValue.notBeforeRelative)
      (early : timestamp < currentTime.after offset)
      (unprintable : ¬ (timestamp.InCalendar calendar ∧
        (currentTime.after offset).InCalendar calendar ∧ currentTime.InCalendar calendar))

theorem Instant.display_decides {calendar : Calendar} {instant : Instant} {ε β : Type}
    {next : String → Outcome ε β} {inCalendar : Prop}
    (after : ∀ text, Decides (next text) (fun _ => False) (¬ inCalendar)) :
    Decides (instant.display calendar >>= next) (fun _ => False)
      (¬ (instant.InCalendar calendar ∧ inCalendar)) := by
  rcases Instant.display_cases calendar instant with ⟨text, shown, inside⟩ | ⟨message, failed, outside⟩
  · rw [shown]
    exact (after text).congr (fun _ => Iff.rfl) (by simp [inside])
  · rw [failed]
    exact (Decides.panic message).congr (fun _ => Iff.rfl) (by simp [outside])

theorem notBefore_decides {timestamp bound : Instant} {refuse : Outcome Anyhow Unit} {printable : Prop}
    (refused : Decides refuse (fun _ => False) (¬ (printable ∧ True))) :
    Decides (if timestamp < bound then refuse else .ok ()) (fun _ => bound ≤ timestamp)
      (timestamp < bound ∧ ¬ printable) := by
  split
  · next early =>
      exact refused.congr (fun _ => by simp [← Instant.not_lt, early]) (by simp [early])
  · next late =>
      exact (Decides.ok ()).congr (fun _ => by simp [Instant.not_lt.mp late]) (by simp [late])

theorem verifyNotBeforeAbsolute_decides (calendar : Calendar) (timestamp bound : Instant) :
    Decides (verifyNotBeforeAbsolute calendar timestamp bound) (fun _ => bound ≤ timestamp)
      (timestamp < bound ∧ ¬ (timestamp.InCalendar calendar ∧ bound.InCalendar calendar)) := by
  apply notBefore_decides
  rw [and_assoc]
  exact Instant.display_decides fun _ => Instant.display_decides fun _ =>
    (Decides.err _).congr (fun _ => Iff.rfl) (by simp)

theorem verifyNotBeforeRelative_decides (calendar : Calendar) (currentTime timestamp : Instant)
    (offset : ProtoTime) :
    Decides (verifyNotBeforeRelative calendar currentTime timestamp offset)
      (fun _ => currentTime.after offset ≤ timestamp)
      (timestamp < currentTime.after offset ∧ ¬ (timestamp.InCalendar calendar ∧
        (currentTime.after offset).InCalendar calendar ∧ currentTime.InCalendar calendar)) := by
  apply notBefore_decides
  rw [and_assoc, and_assoc]
  exact Instant.display_decides fun _ => Instant.display_decides fun _ =>
    Instant.display_decides fun _ => (Decides.err _).congr (fun _ => Iff.rfl) (by simp)

theorem verifyTimestamp_decides (calendar : Calendar) (currentTime timestamp : Instant)
    (referenceValue : TimestampReferenceValue) :
    Decides (verifyTimestamp calendar currentTime timestamp referenceValue)
      (fun _ => TimestampHolds currentTime timestamp referenceValue)
      (TimestampUnprintable calendar currentTime timestamp referenceValue) := by
  have absolute : Decides (Outcome.ifSome referenceValue.notBeforeAbsolute fun bound =>
      verifyNotBeforeAbsolute calendar timestamp bound.toInstant) _ _ :=
    Decides.ifSome fun bound _ => verifyNotBeforeAbsolute_decides calendar timestamp bound.toInstant
  have relative : Decides (Outcome.ifSome referenceValue.notBeforeRelative fun offset =>
      verifyNotBeforeRelative calendar currentTime timestamp offset) _ _ :=
    Decides.ifSome fun offset _ => verifyNotBeforeRelative_decides calendar currentTime timestamp offset
  refine (absolute.andThen fun _ => relative).congr (fun _ => ?_) ?_
  · exact ⟨fun ⟨first, second⟩ => ⟨first, second⟩, fun ⟨first, second⟩ => ⟨first, second⟩⟩
  · constructor
    · rintro (⟨bound, set, early, unprintable⟩ | ⟨passed, offset, set, early, unprintable⟩)
      · exact .absolute bound set early unprintable
      · exact .relative passed offset set early unprintable
    · rintro (⟨bound, set, early, unprintable⟩ | ⟨passed, offset, set, early, unprintable⟩)
      · exact .inl ⟨bound, set, early, unprintable⟩
      · exact .inr ⟨passed, offset, set, early, unprintable⟩

/-- The embedded signature is one over the artifact, under the key in the body. -/
structure BodyVerified (crates : RekorCrates) (body : Body) (artifact : Bytes) : Prop where
  kind : body.kind = "rekord".toList ∨ body.kind = "hashedrekord".toList
  algorithm : body.hashAlgorithm = "sha256".toList
  hash : Hex.encode (crates.sha2.sha256 artifact).toList = body.hashValue
  signature : ∃ signature publicKey, Base64.decode body.signatureContent = some signature ∧
    body.publicKey crates.keys = .ok publicKey ∧
      verifySignatureEcdsa crates.keys signature artifact publicKey = .ok ()

theorem verifyRekorBody_eq_ok {crates : RekorCrates} {body : Body} {artifact : Bytes} :
    verifyRekorBody crates body artifact = .ok () ↔ BodyVerified crates body artifact := by
  simp only [verifyRekorBody, unit_bind_eq_ok, ensure_eq_ok]
  simp only [bind_eq_ok, present_eq_ok, context_eq_ok]
  constructor
  · rintro ⟨kind, algorithm, hash, signature, decoded, publicKey, key, verified⟩
    exact ⟨kind, algorithm, hash, signature, publicKey, decoded, key, verified⟩
  · rintro ⟨kind, algorithm, hash, signature, publicKey, decoded, key, verified⟩
    exact ⟨kind, algorithm, hash, signature, decoded, publicKey, key, verified⟩

/-- A key of the set verifies the signature of the log over the entry. -/
def SignedByRekor (keys : KeyCrates) (keySet : VerifyingKeySet) (logEntry : LogEntry) : Prop :=
  ∃ key ∈ keySet.keys, verifyRekorSignature keys logEntry key.raw = .ok ()

structure EntryVerified (crates : RekorCrates) (serialized : Bytes) (keySet : VerifyingKeySet)
    (artifact : Bytes) (now : Int64) (logEntry : LogEntry) : Prop where
  parsed : parseRekorLogEntry crates.json serialized = .ok logEntry
  signed : SignedByRekor crates.keys keySet logEntry
  timestamp : ∀ referenceValue ∈ keySet.signedTimestamp, ∃ timestamp,
    logEntry.integratedAt = .ok timestamp ∧
      TimestampHolds (.fromUnixMillis now) timestamp referenceValue
  body : ∃ body, logEntry.parsedBody crates.json = .ok body ∧ BodyVerified crates body artifact

/-- The entry misses a bound on its time, and the message about it cannot be printed. -/
structure EntryUnprintable (crates : RekorCrates) (serialized : Bytes) (keySet : VerifyingKeySet)
    (now : Int64) : Prop where
  reached : ∃ logEntry referenceValue timestamp,
    parseRekorLogEntry crates.json serialized = .ok logEntry ∧
      SignedByRekor crates.keys keySet logEntry ∧ keySet.signedTimestamp = some referenceValue ∧
        logEntry.integratedAt = .ok timestamp ∧
          TimestampUnprintable crates.calendar (.fromUnixMillis now) timestamp referenceValue

theorem verifySignedTimestamp_decides (crates : RekorCrates) (logEntry : LogEntry) (now : Int64)
    (referenceValue : TimestampReferenceValue) :
    Decides (verifySignedTimestamp crates logEntry now referenceValue)
      (fun _ => ∃ timestamp, logEntry.integratedAt = .ok timestamp ∧
        TimestampHolds (.fromUnixMillis now) timestamp referenceValue)
      (∃ timestamp, logEntry.integratedAt = .ok timestamp ∧
        TimestampUnprintable crates.calendar (.fromUnixMillis now) timestamp referenceValue) :=
  ((Decides.returned fun _ => Iff.rfl).bind fun timestamp _ =>
    (verifyTimestamp_decides crates.calendar (.fromUnixMillis now) timestamp referenceValue).mapErr).congr
    (fun _ => Iff.rfl) (by simp)

theorem any_verifyRekorSignature {keys : KeyCrates} {keySet : VerifyingKeySet} {logEntry : LogEntry} :
    (keySet.keys.any fun key => (verifyRekorSignature keys logEntry key.raw).isOk) = true ↔
      SignedByRekor keys keySet logEntry := by
  simp only [List.any_eq_true, isOk_iff]
  exact exists_congr fun key => and_congr_right fun _ => Unique.exists_iff

theorem verifyRekorLogEntry_decides (crates : RekorCrates) (serialized : Bytes)
    (keySet : VerifyingKeySet) (artifact : Bytes) (now : Int64) :
    Decides (verifyRekorLogEntry crates serialized keySet artifact now)
      (EntryVerified crates serialized keySet artifact now)
      (EntryUnprintable crates serialized keySet now) := by
  refine ((Decides.returned fun _ => context_eq_ok).bind fun logEntry _ =>
    Decides.ite fun _ => (Decides.ifSome fun referenceValue _ =>
      verifySignedTimestamp_decides crates logEntry now referenceValue).andThen fun _ =>
        (Decides.returned fun _ => Iff.rfl).bind fun body _ =>
          (Decides.returned fun _ => context_eq_ok.trans verifyRekorBody_eq_ok).andThen
            fun _ => Decides.ok logEntry).congr (fun found => ?_) ?_
  · constructor
    · rintro ⟨logEntry, parsed, signed, timestamp, body, parsedBody, verified, rfl⟩
      exact ⟨parsed, any_verifyRekorSignature.mp signed, timestamp, body, parsedBody, verified⟩
    · rintro ⟨parsed, signed, timestamp, body, parsedBody, verified⟩
      exact ⟨found, parsed, any_verifyRekorSignature.mpr signed, timestamp, body, parsedBody, verified,
        rfl⟩
  · constructor
    · rintro (⟨⟨⟩⟩ | ⟨logEntry, parsed, signed, ⟨referenceValue, set, timestamp, integrated, unprintable⟩ | rest⟩)
      · exact ⟨logEntry, referenceValue, timestamp, parsed, any_verifyRekorSignature.mp signed, set,
          integrated, unprintable⟩
      · simp at rest
    · rintro ⟨logEntry, referenceValue, timestamp, parsed, signed, set, integrated, unprintable⟩
      exact .inr ⟨logEntry, parsed, any_verifyRekorSignature.mpr signed,
        .inl ⟨referenceValue, set, timestamp, integrated, unprintable⟩⟩

end Oak.Tr
