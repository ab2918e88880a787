import Oak.Tr.Endorscope

namespace Oak.Tr

open Oak.Data Oak.Data.Outcome

/-! The `list` command (`tr/endorscope_cli/list.rs`). -/

variable {Certificate : Type} (crates : EndorsementCrates Certificate)

inductive Line where
  | foundEndorsements (count : Nat) (keyHash : Text)
  | foundKeys (count : Nat) (keysetHash : Text)
  | key (keyHash : Text)
  | loadingFailed (endorsementHash : Text) (reason : LoadError)
  /-- Only the hash is printed.  The package and the statement are those it is printed for. -/
  | verified (endorsementHash : Text) (package : Package) (statement : Statement)
  | refused (endorsementHash : Text) (reason : Anyhow)
  | detail (text : String)

structure Printed (α : Type) where
  lines : List Line
  outcome : Outcome Empty α

namespace Printed

variable {α β ε : Type}

instance : Monad Printed where
  pure value := ⟨[], .ok value⟩
  bind first next :=
    match first.outcome with
    | .ok value => ⟨first.lines ++ (next value).lines, (next value).outcome⟩
    | .error fault => ⟨first.lines, .error fault⟩

def println (line : Line) : Printed Unit := ⟨[line], .ok ()⟩

def silent (outcome : Outcome Empty α) : Printed α := ⟨[], outcome⟩

def panic (message : String) : Printed α := silent (.panic message)

/-- `Result::expect`; `unwrap` is the same with another text. -/
def expect (message : String) : Outcome ε α → Printed α
  | .ok value => silent (.ok value)
  | .error (.error _) => panic message
  | .error (.panic text) => panic text

def onlyIf (condition : Bool) (printed : Printed Unit) : Printed Unit :=
  if condition then printed else pure ()

end Printed

/-- `into_timestamp`, which leaves no negative nanoseconds. -/
def Instant.intoTimestamp {ε : Type} (instant : Instant) : Outcome ε ProtoTime := do
  let seconds ← Instant.toI64 (instant.nanoseconds.tdiv 1000000000) "failed to convert i128 to i64"
  let nanos := Int32.ofInt (instant.nanoseconds.tmod 1000000000)
  return if nanos < 0 then ⟨seconds - 1, nanos + 1000000000⟩ else ⟨seconds, nanos⟩

structure EndorsementDetails where
  subjectDigest : RawDigest
  notBefore : ProtoTime
  notAfter : ProtoTime
  claimTypes : List Text

def Statement.getDetails (statement : Statement) : Outcome Anyhow EndorsementDetails := do
  let hexDigest ← returned (getHexDigestFromStatement statement)
  let subjectDigest ← returned (hexToRawDigest hexDigest)
  let validity ← returned
    (Anyhow.present "missing validity in statement" statement.validity)
  let notBefore ← validity.notBefore.intoTimestamp
  let notAfter ← validity.notAfter.intoTimestamp
  return { subjectDigest, notBefore, notAfter, claimTypes := statement.claims }

def mpmVersionClaimType : Text :=
  "https://github.com/project-oak/oak/blob/main/docs/tr/claim/31545.md".toList

def claimBase : String := "https://github.com/project-oak/oak/blob/main/docs/tr/claim/"

def prettifyClaim (claim : Text) : String :=
  let known := [("31543.md", "Distributed as MPM"), ("31544.md", "File in an MPM"),
    ("42362.md", "Configuration"), ("92939.md", "Open Source"), ("68317.md", "Runnable Binary"),
    ("52637.md", "Published Binary"), ("39284.md", "Approved for Private AI Compute")]
  match known.find? fun entry => (claimBase ++ entry.1).toList = claim with
  | some entry => String.ofList claim ++ " (" ++ entry.2 ++ ")"
  | none => String.ofList claim

section Details

-- Code outside the repository: `MpmAttachment::decode`, of which the version is printed.
variable (mpmAttachment : Bytes → Except String Text)

def printClaim (claim : Text) : Printed Unit :=
  if mpmVersionClaimType.isPrefixOf claim then
    match claim.drop mpmVersionClaimType.length with
    | '?' :: mpmVersionId => .println (.detail ("        🛠  " ++ String.ofList mpmVersionId))
    | _ => .panic "called `Option::unwrap()` on a `None` value"
  else .println (.detail ("        🛄  " ++ prettifyClaim claim))

def printInstant (label : String) (instant : Instant) : Printed Unit := do
  let text ← Printed.silent (instant.display crates.calendar)
  .println (.detail (label ++ text))

def printMpmVersion (subject : Bytes) : Printed Unit := do
  let version ← Printed.expect "called `Result::unwrap()` on an `Err` value"
    (returned (mpmAttachment subject))
  .println (.detail ("        🍀  MPM version ID: " ++ String.ofList version))

def printDetails (package : Package) (statement : Statement) : Printed Unit := do
  let details ← Printed.expect "failed to get endorsement details" statement.getDetails
  .println (.detail ("        Subject:     sha2-256:" ++
    String.ofList (Hex.encode (details.subjectDigest .sha2_256))))
  printInstant crates "        Not before:  " details.notBefore.toInstant
  printInstant crates "        Not after:   " details.notAfter.toInstant
  Printed.onlyIf (details.claimTypes.any (· = mpmClaimType))
    (printMpmVersion mpmAttachment (package.subject.getD []))
  details.claimTypes.forM printClaim

def verifyPrintPackage (currentTime : Instant) (claimTypes : List Text) (package : Package)
    (endorsementHash : Text) : Printed Unit := do
  let nowUtcMillis ← Printed.silent currentTime.intoUnixMillis
  let refValue ← Printed.silent (package.getReferenceValue crates claimTypes)
  let result ← Printed.silent (caught ((verifyEndorsement crates nowUtcMillis
    package.getSignedEndorsement refValue).mapErr ("verifying endorsement" :: ·)))
  match result with
  | .ok statement =>
    .println (.verified endorsementHash package statement)
    printDetails crates mpmAttachment package statement
  | .error reason => .println (.refused endorsementHash reason)

end Details

structure ListMode where
  subjectHash : Option Text
  endorserKeyHash : Option Text
  endorserKeysetHash : Option Text
  claim : List Text

structure ListArgs where
  mode : ListMode
  skipTlogVerification : Bool
  rekorPublicKey : Text
  c2spPolicy : Text
  limit : Nat

def stringToOptionString (text : Text) : Option Text := if text = [] then none else some text

inductive Call where
  | subject
  | key
  | keyset
  | keyOfKeyset (position : Nat)
  | claim (position : Nat)
  | load (position : Nat)

/-- What the remote side answers in one run.  Its answers are anything, so that they may as well be
numbered anew for every call. -/
abbrev Session := Call → Remote

section Command

variable (storage : CaStorage) (session : Session)

def intersect (current : Option (List Text)) (hashes : List Text) : Option (List Text) :=
  match current with
  | some kept => some (kept.filter (· ∈ hashes))
  | none => some hashes

def listKeysByKeyset (keysetHash : Text) : Printed (List Text) := do
  let keys ← Printed.expect "❌  Failed to list endorser keys"
    (returned ((storage.listKeysByKeyset keysetHash).result (session .keyset)))
  .println (.foundKeys keys.length keysetHash)
  keys.forM fun key => .println (.key key)
  return keys

/-- Keys whose list cannot be read are passed over, and no hash is taken twice. -/
def collectByKeys : Nat → List Text → List Text → Printed (List Text)
  | _, collected, [] => pure collected
  | position, collected, key :: rest =>
    match (storage.listEndorsementsByKey key).result (session (.keyOfKeyset position)) with
    | .error _ => collectByKeys (position + 1) collected rest
    | .ok hashes => do
      .println (.foundEndorsements hashes.length key)
      collectByKeys (position + 1)
        (hashes.foldl (fun kept hash => if hash ∈ kept then kept else kept ++ [hash]) collected) rest

def listEndorsementsByKeyset (keysetHash : Text) : Printed (List Text) := do
  let keys ← listKeysByKeyset storage session keysetHash
  collectByKeys storage session 0 [] keys

def intersectClaims : Nat → Option (List Text) → List Text → Printed (Option (List Text))
  | _, current, [] => pure current
  | position, current, claim :: rest => do
    let hashes ← Printed.expect "listing endorsements by claim" (returned
      ((storage.listEndorsementsByClaim crates claim).result (session (.claim position))))
    intersectClaims (position + 1) (intersect current hashes) rest

def intersectSubject (current : Option (List Text)) : Option Text → Printed (Option (List Text))
  | none => pure current
  | some hash => do
    let hashes ← Printed.expect "listing endorsements by subject" (returned
      ((storage.listEndorsementsBySubject hash).result (session .subject)))
    return intersect current hashes

def intersectKey (current : Option (List Text)) : Option Text → Printed (Option (List Text))
  | none => pure current
  | some hash => do
    let hashes ← Printed.expect "listing endorsements by key" (returned
      ((storage.listEndorsementsByKey hash).result (session .key)))
    .println (.foundEndorsements hashes.length hash)
    return intersect current hashes

def intersectKeyset (current : Option (List Text)) : Option Text → Printed (Option (List Text))
  | none => pure current
  | some hash => do
    let hashes ← listEndorsementsByKeyset storage session hash
    return intersect current hashes

def ListMode.isEmpty (mode : ListMode) : Bool :=
  mode.subjectHash.isNone && mode.endorserKeyHash.isNone && mode.endorserKeysetHash.isNone &&
    mode.claim.isEmpty

def selectHashes (mode : ListMode) : Printed (List Text) := do
  Printed.onlyIf mode.isEmpty (.panic "At least one list mode must be specified")
  let current ← intersectSubject storage session none mode.subjectHash
  let current ← intersectKey storage session current mode.endorserKeyHash
  let current ← intersectKeyset storage session current mode.endorserKeysetHash
  let current ← intersectClaims crates storage session 0 current mode.claim
  return current.getD []

variable (mpmAttachment : Bytes → Except String Text)

def listEndorsement (currentTime : Instant) (claimTypes : List Text)
    (rekorPublicKey c2spPolicy : Option Text) (position : Nat) (endorsementHash : Text) :
    Printed Unit :=
  match (storage.load crates endorsementHash rekorPublicKey c2spPolicy).result
      (session (.load position)) with
  | .ok package => verifyPrintPackage crates mpmAttachment currentTime claimTypes package endorsementHash
  | .error reason => .println (.loadingFailed endorsementHash { reason with
      chain := ("loading endorsement " ++ String.ofList endorsementHash) :: reason.chain })

/-- The hashes come with the most recent one first. -/
def listEndorsementHashes (currentTime : Instant) (claimTypes : List Text)
    (rekorPublicKey c2spPolicy : Option Text) (limit : Nat) : Nat → List Text → Printed Unit
  | _, [] => pure ()
  | position, hash :: rest => do
    listEndorsement crates storage session mpmAttachment currentTime claimTypes rekorPublicKey
      c2spPolicy position hash
    if 0 < limit ∧ limit - 1 ≤ position then pure ()
    else
      listEndorsementHashes currentTime claimTypes rekorPublicKey c2spPolicy limit (position + 1)
        rest

def ListArgs.tlogKeys (args : ListArgs) : Option Text × Option Text :=
  if args.skipTlogVerification then (none, none)
  else (stringToOptionString args.rekorPublicKey, stringToOptionString args.c2spPolicy)

def list (currentTime : Instant) (claimTypes : List Text) (args : ListArgs) : Printed Unit := do
  let finalHashes ← selectHashes crates storage session args.mode
  listEndorsementHashes crates storage session mpmAttachment currentTime claimTypes args.tlogKeys.1
    args.tlogKeys.2 args.limit 0 finalHashes.reverse

end Command

end Oak.Tr
