import Oak.Data.Asking
import Oak.Data.Protobuf
import Oak.Tr.Endorsement

namespace Oak.Tr

open Oak.Data Oak.Data.Asking Oak.Data.Anyhow

/-! Endorsement packages, and loading them from remote storage (`tr/endorscope`).

The access token of a request and the reference value for the endorsement service are left out: the
remote side may answer anything, and the reference value is not looked at. -/

variable {Certificate : Type} (crates : EndorsementCrates Certificate)

structure Package where
  endorsement : Bytes
  signature : Bytes
  rekorLogEntry : Option Bytes
  c2spTlogProof : Option Bytes
  pesConfirmation : Option Bytes
  subject : Option Bytes
  endorserPublicKey : Text
  rekorPublicKey : Option Text
  c2spPolicy : Option Text
deriving DecidableEq

def createSignedEndorsement (serializedEndorsement signature : Bytes) (keyId : UInt32)
    (subject logEntry pesConfirmation : Bytes) : SignedEndorsement :=
  { SignedEndorsement.default with
    endorsement := some ⟨serializedEndorsement, subject⟩, signature := some ⟨keyId, signature⟩
    rekorLogEntry := logEntry, pesConfirmation }

def createVerifyingKeyFromPem (publicKeyPem : Text) (keyId : UInt32) : Outcome Empty VerifyingKey :=
  match convertPemToRaw crates.keys publicKeyPem with
  | .ok raw => .ok ⟨1, keyId, raw⟩
  | .error _ => .panic "failed to convert key"

namespace Package

def keyId : UInt32 := 1

/-- The proof of the C2SP log has no place in it yet. -/
def getSignedEndorsement (package : Package) : SignedEndorsement :=
  createSignedEndorsement package.endorsement package.signature keyId (package.subject.getD [])
    (package.rekorLogEntry.getD []) (package.pesConfirmation.getD [])

def getReferenceValue (package : Package) (claimTypes : List Text) :
    Outcome Empty EndorsementReferenceValue := do
  let endorserKey ← createVerifyingKeyFromPem crates package.endorserPublicKey keyId
  let rekorKey ← package.rekorPublicKey.mapM fun pem => createVerifyingKeyFromPem crates pem keyId
  return createEndorsementReferenceValue endorserKey claimTypes
    (createTlogReferenceValuesAll rekorKey package.c2spPolicy)

def verify (package : Package) (nowUtcMillis : Int64) (claimTypes : List Text) :
    Outcome Anyhow Statement := do
  let refValue ← (package.getReferenceValue crates claimTypes).widen
  (verifyEndorsement crates nowUtcMillis package.getSignedEndorsement refValue).mapErr
    ("verifying endorsement" :: ·)

end Package

inductive FetchFailure where
  /-- An answer with an error status. -/
  | status (code : Nat) (text : String)
  | transport (text : String)
  /-- The body breaks off. -/
  | reading (text : String)
deriving Repr, DecidableEq

/-- An error with its contexts.  The status is what `downcast_ref` finds below all of them. -/
structure LoadError where
  status : Option Nat
  chain : Anyhow
deriving Repr, DecidableEq

abbrev Loading (α : Type) := Asking Text (Except FetchFailure Bytes) LoadError α

abbrev Remote := Party Text (Except FetchFailure Bytes)

namespace Loading

variable {α : Type}

def withContext (message : String) : Except LoadError α → Except LoadError α
  | .ok value => .ok value
  | .error reason => .error { reason with chain := message :: reason.chain }

def context (message : String) (call : Loading α) : Loading α := call.mapResult (withContext message)

def unlessMissing : Except LoadError α → Except LoadError (Option α)
  | .ok value => .ok (some value)
  | .error reason => if reason.status = some 404 then .ok none else .error reason

def ifFound (call : Loading α) : Loading (Option α) := call.mapResult unlessMissing

def ofAnyhow : Anyhow.Result α → Loading α
  | .ok value => known (.ok value)
  | .error chain => known (.error ⟨none, chain⟩)

end Loading

def received (url : Text) : Except FetchFailure Bytes → Except LoadError Bytes
  | .ok bytes => .ok bytes
  | .error (.status code text) => .error ⟨some code, ["fetching URL " ++ String.ofList url, text]⟩
  | .error (.transport text) => .error ⟨none, ["fetching URL " ++ String.ofList url, text]⟩
  | .error (.reading text) =>
    .error ⟨none, ["reading response bytes from URL " ++ String.ofList url, text]⟩

def fetch (url : Text) : Loading Bytes := do
  let response ← ask url
  known (received url response)

structure CaStorage where
  /-- Code outside the repository: `Url::join` of the prefix and a suffix. -/
  join : Text → Except String Text
  fbucket : Text
  ibucket : Text

namespace CaStorage

def getFile (storage : CaStorage) (fileHash : Text) : Loading Bytes := do
  let url ← Loading.ofAnyhow (mapText id (storage.join (storage.fbucket ++ '/' :: fileHash)))
  fetch url

/-- The cause of the last error says which byte is wrong; it is left out. -/
def getLink (storage : CaStorage) (fileHash linkType : Text) : Loading Text := do
  let url ← Loading.ofAnyhow (mapText id
    (storage.join (storage.ibucket ++ '/' :: linkType ++ '/' :: fileHash)))
  let fetchResult ← fetch url
  Loading.ofAnyhow (present ("parsing link " ++ String.ofList linkType ++ " for file " ++
    String.ofList fileHash) (Text.ofUtf8 fetchResult))

def getLinkedFile (storage : CaStorage) (fileHash linkType : Text) : Loading Bytes := do
  let linkFileHash ← storage.getLink fileHash linkType
  Loading.context ("reading link file " ++ String.ofList linkType ++ " (" ++
    String.ofList linkFileHash ++ ") for file " ++ String.ofList fileHash)
    (storage.getFile linkFileHash)

end CaStorage

def inlineClaimType : Text :=
  "https://github.com/project-oak/oak/blob/main/docs/tr/claim/77149.md".toList

def mpmClaimType : Text :=
  "https://github.com/project-oak/oak/blob/main/docs/tr/claim/31543.md".toList

def endorsementForSubjectLink : Text := "13".toList
def signatureForEndorsementLink : Text := "14".toList
def rekorLogEntryForEndorsementLink : Text := "15".toList
def c2spTlogProofForEndorsementLink : Text := "31".toList
def pesConfirmationForEndorsementLink : Text := "32".toList
def publicKeyForSignatureLink : Text := "16".toList
def endorsementsForKeyLink : Text := "21".toList
def keysForKeysetLink : Text := "22".toList
def endorsementsForClaimLink : Text := "36".toList

/-- `split_terminator("\n")`. -/
def splitTerminator (text : Text) : List Text :=
  let parts := text.splitOn '\n'
  if parts.getLast? = some [] then parts.dropLast else parts

/-- `Sha256::to_typed_hash` of the hash of the contents. -/
def typedHash (contents : Bytes) : Text :=
  "sha2-256:".toList ++ Hex.encode (crates.sha2.sha256 contents).toList

variable {contents : Bytes}

namespace CaStorage

variable (storage : CaStorage)

/-- A list behind a link; a link that is not there is an empty list. -/
def listLink (hash linkType : Text) (message : String) : Loading (List Text) := do
  let found ← Loading.ifFound (Loading.context message (storage.getLink hash linkType))
  return splitTerminator (found.getD [])

def listKeysByKeyset (endorserKeysetHash : Text) : Loading (List Text) :=
  storage.listLink endorserKeysetHash keysForKeysetLink
    ("reading endorser keys for keyset " ++ String.ofList endorserKeysetHash)

def listEndorsementsByKey (endorserKeyHash : Text) : Loading (List Text) :=
  storage.listLink endorserKeyHash endorsementsForKeyLink
    ("reading endorsements by key " ++ String.ofList endorserKeyHash)

def listEndorsementsBySubject (subjectHash : Text) : Loading (List Text) :=
  storage.listLink subjectHash endorsementForSubjectLink
    ("reading endorsements by subject " ++ String.ofList subjectHash)

def listEndorsementsByClaim (claimType : Text) : Loading (List Text) :=
  storage.listLink (typedHash crates (Protobuf.utf8 (String.ofList claimType))) endorsementsForClaimLink
    ("reading endorsements by claim " ++ String.ofList claimType)

def optionalFile (endorsementHash linkType : Text) (what : String) : Loading (Option Bytes) :=
  Loading.ifFound (Loading.context ("reading " ++ what ++ " for endorsement " ++
    String.ofList endorsementHash) (storage.getLinkedFile endorsementHash linkType))

def needsSubject (statement : Statement) : Bool :=
  statement.claims.any fun claim => claim = inlineClaimType ∨ claim = mpmClaimType

def loadSubject (statement : Statement) : Loading (Option Bytes) :=
  if needsSubject statement then do
    let hexDigest ← Loading.ofAnyhow (getHexDigestFromStatement statement)
    let subject ← storage.getFile ("sha2-256:".toList ++ hexDigest .sha2_256)
    return some subject
  else return none

/-- `EndorsementLoader::load`. -/
def load (endorsementHash : Text) (rekorPublicKey c2spPolicy : Option Text) : Loading Package := do
  let endorsement ← Loading.context ("reading endorsement for endorsement " ++
    String.ofList endorsementHash) (storage.getFile endorsementHash)
  let signature ← Loading.context ("reading signature file for endorsement " ++
    String.ofList endorsementHash)
    (storage.getLinkedFile endorsementHash signatureForEndorsementLink)
  let rekorLogEntry ← storage.optionalFile endorsementHash rekorLogEntryForEndorsementLink
    "rekor log entry"
  let c2spTlogProof ← storage.optionalFile endorsementHash c2spTlogProofForEndorsementLink
    "C2SP t-log proof"
  let pesConfirmation ← storage.optionalFile endorsementHash pesConfirmationForEndorsementLink
    "PES confirmation"
  let statement ← Loading.ofAnyhow
    (context "parsing endorsement statement" (parseStatement crates endorsement))
  let subject ← storage.loadSubject statement
  let signatureHash ← Loading.context ("reading signature link for endorsement " ++
    String.ofList endorsementHash) (storage.getLink endorsementHash signatureForEndorsementLink)
  let pem ← Loading.context ("reading endorser public key for endorsement " ++
    String.ofList endorsementHash) (storage.getLinkedFile signatureHash publicKeyForSignatureLink)
  let endorserPublicKey ← Loading.ofAnyhow
    (present "parsing endorser public key" (Text.ofUtf8 pem))
  return { endorsement, signature, rekorLogEntry, c2spTlogProof, pesConfirmation, subject
           endorserPublicKey, rekorPublicKey, c2spPolicy }

end CaStorage

namespace CaStorage

variable (storage : CaStorage) (remote : Remote)

/-- The answer to the request with this number is a file of this name. -/
def FileAt (request : Nat) (fileHash : Text) (contents : Bytes) : Prop :=
  ∃ url, storage.join (storage.fbucket ++ '/' :: fileHash) = .ok url ∧
    remote request url = .ok contents

def LinkAt (request : Nat) (fileHash linkType link : Text) : Prop :=
  ∃ url contents, storage.join (storage.ibucket ++ '/' :: linkType ++ '/' :: fileHash) = .ok url ∧
    remote request url = .ok contents ∧ Text.ofUtf8 contents = some link

def LinkedFileAt (request : Nat) (fileHash linkType : Text) (contents : Bytes) : Prop :=
  ∃ link, storage.LinkAt remote request fileHash linkType link ∧
    storage.FileAt remote (request + 1) link contents

/-- Either there is no link, or no file behind it. -/
def MissingAt (request : Nat) (fileHash linkType : Text) (next : Nat) : Prop :=
  (∃ url text, storage.join (storage.ibucket ++ '/' :: linkType ++ '/' :: fileHash) = .ok url ∧
      remote request url = .error (.status 404 text) ∧ request + 1 = next) ∨
    ∃ link url text, storage.LinkAt remote request fileHash linkType link ∧
      storage.join (storage.fbucket ++ '/' :: link) = .ok url ∧
      remote (request + 1) url = .error (.status 404 text) ∧ request + 2 = next

def OptionalAt (request : Nat) (fileHash linkType : Text) : Option Bytes → Nat → Prop
  | some contents, next => storage.LinkedFileAt remote request fileHash linkType contents ∧
      request + 2 = next
  | none, next => storage.MissingAt remote request fileHash linkType next

def SubjectAt (request : Nat) (statement : Statement) : Option Bytes → Nat → Prop
  | some contents, next => needsSubject statement = true ∧ request + 1 = next ∧
      ∃ digest, getHexDigestFromStatement statement = .ok digest ∧
        storage.FileAt remote request ("sha2-256:".toList ++ digest .sha2_256) contents
  | none, next => needsSubject statement = false ∧ request = next

/-- These are the files that the remote side serves, one after the other, for an endorsement. -/
def Serves (endorsementHash : Text) (package : Package) : Prop :=
  storage.FileAt remote 0 endorsementHash package.endorsement ∧
    storage.LinkedFileAt remote 1 endorsementHash signatureForEndorsementLink package.signature ∧
    ∃ proof confirmation subject key statement signatureHash pem,
      storage.OptionalAt remote 3 endorsementHash rekorLogEntryForEndorsementLink
        package.rekorLogEntry proof ∧
      storage.OptionalAt remote proof endorsementHash c2spTlogProofForEndorsementLink
        package.c2spTlogProof confirmation ∧
      storage.OptionalAt remote confirmation endorsementHash pesConfirmationForEndorsementLink
        package.pesConfirmation subject ∧
      crates.statementJson package.endorsement = .ok statement ∧
      storage.SubjectAt remote subject statement package.subject key ∧
      storage.LinkAt remote key endorsementHash signatureForEndorsementLink signatureHash ∧
      storage.LinkedFileAt remote (key + 1) signatureHash publicKeyForSignatureLink pem ∧
      Text.ofUtf8 pem = some package.endorserPublicKey

end CaStorage

namespace Loading

variable {α : Type} {remote : Remote} {before after : Nat} {outcome : Anyhow.Result α}

@[simp] theorem returns_ofAnyhow {value : α} :
    Asking.Returns (ofAnyhow outcome) remote before value after ↔
      outcome = .ok value ∧ before = after := by
  cases outcome with
  | ok | error => simp [ofAnyhow]

/-- The file that is asked for is not there. -/
def Missing (call : Loading α) (remote : Remote) (before after : Nat) : Prop :=
  ∃ chain, call.Fails remote before ⟨some 404, chain⟩ after

@[simp] theorem not_missing_ofAnyhow : ¬ Missing (ofAnyhow outcome) remote before after := by
  cases outcome with
  | ok | error => simp [Missing, ofAnyhow]

variable {call : Loading α}

@[simp] theorem returns_context {message : String} {value : α} :
    Asking.Returns (context message call) remote before value after ↔
      call.Returns remote before value after := by
  simp only [context, mapResult, Asking.Returns]
  rcases call remote before with ⟨reason | found, later⟩
  · simp [withContext]
  · simp [withContext]

@[simp] theorem missing_context {message : String} :
    Missing (context message call) remote before after ↔ Missing call remote before after := by
  simp only [Missing, context, mapResult, Asking.Fails]
  rcases call remote before with ⟨⟨found, chain⟩ | found, later⟩
  · simp [withContext]
  · simp [withContext]

theorem returns_ifFound {value : Option α} :
    Asking.Returns (ifFound call) remote before value after ↔
      (∃ found, value = some found ∧ call.Returns remote before found after) ∨
        value = none ∧ Missing call remote before after := by
  simp only [ifFound, mapResult, Asking.Returns, Missing, Asking.Fails]
  rcases call remote before with ⟨⟨status, chain⟩ | found, later⟩
  · by_cases missing : status = some 404
    · simp [unlessMissing, missing, eq_comm]
    · simp [unlessMissing, missing]
  · simp [unlessMissing, eq_comm]

theorem missing_bind {β : Type} {next : α → Loading β} {holds : α → Prop} {middle : Nat}
    (spec : ∀ found between,
      call.Returns remote before found between ↔ holds found ∧ middle = between) :
    Missing (call >>= next) remote before after ↔ Missing call remote before after ∨
      ∃ found, holds found ∧ Missing (next found) remote middle after := by
  simp only [Missing, fails_bind_of spec, exists_or, ← exists_and_left]
  rw [exists_comm]

end Loading

section Fetch

variable {remote : Remote} {url : Text} {before after : Nat}

@[simp] theorem returns_fetch :
    Asking.Returns (fetch url) remote before contents after ↔
      remote before url = .ok contents ∧ before + 1 = after := by
  simp only [fetch, returns_bind, returns_ask, returns_known]
  constructor
  · intro holds
    obtain ⟨_, _, ⟨asked, rfl⟩, answered, last⟩ := holds
    subst asked
    refine ⟨?_, last⟩
    rcases answer : remote before url with failure | bytes
    · rw [answer] at answered
      cases failure <;> cases answered
    · rw [answer] at answered
      cases answered
      rfl
  · intro holds
    obtain ⟨answered, last⟩ := holds
    exact ⟨_, _, ⟨rfl, rfl⟩, by rw [answered, received], last⟩

theorem missing_fetch : Loading.Missing (fetch url) remote before after ↔
      (∃ text, remote before url = .error (.status 404 text)) ∧ before + 1 = after := by
  simp only [Loading.Missing, fetch, fails_bind, not_fails_ask, returns_ask, fails_known,
    false_or]
  constructor
  · intro holds
    obtain ⟨chain, _, _, ⟨asked, rfl⟩, answered, last⟩ := holds
    subst asked
    refine ⟨?_, last⟩
    rcases answer : remote before url with (⟨code, text⟩ | text | text) | bytes
    · rw [answer] at answered
      cases answered
      exact ⟨text, rfl⟩
    · rw [answer] at answered
      cases answered
    · rw [answer] at answered
      cases answered
    · rw [answer] at answered
      cases answered
  · intro holds
    obtain ⟨⟨text, answered⟩, last⟩ := holds
    exact ⟨_, _, _, ⟨rfl, rfl⟩, by rw [answered, received], last⟩

end Fetch

namespace CaStorage

variable {crates} {storage : CaStorage} {remote : Remote} {before after : Nat}
  {fileHash linkType : Text}

theorem returns_getFile : (storage.getFile fileHash).Returns remote before contents after ↔
      storage.FileAt remote before fileHash contents ∧ before + 1 = after := by
  rw [getFile, returns_bind_of fun _ _ => Loading.returns_ofAnyhow]
  simp only [mapText_eq_ok, returns_fetch, FileAt, ← exists_and_right, and_assoc]

theorem returns_getLink {link : Text} :
    (storage.getLink fileHash linkType).Returns remote before link after ↔
      storage.LinkAt remote before fileHash linkType link ∧ before + 1 = after := by
  rw [getLink, returns_bind_of fun _ _ => Loading.returns_ofAnyhow]
  simp only [returns_bind_of fun _ _ => returns_fetch, Loading.returns_ofAnyhow, mapText_eq_ok,
    present_eq_ok, LinkAt, ← exists_and_left, ← exists_and_right, and_assoc]

theorem returns_getLinkedFile :
    (storage.getLinkedFile fileHash linkType).Returns remote before contents after ↔
      storage.LinkedFileAt remote before fileHash linkType contents ∧ before + 2 = after := by
  rw [getLinkedFile, returns_bind_of fun _ _ => returns_getLink]
  simp only [Loading.returns_context, returns_getFile, LinkedFileAt, ← exists_and_right, and_assoc]

theorem missing_getFile : Loading.Missing (storage.getFile fileHash) remote before after ↔
      ∃ url text, storage.join (storage.fbucket ++ '/' :: fileHash) = .ok url ∧
        remote before url = .error (.status 404 text) ∧ before + 1 = after := by
  rw [getFile, Loading.missing_bind fun _ _ => Loading.returns_ofAnyhow]
  simp only [Loading.not_missing_ofAnyhow, false_or, mapText_eq_ok, missing_fetch,
    ← exists_and_right, ← exists_and_left]

theorem missing_getLink :
    Loading.Missing (storage.getLink fileHash linkType) remote before after ↔
      ∃ url text, storage.join (storage.ibucket ++ '/' :: linkType ++ '/' :: fileHash) = .ok url ∧
        remote before url = .error (.status 404 text) ∧ before + 1 = after := by
  rw [getLink, Loading.missing_bind fun _ _ => Loading.returns_ofAnyhow]
  simp only [Loading.missing_bind fun _ _ => returns_fetch, Loading.not_missing_ofAnyhow, false_or,
    and_false, exists_false, or_false, mapText_eq_ok, missing_fetch, ← exists_and_right,
    ← exists_and_left]

theorem missing_getLinkedFile :
    Loading.Missing (storage.getLinkedFile fileHash linkType) remote before after ↔
      storage.MissingAt remote before fileHash linkType after := by
  rw [getLinkedFile, Loading.missing_bind fun _ _ => returns_getLink, missing_getLink]
  simp only [Loading.missing_context, missing_getFile, MissingAt, ← exists_and_left]

theorem returns_optionalFile {what : String} {contents : Option Bytes} :
    (storage.optionalFile fileHash linkType what).Returns remote before contents after ↔
      storage.OptionalAt remote before fileHash linkType contents after := by
  rw [optionalFile, Loading.returns_ifFound, Loading.missing_context, missing_getLinkedFile]
  simp only [Loading.returns_context, returns_getLinkedFile]
  cases contents <;> simp [OptionalAt]

theorem returns_loadSubject {statement : Statement} {contents : Option Bytes} :
    (storage.loadSubject statement).Returns remote before contents after ↔
      storage.SubjectAt remote before statement contents after := by
  rw [loadSubject]
  cases needed : needsSubject statement with
  | false => cases contents <;> simp [SubjectAt, needed]
  | true =>
    simp only [if_true, returns_bind, Loading.returns_ofAnyhow, returns_getFile,
      returns_pure]
    constructor
    · intro holds
      obtain ⟨digest, _, ⟨found, rfl⟩, file, _, ⟨served, last⟩, same, rfl⟩ := holds
      subst same
      exact ⟨needed, last, digest, found, served⟩
    · intro served
      cases contents with
      | none => cases needed.symm.trans served.1
      | some file =>
        obtain ⟨-, last, digest, found, served⟩ := served
        exact ⟨digest, _, ⟨found, rfl⟩, file, _, ⟨served, last⟩, rfl, rfl⟩

theorem load_eq_ok {endorsementHash : Text} {rekorPublicKey c2spPolicy : Option Text}
    {package : Package} :
    (storage.load crates endorsementHash rekorPublicKey c2spPolicy).result remote = .ok package ↔
      storage.Serves crates remote endorsementHash package ∧
        package.rekorPublicKey = rekorPublicKey ∧ package.c2spPolicy = c2spPolicy := by
  rw [result_eq_ok]
  simp only [load, returns_bind, Loading.returns_context, returns_getFile,
    returns_getLinkedFile, returns_optionalFile, Loading.returns_ofAnyhow, returns_loadSubject,
    returns_getLink, context_eq_ok, present_eq_ok, returns_pure, parseStatement,
    mapText_eq_ok]
  constructor
  · intro holds
    obtain ⟨_, _, _, ⟨file, rfl⟩, _, _, ⟨signature, rfl⟩, _, proof, entry, _, confirmation, tlog, _,
        subject, pes, statement, _, ⟨parsed, rfl⟩, _, key, needed, signatureHash, _, ⟨link, rfl⟩,
        pem, _, ⟨linked, rfl⟩, _, _, ⟨decoded, rfl⟩, same, _⟩ := holds
    subst same
    exact ⟨⟨file, signature, proof, confirmation, subject, key, statement, signatureHash, pem, entry,
      tlog, pes, parsed, needed, link, linked, decoded⟩, rfl, rfl⟩
  · intro holds
    obtain ⟨⟨file, signature, proof, confirmation, subject, key, statement, signatureHash, pem,
        entry, tlog, pes, parsed, needed, link, linked, decoded⟩, rekor, policy⟩ := holds
    subst rekor policy
    exact ⟨_, _, _, ⟨file, rfl⟩, _, _, ⟨signature, rfl⟩, _, proof, entry, _, confirmation, tlog, _,
      subject, pes, statement, _, ⟨parsed, rfl⟩, _, key, needed, signatureHash, _, ⟨link, rfl⟩, pem, _,
      ⟨linked, rfl⟩, _, _, ⟨decoded, rfl⟩, rfl, rfl⟩

end CaStorage

end Oak.Tr
