import Oak.Data.Outcome
import Oak.Data.Protobuf

namespace Oak.PrivateMemory

open Oak.Data

/-! Encrypted blobs in the untrusted database (`src/encryption.rs`,
`database/memory_blob_store.rs` and `database/encryption.rs`).

Memories and the metadata database are encrypted under one key.  The identifier of a memory's blob
is bound as associated data; the metadata database has none, and neither had the blobs of earlier
versions, which is why reading a blob falls back to none. -/

/-- `Aes256GcmSiv`. -/
structure Siv where
  encrypt : (key : Block 32) → (nonce : Block 12) → (msg aad : Bytes) → Option Bytes
  decrypt : (key : Block 32) → (nonce : Block 12) → (msg aad : Bytes) → Option Bytes

/-- `from_slice` of a generic array panics if the length is wrong. -/
def fromSlice (size : Nat) (bytes : Bytes) : Outcome String (Block size) :=
  match Block.ofBytes? size bytes with
  | some block => .ok block
  | none => .panic "assertion failed: slice length mismatch"

variable (siv : Siv)

def encrypt (key nonce message aad : Bytes) : Outcome String Bytes := do
  let key ← fromSlice 32 key
  let nonce ← fromSlice 12 nonce
  match siv.encrypt key nonce message aad with
  | some data => .ok data
  | none => .err "aead::Error"

def decrypt (key nonce message aad : Bytes) : Outcome String Bytes := do
  let key ← fromSlice 32 key
  let nonce ← fromSlice 12 nonce
  match siv.decrypt key nonce message aad with
  | some data => .ok data
  | none => .err "aead::Error"

structure EncryptedDataBlob where
  nonce : Bytes
  data : Bytes
deriving DecidableEq

abbrev BlobId := String

def blobIdOf (random : Fin (2 ^ 128)) : BlobId := toString random.val

/-- `encode_encrypt_memory`.  A memory is given by its encoding. -/
def encodeEncryptMemory (dek memoryData : Bytes) (blobId : BlobId) (nonce : Bytes) :
    Outcome String EncryptedDataBlob := do
  let encryptedData ← encrypt siv dek nonce memoryData (Protobuf.utf8 blobId)
  return ⟨nonce, encryptedData⟩

def encryptDatabase (database key nonce : Bytes) : Outcome String EncryptedDataBlob := do
  let data ← encrypt siv key nonce database []
  return ⟨nonce, data⟩

def decryptDatabase (datablob : EncryptedDataBlob) (key : Bytes) : Outcome String Bytes :=
  decrypt siv key datablob.nonce datablob.data []

/-- An error of the first attempt, not a panic, leads to the second. -/
def decryptBlob (dek : Bytes) (blobId : BlobId) (blob : EncryptedDataBlob) :
    Outcome String Bytes :=
  match decrypt siv dek blob.nonce blob.data (Protobuf.utf8 blobId) with
  | .error (.error _) => decrypt siv dek blob.nonce blob.data []
  | result => result

inductive Write where
  | memory (memoryData : Bytes) (random : Fin (2 ^ 128)) (nonce : Bytes)
  | database (info nonce : Bytes)
deriving DecidableEq

structure Sealing where
  nonce : Bytes
  aad : Bytes
  message : Bytes
  data : Bytes
deriving DecidableEq

def Write.blob (dek : Bytes) : Write → Outcome String EncryptedDataBlob
  | memory memoryData random nonce =>
    encodeEncryptMemory siv dek memoryData (blobIdOf random) nonce
  | database info nonce => encryptDatabase siv info dek nonce

def Write.aad : Write → Bytes
  | memory _ random _ => Protobuf.utf8 (blobIdOf random)
  | database _ _ => []

def Write.message : Write → Bytes
  | memory memoryData _ _ => memoryData
  | database info _ => info

def IsSealed (dek : Bytes) (writes : List Write) (item : Sealing) : Prop :=
  ∃ write ∈ writes, write.blob siv dek = .ok ⟨item.nonce, item.data⟩ ∧
    item.aad = write.aad ∧ item.message = write.message

/-- Opening succeeds for what was sealed, with the same nonce and associated data, and for nothing
else. -/
structure Siv.Ideal (siv : Siv) (dek : Bytes) (writes : List Write) : Prop where
  opens : ∀ item, IsSealed siv dek writes item →
    PrivateMemory.decrypt siv dek item.nonce item.data item.aad = .ok item.message
  authentic : ∀ item, PrivateMemory.decrypt siv dek item.nonce item.data item.aad = .ok item.message →
    IsSealed siv dek writes item
  bound : ∀ first second, IsSealed siv dek writes first → IsSealed siv dek writes second →
    first.nonce = second.nonce → first.data = second.data → first.aad = second.aad

def EncryptedFor (writes : List Write) (blobId : BlobId) (message : Bytes) : Prop :=
  ∃ random nonce, .memory message random nonce ∈ writes ∧ blobIdOf random = blobId

/-- A plaintext that was encrypted as the metadata database. -/
def EncryptedAsDatabase (writes : List Write) (message : Bytes) : Prop :=
  ∃ nonce, .database message nonce ∈ writes

/-- Whatever the enclave accepts of an answer was encrypted for the purpose it is read for. -/
structure Genuine (dek : Bytes) (writes : List Write) (blobId : BlobId)
    (answer : EncryptedDataBlob) : Prop where
  blob : ∀ message, decryptBlob siv dek blobId answer = .ok message →
    EncryptedFor writes blobId message
  database : ∀ message, decryptDatabase siv answer dek = .ok message →
    EncryptedAsDatabase writes message

/-- The answer is a metadata database that the enclave wrote, and its contents were not also
written for the blob id. -/
def IsForeignDatabase (dek : Bytes) (writes : List Write) (blobId : BlobId)
    (answer : EncryptedDataBlob) : Prop :=
  ∃ info nonce, .database info nonce ∈ writes ∧
    encryptDatabase siv info dek nonce = .ok answer ∧ ¬ EncryptedFor writes blobId info

theorem utf8_blobIdOf_ne_nil (random : Fin (2 ^ 128)) : Protobuf.utf8 (blobIdOf random) ≠ [] := by
  intro empty
  have sameText : blobIdOf random = "" := Protobuf.utf8_injective (empty.trans rfl)
  exact Nat.repr_ne_empty sameText

section Reads

variable {siv} {dek : Bytes} {writes : List Write} {blobId : BlobId} {answer : EncryptedDataBlob}

variable {nonce message plaintext : Bytes}

theorem decrypt_not_isPanic {key aad : Bytes} (other : Bytes)
    (opened : decrypt siv key nonce message aad = .ok plaintext) :
    ¬ (decrypt siv key nonce message other).IsPanic := by
  unfold decrypt at opened ⊢
  obtain ⟨key, keyFits, opened⟩ := except_bind_eq_ok.mp opened
  obtain ⟨nonce, nonceFits, -⟩ := except_bind_eq_ok.mp opened
  rw [keyFits, nonceFits]
  simp only [Outcome.ok_bind]
  split <;> simp

theorem decryptBlob_of_legacy (unopened : ∀ message,
      decrypt siv dek answer.nonce answer.data (Protobuf.utf8 blobId) ≠ .ok message)
    (opened : decrypt siv dek answer.nonce answer.data [] = .ok plaintext) :
    decryptBlob siv dek blobId answer = .ok plaintext := by
  have noPanic := decrypt_not_isPanic (Protobuf.utf8 blobId) opened
  unfold decryptBlob
  split
  · exact opened
  · rename_i result other
    cases attempt : decrypt siv dek answer.nonce answer.data (Protobuf.utf8 blobId) with
    | ok message => exact absurd attempt (unopened message)
    | error fault =>
      cases fault with
      | error text => exact absurd attempt (other text)
      | panic text => exact absurd (attempt ▸ trivial) noPanic

theorem IsSealed.database {data : Bytes}
    (found : IsSealed siv dek writes ⟨nonce, [], message, data⟩) :
    .database message nonce ∈ writes ∧ encryptDatabase siv message dek nonce = .ok ⟨nonce, data⟩ := by
  obtain ⟨write, member, written, sameAad, rfl⟩ := found
  cases write with
  | memory memoryData random _ => exact absurd sameAad.symm (utf8_blobIdOf_ne_nil random)
  | database info used =>
    obtain ⟨_, _, same⟩ := except_bind_eq_ok.mp written
    obtain ⟨rfl, -⟩ := by simpa using same
    exact ⟨member, written⟩

/-- Under a blob id, either a memory was sealed, or the id is empty and it is a database. -/
theorem IsSealed.for_blobId {data : Bytes}
    (found : IsSealed siv dek writes ⟨nonce, Protobuf.utf8 blobId, message, data⟩) :
    EncryptedFor writes blobId message ∨ Protobuf.utf8 blobId = [] := by
  obtain ⟨write, member, -, sameAad, rfl⟩ := found
  cases write with
  | memory memoryData random used =>
    exact .inl ⟨random, used, member, (Protobuf.utf8_injective sameAad).symm⟩
  | database info used => exact .inr sameAad

theorem decryptBlob_eq_ok (accepted : decryptBlob siv dek blobId answer = .ok plaintext) :
    decrypt siv dek answer.nonce answer.data (Protobuf.utf8 blobId) = .ok plaintext ∨
      decrypt siv dek answer.nonce answer.data [] = .ok plaintext := by
  unfold decryptBlob at accepted
  split at accepted
  · exact .inr accepted
  · exact .inl accepted

variable (ideal : siv.Ideal dek writes)
include ideal

theorem opened_database (opened : decrypt siv dek answer.nonce answer.data [] = .ok message) :
    ∃ nonce, .database message nonce ∈ writes ∧
      encryptDatabase siv message dek nonce = .ok answer :=
  ⟨answer.nonce, (ideal.authentic ⟨answer.nonce, [], message, answer.data⟩ opened).database⟩

theorem genuine_of_not_foreign (own : ¬ IsForeignDatabase siv dek writes blobId answer) :
    Genuine siv dek writes blobId answer := by
  have encryptedFor : ∀ message, decrypt siv dek answer.nonce answer.data [] = .ok message →
      EncryptedFor writes blobId message := by
    intro message opened
    obtain ⟨nonce, member, written⟩ := opened_database ideal opened
    by_contra other
    exact own ⟨message, nonce, member, written, other⟩
  constructor
  case blob =>
    intro message accepted
    rcases decryptBlob_eq_ok accepted with opened | opened
    · rcases (ideal.authentic ⟨_, _, message, _⟩ opened).for_blobId with found | empty
      · exact found
      · exact encryptedFor message (empty ▸ opened)
    · exact encryptedFor message opened
  case database =>
    intro message opened
    obtain ⟨nonce, member, -⟩ := opened_database ideal opened
    exact ⟨nonce, member⟩

theorem decryptBlob_of_database {info : Bytes} (member : .database info nonce ∈ writes)
    (written : encryptDatabase siv info dek nonce = .ok answer) :
    decryptBlob siv dek blobId answer = .ok info := by
  have isSealed : IsSealed siv dek writes ⟨answer.nonce, [], info, answer.data⟩ :=
    ⟨_, member, written, rfl, rfl⟩
  have opened := ideal.opens _ isSealed
  by_cases found : ∃ message,
      decrypt siv dek answer.nonce answer.data (Protobuf.utf8 blobId) = .ok message
  · obtain ⟨message, first⟩ := found
    -- what opens with the blob id was sealed with it, so that the id is empty
    have empty : [] = Protobuf.utf8 blobId :=
      ideal.bound _ _ isSealed (ideal.authentic ⟨_, _, message, _⟩ first) rfl rfl
    unfold decryptBlob
    rw [← empty, opened]
  · exact decryptBlob_of_legacy (fun message first => found ⟨message, first⟩) opened

/-- What is read is what was encrypted for that purpose, unless the answer is a metadata
database. -/
theorem genuine_iff_not_foreign :
    Genuine siv dek writes blobId answer ↔ ¬ IsForeignDatabase siv dek writes blobId answer := by
  constructor
  · rintro genuine ⟨info, nonce, member, written, other⟩
    exact other (genuine.blob info (decryptBlob_of_database ideal member written))
  · exact genuine_of_not_foreign ideal

end Reads

def Siv.ofTable (items : List Sealing) : Siv where
  encrypt _ nonce msg aad := (items.find? fun item =>
    item.nonce = nonce.toList ∧ item.message = msg ∧ item.aad = aad).map (·.data)
  decrypt _ nonce msg aad := (items.find? fun item =>
    item.nonce = nonce.toList ∧ item.data = msg ∧ item.aad = aad).map (·.message)

def exampleDek : Bytes := List.replicate 32 7

def exampleWrites : List Write :=
  [.memory [10] 5 (List.replicate 12 1), .database [20] (List.replicate 12 2)]

def exampleSealings : List Sealing :=
  [⟨List.replicate 12 1, Protobuf.utf8 "5", [10], [100]⟩, ⟨List.replicate 12 2, [], [20], [200]⟩]

theorem isSealed_example_iff {item : Sealing} :
    IsSealed (.ofTable exampleSealings) exampleDek exampleWrites item ↔ item ∈ exampleSealings := by
  have blobs : exampleWrites.map (fun write =>
      (write.blob (.ofTable exampleSealings) exampleDek, write.aad, write.message)) =
      exampleSealings.map fun item => (.ok ⟨item.nonce, item.data⟩, item.aad, item.message) := by
    decide +kernel
  have sealedIff : IsSealed (.ofTable exampleSealings) exampleDek exampleWrites item ↔
      (.ok ⟨item.nonce, item.data⟩, item.aad, item.message) ∈ exampleWrites.map fun write =>
        (write.blob (.ofTable exampleSealings) exampleDek, write.aad, write.message) := by
    simp [IsSealed, eq_comm]
  rw [sealedIff, blobs, List.mem_map]
  constructor
  · rintro ⟨entry, member, same⟩
    obtain ⟨_, _, _, _⟩ := entry
    obtain ⟨⟨rfl, rfl⟩, rfl, rfl⟩ := same
    exact member
  · intro member
    exact ⟨item, member, rfl⟩

theorem mem_of_decrypt_ofTable {items : List Sealing} {key nonce data aad message : Bytes}
    (opened : decrypt (.ofTable items) key nonce data aad = .ok message) :
    ⟨nonce, aad, message, data⟩ ∈ items := by
  obtain ⟨_, -, opened⟩ := except_bind_eq_ok.mp opened
  obtain ⟨fitted, fits, opened⟩ := except_bind_eq_ok.mp opened
  have sameNonce : fitted.toList = nonce := by
    unfold fromSlice at fits
    split at fits
    · rename_i parsed
      cases fits
      exact Block.toList_of_ofBytes? parsed
    · cases fits
  split at opened
  · rename_i looked
    cases opened
    obtain ⟨item, found, rfl⟩ := Option.map_eq_some_iff.mp looked
    have matching := List.find?_some found
    simp only [decide_eq_true_eq] at matching
    obtain ⟨itemNonce, rfl, rfl⟩ := matching
    rw [← sameNonce, ← itemNonce]
    exact List.mem_of_find?_eq_some found
  · cases opened

theorem ofTable_ideal : (Siv.ofTable exampleSealings).Ideal exampleDek exampleWrites := by
  have opensAll : ∀ item ∈ exampleSealings,
      decrypt (.ofTable exampleSealings) exampleDek item.nonce item.data item.aad =
        .ok item.message := by
    decide +kernel
  have boundAll : ∀ first ∈ exampleSealings, ∀ second ∈ exampleSealings,
      first.nonce = second.nonce → first.data = second.data → first.aad = second.aad := by
    decide +kernel
  constructor
  case opens => exact fun item isSealed => opensAll item (isSealed_example_iff.mp isSealed)
  case authentic =>
    exact fun item opened => isSealed_example_iff.mpr (mem_of_decrypt_ofTable opened)
  case bound =>
    intro first second firstSealed secondSealed
    exact boundAll first (isSealed_example_iff.mp firstSealed) second
      (isSealed_example_iff.mp secondSealed)

theorem memory_read_genuine :
    decryptBlob (.ofTable exampleSealings) exampleDek "5" ⟨List.replicate 12 1, [100]⟩ = .ok [10] ∧
      Genuine (.ofTable exampleSealings) exampleDek exampleWrites "5"
        ⟨List.replicate 12 1, [100]⟩ := by
  refine ⟨by decide +kernel, (genuine_iff_not_foreign ofTable_ideal).mpr ?_⟩
  rintro ⟨info, nonce, member, written, -⟩
  simp only [exampleWrites, List.mem_cons, reduceCtorEq, List.not_mem_nil, or_false, false_or]
    at member
  obtain ⟨rfl, rfl⟩ := member
  revert written
  decide +kernel

/-- The encrypted metadata database is accepted in the place of a memory. -/
theorem database_read_as_memory : (Siv.ofTable exampleSealings).Ideal exampleDek exampleWrites ∧
      decryptBlob (.ofTable exampleSealings) exampleDek "5" ⟨List.replicate 12 2, [200]⟩ =
        .ok [20] ∧ ¬ Genuine (.ofTable exampleSealings) exampleDek exampleWrites "5"
        ⟨List.replicate 12 2, [200]⟩ := by
  have accepted : decryptBlob (.ofTable exampleSealings) exampleDek "5"
      ⟨List.replicate 12 2, [200]⟩ = .ok [20] := by
    decide +kernel
  refine ⟨ofTable_ideal, accepted, ?_⟩
  intro genuine
  obtain ⟨random, nonce, member, -⟩ := genuine.blob [20] accepted
  simp [exampleWrites] at member

end Oak.PrivateMemory
