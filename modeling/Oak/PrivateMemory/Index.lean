import Oak.Data.Keyed
import Oak.PrivateMemory.BlobStore

namespace Oak.PrivateMemory

open Oak.Data

/-! The search index of a user's memories (`database/icing.rs`).

The search engine is a store of documents under their uris.  The documents of all memories and
views share it, and the client chooses their ids.  A search returns a page of the documents that
match, in an order of the engine's choice. -/

abbrev MemoryId := String

structure Timestamp where
  seconds : Int
  nanos : Int

def saturate (value : Int) : Int :=
  max (-2 ^ 63) (min value (2 ^ 63 - 1))

def timestampToI64 (timestamp : Timestamp) : Int :=
  saturate (saturate (timestamp.seconds * 1000000000) + timestamp.nanos)

/-- `ν` is what the engine makes of an embedding. -/
structure LlmView (ν : Type) where
  id : String
  type : String
  embedding : Option ν

/-- A memory as `prepare_memory` leaves it, with an id. -/
structure Memory (ν : Type) where
  id : MemoryId
  name : String := ""
  tags : List String := []
  createdTimestamp : Option Timestamp := none
  eventTimestamp : Option Timestamp := none
  expirationTimestamp : Option Timestamp := none
  llmViews : List (LlmView ν) := []
  identified : id ≠ ""

/-- What the documents of a memory and of its views have in common. -/
structure Properties where
  tags : List String
  memoryId : MemoryId
  blobId : BlobId
  name : Option String
  createdTimestamp : Option Int
  eventTimestamp : Option Int
  expirationTimestamp : Option Int
deriving DecidableEq

inductive Document (ν : Type) where
  | memory (properties : Properties)
  | llmView (properties : Properties) (viewId viewType : String) (embedding : ν)
deriving DecidableEq

variable {ν : Type}

namespace Document

def properties : Document ν → Properties
  | memory properties => properties
  | llmView properties _ _ _ => properties

def memoryId (document : Document ν) : MemoryId :=
  document.properties.memoryId

def viewId : Document ν → Option String
  | memory _ => none
  | llmView _ viewId _ _ => some viewId

/-- The key that `set_key` gives a document, in the one namespace. -/
def uri (document : Document ν) : String :=
  document.viewId.getD document.memoryId

end Document

namespace Memory

def properties (memory : Memory ν) (blobId : BlobId) : Properties where
  tags := memory.tags
  memoryId := memory.id
  blobId
  name := if memory.name.isEmpty then none else some memory.name
  createdTimestamp := memory.createdTimestamp.map timestampToI64
  eventTimestamp := memory.eventTimestamp.map timestampToI64
  expirationTimestamp := memory.expirationTimestamp.map timestampToI64

def pendingMetadata (memory : Memory ν) (blobId : BlobId) : Document ν :=
  .memory (memory.properties blobId)

def pendingLlmViewMetadata (memory : Memory ν) (blobId : BlobId) (view : LlmView ν) :
    Option (Document ν) :=
  view.embedding.map (.llmView (memory.properties blobId) view.id view.type)

def pendingViews (memory : Memory ν) (blobId : BlobId) : List (Document ν) :=
  memory.llmViews.filterMap (memory.pendingLlmViewMetadata blobId)

/-- The documents of a memory and of its views that have an embedding. -/
def documents (memory : Memory ν) (blobId : BlobId) : List (Document ν) :=
  memory.pendingMetadata blobId :: memory.pendingViews blobId

end Memory

abbrev Index (ν : Type) := Keyed (Document.uri (ν := ν))

/-- The search engine ranks the documents at will. -/
structure Engine (ν : Type) where
  rank : List (Document ν) → List (Document ν)
  perm : ∀ documents, (rank documents).Perm documents

inductive MutationOperation (ν : Type) where
  | create
  | addMemory (metadata : Document ν) (views : List (Document ν))
  | remove (memoryId : MemoryId) (blobId : BlobId)
  | reset

structure IcingMetaDatabase (ν : Type) where
  index : Index ν
  appliedOperations : List (MutationOperation ν)

/-- `IcingMetaDatabase::new`. -/
def IcingMetaDatabase.new : IcingMetaDatabase ν :=
  ⟨⟨[], .nil⟩, [.create]⟩

def deleteDocument (index : Index ν) (uri : String) : Except String (Index ν) :=
  if (index.get? uri).isSome then .ok (index.erase uri)
  else .error s!"Failed to delete document with id {uri}"

namespace Engine

variable (engine : Engine ν) (now : Int)

def search (index : Index ν) (found : Document ν → Bool) (numPerPage : Nat) : List (Document ν) :=
  ((engine.rank index.items).filter found).take numPerPage

/-- Without a value the query of `build_non_expired_query_str` is for everything unexpired. -/
def getBlobIdByMemoryId (index : Index ν) (memoryId : MemoryId) : Option BlobId :=
  (engine.search index (fun document => document.viewId.isNone &&
    (memoryId.isEmpty || document.memoryId == memoryId) &&
    document.properties.expirationTimestamp.all (now < ·)) 1).head?.map (·.properties.blobId)

def viewDocuments (index : Index ν) (memoryId : MemoryId) : List (Document ν) :=
  engine.search index (fun document => document.viewId.isSome && document.memoryId == memoryId) 1000

def getViewIdsByMemoryId (index : Index ν) (memoryId : MemoryId) : List String :=
  (engine.viewDocuments index memoryId).filterMap Document.viewId

def deleteMemoryDocuments (index : Index ν) (memoryId : MemoryId) : Except String (Index ν) := do
  let index ← (engine.getViewIdsByMemoryId index memoryId).foldlM deleteDocument index
  deleteDocument index memoryId

def deleteMemory (state : IcingMetaDatabase ν × List MemoryId) (memoryId : MemoryId) :
    Except String (IcingMetaDatabase ν × List MemoryId) :=
  match state.1.index.get? memoryId with
  | some document => do
    let index ← engine.deleteMemoryDocuments state.1.index memoryId
    let removed := .remove memoryId document.properties.blobId
    return (⟨index, state.1.appliedOperations ++ [removed]⟩, state.2)
  | none => return (state.1, state.2 ++ [memoryId])

def deleteMemories (database : IcingMetaDatabase ν) (memoryIds : List MemoryId) :
    Except String (IcingMetaDatabase ν × List MemoryId) :=
  memoryIds.foldlM engine.deleteMemory (database, [])

end Engine

namespace IcingMetaDatabase

def putMemoryWithViews (database : IcingMetaDatabase ν) (metadata : Document ν)
    (views : List (Document ν)) : IcingMetaDatabase ν where
  index := (metadata :: views).foldl Keyed.put database.index
  appliedOperations := database.appliedOperations ++ [.addMemory metadata views]

def addMemory (engine : Engine ν) (now : Int) (database : IcingMetaDatabase ν)
    (memory : Memory ν) (blobId : BlobId) : Except String (IcingMetaDatabase ν) := do
  let database ←
    if (engine.getBlobIdByMemoryId now database.index memory.id).isSome then
      (engine.deleteMemories database [memory.id]).map Prod.fst
    else
      pure database
  return database.putMemoryWithViews (memory.pendingMetadata blobId) (memory.pendingViews blobId)

end IcingMetaDatabase

section Deleting

variable {engine : Engine ν} {index : Index ν} {memoryId : MemoryId} {document : Document ν}

theorem mem_of_mem_search {found : Document ν → Bool} {numPerPage : Nat}
    (member : document ∈ engine.search index found numPerPage) :
    document ∈ index.items ∧ found document = true := by
  obtain ⟨ranked, matched⟩ := List.mem_filter.mp (List.mem_of_mem_take member)
  exact ⟨(engine.perm _).mem_iff.mp ranked, matched⟩

theorem nodup_viewDocuments (engine : Engine ν) (index : Index ν) (memoryId : MemoryId) :
    (engine.viewDocuments index memoryId).Nodup :=
  (((engine.perm _).nodup_iff.mpr (.of_map _ index.distinct)).filter _).sublist
    (List.take_sublist ..)

theorem mem_viewDocuments (member : document ∈ engine.viewDocuments index memoryId) :
    document ∈ index.items ∧ document.viewId.isSome ∧ document.memoryId = memoryId := by
  simpa using mem_of_mem_search member

theorem deleteDocument_ok (member : document ∈ index.items) :
    deleteDocument index document.uri = .ok (index.erase document.uri) := by
  rw [deleteDocument, if_pos]
  rw [Keyed.get?_eq_some.mpr ⟨member, rfl⟩, Option.isSome_some]

/-- The documents that a search has found exist, so that none of the deletions fails. -/
theorem delete_found {found : List (Document ν)} (distinct : found.Nodup)
    (existing : ∀ document ∈ found, document ∈ index.items ∧ document.viewId.isSome) :
    ∃ after, (found.filterMap Document.viewId).foldlM deleteDocument index = .ok after ∧
      ∀ document, document ∈ after.items ↔ document ∈ index.items ∧ document ∉ found := by
  induction found generalizing index with
  | nil => exact ⟨index, rfl, by simp⟩
  | cons first rest ih =>
    obtain ⟨apart, distinct⟩ := List.nodup_cons.mp distinct
    obtain ⟨member, view⟩ := existing first (.head _)
    obtain ⟨viewId, named⟩ := Option.isSome_iff_exists.mp view
    have uri : first.uri = viewId := by rw [Document.uri, named, Option.getD_some]
    have remaining : ∀ document ∈ rest,
        document ∈ (index.erase first.uri).items ∧ document.viewId.isSome := by
      intro document later
      obtain ⟨kept, view⟩ := existing document (.tail _ later)
      exact ⟨(Keyed.mem_erase member).mpr ⟨kept, fun same => apart (same ▸ later)⟩, view⟩
    obtain ⟨after, deleted, left⟩ := ih distinct remaining
    refine ⟨after, ?_, ?_⟩
    · rw [List.filterMap_cons_some named, List.foldlM_cons, ← uri, deleteDocument_ok member]
      exact deleted
    · intro document
      rw [left, Keyed.mem_erase member, List.mem_cons, not_or, and_assoc]

theorem deleteMemoryDocuments_ok (engine : Engine ν) {properties : Properties}
    (member : .memory properties ∈ index.items) :
    ∃ after, engine.deleteMemoryDocuments index properties.memoryId = .ok after ∧
      ∀ document, document ∈ after.items ↔
        (document ∈ index.items ∧ document ∉ engine.viewDocuments index properties.memoryId) ∧
          document ≠ .memory properties := by
  obtain ⟨between, deleted, left⟩ :=
    delete_found (nodup_viewDocuments engine index properties.memoryId)
      fun document found => (mem_viewDocuments found).imp_right And.left
  have kept : .memory properties ∈ between.items := by
    refine (left _).mpr ⟨member, fun found => ?_⟩
    simpa [Document.viewId] using (mem_viewDocuments found).2.1
  refine ⟨between.erase properties.memoryId, ?_, fun document => ?_⟩
  · rw [Engine.deleteMemoryDocuments, Engine.getViewIdsByMemoryId, deleted]
    exact deleteDocument_ok kept
  · rw [← left]
    exact Keyed.mem_erase kept

end Deleting

section Adding

variable {engine : Engine ν} {now : Int} {index : Index ν} {memoryId : MemoryId} {blobId : BlobId}

theorem of_getBlobIdByMemoryId (named : memoryId ≠ "")
    (found : engine.getBlobIdByMemoryId now index memoryId = some blobId) :
    ∃ properties, .memory properties ∈ index.items ∧ properties.memoryId = memoryId ∧
      properties.blobId = blobId ∧ properties.expirationTimestamp.all (now < ·) := by
  obtain ⟨document, first, rfl⟩ := Option.map_eq_some_iff.mp found
  obtain ⟨member, matched⟩ := mem_of_mem_search (List.mem_of_head? first)
  cases document with
  | llmView => simp [Document.viewId] at matched
  | memory properties =>
    refine ⟨properties, member, ?_⟩
    simpa [Document.viewId, Document.memoryId, Document.properties, named] using matched

variable (engine now) (database : IcingMetaDatabase ν) (memory : Memory ν) (blobId : BlobId)

/-- An unexpired version is deleted first. -/
theorem addMemory_ok : ∃ cleared : IcingMetaDatabase ν,
    database.addMemory engine now memory blobId = .ok (cleared.putMemoryWithViews
      (memory.pendingMetadata blobId) (memory.pendingViews blobId)) ∧
    (∀ document ∈ cleared.index.items, document ∈ database.index.items) ∧
    ∀ document ∈ database.index.items, document.memoryId ≠ memory.id →
      document ∈ cleared.index.items := by
  cases found : engine.getBlobIdByMemoryId now database.index memory.id with
  | none =>
    refine ⟨database, ?_, fun _ => id, fun _ member _ => member⟩
    simp only [IcingMetaDatabase.addMemory, found]
    rfl
  | some old =>
    obtain ⟨properties, member, same, _⟩ := of_getBlobIdByMemoryId memory.identified found
    obtain ⟨after, deleted, left⟩ := deleteMemoryDocuments_ok engine member
    have existing : database.index.get? memory.id = some (.memory properties) :=
      Keyed.get?_eq_some.mpr ⟨member, same⟩
    rw [same] at deleted left
    refine ⟨⟨after, database.appliedOperations ++ [.remove memory.id properties.blobId]⟩, ?_,
      fun document member => ((left document).mp member).1.1, ?_⟩
    · simp only [IcingMetaDatabase.addMemory, found, Engine.deleteMemories, List.foldlM_cons,
        Engine.deleteMemory, existing, deleted]
      rfl
    · intro document kept foreign
      refine (left document).mpr ⟨⟨kept, fun view => ?_⟩, ?_⟩
      · exact foreign (mem_viewDocuments view).2.2
      · rintro rfl
        exact foreign same

end Adding

/-- No document of the memory has the uri of another one of them, or of a document of another
memory. -/
def Memory.Separate (memory : Memory ν) (blobId : BlobId) (index : Index ν) : Prop :=
  (∀ document ∈ memory.documents blobId, ∀ other ∈ index.items,
    document.uri = other.uri → other.memoryId = memory.id) ∧
  ∀ document ∈ memory.documents blobId, ∀ other ∈ memory.documents blobId,
    document.uri = other.uri → document = other

theorem memoryId_of_mem_documents {memory : Memory ν} {blobId : BlobId} {document : Document ν}
    (member : document ∈ memory.documents blobId) : document.memoryId = memory.id := by
  rcases List.mem_cons.mp member with rfl | view
  · rfl
  · obtain ⟨llmView, _, made⟩ := List.mem_filterMap.mp view
    obtain ⟨embedding, _, rfl⟩ := Option.map_eq_some_iff.mp made
    rfl

end Oak.PrivateMemory
