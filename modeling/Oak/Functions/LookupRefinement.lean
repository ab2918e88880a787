import Oak.Data.OpenAddressing
import Oak.Functions.LookupData

namespace Oak.Functions

open Oak.Data Oak.Data.OpenAddressing

/-! The lookup table is a finite map.

`slots` is what the entries of the table stand for, each with the pair its data
index leads to.  Probing the packed entries is the abstract search over `slots`;
from there on the argument is that of open addressing. -/

section Forall

variable {α β : Type} {R : α → β → Prop} {left : List α} {right : List β} {index : Nat}

theorem forall₂_getElem? {first : α} (related : List.Forall₂ R left right)
    (there : left[index]? = some first) : ∃ second, right[index]? = some second ∧ R first second := by
  induction related generalizing index with
  | nil => simp at there
  | cons head _ ih =>
    cases index with
    | zero =>
      cases there
      exact ⟨_, rfl, head⟩
    | succ index => exact ih there

theorem forall₂_set {first : α} {second : β} (related : List.Forall₂ R left right)
    (new : R first second) : List.Forall₂ R (left.set index first) (right.set index second) := by
  induction related generalizing index with
  | nil => exact .nil
  | cons head tail ih =>
    cases index with
    | zero => exact .cons new tail
    | succ index => exact .cons head ih

end Forall

theorem readIndex_default : readIndex Entry.default = 0 := by decide

theorem readIndex_writeIndex {entry : Entry} {value : Nat} (bound : value < 2 ^ 40) :
    readIndex (writeIndex entry value) = value := ofLittleEndian_littleEndian bound

theorem readIndex_lt (entry : Entry) : readIndex entry < 2 ^ 40 := by
  have bound := ofLittleEndian_lt entry.dataIndex.toList
  rwa [List.Vector.toList_length] at bound

theorem reduce_lt (hash : UInt64) {tableLen : Nat} (nonempty : 0 < tableLen) :
    reduce hash tableLen < tableLen := by
  have bound : hash.toNat < 2 ^ 64 := hash.toNat_lt
  rw [reduce, Nat.shiftRight_eq_div_pow]
  exact Nat.div_lt_of_lt_mul (Nat.mul_lt_mul_of_pos_right bound nonempty)

namespace LookupHtbl

variable {htbl after : LookupHtbl} {key value : Bytes} {slots : List (Option (Bytes × Bytes))}

def home (htbl : LookupHtbl) (key : Bytes) : Nat :=
  reduce (hash key htbl.hashSecret) htbl.table.length

/-- What an entry stands for.  The hash byte of a stored key may be zero: only the data index tells
a free entry. -/
def Stored (htbl : LookupHtbl) (entry : Entry) : Option (Bytes × Bytes) → Prop
  | none => entry.hashByte = 0 ∧ readIndex entry = 0
  | some (key, value) =>
    entry.hashByte = keyHashByte htbl.hashSecret key ∧ htbl.Holds (readIndex entry) key value ∧
      key.length < 2 ^ 30 ∧ value.length < 2 ^ 30

theorem Stored.mono {entry : Entry} {slot : Option (Bytes × Bytes)} (stored : htbl.Stored entry slot)
    (kept : ∀ dataIndex key value, htbl.Holds dataIndex key value → after.Holds dataIndex key value)
    (secret : after.hashSecret = htbl.hashSecret) : after.Stored entry slot := by
  cases slot with
  | none => exact stored
  | some pair =>
    obtain ⟨hashed, holds, lengths⟩ := stored
    refine ⟨?_, kept _ _ _ holds, lengths⟩
    rw [secret, hashed]

theorem stored_default : htbl.Stored Entry.default none := ⟨rfl, readIndex_default⟩

/-- The state of the table and the data, without the bookkeeping of the load. -/
structure Valid (htbl : LookupHtbl) (slots : List (Option (Bytes × Bytes))) : Prop where
  layout : htbl.Layout
  stored : List.Forall₂ htbl.Stored htbl.table slots
  placed : Placed htbl.home slots

theorem Valid.length_eq (valid : htbl.Valid slots) : htbl.table.length = slots.length :=
  valid.stored.length_eq

theorem Valid.home_lt (valid : htbl.Valid slots) (nonempty : htbl.table ≠ []) (key : Bytes) :
    htbl.home key < slots.length := by
  rw [← valid.length_eq]
  exact reduce_lt _ (List.length_pos_iff.mpr nonempty)

variable {dataIndex tableIndex : Nat}

theorem Holds.withTable (holds : htbl.Holds dataIndex key value)
    (data : after.dataChunks = htbl.dataChunks) (used : after.usedData = htbl.usedData)
    (size : after.chunkSize = htbl.chunkSize) : after.Holds dataIndex key value := by
  obtain ⟨nonzero, written, found⟩ := holds
  refine ⟨nonzero, ?_, ?_⟩
  · rw [used]
    exact written
  · rw [data, size]
    exact found

/-- The answer of `lookup` to a search over the slots. -/
def answer (htbl : LookupHtbl) (key : Bytes) : Option Probe → Run LookupResult
  | none => .error .loops
  | some (.found index) =>
    .ok (.found index ((htbl.table[index]?.map readIndex).getD 0))
  | some (.free index) => .ok (.notFound index (keyHashByte htbl.hashSecret key))

theorem advance_eq (inside : tableIndex < htbl.table.length) :
    htbl.advance tableIndex = (tableIndex + 1) % htbl.table.length := by
  rw [advance]
  split
  · next last => rw [last, Nat.mod_self]
  · next inner => rw [Nat.mod_eq_of_lt (by omega)]

section

variable (valid : htbl.Valid slots)

include valid

theorem probe_eq_answer (key : Bytes) {fuel : Nat} (inside : tableIndex < htbl.table.length) :
    htbl.probe key (keyHashByte htbl.hashSecret key) fuel tableIndex
      = htbl.answer key (OpenAddressing.probe slots key fuel tableIndex) := by
  induction fuel generalizing tableIndex with
  | zero => rfl
  | succ fuel ih =>
    have there : htbl.table[tableIndex]? = some htbl.table[tableIndex] :=
      List.getElem?_eq_getElem inside
    obtain ⟨slot, content, stored⟩ := forall₂_getElem? valid.stored there
    have wrapped : htbl.advance tableIndex < htbl.table.length := by
      rw [advance_eq inside]
      exact Nat.mod_lt _ (by omega)
    have onwards := ih wrapped
    rw [advance_eq inside, valid.length_eq] at onwards
    simp only [probe, OpenAddressing.probe, indexed, there, content, bind, Except.bind,
      advance_eq inside, valid.length_eq]
    cases slot with
    | none =>
      obtain ⟨zero, free⟩ := stored
      simp [zero, free, answer, pure, Except.pure]
    | some pair =>
      obtain ⟨hashed, holds, shortKey, -⟩ := stored
      by_cases same : pair.1 = key
      · -- the hash byte of the key leads to the comparison, which succeeds
        have reads := holds.readKey valid.layout shortKey
        simp [hashed, holds.nonzero, reads, same, answer, there, pure, Except.pure]
      · simp only [holds.nonzero, if_false]
        split
        · exact onwards
        · split
          · rw [holds.readKey valid.layout shortKey]
            simp only [if_neg (Ne.symm same)]
            exact onwards
          · exact onwards

theorem lookup_eq_answer (nonempty : htbl.table ≠ []) (key : Bytes) :
    htbl.lookup key = htbl.answer key (search htbl.home slots key) := by
  rw [lookup, if_neg nonempty, search, ← valid.length_eq]
  exact probe_eq_answer valid key (reduce_lt _ (List.length_pos_iff.mpr nonempty))

theorem lookup_cases (room : none ∈ slots) (key : Bytes) :
    (∃ index entry value, htbl.lookup key = .ok (.found index (readIndex entry)) ∧
      htbl.table[index]? = some entry ∧ slots[index]? = some (some (key, value)) ∧
      htbl.Stored entry (some (key, value))) ∨
    (∃ index entry, htbl.lookup key = .ok (.notFound index (keyHashByte htbl.hashSecret key)) ∧
      htbl.table[index]? = some entry ∧ slots[index]? = some none ∧
      search htbl.home slots key = some (.free index)) := by
  have nonempty : htbl.table ≠ [] := by
    intro empty
    have none : slots = [] := by
      rw [← List.length_eq_zero_iff, ← valid.length_eq, empty]
      rfl
    rw [none] at room
    cases room
  have inside := valid.home_lt nonempty key
  obtain ⟨result, ended⟩ := search_ends inside room
  have answered := lookup_eq_answer valid nonempty key
  rw [ended] at answered
  have rests := (probe_spec inside ended).1
  cases result with
  | found index =>
    obtain ⟨value, content⟩ := rests
    have bound : index < htbl.table.length := by
      rw [valid.length_eq]
      exact (List.getElem?_eq_some_iff.mp content).1
    have there : htbl.table[index]? = some htbl.table[index] := List.getElem?_eq_getElem bound
    obtain ⟨slot, same, stored⟩ := forall₂_getElem? valid.stored there
    rw [content] at same
    cases same
    refine Or.inl ⟨index, htbl.table[index], value, ?_, there, content, stored⟩
    rw [answered, answer, there]
    rfl
  | free index =>
    have bound : index < htbl.table.length := by
      rw [valid.length_eq]
      exact (List.getElem?_eq_some_iff.mp rests).1
    exact Or.inr ⟨index, htbl.table[index], answered, List.getElem?_eq_getElem bound, rests, ended⟩

theorem Valid.set {index : Nat} {entry : Entry} (new : htbl.Stored entry (some (key, value)))
    (placed : Placed htbl.home (slots.set index (some (key, value)))) (usedEntries : Nat) :
    Valid { htbl with table := htbl.table.set index entry, usedEntries }
      (slots.set index (some (key, value))) where
  layout := { valid.layout with }
  stored := by
    have related : List.Forall₂ htbl.Stored (htbl.table.set index entry)
        (slots.set index (some (key, value))) := forall₂_set valid.stored new
    exact related.imp fun _ _ stored =>
      stored.mono (fun _ _ _ holds => holds.withTable rfl rfl rfl) rfl
  placed := by
    intro position other content held
    have path := placed position other content held
    simp only [home, List.length_set] at path ⊢
    exact path

theorem rehash_valid {oldTable : List Entry} {oldSlots : List (Option (Bytes × Bytes))} (old : List.Forall₂ htbl.Stored oldTable oldSlots)
    (distinct : ((slots.reduceOption ++ oldSlots.reduceOption).map Prod.fst).Nodup)
    (room : slots.reduceOption.length + oldSlots.reduceOption.length < slots.length) :
    ∃ table newSlots, htbl.rehash oldTable = .ok { htbl with table } ∧
      Valid { htbl with table } newSlots ∧ newSlots.length = slots.length ∧
      newSlots.reduceOption.Perm (slots.reduceOption ++ oldSlots.reduceOption) := by
  -- the invariant: the entries met so far are in the new table, and the next one is not
  induction oldTable generalizing htbl slots oldSlots with
  | nil =>
    cases old
    exact ⟨htbl.table, slots, rfl, valid, rfl, by simp⟩
  | cons entry oldTable ih =>
    cases old with
    | @cons _ slot _ oldSlots head tail =>
      cases slot with
      | none =>
        rw [List.reduceOption_cons_of_none] at distinct room ⊢
        simp only [rehash, head.2]
        exact ih valid tail distinct room
      | some pair =>
        obtain ⟨key, value⟩ := pair
        obtain ⟨hashed, holds, shortKey, shortValue⟩ := head
        rw [List.reduceOption_cons_of_some] at distinct room ⊢
        rw [List.length_cons] at room
        have free : none ∈ slots := by
          rw [← List.reduceOption_length_lt_iff]
          omega
        have fresh : ∀ content, some (key, content) ∉ slots := by
          intro content member
          rw [List.map_append, List.nodup_append] at distinct
          refine distinct.2.2 key ?_ key (by simp) rfl
          exact List.mem_map_of_mem (List.reduceOption_mem_iff.mpr member)
        rcases lookup_cases valid free key with
          ⟨_, _, content, _, _, occupied, _⟩ | ⟨index, blank, answered, there, empty, ended⟩
        · exact absurd (List.mem_of_getElem? occupied) (fresh content)
        · let moved := writeIndex { blank with hashByte := keyHashByte htbl.hashSecret key }
            (readIndex entry)
          have stored : htbl.Stored moved (some (key, value)) := by
            refine ⟨rfl, ?_, shortKey, shortValue⟩
            rw [readIndex_writeIndex (readIndex_lt entry)]
            exact holds
          have inside := valid.home_lt (by rintro none; simp [none] at there) key
          have grown := valid.set stored (valid.placed.fill inside ended value)
            htbl.usedEntries
          have contents := set_reduceOption_free empty (key, value)
          have regrouped : ((slots.set index (some (key, value))).reduceOption
              ++ oldSlots.reduceOption).Perm
                (slots.reduceOption ++ (key, value) :: oldSlots.reduceOption) :=
            (contents.append_right _).trans List.perm_middle.symm
          obtain ⟨table, newSlots, finished, validated, length, permuted⟩ := ih grown
            (tail.imp fun _ _ earlier =>
              earlier.mono (fun _ _ _ held => held.withTable rfl rfl rfl) rfl)
            ((regrouped.map Prod.fst).nodup_iff.mpr distinct)
            (by rw [contents.length_eq, List.length_set, List.length_cons]; omega)
          refine ⟨table, newSlots, ?_, validated, by rw [length, List.length_set],
            permuted.trans regrouped⟩
          simp only [rehash, if_pos holds.nonzero, holds.readKey valid.layout shortKey,
            answered, indexed, there, bind, Except.bind]
          exact finished

end

variable {map : Finmap fun _ : Bytes => Bytes} {maxEntries : Nat} {random : UInt64}

/-- The table holds the pairs of the map and always has a free slot. -/
structure Models (htbl : LookupHtbl) (slots : List (Option (Bytes × Bytes)))
    (map : Finmap fun _ : Bytes => Bytes) : Prop where
  valid : htbl.Valid slots
  represents : Represents slots.reduceOption map
  count : htbl.usedEntries = slots.reduceOption.length
  bounded : htbl.usedEntries ≤ htbl.maxEntries
  reserved : 0 < htbl.maxEntries
  spare : htbl.maxEntries < htbl.table.length
  capacity : 6 * htbl.table.length < 2 ^ 63

theorem Models.room (models : htbl.Models slots map) : none ∈ slots := by
  have count := models.count
  have bounded := models.bounded
  have spare := models.spare
  rw [models.valid.length_eq] at spare
  rw [← List.reduceOption_length_lt_iff]
  omega

theorem Models.nonempty (models : htbl.Models slots map) : htbl.table ≠ [] := by
  intro empty
  have spare := models.spare
  simp [empty] at spare

/-- A table that has not allocated anything yet stands for the empty map. -/
def Refines (htbl : LookupHtbl) (map : Finmap fun _ : Bytes => Bytes) : Prop :=
  (htbl.table = [] ∧ htbl.usedEntries = 0 ∧ map = ∅) ∨ ∃ slots, htbl.Models slots map

theorem Refines.eq_empty (refines : htbl.Refines map) (unused : htbl.usedEntries = 0) :
    map = ∅ := by
  rcases refines with ⟨_, _, empty⟩ | ⟨slots, models⟩
  · exact empty
  · have none : slots.reduceOption = [] := by
      rw [← List.length_eq_zero_iff, ← models.count, unused]
    have represents := models.represents
    rw [none] at represents
    apply Finmap.ext_lookup
    intro key
    rw [represents.lookup_eq_none (by simp), Finmap.lookup_empty]

theorem chunkSizeFor_power (allocatedEntries : Nat) :
    ∃ bits, chunkSizeFor allocatedEntries = 2 ^ bits := by
  by_cases small : nextPowerOfTwo allocatedEntries < 1 <<< 21
  · exact ⟨21, by rw [chunkSizeFor, if_pos small]; rfl⟩
  · exact ⟨Nat.clog 2 allocatedEntries, by rw [chunkSizeFor, if_neg small]; rfl⟩

theorem le_chunkSizeFor (allocatedEntries : Nat) :
    allocatedEntries ≤ chunkSizeFor allocatedEntries ∧ 2 ^ 21 ≤ chunkSizeFor allocatedEntries := by
  have rounded : allocatedEntries ≤ 2 ^ Nat.clog 2 allocatedEntries :=
    Nat.le_pow_clog (by omega) _
  simp only [chunkSizeFor, nextPowerOfTwo, Nat.shiftLeft_eq]
  split <;> omega

theorem chunkSizeFor_le {allocatedEntries bits : Nat} (entries : allocatedEntries ≤ 2 ^ bits)
    (minimum : 21 ≤ bits) : chunkSizeFor allocatedEntries ≤ 2 ^ bits := by
  have rounded : 2 ^ Nat.clog 2 allocatedEntries ≤ 2 ^ bits :=
    Nat.pow_le_pow_right (by omega) (Nat.clog_le_of_le_pow entries)
  have least : 2 ^ 21 ≤ 2 ^ bits := Nat.pow_le_pow_right (by omega) minimum
  simp only [chunkSizeFor, nextPowerOfTwo, Nat.shiftLeft_eq]
  split <;> omega

/-- The table right after a `reserve` that allocates. -/
def reserved (maxEntries allocatedEntries : Nat) (random : UInt64) : LookupHtbl :=
  { table := List.replicate allocatedEntries Entry.default
    dataChunks := []
    maxEntries
    usedData := 1
    usedEntries := 0
    hashSecret := random
    chunkBits := (chunkSizeFor allocatedEntries).log2
    chunkSize := chunkSizeFor allocatedEntries
    chunkMask := chunkSizeFor allocatedEntries - 1 }

theorem reserve_cases (unused : htbl.usedEntries = 0) (maxEntries : Nat) (random : UInt64) :
    let allocatedEntries := ((5 * maxEntries + 1) % 2 ^ 64) / 3
    (∃ message, htbl.reserve maxEntries random = .error (.panic message)) ∧
        ¬ (6 * allocatedEntries < 2 ^ 63 ∧ random ≠ 0) ∨
      (6 * allocatedEntries < 2 ^ 63 ∧ random ≠ 0) ∧
        htbl.reserve maxEntries random = .ok (reserved maxEntries allocatedEntries random) := by
  simp only [reserve, unused, ne_eq, not_true_eq_false, if_false, newTable]
  split
  · next fits =>
      by_cases zero : random = 0
      · exact Or.inl ⟨⟨_, by simp only [zero]; rfl⟩, fun can => can.2 zero⟩
      · refine Or.inr ⟨⟨fits, zero⟩, ?_⟩
        simp only [zero]
        rfl
  · next large => exact Or.inl ⟨⟨_, rfl⟩, fun can => large can.1⟩

theorem reserved_valid (maxEntries allocatedEntries : Nat) (random : UInt64) :
    (reserved maxEntries allocatedEntries random).Valid (List.replicate allocatedEntries none) where
  layout := by
    obtain ⟨bits, power⟩ := chunkSizeFor_power allocatedEntries
    refine ⟨?_, rfl, by simp [reserved], by simp [reserved], Or.inl ⟨rfl, rfl⟩⟩
    simp [reserved, power]
  stored := by
    rw [reserved, List.forall₂_iff_get]
    refine ⟨by simp, fun index _ _ => ?_⟩
    simp only [List.get_eq_getElem, List.getElem_replicate]
    exact stored_default
  placed := placed_empty _ _

theorem reserved_refines (fits : 5 * maxEntries + 1 < 2 ^ 64)
    (capacity : 6 * (((5 * maxEntries + 1) % 2 ^ 64) / 3) < 2 ^ 63) :
    (reserved maxEntries (((5 * maxEntries + 1) % 2 ^ 64) / 3) random).Refines ∅ := by
  rw [Nat.mod_eq_of_lt fits] at capacity ⊢
  by_cases none : maxEntries = 0
  · subst none
    exact Or.inl ⟨rfl, rfl, rfl⟩
  · refine Or.inr ⟨_, reserved_valid _ _ _, ?_, ?_, Nat.zero_le _, Nat.pos_of_ne_zero none, ?_, ?_⟩
    · rw [List.reduceOption_replicate_none]
      exact Represents.empty
    · rw [List.reduceOption_replicate_none]
      rfl
    · simp only [reserved, List.length_replicate]
      omega
    · simpa only [reserved, List.length_replicate] using capacity

theorem reserve_refines (refines : htbl.Refines map) (fits : 5 * maxEntries + 1 < 2 ^ 64)
    (random : UInt64) : (∃ message, htbl.reserve maxEntries random = .error (.panic message)) ∨
      ∃ after, htbl.reserve maxEntries random = .ok after ∧ after.Refines map := by
  by_cases unused : htbl.usedEntries = 0
  · rcases reserve_cases unused maxEntries random with ⟨panics, -⟩ | ⟨⟨capacity, -⟩, returned⟩
    · exact Or.inl panics
    · refine Or.inr ⟨_, returned, ?_⟩
      rw [refines.eq_empty unused]
      exact reserved_refines fits capacity
  · exact Or.inr ⟨htbl, by simp [reserve, unused], refines⟩

theorem growTable_models (models : htbl.Models slots map) :
    (∃ message, htbl.growTable random = .error (.panic message)) ∧
        ¬ 6 * (2 * htbl.table.length) < 2 ^ 63 ∨
      6 * (2 * htbl.table.length) < 2 ^ 63 ∧
        ∃ table newSlots, htbl.growTable random
          = .ok { htbl with table, maxEntries := 2 * htbl.maxEntries } ∧
          Models { htbl with table, maxEntries := 2 * htbl.maxEntries } newSlots map := by
  have nonzero : htbl.maxEntries ≠ 0 := Nat.ne_of_gt models.reserved
  have spare := models.spare
  have capacity := models.capacity
  have longer : (2 * htbl.table.length) % 2 ^ 64 = 2 * htbl.table.length :=
    Nat.mod_eq_of_lt (by omega)
  have more : (2 * htbl.maxEntries) % 2 ^ 64 = 2 * htbl.maxEntries := Nat.mod_eq_of_lt (by omega)
  simp only [growTable, if_neg nonzero, newTable, longer, more]
  split
  · next fits =>
      let blank : LookupHtbl :=
        { htbl with
          table := List.replicate (2 * htbl.table.length) Entry.default
          maxEntries := 2 * htbl.maxEntries }
      have valid : blank.Valid (List.replicate (2 * htbl.table.length) none) := by
        obtain ⟨size, mask, chunks, started, used⟩ := models.valid.layout
        refine ⟨⟨size, mask, chunks, started, used⟩, ?_, placed_empty _ _⟩
        rw [List.forall₂_iff_get]
        refine ⟨by simp [blank], fun index _ _ => ?_⟩
        simp only [blank, List.get_eq_getElem, List.getElem_replicate]
        exact stored_default
      have old : List.Forall₂ blank.Stored htbl.table slots :=
        models.valid.stored.imp fun _ _ stored =>
          stored.mono (fun _ _ _ holds => holds.withTable rfl rfl rfl) rfl
      have count := models.count
      have bounded := models.bounded
      obtain ⟨table, newSlots, finished, validated, length, permuted⟩ := rehash_valid valid old
        (by
          rw [List.reduceOption_replicate_none]
          exact models.represents.nodup)
        (by
          rw [List.reduceOption_replicate_none, List.length_replicate, List.length_nil]
          omega)
      rw [List.reduceOption_replicate_none, List.nil_append] at permuted
      rw [List.length_replicate] at length
      refine Or.inr ⟨fits, table, newSlots, finished, ?_⟩
      have size : table.length = 2 * htbl.table.length := by
        rw [← length]
        exact validated.length_eq
      refine ⟨validated, models.represents.perm permuted.symm, ?_, ?_, ?_, ?_, ?_⟩
      all_goals simp only
      · rw [permuted.length_eq, count]
      all_goals omega
  · next large => exact Or.inl ⟨⟨_, rfl⟩, large⟩

/-- What `insert` needs to get to its size check: a random number for a first table, and the memory
for twice the entries of a full one. -/
def Grows (htbl : LookupHtbl) (random : UInt64) : Prop :=
  if htbl.table = [] then random ≠ 0
  else htbl.maxEntries ≤ htbl.usedEntries → 6 * (2 * htbl.table.length) < 2 ^ 63

/-- The table whose chunks `insert` writes to. -/
def written (htbl : LookupHtbl) (random : UInt64) : LookupHtbl :=
  if htbl.table = [] then reserved 1 2 random else htbl

theorem makeRoom_models (refines : htbl.Refines map) :
    (∃ message, htbl.makeRoom random = .error (.panic message)) ∧ ¬ htbl.Grows random ∨
      htbl.Grows random ∧ ∃ table maxEntries newSlots,
        let after := { htbl.written random with table, maxEntries }
        htbl.makeRoom random = .ok after ∧ after.Models newSlots map ∧
          after.usedEntries < maxEntries := by
  rw [makeRoom, Grows, written]
  split
  · next empty =>
      rcases refines with ⟨_, unused, rfl⟩ | ⟨slots, models⟩
      · rcases reserve_cases unused 1 random with ⟨panics, zero⟩ | ⟨⟨capacity, nonzero⟩, returned⟩
        · exact Or.inl ⟨panics, fun nonzero => zero ⟨by decide, nonzero⟩⟩
        · rcases reserved_refines (by decide) capacity with ⟨none, _⟩ | ⟨newSlots, models⟩
          · cases none
          · exact Or.inr ⟨nonzero, _, _, newSlots, returned, models, Nat.one_pos⟩
      · exact absurd empty models.nonempty
  · next nonempty =>
      rcases refines with ⟨empty, _⟩ | ⟨slots, models⟩
      · exact absurd empty nonempty
      · split
        · next full =>
            rcases growTable_models models with ⟨panics, large⟩ | ⟨fits, table, newSlots, grown⟩
            · exact Or.inl ⟨panics, fun fits => large (fits full)⟩
            · refine Or.inr ⟨fun _ => fits, table, _, newSlots, grown.1, grown.2, ?_⟩
              have bounded := models.bounded
              have reserved := models.reserved
              simp only
              omega
        · next below =>
            exact Or.inr ⟨fun full => absurd full below, htbl.table, htbl.maxEntries, slots, rfl,
              models, Nat.not_le.mp below⟩

theorem Valid.extend (valid : htbl.Valid slots) (longer : htbl.Extends after dataIndex key value) :
    after.Valid slots := by
  have frame := longer.frame
  have table : after.table = htbl.table := by rw [frame]
  have secret : after.hashSecret = htbl.hashSecret := by rw [frame]
  refine ⟨longer.layout, ?_, ?_⟩
  · rw [table]
    exact valid.stored.imp fun _ _ stored => stored.mono longer.kept secret
  · intro position other content held
    have path := valid.placed position other content held
    simp only [home, table, secret] at path ⊢
    exact path

theorem link_models (models : htbl.Models slots map) (below : htbl.usedEntries < htbl.maxEntries)
    (holds : htbl.Holds dataIndex key value) (shortKey : key.length < 2 ^ 30)
    (shortValue : value.length < 2 ^ 30) :
    ∃ after, htbl.link key dataIndex = .ok (map.lookup key, after) ∧
      after.usedData = htbl.usedData ∧
      (dataIndex < 2 ^ 40 → after.Refines (map.insert key value)) := by
  have valid := models.valid
  rcases lookup_cases valid models.room key with
    ⟨index, entry, previous, answered, there, occupied, hashed, old, -, shortPrevious⟩
    | ⟨index, blank, answered, there, empty, ended⟩
  · -- the key is in the table: its entry moves on to the new pair
    obtain ⟨others, before, exchanged⟩ := set_reduceOption_occupied occupied
    have represents := models.represents.perm before
    have present : map.lookup key = some previous :=
      (represents.lookup key previous).mpr List.mem_cons_self
    have unmoved : Holds { htbl with table := htbl.table.set index (writeIndex entry dataIndex) }
        (readIndex entry) key previous := old.withTable rfl rfl rfl
    have layout : Layout { htbl with
        table := htbl.table.set index (writeIndex entry dataIndex) } := { valid.layout with }
    refine ⟨{ htbl with table := htbl.table.set index (writeIndex entry dataIndex) }, ?_, rfl, ?_⟩
    · simp only [link, answered, indexed, there, bind, Except.bind, pure, Except.pure,
        unmoved.readValue layout shortKey shortPrevious, present]
    · intro indexed
      have stored : htbl.Stored (writeIndex entry dataIndex) (some (key, value)) := by
        refine ⟨hashed, ?_, shortKey, shortValue⟩
        rw [readIndex_writeIndex indexed]
        exact holds
      refine Or.inr ⟨_, valid.set stored (valid.placed.replace occupied value) htbl.usedEntries,
        ?_, ?_, models.bounded, models.reserved, ?_, ?_⟩
      · exact (represents.insert_present value).perm (exchanged (key, value)).symm
      · rw [models.count, before.length_eq, (exchanged (key, value)).length_eq]
        rfl
      · simpa only [List.length_set] using models.spare
      · simpa only [List.length_set] using models.capacity
  · -- the key is new and takes the free slot the search stopped at
    have inside := valid.home_lt models.nonempty key
    have absent : ∀ content, (key, content) ∉ slots.reduceOption := by
      intro content member
      exact valid.placed.absent inside ended content (List.reduceOption_mem_iff.mp member)
    have contents := set_reduceOption_free empty (key, value)
    let entry := writeIndex { blank with hashByte := keyHashByte htbl.hashSecret key } dataIndex
    refine ⟨{ htbl with
      table := htbl.table.set index entry, usedEntries := htbl.usedEntries + 1 }, ?_, rfl, ?_⟩
    · simp only [link, answered, indexed, there, bind, Except.bind, pure, Except.pure, entry,
        models.represents.lookup_eq_none absent]
    · intro indexed
      have stored : htbl.Stored entry (some (key, value)) := by
        refine ⟨rfl, ?_, shortKey, shortValue⟩
        rw [readIndex_writeIndex indexed]
        exact holds
      refine Or.inr ⟨_, valid.set stored (valid.placed.fill inside ended value)
        (htbl.usedEntries + 1), ?_, ?_, ?_, models.reserved, ?_, ?_⟩
      · exact (models.represents.insert_absent absent value).perm contents.symm
      · rw [contents.length_eq, models.count]
        rfl
      · exact Nat.succ_le_of_lt below
      · simpa only [List.length_set] using models.spare
      · simpa only [List.length_set] using models.capacity

theorem Models.extend (models : htbl.Models slots map)
    (longer : htbl.Extends after dataIndex key value) : after.Models slots map := by
  have valid := models.valid.extend longer
  obtain ⟨-, represents, count, bounded, reserved, spare, capacity⟩ := models
  rw [longer.frame] at valid ⊢
  exact ⟨valid, represents, count, bounded, reserved, spare, capacity⟩

/-- One `insert` from a state that stands for `map`.  The index of the new pair lies below the data
in use afterwards. -/
theorem insert_refines (refines : htbl.Refines map) (shortKey : key.length < 2 ^ 30)
    (shortValue : value.length < 2 ^ 30) (random : UInt64) :
    (∃ message, htbl.insert key value random = .error (.panic message)) ∧
        ¬ (htbl.Grows random ∧ (htbl.written random).Fits key value) ∨
      (htbl.Grows random ∧ (htbl.written random).Fits key value) ∧
        ∃ after, htbl.insert key value random = .ok (map.lookup key, after) ∧
          (after.usedData ≤ 2 ^ 40 → after.Refines (map.insert key value)) := by
  simp only [insert, bind, Except.bind]
  rcases makeRoom_models refines with
    ⟨⟨message, panics⟩, stuck⟩ | ⟨grows, table, maxEntries, slots, returned, models, below⟩
  · exact Or.inl ⟨⟨message, by rw [panics]⟩, fun admits => stuck admits.1⟩
  · simp only [returned]
    by_cases fits : (htbl.written random).Fits key value
    · obtain ⟨dataIndex, longer, stored, extended⟩ :=
        newData_ok models.valid.layout ⟨fits.small, fits.near⟩ (by omega) (by omega)
      have unfull : longer.usedEntries < longer.maxEntries := by
        rw [extended.frame]
        exact below
      obtain ⟨after, linked, used, refined⟩ :=
        link_models (models.extend extended) unfull extended.holds shortKey shortValue
      refine Or.inr ⟨⟨grows, fits⟩, after, by simp only [stored, linked], fun small => refined ?_⟩
      have written := extended.holds.written
      have nonempty := record_length_pos key value
      omega
    · obtain ⟨message, panics⟩ := newData_panics models.valid.layout
        fun (other : Fits _ key value) => fits ⟨other.small, other.near⟩
      exact Or.inl ⟨⟨message, by simp only [panics]⟩, fun admits => fits admits.2⟩

/-- What a caller sees of the table is what it sees of the map. -/
structure AgreesWith (htbl : LookupHtbl) (map : Finmap fun _ : Bytes => Bytes) : Prop where
  get : ∀ key, htbl.get key = .ok (map.lookup key)
  containsKey : ∀ key, htbl.containsKey key = .ok (decide (key ∈ map))
  len : htbl.len = map.keys.card
  items : ∃ pairs, htbl.items = .ok pairs ∧ (pairs.map Prod.fst).Nodup ∧
    ∀ key value, (key, value) ∈ pairs ↔ map.lookup key = some value

theorem lookup_models (models : htbl.Models slots map) (key : Bytes) :
    (∃ index entry value, htbl.lookup key = .ok (.found index (readIndex entry)) ∧
      htbl.readValue (readIndex entry) = .ok value ∧ map.lookup key = some value) ∨
    ∃ index hashByte, htbl.lookup key = .ok (.notFound index hashByte) ∧ map.lookup key = none := by
  have valid := models.valid
  rcases lookup_cases valid models.room key with
    ⟨index, entry, value, answered, -, occupied, -, holds, shortKey, shortValue⟩
    | ⟨index, blank, answered, -, -, ended⟩
  · refine Or.inl ⟨index, entry, value, answered,
      holds.readValue valid.layout shortKey shortValue, ?_⟩
    rw [models.represents.lookup]
    exact List.reduceOption_mem_iff.mpr (List.mem_of_getElem? occupied)
  · refine Or.inr ⟨index, _, answered, models.represents.lookup_eq_none fun content member => ?_⟩
    exact valid.placed.absent (valid.home_lt models.nonempty key) ended content
      (List.reduceOption_mem_iff.mp member)

theorem Refines.get (refines : htbl.Refines map) (key : Bytes) :
    htbl.get key = .ok (map.lookup key) := by
  rw [LookupHtbl.get]
  split
  · next empty =>
      have unused : htbl.usedEntries = 0 := by simpa [isEmpty] using empty
      rw [refines.eq_empty unused, Finmap.lookup_empty]
  · next used =>
      rcases refines with ⟨-, unused, -⟩ | ⟨slots, models⟩
      · simp [isEmpty, unused] at used
      · rcases lookup_models models key with
          ⟨index, entry, value, answered, read, present⟩ | ⟨index, hashByte, answered, absent⟩
        · simp only [answered, read, present, bind, Except.bind, pure, Except.pure]
        · simp only [answered, absent, bind, Except.bind, pure, Except.pure]

theorem Refines.containsKey (refines : htbl.Refines map) (key : Bytes) :
    htbl.containsKey key = .ok (decide (key ∈ map)) := by
  rw [LookupHtbl.containsKey]
  rcases refines with ⟨empty, -, rfl⟩ | ⟨slots, models⟩
  · rw [if_pos empty]
    simp [Finmap.notMem_empty]
  · rw [if_neg models.nonempty]
    rcases lookup_models models key with
      ⟨index, entry, value, answered, -, present⟩ | ⟨index, hashByte, answered, absent⟩
    · have member : key ∈ map := Finmap.lookup_isSome.mp (by rw [present]; rfl)
      simp [answered, bind, Except.bind, pure, Except.pure, member]
    · have missing : key ∉ map := Finmap.lookup_eq_none.mp absent
      simp [answered, bind, Except.bind, pure, Except.pure, missing]

theorem Refines.len (refines : htbl.Refines map) : htbl.len = map.keys.card := by
  rw [LookupHtbl.len]
  rcases refines with ⟨-, unused, rfl⟩ | ⟨slots, models⟩
  · rw [unused, Finmap.keys_empty, Finset.card_empty]
  · rw [models.count, models.represents.card_keys]

/-- `next` moves to the first occupied slot it has not passed yet. -/
theorem next_cases (valid : htbl.Valid slots) (tableIndex : Nat) :
    ((slots.drop tableIndex).reduceOption = [] ∧
      ∃ last, LookupHtblIter.next { htbl, tableIndex } = .ok (none, last)) ∨
    ∃ position pair, tableIndex ≤ position ∧ position < slots.length ∧
      LookupHtblIter.next { htbl, tableIndex }
        = .ok (some pair, { htbl, tableIndex := position + 1 }) ∧
      (slots.drop tableIndex).reduceOption = pair :: (slots.drop (position + 1)).reduceOption := by
  by_cases inside : tableIndex < htbl.table.length
  · have there : htbl.table[tableIndex]? = some htbl.table[tableIndex] :=
      List.getElem?_eq_getElem inside
    obtain ⟨slot, content, stored⟩ := forall₂_getElem? valid.stored there
    obtain ⟨bound, exactly⟩ := List.getElem?_eq_some_iff.mp content
    have split : slots.drop tableIndex = slot :: slots.drop (tableIndex + 1) := by
      rw [← exactly, List.drop_eq_getElem_cons bound]
    rw [LookupHtblIter.next, split]
    simp only [dif_pos inside]
    cases slot with
    | none =>
      simp only [stored.2]
      rcases next_cases valid (tableIndex + 1) with
        ended | ⟨position, pair, later, within, returned, rest⟩
      · exact Or.inl ended
      · exact Or.inr ⟨position, pair, by omega, within, returned, rest⟩
    | some pair =>
      obtain ⟨-, holds, shortKey, shortValue⟩ := stored
      refine Or.inr ⟨tableIndex, pair, Nat.le_refl _, bound, ?_,
        List.reduceOption_cons_of_some _ _⟩
      simp [holds.nonzero, bind, Except.bind, holds.readPair valid.layout shortKey shortValue, pure,
        Except.pure]
  · refine Or.inl ⟨?_, _, by rw [LookupHtblIter.next, dif_neg inside]⟩
    rw [List.drop_eq_nil_of_le (by rw [← valid.length_eq]; omega)]
    rfl
termination_by htbl.table.length - tableIndex

theorem collect_eq (valid : htbl.Valid slots) {fuel : Nat}
    (enough : slots.length - tableIndex < fuel) :
    LookupHtblIter.collect fuel { htbl, tableIndex }
      = .ok (slots.drop tableIndex).reduceOption := by
  induction fuel generalizing tableIndex with
  | zero => omega
  | succ fuel ih =>
    rw [LookupHtblIter.collect]
    rcases next_cases valid tableIndex with
      ⟨none, last, returned⟩ | ⟨position, pair, later, within, returned, rest⟩
    · simp only [returned, none, bind, Except.bind, pure, Except.pure]
    · have shorter : slots.length - (position + 1) < fuel := by omega
      simp only [returned, rest, bind, Except.bind, ih shorter, pure, Except.pure]

theorem Refines.items (refines : htbl.Refines map) :
    ∃ pairs, htbl.items = .ok pairs ∧ (pairs.map Prod.fst).Nodup ∧
      ∀ key value, (key, value) ∈ pairs ↔ map.lookup key = some value := by
  rcases refines with ⟨empty, -, rfl⟩ | ⟨slots, models⟩
  · refine ⟨[], ?_, List.nodup_nil, by simp⟩
    simp [LookupHtbl.items, iter, LookupHtblIter.collect, LookupHtblIter.next, empty, bind,
      Except.bind, pure, Except.pure]
  · refine ⟨slots.reduceOption, ?_, models.represents.nodup,
      fun key value => (models.represents.lookup key value).symm⟩
    rw [LookupHtbl.items, iter, collect_eq models.valid, List.drop_zero]
    rw [models.valid.length_eq]
    omega

theorem Refines.agreesWith (refines : htbl.Refines map) : htbl.AgreesWith map :=
  ⟨refines.get, refines.containsKey, refines.len, refines.items⟩

end LookupHtbl

end Oak.Functions
