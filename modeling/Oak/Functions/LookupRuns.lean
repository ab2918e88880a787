import Oak.Functions.LookupRefinement

namespace Oak.Functions

open Oak.Data Oak.Data.OpenAddressing

/-! Whole runs of `reserve` and `insert` calls, against a finite map, and the two
limits of the table: lengths of more than thirty bits, and a reserved number of
entries for which the size of the table overflows. -/

/-- The same calls on a finite map: `reserve` does nothing, `insert` answers with the previous
value. -/
def runOnMap (map : Finmap fun _ : Bytes => Bytes) :
    List Call → List (Option Bytes) × Finmap fun _ : Bytes => Bytes
  | [] => ([], map)
  | .reserve _ _ :: calls => runOnMap map calls
  | .insert key value _ :: calls =>
    let rest := runOnMap (map.insert key value) calls
    (map.lookup key :: rest.1, rest.2)

/-- The sizes the table is made for: lengths of thirty bits, and a number of entries whose table
size is computed without overflow. -/
def Call.Sized : Call → Prop
  | .reserve maxEntries _ => 5 * maxEntries + 1 < 2 ^ 64
  | .insert key value _ => key.length < 2 ^ 30 ∧ value.length < 2 ^ 30

namespace LookupHtbl

variable {htbl : LookupHtbl} {map : Finmap fun _ : Bytes => Bytes}

theorem run_refines {calls : List Call}
    (refines : htbl.Refines map) (sized : ∀ call ∈ calls, call.Sized)
    (calm : ∀ message, htbl.run calls ≠ .error (.panic message))
    (indexed : ∀ earlier answers after, earlier <+: calls →
      htbl.run earlier = .ok (answers, after) → after.usedData ≤ 2 ^ 40) :
    ∃ after, htbl.run calls = .ok ((runOnMap map calls).1, after) ∧
      after.Refines (runOnMap map calls).2 := by
  induction calls generalizing htbl map with
  | nil => exact ⟨htbl, rfl, refines⟩
  | cons call calls ih =>
    have first := sized call List.mem_cons_self
    have others : ∀ later ∈ calls, later.Sized := fun later member =>
      sized later (List.mem_cons_of_mem _ member)
    cases call with
    | reserve maxEntries random =>
      rcases reserve_refines refines first random with
        ⟨message, panics⟩ | ⟨next, returned, refined⟩
      · exact absurd (by simp only [run, panics, bind, Except.bind]) (calm message)
      · simp only [run, returned] at calm ⊢
        refine ih refined others calm fun earlier answers after before ran => ?_
        refine indexed (.reserve maxEntries random :: earlier) answers after
          ((List.prefix_cons_inj _).mpr before) ?_
        simp only [run, returned, bind, Except.bind, ran]
    | insert key value random =>
      rcases insert_refines refines first.1 first.2 random with
        ⟨⟨message, panics⟩, -⟩ | ⟨-, next, returned, refined⟩
      · exact absurd (by simp only [run, panics, bind, Except.bind]) (calm message)
      · have step : htbl.run [.insert key value random] = .ok ([map.lookup key], next) := by
          simp only [run, returned, bind, Except.bind, pure, Except.pure]
        have small : next.usedData ≤ 2 ^ 40 := by
          refine indexed [.insert key value random] _ next ?_ step
          exact (List.prefix_cons_inj _).mpr List.nil_prefix
        have quiet : ∀ message, next.run calls ≠ .error (.panic message) := by
          intro message panics
          exact calm message (by simp only [run, returned, panics, bind, Except.bind])
        obtain ⟨after, ran, agrees⟩ := ih (refined small) others quiet
          fun earlier answers after before ran => by
            refine indexed (.insert key value random :: earlier) (map.lookup key :: answers)
              after ((List.prefix_cons_inj _).mpr before) ?_
            simp only [run, returned, bind, Except.bind, ran, pure, Except.pure]
        refine ⟨after, ?_, agrees⟩
        simp only [run, runOnMap, returned, bind, Except.bind, ran, pure, Except.pure]

theorem default_refines : default.Refines ∅ := Or.inl ⟨rfl, rfl, rfl⟩

/-- The table after the first pair was stored behind a freshly reserved table. -/
def holding (longer : LookupHtbl) (key : Bytes) (dataIndex : Nat) : LookupHtbl :=
  { longer with
    table := longer.table.set (longer.home key)
      (writeIndex { Entry.default with hashByte := keyHashByte longer.hashSecret key } dataIndex)
    usedEntries := 1 }

variable {maxEntries allocatedEntries : Nat} {random : UInt64} {key value : Bytes}

theorem fits_iff (layout : htbl.Layout)
    (small : 2 * indexSize + key.length + value.length < htbl.chunkSize) :
    htbl.Fits key value ↔
      htbl.dataChunks ≠ [] ∨ 2 * indexSize + key.length + value.length + 1 < htbl.chunkSize := by
  have near : htbl.Fits key value ↔ (htbl.usedData + (2 * indexSize + key.length + value.length))
      / htbl.chunkSize ≤ htbl.dataChunks.length := ⟨Fits.near, fun near => ⟨small, near⟩⟩
  rw [near]
  rcases layout.used with ⟨noChunk, start⟩ | someChunk
  · rw [noChunk, start, List.length_nil, Nat.le_zero, Nat.div_eq_zero_iff_lt layout.chunkSize_pos]
    simp [Nat.add_comm]
  · have chunk : htbl.dataChunks ≠ [] := by
      rw [← List.length_pos_iff, someChunk]
      exact Nat.succ_pos _
    refine iff_of_true ?_ (Or.inl chunk)
    rw [someChunk, ← Nat.add_div_right _ layout.chunkSize_pos]
    exact Nat.div_le_div_right (Nat.add_le_add_left (Nat.le_of_lt small) _)

theorem insert_first (allocated : 0 < allocatedEntries) (wanted : 0 < maxEntries)
    (small : 2 * indexSize + key.length + value.length + 1 < chunkSizeFor allocatedEntries)
    (shortKey : key.length < 2 ^ 38) (shortValue : value.length < 2 ^ 38) (unused : UInt64) :
    ∃ dataIndex longer,
      (reserved maxEntries allocatedEntries random).Extends longer dataIndex key value ∧
      (reserved maxEntries allocatedEntries random).insert key value unused
        = .ok (none, longer.holding key dataIndex) := by
  have valid := reserved_valid maxEntries allocatedEntries random
  obtain ⟨dataIndex, longer, stored, extended⟩ := newData_ok valid.layout
    ((fits_iff valid.layout (Nat.lt_of_succ_lt small)).mpr (Or.inr small)) shortKey shortValue
  refine ⟨dataIndex, longer, extended, ?_⟩
  have table : longer.table = List.replicate allocatedEntries Entry.default := by
    rw [extended.frame]
    rfl
  have entries : longer.usedEntries = 0 := by
    rw [extended.frame]
    rfl
  have nonempty : longer.table ≠ [] := by
    rw [table, ne_eq, List.replicate_eq_nil_iff]
    omega
  have inside : longer.home key < allocatedEntries := by
    have bound := reduce_lt (hash key longer.hashSecret) (List.length_pos_iff.mpr nonempty)
    simpa [home, table] using bound
  have answered := lookup_eq_answer (valid.extend extended) nonempty key
  rw [search_empty inside] at answered
  have there : longer.table[longer.home key]? = some Entry.default := by
    rw [table, List.getElem?_replicate_of_lt inside]
  have ready : (reserved maxEntries allocatedEntries random).makeRoom unused
      = .ok (reserved maxEntries allocatedEntries random) := by
    have entered : (reserved maxEntries allocatedEntries random).table ≠ [] := by
      rw [← List.length_pos_iff]
      simpa [reserved] using allocated
    rw [makeRoom, if_neg entered, if_neg (by simp only [reserved]; omega)]
  simp only [insert, ready, stored, link, answered, answer, indexed, there, bind, Except.bind, pure,
    Except.pure, holding, entries]

variable {dataIndex : Nat}

theorem holding_lookup {longer : LookupHtbl} (nonempty : longer.table ≠ [])
    (layout : longer.Layout) (holds : longer.Holds dataIndex key value)
    (shortKey : key.length < 2 ^ 30) (indexed : dataIndex < 2 ^ 40) :
    (longer.holding key dataIndex).lookup key = .ok (.found (longer.home key) dataIndex) := by
  have inside : longer.home key < longer.table.length :=
    reduce_lt _ (List.length_pos_iff.mpr nonempty)
  have held : (longer.holding key dataIndex).Holds dataIndex key value :=
    holds.withTable rfl rfl rfl
  have read := held.readKey { layout with } shortKey
  have pointed : readIndex (writeIndex { Entry.default with
      hashByte := keyHashByte longer.hashSecret key } dataIndex) = dataIndex :=
    readIndex_writeIndex indexed
  obtain ⟨fuel, length⟩ := Nat.exists_eq_succ_of_ne_zero (Nat.ne_of_gt (Nat.zero_lt_of_lt inside))
  have filled : (longer.holding key dataIndex).table ≠ [] := by
    rw [← List.length_pos_iff, holding, List.length_set]
    omega
  have size : (longer.holding key dataIndex).table.length = fuel + 1 := by
    rw [holding, List.length_set, length]
  have start : reduce (hash key (longer.holding key dataIndex).hashSecret) (fuel + 1)
      = longer.home key := by
    rw [home, length]
    rfl
  have there : (longer.holding key dataIndex).table[longer.home key]?
      = some (writeIndex { Entry.default with
          hashByte := keyHashByte longer.hashSecret key } dataIndex) := by
    rw [holding, List.getElem?_set_self inside]
  have secret : (longer.holding key dataIndex).hashSecret = longer.hashSecret := rfl
  rw [lookup, if_neg filled, size, start]
  simp only [probe, Oak.Functions.indexed, there, pointed, holds.nonzero, read, bind, Except.bind]
  simp [writeIndex, secret, pure, Except.pure]

theorem default_reserve (nonzero : random ≠ 0)
    (capacity : 6 * (((5 * maxEntries + 1) % 2 ^ 64) / 3) < 2 ^ 63) :
    default.reserve maxEntries random
      = .ok (reserved maxEntries (((5 * maxEntries + 1) % 2 ^ 64) / 3) random) := by
  simp only [reserve, newTable, if_pos capacity, nonzero]
  rfl

theorem Extends.index_lt {longer : LookupHtbl}
    (extended : (reserved maxEntries allocatedEntries random).Extends longer dataIndex key value) :
    dataIndex < chunkSizeFor allocatedEntries ∧ longer.usedData < chunkSizeFor allocatedEntries := by
  have limit := extended.limit
  have written := extended.holds.written
  simp only [reserved, List.length_nil] at limit
  omega

theorem run_reserve {next : LookupHtbl} (returned : htbl.reserve maxEntries random = .ok next)
    (calls : List Call) : htbl.run (.reserve maxEntries random :: calls) = next.run calls := by
  simp only [run, returned, bind, Except.bind]

theorem run_insert {next : LookupHtbl} {previous : Option Bytes}
    (returned : htbl.insert key value random = .ok (previous, next)) (calls : List Call) :
    htbl.run (.insert key value random :: calls)
      = (next.run calls).map fun rest => (previous :: rest.1, rest.2) := by
  simp only [run, returned, bind, Except.bind]
  cases next.run calls <;> rfl

theorem Refines.written_layout (refines : htbl.Refines map)
    (random : UInt64) : (htbl.written random).Layout := by
  rw [written]
  split
  · exact (reserved_valid 1 2 random).layout
  · next nonempty =>
      rcases refines with ⟨empty, -⟩ | ⟨slots, models⟩
      · exact absurd empty nonempty
      · exact models.valid.layout

/-- A pair that passes the size check is stored and read back, unless the table cannot grow or the
pair is the first one and one byte too long: address 0 is not used. -/
theorem admitted_insert_iff {calls : List Call} {answers : List (Option Bytes)}
    (sized : ∀ call ∈ calls, call.Sized) (ran : default.run calls = .ok (answers, htbl))
    (indexed : ∀ earlier answers after, earlier <+: calls →
      default.run earlier = .ok (answers, after) → after.usedData ≤ 2 ^ 40)
    (short : (Call.insert key value random).Sized)
    (admitted : 2 * indexSize + key.length + value.length < (htbl.written random).chunkSize) :
    (∃ previous after, htbl.insert key value random = .ok (previous, after) ∧
        (after.usedData ≤ 2 ^ 40 → after.get key = .ok (some value))) ↔
      htbl.Grows random ∧ ((htbl.written random).dataChunks ≠ [] ∨
        2 * indexSize + key.length + value.length + 1 < (htbl.written random).chunkSize) := by
  obtain ⟨reached, again, refines⟩ := run_refines default_refines sized
    (fun message panics => by rw [ran] at panics; cases panics) indexed
  rw [ran] at again
  cases again
  rw [← fits_iff (refines.written_layout random) admitted]
  rcases insert_refines refines short.1 short.2 random with
    ⟨⟨message, panics⟩, cannot⟩ | ⟨can, after, returned, refined⟩
  · refine iff_of_false ?_ cannot
    intro ⟨previous, after, returned, _⟩
    rw [panics] at returned
    cases returned
  · refine iff_of_true ⟨_, after, returned, fun small => ?_⟩ can
    rw [(refined small).get, Finmap.lookup_insert]

theorem admitted_insert_once : ∃ previous after, default.insert [1] [2] 7 = .ok (previous, after) ∧
    (after.usedData ≤ 2 ^ 40 → after.get [1] = .ok (some [2])) := by
  have room : 2 * indexSize + [(1 : UInt8)].length + [(2 : UInt8)].length + 1
      < (default.written 7).chunkSize := by
    decide
  refine (admitted_insert_iff (fun _ none => absurd none List.not_mem_nil) rfl ?_ ⟨by decide, by decide⟩
    (Nat.lt_of_succ_lt room)).mpr ⟨show (7 : UInt64) ≠ 0 by decide, Or.inr room⟩
  intro earlier answers after before returned
  cases List.prefix_nil.mp before
  cases returned
  decide

theorem first_pair_overruns_the_chunk :
    2 * indexSize + ([] : Bytes).length + (List.replicate (2 ^ 21 - 11) (0 : UInt8)).length
        < (default.written 7).chunkSize ∧
      ∃ message, default.insert [] (List.replicate (2 ^ 21 - 11) 0) 7 = .error (.panic message) := by
  have length : (List.replicate (2 ^ 21 - 11) (0 : UInt8)).length = 2 ^ 21 - 11 :=
    List.length_replicate
  have admitted : 2 * indexSize + ([] : Bytes).length
      + (List.replicate (2 ^ 21 - 11) (0 : UInt8)).length < (default.written 7).chunkSize := by
    rw [length]
    decide
  refine ⟨admitted, ?_⟩
  have short : ([] : Bytes).length < 2 ^ 30 := by decide
  rcases insert_refines default_refines short (by rw [length]; decide) 7 with
    ⟨panics, -⟩ | ⟨⟨-, fits⟩, -⟩
  · exact panics
  · rcases (fits_iff (default_refines.written_layout 7) admitted).mp fits with chunk | room
    · exact absurd rfl chunk
    · rw [length] at room
      exact absurd room (by decide)

/-- The number of further bytes, four, does not fit in two bits, and the first byte is zero. -/
theorem lenBytes_gibibyte : lenBytes (2 ^ 30) = [0, 0, 0, 0, 64] := by
  have digits : lenDigits 1073741824 = ([0, 0, 0, 64], 0) := by
    rw [lenDigits_large (by omega), lenDigits_large (by omega), lenDigits_large (by omega),
      lenDigits_large (by omega), lenDigits_small (by omega)]
    rfl
  rw [show 2 ^ 30 = 1073741824 by rfl, lenBytes, digits]
  rfl

theorem readLen_small {data : Bytes} {index : Nat} {byte : UInt8} (there : data[index]? = some byte)
    (small : byte.toNat < 64) : readLen data index = .ok (byte.toNat, 1) := by
  simp only [readLen, indexed, there, bind, Except.bind, if_pos small, pure, Except.pure]

theorem Holds.readValue_gibibyte (holds : htbl.Holds dataIndex [] value) (layout : htbl.Layout)
    (long : value.length = 2 ^ 30) : htbl.readValue dataIndex = .ok [] := by
  obtain ⟨chunk, there, found⟩ := holds.found
  have reads := readsKey_of_prefix (by rw [List.length_nil]; omega) found
  obtain ⟨tail, split⟩ := reads.atValueLen
  rw [long, lenBytes_gibibyte] at split
  have first : chunk[dataIndex % htbl.chunkSize + (lenBytes ([] : Bytes).length).length
      + ([] : Bytes).length]? = some 0 := by
    have head := congrArg List.head? split
    simpa using head.symm
  have inside := (List.getElem?_eq_some_iff.mp first).1
  simp only [LookupHtbl.readValue, indexed, layout.shiftRight, layout.and_chunkMask, there, bind,
    Except.bind, reads.keyLen, readLen_small first (by decide)]
  have none : slice chunk (dataIndex % htbl.chunkSize + (lenBytes ([] : Bytes).length).length
      + ([] : Bytes).length + 1) ([] : Bytes).length = .ok [] := slice_ok inside List.nil_prefix
  exact none

theorem gibibyte_is_lost (long : value.length = 2 ^ 30)
    (reserves : default.reserve maxEntries random = .ok (reserved maxEntries allocatedEntries random))
    (allocated : 0 < allocatedEntries) (wanted : 0 < maxEntries)
    (least : 2 ^ 30 + 11 < chunkSizeFor allocatedEntries)
    (most : chunkSizeFor allocatedEntries ≤ 2 ^ 40) :
    ∃ after, default.run [.reserve maxEntries random, .insert [] value 1] = .ok ([none], after) ∧
      after.usedData ≤ 2 ^ 40 ∧ after.get [] = .ok (some []) := by
  obtain ⟨dataIndex, longer, extended, inserted⟩ :=
    @insert_first maxEntries allocatedEntries random [] value allocated wanted
      (by simp only [indexSize, List.length_nil]; omega) (by simp) (by omega) 1
  have bounds := extended.index_lt
  have layout : (longer.holding [] dataIndex).Layout := { extended.layout with }
  have held : (longer.holding [] dataIndex).Holds dataIndex [] value :=
    extended.holds.withTable rfl rfl rfl
  have used : ¬ (longer.holding [] dataIndex).isEmpty = true := by simp [isEmpty, holding]
  have nonempty : longer.table ≠ [] := by
    rw [extended.frame, ← List.length_pos_iff]
    simpa only [reserved, List.length_replicate] using allocated
  refine ⟨longer.holding [] dataIndex, ?_, ?_, ?_⟩
  · rw [run_reserve reserves, run_insert inserted]
    rfl
  · simp only [holding]
    omega
  · rw [get, if_neg used,
      holding_lookup nonempty extended.layout extended.holds (by simp) (by omega)]
    simp only [held.readValue_gibibyte layout long, bind, Except.bind, pure, Except.pure]

/-- A table of a single slot, as an overflowing size leaves it: once the slot is taken, the search
for another key goes round it forever. -/
theorem second_insert_loops (many : 1 < maxEntries) :
    (reserved maxEntries 1 random).run [.insert [] [] 1, .insert [0] [] 1] = .error .loops := by
  have least := (le_chunkSizeFor 1).2
  have most : chunkSizeFor 1 ≤ 2 ^ 21 := chunkSizeFor_le (by omega) (by omega)
  obtain ⟨dataIndex, longer, extended, inserted⟩ := @insert_first maxEntries 1 random [] []
    (by omega) (by omega) (by simp only [indexSize, List.length_nil]; omega) (by simp) (by simp) 1
  have valid := (reserved_valid maxEntries 1 random).extend extended
  have bounds := extended.index_lt
  have single : longer.table.length = 1 := valid.length_eq
  have slot : longer.home [] < 1 := by
    rw [home, single]
    exact reduce_lt _ Nat.one_pos
  have taken : (longer.holding [] dataIndex).Valid [some ([], [])] := by
    have stored : longer.Stored (writeIndex { Entry.default with
        hashByte := keyHashByte longer.hashSecret [] } dataIndex) (some ([], [])) := by
      refine ⟨rfl, ?_, by simp, by simp⟩
      rw [readIndex_writeIndex (by omega)]
      exact extended.holds
    have filled := valid.set stored (valid.placed.fill slot (search_empty slot) []) 1
    have first : (List.replicate 1 (none : Option (Bytes × Bytes))).set (longer.home [])
        (some ([], [])) = [some ([], [])] := by
      rw [Nat.lt_one_iff.mp slot]
      rfl
    rwa [first] at filled
  have size : longer.chunkSize = chunkSizeFor 1 := by
    rw [extended.frame]
    rfl
  have fits : (longer.holding [] dataIndex).Fits [0] [] := by
    obtain ⟨chunk, there, -⟩ := extended.holds.found
    refine (fits_iff taken.layout ?_).mpr (Or.inl (List.ne_nil_of_mem (List.mem_of_getElem? there)))
    simp only [holding, indexSize, List.length_singleton, List.length_nil]
    omega
  obtain ⟨later, fuller, written, again⟩ :=
    newData_ok taken.layout fits (by simp) (by simp)
  have full : fuller.table.length = 1 := (taken.extend again).length_eq
  have nonempty : fuller.table ≠ [] := by
    rw [← List.length_pos_iff, full]
    exact Nat.one_pos
  have start : fuller.home [0] = 0 := by
    rw [home, full]
    exact Nat.lt_one_iff.mp (reduce_lt _ Nat.one_pos)
  have answered := lookup_eq_answer (taken.extend again) nonempty [0]
  have endless : search fuller.home [some (([] : Bytes), ([] : Bytes))] [0] = none := by
    rw [search, start]
    rfl
  rw [endless] at answered
  have ready : (longer.holding [] dataIndex).makeRoom 1 = .ok (longer.holding [] dataIndex) := by
    have entered : (longer.holding [] dataIndex).table ≠ [] := by
      rw [← List.length_pos_iff, taken.length_eq]
      exact Nat.one_pos
    have below : ¬ (longer.holding [] dataIndex).maxEntries
        ≤ (longer.holding [] dataIndex).usedEntries := by
      have same : longer.maxEntries = maxEntries := by
        rw [extended.frame]
        rfl
      simp only [holding]
      omega
    rw [makeRoom, if_neg entered, if_neg below]
  have stuck : (longer.holding [] dataIndex).insert [0] [] 1 = .error .loops := by
    simp only [insert, ready, written, link, answered, answer, bind, Except.bind]
  rw [run_insert inserted, run, stuck]
  rfl

end LookupHtbl

end Oak.Functions
