import Oak.Functions.LookupHtbl

namespace Oak.Functions

open Oak.Data

/-! The data chunks of the lookup table as a store of records.

A record is written once, past everything written before, and lies within one
chunk; `Holds` says that a record can be found at an index, and every later
`newData` keeps it. -/

def overwrite (data : Bytes) (start : Nat) (source : Bytes) : Bytes :=
  data.take start ++ source ++ data.drop (start + source.length)

section Overwrite

variable {data first second source : Bytes} {start : Nat}

theorem overwrite_length (fits : start + source.length ≤ data.length) :
    (overwrite data start source).length = data.length := by
  simp only [overwrite, List.length_append, List.length_take, List.length_drop]
  omega

theorem copyFromSlice_ok (fits : start + source.length ≤ data.length) :
    copyFromSlice data start source = .ok (overwrite data start source) := if_pos fits

theorem setByte_ok {byte : UInt8} (fits : start < data.length) :
    setByte data start byte = .ok (overwrite data start [byte]) := by
  rw [setByte, if_pos fits, overwrite, List.set_eq_take_append_cons_drop, if_pos fits]
  simp

theorem overwrite_take (fits : start ≤ data.length) :
    (overwrite data start source).take start = data.take start := by
  rw [overwrite, List.append_assoc, List.take_append_of_le_length (by simp [fits]), List.take_take,
    Nat.min_self]

theorem overwrite_drop (fits : start + source.length ≤ data.length) :
    (overwrite data start source).drop (start + source.length)
      = data.drop (start + source.length) := by
  rw [overwrite, List.drop_append_of_le_length (by simp; omega)]
  simp

theorem overwrite_drop_start (fits : start ≤ data.length) :
    (overwrite data start source).drop start = source ++ data.drop (start + source.length) := by
  rw [overwrite, List.append_assoc, List.drop_append_of_le_length (by simp [fits])]
  simp

theorem overwrite_right (fits : start + first.length + second.length ≤ data.length) :
    overwrite (overwrite data start first) (start + first.length) second
      = overwrite data start (first ++ second) := by
  have head : (overwrite data start first).take (start + first.length) = data.take start ++ first := by
    rw [overwrite, List.take_append_of_le_length (by simp; omega), List.take_of_length_le (by simp)]
  have tail : (overwrite data start first).drop (start + first.length + second.length)
      = data.drop (start + first.length + second.length) := by
    rw [← List.drop_drop, overwrite_drop (by omega), List.drop_drop]
  rw [overwrite, head, tail]
  simp [overwrite, Nat.add_assoc]

theorem overwrite_left (fits : start + first.length + second.length ≤ data.length) :
    overwrite (overwrite data (start + first.length) second) start first
      = overwrite data start (first ++ second) := by
  have head : (overwrite data (start + first.length) second).take start = data.take start := by
    have longer : (overwrite data (start + first.length) second).take (start + first.length)
        = data.take (start + first.length) := overwrite_take (by omega)
    have shorter := congrArg (List.take start) longer
    simpa [List.take_take] using shorter
  rw [overwrite, head, overwrite_drop_start (by omega)]
  simp [overwrite, Nat.add_assoc]

end Overwrite

variable {data chunk key value : Bytes} {start len index : Nat}

theorem overwrite_prefix {source kept : Bytes} {offset : Nat} (inside : start ≤ data.length)
    (before : offset + kept.length ≤ start) (found : kept <+: data.drop offset) :
    kept <+: (overwrite data start source).drop offset := by
  rw [List.prefix_iff_eq_take] at found ⊢
  have front : (data.take start).length = start := by simp [inside]
  rw [overwrite, List.append_assoc, List.drop_append_of_le_length (by omega),
    List.take_append_of_le_length (by rw [List.length_drop]; omega), List.drop_take,
    List.take_take, Nat.min_eq_left (by omega)]
  exact found

/-- The bytes after the first one, and what is left for the first. -/
def lenDigits (len : Nat) : Bytes × Nat :=
  if 64 ≤ len then
    let rest := lenDigits (len >>> 8)
    (UInt8.ofNat len :: rest.1, rest.2)
  else ([], len)
termination_by len
decreasing_by
  rw [Nat.shiftRight_eq_div_pow]
  omega

def lenBytes (len : Nat) : Bytes :=
  UInt8.ofNat (((lenDigits len).1.length <<< 6) ||| (lenDigits len).2) :: (lenDigits len).1

theorem lenDigits_small (small : len < 64) : lenDigits len = ([], len) := by
  rw [lenDigits, if_neg (by omega)]

theorem lenDigits_large (large : 64 ≤ len) :
    lenDigits len = (UInt8.ofNat len :: (lenDigits (len / 256)).1, (lenDigits (len / 256)).2) := by
  rw [lenDigits, if_pos large, Nat.shiftRight_eq_div_pow]

theorem lenDigits_length_le {count : Nat} (bound : len < 64 * 256 ^ count) :
    (lenDigits len).1.length ≤ count := by
  induction count generalizing len with
  | zero =>
    rw [lenDigits_small (by omega)]
    exact Nat.zero_le _
  | succ count ih =>
    by_cases small : len < 64
    · rw [lenDigits_small small]
      exact Nat.zero_le _
    · rw [lenDigits_large (by omega)]
      apply Nat.succ_le_succ
      apply ih
      omega

theorem lenBytes_length_le {count : Nat} (bound : len < 64 * 256 ^ count) :
    (lenBytes len).length ≤ count + 1 := by
  exact Nat.succ_le_succ (lenDigits_length_le bound)

theorem lenDigits_spec (len : Nat) :
    (lenDigits len).2 < 64 ∧ ofLittleEndian (lenDigits len).1 < 2 ^ (8 * (lenDigits len).1.length) ∧
      ofLittleEndian (lenDigits len).1
        + (lenDigits len).2 * 2 ^ (8 * (lenDigits len).1.length) = len := by
  induction len using Nat.strongRecOn with
  | ind len ih =>
    by_cases small : len < 64
    · rw [lenDigits_small small]
      simp [ofLittleEndian, small]
    · rw [lenDigits_large (by omega)]
      obtain ⟨top, low, whole⟩ := ih (len / 256) (by omega)
      generalize lenDigits (len / 256) = rest at top low whole
      have unfolded : ofLittleEndian (UInt8.ofNat len :: rest.1)
          = len % 256 + 256 * ofLittleEndian rest.1 := by
        simp [ofLittleEndian]
      have power : 2 ^ (8 * (rest.1.length + 1)) = 256 * 2 ^ (8 * rest.1.length) := by
        rw [Nat.mul_add, pow_add]
        omega
      refine ⟨top, ?_, ?_⟩
      · rw [List.length_cons, unfolded]
        omega
      · rw [List.length_cons, power, unfolded, Nat.mul_left_comm rest.2]
        omega

theorem writeDigits_ok {numBytes : Nat}
    (fits : index + numBytes + (lenDigits len).1.length ≤ data.length) :
    writeDigits data index numBytes len = .ok (overwrite data (index + numBytes) (lenDigits len).1,
          numBytes + (lenDigits len).1.length, (lenDigits len).2) := by
  induction len using Nat.strongRecOn generalizing data numBytes with
  | ind len ih =>
    by_cases small : len < 64
    · rw [writeDigits, if_neg (by omega), lenDigits_small small]
      simp [overwrite]
    · rw [lenDigits_large (by omega), List.length_cons] at fits
      have joined : overwrite (overwrite data (index + numBytes) [UInt8.ofNat len])
          (index + numBytes + 1) (lenDigits (len / 256)).1
            = overwrite data (index + numBytes) (UInt8.ofNat len :: (lenDigits (len / 256)).1) :=
        overwrite_right (by simp; omega)
      have room : index + (numBytes + 1) + (lenDigits (len / 256)).1.length
          ≤ (overwrite data (index + numBytes) [UInt8.ofNat len]).length := by
        rw [overwrite_length (by simp; omega)]
        omega
      rw [writeDigits, if_pos (by omega), setByte_ok (by omega), Nat.shiftRight_eq_div_pow,
        lenDigits_large (by omega)]
      simp only [ih (len / 256) (by omega) room]
      rw [← Nat.add_assoc, joined, List.length_cons, Nat.add_right_comm, Nat.add_assoc numBytes]

theorem writeLen_ok (fits : index + (lenBytes len).length ≤ data.length) :
    writeLen data index len = .ok (overwrite data index (lenBytes len), (lenBytes len).length) := by
  rw [lenBytes, List.length_cons] at fits
  by_cases small : len < 64
  · rw [writeLen, if_pos small, setByte_ok (by omega), lenBytes, lenDigits_small small]
    simp [bind, Except.bind, pure, Except.pure]
  · rw [writeLen, if_neg small, writeDigits_ok (by omega)]
    simp only [bind, Except.bind]
    rw [setByte_ok (by rw [overwrite_length (by omega)]; omega)]
    simp only [pure, Except.pure, Nat.add_sub_cancel_left]
    have joined := @overwrite_left data
      [UInt8.ofNat (((lenDigits len).1.length <<< 6) ||| (lenDigits len).2)] (lenDigits len).1 index
      (by rw [List.length_singleton]; omega)
    rw [List.length_singleton] at joined
    rw [joined, List.singleton_append, lenBytes, List.length_cons, Nat.add_comm 1]

/-- Two bits hold the number of further bytes, so lengths of up to thirty bits are read back. -/
theorem readLen_lenBytes (bound : len < 2 ^ 30) (found : lenBytes len <+: data.drop index) :
    readLen data index = .ok (len, (lenBytes len).length) := by
  obtain ⟨tail, split⟩ := found
  have few : (lenDigits len).1.length ≤ 3 := lenDigits_length_le bound
  obtain ⟨top, low, whole⟩ := lenDigits_spec len
  rw [lenBytes] at split ⊢
  generalize lenDigits len = digits at few top low whole split
  -- the two parts of the first byte do not overlap and fit in it
  have packed : (digits.1.length <<< 6) ||| digits.2 = digits.1.length * 64 + digits.2 := by
    rw [← Nat.shiftLeft_add_eq_or_of_lt top, Nat.shiftLeft_eq]
  have byte : (UInt8.ofNat ((digits.1.length <<< 6) ||| digits.2)).toNat
      = digits.1.length * 64 + digits.2 := by
    rw [packed, UInt8.toNat_ofNat', Nat.mod_eq_of_lt (by omega)]
  have first : data[index]? = some (UInt8.ofNat ((digits.1.length <<< 6) ||| digits.2)) := by
    have head := congrArg List.head? split
    simpa using head.symm
  have later : data.drop (index + 1) = digits.1 ++ tail := by
    have rest := congrArg List.tail split
    simpa using rest.symm
  have room : index + 1 + digits.1.length ≤ data.length := by
    have lengths := congrArg List.length split
    simp only [List.length_append, List.length_cons, List.length_drop] at lengths
    omega
  simp only [readLen, indexed, first, bind, Except.bind, byte]
  by_cases single : digits.1.length = 0
  · have none : digits.1 = [] := List.length_eq_zero_iff.mp single
    simp only [single, Nat.zero_mul, Nat.zero_add, if_pos top, pure, Except.pure]
    simp [none, ofLittleEndian] at whole
    simp [none, whole]
  · have count : (digits.1.length * 64 + digits.2) >>> 6 = digits.1.length := by
      omega
    have six : (digits.1.length * 64 + digits.2) &&& 0x3f = digits.2 := by
      rw [show (0x3f : Nat) = 2 ^ 6 - 1 from rfl, Nat.and_two_pow_sub_one_eq_mod]
      omega
    have joined : ofLittleEndian digits.1 ||| digits.2 <<< (8 * digits.1.length) = len := by
      rw [Nat.or_comm, ← Nat.shiftLeft_add_eq_or_of_lt low, Nat.shiftLeft_eq, Nat.add_comm, whole]
    rw [if_neg (by omega)]
    simp [slice, count, six, if_pos room, later, joined, pure, Except.pure, Nat.add_comm 1]

def record (key value : Bytes) : Bytes :=
  lenBytes key.length ++ key ++ lenBytes value.length ++ value

theorem writePair_ok (fits : index + (record key value).length ≤ chunk.length) :
    LookupHtbl.writePair chunk index key value
      = .ok (overwrite chunk index (record key value), (record key value).length) := by
  simp only [record, List.length_append] at fits
  simp only [LookupHtbl.writePair, bind, Except.bind]
  rw [writeLen_ok (by omega)]
  simp only
  rw [copyFromSlice_ok (by rw [overwrite_length (by omega)]; omega), overwrite_right (by omega)]
  have second : index + (lenBytes key.length ++ key).length + (lenBytes value.length).length
      + value.length ≤ chunk.length := by
    rw [List.length_append]
    omega
  simp only
  rw [Nat.add_assoc index, ← List.length_append,
    writeLen_ok (by rw [overwrite_length (by omega)]; omega), overwrite_right (by omega)]
  simp only
  rw [Nat.add_assoc index, ← List.length_append]
  rw [copyFromSlice_ok (by rw [overwrite_length (by simp at second ⊢; omega)]; simp at second ⊢; omega),
    overwrite_right (by simp at second ⊢; omega)]
  simp only [record, List.length_append]
  congr 2
  omega

theorem record_length_le (shortKey : key.length < 2 ^ 38) (shortValue : value.length < 2 ^ 38) :
    (record key value).length ≤ 2 * indexSize + key.length + value.length := by
  have forKey : (lenBytes key.length).length ≤ 4 + 1 := lenBytes_length_le shortKey
  have forValue : (lenBytes value.length).length ≤ 4 + 1 := lenBytes_length_le shortValue
  simp only [record, List.length_append, indexSize]
  omega

theorem record_length_pos (key value : Bytes) : 0 < (record key value).length := by
  simp [record, lenBytes]

theorem prefix_drop_append {first second : Bytes} (found : first ++ second <+: data.drop start) :
    second <+: data.drop (start + first.length) := by
  obtain ⟨tail, split⟩ := found
  refine ⟨tail, ?_⟩
  rw [← List.drop_drop, ← split]
  simp

theorem slice_ok {source : Bytes} (inside : start ≤ data.length)
    (found : source <+: data.drop start) : slice data start source.length = .ok source := by
  have lengths := found.length_le
  rw [List.length_drop] at lengths
  rw [slice, if_pos (by omega), ← List.prefix_iff_eq_take.mp found]

/-- What the readers of the source make of the record in front of them: the key, and after it the
length and the bytes of the value. -/
structure ReadsKey (chunk : Bytes) (index : Nat) (key value : Bytes) : Prop where
  keyLen : readLen chunk index = .ok (key.length, (lenBytes key.length).length)
  keySlice : slice chunk (index + (lenBytes key.length).length) key.length = .ok key
  atValueLen : lenBytes value.length ++ value
    <+: chunk.drop (index + (lenBytes key.length).length + key.length)

structure ReadsValue (chunk : Bytes) (index : Nat) (value : Bytes) : Prop where
  valueLen : readLen chunk index = .ok (value.length, (lenBytes value.length).length)
  valueSlice : slice chunk (index + (lenBytes value.length).length) value.length = .ok value

theorem readsKey_of_prefix (shortKey : key.length < 2 ^ 30)
    (found : record key value <+: chunk.drop index) : ReadsKey chunk index key value := by
  have lengths := found.length_le
  have nonempty := record_length_pos key value
  simp only [record, List.length_append, List.length_drop] at lengths nonempty
  simp only [record, List.append_assoc] at found
  have atKey := prefix_drop_append found
  exact
    { keyLen := readLen_lenBytes shortKey ((List.prefix_append _ _).trans found)
      keySlice := slice_ok (by omega) ((List.prefix_append _ _).trans atKey)
      atValueLen := prefix_drop_append atKey }

theorem readsValue_of_prefix (shortValue : value.length < 2 ^ 30)
    (found : lenBytes value.length ++ value <+: chunk.drop index) :
    ReadsValue chunk index value := by
  have lengths := found.length_le
  have nonempty : 0 < (lenBytes value.length).length := by simp [lenBytes]
  simp only [List.length_append, List.length_drop] at lengths
  exact
    { valueLen := readLen_lenBytes shortValue ((List.prefix_append _ _).trans found)
      valueSlice := slice_ok (by omega) (prefix_drop_append found) }

namespace LookupHtbl

variable {htbl : LookupHtbl} {key value : Bytes} {dataIndex : Nat}

/-- The chunks in use: all of one size, a power of two, and the last one not yet full. -/
structure Layout (htbl : LookupHtbl) : Prop where
  size : htbl.chunkSize = 2 ^ htbl.chunkBits
  mask : htbl.chunkMask = htbl.chunkSize - 1
  chunks : ∀ chunk ∈ htbl.dataChunks, chunk.length = htbl.chunkSize
  started : htbl.usedData ≠ 0
  used : (htbl.dataChunks = [] ∧ htbl.usedData = 1) ∨
    htbl.dataChunks.length = htbl.usedData / htbl.chunkSize + 1

theorem Layout.shiftRight (layout : htbl.Layout) (index : Nat) :
    index >>> htbl.chunkBits = index / htbl.chunkSize := by
  rw [Nat.shiftRight_eq_div_pow, layout.size]

theorem Layout.and_chunkMask (layout : htbl.Layout) (index : Nat) :
    index &&& htbl.chunkMask = index % htbl.chunkSize := by
  rw [layout.mask, layout.size, Nat.and_two_pow_sub_one_eq_mod]

theorem Layout.chunkSize_pos (layout : htbl.Layout) : 0 < htbl.chunkSize := by
  rw [layout.size]
  exact Nat.two_pow_pos _

/-- The record of the pair starts at the data index, and nothing is written over it any more. -/
structure Holds (htbl : LookupHtbl) (dataIndex : Nat) (key value : Bytes) : Prop where
  nonzero : dataIndex ≠ 0
  written : dataIndex + (record key value).length ≤ htbl.usedData
  found : ∃ chunk, htbl.dataChunks[dataIndex / htbl.chunkSize]? = some chunk ∧
    record key value <+: chunk.drop (dataIndex % htbl.chunkSize)

section

variable (holds : htbl.Holds dataIndex key value) (layout : htbl.Layout)
    (shortKey : key.length < 2 ^ 30)

include holds layout shortKey

theorem Holds.readKey : htbl.readKey dataIndex = .ok key := by
  obtain ⟨chunk, there, found⟩ := holds.found
  have reads := readsKey_of_prefix shortKey found
  simp only [LookupHtbl.readKey, indexed, layout.shiftRight, layout.and_chunkMask, there, bind,
    Except.bind, reads.keyLen, reads.keySlice]

theorem Holds.readValue (shortValue : value.length < 2 ^ 30) :
    htbl.readValue dataIndex = .ok value := by
  obtain ⟨chunk, there, found⟩ := holds.found
  have reads := readsKey_of_prefix shortKey found
  have later := readsValue_of_prefix shortValue reads.atValueLen
  simp only [LookupHtbl.readValue, indexed, layout.shiftRight, layout.and_chunkMask, there, bind,
    Except.bind, reads.keyLen, later.valueLen, later.valueSlice]

theorem Holds.readPair (shortValue : value.length < 2 ^ 30) :
    LookupHtblIter.readPair htbl dataIndex = .ok (key, value) := by
  obtain ⟨chunk, there, found⟩ := holds.found
  have reads := readsKey_of_prefix shortKey found
  have later := readsValue_of_prefix shortValue reads.atValueLen
  simp only [LookupHtblIter.readPair, indexed, layout.shiftRight, layout.and_chunkMask, there,
    bind, Except.bind, reads.keyLen, reads.keySlice, later.valueLen, later.valueSlice, pure,
    Except.pure]

end

/-- The conditions under which `newData` returns: the assertion holds, and at most one chunk is
missing. -/
structure Fits (htbl : LookupHtbl) (key value : Bytes) : Prop where
  small : 2 * indexSize + key.length + value.length < htbl.chunkSize
  near : (htbl.usedData + (2 * indexSize + key.length + value.length)) / htbl.chunkSize
    ≤ htbl.dataChunks.length

/-- The chunk `newData` writes to, and where the free part of it starts. -/
structure Room (htbl : LookupHtbl) (additional chunkIndex : Nat) (chunks : List Bytes)
    (start : Nat) : Prop where
  count : chunks.length = chunkIndex + 1
  sizes : ∀ chunk ∈ chunks, chunk.length = htbl.chunkSize
  kept : htbl.dataChunks <+: chunks
  fresh : htbl.usedData ≤ start
  nonzero : start ≠ 0
  above : chunkIndex * htbl.chunkSize ≤ start
  below : start + additional < (chunkIndex + 1) * htbl.chunkSize

theorem Layout.room (layout : htbl.Layout) {additional : Nat} (small : additional < htbl.chunkSize)
    (near : (htbl.usedData + additional) / htbl.chunkSize ≤ htbl.dataChunks.length) :
    htbl.Room additional ((htbl.usedData + additional) / htbl.chunkSize)
      (htbl.chunksFor ((htbl.usedData + additional) / htbl.chunkSize)).1
      (htbl.chunksFor ((htbl.usedData + additional) / htbl.chunkSize)).2 := by
  have positive := layout.chunkSize_pos
  generalize hit : (htbl.usedData + additional) / htbl.chunkSize = chunkIndex at near ⊢
  have high : htbl.usedData + additional < (chunkIndex + 1) * htbl.chunkSize := by
    rw [← hit, Nat.add_mul, Nat.one_mul]
    exact Nat.lt_div_mul_add positive
  by_cases missing : htbl.dataChunks.length ≤ chunkIndex
  · -- a new chunk is pushed; the record starts at its first usable byte
    have last : htbl.dataChunks.length = chunkIndex := Nat.le_antisymm missing near
    have sizes : ∀ chunk ∈ htbl.dataChunks ++ [List.replicate htbl.chunkSize 0],
        chunk.length = htbl.chunkSize := by
      intro chunk member
      rcases List.mem_append.mp member with old | new
      · exact layout.chunks chunk old
      · rw [List.mem_singleton.mp new, List.length_replicate]
    rw [chunksFor, if_pos missing]
    rcases layout.used with ⟨noChunk, start⟩ | someChunk
    · have zero : chunkIndex = 0 := by rw [← last, noChunk]; rfl
      subst zero
      refine ⟨by simp [noChunk], sizes, List.prefix_append _ _, ?_, ?_, ?_, ?_⟩
      all_goals simp
      all_goals omega
    · have nonzero : chunkIndex ≠ 0 := by
        rw [← last, someChunk]
        exact Nat.succ_ne_zero _
      have full : htbl.usedData < chunkIndex * htbl.chunkSize := by
        rw [← last, someChunk, Nat.add_mul, Nat.one_mul]
        exact Nat.lt_div_mul_add positive
      refine ⟨by simp [last], sizes, List.prefix_append _ _, ?_, ?_, ?_, ?_⟩
      all_goals simp only [if_neg nonzero, Nat.mul_comm htbl.chunkSize chunkIndex]
      · exact Nat.le_of_lt full
      · omega
      · exact Nat.le_refl _
      · rw [Nat.add_mul]
        omega
  · -- the last chunk has room
    rw [chunksFor, if_neg missing]
    rcases layout.used with ⟨noChunk, start⟩ | someChunk
    · rw [noChunk] at missing
      simp at missing
    · have same : chunkIndex = htbl.usedData / htbl.chunkSize := by
        have monotone : htbl.usedData / htbl.chunkSize ≤ chunkIndex := by
          rw [← hit]
          exact Nat.div_le_div_right (Nat.le_add_right _ _)
        omega
      refine ⟨by simp only; omega, layout.chunks, List.prefix_rfl, Nat.le_refl _, layout.started, ?_, high⟩
      rw [same]
      exact Nat.div_mul_le_self _ _

/-- A successful `newData` leaves a longer store: the new record is in it, and all earlier ones. -/
structure Extends (htbl after : LookupHtbl) (dataIndex : Nat) (key value : Bytes) : Prop where
  layout : after.Layout
  holds : after.Holds dataIndex key value
  kept : ∀ earlier otherKey otherValue, htbl.Holds earlier otherKey otherValue →
    after.Holds earlier otherKey otherValue
  frame : after = { htbl with dataChunks := after.dataChunks, usedData := after.usedData }
  limit : after.usedData < (htbl.dataChunks.length + 1) * htbl.chunkSize

theorem newData_ok (layout : htbl.Layout) (fits : htbl.Fits key value)
    (shortKey : key.length < 2 ^ 38) (shortValue : value.length < 2 ^ 38) :
    ∃ dataIndex after, htbl.newData key value = .ok (dataIndex, after) ∧
      htbl.Extends after dataIndex key value := by
  have length := record_length_le shortKey shortValue
  have room := layout.room fits.small fits.near
  have near := fits.near
  simp only [newData, if_pos fits.small, layout.shiftRight]
  generalize (htbl.usedData + (2 * indexSize + key.length + value.length)) / htbl.chunkSize
    = chunkIndex at room near ⊢
  generalize chosen : htbl.chunksFor chunkIndex = choice at room ⊢
  obtain ⟨chunks, start⟩ := choice
  obtain ⟨count, sizes, kept, fresh, nonzero, above, below⟩ := room
  simp only at count sizes kept fresh nonzero above below
  have inside : chunkIndex < chunks.length := by omega
  have quotient : start / htbl.chunkSize = chunkIndex :=
    Nat.div_eq_of_lt_le above (by omega)
  have offset : chunkIndex * htbl.chunkSize + start % htbl.chunkSize = start := by
    rw [← quotient, Nat.mul_comm]
    exact Nat.div_add_mod _ _
  have size : chunks[chunkIndex].length = htbl.chunkSize := sizes _ (List.getElem_mem inside)
  have fitting : start % htbl.chunkSize + (record key value).length ≤ chunks[chunkIndex].length := by
    rw [Nat.add_mul] at below
    omega
  simp only [indexed, List.getElem?_eq_getElem inside, bind, Except.bind, layout.and_chunkMask,
    writePair_ok fitting]
  refine ⟨start, _, rfl, ?_, ?_, ?_, rfl, ?_⟩
  · -- the layout
    refine ⟨layout.size, layout.mask, ?_, ?_, Or.inr ?_⟩
    · intro chunk member
      rcases List.mem_or_eq_of_mem_set member with old | new
      · exact sizes chunk old
      · rw [new, overwrite_length fitting, size]
    · simp only
      omega
    · simp only [List.length_set, count]
      have last : (start + (record key value).length) / htbl.chunkSize = chunkIndex :=
        Nat.div_eq_of_lt_le (by omega) (by omega)
      rw [last]
  · -- the new record
    refine ⟨nonzero, Nat.le_refl _,
      overwrite chunks[chunkIndex] (start % htbl.chunkSize) (record key value), ?_, ?_⟩
    · simp only [quotient, List.getElem?_set_self inside]
    · simp only
      rw [overwrite_drop_start (by omega)]
      exact List.prefix_append _ _
  · -- the earlier records
    intro earlier otherKey otherValue old
    obtain ⟨chunk, there, found⟩ := old.found
    have before := old.written
    refine ⟨old.nonzero, by simp only; omega, ?_⟩
    have present : chunks[earlier / htbl.chunkSize]? = some chunk := by
      obtain ⟨more, rfl⟩ := kept
      have bound := (List.getElem?_eq_some_iff.mp there).1
      rw [List.getElem?_append_left bound, there]
    by_cases same : chunkIndex = earlier / htbl.chunkSize
    · have equal : chunk = chunks[chunkIndex] := by
        rw [← same, List.getElem?_eq_getElem inside] at present
        exact (Option.some.inj present).symm
      refine ⟨overwrite chunks[chunkIndex] (start % htbl.chunkSize) (record key value), ?_, ?_⟩
      · simp only [← same, List.getElem?_set_self inside]
      · rw [equal] at found
        simp only
        refine overwrite_prefix (by omega) ?_ found
        have earlierOffset := Nat.div_add_mod earlier htbl.chunkSize
        rw [← same, Nat.mul_comm] at earlierOffset
        omega
    · refine ⟨chunk, ?_, found⟩
      simp only [List.getElem?_set_ne same, present]
  · calc start + (record key value).length
        ≤ start + (2 * indexSize + key.length + value.length) := Nat.add_le_add_left length _
      _ < (chunkIndex + 1) * htbl.chunkSize := below
      _ ≤ (htbl.dataChunks.length + 1) * htbl.chunkSize :=
        Nat.mul_le_mul_right _ (Nat.succ_le_succ near)

theorem newData_panics (layout : htbl.Layout) (overflow : ¬ htbl.Fits key value) :
    ∃ message, htbl.newData key value = .error (.panic message) := by
  rw [newData]
  split
  · next small =>
      have far : htbl.dataChunks.length
          < (htbl.usedData + (2 * indexSize + key.length + value.length)) / htbl.chunkSize := by
        by_contra near
        exact overflow ⟨small, Nat.not_lt.mp near⟩
      simp only [layout.shiftRight]
      generalize (htbl.usedData + (2 * indexSize + key.length + value.length)) / htbl.chunkSize
        = chunkIndex at far ⊢
      have outside : (htbl.dataChunks ++ [List.replicate htbl.chunkSize 0])[chunkIndex]? = none := by
        rw [List.getElem?_eq_none_iff, List.length_append, List.length_singleton]
        omega
      simp only [chunksFor, if_pos (Nat.le_of_lt far), indexed, outside]
      exact ⟨_, rfl⟩
  · exact ⟨_, rfl⟩

end LookupHtbl

end Oak.Functions
