import Mathlib.Data.Nat.Log
import Oak.Data.Bytes

namespace Oak.Functions

open Oak.Data

/-! The key/value table that Oak Functions loads its lookup data into:
`oak_functions_service/src/lookup_htbl.rs`.

`table` is an open-addressing table of six-byte entries; an entry points into
`dataChunks`, where the key and the value lie one after the other, each behind
its length.  Sizes are natural numbers, reduced modulo `2 ^ 64` where the source
can overflow: a build with overflow checks panics there instead.  Running out of
memory is not modelled, the `capacity overflow` of a vector is. -/

inductive Stuck where
  | panic (message : String)
  | loops
deriving Repr, DecidableEq

abbrev Run (α : Type) := Except Stuck α

section Slices

variable {α : Type}

def indexed (items : List α) (index : Nat) : Run α :=
  match items[index]? with
  | some item => .ok item
  | none => .error (.panic
      s!"index out of bounds: the len is {items.length} but the index is {index}")

/-- `data[index] = byte`. -/
def setByte (data : Bytes) (index : Nat) (byte : UInt8) : Run Bytes :=
  if index < data.length then .ok (data.set index byte)
  else .error (.panic s!"index out of bounds: the len is {data.length} but the index is {index}")

/-- `&data[start..start + length]`. -/
def slice (data : Bytes) (start length : Nat) : Run Bytes :=
  if start + length ≤ data.length then .ok ((data.drop start).take length)
  else .error (.panic
    s!"range end index {start + length} out of range for slice of length {data.length}")

/-- `data[start..start + source.len()].copy_from_slice(source)`. -/
def copyFromSlice (data : Bytes) (start : Nat) (source : Bytes) : Run Bytes :=
  if start + source.length ≤ data.length then
    .ok (data.take start ++ source ++ data.drop (start + source.length))
  else .error (.panic
    s!"range end index {start + source.length} out of range for slice of length {data.length}")

end Slices

def indexSize : Nat := 5

structure Entry where
  hashByte : UInt8
  dataIndex : Block indexSize
deriving DecidableEq

def Entry.default : Entry := { hashByte := 0, dataIndex := Block.zero indexSize }

/-- The five bytes, padded with zeros to a `u64`. -/
def readIndex (entry : Entry) : Nat := ofLittleEndian entry.dataIndex.toList

def writeIndex (entry : Entry) (value : Nat) : Entry :=
  { entry with dataIndex := ⟨littleEndian indexSize value, littleEndian_length _ _⟩ }

/-- The length at `index` and the number of bytes it takes. -/
def readLen (data : Bytes) (index : Nat) : Run (Nat × Nat) := do
  let firstByte := (← indexed data index).toNat
  if firstByte < 64 then return (firstByte, 1)
  let numBytes := firstByte >>> 6
  let val ← slice data (index + 1) numBytes
  let len := ofLittleEndian val
  return (len ||| ((firstByte &&& 0x3f) <<< (8 * numBytes)), 1 + numBytes)

/-- The `while len >= 64` loop of `write_len`. -/
def writeDigits (data : Bytes) (index numBytes len : Nat) : Run (Bytes × Nat × Nat) :=
  if 64 ≤ len then
    match setByte data (index + numBytes) (UInt8.ofNat len) with
    | .ok data => writeDigits data index (numBytes + 1) (len >>> 8)
    | .error stuck => .error stuck
  else .ok (data, numBytes, len)
termination_by len
decreasing_by
  rw [Nat.shiftRight_eq_div_pow]
  omega

/-- The first byte keeps two bits for the number of bytes that follow; the cast drops the rest. -/
def writeLen (data : Bytes) (index len : Nat) : Run (Bytes × Nat) :=
  if len < 64 then do
    let data ← setByte data index (UInt8.ofNat len)
    return (data, 1)
  else do
    let (data, numBytes, len) ← writeDigits data index 1 len
    let firstByte := UInt8.ofNat (((numBytes - 1) <<< 6) ||| len)
    let data ← setByte data index firstByte
    return (data, numBytes)

def hashU64 (v hashSecret : UInt64) : UInt64 :=
  let v1 := (v + hashSecret) ^^^ (v <<< 32 ||| v >>> 32)
  let v2 := v1.toNat * 0x9d460858ea81ac79
  v ^^^ UInt64.ofNat v2 ^^^ UInt64.ofNat (v2 >>> 64)

/-- The rest of a key from some index on.  `bytes` is the buffer that every full block is copied to;
a last, shorter block overwrites only the front of it. -/
def hashFrom (hashSecret : UInt64) (v bytes : Bytes) (val : UInt64) : UInt64 :=
  if 8 ≤ v.length then
    let bytes := v.take 8
    let digit := UInt64.ofNat (ofLittleEndian bytes)
    hashFrom hashSecret (v.drop 8) bytes (hashU64 (val ^^^ digit) hashSecret)
  else if v.length = 0 then val
  else
    let digit := UInt64.ofNat (ofLittleEndian (v ++ bytes.drop v.length))
    hashU64 (val ^^^ digit) hashSecret
termination_by v.length
decreasing_by
  rw [List.length_drop]
  omega

def hash (v : Bytes) (hashSecret : UInt64) : UInt64 :=
  hashFrom hashSecret v (List.replicate 8 0) 0

def reduce (hash : UInt64) (tableLen : Nat) : Nat := (hash.toNat * tableLen) >>> 64

structure LookupHtbl where
  table : List Entry
  dataChunks : List Bytes
  maxEntries : Nat
  usedData : Nat
  usedEntries : Nat
  hashSecret : UInt64
  chunkBits : Nat
  chunkSize : Nat
  chunkMask : Nat

inductive LookupResult where
  | found (tableIndex dataIndex : Nat)
  | notFound (tableIndex : Nat) (hashByte : UInt8)
deriving Repr, DecidableEq

namespace LookupHtbl

def default : LookupHtbl :=
  { table := [], dataChunks := [], maxEntries := 0, usedData := 0, usedEntries := 0,
    hashSecret := 0, chunkBits := 0, chunkSize := 0, chunkMask := 0 }

/-- `vec![Entry::default(); len]`; the size of a vector is limited to `isize::MAX` bytes. -/
def newTable (len : Nat) : Run (List Entry) :=
  if 6 * len < 2 ^ 63 then .ok (List.replicate len Entry.default)
  else .error (.panic "capacity overflow")

/-- `usize::next_power_of_two`: the least power of two that is not below the number. -/
def nextPowerOfTwo (number : Nat) : Nat := 2 ^ Nat.clog 2 number

/-- At least 2MiB, otherwise as many bytes as the table has entries, rounded up. -/
def chunkSizeFor (allocatedEntries : Nat) : Nat :=
  let chunkSize := nextPowerOfTwo allocatedEntries
  if chunkSize < 1 <<< 21 then 1 <<< 21 else chunkSize

/-- `random` is the answer of `OsRng.next_u64()`. -/
def reserve (htbl : LookupHtbl) (maxEntries : Nat) (random : UInt64) : Run LookupHtbl :=
  if htbl.usedEntries ≠ 0 then .ok htbl
  else do
    let allocatedEntries := ((5 * maxEntries + 1) % 2 ^ 64) / 3
    let table ← newTable allocatedEntries
    if random = 0 then throw (.panic "There is something very wrong with OsRng")
    let chunkSize := chunkSizeFor allocatedEntries
    return { table, maxEntries, chunkSize
             dataChunks := []
             usedData := 1
             usedEntries := 0
             hashSecret := random
             chunkMask := chunkSize - 1
             chunkBits := chunkSize.log2 }

def readKey (htbl : LookupHtbl) (dataIndex : Nat) : Run Bytes := do
  let chunk ← indexed htbl.dataChunks (dataIndex >>> htbl.chunkBits)
  let index := dataIndex &&& htbl.chunkMask
  let (keyLen, keyLenSize) ← readLen chunk index
  slice chunk (index + keyLenSize) keyLen

def readValue (htbl : LookupHtbl) (dataIndex : Nat) : Run Bytes := do
  let chunk ← indexed htbl.dataChunks (dataIndex >>> htbl.chunkBits)
  let index := dataIndex &&& htbl.chunkMask
  let (keyLen, keyLenSize) ← readLen chunk index
  let valueLenIndex := index + keyLenSize + keyLen
  let (valueLen, valueLenSize) ← readLen chunk valueLenIndex
  slice chunk (valueLenIndex + valueLenSize) valueLen

def advance (htbl : LookupHtbl) (tableIndex : Nat) : Nat :=
  if tableIndex + 1 = htbl.table.length then 0 else tableIndex + 1

/-- The two nested loops of `lookup`, one slot of the table per unit of fuel.  The inner loop skips
the slots whose nonzero hash byte differs; no state changes, so a full turn without an answer
repeats forever. -/
def probe (htbl : LookupHtbl) (key : Bytes) (keyHashByte : UInt8) : Nat → Nat → Run LookupResult
  | 0, _ => .error .loops
  | fuel + 1, tableIndex => do
    let entry ← indexed htbl.table tableIndex
    if entry.hashByte ≠ keyHashByte ∧ entry.hashByte ≠ 0 then
      probe htbl key keyHashByte fuel (htbl.advance tableIndex)
    else
      let dataIndex := readIndex entry
      if dataIndex = 0 then return .notFound tableIndex keyHashByte
      if entry.hashByte = keyHashByte then
        let stored ← htbl.readKey dataIndex
        if key = stored then return .found tableIndex dataIndex
        else probe htbl key keyHashByte fuel (htbl.advance tableIndex)
      else probe htbl key keyHashByte fuel (htbl.advance tableIndex)

def keyHashByte (hashSecret : UInt64) (key : Bytes) : UInt8 := (hash key hashSecret >>> 32).toUInt8

def lookup (htbl : LookupHtbl) (key : Bytes) : Run LookupResult :=
  if htbl.table = [] then .error (.panic "Check for emtpy before calling lookup")
  else
    htbl.probe key (keyHashByte htbl.hashSecret key) htbl.table.length
      (reduce (hash key htbl.hashSecret) htbl.table.length)

def containsKey (htbl : LookupHtbl) (key : Bytes) : Run Bool :=
  if htbl.table = [] then .ok false
  else do
    match ← htbl.lookup key with
    | .found _ _ => return true
    | .notFound _ _ => return false

def len (htbl : LookupHtbl) : Nat := htbl.usedEntries

def isEmpty (htbl : LookupHtbl) : Bool := htbl.usedEntries == 0

def get (htbl : LookupHtbl) (key : Bytes) : Run (Option Bytes) :=
  if htbl.isEmpty then .ok none
  else do
    match ← htbl.lookup key with
    | .found _ dataIndex =>
      let value ← htbl.readValue dataIndex
      return some value
    | .notFound _ _ => return none

/-- The chunks `new_data` writes to and the index it writes from: one more chunk is pushed if the
pair would not fit in those there are. -/
def chunksFor (htbl : LookupHtbl) (chunkIndex : Nat) : List Bytes × Nat :=
  if htbl.dataChunks.length ≤ chunkIndex then
    (htbl.dataChunks ++ [List.replicate htbl.chunkSize 0],
      if chunkIndex = 0 then 1 else htbl.chunkSize * chunkIndex)
  else (htbl.dataChunks, htbl.usedData)

/-- The chunk with the pair written from `index` on, and the number of bytes written. -/
def writePair (chunk : Bytes) (index : Nat) (key value : Bytes) : Run (Bytes × Nat) := do
  let (chunk, keyLenSize) ← writeLen chunk index key.length
  let keyIndex := index + keyLenSize
  let chunk ← copyFromSlice chunk keyIndex key
  let valueLenIndex := keyIndex + key.length
  let (chunk, valueLenSize) ← writeLen chunk valueLenIndex value.length
  let valueIndex := valueLenIndex + valueLenSize
  let chunk ← copyFromSlice chunk valueIndex value
  return (chunk, valueIndex + value.length - index)

def newData (htbl : LookupHtbl) (key value : Bytes) : Run (Nat × LookupHtbl) :=
  let additionalDataLen := 2 * indexSize + key.length + value.length
  if additionalDataLen < htbl.chunkSize then do
    let endIndex := htbl.usedData + additionalDataLen
    let chunkIndex := endIndex >>> htbl.chunkBits
    let (dataChunks, usedData) := htbl.chunksFor chunkIndex
    let chunk ← indexed dataChunks chunkIndex
    let (chunk, written) ← writePair chunk (usedData &&& htbl.chunkMask) key value
    return (usedData,
      { htbl with
        dataChunks := dataChunks.set chunkIndex chunk
        usedData := usedData + written })
  else .error (.panic "assertion failed: additional_data_len < self.chunk_size")

/-- The loop of `grow_table` over the rest of the old table. -/
def rehash (htbl : LookupHtbl) : List Entry → Run LookupHtbl
  | [] => .ok htbl
  | old :: oldTable => do
    let rawIndex := readIndex old
    if rawIndex ≠ 0 then
      let key ← htbl.readKey rawIndex
      match ← htbl.lookup key with
      | .notFound tableIndex hashByte =>
        let entry ← indexed htbl.table tableIndex
        let entry := writeIndex { entry with hashByte } rawIndex
        rehash { htbl with table := htbl.table.set tableIndex entry } oldTable
      | .found _ _ => throw (.panic "New table should not already have this key")
    else rehash htbl oldTable

def growTable (htbl : LookupHtbl) (random : UInt64) : Run LookupHtbl :=
  if htbl.maxEntries = 0 then htbl.reserve 1 random
  else do
    let table ← newTable ((2 * htbl.table.length) % 2 ^ 64)
    rehash { htbl with table, maxEntries := (2 * htbl.maxEntries) % 2 ^ 64 } htbl.table

/-- `insert` up to the call of `new_data`. -/
def makeRoom (htbl : LookupHtbl) (random : UInt64) : Run LookupHtbl :=
  if htbl.table = [] then htbl.reserve 1 random
  else if htbl.maxEntries ≤ htbl.usedEntries then htbl.growTable random
  else .ok htbl

/-- `insert` after the call of `new_data`: the entry of the key is pointed to the new pair. -/
def link (htbl : LookupHtbl) (key : Bytes) (dataIndex : Nat) : Run (Option Bytes × LookupHtbl) := do
  match ← htbl.lookup key with
  | .found tableIndex oldDataIndex =>
    let entry ← indexed htbl.table tableIndex
    let htbl := { htbl with table := htbl.table.set tableIndex (writeIndex entry dataIndex) }
    let previous ← htbl.readValue oldDataIndex
    return (some previous, htbl)
  | .notFound tableIndex hashByte =>
    let entry ← indexed htbl.table tableIndex
    let entry := writeIndex { entry with hashByte } dataIndex
    return (none, { htbl with
      table := htbl.table.set tableIndex entry
      usedEntries := htbl.usedEntries + 1 })

/-- The previous value of the key, and the table with the new one.  `random` is used if the call
allocates the first table. -/
def insert (htbl : LookupHtbl) (key value : Bytes) (random : UInt64) :
    Run (Option Bytes × LookupHtbl) := do
  let htbl ← htbl.makeRoom random
  let (dataIndex, htbl) ← htbl.newData key value
  htbl.link key dataIndex

end LookupHtbl

structure LookupHtblIter where
  htbl : LookupHtbl
  tableIndex : Nat

def LookupHtbl.iter (htbl : LookupHtbl) : LookupHtblIter := { htbl, tableIndex := 0 }

namespace LookupHtblIter

/-- The key and the value at `raw_index`, read in one go. -/
def readPair (htbl : LookupHtbl) (rawIndex : Nat) : Run (Bytes × Bytes) := do
  let chunk ← indexed htbl.dataChunks (rawIndex >>> htbl.chunkBits)
  let index := rawIndex &&& htbl.chunkMask
  let (keyLen, keyLenSize) ← readLen chunk index
  let keyIndex := index + keyLenSize
  let valueLenIndex := keyIndex + keyLen
  let (valueLen, valueLenSize) ← readLen chunk valueLenIndex
  let valueIndex := valueLenIndex + valueLenSize
  let key ← slice chunk keyIndex keyLen
  let value ← slice chunk valueIndex valueLen
  return (key, value)

def next (iter : LookupHtblIter) : Run (Option (Bytes × Bytes) × LookupHtblIter) :=
  if inside : iter.tableIndex < iter.htbl.table.length then
    let rawIndex := readIndex iter.htbl.table[iter.tableIndex]
    let later := { iter with tableIndex := iter.tableIndex + 1 }
    if rawIndex ≠ 0 then do
      let pair ← readPair iter.htbl rawIndex
      return (some pair, later)
    else next later
  else .ok (none, iter)
termination_by iter.htbl.table.length - iter.tableIndex

/-- What a `for` loop over the iterator goes through, if `next` is called `fuel` times at most. -/
def collect : Nat → LookupHtblIter → Run (List (Bytes × Bytes))
  | 0, _ => .error .loops
  | fuel + 1, iter => do
    match ← iter.next with
    | (none, _) => return []
    | (some pair, later) =>
      let pairs ← collect fuel later
      return pair :: pairs

end LookupHtblIter

/-- All pairs the iterator yields: every call of `next` but the last one moves past a slot. -/
def LookupHtbl.items (htbl : LookupHtbl) : Run (List (Bytes × Bytes)) :=
  htbl.iter.collect (htbl.table.length + 1)

inductive Call where
  | reserve (maxEntries : Nat) (random : UInt64)
  | insert (key value : Bytes) (random : UInt64)

namespace LookupHtbl

/-- The answers of the `insert` calls and the table after the last call. -/
def run (htbl : LookupHtbl) : List Call → Run (List (Option Bytes) × LookupHtbl)
  | [] => .ok ([], htbl)
  | .reserve maxEntries random :: calls => do
    let htbl ← htbl.reserve maxEntries random
    htbl.run calls
  | .insert key value random :: calls => do
    let (previous, htbl) ← htbl.insert key value random
    let (answers, htbl) ← htbl.run calls
    return (previous :: answers, htbl)

end LookupHtbl

end Oak.Functions
