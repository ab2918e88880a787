import Oak.Data.Bytes
import Oak.Data.Outcome
import Oak.Data.Spans

namespace Oak.Stage0

open Oak.Data

/-! The memory map that the firmware hands to the kernel: the E820 table of the
zero page (`stage0/src/zero_page.rs` and `oak_linux_boot_params/src/lib.rs`).

The firmware is built without overflow checks, so sums and differences of
addresses wrap.  The table is the list of its used entries; it has room for 128
of them. -/

inductive E820EntryType where
  | invalid
  | ram
  | reserved
  | acpi
  | nvs
  | unusable
  | disabled
  | pmem
deriving Repr, DecidableEq

namespace E820EntryType

def toRepr : E820EntryType → UInt32
  | .invalid => 0
  | .ram => 1
  | .reserved => 2
  | .acpi => 3
  | .nvs => 4
  | .unusable => 5
  | .disabled => 6
  | .pmem => 7

def fromRepr (number : UInt32) : Option E820EntryType :=
  match number with
  | 0 => some .invalid
  | 1 => some .ram
  | 2 => some .reserved
  | 3 => some .acpi
  | 4 => some .nvs
  | 5 => some .unusable
  | 6 => some .disabled
  | 7 => some .pmem
  | _ => none

theorem toRepr_of_fromRepr {number : UInt32} {entryType : E820EntryType}
    (found : fromRepr number = some entryType) : entryType.toRepr = number := by
  unfold fromRepr at found
  split at found <;> cases found <;> rfl

end E820EntryType

structure BootE820Entry where
  addr : UInt64
  size : UInt64
  type_ : UInt32
deriving Repr, DecidableEq

namespace BootE820Entry

def new (addr size : UInt64) (entryType : E820EntryType) : BootE820Entry :=
  ⟨addr, size, entryType.toRepr⟩

def entryType (entry : BootE820Entry) : Option E820EntryType := E820EntryType.fromRepr entry.type_

/-- `end()`, which wraps. -/
def endAddr (entry : BootE820Entry) : UInt64 := entry.addr + entry.size

def setAddr (entry : BootE820Entry) (addr : UInt64) : BootE820Entry := { entry with addr }

def setSize (entry : BootE820Entry) (size : UInt64) : BootE820Entry := { entry with size }

end BootE820Entry

abbrev E820Table := List BootE820Entry

namespace E820Table

def capacity : Nat := 128

/-- `BootParams::insert_e820_entry`; the last entry of a full table would be moved out of the array. -/
def insertAt (table : E820Table) (entry : BootE820Entry) (index : Nat) : Outcome Empty E820Table :=
  if index > table.length then .panic "out of bounds insert"
  else if table.length < capacity then .ok (table.insertIdx index entry)
  else .panic "index out of bounds: the len is 128 but the index is 128"

/-- The loop at the end of `insert_e820_entry`: later entries that the new one reaches are
deleted, merged with it or shrunk. -/
def absorb (table : E820Table) (entry : BootE820Entry) (current : Nat) :
    E820Table × BootE820Entry :=
  if inside : current < table.length then
    let next := table[current]
    if entry.endAddr ≥ next.addr then
      if entry.endAddr ≥ next.endAddr then absorb (table.eraseIdx current) entry current
      else if entry.entryType = next.entryType then
        absorb (table.eraseIdx current) (entry.setSize (next.endAddr - entry.addr)) current
      else
        absorb (table.set current
          ((next.setSize (next.endAddr - entry.endAddr)).setAddr entry.endAddr)) entry (current + 1)
    else (table, entry)
  else (table, entry)
termination_by table.length - current
decreasing_by
  · rw [List.length_eraseIdx_of_lt inside]
    omega
  · rw [List.length_eraseIdx_of_lt inside]
    omega
  · rw [List.length_set]
    omega

/-- The second half of `insert_e820_entry`, with the entry at `index`. -/
def absorbAt (table : E820Table) (index : Nat) : Outcome Empty E820Table :=
  match table[index]? with
  | none => .panic "index out of bounds"
  | some entry =>
    let (table, entry) := absorb table entry (index + 1)
    .ok (table.set index entry)

/-- `insert_e820_entry` if the entry before the index reaches the new one. -/
def insertOverlapping (table : E820Table) (entry : BootE820Entry) (index : Nat)
    (overlapping : BootE820Entry) : Outcome Empty E820Table :=
  if overlapping.entryType = entry.entryType then
    -- Merge the entry with the previous one.
    let merged :=
      if overlapping.endAddr < entry.endAddr then
        overlapping.setSize (entry.endAddr - overlapping.addr)
      else overlapping
    absorbAt (table.set (index - 1) merged) (index - 1)
  else do
    let table ←
      if overlapping.endAddr > entry.endAddr then
        match overlapping.entryType with
        | some entryType =>
          insertAt table (.new entry.endAddr (overlapping.endAddr - entry.endAddr) entryType) index
        | none => .panic "invalid entry type"
      else .ok table
    let table ← insertAt table entry index
    -- Trim the previous one to remove the overlap.
    absorbAt (table.set (index - 1) (overlapping.setSize (entry.addr - overlapping.addr))) index

def insertApart (table : E820Table) (entry : BootE820Entry) (index : Nat) :
    Outcome Empty E820Table := do
  let table ← insertAt table entry index
  absorbAt table index

/-- `ZeroPage::insert_e820_entry`. -/
def insertE820Entry (table : E820Table) (entry : BootE820Entry) : Outcome Empty E820Table :=
  let index := table.findIdx fun other => entry.addr ≤ other.addr
  match (table.take index).getLast? with
  | some overlapping =>
    if overlapping.endAddr ≥ entry.addr then insertOverlapping table entry index overlapping
    else insertApart table entry index
  | none => insertApart table entry index

/-- The test in `ensure_e820_gap`. -/
def reaches (start finish : UInt64) (entry : BootE820Entry) : Bool :=
  finish > entry.addr && start < entry.endAddr

/-- The loop of `ensure_e820_gap`, for so many of its steps; more entries than the table has are
never found. -/
def ensureGapWithin (start finish : UInt64) : Nat → E820Table → Outcome Empty (Option E820Table)
  | 0, _ => .ok none
  | fuel + 1, table =>
    let index := table.findIdx (reaches start finish)
    match table[index]? with
    | none => .ok (some table)
    | some entry =>
      if entry.addr < start ∧ entry.endAddr > finish then
        match entry.entryType with
        | none => .panic "invalid entry type"
        | some entryType => do
          let newEntry := .new finish (entry.endAddr - finish) entryType
          let table ← insertE820Entry
            (table.set index (entry.setSize (start - entry.addr))) newEntry
          ensureGapWithin start finish fuel table
      else if entry.addr ≥ start ∧ entry.endAddr ≤ finish then
        ensureGapWithin start finish fuel (table.eraseIdx index)
      else if entry.addr < start then
        ensureGapWithin start finish fuel
          (table.set index (entry.setSize (start - entry.addr)))
      else
        ensureGapWithin start finish fuel
          (table.set index ((entry.setSize (entry.endAddr - finish)).setAddr finish))

/-- `ensure_e820_gap`; `none` if the steps did not suffice. -/
def ensureE820Gap (table : E820Table) (start size : UInt64) : Outcome Empty (Option E820Table) :=
  ensureGapWithin start (start + size) (table.length + 1) table

def Sorted (table : E820Table) : Prop := table.Pairwise fun first second => first.addr ≤ second.addr

/-- The test on neighbours in `validate_e820_table`. -/
def inOrder : E820Table → Bool
  | first :: second :: rest => first.endAddr ≤ second.addr && inOrder (second :: rest)
  | _ => true

/-- `validate_e820_table`.  Without entries, the number of comparisons wraps to 255, and the loop
leaves the array. -/
def validateE820Table (table : E820Table) : Outcome Empty Unit :=
  if table = [] then .panic "index out of bounds: the len is 128 but the index is 128"
  else if inOrder table = false then
    .panic "assertion failed: e820_table[i].end() <= e820_table[i + 1].addr()"
  else if table.any (fun entry => entry.entryType.isNone) then
    .panic "assertion failed: no entry type is none"
  else .ok ()

/-- An entry in the file `etc/e820`. -/
def decodeEntry (bytes : Bytes) : BootE820Entry :=
  { addr := UInt64.ofNat (ofLittleEndian (bytes.take 8))
    size := UInt64.ofNat (ofLittleEndian ((bytes.drop 8).take 8))
    type_ := UInt32.ofNat (ofLittleEndian ((bytes.drop 16).take 4)) }

def entrySize : Nat := 20

/-- What `read_file_by_name` puts into the table: as many entries as the file and the table have. -/
def readEntries (file : Bytes) : E820Table :=
  (List.range (min (capacity * entrySize) file.length / entrySize)).map fun index =>
    decodeEntry ((file.drop (index * entrySize)).take entrySize)

/-- `sort_unstable_by_key`: the order of entries with the same address is not specified. -/
structure UnstableSort where
  sort : E820Table → E820Table
  perm : ∀ table, (sort table).Perm table
  sorted : ∀ table, Sorted (sort table)

def gapStart : UInt64 := 0xa0000
def gapSize : UInt64 := 0x50000

def smbios : BootE820Entry := .new 0xf0000 0x10000 .reserved

/-- `fill_e820_table`, with a file from the host. -/
def fillE820Table (sorter : UnstableSort) (file : Bytes) : Outcome Empty (Option E820Table) := do
  let table := sorter.sort (readEntries file)
  validateE820Table table
  match ← ensureE820Gap table gapStart gapSize with
  | none => .ok none
  | some table =>
    let table ← insertE820Entry table smbios
    .ok (some table)

end E820Table

end Oak.Stage0
