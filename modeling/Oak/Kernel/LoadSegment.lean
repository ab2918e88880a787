import Oak.Data.Anyhow
import Oak.Kernel.MmapSafety

namespace Oak.Kernel

open Oak.Data

/-! Loading the segments of an ELF file (`oak_restricted_kernel/src/processes.rs`).

The parser of ELF files is a parameter.  Arithmetic on header fields wraps, as
it does in the kernel that is deployed. -/

structure ProgramHeader where
  pType : Nat
  pFlags : Nat
  pOffset : Nat
  pVaddr : Nat
  pFilesz : Nat
  pMemsz : Nat
  bounded : pOffset < 2 ^ 64 ∧ pVaddr < 2 ^ 64 ∧ pFilesz < 2 ^ 64 ∧ pMemsz < 2 ^ 64
deriving Repr, DecidableEq

def ptLoad : Nat := 1

def validateLoadSegment (phdr : ProgramHeader) : Anyhow.Result Unit :=
  Anyhow.ensure (phdr.pFilesz ≤ phdr.pMemsz)
    s!"invalid ELF segment: p_filesz {phdr.pFilesz} exceeds p_memsz {phdr.pMemsz}"

structure ElfExecuteable where
  blob : Bytes
  programHeaders : List ProgramHeader
deriving Repr, DecidableEq

namespace ElfExecuteable

def loadSegments (elf : ElfExecuteable) : List ProgramHeader :=
  elf.programHeaders.filter (·.pType = ptLoad)

def new (parse : Bytes → Except String (List ProgramHeader)) (blob : Bytes) :
    Anyhow.Result ElfExecuteable := do
  let programHeaders ← Anyhow.mapText (fun err => s!"failed to parse ELF file: {err}") (parse blob)
  let elf : ElfExecuteable := { blob, programHeaders }
  elf.loadSegments.forM validateLoadSegment
  .ok elf

/-- The bytes of the file from `start` on. -/
def slice (elf : ElfExecuteable) (start limit : Nat) : Outcome Empty Bytes :=
  let finish := (start + limit) % 2 ^ 64
  if start ≤ finish ∧ finish ≤ elf.blob.length then
    .ok ((elf.blob.drop start).take (finish - start))
  else .panic "range out of bounds"

/-- `PROT_READ` is always there. -/
def protection (phdr : ProgramHeader) : MmapProtection :=
  { protRead := true
    protWrite := phdr.pFlags.testBit 1
    protExec := phdr.pFlags.testBit 0 }

def segmentFlags : MmapFlags := { mapPrivate := true, mapFixed := true, mapAnonymous := true }

def segmentSize (phdr : ProgramHeader) (vaddr : VirtAddr) : Nat :=
  ((phdr.pVaddr - vaddr.value) + phdr.pMemsz) % 2 ^ 64

section Load

variable {τ : Type} {words : Nat} (mapper : Mapper τ words) (encrypted : Bool)

def loadSegment (elf : ElfExecuteable) (phdr : ProgramHeader) (state : KernelState τ words) :
    Outcome Empty Unit × KernelState τ words :=
  match VirtAddr.new phdr.pVaddr with
  | .error fault => (.error fault, state)
  | .ok start =>
    let vaddr := start.alignDown hugePage
    match mmap mapper encrypted (some vaddr) (segmentSize phdr vaddr) (protection phdr)
        segmentFlags state with
    | (.error _, state) => (.panic "failed to allocate user memory", state)
    | (.ok _, state) =>
      match elf.slice phdr.pOffset phdr.pFilesz with
      | .error fault => (.error fault, state)
      | .ok bytes => (.ok (), { state with writes := state.writes ++ [⟨phdr.pVaddr, bytes⟩] })

end Load

variable {elf : ElfExecuteable} {phdr : ProgramHeader}

theorem validated {parse : Bytes → Except String (List ProgramHeader)} {blob : Bytes}
    (accepted : new parse blob = .ok elf) (segment : phdr ∈ elf.loadSegments) :
    elf.blob = blob ∧ phdr.pFilesz ≤ phdr.pMemsz := by
  obtain ⟨headers, -, checked⟩ := except_bind_eq_ok.mp accepted
  obtain ⟨_, valid, same⟩ := except_bind_eq_ok.mp checked
  cases same
  exact ⟨rfl, Anyhow.ensure_eq_ok.mp (forM_eq_ok_iff.mp valid phdr segment)⟩

theorem slice_eq_ok {start limit : Nat} {bytes : Bytes} (small : limit < 2 ^ 64)
    (fits : elf.blob.length < 2 ^ 64) : elf.slice start limit = .ok bytes ↔
      start + limit ≤ elf.blob.length ∧ bytes = (elf.blob.drop start).take limit := by
  rw [slice]
  by_cases inside : start + limit ≤ elf.blob.length
  · have exact : (start + limit) % 2 ^ 64 = start + limit := by omega
    simp only [exact]
    rw [eq_comm]
    simp [inside]
  · rw [if_neg (by omega)]
    exact ⟨nofun, fun all => absurd all.1 inside⟩

section Loaded

variable {τ : Type} {words : Nat} {mapper : Mapper τ words} {lawful : LawfulMapper mapper}
  {state : KernelState τ words} {encrypted : Bool}

/-- A region was mapped for the segment and contains it, and it is all that was written to: after the
region is cleared, the bytes of the file are copied to where they belong. -/
structure Loaded (lawful : LawfulMapper mapper) (encrypted : Bool) (elf : ElfExecuteable)
    (phdr : ProgramHeader) (before after : KernelState τ words) (region : MappedSlice) : Prop where
  mapped : ∃ middle : KernelState τ words, middle.pageTables = after.pageTables ∧
    ∃ addr size, Succeeded lawful encrypted addr size (protection phdr) segmentFlags before middle region
  contains : region.address ≤ phdr.pVaddr ∧
    phdr.pVaddr + phdr.pMemsz ≤ region.address + region.size
  writes : ∃ bytes, after.writes = before.writes ++
      [⟨region.address, List.replicate region.size 0⟩, ⟨phdr.pVaddr, bytes⟩] ∧
    bytes = (elf.blob.drop phdr.pOffset).take phdr.pFilesz ∧ bytes.length = phdr.pFilesz ∧
    phdr.pVaddr + bytes.length ≤ region.address + region.size

def LoadSafe (lawful : LawfulMapper mapper) (encrypted : Bool) (elf : ElfExecuteable)
    (phdr : ProgramHeader) (before : KernelState τ words)
    (answer : Outcome Empty Unit × KernelState τ words) : Prop :=
  answer.1 = .ok () → ∃ region, Loaded lawful encrypted elf phdr before answer.2 region

/-- The size of the segment, with the padding in front of it, is not larger than the largest integer. -/
def NoWrap (phdr : ProgramHeader) : Prop := phdr.pVaddr % hugePage + phdr.pMemsz < 2 ^ 64

instance (phdr : ProgramHeader) : Decidable (NoWrap phdr) := inferInstanceAs (Decidable (_ < _))

/-- The load cannot succeed: the file is too short, the address is none, or the region cannot be
mapped. -/
def Refused (mapper : Mapper τ words) (encrypted : Bool) (elf : ElfExecuteable)
    (phdr : ProgramHeader) (state : KernelState τ words) : Prop :=
  elf.blob.length < phdr.pOffset + phdr.pFilesz ∨ ∀ start region,
    VirtAddr.new phdr.pVaddr = .ok start →
    (mmap mapper encrypted (some (start.alignDown hugePage))
      (segmentSize phdr (start.alignDown hugePage)) (protection phdr) segmentFlags state).1 ≠ .ok region

theorem new_eq_ok {value : Nat} {addr : VirtAddr} (accepted : VirtAddr.new value = .ok addr) :
    addr.value = value := by
  rw [VirtAddr.new] at accepted
  split at accepted <;> cases accepted
  rfl

theorem value_alignDown (addr : VirtAddr) :
    (addr.alignDown hugePage).value = addr.value / hugePage * hugePage :=
  @Page.value_containingAddress .size2MiB addr

variable {after : KernelState τ words}

/-- The steps of a load, whatever does the mapping.  Were it `mmap` here, the kernel would evaluate
it to find the branch that is taken. -/
theorem mapAndCopy_eq_ok
    (map : Option VirtAddr → Nat → MmapProtection → MmapFlags → KernelState τ words →
      Outcome Errno MappedSlice × KernelState τ words) :
    (match VirtAddr.new phdr.pVaddr with
      | .error fault => (.error fault, state)
      | .ok start =>
          let vaddr := start.alignDown hugePage
          match map (some vaddr) (segmentSize phdr vaddr) (protection phdr) segmentFlags state with
          | (.error _, state) => (.panic "failed to allocate user memory", state)
          | (.ok _, state) =>
            match elf.slice phdr.pOffset phdr.pFilesz with
            | .error fault => (.error fault, state)
            | .ok bytes =>
              (.ok (), { state with writes := state.writes ++ [⟨phdr.pVaddr, bytes⟩] })) =
        ((.ok (), after) : Outcome Empty Unit × KernelState τ words) ↔
    ∃ start region middle bytes, VirtAddr.new phdr.pVaddr = .ok start ∧
      map (some (start.alignDown hugePage)) (segmentSize phdr (start.alignDown hugePage))
        (protection phdr) segmentFlags state = (.ok region, middle) ∧
      elf.slice phdr.pOffset phdr.pFilesz = .ok bytes ∧
      { middle with writes := middle.writes ++ [⟨phdr.pVaddr, bytes⟩] } = after := by
  cases VirtAddr.new phdr.pVaddr with
  | error fault => simp
  | ok start =>
    rcases mapped : map (some (start.alignDown hugePage))
      (segmentSize phdr (start.alignDown hugePage)) (protection phdr) segmentFlags state with
      ⟨fault | region, middle⟩
    · simp [mapped, Outcome.panic]
    · cases elf.slice phdr.pOffset phdr.pFilesz <;> simp [mapped]

theorem loadSegment_eq_ok :
    loadSegment mapper encrypted elf phdr state = (.ok (), after) ↔
    ∃ start region middle bytes, VirtAddr.new phdr.pVaddr = .ok start ∧
      mmap mapper encrypted (some (start.alignDown hugePage))
        (segmentSize phdr (start.alignDown hugePage)) (protection phdr) segmentFlags state =
          (.ok region, middle) ∧
      elf.slice phdr.pOffset phdr.pFilesz = .ok bytes ∧
      { middle with writes := middle.writes ++ [⟨phdr.pVaddr, bytes⟩] } = after := by
  exact mapAndCopy_eq_ok (mmap mapper encrypted)

theorem loadSegment_ok_iff (fits : elf.blob.length < 2 ^ 64) :
    (loadSegment mapper encrypted elf phdr state).1 = .ok () ↔
      ¬ Refused mapper encrypted elf phdr state := by
  have steps : (loadSegment mapper encrypted elf phdr state).1 = .ok () ↔
      ∃ after, loadSegment mapper encrypted elf phdr state = (.ok (), after) :=
    ⟨fun done => ⟨_, Prod.ext done rfl⟩, fun ⟨_, same⟩ => by rw [same]⟩
  rw [steps, Refused]
  push Not
  constructor
  · rintro ⟨after, loaded⟩
    obtain ⟨start, region, middle, bytes, start_eq, mapped, taken, -⟩ := loadSegment_eq_ok.mp loaded
    exact ⟨((slice_eq_ok phdr.bounded.2.2.1 fits).mp taken).1, start, region, start_eq, by rw [mapped]⟩
  · rintro ⟨inside, start, region, start_eq, mapped⟩
    exact ⟨_, loadSegment_eq_ok.mpr ⟨start, region, _, _, start_eq, Prod.ext mapped rfl,
      (slice_eq_ok phdr.bounded.2.2.1 fits).mpr ⟨inside, rfl⟩, rfl⟩⟩

theorem loaded_of_noWrap (booted : Booted lawful state) (fits : elf.blob.length < 2 ^ 64)
    (valid : phdr.pFilesz ≤ phdr.pMemsz) (noWrap : NoWrap phdr)
    (loaded : loadSegment mapper encrypted elf phdr state = (.ok (), after)) :
    ∃ region, Loaded lawful encrypted elf phdr state after region := by
  obtain ⟨start, region, middle, bytes, start_eq, mapped, taken, rfl⟩ := loadSegment_eq_ok.mp loaded
  obtain ⟨vaddr, vaddr_eq⟩ : ∃ vaddr, vaddr = start.alignDown hugePage := ⟨_, rfl⟩
  have start : vaddr.value = phdr.pVaddr / hugePage * hugePage := by
    rw [vaddr_eq, value_alignDown, new_eq_ok start_eq]
  rw [← vaddr_eq] at mapped
  have spec := mmap_spec booted encrypted vaddr (segmentSize phdr vaddr) (protection phdr) segmentFlags
  rw [mapped] at spec
  have succeeded := spec.succeeded region rfl
  obtain ⟨inside, bytes_eq⟩ := (slice_eq_ok phdr.bounded.2.2.1 fits).mp taken
  have length : bytes.length = phdr.pFilesz := by
    rw [bytes_eq, List.length_take, List.length_drop]
    omega
  have address := succeeded.fixed rfl
  have enough := succeeded.enough
  have padding := Nat.div_add_mod phdr.pVaddr hugePage
  have size : segmentSize phdr vaddr = phdr.pVaddr % hugePage + phdr.pMemsz := by
    rw [segmentSize, start, Nat.mul_comm]
    rw [show phdr.pVaddr - hugePage * (phdr.pVaddr / hugePage) = phdr.pVaddr % hugePage by omega]
    exact Nat.mod_eq_of_lt noWrap
  rw [start, Nat.mul_comm] at address
  refine ⟨region, ⟨middle, rfl, _, _, succeeded⟩, ⟨by omega, by omega⟩, bytes, ?_, bytes_eq, length,
    by omega⟩
  have cleared : middle.writes = _ := succeeded.cleared
  rw [cleared, List.append_assoc]
  rfl

/-- A segment of two bytes at the end of a page, with the given size in memory. -/
def edgeSegment (pMemsz : Nat) (small : pMemsz < 2 ^ 64) : ProgramHeader where
  pType := ptLoad
  pFlags := 6
  pOffset := 0
  pVaddr := 0x5FFFFF
  pFilesz := 2
  pMemsz
  bounded := ⟨by decide, by decide, by decide, small⟩

def edgeFile (pMemsz : Nat) (small : pMemsz < 2 ^ 64) : ElfExecuteable :=
  ⟨[1, 2], [edgeSegment pMemsz small]⟩

end Loaded

end ElfExecuteable

end Oak.Kernel
