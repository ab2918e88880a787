import Oak.Kernel.DiceData
import Oak.Kernel.Paging

namespace Oak.Kernel

open Oak.Data

/-! The `mmap` system call (`oak_restricted_kernel/src/syscall/mmap.rs`). -/

def Errno.code : Errno → Int
  | .eio => -5
  | .ebadf => -9
  | .enomem => -12
  | .efault => -14
  | .einval => -22
  | .enosys => -38

structure MmapProtection where
  protRead : Bool
  protWrite : Bool
  protExec : Bool
deriving Repr, DecidableEq

/-- `MmapProtection::from_bits(value as i32)`. -/
def MmapProtection.fromBits (value : Nat) : Option MmapProtection :=
  if value % 2 ^ 32 ||| 0x7 = 0x7 then
    some ⟨value.testBit 0, value.testBit 1, value.testBit 2⟩
  else none

structure MmapFlags where
  mapPrivate : Bool
  mapFixed : Bool
  mapAnonymous : Bool
deriving Repr, DecidableEq

/-- `MmapFlags::from_bits(value as i32)`. -/
def MmapFlags.fromBits (value : Nat) : Option MmapFlags :=
  if value % 2 ^ 32 ||| 0x32 = 0x32 then
    some ⟨value.testBit 1, value.testBit 4, value.testBit 5⟩
  else none

structure Write where
  address : Nat
  bytes : Bytes
deriving Repr, DecidableEq

structure KernelState (τ : Type) (words : Nat) where
  pageTables : Option τ
  allocator : PhysicalMemoryAllocator words
  writes : List Write

structure MappedSlice where
  address : Nat
  size : Nat
deriving Repr, DecidableEq

def hugePage : Nat := PageSize.size2MiB.bytes

def minimumAddress : VirtAddr := ⟨hugePage, by decide⟩

def mmapAddress (addr : Option VirtAddr) (flags : MmapFlags) : Outcome Errno VirtAddr :=
  if flags.mapFixed then
    match addr with
    | none => .err .einval
    | some addr =>
      if ¬ hugePage ∣ addr.value ∨ addr.value < hugePage then .err .einval else .ok addr
  else
    let addr := addr.getD ⟨0, by decide⟩
    ((if addr.value < minimumAddress.value then minimumAddress else addr).alignUp hugePage).widen

/-- `checked_next_multiple_of`. -/
def checkedNextMultiple (size : Nat) : Option Nat :=
  let rounded := (size + (hugePage - 1)) / hugePage * hugePage
  if rounded < 2 ^ 64 then some rounded else none

def pageFlags (encrypted : Bool) (prot : MmapProtection) : PageTableFlags :=
  { present := true
    writable := prot.protWrite
    userAccessible := true
    noExecute := !prot.protExec
    encrypted }

def tableFlags (encrypted : Bool) : PageTableFlags :=
  { present := true, writable := true, userAccessible := true, noExecute := false, encrypted }

section Mmap

variable {τ : Type} {words : Nat} (mapper : Mapper τ words)

def choosePages (tables : τ) (flags : MmapFlags) (addr : VirtAddr) (count : Nat) :
    Outcome Empty (Option (PageRange .size2MiB)) :=
  if flags.mapFixed then do
    let start := Page.containingAddress addr
    let finish ← start.add count
    match ← mapper.isUnallocated tables ⟨start, finish⟩ with
    | .ok () => .ok (some ⟨start, finish⟩)
    | .error _ => .ok none
  else mapper.findUnallocatedPages tables (.containingAddress addr) count

def inUserSpace (pages : PageRange .size2MiB) : Bool :=
  !(pages.start.start.value.testBit 63 || (pages.finish.start.value - 1).testBit 63)

/-- The pages for a rounded size at an address, and the page tables they go into. -/
def planFrom (flags : MmapFlags) (pageTables : Option τ) :
    Option Nat → VirtAddr → Outcome Errno (τ × PageRange .size2MiB × Nat)
  | none, _ => .err .einval
  | some size, addr =>
    match pageTables with
    | none => .panic "called `Option::unwrap()` on a `None` value"
    | some tables => do
      match ← (choosePages mapper tables flags addr (size / hugePage)).widen with
      | none => .err .enomem
      | some pages => if inUserSpace pages then .ok (tables, pages, size) else .err .einval

/-- The part of `mmap` before anything changes: the page tables, the pages and their size. -/
def planMmap (pageTables : Option τ) (addr : Option VirtAddr) (size : Nat) (flags : MmapFlags) :
    Outcome Errno (τ × PageRange .size2MiB × Nat) :=
  if size = 0 then .err .einval
  else if !flags.mapAnonymous || !flags.mapPrivate then .err .einval
  else mmapAddress addr flags >>= planFrom mapper flags pageTables (checkedNextMultiple size)

def mapPage (flags parentFlags : PageTableFlags) (page : Page .size2MiB) (tables : τ)
    (allocator : PhysicalMemoryAllocator words) :
    Outcome Errno Unit × τ × PhysicalMemoryAllocator words :=
  match allocator.allocateLargeFrame with
  | (.error fault, allocator) => (.error (fault.map Empty.elim), tables, allocator)
  | (.ok none, allocator) => (.err .enomem, tables, allocator)
  | (.ok (some frame), allocator) =>
    let (outcome, tables, allocator) := mapper.mapTo tables page frame flags parentFlags allocator
    (outcome.mapErr fun _ => .enomem, tables, allocator)

def mapPages (flags parentFlags : PageTableFlags) (finish : Page .size2MiB) :
    Nat → Page .size2MiB → τ → PhysicalMemoryAllocator words →
    Outcome Errno Unit × τ × PhysicalMemoryAllocator words
  | 0, _, tables, allocator => (.ok (), tables, allocator)
  | fuel + 1, page, tables, allocator =>
    if page.start.value < finish.start.value then
      match page.add 1 with
      | .error fault => (.error (fault.map Empty.elim), tables, allocator)
      | .ok next =>
        match mapPage mapper flags parentFlags page tables allocator with
        | (.error fault, tables, allocator) => (.error fault, tables, allocator)
        | (.ok (), tables, allocator) =>
          mapPages flags parentFlags finish fuel next tables allocator
    else (.ok (), tables, allocator)

def mmap (encrypted : Bool) (addr : Option VirtAddr) (size : Nat) (prot : MmapProtection)
    (flags : MmapFlags) (state : KernelState τ words) :
    Outcome Errno MappedSlice × KernelState τ words :=
  match planMmap mapper state.pageTables addr size flags with
  | .error fault => (.error fault, state)
  | .ok (tables, pages, size) =>
    match mapPages mapper (pageFlags encrypted prot) (tableFlags encrypted) pages.finish
        (Mapper.pagesBetween pages.start pages.finish) pages.start tables state.allocator with
    | (.error fault, tables, allocator) =>
      (.error fault, { state with pageTables := some tables, allocator })
    | (.ok (), tables, allocator) =>
      -- the memory is cleared
      (.ok ⟨pages.start.start.value, size⟩,
        { pageTables := some tables, allocator,
          writes := state.writes ++ [⟨pages.start.start.value, List.replicate size 0⟩] })

/-- The system call.  The file descriptor and the offset are only logged. -/
def syscallMmap (encrypted : Bool) (addr size prot flags : Nat) (state : KernelState τ words) :
    Outcome Empty Int × KernelState τ words :=
  match MmapProtection.fromBits prot, MmapFlags.fromBits flags, VirtAddr.tryNew addr with
  | some prot, some flags, some addr =>
    match mmap mapper encrypted (some addr) size prot flags state with
    | (.ok slice, state) => (.ok slice.address, state)
    | (.error (.error errno), state) => (.ok errno.code, state)
    | (.error (.panic message), state) => (.panic message, state)
  | _, _, _ => (.ok Errno.einval.code, state)

end Mmap

end Oak.Kernel
