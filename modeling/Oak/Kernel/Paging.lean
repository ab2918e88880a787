import Oak.Kernel.FrameAllocator

namespace Oak.Kernel

open Oak.Data

/-! Virtual addresses, pages and page tables, and the search for unmapped pages
(`oak_restricted_kernel/src/mm/page_tables.rs`).

The types of addresses and pages are those of the `x86_64` crate, with the
panics that it documents: a sum that is not a canonical address panics, and so
does the step of an iterator over pages that leaves the canonical addresses.
Page tables are a parameter. -/

def Canonical (value : Nat) : Prop :=
  value < 2 ^ 47 ∨ 2 ^ 64 - 2 ^ 47 ≤ value ∧ value < 2 ^ 64

instance (value : Nat) : Decidable (Canonical value) := inferInstanceAs (Decidable (_ ∨ _))

structure VirtAddr where
  value : Nat
  canonical : Canonical value
deriving Repr, DecidableEq

namespace VirtAddr

@[ext] theorem ext {addr other : VirtAddr} (same : addr.value = other.value) : addr = other := by
  cases addr
  cases other
  cases same
  rfl

def tryNew (value : Nat) : Option VirtAddr :=
  if canonical : Canonical value then some ⟨value, canonical⟩ else none

def new (value : Nat) : Outcome Empty VirtAddr :=
  if canonical : Canonical value then .ok ⟨value, canonical⟩
  else .panic "virtual address must be sign extended in bits 48 to 64"

-- the sum is in this order because the evaluation of a comparison stops at the unknown address
/-- `VirtAddr + u64`. -/
def add (addr : VirtAddr) (offset : Nat) : Outcome Empty VirtAddr :=
  if canonical : Canonical (offset + addr.value) then .ok ⟨offset + addr.value, canonical⟩
  else .panic "attempt to add resulted in non-canonical virtual address"

def signExtend (value : Nat) : Nat :=
  if value % 2 ^ 48 < 2 ^ 47 then value % 2 ^ 48 else value % 2 ^ 48 + (2 ^ 64 - 2 ^ 48)

theorem canonical_signExtend (value : Nat) : Canonical (signExtend value) := by
  rw [Canonical, signExtend]
  split <;> omega

def newTruncate (value : Nat) : VirtAddr := ⟨signExtend value, canonical_signExtend value⟩

theorem signExtend_of_canonical {value : Nat} (canonical : Canonical value) :
    signExtend value = value := by
  rw [Canonical] at canonical
  rw [signExtend]
  split <;> omega

def alignDown (addr : VirtAddr) (align : Nat) : VirtAddr :=
  newTruncate (addr.value / align * align)

def alignUp (addr : VirtAddr) (align : Nat) : Outcome Empty VirtAddr :=
  if (addr.value + (align - 1)) / align * align < 2 ^ 64 then
    .ok (newTruncate ((addr.value + (align - 1)) / align * align))
  else .panic "attempt to add with overflow"

end VirtAddr

structure Page (size : PageSize) where
  start : VirtAddr
  aligned : size.bytes ∣ start.value
deriving Repr, DecidableEq

namespace Page

variable {size : PageSize}

@[ext] theorem ext {page other : Page size} (same : page.start = other.start) : page = other := by
  cases page
  cases other
  cases same
  rfl

theorem dvd_signExtend {value : Nat} (aligned : size.bytes ∣ value) :
    size.bytes ∣ VirtAddr.signExtend value := by
  have whole : size.bytes ∣ 2 ^ 48 := by cases size <;> decide
  have upper : size.bytes ∣ 2 ^ 64 - 2 ^ 48 := by cases size <;> decide
  rw [VirtAddr.signExtend]
  split
  · exact (Nat.dvd_mod_iff whole).mpr aligned
  · exact Nat.dvd_add ((Nat.dvd_mod_iff whole).mpr aligned) upper

def containingAddress (addr : VirtAddr) : Page size :=
  ⟨addr.alignDown size.bytes, dvd_signExtend (Nat.dvd_mul_left _ _)⟩

/-- `Page + u64`. -/
def add (page : Page size) (count : Nat) : Outcome Empty (Page size) := do
  let start ← page.start.add (count * size.bytes)
  .ok (containingAddress start)

end Page

/-- `PageRange`, without its end. -/
structure PageRange (size : PageSize) where
  start : Page size
  finish : Page size
deriving Repr, DecidableEq

structure PageTableFlags where
  present : Bool
  writable : Bool
  userAccessible : Bool
  noExecute : Bool
  encrypted : Bool
deriving Repr, DecidableEq

inductive MapToError where
  | frameAllocationFailed
  | parentEntryHugePage
  | pageAlreadyMapped
deriving Repr, DecidableEq

/-- `Translate` and `Mapper<Size2MiB>` of the `x86_64` crate, for some type of page tables. -/
structure Mapper (τ : Type) (words : Nat) where
  translateAddr : τ → VirtAddr → Option Nat
  mapTo : τ → Page .size2MiB → PhysFrame .size2MiB → PageTableFlags → PageTableFlags →
    PhysicalMemoryAllocator words →
    Outcome MapToError Unit × τ × PhysicalMemoryAllocator words

namespace Mapper

variable {τ : Type} {words : Nat} (mapper : Mapper τ words)

def afterSmallFrames (allocator : PhysicalMemoryAllocator words) :
    Nat → PhysicalMemoryAllocator words
  | 0 => allocator
  | count + 1 => afterSmallFrames allocator.allocateSmallFrame.2 count

/-- `Iterator::find` over the 4 KiB pages before `last`, for a mapping. -/
def findMapped (tables : τ) (last : Page .size4KiB) :
    Nat → Page .size4KiB → Outcome Empty (Option (Page .size4KiB))
  | 0, _ => .ok none
  | fuel + 1, page =>
    if page.start.value < last.start.value then do
      -- the iterator takes its step before it gives the page
      let next ← page.add 1
      if (mapper.translateAddr tables page.start).isSome then .ok (some page)
      else findMapped tables last fuel next
    else .ok none

def pagesBetween {size : PageSize} (first last : Page size) : Nat :=
  (last.start.value - first.start.value) / size.bytes

/-- `is_unallocated`: a page that has a mapping in it, if there is one. -/
def isUnallocated {size : PageSize} (tables : τ) (range : PageRange size) :
    Outcome Empty (Except (Page size) Unit) := do
  let first := Page.containingAddress range.start.start
  let last := Page.containingAddress range.finish.start
  match ← mapper.findMapped tables last (pagesBetween first last) first with
  | some item => .ok (.error (.containingAddress item.start))
  | none => .ok (.ok ())

/-- The last page of 2 MiB in the half of the address space that `start` is in. -/
def limit (start : Page .size2MiB) : Page .size2MiB :=
  if start.start.value < 2 ^ 47 then .containingAddress ⟨2 ^ 47 - 1, by decide⟩
  else .containingAddress ⟨0xFFFFFFFFFFFFFFFF - 1, by decide⟩

/-- The loop of `find_unallocated_pages`. -/
def findFrom (tables : τ) (count : Nat) (limit : Page .size2MiB) :
    Nat → Page .size2MiB → Outcome Empty (Option (PageRange .size2MiB))
  | 0, _ => .ok none
  | fuel + 1, start =>
    if start.start.value < limit.start.value then do
      let finish ← start.add count
      match ← mapper.isUnallocated tables ⟨start, finish⟩ with
      | .ok () => .ok (some ⟨start, finish⟩)
      | .error page =>
        let next ← page.add 1
        findFrom tables count limit fuel next
    else .ok none

def findUnallocatedPages (tables : τ) (start : Page .size2MiB) (count : Nat) :
    Outcome Empty (Option (PageRange .size2MiB)) :=
  mapper.findFrom tables count (limit start) (pagesBetween start (limit start)) start

end Mapper

/-- What the crate documents of page tables: a mapping covers whole pages, mapping a page gives it
its frame and its flags and changes no other address, and the frames for further page tables come
from the allocator. -/
structure LawfulMapper {τ : Type} {words : Nat} (mapper : Mapper τ words) where
  view : τ → Nat → Option (Nat × PageTableFlags)
  translate : ∀ tables addr,
    mapper.translateAddr tables addr = (view tables addr.value).map Prod.fst
  whole : ∀ tables address, view tables address = none ↔
    view tables (address / PageSize.size4KiB.bytes * PageSize.size4KiB.bytes) = none
  mapped : ∀ tables page frame flags parentFlags allocator,
    (mapper.mapTo tables page frame flags parentFlags allocator).1 = .ok () → ∀ address,
      view (mapper.mapTo tables page frame flags parentFlags allocator).2.1 address =
        if page.start.value ≤ address ∧ address < page.start.value + PageSize.size2MiB.bytes then
          some (frame.startAddress + (address - page.start.value), flags)
        else view tables address
  failed : ∀ tables page frame flags parentFlags allocator,
    (mapper.mapTo tables page frame flags parentFlags allocator).1 ≠ .ok () →
      view (mapper.mapTo tables page frame flags parentFlags allocator).2.1 = view tables
  allocates : ∀ tables page frame flags parentFlags allocator, ∃ count,
    (mapper.mapTo tables page frame flags parentFlags allocator).2.2 =
      Mapper.afterSmallFrames allocator count ∧
    ((mapper.mapTo tables page frame flags parentFlags allocator).1.IsPanic →
      ∃ earlier < count,
        (Mapper.afterSmallFrames allocator earlier).allocateSmallFrame.1.IsPanic)

end Oak.Kernel
