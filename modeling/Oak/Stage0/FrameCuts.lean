import Oak.Data.Tally
import Oak.Stage0.E820Fill

namespace Oak.Stage0

open Oak.Data Oak.Data.Tally

/-! How the firmware cuts the memory of an E820 table into pages.

`validate_memory` (`stage0_sev`) and `accept_tdx_memory` (`stage0_tdx`) cut each RAM entry into
4 KiB pages up to a 2 MiB boundary, 2 MiB pages, and 4 KiB pages after the last boundary. -/

def physLimit : Nat := 2 ^ 52

inductive PageSize where
  | size4KiB
  | size2MiB
deriving Repr, DecidableEq

namespace PageSize

def frames : PageSize → Nat
  | size4KiB => 1
  | size2MiB => 512

def bytes (size : PageSize) : Nat := 4096 * size.frames

end PageSize

/-- A page-aligned range of physical memory: the frame `number` of its size. -/
structure PhysFrame where
  size : PageSize
  number : Nat
deriving Repr, DecidableEq

namespace PhysFrame

def startAddress (frame : PhysFrame) : Nat := frame.size.bytes * frame.number

def covers (frame : PhysFrame) (number : Nat) : Bool := number / frame.size.frames == frame.number

def Fits (frame : PhysFrame) : Prop := frame.size.bytes * (frame.number + 1) < physLimit

/-- `PhysFrame::from_start_address(address).unwrap()`. -/
def fromStartAddress (size : PageSize) (address : Nat) : Outcome Empty PhysFrame :=
  if address % size.bytes = 0 then .ok ⟨size, address / size.bytes⟩
  else .panic "called `Result::unwrap()` on an `Err` value: AddressNotAligned"

end PhysFrame

/-- `PhysFrameRange`, by the numbers of its first frame and of the frame behind its last. -/
structure PhysFrameRange where
  size : PageSize
  start : Nat
  limit : Nat
deriving Repr, DecidableEq

namespace PhysFrameRange

def frames (range : PhysFrameRange) : List PhysFrame :=
  (List.range' range.start (range.limit - range.start)).map (PhysFrame.mk range.size)

def covers (range : PhysFrameRange) (number : Nat) : Bool :=
  range.start ≤ number / range.size.frames && number / range.size.frames < range.limit

/-- `PhysFrame::range` between two addresses. -/
def between (size : PageSize) (start limit : Nat) : Outcome Empty PhysFrameRange := do
  let start ← PhysFrame.fromStartAddress size start
  let limit ← PhysFrame.fromStartAddress size limit
  return ⟨size, start.number, limit.number⟩

def Fits (range : PhysFrameRange) : Prop := range.size.bytes * range.limit < physLimit

def ofHugepage (number : Nat) : PhysFrameRange := ⟨.size4KiB, 512 * number, 512 * number + 512⟩

end PhysFrameRange

namespace PhysAddr

/-- What `PhysAddr::new` says about a number that is too large. -/
def invalidAddress : String := "physical addresses must not have any bits in the range 52 to 64 set"

/-- `PhysAddr::align_up`, which panics if the result does not fit. -/
def alignUp (address align : Nat) : Outcome Empty Nat :=
  let aligned := (address + align - 1) / align * align
  if aligned < physLimit then .ok aligned
  else .panic invalidAddress

def alignDown (address align : Nat) : Nat := address / align * align

end PhysAddr

def rangeIf (needed : Prop) [Decidable needed] (size : PageSize) (start limit : Nat) :
    Outcome Empty (List PhysFrameRange) :=
  if needed then (PhysFrameRange.between size start limit).map ([·]) else .ok []

/-- The second half of the loop body in `validate_memory`, and `accept_memory_range`: the ranges in
their order. -/
def memoryRanges (startAddress limitAddress : Nat) : Outcome Empty (List PhysFrameRange) := do
  let hugepageStart ← PhysAddr.alignUp startAddress PageSize.size2MiB.bytes
  let hugepageLimit := PhysAddr.alignDown limitAddress PageSize.size2MiB.bytes
  let leading ← rangeIf (hugepageStart > startAddress) .size4KiB startAddress
    (min hugepageStart limitAddress)
  let middle ← rangeIf (hugepageLimit > hugepageStart) .size2MiB hugepageStart hugepageLimit
  let trailing ← rangeIf (limitAddress > hugepageLimit) .size4KiB
    (max startAddress hugepageLimit) limitAddress
  return leading ++ middle ++ trailing

def minAddr : UInt64 := 0xa0000

/-- A RAM entry that is not part of the memory that the boot assembly has taken care of. -/
def BootE820Entry.IsMemory (entry : BootE820Entry) : Prop :=
  entry.entryType = some .ram ∧ minAddr ≤ entry.addr

instance (entry : BootE820Entry) : Decidable entry.IsMemory := inferInstanceAs (Decidable (_ ∧ _))

def boundedRanges (addr finish : Nat) : Outcome Empty (List PhysFrameRange) :=
  if physLimit ≤ addr ∨ physLimit ≤ finish then .ok []
  else do
    let startAddress ← PhysAddr.alignUp addr PageSize.size4KiB.bytes
    let limitAddress := PhysAddr.alignDown finish PageSize.size4KiB.bytes
    if startAddress > limitAddress then .ok [] else memoryRanges startAddress limitAddress

/-- The ranges of an entry; `checked_add` finds the entries that wrap. -/
def BootE820Entry.ranges (entry : BootE820Entry) : Outcome Empty (List PhysFrameRange) :=
  if entry.Normal then boundedRanges entry.span.start entry.span.stop else .ok []

namespace PhysFrameRange

variable {range : PhysFrameRange}

theorem covers_eq_true {number : Nat} : range.covers number = true ↔
    range.start ≤ number / range.size.frames ∧ number / range.size.frames < range.limit := by
  simp [covers]

theorem coverage_frames (range : PhysFrameRange) (number : Nat) :
    coverage PhysFrame.covers range.frames number = if range.covers number then 1 else 0 := by
  obtain ⟨size, start, limit⟩ := range
  have counted (count : Nat) : coverage PhysFrame.covers
      ((List.range' start count).map (PhysFrame.mk size)) number =
        if start ≤ number / size.frames ∧ number / size.frames < start + count then 1 else 0 := by
    induction count with
    | zero =>
      rw [if_neg (by omega)]
      rfl
    | succ count ih =>
      rw [List.range'_concat, List.map_append, coverage_append, ih]
      simp only [List.map_cons, List.map_nil, coverage_cons, coverage_nil,
        PhysFrame.covers, beq_iff_eq]
      split <;> split <;> split <;> omega
  rw [frames, counted]
  simp only [covers_eq_true]
  congr 1
  rw [eq_iff_iff]
  omega

theorem fits_of_mem_frames {frame : PhysFrame} (fits : range.Fits) (member : frame ∈ range.frames) :
    frame.Fits := by
  obtain ⟨number, inside, rfl⟩ := List.mem_map.mp member
  rw [List.mem_range'_1] at inside
  have below : number + 1 ≤ range.limit := by omega
  exact Nat.lt_of_le_of_lt (Nat.mul_le_mul_left _ below) fits

theorem size_of_mem_frames {frame : PhysFrame} (member : frame ∈ range.frames) :
    frame.size = range.size := by
  obtain ⟨number, _, rfl⟩ := List.mem_map.mp member
  rfl

theorem covers_ofHugepage (page number : Nat) :
    (ofHugepage page).covers number = (PhysFrame.mk .size2MiB page).covers number := by
  rw [Bool.eq_iff_iff, covers_eq_true]
  simp only [ofHugepage, PhysFrame.covers, PageSize.frames, beq_iff_eq]
  omega

end PhysFrameRange

/-- The number of the first 2 MiB page that starts in or behind a 4 KiB frame. -/
def hugepageFrom (frame : Nat) : Nat := (frame + 511) / 512

def cuts (start limit : Nat) : List PhysFrameRange :=
  (if start < 512 * hugepageFrom start then
    [⟨.size4KiB, start, min (512 * hugepageFrom start) limit⟩] else []) ++
  (if hugepageFrom start < limit / 512 then
    [⟨.size2MiB, hugepageFrom start, limit / 512⟩] else []) ++
  (if 512 * (limit / 512) < limit then
    [⟨.size4KiB, max start (512 * (limit / 512)), limit⟩] else [])

theorem between_frames (size : PageSize) (start limit : Nat) :
    PhysFrameRange.between size (size.bytes * start) (size.bytes * limit) =
      .ok ⟨size, start, limit⟩ := by
  have positive : 0 < size.bytes := by cases size <;> decide
  simp only [PhysFrameRange.between, PhysFrame.fromStartAddress, Nat.mul_mod_right,
    Nat.mul_div_cancel_left _ positive]
  rfl

theorem between_hugepage (page : Nat) :
    PhysFrameRange.between .size4KiB (2097152 * page) (2097152 * (page + 1)) =
      .ok (PhysFrameRange.ofHugepage page) := by
  have start : 2097152 * page = 4096 * (512 * page) := by omega
  have limit : 2097152 * (page + 1) = 4096 * (512 * page + 512) := by omega
  rw [start, limit]
  exact between_frames .size4KiB (512 * page) (512 * page + 512)

theorem rangeIf_frames (needed : Prop) [Decidable needed] (size : PageSize) (start limit : Nat)
    {startAddress limitAddress : Nat} (starts : startAddress = size.bytes * start)
    (ends : limitAddress = size.bytes * limit) : rangeIf needed size startAddress limitAddress =
      .ok (if needed then [⟨size, start, limit⟩] else []) := by
  subst starts ends
  unfold rangeIf
  split
  · rw [between_frames]
    rfl
  · rfl

/-- The first frame that starts at an address or behind it. -/
def firstFrame (addr : Nat) : Nat := (addr + 4095) / 4096

theorem alignUp_small (addr : Nat) : PhysAddr.alignUp addr PageSize.size4KiB.bytes =
    if 4096 * firstFrame addr < physLimit then .ok (4096 * firstFrame addr)
    else .panic PhysAddr.invalidAddress := by
  have bytes : PageSize.size4KiB.bytes = 4096 := rfl
  have aligned : (addr + 4096 - 1) / 4096 * 4096 = 4096 * firstFrame addr := by
    rw [firstFrame]
    omega
  rw [PhysAddr.alignUp, bytes, aligned]

theorem alignUp_huge (start : Nat) : PhysAddr.alignUp (4096 * start) PageSize.size2MiB.bytes =
    if 2097152 * hugepageFrom start < physLimit then .ok (2097152 * hugepageFrom start)
    else .panic PhysAddr.invalidAddress := by
  have bytes : PageSize.size2MiB.bytes = 2097152 := rfl
  have aligned : (4096 * start + 2097152 - 1) / 2097152 * 2097152 =
      2097152 * hugepageFrom start := by
    rw [hugepageFrom]
    omega
  rw [PhysAddr.alignUp, bytes, aligned]

variable {start limit : Nat}

theorem memoryRanges_frames (fits : 2097152 * hugepageFrom start < physLimit) :
    memoryRanges (4096 * start) (4096 * limit) = .ok (cuts start limit) := by
  have small : PageSize.size4KiB.bytes = 4096 := rfl
  have large : PageSize.size2MiB.bytes = 2097152 := rfl
  have hugepageLimit : PhysAddr.alignDown (4096 * limit) PageSize.size2MiB.bytes =
      2097152 * (limit / 512) := by
    rw [PhysAddr.alignDown, large]
    omega
  have leading := rangeIf_frames (2097152 * hugepageFrom start > 4096 * start) .size4KiB start
    (min (512 * hugepageFrom start) limit)
    (show 4096 * start = _ by rw [small])
    (show min (2097152 * hugepageFrom start) (4096 * limit) = _ by rw [small]; omega)
  have middle := rangeIf_frames (2097152 * (limit / 512) > 2097152 * hugepageFrom start) .size2MiB
    (hugepageFrom start) (limit / 512)
    (show 2097152 * hugepageFrom start = _ by rw [large])
    (show 2097152 * (limit / 512) = _ by rw [large])
  have trailing := rangeIf_frames (4096 * limit > 2097152 * (limit / 512)) .size4KiB
    (max start (512 * (limit / 512))) limit
    (show max (4096 * start) (2097152 * (limit / 512)) = _ by rw [small]; omega)
    (show 4096 * limit = _ by rw [small])
  rw [memoryRanges, alignUp_huge, if_pos fits, Outcome.ok_bind]
  simp only [hugepageLimit, leading, middle, trailing]
  have first : 2097152 * hugepageFrom start > 4096 * start ↔ start < 512 * hugepageFrom start := by
    omega
  have second : 2097152 * (limit / 512) > 2097152 * hugepageFrom start ↔
      hugepageFrom start < limit / 512 := by omega
  have third : 4096 * limit > 2097152 * (limit / 512) ↔ 512 * (limit / 512) < limit := by omega
  simp only [first, second, third]
  rfl

theorem memoryRanges_panics (large : ¬ 2097152 * hugepageFrom start < physLimit) :
    (memoryRanges (4096 * start) (4096 * limit)).IsPanic := by
  rw [memoryRanges, alignUp_huge, if_neg large]
  trivial

theorem coverage_cuts (forward : start ≤ limit) (number : Nat) :
    coverage PhysFrameRange.covers (cuts start limit) number =
      if start ≤ number ∧ number < limit then
        if 512 * hugepageFrom start ≤ limit then 1 else 2 else 0 := by
  have pages : 512 * hugepageFrom start < start + 512 ∧ start ≤ 512 * hugepageFrom start := by
    rw [hugepageFrom]
    omega
  have lead : coverage PhysFrameRange.covers (if start < 512 * hugepageFrom start then
      [⟨.size4KiB, start, min (512 * hugepageFrom start) limit⟩] else []) number =
        if start ≤ number ∧ number < min (512 * hugepageFrom start) limit then 1 else 0 := by
    split
    · simp [PhysFrameRange.covers, PageSize.frames]
    · rw [if_neg (by omega)]
      rfl
  have middle : coverage PhysFrameRange.covers (if hugepageFrom start < limit / 512 then
      [⟨.size2MiB, hugepageFrom start, limit / 512⟩] else []) number =
        if 512 * hugepageFrom start ≤ number ∧ number < 512 * (limit / 512) then 1 else 0 := by
    split
    · simp only [coverage_cons, coverage_nil, PhysFrameRange.covers_eq_true,
        PageSize.frames, Nat.zero_add]
      congr 1
      rw [eq_iff_iff]
      omega
    · rw [if_neg (by omega)]
      rfl
  have trail : coverage PhysFrameRange.covers (if 512 * (limit / 512) < limit then
      [⟨.size4KiB, max start (512 * (limit / 512)), limit⟩] else []) number =
        if max start (512 * (limit / 512)) ≤ number ∧ number < limit then 1 else 0 := by
    split
    · simp [PhysFrameRange.covers, PageSize.frames]
    · rw [if_neg (by omega)]
      rfl
  rw [cuts, coverage_append, coverage_append, lead, middle, trail]
  by_cases inside : start ≤ number ∧ number < limit
  · split <;> split <;> split <;> split <;> omega
  · rw [if_neg inside, if_neg (by omega), if_neg (by omega), if_neg (by omega)]

def HasFrame (addr finish number : Nat) : Prop :=
  addr ≤ 4096 * number ∧ 4096 * number + 4096 ≤ finish

def IsPhysical (number : Nat) : Prop := 4096 * number + 4096 ≤ physLimit

theorem hasFrame_iff {addr finish number : Nat} :
    HasFrame addr finish number ↔ firstFrame addr ≤ number ∧ number < finish / 4096 := by
  rw [HasFrame, firstFrame]
  omega

def Clean (addr finish : Nat) : Prop :=
  if finish < physLimit then
    4096 * firstFrame addr < physLimit ∧
      (firstFrame addr ≤ finish / 4096 →
        2097152 * hugepageFrom (firstFrame addr) < physLimit ∧
          (firstFrame addr < finish / 4096 →
            512 * hugepageFrom (firstFrame addr) ≤ finish / 4096))
  else physLimit < addr + 4096

section Bounded

variable {addr finish : Nat}

theorem boundedRanges_of_large (large : physLimit ≤ finish) : boundedRanges addr finish = .ok [] :=
  if_pos (Or.inr large)

theorem boundedRanges_of_small (forward : addr ≤ finish) (small : finish < physLimit) :
    boundedRanges addr finish = if 4096 * firstFrame addr < physLimit then
        if firstFrame addr > finish / 4096 then .ok []
        else memoryRanges (4096 * firstFrame addr) (4096 * (finish / 4096))
      else .panic PhysAddr.invalidAddress := by
  have bytes : PageSize.size4KiB.bytes = 4096 := rfl
  have limit : PhysAddr.alignDown finish PageSize.size4KiB.bytes = 4096 * (finish / 4096) := by
    rw [PhysAddr.alignDown, bytes]
    omega
  have order : 4096 * firstFrame addr > 4096 * (finish / 4096) ↔
      firstFrame addr > finish / 4096 := by omega
  rw [boundedRanges, if_neg (by omega), alignUp_small]
  split
  · rw [Outcome.ok_bind]
    simp only [limit, order]
  · rfl

theorem coverage_pos_of_boundedRanges {ranges : List PhysFrameRange} {number : Nat}
    (forward : addr ≤ finish) (returned : boundedRanges addr finish = .ok ranges)
    (covered : 0 < coverage PhysFrameRange.covers ranges number) :
    HasFrame addr finish number ∧ IsPhysical number := by
  by_cases small : finish < physLimit
  · rw [boundedRanges_of_small forward small] at returned
    split at returned
    · split at returned
      · cases returned
        cases covered
      · rename_i _ order
        by_cases fits : 2097152 * hugepageFrom (firstFrame addr) < physLimit
        · rw [memoryRanges_frames fits] at returned
          cases returned
          rw [coverage_cuts (Nat.le_of_not_lt order)] at covered
          have inside : firstFrame addr ≤ number ∧ number < finish / 4096 := by
            by_contra outside
            rw [if_neg outside] at covered
            cases covered
          refine ⟨hasFrame_iff.mpr inside, ?_⟩
          rw [IsPhysical]
          omega
        · exact absurd returned ((memoryRanges_panics fits).ne_ok _)
    · cases returned
  · rw [boundedRanges_of_large (Nat.le_of_not_lt small)] at returned
    cases returned
    cases covered

theorem fits_of_mem_cuts {start limit : Nat} {range : PhysFrameRange}
    (bounded : 4096 * limit < physLimit) (member : range ∈ cuts start limit) : range.Fits := by
  have small : PageSize.size4KiB.bytes = 4096 := rfl
  have large : PageSize.size2MiB.bytes = 2097152 := rfl
  simp only [cuts, List.mem_append, List.mem_ite_nil_right, List.mem_singleton] at member
  rcases member with (⟨_, rfl⟩ | ⟨_, rfl⟩) | ⟨_, rfl⟩
  all_goals
    simp only [PhysFrameRange.Fits, small, large]
    omega

theorem fits_of_boundedRanges {ranges : List PhysFrameRange} (forward : addr ≤ finish)
    (returned : boundedRanges addr finish = .ok ranges) : ∀ range ∈ ranges, range.Fits := by
  by_cases small : finish < physLimit
  · rw [boundedRanges_of_small forward small] at returned
    split at returned
    · split at returned
      · cases returned
        nofun
      · by_cases fits : 2097152 * hugepageFrom (firstFrame addr) < physLimit
        · rw [memoryRanges_frames fits] at returned
          cases returned
          exact fun range member => fits_of_mem_cuts (by omega) member
        · exact absurd returned ((memoryRanges_panics fits).ne_ok _)
    · cases returned
  · rw [boundedRanges_of_large (Nat.le_of_not_lt small)] at returned
    cases returned
    nofun

/-- Each physical frame between the addresses is covered once. -/
def CoversOnce (addr finish : Nat) : Prop :=
  ∃ ranges, boundedRanges addr finish = .ok ranges ∧
    ∀ number, HasFrame addr finish number → IsPhysical number →
      coverage PhysFrameRange.covers ranges number = 1

theorem coversOnce_of_clean (forward : addr ≤ finish) (clean : Clean addr finish) :
    CoversOnce addr finish := by
  unfold Clean at clean
  split at clean
  · rename_i small
    obtain ⟨fits, bounded⟩ := clean
    by_cases order : firstFrame addr > finish / 4096
    · refine ⟨[], ?_, ?_⟩
      · rw [boundedRanges_of_small forward small, if_pos fits, if_pos order]
      · intro number inside
        rw [hasFrame_iff] at inside
        omega
    · obtain ⟨hugeFits, boundary⟩ := bounded (Nat.le_of_not_lt order)
      refine ⟨cuts (firstFrame addr) (finish / 4096), ?_, ?_⟩
      · rw [boundedRanges_of_small forward small, if_pos fits, if_neg order,
          memoryRanges_frames hugeFits]
      · intro number inside _
        rw [hasFrame_iff] at inside
        rw [coverage_cuts (Nat.le_of_not_lt order), if_pos inside, if_pos (boundary (by omega))]
  · rename_i large
    refine ⟨[], boundedRanges_of_large (Nat.le_of_not_lt large), ?_⟩
    intro number inside physical
    rw [HasFrame] at inside
    rw [IsPhysical] at physical
    omega

theorem clean_of_coversOnce (forward : addr ≤ finish) (once : CoversOnce addr finish) :
    Clean addr finish := by
  obtain ⟨ranges, returned, covered⟩ := once
  unfold Clean
  split
  · rename_i small
    rw [boundedRanges_of_small forward small] at returned
    split at returned
    · rename_i fits
      refine ⟨fits, fun order => ?_⟩
      rw [if_neg (Nat.not_lt.mpr order)] at returned
      by_cases hugeFits : 2097152 * hugepageFrom (firstFrame addr) < physLimit
      · refine ⟨hugeFits, fun some => ?_⟩
        rw [memoryRanges_frames hugeFits] at returned
        cases returned
        have first : firstFrame addr ≤ firstFrame addr ∧ firstFrame addr < finish / 4096 :=
          ⟨Nat.le_refl _, some⟩
        have once := covered (firstFrame addr) (hasFrame_iff.mpr first) (by rw [IsPhysical]; omega)
        rw [coverage_cuts order, if_pos first] at once
        by_contra none
        rw [if_neg none] at once
        cases once
      · exact absurd returned ((memoryRanges_panics hugeFits).ne_ok _)
    · cases returned
  · rename_i large
    rw [boundedRanges_of_large (Nat.le_of_not_lt large)] at returned
    cases returned
    by_contra low
    have width : physLimit = 4096 * 1099511627776 := rfl
    have bounds : addr ≤ 4096 * firstFrame addr ∧ 4096 * firstFrame addr + 4096 ≤ physLimit := by
      rw [firstFrame]
      omega
    have first := covered (firstFrame addr) ⟨bounds.1, by omega⟩ bounds.2
    cases first

end Bounded

end Oak.Stage0
