import Oak.Kernel.FrameRuns
import Oak.Kernel.MmapSearch

namespace Oak.Kernel

open Oak.Data

/-! What `mmap` does for any arguments, and when it panics. -/

variable {page : Page .size2MiB} {frame : PhysFrame .size2MiB}

namespace PhysicalMemoryAllocator

open BitmapAllocator

variable {words : Nat} {allocator next : PhysicalMemoryAllocator words}
  {frame : PhysFrame .size2MiB}

def FreeFrame (allocator : PhysicalMemoryAllocator words) (frame : PhysFrame .size2MiB) : Prop :=
  ∃ index, allocator.largeFrames.frameIdx frame = some index ∧
    allocator.largeFrames.available.IsSet index

structure Ready (allocator : PhysicalMemoryAllocator words) : Prop where
  agrees : ∃ large small, Agrees allocator large small
  carved : allocator.smallFrames.isSome

theorem freeFrame_iff {index : Nat} (below : allocator.largeFrames.range.start.number + index ≤
      allocator.largeFrames.range.finish.number)
    (number : frame.number = allocator.largeFrames.range.start.number + index) :
    FreeFrame allocator frame ↔ allocator.largeFrames.available.IsSet index := by
  have found : allocator.largeFrames.frameIdx frame = some index := by
    rw [frameIdx_eq (by omega) (by omega), number, Nat.add_sub_cancel_left]
  simp [FreeFrame, found]

theorem Ready.allocateLargeFrame (ready : Ready allocator) :
    (allocator.allocateLargeFrame = (.ok none, allocator) ∧ ∀ frame, ¬ FreeFrame allocator frame) ∨
    ∃ frame next, allocator.allocateLargeFrame = (.ok (some frame), next) ∧ Ready next ∧
      FreeFrame allocator frame ∧
      ∀ other, FreeFrame next other → FreeFrame allocator other ∧ other ≠ frame := by
  obtain ⟨⟨large, small, agrees⟩, carved⟩ := ready
  rcases allocateLargeFrame_spec agrees with ⟨none, empty⟩ |
    ⟨frame, next, same, agreesNext, keeps, -, below, sameSmall, index, number, free, available⟩
  · refine Or.inl ⟨none, ?_⟩
    rintro frame ⟨index, -, free⟩
    exact empty index free
  · refine Or.inr ⟨frame, next, same, ⟨⟨_, _, agreesNext⟩, sameSmall ▸ carved⟩,
      (freeFrame_iff (by omega) number).mpr free, ?_⟩
    rintro other ⟨place, found, isFree⟩
    obtain ⟨isFree, different⟩ := (available place).mp isFree
    have otherNumber := of_frameIdx_eq_some found
    rw [keeps.frames.range] at otherNumber
    refine ⟨(freeFrame_iff (by omega) otherNumber.1).mpr isFree, ?_⟩
    rintro rfl
    omega

theorem Ready.allocateSmallFrame (ready : Ready allocator) :
    ¬ allocator.allocateSmallFrame.1.IsPanic ∧ Ready allocator.allocateSmallFrame.2 ∧
      allocator.allocateSmallFrame.2.largeFrames = allocator.largeFrames := by
  obtain ⟨⟨large, small, agrees⟩, carved⟩ := ready
  obtain ⟨smallFrames, isSome⟩ := Option.isSome_iff_exists.mp carved
  have agreesCarved := agrees
  rw [Agrees, isSome] at agreesCarved
  obtain ⟨-, -, -, owns⟩ := agreesCarved
  have call : allocator.allocateSmallFrame = (smallFrames.allocateFrame.1,
      { allocator with smallFrames := some smallFrames.allocateFrame.2 }) := by
    simp only [PhysicalMemoryAllocator.allocateSmallFrame, isSome]
  refine ⟨?_, ⟨?_, by rw [call]; rfl⟩, by rw [call]⟩
  · rw [call]
    rcases allocateFrame_spec owns with ⟨same, -⟩ | ⟨_, _, _, same, -⟩ <;> rw [same] <;> exact id
  · rcases allocateSmallFrame_spec agrees with ⟨same, -⟩ | ⟨frame, next, same, agreesNext, -⟩
    · rw [same]
      exact ⟨_, _, agrees⟩
    · rw [same]
      exact ⟨_, _, agreesNext⟩

theorem Ready.afterSmallFrames (ready : Ready allocator) (count : Nat) :
    Ready (Mapper.afterSmallFrames allocator count) ∧
      (Mapper.afterSmallFrames allocator count).largeFrames = allocator.largeFrames := by
  induction count generalizing allocator with
  | zero => exact ⟨ready, rfl⟩
  | succ count ih =>
    obtain ⟨-, readyNext, same⟩ := ready.allocateSmallFrame
    obtain ⟨readyAfter, sameAfter⟩ := ih readyNext
    exact ⟨readyAfter, sameAfter.trans same⟩

theorem freeFrame_congr (same : next.largeFrames = allocator.largeFrames)
    (frame : PhysFrame .size2MiB) : FreeFrame next frame ↔ FreeFrame allocator frame := by
  rw [FreeFrame, FreeFrame, same]

end PhysicalMemoryAllocator

section Loop

open PhysicalMemoryAllocator

variable {τ : Type} {words : Nat} {mapper : Mapper τ words} (lawful : LawfulMapper mapper)

variable {allocator : PhysicalMemoryAllocator words}

include lawful in
theorem LawfulMapper.mapTo_ready (ready : Ready allocator) (tables : τ) (page : Page .size2MiB)
    (frame : PhysFrame .size2MiB) (flags parentFlags : PageTableFlags) :
    ¬ (mapper.mapTo tables page frame flags parentFlags allocator).1.IsPanic ∧
      Ready (mapper.mapTo tables page frame flags parentFlags allocator).2.2 ∧
      (mapper.mapTo tables page frame flags parentFlags allocator).2.2.largeFrames =
        allocator.largeFrames := by
  obtain ⟨count, same, panics⟩ := lawful.allocates tables page frame flags parentFlags allocator
  obtain ⟨readyAfter, large⟩ := ready.afterSmallFrames count
  refine ⟨fun panicked => ?_, same ▸ readyAfter, by rw [same, large]⟩
  obtain ⟨earlier, -, panickedSmall⟩ := panics panicked
  exact (ready.afterSmallFrames earlier).1.allocateSmallFrame.1 panickedSmall

inductive PageMapped (tables : τ) (allocator : PhysicalMemoryAllocator words)
    (flags : PageTableFlags) (page : Page .size2MiB) :
    Outcome Errno Unit × τ × PhysicalMemoryAllocator words → Prop
  | failed {errno : Errno} {next : τ} {after : PhysicalMemoryAllocator words} (ready : Ready after)
      (same : lawful.view next = lawful.view tables) :
      PageMapped tables allocator flags page (.err errno, next, after)
  | done {next : τ} {after : PhysicalMemoryAllocator words} {frame : PhysFrame .size2MiB}
      (ready : Ready after) (free : FreeFrame allocator frame)
      (left : ∀ other, FreeFrame after other → FreeFrame allocator other ∧ other ≠ frame)
      (mapped : ∀ address, lawful.view next address =
        if page.start.value ≤ address ∧ address < page.start.value + PageSize.size2MiB.bytes then
          some (frame.startAddress + (address - page.start.value), flags)
        else lawful.view tables address) :
      PageMapped tables allocator flags page (.ok (), next, after)

variable {tables : τ} {flags : PageTableFlags}

theorem mapPage_of_frame {next : PhysicalMemoryAllocator words}
    (taken : allocator.allocateLargeFrame = (.ok (some frame), next))
    {parentFlags : PageTableFlags} :
    mapPage mapper flags parentFlags page tables allocator =
      ((mapper.mapTo tables page frame flags parentFlags next).1.mapErr fun _ => .enomem,
        (mapper.mapTo tables page frame flags parentFlags next).2) := by
  rw [mapPage, taken]

theorem mapPage_spec (ready : Ready allocator) (tables : τ) (page : Page .size2MiB)
    (flags parentFlags : PageTableFlags) : PageMapped lawful tables allocator flags page
      (mapPage mapper flags parentFlags page tables allocator) := by
  rcases ready.allocateLargeFrame with ⟨none, -⟩ | ⟨frame, next, taken, readyNext, free, left⟩
  · rw [mapPage, none]
    exact .failed ready rfl
  · obtain ⟨fine, readyAfter, large⟩ := lawful.mapTo_ready readyNext tables page frame flags parentFlags
    have mapped := lawful.mapped tables page frame flags parentFlags next
    have failed := lawful.failed tables page frame flags parentFlags next
    rw [mapPage_of_frame taken]
    generalize mapper.mapTo tables page frame flags parentFlags next = answer at *
    obtain ⟨(error | message) | ⟨⟩, tablesAfter, allocatorAfter⟩ := answer
    · exact .failed readyAfter (failed nofun)
    · exact absurd trivial fine
    · exact .done readyAfter free (fun other isFree => left other ((freeFrame_congr large other).mp isFree))
        (mapped rfl)

include lawful in
/-- The loop frees nothing.  Where it fails, it has taken a frame unless none was free. -/
theorem mapPages_frames (flags parentFlags : PageTableFlags) (finish : Page .size2MiB) (fuel : Nat)
    (page : Page .size2MiB) (tables : τ) (ready : Ready allocator) :
    ∃ answer, mapPages mapper flags parentFlags finish fuel page tables allocator = answer ∧
      (∀ other, FreeFrame answer.2.2 other → FreeFrame allocator other) ∧
      ∀ errno, answer.1 = .err errno →
        (answer.2 = (tables, allocator) ↔ ∀ frame, ¬ FreeFrame allocator frame) := by
  refine ⟨_, rfl, ?_⟩
  induction fuel generalizing page tables allocator with
  | zero => exact ⟨fun _ => id, nofun⟩
  | succ fuel ih =>
    rw [mapPages]
    split
    · split
      · next fault _ =>
        obtain impossible | message := fault
        · cases impossible
        · exact ⟨fun _ => id, nofun⟩
      · next next _ =>
        rcases ready.allocateLargeFrame with ⟨none, empty⟩ | ⟨frame, _, taken, readyNext, free, left⟩
        · rw [mapPage, none]
          exact ⟨fun _ => id, fun _ _ => iff_of_true rfl empty⟩
        · obtain ⟨-, ready, large⟩ :=
            lawful.mapTo_ready readyNext tables page frame flags parentFlags
          rw [mapPage_of_frame taken]
          have lost (other : PhysFrame .size2MiB) := (left other).comp (freeFrame_congr large other).mp
          -- a frame that is in use stays so, whatever the rest of the loop does
          have fails {after : PhysicalMemoryAllocator words} {tables' : τ}
              (kept : ∀ other, FreeFrame after other → FreeFrame allocator other ∧ other ≠ frame) :
              (tables', after) = (tables, allocator) ↔ ∀ frame, ¬ FreeFrame allocator frame := by
            refine iff_of_false (fun same => ?_) fun none => none frame free
            cases same
            exact (kept frame free).2 rfl
          generalize mapper.mapTo tables page frame flags parentFlags _ = answer at *
          obtain ⟨fault | ⟨⟩, tablesAfter, after⟩ := answer
          · exact ⟨fun other isFree => (lost other isFree).1, fun _ _ => fails lost⟩
          · have rest := (ih next tablesAfter ready).1
            exact ⟨fun other isFree => (lost other (rest other isFree)).1,
              fun _ _ => fails fun other isFree => lost other (rest other isFree)⟩
    · exact ⟨fun _ => id, nofun⟩

/-- The pages from an address on are mapped to these frames. -/
def Backed (tables : τ) (flags : PageTableFlags) (start : Nat)
    (frames : List (PhysFrame .size2MiB)) : Prop :=
  ∀ index frame, frames[index]? = some frame → ∀ offset < hugePage,
    lawful.view tables (start + index * hugePage + offset) = some (frame.startAddress + offset, flags)

structure PagesMapped (tables : τ) (allocator : PhysicalMemoryAllocator words)
    (flags : PageTableFlags) (start finish : Nat)
    (answer : Outcome Errno Unit × τ × PhysicalMemoryAllocator words) : Prop where
  fine : ¬ answer.1.IsPanic
  ready : Ready answer.2.2
  others : ∀ address, address < start ∨ finish ≤ address →
    lawful.view answer.2.1 address = lawful.view tables address
  done : answer.1 = .ok () → ∃ frames, start + frames.length * hugePage = finish ∧ frames.Nodup ∧
    (∀ frame ∈ frames, FreeFrame allocator frame) ∧ Backed lawful answer.2.1 flags start frames

variable {lawful}

theorem pagesMapped_nil {start finish : Nat} (ready : Ready allocator) (none : start = finish) :
    PagesMapped lawful tables allocator flags start finish (.ok (), tables, allocator) where
  fine := id
  ready := ready
  others := fun _ _ => rfl
  done := fun _ => ⟨[], by simpa using none, List.nodup_nil, nofun, nofun⟩

theorem PagesMapped.cons {next : τ} {after : PhysicalMemoryAllocator words} {finish : Nat}
    {answer : Outcome Errno Unit × τ × PhysicalMemoryAllocator words}
    (first : PageMapped lawful tables allocator flags page (.ok (), next, after))
    (rest : PagesMapped lawful next after flags (page.start.value + hugePage) finish answer)
    (room : page.start.value + hugePage ≤ finish) :
    PagesMapped lawful tables allocator flags page.start.value finish answer := by
  have huge : PageSize.size2MiB.bytes = hugePage := rfl
  cases first with
  | @done _ _ frame ready free left mapped =>
    refine ⟨rest.fine, rest.ready, fun address outside => ?_, fun done => ?_⟩
    · rw [rest.others address (by omega), mapped, if_neg (by omega)]
    · obtain ⟨frames, length, nodup, allFree, backed⟩ := rest.done done
      refine ⟨frame :: frames, ?_, ?_, ?_, ?_⟩
      · rw [List.length_cons, Nat.succ_mul]
        omega
      · exact List.nodup_cons.mpr ⟨fun found => (left frame (allFree frame found)).2 rfl, nodup⟩
      · exact List.forall_mem_cons.mpr ⟨free, fun other found => (left other (allFree other found)).1⟩
      · intro index other found offset small
        cases index with
        | zero =>
          cases found
          rw [Nat.zero_mul, Nat.add_zero, rest.others _ (by omega), mapped, if_pos (by omega),
            Nat.add_sub_cancel_left]
        | succ index =>
          have here := backed index other found offset small
          rw [Nat.succ_mul]
          rwa [Nat.add_assoc page.start.value, Nat.add_comm hugePage] at here

theorem mapPages_spec {finish : Page .size2MiB} (user : finish.start.value < 2 ^ 47)
    (flags parentFlags : PageTableFlags) (fuel : Nat) (page : Page .size2MiB)
    (enough : Mapper.pagesBetween page finish ≤ fuel) (forward : page.start.value ≤ finish.start.value)
    (tables : τ) (allocator : PhysicalMemoryAllocator words) (ready : Ready allocator) :
    PagesMapped lawful tables allocator flags page.start.value finish.start.value
      (mapPages mapper flags parentFlags finish fuel page tables allocator) := by
  induction fuel generalizing page tables allocator with
  | zero => exact pagesMapped_nil ready (forward.antisymm (Mapper.le_of_pagesBetween enough))
  | succ fuel ih =>
    rw [mapPages]
    split
    · next before =>
      have room : page.start.value + hugePage ≤ finish.start.value := Page.le_of_lt before
      have canonical : Canonical (page.start.value + 1 * PageSize.size2MiB.bytes) := by
        exact Or.inl (lt_of_le_of_lt room user)
      obtain ⟨next, next_eq, value⟩ := Page.add_ok canonical
      have first := mapPage_spec lawful ready tables page flags parentFlags
      rw [next_eq]
      generalize mapPage mapper flags parentFlags page tables allocator = answer at first
      cases first with
      | failed readyAfter same =>
        refine ⟨id, readyAfter, fun address _ => congrFun same address, ?_⟩
        intro succeeded
        cases succeeded
      | @done tablesNext allocatorNext frame readyNext free left mapped =>
        have rest := ih next (Mapper.pagesBetween_le enough value.ge) (by rw [value]; exact room)
          tablesNext allocatorNext readyNext
        rw [value] at rest
        exact .cons (.done readyNext free left mapped) rest room
    · next after => exact pagesMapped_nil ready (by omega)

end Loop

def roundUp (value : Nat) : Nat := (value + (hugePage - 1)) / hugePage * hugePage

theorem le_roundUp (value : Nat) : value ≤ roundUp value := by
  rw [roundUp, hugePage_eq]
  omega

theorem dvd_roundUp (value : Nat) : hugePage ∣ roundUp value := Nat.dvd_mul_left _ _

theorem checkedNextMultiple_eq (size : Nat) :
    checkedNextMultiple size = if roundUp size < 2 ^ 64 then some (roundUp size) else none := by
  rw [checkedNextMultiple, ← roundUp]

def searchStart (addr : Nat) : Nat := VirtAddr.signExtend (roundUp (max addr hugePage))

/-- The arguments of a call that `mmap` does not refuse lead to no address outside the canonical
ones: with `MAP_FIXED` the end of the range; otherwise the hint, rounded up, and the end of each
range that first fit looks at. -/
def MmapFits (mapped : Nat → Prop) (addr size : Nat) (flags : MmapFlags) : Prop :=
  size ≠ 0 → flags.mapAnonymous → flags.mapPrivate →
    if flags.mapFixed then
      hugePage ∣ addr → hugePage ≤ addr → roundUp size < 2 ^ 64 → RangeFits mapped addr (roundUp size)
    else
      roundUp (max addr hugePage) < 2 ^ 64 ∧ (roundUp size < 2 ^ 64 →
        SearchFits mapped (lastPage (searchStart addr)) (searchStart addr) (roundUp size))

section Plan

variable {τ : Type} {words : Nat} {mapper : Mapper τ words} {lawful : LawfulMapper mapper}
  {tables : τ} {flags : MmapFlags}

theorem mmapAddress_fixed (fixed : flags.mapFixed = true) (addr : VirtAddr) :
    Decides (mmapAddress (some addr) flags)
      (fun found => (hugePage ∣ addr.value ∧ hugePage ≤ addr.value) ∧ addr = found) False := by
  rw [mmapAddress, if_pos fixed]
  split
  · next refused =>
    refine (Decides.err _).congr (fun found => ?_) Iff.rfl
    rw [← not_lt] at *
    tauto
  · next accepted =>
    refine (Decides.ok _).congr (fun found => ?_) Iff.rfl
    rw [← not_lt] at *
    tauto

theorem mmapAddress_hint (free : flags.mapFixed = false) (addr : VirtAddr) :
    Decides (mmapAddress (some addr) flags)
      (fun found => roundUp (max addr.value hugePage) < 2 ^ 64 ∧
        found.value = searchStart addr.value)
      (¬ roundUp (max addr.value hugePage) < 2 ^ 64) := by
  have larger : (if addr.value < minimumAddress.value then minimumAddress else addr).value =
      max addr.value hugePage := by
    have minimum : minimumAddress.value = hugePage := rfl
    split <;> omega
  rw [mmapAddress, if_neg (by simp [free])]
  simp only [Option.getD_some, VirtAddr.alignUp, larger]
  rw [← roundUp]
  split
  · next small =>
    refine (Decides.ok _).congr (fun found => ?_) (iff_of_false id (not_not_intro small))
    rw [VirtAddr.ext_iff, eq_comm, and_iff_right small]
    rfl
  · next large =>
    refine (Decides.panic _).congr (fun found => ?_) (iff_of_true trivial large)
    exact iff_of_false id fun found => large found.1

structure Chosen (mapped : Nat → Prop) (start size : Nat) (flags : MmapFlags)
    (pages : PageRange .size2MiB) : Prop where
  low : start ≤ pages.start.start.value
  fixed : flags.mapFixed → pages.start.start.value = start
  finish : pages.finish.start.value = pages.start.start.value + size
  free : RangeFree mapped pages.start.start.value size

/-- The choice panics unless what it looks at fits. -/
structure ChoiceSpec (mapped : Nat → Prop) (start size : Nat) (flags : MmapFlags) (fits : Prop)
    (outcome : Outcome Empty (Option (PageRange .size2MiB))) : Prop where
  panics_iff : ¬ outcome.IsPanic ↔ fits
  chosen : ∀ pages, outcome = .ok (some pages) → Chosen mapped start size flags pages

variable {addr : VirtAddr}

theorem choosePages_fixed (top : lawful.TopUnmapped tables) (fixed : flags.mapFixed = true)
    (aligned : hugePage ∣ addr.value) (count : Nat) :
    ChoiceSpec (lawful.Mapped tables) addr.value (count * hugePage) flags
      (RangeFits (lawful.Mapped tables) addr.value (count * hugePage))
      (choosePages mapper tables flags addr count) := by
  obtain ⟨start, start_eq⟩ : ∃ start : Page .size2MiB, start = .containingAddress addr := ⟨_, rfl⟩
  have value : start.start.value = addr.value := by
    rw [start_eq, Page.value_containingAddress]
    exact Nat.div_mul_cancel aligned
  rw [choosePages, if_pos fixed, ← start_eq, ← value]
  dsimp only
  by_cases fits : RangeFits (lawful.Mapped tables) start.start.value (count * hugePage)
  · obtain ⟨finish, finish_eq, finishValue⟩ := Page.add_ok fits.1
    have scanned := isUnallocated_scanned top ⟨start, finish⟩
    simp only [finishValue] at scanned
    rw [finish_eq, Outcome.ok_bind]
    generalize mapper.isUnallocated tables ⟨start, finish⟩ = outcome at scanned
    cases scanned with
    | free within unmapped =>
      refine ⟨iff_of_true id fits, fun pages same => ?_⟩
      cases same
      exact ⟨le_rfl, fun _ => rfl, finishValue, unmapped⟩
    | used => exact ⟨iff_of_true id fits, nofun⟩
    | left panicked crosses unmapped =>
      obtain ⟨address, low, high, isMapped⟩ := fits.2 crosses
      exact absurd isMapped (unmapped address low high)
  · exact ⟨iff_of_false (not_not.mpr (scan_isPanic top fits _)) fits, fun pages same =>
      absurd same ((scan_isPanic top fits _).ne_ok _)⟩

theorem choosePages_hint (top : lawful.TopUnmapped tables) (free : flags.mapFixed = false)
    (aligned : hugePage ∣ addr.value) (count : Nat) :
    ChoiceSpec (lawful.Mapped tables) addr.value (count * hugePage) flags
      (SearchFits (lawful.Mapped tables) (lastPage addr.value) addr.value (count * hugePage))
      (choosePages mapper tables flags addr count) := by
  have value : (Page.containingAddress addr : Page .size2MiB).start.value = addr.value := by
    rw [Page.value_containingAddress]
    exact Nat.div_mul_cancel aligned
  obtain ⟨panics_iff, found⟩ := findUnallocatedPages_spec top (.containingAddress addr) count
  rw [value] at panics_iff found
  rw [choosePages, if_neg (by simp [free])]
  refine ⟨panics_iff, fun pages same => ?_⟩
  obtain ⟨low, finish, unmapped⟩ := found pages same
  exact ⟨low, by simp [free], finish, unmapped⟩

structure Planned (mapped : Nat → Prop) (addr size : Nat) (flags : MmapFlags)
    (pages : PageRange .size2MiB) (rounded : Nat) : Prop where
  nonzero : size ≠ 0
  rounded_eq : rounded = roundUp size
  minimum : hugePage ≤ pages.start.start.value
  fixed : flags.mapFixed → pages.start.start.value = addr
  finish : pages.finish.start.value = pages.start.start.value + rounded
  user : pages.finish.start.value < 2 ^ 47
  free : RangeFree mapped pages.start.start.value rounded

theorem inUserSpace_lt {pages : PageRange .size2MiB} (user : inUserSpace pages) :
    pages.finish.start.value < 2 ^ 47 := by
  rw [inUserSpace, Bool.not_eq_true', Bool.or_eq_false_iff] at user
  have last := user.2
  refine pages.finish.start.canonical.resolve_right fun ⟨high, bound⟩ => ?_
  obtain ⟨rest, value⟩ := Nat.exists_eq_add_of_le (show 2 ^ 63 ≤ pages.finish.start.value - 1 by omega)
  have small : rest < 2 ^ 63 := by omega
  rw [value, Nat.testBit_two_pow_add_eq, Nat.testBit_lt_two_pow small] at last
  cases last

theorem planFrom_spec {mapped : Nat → Prop} {size : Nat} {fits : Prop}
    (choice : ChoiceSpec mapped addr.value (roundUp size) flags fits
      (choosePages mapper tables flags addr (roundUp size / hugePage))) :
    (¬ (planFrom mapper flags (some tables) (checkedNextMultiple size) addr).IsPanic ↔
      (roundUp size < 2 ^ 64 → fits)) ∧
    ∀ plan, planFrom mapper flags (some tables) (checkedNextMultiple size) addr = .ok plan →
      plan.1 = tables ∧ plan.2.2 = roundUp size ∧ plan.2.1.finish.start.value < 2 ^ 47 ∧
        Chosen mapped addr.value (roundUp size) flags plan.2.1 := by
  rw [checkedNextMultiple_eq]
  by_cases small : roundUp size < 2 ^ 64
  · rw [if_pos small, planFrom]
    generalize choosePages mapper tables flags addr (roundUp size / hugePage) = outcome at choice
    have panics_iff := choice.panics_iff
    rcases outcome with (impossible | message) | (_ | pages)
    · cases impossible
    · have fails : ¬ fits := fun holds => panics_iff.mpr holds trivial
      exact ⟨iff_of_false (fun fine => fine trivial) (fun all => fails (all small)), nofun⟩
    · exact ⟨iff_of_true id fun _ => panics_iff.mp id, nofun⟩
    · have chosen := choice.chosen pages rfl
      rw [Outcome.widen_ok, Outcome.ok_bind]
      dsimp only
      split
      · next user =>
        refine ⟨iff_of_true id fun _ => panics_iff.mp id, ?_⟩
        rintro plan same
        cases same
        exact ⟨rfl, rfl, inUserSpace_lt user, chosen⟩
      · exact ⟨iff_of_true id fun _ => panics_iff.mp id, nofun⟩
  · rw [if_neg small]
    exact ⟨iff_of_true id fun fine => absurd fine small, nofun⟩

theorem dvd_searchStart (addr : Nat) : hugePage ∣ searchStart addr :=
  Page.dvd_signExtend (dvd_roundUp _)

theorem le_searchStart (addr : VirtAddr) (small : roundUp (max addr.value hugePage) < 2 ^ 64) :
    hugePage ≤ searchStart addr.value := by
  have canonical := addr.canonical
  rw [Canonical] at canonical
  rw [searchStart, VirtAddr.signExtend]
  rw [roundUp, hugePage_eq] at *
  split <;> omega

theorem planMmap_spec (top : lawful.TopUnmapped tables) (addr : VirtAddr) (size : Nat) :
    (¬ (planMmap mapper (some tables) (some addr) size flags).IsPanic ↔
      MmapFits (lawful.Mapped tables) addr.value size flags) ∧
    ∀ plan, planMmap mapper (some tables) (some addr) size flags = .ok plan →
      plan.1 = tables ∧ Planned (lawful.Mapped tables) addr.value size flags plan.2.1 plan.2.2 := by
  have whole : roundUp size / hugePage * hugePage = roundUp size :=
    Nat.div_mul_cancel (dvd_roundUp size)
  rw [planMmap, MmapFits]
  by_cases zero : size = 0
  · rw [if_pos zero]
    exact ⟨iff_of_true id fun nonzero => absurd zero nonzero, nofun⟩
  rw [if_neg zero]
  by_cases accepted : flags.mapAnonymous = true ∧ flags.mapPrivate = true
  · rw [if_neg (by simp [accepted])]
    cases fixed : flags.mapFixed with
    | true =>
      have decides := mmapAddress_fixed fixed addr
      have plan (aligned : hugePage ∣ addr.value) :=
        planFrom_spec (whole ▸ choosePages_fixed top fixed aligned (roundUp size / hugePage))
      refine ⟨decides.not_isPanic_bind.trans ⟨fun all _ _ _ => ?_, fun all => ?_⟩, fun found same => ?_⟩
      · intro aligned minimum
        exact (plan aligned).1.mp (all.2 addr ⟨⟨aligned, minimum⟩, rfl⟩)
      · refine ⟨id, ?_⟩
        rintro start ⟨⟨aligned, minimum⟩, rfl⟩
        exact (plan aligned).1.mpr (all zero accepted.1 accepted.2 aligned minimum)
      · obtain ⟨start, chosen, same⟩ := Outcome.bind_eq_ok.mp same
        obtain ⟨⟨aligned, minimum⟩, rfl⟩ := (decides.ok_iff start).mp chosen
        obtain ⟨tables_eq, rounded_eq, user, chosen⟩ := (plan aligned).2 found same
        rw [← rounded_eq] at chosen
        refine ⟨tables_eq, zero, rounded_eq, ?_, chosen.fixed, chosen.finish, user, chosen.free⟩
        rwa [chosen.fixed fixed]
    | false =>
      have decides := mmapAddress_hint fixed addr
      have plan (start : VirtAddr) (here : start.value = searchStart addr.value) :=
        planFrom_spec (whole ▸ choosePages_hint top fixed
          (show hugePage ∣ start.value from here ▸ dvd_searchStart _) (roundUp size / hugePage))
      refine ⟨decides.not_isPanic_bind.trans ⟨fun all _ _ _ => ?_, fun all => ?_⟩, fun found same => ?_⟩
      · have small := not_not.mp all.1
        let start : VirtAddr := ⟨searchStart addr.value, VirtAddr.canonical_signExtend _⟩
        exact ⟨small, (plan start rfl).1.mp (all.2 start ⟨small, rfl⟩)⟩
      · have fits := all zero accepted.1 accepted.2
        refine ⟨not_not.mpr fits.1, fun start held => ?_⟩
        rw [(plan start held.2).1, held.2]
        exact fits.2
      · obtain ⟨start, chosen, same⟩ := Outcome.bind_eq_ok.mp same
        obtain ⟨small, here⟩ := (decides.ok_iff start).mp chosen
        obtain ⟨tables_eq, rounded_eq, user, chosen⟩ := (plan start here).2 found same
        rw [← rounded_eq, here] at chosen
        exact ⟨tables_eq, zero, rounded_eq, (le_searchStart addr small).trans chosen.low,
          by simp [fixed], chosen.finish, user, chosen.free⟩
  · rw [if_pos (by revert accepted; cases flags.mapAnonymous <;> cases flags.mapPrivate <;> decide)]
    exact ⟨iff_of_true id fun _ anonymous isPrivate => absurd ⟨anonymous, isPrivate⟩ accepted, nofun⟩

end Plan

section Call

open PhysicalMemoryAllocator

variable {τ : Type} {words : Nat} {mapper : Mapper τ words} (lawful : LawfulMapper mapper)

/-- The kernel has its page tables and its allocator.  The last 2 MiB of the lower half are not
mapped, and no call changes that. -/
def Booted (state : KernelState τ words) : Prop :=
  ∃ tables, state.pageTables = some tables ∧ lawful.TopUnmapped tables ∧ Ready state.allocator

def KernelState.Mapped (state : KernelState τ words) (address : Nat) : Prop :=
  ∃ tables ∈ state.pageTables, lawful.Mapped tables address

/-- A successful call of `mmap`, by the states before and after it. -/
structure Succeeded (encrypted : Bool) (addr size : Nat) (prot : MmapProtection) (flags : MmapFlags)
    (before after : KernelState τ words) (slice : MappedSlice) : Prop where
  aligned : hugePage ∣ slice.address
  enough : size ≤ slice.size
  user : slice.address + slice.size < 2 ^ 47
  minimum : hugePage ≤ slice.address
  unmapped : RangeFree (before.Mapped lawful) slice.address slice.size
  fixed : flags.mapFixed → slice.address = addr
  backed : ∃ tables ∈ after.pageTables, ∃ frames, frames.length * hugePage = slice.size ∧
    frames.Nodup ∧ (∀ frame ∈ frames, FreeFrame before.allocator frame) ∧
    Backed lawful tables (pageFlags encrypted prot) slice.address frames
  cleared : after.writes = before.writes ++ [⟨slice.address, List.replicate slice.size 0⟩]

variable {lawful} {state : KernelState τ words} {encrypted : Bool} {addr : VirtAddr} {size : Nat}
  {prot : MmapProtection} {flags : MmapFlags}

theorem mapped_of_tables {tables : τ} (same : state.pageTables = some tables) :
    state.Mapped lawful = lawful.Mapped tables := by
  funext address
  simp [KernelState.Mapped, same]

theorem le_last (user : page.start.value < 2 ^ 47) : page.start.value ≤ 2 ^ 47 - hugePage := by
  obtain ⟨count, whole⟩ := page.aligned
  rw [hugePage_eq]
  rw [show PageSize.size2MiB.bytes = 2097152 from rfl] at whole
  omega

structure CallSpec (lawful : LawfulMapper mapper) (encrypted : Bool) (addr size : Nat)
    (prot : MmapProtection) (flags : MmapFlags) (before : KernelState τ words)
    (answer : Outcome Errno MappedSlice × KernelState τ words) : Prop where
  panics_iff : ¬ answer.1.IsPanic ↔ MmapFits (before.Mapped lawful) addr size flags
  booted : Booted lawful answer.2
  succeeded : ∀ slice, answer.1 = .ok slice →
    Succeeded lawful encrypted addr size prot flags before answer.2 slice

theorem mmap_spec (booted : Booted lawful state) (encrypted : Bool) (addr : VirtAddr) (size : Nat)
    (prot : MmapProtection) (flags : MmapFlags) :
    CallSpec lawful encrypted addr.value size prot flags state
      (mmap mapper encrypted (some addr) size prot flags state) := by
  obtain ⟨tables, tables_eq, top, ready⟩ := booted
  obtain ⟨panics_iff, planned⟩ := @planMmap_spec _ _ mapper lawful tables flags top addr size
  rw [mmap, tables_eq]
  rw [← mapped_of_tables tables_eq] at panics_iff planned
  rcases plan_eq : planMmap mapper (some tables) (some addr) size flags with
    fault | ⟨same, pages, rounded⟩
  · rw [plan_eq] at panics_iff
    refine ⟨?_, ⟨tables, tables_eq, top, ready⟩, by simp⟩
    rw [← panics_iff]
    cases fault <;> exact Iff.rfl
  · obtain ⟨rfl, plan⟩ := planned _ plan_eq
    have fits := panics_iff.mp (by rw [plan_eq]; exact id)
    have forward : pages.start.start.value ≤ pages.finish.start.value := by
      rw [plan.finish]
      exact Nat.le_add_right _ _
    have loop := @mapPages_spec _ _ mapper lawful _ plan.user (pageFlags encrypted prot)
      (tableFlags encrypted) _ pages.start le_rfl forward same state.allocator ready
    dsimp only at plan ⊢
    generalize mapPages mapper (pageFlags encrypted prot) (tableFlags encrypted) pages.finish
      (Mapper.pagesBetween pages.start pages.finish) pages.start same state.allocator = answer at loop
    obtain ⟨outcome, next, allocator⟩ := answer
    have topNext : lawful.TopUnmapped next := fun address late high => by
      rw [LawfulMapper.Mapped, loop.others address (Or.inr ((le_last plan.user).trans late))]
      exact top address late high
    rcases outcome with (errno | message) | ⟨⟩
    · exact ⟨iff_of_true id fits, ⟨next, rfl, topNext, loop.ready⟩, by simp⟩
    · exact absurd trivial loop.fine
    · refine ⟨iff_of_true id fits, ⟨next, rfl, topNext, loop.ready⟩, fun slice done => ?_⟩
      cases done
      obtain ⟨frames, length, nodup, free, backed⟩ := loop.done rfl
      have user := plan.user
      rw [plan.finish] at user length
      exact
        { aligned := pages.start.aligned
          enough := plan.rounded_eq ▸ le_roundUp size
          user
          minimum := plan.minimum
          unmapped := plan.free
          fixed := plan.fixed
          backed := ⟨next, rfl, frames, Nat.add_left_cancel length, nodup, free, backed⟩
          cleared := rfl }

structure MmapCall where
  addr : Nat
  size : Nat
  prot : Nat
  flags : Nat

/-- The call, with arguments that are refused or that fit. -/
def MmapCall.Fits (mapped : Nat → Prop) (call : MmapCall) : Prop :=
  ∀ prot flags addr, MmapProtection.fromBits call.prot = some prot →
    MmapFlags.fromBits call.flags = some flags → VirtAddr.tryNew call.addr = some addr →
    MmapFits mapped call.addr call.size flags

/-- The system call returns, and a result that is not negative is the address of a mapping with all
the properties that were asked for. -/
structure SafeMmap (lawful : LawfulMapper mapper) (encrypted : Bool) (call : MmapCall)
    (before : KernelState τ words) (answer : Outcome Empty Int × KernelState τ words) : Prop where
  fine : ¬ answer.1.IsPanic
  safe : ∀ address : Nat, answer.1 = .ok address → ∃ prot flags slice,
    MmapProtection.fromBits call.prot = some prot ∧ MmapFlags.fromBits call.flags = some flags ∧
    slice.address = address ∧
    Succeeded lawful encrypted call.addr call.size prot flags before answer.2 slice

theorem tryNew_eq_some {value : Nat} {addr : VirtAddr} (accepted : VirtAddr.tryNew value = some addr) :
    addr.value = value := by
  rw [VirtAddr.tryNew] at accepted
  split at accepted <;> cases accepted
  rfl

theorem Errno.code_neg (errno : Errno) : errno.code < 0 := by cases errno <;> decide

theorem safeMmap_errno {call : MmapCall} {after : KernelState τ words} (errno : Errno) :
    SafeMmap lawful encrypted call state (.ok errno.code, after) := by
  refine ⟨id, fun address same => ?_⟩
  have negative := errno.code_neg
  have same : errno.code = address := Except.ok.inj same
  omega

theorem syscallMmap_spec (booted : Booted lawful state) (encrypted : Bool) (call : MmapCall) :
    Booted lawful (syscallMmap mapper encrypted call.addr call.size call.prot call.flags state).2 ∧
    (SafeMmap lawful encrypted call state
        (syscallMmap mapper encrypted call.addr call.size call.prot call.flags state) ↔
      call.Fits (state.Mapped lawful)) := by
  rw [syscallMmap, MmapCall.Fits]
  cases protDecoded : MmapProtection.fromBits call.prot with
  | none => exact ⟨booted, iff_of_true (safeMmap_errno .einval) nofun⟩
  | some prot =>
    cases flagsDecoded : MmapFlags.fromBits call.flags with
    | none => exact ⟨booted, iff_of_true (safeMmap_errno .einval) nofun⟩
    | some flags =>
      cases addrAccepted : VirtAddr.tryNew call.addr with
      | none => exact ⟨booted, iff_of_true (safeMmap_errno .einval) nofun⟩
      | some addr =>
        have spec := mmap_spec booted encrypted addr call.size prot flags
        rw [tryNew_eq_some addrAccepted] at spec
        have fits_iff : (∀ prot' flags' addr', some prot = some prot' → some flags = some flags' →
            some addr = some addr' → MmapFits (state.Mapped lawful) call.addr call.size flags') ↔
            MmapFits (state.Mapped lawful) call.addr call.size flags := by
          simp
        rw [fits_iff, ← spec.panics_iff]
        dsimp only
        generalize mmap mapper encrypted (some addr) call.size prot flags state = answer at spec
        obtain ⟨(errno | message) | slice, after⟩ := answer
        · exact ⟨spec.booted, iff_of_true (safeMmap_errno errno) id⟩
        · exact ⟨spec.booted, iff_of_false (fun safe => safe.fine trivial) fun fine => fine trivial⟩
        · refine ⟨spec.booted, iff_of_true ⟨id, fun address same => ?_⟩ id⟩
          have same : (slice.address : Int) = address := Except.ok.inj same
          exact ⟨prot, flags, slice, protDecoded, flagsDecoded, Int.ofNat.inj same,
            spec.succeeded slice rfl⟩

def afterCalls (mapper : Mapper τ words) (encrypted : Bool) (state : KernelState τ words)
    (calls : List MmapCall) : KernelState τ words :=
  calls.foldl (fun state call =>
    (syscallMmap mapper encrypted call.addr call.size call.prot call.flags state).2) state

theorem booted_afterCalls (booted : Booted lawful state) (calls : List MmapCall) :
    Booted lawful (afterCalls mapper encrypted state calls) := by
  induction calls generalizing state with
  | nil => exact booted
  | cons call calls ih => exact ih (syscallMmap_spec booted encrypted call).1

/-- After any calls, a further call is safe if and only if its arguments fit. -/
theorem syscallMmap_safe_iff (booted : Booted lawful state) (encrypted : Bool)
    (earlier : List MmapCall) (call : MmapCall) :
    SafeMmap lawful encrypted call (afterCalls mapper encrypted state earlier)
        (syscallMmap mapper encrypted call.addr call.size call.prot call.flags
          (afterCalls mapper encrypted state earlier)) ↔
      call.Fits ((afterCalls mapper encrypted state earlier).Mapped lawful) :=
  (syscallMmap_spec (booted_afterCalls booted earlier) encrypted call).2

/-- The frame address and the flags that an address is mapped to. -/
def KernelState.view (lawful : LawfulMapper mapper) (state : KernelState τ words) (address : Nat) :
    Option (Nat × PageTableFlags) :=
  state.pageTables.bind (lawful.view · address)

variable {address : Nat} {entry : Nat × PageTableFlags}

theorem mmap_keeps (booted : Booted lawful state) (mapped : state.view lawful address = some entry) :
    (mmap mapper encrypted (some addr) size prot flags state).2.view lawful address = some entry := by
  have kept := mapped
  obtain ⟨tables, tables_eq, top, ready⟩ := booted
  rw [KernelState.view, tables_eq, Option.bind_some] at mapped
  rw [mmap, tables_eq]
  rcases plan_eq : planMmap mapper (some tables) (some addr) size flags with
    fault | ⟨same, pages, rounded⟩
  · exact kept
  · obtain ⟨rfl, plan⟩ := (@planMmap_spec _ _ mapper lawful tables flags top addr size).2 _ plan_eq
    dsimp only at plan ⊢
    have outside : address < pages.start.start.value ∨ pages.finish.start.value ≤ address := by
      by_contra inside
      rw [plan.finish, not_or, not_lt, not_le] at inside
      exact plan.free address inside.1 inside.2 (by simp [LawfulMapper.Mapped, mapped])
    have loop := @mapPages_spec _ _ mapper lawful _ plan.user (pageFlags encrypted prot)
      (tableFlags encrypted) _ pages.start le_rfl (plan.finish ▸ Nat.le_add_right _ _) same
      state.allocator ready
    have still := (loop.others address outside).trans mapped
    generalize mapPages mapper (pageFlags encrypted prot) (tableFlags encrypted) pages.finish
      (Mapper.pagesBetween pages.start pages.finish) pages.start same state.allocator = answer at still
    obtain ⟨_ | _, _, _⟩ := answer
    · exact still
    · exact still

/-- Whatever a program asks for, no later call moves a page that is mapped or changes its flags. -/
theorem mappings_kept (booted : Booted lawful state) (encrypted : Bool) (calls : List MmapCall)
    (mapped : state.view lawful address = some entry) :
    (afterCalls mapper encrypted state calls).view lawful address = some entry := by
  induction calls generalizing state with
  | nil => exact mapped
  | cons call calls ih =>
    refine ih (syscallMmap_spec booted encrypted call).1 ?_
    dsimp only [syscallMmap]
    split
    · next prot flags addr _ _ _ =>
      have kept := @mmap_keeps _ _ _ lawful _ encrypted addr call.size prot flags _ _ booted mapped
      split
      all_goals
        next answer =>
          rw [answer] at kept
          exact kept
    · exact mapped

end Call

def flatMapper (words : Nat) : Mapper (Nat → Option (Nat × PageTableFlags)) words where
  translateAddr tables addr :=
    (tables (addr.value / 4096)).map fun entry => entry.1 + addr.value % 4096
  mapTo tables page frame flags _ allocator :=
    (.ok (), fun number =>
      if page.start.value / 4096 ≤ number ∧ number < page.start.value / 4096 + 512 then
        some (frame.startAddress + (number * 4096 - page.start.value), flags)
      else tables number, allocator)

def flatView (tables : Nat → Option (Nat × PageTableFlags)) (address : Nat) :
    Option (Nat × PageTableFlags) :=
  (tables (address / 4096)).map fun entry => (entry.1 + address % 4096, entry.2)

theorem flatView_whole (tables : Nat → Option (Nat × PageTableFlags)) (address : Nat) :
    flatView tables address = none ↔ flatView tables
      (address / PageSize.size4KiB.bytes * PageSize.size4KiB.bytes) = none := by
  have same : address / 4096 * 4096 / 4096 = address / 4096 :=
    Nat.mul_div_cancel _ (by decide)
  rw [flatView, flatView, Option.map_eq_none_iff, Option.map_eq_none_iff, PageSize.bytes, same]

theorem flatView_mapTo {words : Nat} (tables : Nat → Option (Nat × PageTableFlags))
    (page : Page .size2MiB) (frame : PhysFrame .size2MiB) (flags parentFlags : PageTableFlags)
    (allocator : PhysicalMemoryAllocator words) (address : Nat) :
    flatView ((flatMapper words).mapTo tables page frame flags parentFlags allocator).2.1 address =
      if page.start.value ≤ address ∧ address < page.start.value + PageSize.size2MiB.bytes then
        some (frame.startAddress + (address - page.start.value), flags)
      else flatView tables address := by
  obtain ⟨count, whole⟩ := page.aligned
  rw [show PageSize.size2MiB.bytes = 2097152 from rfl] at whole ⊢
  by_cases inside : page.start.value ≤ address ∧ address < page.start.value + 2097152
  · rw [if_pos inside]
    have sum : frame.startAddress + (address / 4096 * 4096 - page.start.value) + address % 4096 =
        frame.startAddress + (address - page.start.value) := by omega
    simp only [flatMapper, flatView]
    rw [if_pos (by omega), Option.map_some, sum]
  · rw [if_neg inside]
    simp only [flatMapper, flatView]
    rw [if_neg (by omega)]

def flatLawful (words : Nat) : LawfulMapper (flatMapper words) where
  view := flatView
  translate tables addr := by
    rw [flatView, Option.map_map]
    rfl
  whole := flatView_whole
  mapped tables page frame flags parentFlags allocator _ :=
    flatView_mapTo tables page frame flags parentFlags allocator
  failed tables page frame flags parentFlags allocator := fun failed => absurd rfl failed
  allocates tables page frame flags parentFlags allocator := ⟨0, rfl, nofun⟩

/-- Nothing is mapped yet, and the first small frame is in use. -/
def bootState : KernelState (Nat → Option (Nat × PageTableFlags)) 1 where
  pageTables := some fun _ => none
  allocator := MemoryState.smallMemory.allocateSmallFrame.2
  writes := []

theorem bootState_booted : Booted (flatLawful 1) bootState := by
  refine ⟨_, rfl, fun address _ _ mapped => mapped rfl, ?_, ?_⟩
  · have agrees : PhysicalMemoryAllocator.Agrees MemoryState.smallMemory [] [] :=
      ⟨MemoryState.smallMemory_prepared.fresh.1.owns, rfl⟩
    rcases PhysicalMemoryAllocator.allocateSmallFrame_spec agrees with
      ⟨same, -⟩ | ⟨frame, next, same, agreesNext, -⟩
    · rw [bootState, same]
      exact ⟨_, _, agrees⟩
    · rw [bootState, same]
      exact ⟨_, _, agreesNext⟩
  · decide +kernel

/-- One page at 4 MiB, with `MAP_FIXED`. -/
theorem fixed_page_safe : SafeMmap (flatLawful 1) false ⟨0x400000, 1, 3, 0x32⟩ bootState
      (syscallMmap (flatMapper 1) false 0x400000 1 3 0x32 bootState) := by
  refine (syscallMmap_safe_iff bootState_booted false [] ⟨0x400000, 1, 3, 0x32⟩).mpr ?_
  intro prot flags addr _ decoded _
  have fixed : MmapFlags.fromBits 0x32 = some ⟨true, true, true⟩ := by decide
  cases fixed.symm.trans decoded
  intro _ _ _
  exact fun _ _ _ => ⟨by decide, fun crosses => absurd crosses.2 (by decide)⟩

theorem first_page_kept :
    (afterCalls (flatMapper 1) false (afterCalls (flatMapper 1) false bootState
      [⟨0x400000, 1, 1, 0x32⟩]) [⟨0x400000, 1, 3, 0x22⟩]).view (flatLawful 1) 0x400007 =
      some (0x200007, pageFlags false ⟨true, false, false⟩) :=
  mappings_kept (booted_afterCalls bootState_booted _) false _ (by decide +kernel)

/-- As `bootState`, but only two large frames are memory. -/
def tightState : KernelState (Nat → Option (Nat × PageTableFlags)) 1 where
  pageTables := bootState.pageTables
  allocator := { MemoryState.smallMemory with largeFrames := { MemoryState.smallMemory.largeFrames with
    valid := true :: true :: Bits.zeros 62, validSize := rfl } }.allocateSmallFrame.2
  writes := []

/-- A hint in the last 2 MiB of the address space, with `MAP_PRIVATE` and `MAP_ANONYMOUS`. -/
theorem last_hint_panics :
    (syscallMmap (flatMapper 1) false 0xFFFFFFFFFFFFFFFF 1 3 0x22 bootState).1.IsPanic := by
  decide +kernel

end Oak.Kernel
