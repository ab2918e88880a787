import Oak.Stage0.MemoryPlan

namespace Oak.Stage0.PValidate

open Oak.Data Oak.Data.Tally

/-! Memory validation on SEV-SNP (`stage0_sev/src/platform/accept_memory.rs`): page state changes
and PVALIDATE over the memory of the E820 table. -/

inductive InstructionError where
  | failInput
  | failPermission
  | failSizeMismatch
  | validationStatusNotUpdated
deriving Repr, DecidableEq

inductive Event where
  | changed (frame : PhysFrame)
  | validated (frame : PhysFrame)
deriving Repr, DecidableEq

def Event.validates : Event → Nat → Bool
  | changed _, _ => false
  | validated frame, number => frame.covers number

abbrev History := List Event

def validations (history : History) (number : Nat) : Nat :=
  coverage Event.validates history number

/-- The answers of the processor and the hypervisor.  `pvalidate` is the function of
`oak_sev_guest/src/instructions.rs`. -/
structure SnpHost where
  pvalidate : History → PhysFrame → Except InstructionError Unit
  pageStateChange : History → PhysFrame → Except String Unit

/-- What an honest hypervisor does with pages that have not been validated.  Nothing is said about
its answers for others. -/
structure SnpHost.Honest (host : SnpHost) : Prop where
  changes : ∀ history frame, host.pageStateChange history frame = .ok ()
  small : ∀ history number, validations history number = 0 →
    host.pvalidate history ⟨.size4KiB, number⟩ = .ok ()
  huge : ∀ history page,
    (∀ number, (PhysFrame.mk .size2MiB page).covers number → validations history number = 0) →
    host.pvalidate history ⟨.size2MiB, page⟩ = .ok () ∨
      host.pvalidate history ⟨.size2MiB, page⟩ = .error .failSizeMismatch

variable (host : SnpHost)

def pageTableEntries : Nat := 512

/-- PVALIDATE on one mapped page; `onError` is the closure of the caller. -/
def pvalidateFrame
    (onError : PhysFrame → InstructionError → History → Outcome InstructionError History)
    (frame : PhysFrame) (history : History) : Outcome InstructionError History :=
  match host.pvalidate history frame with
  | .ok () => .ok (.validated frame :: history)
  | .error error => onError frame error history

/-- The frames are mapped and validated in batches, one page table at a time. -/
def pvalidateRange
    (onError : PhysFrame → InstructionError → History → Outcome InstructionError History)
    (range : PhysFrameRange) (history : History) : Outcome InstructionError History :=
  runAll (runAll (pvalidateFrame host onError))
    (chunks pageTableEntries range.frames) history

def hex (address : Nat) : String := "0x" ++ String.ofList (Nat.toDigits 16 address)

def doubleValidation (frame : PhysFrame) : String :=
  s!"PVALIDATE CF=1 (double-validation) at GPA {hex frame.startAddress}; possible " ++
    "hypervisor page-aliasing attack"

def onSmallError (frame : PhysFrame) (error : InstructionError) (_ : History) :
    Outcome InstructionError History :=
  match error with
  | .validationStatusNotUpdated => .panic (doubleValidation frame)
  | other => .err other

/-- `pvalidate` of `Validatable4KiB`. -/
def pvalidateSmall (range : PhysFrameRange) (history : History) :
    Outcome InstructionError History :=
  pvalidateRange host onSmallError range history

/-- `PhysFrame::range(start, start + 512)` from the start of a 2 MiB page. -/
def hugepageRange (frame : PhysFrame) : Outcome Empty PhysFrameRange := do
  let start ← PhysFrame.fromStartAddress .size4KiB frame.startAddress
  if PageSize.size4KiB.bytes * (start.number + 512) < physLimit then
    .ok ⟨.size4KiB, start.number, start.number + 512⟩
  else .panic PhysAddr.invalidAddress

def onHugeError (frame : PhysFrame) (error : InstructionError) (history : History) :
    Outcome InstructionError History :=
  match error with
  | .failSizeMismatch => do
    let range ← Outcome.widen (hugepageRange frame)
    pvalidateSmall host range history
  | .validationStatusNotUpdated => .panic (doubleValidation frame)
  | other => .err other

/-- `pvalidate` of `Validatable2MiB`. -/
def pvalidateHuge (range : PhysFrameRange) (history : History) : Outcome InstructionError History :=
  pvalidateRange host (onHugeError host) range history

def pvalidate (range : PhysFrameRange) (history : History) : Outcome InstructionError History :=
  match range.size with
  | .size4KiB => pvalidateSmall host range history
  | .size2MiB => pvalidateHuge host range history

def changeFrame (frame : PhysFrame) (history : History) : Outcome String History :=
  match host.pageStateChange history frame with
  | .ok () => .ok (.changed frame :: history)
  | .error reason => .err reason

def pageStateChange (range : PhysFrameRange) (history : History) : Outcome String History :=
  runAll (changeFrame host) range.frames history

/-- `expect` and `unwrap`. -/
def expecting {ε α : Type} (message : String) : Outcome ε α → Outcome Empty α
  | .ok value => .ok value
  | .error (.error _) => .panic message
  | .error (.panic reason) => .panic reason

/-- A range, and whether its state is changed first. -/
structure Work where
  range : PhysFrameRange
  change : Bool
deriving Repr, DecidableEq

def Work.covers (work : Work) (number : Nat) : Bool := work.range.covers number

def validateRange (work : Work) (history : History) : Outcome Empty History :=
  if work.change then do
    let history ← expecting "called `Result::unwrap()` on an `Err` value"
      (pageStateChange host work.range history)
    expecting "failed to validate memory" (pvalidate host work.range history)
  else expecting "failed to validate SMBIOS memory" (pvalidate host work.range history)

def romGuardStart : Nat := 0xff000000
def romGuardEnd : Nat := 0x100000000

/-- The test that refuses an entry in the firmware's window. -/
def MeetsRomGuard (entry : BootE820Entry) : Prop :=
  entry.span.start < romGuardEnd ∧ romGuardStart < entry.span.stop

instance (entry : BootE820Entry) : Decidable (MeetsRomGuard entry) :=
  inferInstanceAs (Decidable (_ ∧ _))

/-- The loop body of `validate_memory`, up to the ranges. -/
def guardedPlan (entry : BootE820Entry) : Outcome Empty (List Work) :=
  if entry.IsMemory then
    if entry.Normal then
      if MeetsRomGuard entry then
        .panic (s!"hypervisor-supplied E820 RAM entry [{hex entry.span.start}, " ++
          s!"{hex entry.span.stop}) overlaps firmware ROM window; refusing to PVALIDATE")
      else (boundedRanges entry.span.start entry.span.stop).map (List.map (Work.mk · true))
    else .ok []
  else .ok []

def validateMemory (table : E820Table) : Outcome Empty History := do
  let history ← runEach guardedPlan (validateRange host) table []
  match table.findSmbios with
  | none => .panic "couldn't find legacy SMBIOS memory range"
  | some entry =>
    let range ← PhysFrameRange.between .size4KiB entry.span.start entry.span.stop
    validateRange host ⟨range, false⟩ history

variable {host : SnpHost}

theorem validations_validated (frame : PhysFrame) (history : History) (number : Nat) :
    validations (.validated frame :: history) number =
      validations history number + if frame.covers number then 1 else 0 :=
  coverage_cons _ _

theorem validations_changed (frame : PhysFrame) (history : History) (number : Nat) :
    validations (.changed frame :: history) number = validations history number := by
  rfl

theorem pvalidateRange_eq
    (onError : PhysFrame → InstructionError → History → Outcome InstructionError History)
    (range : PhysFrameRange) (history : History) : pvalidateRange host onError range history =
      runAll (pvalidateFrame host onError) range.frames history :=
  runAll_chunks _ _ _

theorem onSmallError_ne_ok (frame : PhysFrame) (error : InstructionError) (history next : History) :
    onSmallError frame error history ≠ .ok next := by
  cases error <;> nofun

theorem smallFrame_tallied (honest : host.Honest) :
    Tally.Tallied (fun frame => frame.size = .size4KiB) validations PhysFrame.covers
      (pvalidateFrame host onSmallError) where
  adds := by
    intro frame history next _ returned number
    unfold pvalidateFrame at returned
    split at returned
    · cases returned
      exact validations_validated frame history number
    · exact absurd returned (onSmallError_ne_ok _ _ _ _)
  returns := by
    rintro ⟨size, page⟩ history small fresh
    cases small
    have pending : validations history page = 0 :=
      fresh page (by simp [PhysFrame.covers, PageSize.frames])
    rw [pvalidateFrame, honest.small history page pending]
    exact ⟨_, rfl⟩

theorem pvalidateSmall_tallied (honest : host.Honest) :
    Tally.Tallied (fun range => range.size = .size4KiB) validations PhysFrameRange.covers
      (pvalidateSmall host) := by
  have frames : pvalidateSmall host =
      fun range => runAll (pvalidateFrame host onSmallError) range.frames := by
    funext range history
    exact pvalidateRange_eq onSmallError range history
  rw [frames]
  exact (smallFrame_tallied honest).group
    (fun _ small _ member => (PhysFrameRange.size_of_mem_frames member).trans small)
    PhysFrameRange.coverage_frames

theorem hugepageRange_eq (page : Nat) : hugepageRange ⟨.size2MiB, page⟩ =
    if 2097152 * (page + 1) < physLimit then .ok (PhysFrameRange.ofHugepage page)
    else .panic PhysAddr.invalidAddress := by
  have small : PageSize.size4KiB.bytes = 4096 := rfl
  have start : (PhysFrame.mk .size2MiB page).startAddress = 4096 * (512 * page) := by
    have large : PageSize.size2MiB.bytes = 2097152 := rfl
    simp only [PhysFrame.startAddress, large]
    omega
  have bound : 4096 * (512 * page + 512) < physLimit ↔ 2097152 * (page + 1) < physLimit := by
    omega
  have aligned : PhysFrame.fromStartAddress .size4KiB (4096 * (512 * page)) =
      .ok ⟨.size4KiB, 512 * page⟩ := by
    simp [PhysFrame.fromStartAddress, small]
  rw [hugepageRange, start, aligned, Outcome.ok_bind]
  simp only [small, bound]
  rfl

theorem onHugeError_mismatch (page : Nat) (history : History) :
    onHugeError host ⟨.size2MiB, page⟩ .failSizeMismatch history =
      if 2097152 * (page + 1) < physLimit then
        pvalidateSmall host (PhysFrameRange.ofHugepage page) history
      else .panic PhysAddr.invalidAddress := by
  simp only [onHugeError, hugepageRange_eq]
  split
  · rfl
  · rfl

theorem hugeFrame_tallied (honest : host.Honest) :
    Tally.Tallied (fun frame => frame.size = .size2MiB ∧ frame.Fits) validations PhysFrame.covers
      (pvalidateFrame host (onHugeError host)) where
  adds := by
    rintro ⟨size, page⟩ history next ⟨huge, _⟩ returned number
    cases huge
    unfold pvalidateFrame at returned
    split at returned
    · cases returned
      exact validations_validated _ history number
    · rename_i error _
      cases error with
      | failSizeMismatch =>
        rw [onHugeError_mismatch] at returned
        split at returned
        · rw [(pvalidateSmall_tallied honest).adds rfl returned, PhysFrameRange.covers_ofHugepage]
        · cases returned
      | failInput | failPermission | validationStatusNotUpdated => cases returned
  returns := by
    rintro ⟨size, page⟩ history ⟨huge, fits⟩ fresh
    cases huge
    have bounded : 2097152 * (page + 1) < physLimit := fits
    rw [pvalidateFrame]
    rcases honest.huge history page fresh with success | mismatch
    · rw [success]
      exact ⟨_, rfl⟩
    · rw [mismatch]
      dsimp only
      rw [onHugeError_mismatch, if_pos bounded]
      have fallback : ∀ number, (PhysFrameRange.ofHugepage page).covers number →
          validations history number = 0 := by
        intro number inside
        rw [PhysFrameRange.covers_ofHugepage] at inside
        exact fresh number inside
      exact (pvalidateSmall_tallied honest).returns rfl fallback

theorem pvalidateHuge_tallied (honest : host.Honest) :
    Tally.Tallied (fun range => range.size = .size2MiB ∧ range.Fits) validations
      PhysFrameRange.covers (pvalidateHuge host) := by
  have frames : pvalidateHuge host =
      fun range => runAll (pvalidateFrame host (onHugeError host)) range.frames := by
    funext range history
    exact pvalidateRange_eq (onHugeError host) range history
  rw [frames]
  exact (hugeFrame_tallied honest).group
    (fun _ huge _ member => ⟨(PhysFrameRange.size_of_mem_frames member).trans huge.1,
      PhysFrameRange.fits_of_mem_frames huge.2 member⟩)
    PhysFrameRange.coverage_frames

theorem pvalidate_tallied (honest : host.Honest) :
    Tally.Tallied PhysFrameRange.Fits validations PhysFrameRange.covers (pvalidate host) where
  adds := by
    intro range history next fits returned number
    unfold pvalidate at returned
    split at returned
    · rename_i small
      exact (pvalidateSmall_tallied honest).adds small returned number
    · rename_i huge
      exact (pvalidateHuge_tallied honest).adds ⟨huge, fits⟩ returned number
  returns := by
    intro range history fits fresh
    unfold pvalidate
    split
    · rename_i small
      exact (pvalidateSmall_tallied honest).returns small fresh
    · rename_i huge
      exact (pvalidateHuge_tallied honest).returns ⟨huge, fits⟩ fresh

theorem expecting_eq_ok {ε α : Type} {message : String} {outcome : Outcome ε α} {value : α} :
    expecting message outcome = .ok value ↔ outcome = .ok value := by
  rcases outcome with (error | reason) | result
  · simp [expecting, Outcome.panic]
  · simp [expecting, Outcome.panic]
  · simp [expecting]

variable {frame : PhysFrame} {history next : History}

theorem changeFrame_eq_ok (returned : changeFrame host frame history = .ok next) :
    next = .changed frame :: history := by
  unfold changeFrame at returned
  split at returned
  · exact (Except.ok.inj returned).symm
  · cases returned

variable {range : PhysFrameRange}

theorem validations_pageStateChange (returned : pageStateChange host range history = .ok next)
    (number : Nat) : validations next number = validations history number := by
  refine runAll_invariant (fun state => validations state number = validations history number)
    ?_ rfl returned
  intro frame _ state after same changed
  rw [changeFrame_eq_ok changed, validations_changed, same]

theorem pageStateChange_returns (honest : host.Honest) (range : PhysFrameRange)
    (history : History) : ∃ next, pageStateChange host range history = .ok next := by
  unfold pageStateChange
  induction range.frames generalizing history with
  | nil => exact ⟨history, rfl⟩
  | cons frame frames ih =>
    rw [runAll, changeFrame, honest.changes]
    exact ih _

theorem validateRange_tallied (honest : host.Honest) :
    Tally.Tallied (fun work => work.range.Fits) validations Work.covers (validateRange host) where
  adds := by
    intro work history next fits returned number
    unfold validateRange at returned
    split at returned
    · obtain ⟨middle, changed, validated⟩ := except_bind_eq_ok.mp returned
      rw [expecting_eq_ok] at changed validated
      rw [(pvalidate_tallied honest).adds fits validated, validations_pageStateChange changed]
      rfl
    · rw [expecting_eq_ok] at returned
      exact (pvalidate_tallied honest).adds fits returned number
  returns := by
    intro work history fits fresh
    unfold validateRange
    split
    · obtain ⟨middle, changed⟩ := pageStateChange_returns honest work.range history
      have still : ∀ number, work.range.covers number → validations middle number = 0 := by
        intro number inside
        rw [validations_pageStateChange changed]
        exact fresh number inside
      obtain ⟨next, validated⟩ := (pvalidate_tallied honest).returns fits still
      refine ⟨next, ?_⟩
      rw [changed]
      change expecting _ (pvalidate host work.range middle) = _
      rw [validated]
      rfl
    · obtain ⟨next, validated⟩ := (pvalidate_tallied honest).returns fits fresh
      refine ⟨next, ?_⟩
      rw [validated]
      rfl

def Changed (history : History) (number : Nat) : Prop :=
  ∃ frame, .changed frame ∈ history ∧ frame.covers number

/-- Whatever is validated was changed before, but for the SMBIOS range. -/
def Prepared : History → Prop
  | [] => True
  | .changed _ :: history => Prepared history
  | .validated frame :: history =>
    (∀ number, frame.covers number → E820Table.SmbiosFrame number ∨ Changed history number) ∧
      Prepared history

structure Ready (frames : Nat → Prop) (history : History) : Prop where
  prepared : Prepared history
  changed : ∀ number, frames number → E820Table.SmbiosFrame number ∨ Changed history number

theorem Changed.cons {number : Nat} (changed : Changed history number) (event : Event) :
    Changed (event :: history) number := by
  obtain ⟨frame, member, covers⟩ := changed
  exact ⟨frame, List.mem_cons_of_mem event member, covers⟩

variable {frames : Nat → Prop}

theorem Ready.validated (ready : Ready frames history)
    (within : ∀ number, frame.covers number → frames number) :
    Ready frames (.validated frame :: history) where
  prepared := ⟨fun number covers => ready.changed number (within number covers), ready.prepared⟩
  changed := fun number inside => (ready.changed number inside).imp_right (Changed.cons · _)

theorem covers_of_mem_frames {number : Nat} (member : frame ∈ range.frames)
    (covers : frame.covers number) : range.covers number := by
  by_contra outside
  have none := range.coverage_frames number
  rw [if_neg outside] at none
  exact absurd covers (by simpa using List.countP_eq_zero.mp none frame member)

theorem pvalidateSmall_ready (ready : Ready frames history)
    (within : ∀ number, range.covers number → frames number)
    (returned : pvalidateSmall host range history = .ok next) : Ready frames next := by
  rw [pvalidateSmall, pvalidateRange_eq] at returned
  refine runAll_invariant (Ready frames) ?_ ready returned
  intro frame member state after before validated
  unfold pvalidateFrame at validated
  split at validated
  · cases validated
    exact before.validated fun number covers => within number (covers_of_mem_frames member covers)
  · exact absurd validated (onSmallError_ne_ok _ _ _ _)

theorem pvalidateHuge_ready (huge : range.size = .size2MiB) (ready : Ready frames history)
    (within : ∀ number, range.covers number → frames number)
    (returned : pvalidateHuge host range history = .ok next) : Ready frames next := by
  rw [pvalidateHuge, pvalidateRange_eq] at returned
  refine runAll_invariant (Ready frames) ?_ ready returned
  rintro ⟨size, page⟩ member state after before validated
  have inside : ∀ number, (PhysFrame.mk size page).covers number → frames number :=
    fun number covers => within number (covers_of_mem_frames member covers)
  obtain rfl : size = .size2MiB := (PhysFrameRange.size_of_mem_frames member).trans huge
  unfold pvalidateFrame at validated
  split at validated
  · cases validated
    exact before.validated inside
  · rename_i error _
    cases error with
    | failSizeMismatch =>
      rw [onHugeError_mismatch] at validated
      split at validated
      · refine pvalidateSmall_ready before (fun number covers => ?_) validated
        rw [PhysFrameRange.covers_ofHugepage] at covers
        exact inside number covers
      · cases validated
    | failInput | failPermission | validationStatusNotUpdated => cases validated

theorem pvalidate_ready (ready : Ready frames history)
    (within : ∀ number, range.covers number → frames number)
    (returned : pvalidate host range history = .ok next) : Ready frames next := by
  unfold pvalidate at returned
  split at returned
  · exact pvalidateSmall_ready ready within returned
  · rename_i huge
    exact pvalidateHuge_ready huge ready within returned

theorem pageStateChange_ready (prepared : Prepared history)
    (returned : pageStateChange host range history = .ok next) : Ready (range.covers ·) next := by
  have changes (frames : List PhysFrame) (history : History) (prepared : Prepared history)
      (returned : runAll (changeFrame host) frames history = .ok next) :
      Prepared next ∧ (∀ event ∈ history, event ∈ next) ∧
        ∀ frame ∈ frames, .changed frame ∈ next := by
    induction frames generalizing history with
    | nil =>
      cases returned
      exact ⟨prepared, fun _ member => member, nofun⟩
    | cons frame frames ih =>
      obtain ⟨middle, first, rest⟩ := except_bind_eq_ok.mp returned
      cases changeFrame_eq_ok first
      obtain ⟨after, kept, others⟩ := ih (.changed frame :: history) prepared rest
      refine ⟨after, fun event member => kept event (List.mem_cons_of_mem _ member), ?_⟩
      rw [List.forall_mem_cons]
      exact ⟨kept _ List.mem_cons_self, others⟩
  obtain ⟨after, _, changed⟩ := changes range.frames history prepared returned
  refine ⟨after, fun number inside => .inr ?_⟩
  have covered := range.coverage_frames number
  rw [if_pos inside] at covered
  obtain ⟨frame, member, covers⟩ := exists_of_coverage_pos (covered ▸ Nat.one_pos)
  exact ⟨frame, changed frame member, covers⟩

theorem validateRange_prepared {work : Work}
    (unchanged : work.change = false → ∀ number, work.range.covers number →
      E820Table.SmbiosFrame number) (prepared : Prepared history)
    (returned : validateRange host work history = .ok next) : Prepared next := by
  unfold validateRange at returned
  split at returned
  · obtain ⟨middle, changed, validated⟩ := except_bind_eq_ok.mp returned
    rw [expecting_eq_ok] at changed validated
    exact (pvalidate_ready (pageStateChange_ready prepared changed) (fun _ inside => inside)
      validated).prepared
  · rename_i fixed
    rw [expecting_eq_ok] at returned
    have ready : Ready (work.range.covers ·) history :=
      ⟨prepared, fun number inside => .inl (unchanged (by simpa using fixed) number inside)⟩
    exact (pvalidate_ready ready (fun _ inside => inside) returned).prepared

/-- No RAM entry has an address in the window of the firmware. -/
def WindowFree (table : E820Table) : Prop :=
  ∀ entry ∈ table, BootE820Entry.entryType entry = some .ram → ∀ address, romGuardStart ≤ address →
    address < romGuardEnd → ¬ entry.span.Contains address

/-- An empty entry overlaps nothing, but the test for the window refuses it. -/
def EmptyInWindow (entry : BootE820Entry) : Prop :=
  entry.size = 0 ∧ romGuardStart < entry.span.start ∧ entry.span.start < romGuardEnd

variable {table : E820Table} {entry : BootE820Entry}

theorem meetsRomGuard_iff (free : WindowFree table) (found : entry ∈ table)
    (memory : entry.IsMemory) : MeetsRomGuard entry ↔ EmptyInWindow entry := by
  have stop : entry.span.stop = entry.span.start + entry.size.toNat := rfl
  constructor
  · rintro ⟨low, high⟩
    have empty : entry.size.toNat = 0 := by
      by_contra some
      refine free entry found memory.1 (max entry.span.start romGuardStart) (Nat.le_max_right _ _)
        (Nat.max_lt.mpr ⟨low, by decide⟩) ⟨Nat.le_max_left _ _, Nat.max_lt.mpr ⟨?_, high⟩⟩
      omega
    exact ⟨UInt64.toNat_inj.mp empty, by omega, low⟩
  · rintro ⟨empty, high, low⟩
    refine ⟨low, ?_⟩
    rw [stop, empty]
    exact high

/-- Every entry can be cut, and no empty one is in the window. -/
def Acceptable (table : E820Table) : Prop :=
  ∀ entry ∈ table, entry.IsClean ∧ (entry.IsMemory → ¬ EmptyInWindow entry)

theorem guardedPlan_eq (clear : entry.IsMemory → ¬ MeetsRomGuard entry) :
    guardedPlan entry = entry.plan.map (List.map (Work.mk · true)) := by
  unfold guardedPlan BootE820Entry.plan
  split
  · rename_i memory
    unfold BootE820Entry.ranges
    split
    · rw [if_neg (clear memory)]
    · rfl
  · rfl

theorem clear_of_guardedPlan {works : List Work} (planned : guardedPlan entry = .ok works)
    (memory : entry.IsMemory) (normal : entry.Normal) : ¬ MeetsRomGuard entry := by
  intro meets
  rw [guardedPlan, if_pos memory, if_pos normal, if_pos meets] at planned
  cases planned

def plannedWork (table : E820Table) : List Work :=
  (table.flatMap BootE820Entry.plannedRanges).map (Work.mk · true) ++
    [⟨E820Table.smbiosRange, false⟩]

theorem coverage_plannedWork (table : E820Table) (number : Nat) :
    coverage Work.covers (plannedWork table) number =
      coverage PhysFrameRange.covers table.plannedRanges number := by
  rw [plannedWork, E820Table.plannedRanges, coverage_append, coverage_append,
    coverage_map]
  rfl

/-- The memory is validated as it should be: its frames and those of the SMBIOS range once, no
other, and the state of the memory's frames is changed first. -/
def Exact (host : SnpHost) (table : E820Table) : Prop :=
  ∃ history, validateMemory host table = .ok history ∧
    (∀ number, validations history number = table.expected number) ∧ Prepared history

theorem validateMemory_of_plan (planned : ∀ entry ∈ table, ∃ ranges, entry.plan = .ok ranges)
    (clear : ∀ entry ∈ table, entry.IsMemory → ¬ MeetsRomGuard entry)
    (found : E820Table.smbios ∈ table) :
    validateMemory host table = runAll (validateRange host) (plannedWork table) [] := by
  obtain ⟨entry, located⟩ := Option.isSome_iff_exists.mp (E820Table.findSmbios_isSome_iff.mpr found)
  cases E820Table.findSmbios_eq_some located
  have memory : runEach guardedPlan (validateRange host) table [] =
      runAll (validateRange host)
        (table.flatMap fun entry => entry.plannedRanges.map (Work.mk · true)) [] := by
    refine runEach_of_plan (fun entry member => ?_) []
    rw [guardedPlan_eq (clear entry member),
      BootE820Entry.plan_eq_plannedRanges (planned entry member)]
    rfl
  rw [validateMemory, plannedWork, List.map_flatMap, runAll_append]
  congr 1
  funext history
  simp only [located, E820Table.between_smbios, Outcome.ok_bind, runAll]
  cases validateRange host ⟨E820Table.smbiosRange, false⟩ history <;> rfl

theorem prepared_of_plannedWork
    (returned : runAll (validateRange host) (plannedWork table) [] = .ok history) :
    Prepared history := by
  refine runAll_invariant Prepared ?_ (show Prepared [] from trivial) returned
  intro work member before after prepared validated
  refine validateRange_prepared (fun fixed number inside => ?_) prepared validated
  rcases List.mem_append.mp member with memory | last
  · obtain ⟨range, _, rfl⟩ := List.mem_map.mp memory
    cases fixed
  · rw [List.mem_singleton.mp last] at inside
    exact (E820Table.covers_smbiosRange number).mp inside

theorem planned_of_validateMemory (returned : validateMemory host table = .ok history) :
    (∀ entry ∈ table, ∃ works, guardedPlan entry = .ok works) ∧ E820Table.smbios ∈ table := by
  obtain ⟨middle, memory, rest⟩ := except_bind_eq_ok.mp returned
  refine ⟨exists_plan_of_runEach memory, ?_⟩
  rw [← E820Table.findSmbios_isSome_iff]
  cases located : table.findSmbios with
  | some entry => rfl
  | none =>
    rw [located] at rest
    cases rest

theorem exists_plan_of_guardedPlan {works : List Work}
    (clear : entry.IsMemory → ¬ MeetsRomGuard entry) (planned : guardedPlan entry = .ok works) :
    ∃ ranges, entry.plan = .ok ranges := by
  rw [guardedPlan_eq clear] at planned
  cases plan : entry.plan with
  | ok ranges => exact ⟨ranges, rfl⟩
  | error fault =>
    rw [plan] at planned
    cases planned

theorem fits_of_mem_plannedWork (planned : ∀ entry ∈ table, ∃ ranges, entry.plan = .ok ranges) :
    ∀ work ∈ plannedWork table, work.range.Fits := by
  intro work member
  apply E820Table.fits_of_mem_plannedRanges planned
  rcases List.mem_append.mp member with memory | last
  · obtain ⟨range, inside, rfl⟩ := List.mem_map.mp memory
    exact List.mem_append_left _ inside
  · rw [List.mem_singleton.mp last]
    exact List.mem_append_right _ (List.mem_singleton_self _)

theorem exact_iff_isClean (honest : host.Honest) (disjoint : Span.Disjoint table.spans)
    (reserved : table.SmbiosReserved) (planned : ∀ entry ∈ table, ∃ ranges, entry.plan = .ok ranges)
    (clear : ∀ entry ∈ table, entry.IsMemory → ¬ MeetsRomGuard entry)
    (found : E820Table.smbios ∈ table) : Exact host table ↔ ∀ entry ∈ table, entry.IsClean := by
  rw [Exact, validateMemory_of_plan planned clear found,
    ← E820Table.coverage_eq_expected_iff disjoint reserved planned]
  simp only [← coverage_plannedWork]
  rw [← (validateRange_tallied honest).exact_iff (fits_of_mem_plannedWork planned)
    (fun _ => show validations [] _ = 0 from rfl) table.expected_le]
  constructor
  · rintro ⟨history, returned, counted, _⟩
    exact ⟨history, returned, counted⟩
  · rintro ⟨history, returned, counted⟩
    exact ⟨history, returned, counted, prepared_of_plannedWork returned⟩

theorem validateMemory_exact_iff (host : SnpHost) (honest : host.Honest)
    (hostTable table : E820Table) (wellFormed : E820Table.WellFormed hostTable table)
    (free : WindowFree table) : Exact host table ↔ Acceptable table ∧ E820Table.smbios ∈ table := by
  constructor
  · intro validates
    obtain ⟨history, returned, _⟩ := id validates
    obtain ⟨guarded, found⟩ := planned_of_validateMemory returned
    have clear : ∀ entry ∈ table, entry.IsMemory → ¬ MeetsRomGuard entry := by
      intro entry member memory meets
      obtain ⟨works, planned⟩ := guarded entry member
      have empty := (meetsRomGuard_iff free member memory).mp meets
      exact clear_of_guardedPlan planned memory (E820Table.normal_of_empty empty.1) meets
    have planned : ∀ entry ∈ table, ∃ ranges, entry.plan = .ok ranges := by
      intro entry member
      obtain ⟨works, planned⟩ := guarded entry member
      exact exists_plan_of_guardedPlan (clear entry member) planned
    have clean := (exact_iff_isClean honest wellFormed.disjoint wellFormed.reserved planned clear
      found).mp validates
    refine ⟨fun entry member => ⟨clean entry member, fun memory empty => ?_⟩, found⟩
    exact clear entry member memory ((meetsRomGuard_iff free member memory).mpr empty)
  · rintro ⟨acceptable, found⟩
    have clear : ∀ entry ∈ table, entry.IsMemory → ¬ MeetsRomGuard entry := by
      intro entry member memory meets
      exact (acceptable entry member).2 memory ((meetsRomGuard_iff free member memory).mp meets)
    have planned : ∀ entry ∈ table, ∃ ranges, entry.plan = .ok ranges := by
      intro entry member
      obtain ⟨ranges, planned, _⟩ := BootE820Entry.plan_of_isClean (acceptable entry member).1
      exact ⟨ranges, planned⟩
    exact (exact_iff_isClean honest wellFormed.disjoint wellFormed.reserved planned clear
      found).mpr fun entry member => (acceptable entry member).1

section Small

def smallPages : SnpHost where
  pvalidate history frame :=
    match frame.size with
    | .size4KiB =>
      if validations history frame.number = 0 then .ok ()
      else .error .validationStatusNotUpdated
    | .size2MiB => .error .failSizeMismatch
  pageStateChange _ _ := .ok ()

theorem smallPages_honest : smallPages.Honest where
  changes := fun _ _ => rfl
  small := fun _ _ fresh => if_pos fresh
  huge := fun _ _ _ => .inr rfl

theorem smallMap_windowFree {size : UInt64} (low : size.toNat ≤ 0x100000000 - 0x1100000) :
    WindowFree (E820Table.smallMap size) := by
  intro entry member memory address above _ inside
  simp only [E820Table.smallMap, List.mem_cons, List.not_mem_nil, or_false] at member
  rcases member with rfl | rfl
  · cases memory
  · have stop : (BootE820Entry.new 0x100000 size .ram).span.stop = 0x100000 + size.toNat := rfl
    have start : romGuardStart = 0xff000000 := rfl
    have := inside.2
    omega

/-- RAM that reaches beyond the 2 MiB boundary. -/
theorem two_megabytes_exact : Exact smallPages (E820Table.smallMap 0x180000) := by
  apply (validateMemory_exact_iff smallPages smallPages_honest (E820Table.smallMap 0x180000)
    (E820Table.smallMap 0x180000) (E820Table.smallMap_wellFormed _)
    (smallMap_windowFree (by decide))).mpr
  refine ⟨?_, List.mem_cons_self⟩
  unfold Acceptable BootE820Entry.IsClean Clean EmptyInWindow
  decide +kernel

theorem half_megabyte_isPanic :
    (validateMemory smallPages (E820Table.smallMap 0x80000)).IsPanic := by
  decide +kernel

/-- Half a megabyte of RAM without a 2 MiB boundary is validated twice. -/
theorem half_megabyte_not_exact : ¬ Exact smallPages (E820Table.smallMap 0x80000) := by
  rintro ⟨history, returned, _⟩
  exact half_megabyte_isPanic.ne_ok history returned

end Small

end Oak.Stage0.PValidate
