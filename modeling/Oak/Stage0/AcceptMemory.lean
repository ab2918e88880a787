import Oak.Stage0.MemoryPlan

namespace Oak.Stage0.AcceptMemory

open Oak.Data Oak.Data.Tally

/-! Memory acceptance on TDX: `accept_page` (`stage0_tdx/src/accept_memory.rs`), `accept_tdx_memory`
and `handle_legacy_smbios` (`platform.rs`), over `accept_memory` (`oak_tdx_guest/src/tdcall.rs`). -/

inductive AcceptMemoryError where
  | invalidOperandInRcx
  | operandBusy
  | alreadyAccepted
  | pageSizeMisMatch
deriving Repr, DecidableEq

def AcceptMemoryError.repr : AcceptMemoryError → UInt64
  | invalidOperandInRcx => 0xC000010000000001
  | operandBusy => 0x8000020000000000
  | alreadyAccepted => 0x00000B0A00000000
  | pageSizeMisMatch => 0xC0000B0B00000001

def AcceptMemoryError.fromRepr (result : UInt64) : Option AcceptMemoryError :=
  [invalidOperandInRcx, operandBusy, alreadyAccepted, pageSizeMisMatch].find? (·.repr == result)

/-- The pages that were accepted, the last one first. -/
abbrev Accepted := List PhysFrame

def acceptances (accepted : Accepted) (number : Nat) : Nat :=
  coverage PhysFrame.covers accepted number

/-- The answers of the TDX module: the result of `TDG.MEM.PAGE.ACCEPT` for a page. -/
structure TdxModule where
  tdcall : Accepted → PhysFrame → UInt64

/-- A module that accepts a 4 KiB page exactly when it has not been accepted before, and answers
each request for a 2 MiB page with success or size mismatch. -/
structure TdxModule.Regular (tdx : TdxModule) : Prop where
  pending : ∀ accepted number, acceptances accepted number = 0 →
    tdx.tdcall accepted ⟨.size4KiB, number⟩ = 0
  repeated : ∀ accepted number, acceptances accepted number ≠ 0 →
    tdx.tdcall accepted ⟨.size4KiB, number⟩ = AcceptMemoryError.alreadyAccepted.repr
  huge : ∀ accepted number, tdx.tdcall accepted ⟨.size2MiB, number⟩ = 0 ∨
    tdx.tdcall accepted ⟨.size2MiB, number⟩ = AcceptMemoryError.pageSizeMisMatch.repr

variable (tdx : TdxModule)

def acceptMemory (frame : PhysFrame) (accepted : Accepted) : Outcome AcceptMemoryError Accepted :=
  let result := tdx.tdcall accepted frame
  if result > 0 then
    match AcceptMemoryError.fromRepr result with
    | some error => .err error
    | none => .panic "TDCALL[TDG.MEM.PAGE.ACCEPT] returned an invalid result"
  else .ok (frame :: accepted)

/-- The loop body of `accept_page` for 4 KiB pages. -/
def acceptSmall (frame : PhysFrame) (accepted : Accepted) : Outcome Empty Accepted :=
  match acceptMemory tdx frame accepted with
  | .ok accepted => .ok accepted
  | .error (.error _) => .panic "map 4k cannot fail"
  | .error (.panic message) => .panic message

/-- The loop body of `accept_page` for 2 MiB pages. -/
def acceptHuge (frame : PhysFrame) (accepted : Accepted) : Outcome Empty Accepted :=
  match acceptMemory tdx frame accepted with
  | .ok accepted => .ok accepted
  | .error (.error .alreadyAccepted) => .ok accepted
  | .error (.error .pageSizeMisMatch) =>
    let limit := frame.startAddress + PageSize.size2MiB.bytes
    if limit < physLimit then do
      let range ← PhysFrameRange.between .size4KiB frame.startAddress limit
      runAll (acceptSmall tdx) range.frames accepted
    else .panic PhysAddr.invalidAddress
  | .error (.error _) => .panic "oops"
  | .error (.panic message) => .panic message

def acceptFrame (frame : PhysFrame) (accepted : Accepted) : Outcome Empty Accepted :=
  match frame.size with
  | .size4KiB => acceptSmall tdx frame accepted
  | .size2MiB => acceptHuge tdx frame accepted

/-- `PhysFrameRange::accept_page`. -/
def acceptPage (range : PhysFrameRange) (accepted : Accepted) : Outcome Empty Accepted :=
  runAll (acceptFrame tdx) range.frames accepted

def acceptTdxMemory (table : E820Table) (accepted : Accepted) : Outcome Empty Accepted :=
  runEach BootE820Entry.plan (acceptPage tdx) table accepted

def handleLegacySmbios (table : E820Table) (accepted : Accepted) : Outcome Empty Accepted :=
  match table.findSmbios with
  | none => .panic "couldn't find legacy SMBIOS memory range"
  | some entry => do
    let range ← PhysFrameRange.between .size4KiB entry.span.start entry.span.stop
    acceptPage tdx range accepted

/-- Both, from a state in which no page is accepted. -/
def acceptAll (table : E820Table) : Outcome Empty Accepted := do
  let accepted ← acceptTdxMemory tdx table []
  handleLegacySmbios tdx table accepted

variable {tdx : TdxModule}

variable {frame : PhysFrame} {accepted : Accepted}

theorem acceptMemory_of_zero (success : tdx.tdcall accepted frame = 0) :
    acceptMemory tdx frame accepted = .ok (frame :: accepted) := by
  rw [acceptMemory, success]
  rfl

theorem acceptMemory_of_error {error : AcceptMemoryError}
    (failed : tdx.tdcall accepted frame = error.repr) :
    acceptMemory tdx frame accepted = .err error := by
  rw [acceptMemory, failed]
  cases error <;> rfl

theorem acceptMemory_eq_ok {next : Accepted}
    (returned : acceptMemory tdx frame accepted = .ok next) : next = frame :: accepted := by
  unfold acceptMemory at returned
  dsimp only at returned
  split at returned
  · split at returned
    · cases returned
    · cases returned
  · exact (Except.ok.inj returned).symm

theorem acceptances_cons (frame : PhysFrame) (accepted : Accepted) (number : Nat) :
    acceptances (frame :: accepted) number =
      acceptances accepted number + if frame.covers number then 1 else 0 :=
  coverage_cons frame accepted

theorem acceptSmall_tallied (regular : tdx.Regular) :
    Tally.Tallied (fun frame => frame.size = .size4KiB) acceptances PhysFrame.covers
      (acceptSmall tdx) where
  adds := by
    intro frame accepted next _ returned number
    unfold acceptSmall at returned
    split at returned
    · rename_i after answered
      cases returned
      rw [acceptMemory_eq_ok answered, acceptances_cons]
    · cases returned
    · cases returned
  returns := by
    rintro ⟨size, page⟩ accepted small fresh
    cases small
    have pending : acceptances accepted page = 0 := fresh page (by simp [PhysFrame.covers,
      PageSize.frames])
    rw [acceptSmall, acceptMemory_of_zero (regular.pending accepted page pending)]
    exact ⟨_, rfl⟩

theorem acceptSmallPages_tallied (regular : tdx.Regular) :
    Tally.Tallied (fun range => range.size = .size4KiB) acceptances PhysFrameRange.covers
      fun range => runAll (acceptSmall tdx) range.frames :=
  (acceptSmall_tallied regular).group
    (fun _ small _ member => (PhysFrameRange.size_of_mem_frames member).trans small)
    PhysFrameRange.coverage_frames

theorem acceptHuge_of_mismatch {page : Nat}
    (mismatch : tdx.tdcall accepted ⟨.size2MiB, page⟩ = AcceptMemoryError.pageSizeMisMatch.repr) :
    acceptHuge tdx ⟨.size2MiB, page⟩ accepted = if 2097152 * (page + 1) < physLimit then
        runAll (acceptSmall tdx) (PhysFrameRange.ofHugepage page).frames accepted
      else .panic PhysAddr.invalidAddress := by
  have start : (PhysFrame.mk .size2MiB page).startAddress = 2097152 * page := rfl
  have limit : 2097152 * page + PageSize.size2MiB.bytes = 2097152 * (page + 1) := rfl
  rw [acceptHuge, acceptMemory_of_error mismatch]
  simp [Outcome.err, start, limit, between_hugepage]

theorem acceptFrame_tallied (regular : tdx.Regular) :
    Tally.Tallied PhysFrame.Fits acceptances PhysFrame.covers (acceptFrame tdx) where
  adds := by
    rintro ⟨size, page⟩ accepted next _ returned number
    cases size with
    | size4KiB => exact (acceptSmall_tallied regular).adds rfl returned number
    | size2MiB =>
      change acceptHuge tdx _ accepted = _ at returned
      rcases regular.huge accepted page with success | mismatch
      · rw [acceptHuge, acceptMemory_of_zero success] at returned
        cases returned
        rw [acceptances_cons]
      · rw [acceptHuge_of_mismatch mismatch] at returned
        split at returned
        · rw [(acceptSmallPages_tallied regular).adds rfl returned,
            PhysFrameRange.covers_ofHugepage]
        · cases returned
  returns := by
    rintro ⟨size, page⟩ accepted fits fresh
    cases size with
    | size4KiB => exact (acceptSmall_tallied regular).returns rfl fresh
    | size2MiB =>
      change ∃ next, acceptHuge tdx _ accepted = .ok next
      rcases regular.huge accepted page with success | mismatch
      · rw [acceptHuge, acceptMemory_of_zero success]
        exact ⟨_, rfl⟩
      · have bounded : 2097152 * (page + 1) < physLimit := fits
        rw [acceptHuge_of_mismatch mismatch, if_pos bounded]
        have fallback : ∀ number, (PhysFrameRange.ofHugepage page).covers number →
            acceptances accepted number = 0 := by
          intro number inside
          rw [PhysFrameRange.covers_ofHugepage] at inside
          exact fresh number inside
        exact (acceptSmallPages_tallied regular).returns rfl fallback

theorem acceptPage_tallied (regular : tdx.Regular) :
    Tally.Tallied PhysFrameRange.Fits acceptances PhysFrameRange.covers (acceptPage tdx) :=
  (acceptFrame_tallied regular).group
    (fun _ fits _ member => PhysFrameRange.fits_of_mem_frames fits member)
    PhysFrameRange.coverage_frames

/-- The calls return, and every frame was accepted as often as it should be: the frames of the
memory and those of the SMBIOS range once, and no other. -/
def Exact (tdx : TdxModule) (table : E820Table) : Prop :=
  ∃ accepted, acceptAll tdx table = .ok accepted ∧
    ∀ number, acceptances accepted number = table.expected number

theorem acceptAll_of_plan {table : E820Table}
    (planned : ∀ entry ∈ table, ∃ ranges, entry.plan = .ok ranges)
    (found : E820Table.smbios ∈ table) :
    acceptAll tdx table = runAll (acceptPage tdx) table.plannedRanges [] := by
  obtain ⟨entry, located⟩ := Option.isSome_iff_exists.mp (E820Table.findSmbios_isSome_iff.mpr found)
  cases E820Table.findSmbios_eq_some located
  have memory : runEach BootE820Entry.plan (acceptPage tdx) table [] =
      runAll (acceptPage tdx) (table.flatMap BootE820Entry.plannedRanges) [] :=
    runEach_of_plan
      (fun entry member => BootE820Entry.plan_eq_plannedRanges (planned entry member)) []
  rw [acceptAll, E820Table.plannedRanges, runAll_append]
  congr 1
  funext accepted
  rw [handleLegacySmbios, located]
  simp only [E820Table.between_smbios, Outcome.ok_bind, runAll]
  cases acceptPage tdx E820Table.smbiosRange accepted <;> rfl

theorem planned_of_acceptAll {table : E820Table} (returned : acceptAll tdx table = .ok accepted) :
    (∀ entry ∈ table, ∃ ranges, entry.plan = .ok ranges) ∧ E820Table.smbios ∈ table := by
  obtain ⟨middle, memory, rest⟩ := except_bind_eq_ok.mp returned
  refine ⟨exists_plan_of_runEach memory, ?_⟩
  rw [← E820Table.findSmbios_isSome_iff]
  unfold handleLegacySmbios at rest
  split at rest
  · cases rest
  · rename_i entry located
    rw [located]
    rfl

theorem acceptAll_exact_iff (tdx : TdxModule) (regular : tdx.Regular) (table : E820Table)
    (disjoint : Span.Disjoint table.spans) (reserved : table.SmbiosReserved) :
    Exact tdx table ↔ (∀ entry ∈ table, entry.IsClean) ∧ E820Table.smbios ∈ table := by
  -- once every entry has a plan, the calls are one run over the planned ranges
  have exact_iff (planned : ∀ entry ∈ table, ∃ ranges, entry.plan = .ok ranges)
      (found : E820Table.smbios ∈ table) : Exact tdx table ↔ ∀ entry ∈ table, entry.IsClean := by
    rw [Exact, acceptAll_of_plan planned found,
      (acceptPage_tallied regular).exact_iff (E820Table.fits_of_mem_plannedRanges planned)
        (fun _ => rfl) table.expected_le,
      E820Table.coverage_eq_expected_iff disjoint reserved planned]
  constructor
  · intro accepts
    obtain ⟨accepted, returned, _⟩ := id accepts
    obtain ⟨planned, found⟩ := planned_of_acceptAll returned
    exact ⟨(exact_iff planned found).mp accepts, found⟩
  · rintro ⟨clean, found⟩
    have planned : ∀ entry ∈ table, ∃ ranges, entry.plan = .ok ranges := by
      intro entry member
      obtain ⟨ranges, planned, _⟩ := BootE820Entry.plan_of_isClean (clean entry member)
      exact ⟨ranges, planned⟩
    exact (exact_iff planned found).mpr clean

section Small

def smallPages : TdxModule where
  tdcall accepted frame :=
    match frame.size with
    | .size4KiB =>
      if acceptances accepted frame.number = 0 then 0 else AcceptMemoryError.alreadyAccepted.repr
    | .size2MiB => AcceptMemoryError.pageSizeMisMatch.repr

theorem smallPages_regular : smallPages.Regular where
  pending := fun _ _ fresh => if_pos fresh
  repeated := fun _ _ again => if_neg again
  huge := fun _ _ => .inr rfl

/-- RAM that reaches beyond the 2 MiB boundary. -/
theorem long_entry_exact : Exact smallPages (E820Table.smallMap 0x180000) := by
  apply (acceptAll_exact_iff smallPages smallPages_regular (E820Table.smallMap 0x180000)
    (E820Table.smallMap_disjoint _) (E820Table.smallMap_reserved _)).mpr
  refine ⟨?_, List.mem_cons_self⟩
  unfold BootE820Entry.IsClean Clean
  decide +kernel

theorem short_entry_isPanic : (acceptAll smallPages (E820Table.smallMap 0x80000)).IsPanic := by
  decide +kernel

/-- Half a megabyte of RAM without a 2 MiB boundary is accepted twice. -/
theorem short_entry_not_exact : ¬ Exact smallPages (E820Table.smallMap 0x80000) := by
  rintro ⟨accepted, returned, _⟩
  exact short_entry_isPanic.ne_ok accepted returned

end Small

end Oak.Stage0.AcceptMemory
