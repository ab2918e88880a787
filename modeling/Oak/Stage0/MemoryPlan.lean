import Oak.Stage0.FrameCuts

namespace Oak.Stage0

open Oak.Data Oak.Data.Tally

/-! The frames of a memory map that the firmware takes into use, and how often the ranges that it
plans for the entries cover them. -/

namespace BootE820Entry

theorem ranges_eq (entry : BootE820Entry) :
    entry.ranges = boundedRanges entry.span.start entry.span.stop := by
  unfold ranges
  split
  · rfl
  · rename_i wraps
    have width : physLimit ≤ 2 ^ 64 := by decide
    rw [boundedRanges_of_large (width.trans (Nat.le_of_not_lt wraps))]

def HasRamFrame (entry : BootE820Entry) (number : Nat) : Prop :=
  entry.IsMemory ∧ HasFrame entry.span.start entry.span.stop number ∧ IsPhysical number

instance (entry : BootE820Entry) (number : Nat) : Decidable (entry.HasRamFrame number) :=
  inferInstanceAs (Decidable (_ ∧ (_ ∧ _) ∧ _ ≤ _))

/-- The memory of an entry can be cut such that each of its frames is in one range. -/
def IsClean (entry : BootE820Entry) : Prop :=
  entry.IsMemory → Clean entry.span.start entry.span.stop

/-- The loop body of `accept_tdx_memory`. -/
def plan (entry : BootE820Entry) : Outcome Empty (List PhysFrameRange) :=
  if entry.IsMemory then entry.ranges else .ok []

def plannedRanges (entry : BootE820Entry) : List PhysFrameRange :=
  match entry.plan with
  | .ok ranges => ranges
  | .error _ => []

variable {entry : BootE820Entry} {ranges : List PhysFrameRange} {number : Nat}

theorem plan_eq_plannedRanges (planned : ∃ ranges, entry.plan = .ok ranges) :
    entry.plan = .ok entry.plannedRanges := by
  obtain ⟨ranges, planned⟩ := planned
  rw [plannedRanges, planned]

theorem hasRamFrame_of_coverage (planned : entry.plan = .ok ranges)
    (covered : 0 < coverage PhysFrameRange.covers ranges number) :
    entry.HasRamFrame number := by
  unfold plan at planned
  split at planned
  · rename_i memory
    rw [ranges_eq] at planned
    exact ⟨memory, coverage_pos_of_boundedRanges entry.start_le_stop planned covered⟩
  · cases planned
    cases covered

theorem fits_of_plan (planned : entry.plan = .ok ranges) : ∀ range ∈ ranges, range.Fits := by
  unfold plan at planned
  split at planned
  · rw [ranges_eq] at planned
    exact fits_of_boundedRanges entry.start_le_stop planned
  · cases planned
    nofun

theorem plan_of_isClean (clean : entry.IsClean) : ∃ ranges, entry.plan = .ok ranges ∧
    ∀ number, entry.HasRamFrame number →
      coverage PhysFrameRange.covers ranges number = 1 := by
  unfold plan
  split
  · rename_i memory
    obtain ⟨ranges, planned, once⟩ := coversOnce_of_clean entry.start_le_stop (clean memory)
    rw [ranges_eq]
    exact ⟨ranges, planned, fun number inside => once number inside.2.1 inside.2.2⟩
  · rename_i other
    exact ⟨[], rfl, fun number inside => absurd inside.1 other⟩

theorem isClean_of_plan (planned : entry.plan = .ok ranges)
    (once : ∀ number, entry.HasRamFrame number →
      coverage PhysFrameRange.covers ranges number = 1) : entry.IsClean := by
  intro memory
  rw [plan, if_pos memory, ranges_eq] at planned
  refine clean_of_coversOnce entry.start_le_stop ⟨ranges, planned, ?_⟩
  exact fun number inside physical => once number ⟨memory, inside, physical⟩

theorem HasRamFrame.contains (inside : entry.HasRamFrame number) :
    entry.span.Contains (4096 * number) :=
  ⟨inside.2.1.1, Nat.lt_of_lt_of_le (Nat.lt_add_of_pos_right (by decide)) inside.2.1.2⟩

end BootE820Entry

namespace E820Table

/-- The frames of the memory above the first 640 KiB. -/
def RamFrame (table : E820Table) (number : Nat) : Prop :=
  ∃ entry ∈ table, BootE820Entry.HasRamFrame entry number

instance (table : E820Table) (number : Nat) : Decidable (RamFrame table number) :=
  inferInstanceAs (Decidable (∃ entry ∈ table, _))

def SmbiosFrame (number : Nat) : Prop := 0xf0 ≤ number ∧ number < 0x100

instance (number : Nat) : Decidable (SmbiosFrame number) := inferInstanceAs (Decidable (_ ∧ _))

def smbiosRange : PhysFrameRange := ⟨.size4KiB, 0xf0, 0x100⟩

def expected (table : E820Table) (number : Nat) : Nat :=
  if RamFrame table number ∨ SmbiosFrame number then 1 else 0

theorem expected_le (table : E820Table) (number : Nat) : expected table number ≤ 1 := by
  unfold expected
  split
  · exact Nat.le_refl 1
  · exact Nat.zero_le 1

def SmbiosReserved (table : E820Table) : Prop :=
  ∀ address, 0xf0000 ≤ address → address < 0x100000 →
    Span.labelsAt (spans table) address = [E820EntryType.reserved.toRepr]

theorem covers_smbiosRange (number : Nat) :
    smbiosRange.covers number = true ↔ SmbiosFrame number := by
  rw [PhysFrameRange.covers_eq_true]
  simp [smbiosRange, SmbiosFrame, PageSize.frames]

variable {table : E820Table} {entry : BootE820Entry} {number : Nat}

theorem not_smbiosFrame_of_hasRamFrame (reserved : SmbiosReserved table) (found : entry ∈ table)
    (inside : entry.HasRamFrame number) : ¬ SmbiosFrame number := by
  rintro ⟨low, high⟩
  have labels := reserved (4096 * number) (by omega) (by omega)
  have marked : entry.type_ ∈ Span.labelsAt (spans table) (4096 * number) :=
    Span.mem_labelsAt.mpr ⟨entry.span, List.mem_map_of_mem found, inside.contains, rfl⟩
  rw [labels, List.mem_singleton] at marked
  have memory := inside.1.1
  rw [BootE820Entry.entryType, marked] at memory
  cases memory

variable {ranges : BootE820Entry → List PhysFrameRange}

theorem coverage_flatMap_of_mem (disjoint : Span.Disjoint (spans table))
    (planned : ∀ entry ∈ table, entry.plan = .ok (ranges entry)) (found : entry ∈ table)
    (inside : entry.HasRamFrame number) :
    coverage PhysFrameRange.covers (table.flatMap ranges) number =
      coverage PhysFrameRange.covers (ranges entry) number := by
  obtain ⟨before, after, rfl⟩ := List.append_of_mem found
  have alone : ∀ other ∈ before ++ after, ¬ other.HasRamFrame number := by
    intro other member
    rw [spans_append, spans_cons, Span.Disjoint, List.pairwise_append, List.pairwise_cons]
      at disjoint
    intro both
    rcases List.mem_append.mp member with early | late
    · exact disjoint.2.2 _ (List.mem_map_of_mem early) _ List.mem_cons_self (4096 * number)
        ⟨both.contains, inside.contains⟩
    · exact disjoint.2.1.1 _ (List.mem_map_of_mem late) (4096 * number)
        ⟨inside.contains, both.contains⟩
  have none (others : E820Table) (among : ∀ other ∈ others, other ∈ before ++ after) :
      coverage PhysFrameRange.covers (others.flatMap ranges) number = 0 := by
    induction others with
    | nil => rfl
    | cons other others ih =>
      rw [List.forall_mem_cons] at among
      rw [List.flatMap_cons, coverage_append, ih among.2]
      by_contra covered
      have member : other ∈ before ++ entry :: after := by
        have := among.1
        simp only [List.mem_append] at this ⊢
        tauto
      exact alone other among.1 (BootE820Entry.hasRamFrame_of_coverage (planned other member)
        (Nat.pos_of_ne_zero covered))
  rw [List.flatMap_append, List.flatMap_cons, coverage_append, coverage_append,
    none before (fun other early => List.mem_append_left after early),
    none after (fun other late => List.mem_append_right before late)]
  omega

theorem coverage_flatMap_of_not (planned : ∀ entry ∈ table, entry.plan = .ok (ranges entry)) (outside : ¬ RamFrame table number) :
    coverage PhysFrameRange.covers (table.flatMap ranges) number = 0 := by
  induction table with
  | nil => rfl
  | cons entry table ih =>
    rw [List.forall_mem_cons] at planned
    rw [List.flatMap_cons, coverage_append, ih planned.2]
    · by_contra covered
      exact outside ⟨entry, List.mem_cons_self,
        BootE820Entry.hasRamFrame_of_coverage planned.1 (Nat.pos_of_ne_zero covered)⟩
    · rintro ⟨other, member, inside⟩
      exact outside ⟨other, List.mem_cons_of_mem entry member, inside⟩

theorem fits_smbiosRange : smbiosRange.Fits := by
  unfold PhysFrameRange.Fits
  decide +kernel

def plannedRanges (table : E820Table) : List PhysFrameRange :=
  table.flatMap BootE820Entry.plannedRanges ++ [smbiosRange]

theorem fits_of_mem_plannedRanges (planned : ∀ entry ∈ table, ∃ ranges, entry.plan = .ok ranges) :
    ∀ range ∈ plannedRanges table, range.Fits := by
  intro range member
  rcases List.mem_append.mp member with memory | last
  · obtain ⟨entry, found, inside⟩ := List.mem_flatMap.mp memory
    exact BootE820Entry.fits_of_plan
      (BootE820Entry.plan_eq_plannedRanges (planned entry found)) range inside
  · rw [List.mem_singleton.mp last]
    exact fits_smbiosRange

/-- The plan for a whole table covers what it should if and only if every entry can be cut. -/
theorem coverage_eq_expected_iff (disjoint : Span.Disjoint (spans table))
    (reserved : SmbiosReserved table) (some : ∀ entry ∈ table, ∃ ranges, entry.plan = .ok ranges) :
    (∀ number, coverage PhysFrameRange.covers (plannedRanges table) number =
      expected table number) ↔ ∀ entry ∈ table, entry.IsClean := by
  have planned : ∀ entry ∈ table, entry.plan = .ok entry.plannedRanges :=
    fun entry found => BootE820Entry.plan_eq_plannedRanges (some entry found)
  simp only [plannedRanges, coverage_append, coverage_cons, coverage_nil, covers_smbiosRange]
  constructor
  · intro covered entry found
    refine BootE820Entry.isClean_of_plan (planned entry found) fun number inside => ?_
    have total := covered number
    rw [coverage_flatMap_of_mem disjoint planned found inside,
      if_neg (not_smbiosFrame_of_hasRamFrame reserved found inside), expected,
      if_pos (Or.inl ⟨entry, found, inside⟩)] at total
    exact total
  · intro clean number
    by_cases ram : RamFrame table number
    · obtain ⟨entry, found, inside⟩ := ram
      obtain ⟨own, same, once⟩ := BootE820Entry.plan_of_isClean (clean entry found)
      cases (planned entry found).symm.trans same
      rw [coverage_flatMap_of_mem disjoint planned found inside, once number inside,
        if_neg (not_smbiosFrame_of_hasRamFrame reserved found inside), expected,
        if_pos (Or.inl ⟨entry, found, inside⟩)]
    · rw [coverage_flatMap_of_not planned ram, expected]
      simp [ram]

/-- `find` of the SMBIOS range. -/
def findSmbios (table : E820Table) : Option BootE820Entry :=
  table.find? fun entry =>
    entry.addr == 0xf0000 && entry.size == 0x10000 && entry.entryType == some .reserved

theorem findSmbios_eq_some {found : BootE820Entry} (located : findSmbios table = some found) :
    found = smbios := by
  have test := List.find?_some located
  simp only [Bool.and_eq_true, beq_iff_eq] at test
  obtain ⟨⟨addr, size⟩, type⟩ := test
  have number := E820EntryType.toRepr_of_fromRepr type
  obtain ⟨_, _, _⟩ := found
  cases addr
  cases size
  cases number
  rfl

theorem findSmbios_isSome_iff : (findSmbios table).isSome ↔ smbios ∈ table := by
  constructor
  · intro some
    obtain ⟨found, located⟩ := Option.isSome_iff_exists.mp some
    have member := List.mem_of_find?_eq_some located
    rwa [findSmbios_eq_some located] at member
  · intro member
    rw [findSmbios, List.find?_isSome]
    exact ⟨smbios, member, by decide⟩

theorem between_smbios :
    PhysFrameRange.between .size4KiB smbios.span.start smbios.span.stop = .ok smbiosRange := by
  decide +kernel

def smallMap (size : UInt64) : E820Table := [smbios, .new 0x100000 size .ram]

theorem smallMap_ordered (size : UInt64) : Span.Ordered (spans (smallMap size)) := by
  have stop : smbios.span.stop = 0x100000 := by decide +kernel
  have start : (BootE820Entry.new 0x100000 size .ram).span.start = 0x100000 := rfl
  simp [smallMap, Span.Ordered, stop, start]

theorem smallMap_disjoint (size : UInt64) : Span.Disjoint (spans (smallMap size)) :=
  (smallMap_ordered size).disjoint

theorem smallMap_reserved (size : UInt64) : SmbiosReserved (smallMap size) := by
  intro address low high
  have inside : smbios.span.Contains address := ⟨low, high⟩
  have outside : ¬ (BootE820Entry.new 0x100000 size .ram).span.Contains address :=
    fun contains => Nat.not_lt.mpr contains.1 high
  simp only [smallMap, spans_cons]
  rw [Span.labelsAt_cons_of_contains inside, Span.labelsAt_cons_of_not outside]
  rfl

theorem smallMap_wellFormed (size : UInt64) : WellFormed (smallMap size) (smallMap size) where
  sorted := sorted_of_ordered (smallMap_ordered size)
  disjoint := smallMap_disjoint size
  valid := by
    intro entry member
    simp only [smallMap, List.mem_cons, List.not_mem_nil, or_false] at member
    rcases member with rfl | rfl
    · exact ⟨.reserved, rfl⟩
    · exact ⟨.ram, rfl⟩
  gap := by
    intro address _ high
    refine Span.labelsAt_eq_nil_of_lt fun span member => ?_
    simp only [smallMap, spans_cons, spans_nil, List.mem_cons, List.not_mem_nil, or_false] at member
    rcases member with rfl | rfl
    · exact high
    · exact high.trans (show 0xf0000 < 0x100000 by decide)
  reserved := smallMap_reserved size
  kept := fun _ _ => .refl _

end E820Table

end Oak.Stage0
