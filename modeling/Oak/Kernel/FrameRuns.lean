import Mathlib.Data.Finset.Card
import Oak.Data.Runs
import Oak.Kernel.FrameAllocator

namespace Oak.Kernel

open Oak.Data

/-! What holds of the frames that are in use, along every run of the allocator. -/

/-- No byte is in both frames. -/
def PhysFrame.Apart {size otherSize : PageSize} (frame : PhysFrame size)
    (other : PhysFrame otherSize) : Prop :=
  frame.startAddress + size.bytes ≤ other.startAddress ∨
    other.startAddress + otherSize.bytes ≤ frame.startAddress

theorem PhysFrame.apart_of_ne {size : PageSize} {frame other : PhysFrame size}
    (different : frame ≠ other) : frame.Apart other := by
  rw [Apart, startAddress, startAddress, ← Nat.succ_mul, ← Nat.succ_mul]
  rcases Nat.lt_or_gt_of_ne fun same => different (PhysFrame.ext same) with before | after
  · exact Or.inl (Nat.mul_le_mul_right _ before)
  · exact Or.inr (Nat.mul_le_mul_right _ after)

namespace BitmapAllocator

variable {size : PageSize} {words : Nat} {allocator next : BitmapAllocator size words}
  {owned : List (PhysFrame size)}

variable {frame : PhysFrame size}

theorem frameIdx_eq (lower : allocator.range.start.number ≤ frame.number)
    (upper : frame.number ≤ allocator.range.finish.number) :
    allocator.frameIdx frame = some (frame.number - allocator.range.start.number) := by
  rw [frameIdx, if_neg (by omega), PhysFrame.startAddress, PhysFrame.startAddress, ← Nat.sub_mul,
    Nat.mul_div_cancel _ size.bytes_pos]

variable {index : Nat}

theorem of_frameIdx_eq_some (found : allocator.frameIdx frame = some index) :
    frame.number = allocator.range.start.number + index ∧
      frame.number ≤ allocator.range.finish.number := by
  by_cases inside : frame.number < allocator.range.start.number ∨
      frame.number > allocator.range.finish.number
  · rw [frameIdx, if_pos inside] at found
    cases found
  · rw [not_or, Nat.not_lt, Nat.not_lt] at inside
    rw [frameIdx_eq inside.1 inside.2, Option.some.injEq] at found
    omega

structure Managed (allocator : BitmapAllocator size words) : Prop where
  valid_lt : ∀ index, allocator.valid.IsSet index →
    allocator.range.start.number + index < allocator.range.finish.number

structure Owns (allocator : BitmapAllocator size words) (owned : List (PhysFrame size)) : Prop
    extends Managed allocator where
  nodup : owned.Nodup
  above : ∀ frame ∈ owned, allocator.range.start.number ≤ frame.number
  valid : ∀ frame ∈ owned, allocator.valid.IsSet (frame.number - allocator.range.start.number)
  allocated_iff : ∀ index, allocator.allocated.IsSet index ↔
    ∃ frame ∈ owned, frame.number = allocator.range.start.number + index

theorem length_available (allocator : BitmapAllocator size words) :
    allocator.available.length = words * 64 := by
  rw [available, Bits.length_andNot (allocator.validSize.trans allocator.allocatedSize.symm),
    allocator.validSize]

theorem isSet_available : allocator.available.IsSet index ↔
    allocator.valid.IsSet index ∧ ¬ allocator.allocated.IsSet index :=
  Bits.isSet_andNot (allocator.validSize.trans allocator.allocatedSize.symm)

structure SameFrames (allocator next : BitmapAllocator size words) : Prop where
  valid : next.valid = allocator.valid
  range : next.range = allocator.range

theorem SameFrames.refl : SameFrames allocator allocator := ⟨rfl, rfl⟩

theorem Managed.frame_eq (managed : Managed allocator) (isSet : allocator.valid.IsSet index) :
    ∃ frame, allocator.frame index = .ok (some frame) ∧
      frame.number = allocator.range.start.number + index := by
  have below := managed.valid_lt index isSet
  have representable : (allocator.range.start.number + index) * size.bytes < 2 ^ 52 :=
    (Nat.mul_le_mul_right size.bytes below.le).trans_lt allocator.range.finish.representable
  refine ⟨⟨_, representable⟩, ?_, rfl⟩
  rw [BitmapAllocator.frame, if_neg (Nat.not_le.mpr isSet.lt_length), PhysFrame.add,
    dif_pos representable]
  rfl

theorem sameFrames_withAllocated {allocated : Bits}
    (sized : allocated.length = allocator.allocated.length) :
    SameFrames allocator (allocator.withAllocated allocated sized) := ⟨rfl, rfl⟩

theorem Owns.take (owns : Owns allocator owned) {allocated : Bits}
    (sized : allocated.length = allocator.allocated.length) {taken : List (PhysFrame size)}
    (nodup : taken.Nodup) (above : ∀ frame ∈ taken, allocator.range.start.number ≤ frame.number)
    (free : ∀ frame ∈ taken,
      allocator.available.IsSet (frame.number - allocator.range.start.number))
    (taken_iff : ∀ index, allocated.IsSet index ↔ allocator.allocated.IsSet index ∨
      ∃ frame ∈ taken, frame.number = allocator.range.start.number + index) :
    Owns (allocator.withAllocated allocated sized) (taken ++ owned) where
  valid_lt := owns.valid_lt
  nodup := by
    rw [List.nodup_append]
    refine ⟨nodup, owns.nodup, fun frame found other member equal => ?_⟩
    subst equal
    refine (isSet_available.mp (free frame found)).2 ((owns.allocated_iff _).mpr ⟨frame, member, ?_⟩)
    have := above frame found
    omega
  above := List.forall_mem_append.mpr ⟨above, owns.above⟩
  valid := List.forall_mem_append.mpr
    ⟨fun frame found => (isSet_available.mp (free frame found)).1, owns.valid⟩
  allocated_iff := fun index => by
    refine (taken_iff index).trans ?_
    rw [owns.allocated_iff]
    simp only [List.mem_append, or_and_right, exists_or]
    exact or_comm

theorem allocateFrame_spec (owns : Owns allocator owned) :
    (allocator.allocateFrame = (.ok none, allocator) ∧ ∀ index, ¬ allocator.available.IsSet index) ∨
    ∃ frame next index, allocator.allocateFrame = (.ok (some frame), next) ∧
      frame.number = allocator.range.start.number + index ∧
      allocator.available.IsSet index ∧ (∀ earlier < index, ¬ allocator.available.IsSet earlier) ∧
      SameFrames allocator next ∧ Owns next (frame :: owned) := by
  cases found : allocator.available.firstOne with
  | none =>
    refine Or.inl ⟨?_, Bits.firstOne_eq_none.mp found⟩
    rw [allocateFrame, found]
  | some index =>
    obtain ⟨free, first⟩ := Bits.firstOne_eq_some.mp found
    obtain ⟨valid, clear⟩ := isSet_available.mp free
    obtain ⟨frame, frame_eq, number⟩ := owns.toManaged.frame_eq valid
    refine Or.inr ⟨frame, allocator.withAllocated (allocator.allocated.set index true)
      List.length_set, index, ?_, number, free, first, sameFrames_withAllocated _, ?_⟩
    · rw [allocateFrame, found]
      exact Prod.ext frame_eq rfl
    · refine owns.take _ (List.nodup_singleton frame) ?_ ?_ fun other => ?_
      · rw [List.forall_mem_singleton]
        omega
      · rw [List.forall_mem_singleton, number, Nat.add_sub_cancel_left]
        exact free
      · have inside : index < allocator.allocated.length := by
          rw [allocator.allocatedSize, ← allocator.validSize]
          exact valid.lt_length
        rw [Bits.isSet_set]
        split
        · next same =>
          subst same
          simp [inside, number]
        · next different =>
          simp [number, different]

def Hands (allocator : BitmapAllocator size words) (owned : List (PhysFrame size))
    (answer : Outcome Empty (Option (PhysFrameRange size)) × BitmapAllocator size words) : Prop :=
  (answer.2 = allocator ∧ ∀ range, answer.1 ≠ .ok (some range)) ∨
  ∃ range, answer.1 = .ok (some range) ∧ SameFrames allocator answer.2 ∧
    Owns answer.2 (range.frames ++ owned)

theorem allocate_spec (owns : Owns allocator owned) (range : PhysFrameRange size) :
    Hands allocator owned (allocator.allocate range) := by
  rw [allocate]
  split
  · next start finish startIndex finishIndex =>
    obtain ⟨startNumber, -⟩ := of_frameIdx_eq_some startIndex
    obtain ⟨finishNumber, -⟩ := of_frameIdx_eq_some finishIndex
    split
    · exact Or.inl ⟨rfl, nofun⟩
    · next bounded =>
      split
      · next free =>
        rw [Bits.allSet_iff] at free
        have indexed (frame : PhysFrame size) (found : frame ∈ range.frames) :
            start ≤ frame.number - allocator.range.start.number ∧
              frame.number - allocator.range.start.number < finish ∧
              allocator.range.start.number ≤ frame.number := by
          have := PhysFrameRange.mem_frames.mp found
          omega
        refine Or.inr ⟨range, rfl, sameFrames_withAllocated (Bits.length_fill true),
          owns.take (Bits.length_fill true) range.nodup_frames
          (fun frame found => (indexed frame found).2.2)
          (fun frame found => free _ (indexed frame found).1 (indexed frame found).2.1)
          fun index => ?_⟩
        rw [Bits.isSet_fill]
        split
        · next inside =>
          have small : index < allocator.allocated.length := by
            have length := allocator.length_available
            rw [allocator.allocatedSize, ← length]
            exact (free index inside.1 inside.2).lt_length
          obtain ⟨frame, found, number⟩ := range.exists_frame
            (show range.start.number ≤ allocator.range.start.number + index by omega) (by omega)
          exact ⟨fun _ => Or.inr ⟨frame, found, number⟩, fun _ => ⟨rfl, small⟩⟩
        · next outside =>
          refine ⟨Or.inl, ?_⟩
          rintro (already | ⟨frame, found, number⟩)
          · exact already
          · have := indexed frame found
            omega
      · exact Or.inl ⟨rfl, nofun⟩
  · exact Or.inl ⟨rfl, nofun⟩

theorem allocateContiguous_spec (owns : Owns allocator owned) (num : Nat) :
    Hands allocator owned (allocator.allocateContiguous num) := by
  rw [allocateContiguous]
  split
  · exact Or.inl ⟨rfl, nofun⟩
  · split
    · exact Or.inl ⟨rfl, nofun⟩
    · split
      · exact allocate_spec owns _
      · exact Or.inl ⟨rfl, nofun⟩
      · exact Or.inl ⟨rfl, nofun⟩

theorem deallocateFrame_spec (owns : Owns allocator owned) (found : frame ∈ owned) :
    ∃ next, allocator.deallocateFrame frame = (.ok (), next) ∧ SameFrames allocator next ∧
      Owns next (owned.erase frame) ∧
      next.available.IsSet (frame.number - allocator.range.start.number) := by
  have above := owns.above frame found
  have valid := owns.valid frame found
  have below := owns.valid_lt _ valid
  have index := frameIdx_eq above (by omega)
  have allocated : allocator.allocated.IsSet (frame.number - allocator.range.start.number) :=
    (owns.allocated_iff _).mpr ⟨frame, found, by omega⟩
  refine ⟨allocator.withAllocated (allocator.allocated.set
    (frame.number - allocator.range.start.number) false) List.length_set, ?_,
    sameFrames_withAllocated _, ?_, ?_⟩
  · rw [deallocateFrame, index]
    simp only [show allocator.valid[_]? = _ from valid, show allocator.allocated[_]? = _ from allocated]
  · refine ⟨⟨owns.valid_lt⟩, owns.nodup.erase frame,
      fun other member => owns.above other (List.mem_of_mem_erase member),
      fun other member => owns.valid other (List.mem_of_mem_erase member), fun other => ?_⟩
    refine (Bits.isSet_set false other).trans ?_
    split
    · next same =>
      simp only [Bool.false_eq_true, false_and, false_iff, not_exists, not_and]
      intro next member number
      change next.number = allocator.range.start.number + other at number
      have equal : next = frame := PhysFrame.ext (number.trans (by omega))
      exact owns.nodup.not_mem_erase (equal ▸ member)
    · next different =>
      rw [owns.allocated_iff]
      refine exists_congr fun other => and_congr_left fun number => ?_
      rw [owns.nodup.mem_erase_iff]
      refine ⟨fun member => ⟨?_, member⟩, And.right⟩
      rintro rfl
      omega
  · refine isSet_available.mpr ⟨valid, fun still => ?_⟩
    rw [withAllocated, Bits.isSet_set, if_pos rfl] at still
    cases still.1

theorem Owns.pairwise_apart (owns : Owns allocator owned) : owned.Pairwise PhysFrame.Apart :=
  owns.nodup.imp PhysFrame.apart_of_ne

/-- The allocator after so many calls of `allocate_frame`. -/
def afterFrames (allocator : BitmapAllocator size words) : Nat → BitmapAllocator size words
  | 0 => allocator
  | count + 1 => allocator.allocateFrame.2.afterFrames count

def availableBelow (allocator : BitmapAllocator size words) (index : Nat) : Nat :=
  ((Finset.range index).filter fun earlier => allocator.available.IsSet earlier).card

theorem isSet_available_next (owns : Owns allocator owned) {next : BitmapAllocator size words}
    (same : SameFrames allocator next) (ownsNext : Owns next (frame :: owned))
    (number : frame.number = allocator.range.start.number + index) (other : Nat) :
    next.available.IsSet other ↔ allocator.available.IsSet other ∧ other ≠ index := by
  rw [isSet_available, isSet_available, same.valid, ownsNext.allocated_iff, owns.allocated_iff,
    same.range]
  have first : (∃ taken ∈ frame :: owned, taken.number = allocator.range.start.number + other) ↔
      other = index ∨ ∃ taken ∈ owned, taken.number = allocator.range.start.number + other := by
    rw [List.exists_mem_cons_iff, number, Nat.add_left_cancel_iff, eq_comm]
  rw [first, not_or]
  tauto

theorem exists_allocateFrame (owns : Owns allocator owned)
    (above : allocator.range.start.number ≤ frame.number)
    (free : allocator.available.IsSet (frame.number - allocator.range.start.number)) :
    ∃ count, (allocator.afterFrames count).allocateFrame.1 = .ok (some frame) := by
  induction remaining : allocator.availableBelow (frame.number - allocator.range.start.number)
    using Nat.strong_induction_on generalizing allocator owned with
  | _ below ih =>
    rcases allocateFrame_spec owns with ⟨-, none⟩ | ⟨other, next, index, same, number, taken, first,
      sameFrames, ownsNext⟩
    · exact absurd free (none _)
    · by_cases equal : other = frame
      · exact ⟨0, by rw [afterFrames, same, equal]⟩
      · have available := isSet_available_next owns sameFrames ownsNext number
        have different : frame.number - allocator.range.start.number ≠ index := by
          intro sameIndex
          exact equal (PhysFrame.ext (by omega))
        have earlier : index < frame.number - allocator.range.start.number := by
          refine lt_of_le_of_ne (Nat.not_lt.mp fun later => ?_) different.symm
          exact first _ later free
        have fewer : next.availableBelow (frame.number - next.range.start.number) < below := by
          rw [← remaining, sameFrames.range]
          refine Finset.card_lt_card (Finset.ssubset_iff_of_subset ?_ |>.mpr ⟨index, ?_, ?_⟩)
          · intro other
            simp only [Finset.mem_filter, available]
            tauto
          · simp [earlier, taken]
          · simp [available]
        have freeNext : next.available.IsSet (frame.number - next.range.start.number) := by
          rw [sameFrames.range]
          exact (available _).mpr ⟨free, different⟩
        obtain ⟨count, handed⟩ := ih _ fewer ownsNext (sameFrames.range ▸ above) freeNext rfl
        refine ⟨count + 1, ?_⟩
        rw [afterFrames, same]
        exact handed

theorem Owns.perm {other : List (PhysFrame size)} (owns : Owns allocator owned)
    (perm : owned.Perm other) : Owns allocator other where
  valid_lt := owns.valid_lt
  nodup := perm.nodup_iff.mp owns.nodup
  above := fun frame found => owns.above frame (perm.mem_iff.mpr found)
  valid := fun frame found => owns.valid frame (perm.mem_iff.mpr found)
  allocated_iff := fun index => by simp only [owns.allocated_iff, perm.mem_iff]

structure Fresh (allocator : BitmapAllocator size words) : Prop extends Managed allocator where
  clear : ∀ index, ¬ allocator.allocated.IsSet index

theorem Fresh.owns (fresh : Fresh allocator) : Owns allocator [] where
  valid_lt := fresh.valid_lt
  nodup := List.nodup_nil
  above := nofun
  valid := nofun
  allocated_iff := fun index => by simp [fresh.clear index]

variable {range : PhysFrameRange size}

theorem fresh_new (created : new range = .ok allocator) :
    Fresh allocator ∧ allocator.range = range := by
  rw [new] at created
  split at created
  · cases created
  · cases created
    exact ⟨⟨⟨fun index isSet => absurd isSet (Bits.not_isSet_zeros _ _)⟩, Bits.not_isSet_zeros _⟩, rfl⟩

theorem Managed.markValid (managed : Managed allocator) {valid : Bool}
    (marked : allocator.markValid range valid = .ok next) :
    Managed next ∧ next.allocated = allocator.allocated ∧ next.range = allocator.range := by
  rw [BitmapAllocator.markValid] at marked
  split at marked
  · next start finish startIndex finishIndex =>
    split at marked
    · cases marked
    · cases marked
      refine ⟨⟨fun index isSet => ?_⟩, rfl, rfl⟩
      have isSet := (Bits.isSet_fill valid).mp isSet
      split at isSet
      · next inside =>
        have := of_frameIdx_eq_some finishIndex
        change allocator.range.start.number + index < allocator.range.finish.number
        omega
      · exact managed.valid_lt index isSet
  · cases marked

theorem fresh_markValid (fresh : Fresh allocator) {valid : Bool}
    (marked : allocator.markValid range valid = .ok next) :
    Fresh next ∧ next.range = allocator.range := by
  obtain ⟨managed, allocated, sameRange⟩ := fresh.toManaged.markValid marked
  exact ⟨⟨managed, allocated ▸ fresh.clear⟩, sameRange⟩

end BitmapAllocator

namespace PhysicalMemoryAllocator

open BitmapAllocator

variable {words : Nat}

/-- An allocator before its first use, with any frames marked as valid. -/
inductive Prepared : PhysicalMemoryAllocator words → Prop
  | new {range : PhysFrameRange .size2MiB} {allocator : PhysicalMemoryAllocator words}
      (created : newRange range = .ok allocator) : Prepared allocator
  | mark {allocator next : PhysicalMemoryAllocator words} {range : PhysFrameRange .size2MiB}
      {valid : Bool} (prepared : Prepared allocator)
      (marked : allocator.markValid range valid = .ok next) : Prepared next

theorem Prepared.fresh {allocator : PhysicalMemoryAllocator words} (prepared : Prepared allocator) :
    Fresh allocator.largeFrames ∧ allocator.smallFrames = none := by
  induction prepared with
  | new created =>
    obtain ⟨large, large_eq, same⟩ := Outcome.bind_eq_ok.mp created
    cases same
    exact ⟨(fresh_new large_eq).1, rfl⟩
  | mark prepared marked ih =>
    obtain ⟨large, large_eq, same⟩ := Outcome.bind_eq_ok.mp marked
    cases same
    exact ⟨(fresh_markValid ih.1 large_eq).1, ih.2⟩

/-- The allocator of small frames has the frames of a large one. -/
structure Carved (frame : PhysFrame .size2MiB) (small : BitmapAllocator .size4KiB 8) : Prop where
  start : small.range.start.number = frame.number * 512
  finish : small.range.finish.number = frame.number * 512 + 512

theorem numFrames_eq {size : PageSize} {range : PhysFrameRange size} {count : Nat}
    (finish : range.finish.number = range.start.number + count) : numFrames range = count := by
  have bound := range.finish.representable
  rw [finish, Nat.add_mul] at bound
  have distance : range.finish.startAddress + 2 ^ 64 - range.start.startAddress =
      count * size.bytes + 2 ^ 64 := by
    rw [PhysFrame.startAddress, PhysFrame.startAddress, finish, Nat.add_mul]
    omega
  rw [numFrames, distance, Nat.add_mod_right, Nat.mod_eq_of_lt (by omega),
    Nat.mul_div_cancel _ size.bytes_pos]

variable {frame : PhysFrame .size2MiB}

theorem carve_spec (room : (frame.number + 1) * PageSize.size2MiB.bytes < 2 ^ 52) :
    ∃ small, carve frame = .ok small ∧ Carved frame small ∧ Fresh small ∧
      small.available.IsSet 0 := by
  have representable : (frame.number * 512 + 512) * PageSize.size4KiB.bytes < 2 ^ 52 := by
    have same : (frame.number * 512 + 512) * PageSize.size4KiB.bytes =
        (frame.number + 1) * PageSize.size2MiB.bytes := by
      simp only [PageSize.bytes]
      omega
    rw [same]
    exact room
  have added : (firstSmall frame).add 512 = .ok ⟨frame.number * 512 + 512, representable⟩ :=
    dif_pos representable
  obtain ⟨range, range_eq⟩ : ∃ range : PhysFrameRange .size4KiB,
      range = ⟨firstSmall frame, ⟨frame.number * 512 + 512, representable⟩⟩ := ⟨_, rfl⟩
  have start : range.start.number = frame.number * 512 := by
    rw [range_eq]
    rfl
  have finish : range.finish.number = range.start.number + 512 := by
    rw [start, range_eq]
  have count := numFrames_eq finish
  cases created : (BitmapAllocator.new range : Outcome Empty (BitmapAllocator .size4KiB 8)) with
  | error fault =>
    rw [BitmapAllocator.new, if_neg (by rw [count]; decide)] at created
    cases created
  | ok empty =>
    obtain ⟨fresh, sameRange⟩ := fresh_new created
    have first := @frameIdx_eq _ _ empty range.start (by rw [sameRange]) (by rw [sameRange]; omega)
    have last := @frameIdx_eq _ _ empty range.finish (by rw [sameRange]; omega) (by rw [sameRange])
    rw [sameRange, Nat.sub_self] at first
    rw [sameRange, finish, Nat.add_sub_cancel_left] at last
    have length := empty.validSize
    cases marked : empty.markValid range true with
    | error fault =>
      rw [BitmapAllocator.markValid, first, last] at marked
      simp only [length] at marked
      cases marked
    | ok small =>
      obtain ⟨freshSmall, sameSmall⟩ := fresh_markValid fresh marked
      refine ⟨small, ?_, ⟨?_, ?_⟩, freshSmall, isSet_available.mpr ⟨?_, freshSmall.clear 0⟩⟩
      · rw [carve, added, Outcome.ok_bind, ← range_eq]
        exact Outcome.bind_eq_ok.mpr ⟨empty, created, marked⟩
      · rw [sameSmall, sameRange, start]
      · rw [sameSmall, sameRange, finish, start]
      · rw [BitmapAllocator.markValid, first, last] at marked
        simp only [length] at marked
        cases marked
        refine (Bits.isSet_fill true).mpr ?_
        rw [if_pos (by decide), length]
        decide

/-- What an allocator and its users agree on: the frames that are in use, and the large one that
the small ones are taken from. -/
def Agrees (allocator : PhysicalMemoryAllocator words) (large : List (PhysFrame .size2MiB))
    (small : List (PhysFrame .size4KiB)) : Prop :=
  match allocator.smallFrames with
  | none => Owns allocator.largeFrames large ∧ small = []
  | some smallFrames => ∃ reserved, Owns allocator.largeFrames (reserved :: large) ∧
      Carved reserved smallFrames ∧ Owns smallFrames small

/-- A large frame is the one that small frames are taken from. -/
def Reserved (allocator : PhysicalMemoryAllocator words) (frame : PhysFrame .size2MiB) : Prop :=
  ∃ smallFrames, allocator.smallFrames = some smallFrames ∧
    smallFrames.range.start.startAddress = frame.startAddress

theorem startAddress_inj {other : PhysFrame .size2MiB}
    (same : frame.startAddress = other.startAddress) : frame = other :=
  PhysFrame.ext (Nat.eq_of_mul_eq_mul_right (PageSize.bytes_pos .size2MiB) same)

variable {small : BitmapAllocator .size4KiB 8}

theorem Carved.startAddress_eq (carved : Carved frame small) :
    small.range.start.startAddress = frame.startAddress := by
  rw [PhysFrame.startAddress, carved.start, Nat.mul_assoc]
  rfl

theorem Carved.eq_of_start {other : PhysFrame .size2MiB}
    (carved : Carved frame small) (starts : small.range.start.startAddress = other.startAddress) :
    other = frame :=
  startAddress_inj (starts.symm.trans carved.startAddress_eq)

/-- What no call changes. -/
structure Keeps (allocator next : PhysicalMemoryAllocator words) : Prop where
  frames : SameFrames allocator.largeFrames next.largeFrames
  reserved : ∀ frame, Reserved allocator frame → Reserved next frame

section Calls

variable {allocator : PhysicalMemoryAllocator words} {large : List (PhysFrame .size2MiB)}
  {small : List (PhysFrame .size4KiB)}

section

variable (agrees : Agrees allocator large small)

include agrees

/-- A call of the allocator of large frames leaves alone the frame that the small ones are in. -/
theorem Agrees.onLarge :
    ∃ kept, Owns allocator.largeFrames (kept ++ large) ∧
      (∀ frame, Reserved allocator frame → frame ∈ kept) ∧
      ∀ largeFrames others, SameFrames allocator.largeFrames largeFrames →
        Owns largeFrames (kept ++ others) →
        Agrees { allocator with largeFrames } others small ∧
          Keeps allocator { allocator with largeFrames } := by
  obtain ⟨largeFrames, smallFrames⟩ := allocator
  cases smallFrames with
  | none =>
    obtain ⟨owns, rfl⟩ := agrees
    refine ⟨[], owns, ?_, fun _ _ same owns => ⟨⟨owns, rfl⟩, same, fun _ => id⟩⟩
    rintro frame ⟨smallFrames, found, -⟩
    cases found
  | some smallFrames =>
    obtain ⟨reserved, owns, carved, ownsSmall⟩ := agrees
    refine ⟨[reserved], owns, ?_, fun _ _ same owns =>
      ⟨⟨reserved, owns, carved, ownsSmall⟩, same, fun _ => id⟩⟩
    rintro frame ⟨_, found, starts⟩
    cases found
    rw [List.mem_singleton]
    exact carved.eq_of_start starts

theorem Agrees.take
    {largeFrames : BitmapAllocator .size2MiB words} {taken : List (PhysFrame .size2MiB)}
    (same : SameFrames allocator.largeFrames largeFrames)
    (owns : ∀ kept, Owns allocator.largeFrames (kept ++ large) →
      Owns largeFrames (taken ++ (kept ++ large))) :
    Agrees { allocator with largeFrames } (taken ++ large) small ∧
      Keeps allocator { allocator with largeFrames } ∧
      ∀ frame, Reserved allocator frame → frame ∉ taken := by
  obtain ⟨kept, ownsKept, isKept, onLarge⟩ := agrees.onLarge
  have ownsTaken := owns kept ownsKept
  have perm : (taken ++ (kept ++ large)).Perm (kept ++ (taken ++ large)) := by
    rw [← List.append_assoc, ← List.append_assoc]
    exact List.perm_append_comm.append_right large
  obtain ⟨agreesNext, keeps⟩ := onLarge largeFrames _ same (ownsTaken.perm perm)
  refine ⟨agreesNext, keeps, fun frame isReserved found => ?_⟩
  exact (List.nodup_append.mp ownsTaken.nodup).2.2 frame found frame
    (List.mem_append_left large (isKept frame isReserved)) rfl

theorem allocateLargeFrame_spec : (allocator.allocateLargeFrame = (.ok none, allocator) ∧
      ∀ index, ¬ allocator.largeFrames.available.IsSet index) ∨
    ∃ frame next, allocator.allocateLargeFrame = (.ok (some frame), next) ∧
      Agrees next (frame :: large) small ∧ Keeps allocator next ∧ ¬ Reserved allocator frame ∧
      frame.number < allocator.largeFrames.range.finish.number ∧
      next.smallFrames = allocator.smallFrames ∧
      ∃ index, frame.number = allocator.largeFrames.range.start.number + index ∧
        allocator.largeFrames.available.IsSet index ∧
        ∀ other, next.largeFrames.available.IsSet other ↔
          allocator.largeFrames.available.IsSet other ∧ other ≠ index := by
  obtain ⟨kept, ownsKept, -, -⟩ := agrees.onLarge
  rcases allocateFrame_spec ownsKept with ⟨same, empty⟩ |
    ⟨frame, largeFrames, index, same, number, free, -, sameFrames, ownsNext⟩
  · left
    rw [allocateLargeFrame, onLarge, same]
    exact ⟨rfl, empty⟩
  · right
    have taken (kept : List (PhysFrame .size2MiB))
        (owns : Owns allocator.largeFrames (kept ++ large)) :
        Owns largeFrames ([frame] ++ (kept ++ large)) := by
      rcases allocateFrame_spec owns with ⟨none, -⟩ | ⟨_, _, _, again, -, -, -, -, ownsNext⟩
      · rw [same] at none
        cases none
      · rw [same] at again
        cases again
        exact ownsNext
    obtain ⟨agreesNext, keeps, apart⟩ := agrees.take sameFrames taken
    refine ⟨frame, { allocator with largeFrames }, ?_, agreesNext, keeps, ?_, ?_, rfl, index, number,
      free, isSet_available_next ownsKept sameFrames ownsNext number⟩
    · rw [allocateLargeFrame, onLarge, same]
    · exact fun isReserved => apart frame isReserved (List.mem_singleton_self frame)
    · rw [number]
      exact ownsKept.valid_lt index (isSet_available.mp free).1

theorem onLarge_hands {call : BitmapAllocator .size2MiB words →
      Outcome Empty (Option (PhysFrameRange .size2MiB)) × BitmapAllocator .size2MiB words}
    (hands : ∀ owned, Owns allocator.largeFrames owned →
      Hands allocator.largeFrames owned (call allocator.largeFrames)) :
    ((allocator.onLarge call).2 = allocator ∧
      ∀ range, (allocator.onLarge call).1 ≠ .ok (some range)) ∨
    ∃ range, (allocator.onLarge call).1 = .ok (some range) ∧
      Agrees (allocator.onLarge call).2 (range.frames ++ large) small ∧
      Keeps allocator (allocator.onLarge call).2 ∧
      ∀ frame, Reserved allocator frame → frame ∉ range.frames := by
  obtain ⟨kept, ownsKept, -, -⟩ := agrees.onLarge
  rcases hands _ ownsKept with ⟨same, failed⟩ | ⟨range, returned, sameFrames, -⟩
  · left
    refine ⟨?_, failed⟩
    rw [PhysicalMemoryAllocator.onLarge]
    simp only [same]
  · refine Or.inr ⟨range, returned, agrees.take sameFrames fun kept owns => ?_⟩
    rcases hands _ owns with ⟨-, failed⟩ | ⟨other, again, -, ownsNext⟩
    · exact absurd returned (failed range)
    · rw [returned] at again
      cases again
      exact ownsNext

theorem deallocateLargeFrame_spec {frame : PhysFrame .size2MiB} (found : frame ∈ large) :
    ∃ next, allocator.deallocateLargeFrame frame = (.ok (), next) ∧
      Agrees next (large.erase frame) small ∧ Keeps allocator next ∧
      next.largeFrames.available.IsSet (frame.number - next.largeFrames.range.start.number) ∧
      next.largeFrames.range.start.number ≤ frame.number := by
  obtain ⟨kept, owns, -, onLarge⟩ := agrees.onLarge
  obtain ⟨largeFrames, same, sameFrames, ownsNext, free⟩ :=
    deallocateFrame_spec owns (List.mem_append_right kept found)
  have apart : frame ∉ kept := fun member =>
    (List.nodup_append.mp owns.nodup).2.2 frame member frame found rfl
  rw [List.erase_append_right _ apart] at ownsNext
  obtain ⟨agreesNext, keeps⟩ := onLarge largeFrames _ sameFrames ownsNext
  refine ⟨{ allocator with largeFrames }, ?_, agreesNext, keeps, ?_, ?_⟩
  · rw [deallocateLargeFrame, PhysicalMemoryAllocator.onLarge, same]
  · rw [sameFrames.range]
    exact free
  · rw [sameFrames.range]
    exact owns.above frame (List.mem_append_right kept found)

theorem allocateSmallFrame_spec : (allocator.allocateSmallFrame.2 = allocator ∧
      ∀ frame, allocator.allocateSmallFrame.1 ≠ .ok (some frame)) ∨
    ∃ frame next, allocator.allocateSmallFrame = (.ok (some frame), next) ∧
      Agrees next large (frame :: small) ∧ Keeps allocator next := by
  cases carved : allocator.smallFrames with
  | some smallFrames =>
    rw [Agrees, carved] at agrees
    obtain ⟨reserved, owns, isCarved, ownsSmall⟩ := agrees
    rcases allocateFrame_spec ownsSmall with ⟨same, -⟩ |
      ⟨frame, next, -, same, -, -, -, sameFrames, ownsNext⟩
    · left
      simp only [allocateSmallFrame, carved, same]
      refine ⟨?_, nofun⟩
      rw [← carved]
    · right
      refine ⟨frame, { allocator with smallFrames := some next }, ?_,
        ⟨reserved, owns, ⟨?_, ?_⟩, ownsNext⟩, SameFrames.refl, ?_⟩
      · simp only [allocateSmallFrame, carved, same]
      · rw [sameFrames.range, isCarved.start]
      · rw [sameFrames.range, isCarved.finish]
      · rintro frame ⟨_, found, starts⟩
        rw [carved] at found
        cases found
        exact ⟨next, rfl, by rw [sameFrames.range, starts]⟩
  | none =>
    rcases allocateLargeFrame_spec agrees with ⟨same, -⟩ |
      ⟨frame, next, same, agreesNext, keeps, -, below, sameSmall, -⟩
    · left
      simp only [allocateSmallFrame, carved, same]
      exact ⟨rfl, nofun⟩
    · have room : (frame.number + 1) * PageSize.size2MiB.bytes < 2 ^ 52 :=
        (Nat.mul_le_mul_right _ below).trans_lt
          allocator.largeFrames.range.finish.representable
      obtain ⟨smallFrames, created, isCarved, fresh, free⟩ := carve_spec room
      rw [Agrees, sameSmall, carved] at agreesNext
      obtain ⟨owns, rfl⟩ := agreesNext
      rcases allocateFrame_spec fresh.owns with ⟨-, none⟩ |
        ⟨first, left, -, sameFirst, -, -, -, sameFrames, ownsFirst⟩
      · exact absurd free (none 0)
      · right
        refine ⟨first, { next with smallFrames := some left }, ?_,
          ⟨frame, owns, ⟨?_, ?_⟩, ownsFirst⟩, keeps.frames, ?_⟩
        · have opened : unwrap (.ok (some frame)) >>= carve = .ok smallFrames := by
            rw [unwrap, Outcome.ok_bind, created]
          simp only [allocateSmallFrame, carved, same, opened, sameFirst]
        · rw [sameFrames.range, isCarved.start]
        · rw [sameFrames.range, isCarved.finish]
        · rintro frame ⟨_, found, -⟩
          rw [carved] at found
          cases found

theorem deallocateSmallFrame_spec {frame : PhysFrame .size4KiB} (found : frame ∈ small) :
    ∃ next smallFrames, allocator.deallocateSmallFrame frame = (.ok (), next) ∧
      Agrees next large (small.erase frame) ∧ Keeps allocator next ∧
      next.smallFrames = some smallFrames ∧
      smallFrames.available.IsSet (frame.number - smallFrames.range.start.number) ∧
      smallFrames.range.start.number ≤ frame.number := by
  cases carved : allocator.smallFrames with
  | none =>
    rw [Agrees, carved] at agrees
    obtain ⟨-, rfl⟩ := agrees
    cases found
  | some smallFrames =>
    rw [Agrees, carved] at agrees
    obtain ⟨reserved, owns, isCarved, ownsSmall⟩ := agrees
    obtain ⟨next, same, sameFrames, ownsNext, free⟩ := deallocateFrame_spec ownsSmall found
    refine ⟨{ allocator with smallFrames := some next }, next, ?_,
      ⟨reserved, owns, ⟨?_, ?_⟩, ownsNext⟩, ⟨SameFrames.refl, ?_⟩, rfl, ?_, ?_⟩
    · simp only [deallocateSmallFrame, carved, same]
    · rw [sameFrames.range, isCarved.start]
    · rw [sameFrames.range, isCarved.finish]
    · rintro frame ⟨_, found, starts⟩
      rw [carved] at found
      cases found
      exact ⟨next, rfl, by rw [sameFrames.range, starts]⟩
    · rw [sameFrames.range]
      exact free
    · rw [sameFrames.range]
      exact ownsSmall.above frame found

end

end Calls

end PhysicalMemoryAllocator

structure Handed where
  large : List (PhysFrame .size2MiB)
  small : List (PhysFrame .size4KiB)
deriving Repr, DecidableEq

inductive AllocatorCall where
  | allocateLargeFrame
  | allocateSmallFrame
  | allocate (range : PhysFrameRange .size2MiB)
  | allocateContiguous (num : Nat)
  | deallocateLargeFrame (frame : PhysFrame .size2MiB)
  | deallocateSmallFrame (frame : PhysFrame .size4KiB)
deriving Repr, DecidableEq

structure MemoryState (words : Nat) where
  allocator : PhysicalMemoryAllocator words
  large : List (PhysFrame .size2MiB)
  small : List (PhysFrame .size4KiB)
deriving Repr, DecidableEq

namespace MemoryState

open BitmapAllocator PhysicalMemoryAllocator

variable {words : Nat}

def receive (state : MemoryState words)
    (answer : Outcome Empty (Option Handed) × PhysicalMemoryAllocator words) :
    Outcome Empty (Option Handed) × MemoryState words :=
  match answer.1 with
  | .ok (some handed) => (answer.1,
      { allocator := answer.2, large := handed.large ++ state.large,
        small := handed.small ++ state.small })
  | _ => (answer.1, { state with allocator := answer.2 })

def answerWith {α : Type} (handed : α → Handed)
    (answer : Outcome Empty (Option α) × PhysicalMemoryAllocator words) :
    Outcome Empty (Option Handed) × PhysicalMemoryAllocator words :=
  (answer.1.map (Option.map handed), answer.2)

/-- A frame leaves its user, unless the call fails. -/
def giveBack (state next : MemoryState words) (outcome : Outcome Empty Unit)
    (allocator : PhysicalMemoryAllocator words) :
    Outcome Empty (Option Handed) × MemoryState words :=
  match outcome with
  | .ok () => (.ok (some ⟨[], []⟩), { next with allocator })
  | .error fault => (.error fault, { state with allocator })

def step (state : MemoryState words) :
    AllocatorCall → Outcome Empty (Option Handed) × MemoryState words
  | .allocateLargeFrame =>
    state.receive (answerWith (fun frame => ⟨[frame], []⟩) state.allocator.allocateLargeFrame)
  | .allocateSmallFrame =>
    state.receive (answerWith (fun frame => ⟨[], [frame]⟩) state.allocator.allocateSmallFrame)
  | .allocate range =>
    state.receive (answerWith (fun range => ⟨range.frames, []⟩) (state.allocator.allocate range))
  | .allocateContiguous num =>
    state.receive
      (answerWith (fun range => ⟨range.frames, []⟩) (state.allocator.allocateContiguous num))
  | .deallocateLargeFrame frame =>
    let (outcome, allocator) := state.allocator.deallocateLargeFrame frame
    state.giveBack { state with large := state.large.erase frame } outcome allocator
  | .deallocateSmallFrame frame =>
    let (outcome, allocator) := state.allocator.deallocateSmallFrame frame
    state.giveBack { state with small := state.small.erase frame } outcome allocator

def Admissible (state : MemoryState words) : AllocatorCall → Prop
  | .deallocateLargeFrame frame => frame ∈ state.large
  | .deallocateSmallFrame frame => frame ∈ state.small
  | _ => True

inductive Reachable (start : PhysicalMemoryAllocator words) : MemoryState words → Prop
  | start : Reachable start ⟨start, [], []⟩
  | call {state : MemoryState words} {call : AllocatorCall} (before : Reachable start state)
      (admissible : state.Admissible call) : Reachable start (state.step call).2

def Failed (outcome : Outcome Empty (Option Handed)) : Prop := ∀ handed, outcome ≠ .ok (some handed)

variable {call : AllocatorCall}

section Step

variable {state : MemoryState words}
  {answer : Outcome Empty (Option Handed) × PhysicalMemoryAllocator words}

@[simp] theorem receive_allocator : (state.receive answer).2.allocator = answer.2 := by
  rcases answer with ⟨_ | _ | _, _⟩ <;> rfl

/-- A call fails and changes nothing, or it hands out frames that are free and not reserved. -/
inductive Stepped (state : MemoryState words) :
    Outcome Empty (Option Handed) × MemoryState words → Prop
  | failed {outcome : Outcome Empty (Option Handed)} (nothing : Failed outcome) :
      Stepped state (outcome, state)
  | done {handed : Handed} {next : MemoryState words}
      (agrees : Agrees next.allocator next.large next.small)
      (keeps : Keeps state.allocator next.allocator)
      (apart : ∀ frame, Reserved state.allocator frame → frame ∉ handed.large) :
      Stepped state (.ok (some handed), next)

theorem stepped_failed {α : Type} {handed : α → Handed}
    {answer : Outcome Empty (Option α) × PhysicalMemoryAllocator words}
    (same : answer.2 = state.allocator) (failed : ∀ value, answer.1 ≠ .ok (some value)) :
    Stepped state (state.receive (answerWith handed answer)) := by
  rcases answer with ⟨fault | _ | value, _⟩
  · cases same
    exact .failed nofun
  · cases same
    exact .failed nofun
  · exact absurd rfl (failed value)

theorem stepped_range (agrees : Agrees state.allocator state.large state.small)
    {call : BitmapAllocator .size2MiB words →
      Outcome Empty (Option (PhysFrameRange .size2MiB)) × BitmapAllocator .size2MiB words}
    (hands : ∀ owned, Owns state.allocator.largeFrames owned →
      Hands state.allocator.largeFrames owned (call state.allocator.largeFrames)) :
    Stepped state (state.receive
      (answerWith (fun range => ⟨range.frames, []⟩) (state.allocator.onLarge call))) := by
  have spec := onLarge_hands agrees hands
  generalize state.allocator.onLarge call = answer at spec
  obtain ⟨outcome, allocator⟩ := answer
  rcases spec with ⟨same, failed⟩ | ⟨range, rfl, agreesNext, keeps, apart⟩
  · exact stepped_failed same failed
  · exact .done agreesNext keeps apart

theorem step_spec (agrees : Agrees state.allocator state.large state.small)
    (admissible : state.Admissible call) : Stepped state (state.step call) := by
  cases call with
  | allocateLargeFrame =>
    rcases allocateLargeFrame_spec agrees with ⟨same, -⟩ |
      ⟨frame, next, same, agreesNext, keeps, apart, -, -⟩
    · exact stepped_failed (by rw [same]) (by rw [same]; exact nofun)
    · rw [step, same]
      refine .done agreesNext keeps fun other isReserved found => ?_
      rw [List.mem_singleton.mp found] at isReserved
      exact apart isReserved
  | allocateSmallFrame =>
    rcases allocateSmallFrame_spec agrees with ⟨same, failed⟩ | ⟨frame, next, same, agreesNext, keeps⟩
    · exact stepped_failed same failed
    · rw [step, same]
      exact .done agreesNext keeps fun _ _ => List.not_mem_nil
  | allocate range => exact stepped_range agrees fun _ owns => allocate_spec owns range
  | allocateContiguous num => exact stepped_range agrees fun _ owns => allocateContiguous_spec owns num
  | deallocateLargeFrame frame =>
    obtain ⟨next, same, agreesNext, keeps, -, -⟩ := deallocateLargeFrame_spec agrees admissible
    rw [step, same]
    exact .done agreesNext keeps fun _ _ => List.not_mem_nil
  | deallocateSmallFrame frame =>
    obtain ⟨next, _, same, agreesNext, keeps, -, -, -⟩ := deallocateSmallFrame_spec agrees admissible
    rw [step, same]
    exact .done agreesNext keeps fun _ _ => List.not_mem_nil

end Step

structure Consistent (start : PhysicalMemoryAllocator words) (state : MemoryState words) : Prop where
  agrees : Agrees state.allocator state.large state.small
  frames : SameFrames start.largeFrames state.allocator.largeFrames

variable {start : PhysicalMemoryAllocator words} {state : MemoryState words}

theorem consistent_step (consistent : Consistent start state)
    (admissible : state.Admissible call) : Consistent start (state.step call).2 := by
  have stepped := step_spec consistent.agrees admissible
  generalize state.step call = answer at stepped
  cases stepped with
  | failed => exact consistent
  | done agrees keeps apart =>
    exact ⟨agrees, keeps.frames.valid.trans consistent.frames.valid,
      keeps.frames.range.trans consistent.frames.range⟩

theorem reachable_consistent (prepared : start.Prepared) (reachable : Reachable start state) :
    Consistent start state := by
  induction reachable with
  | start =>
    obtain ⟨fresh, none⟩ := prepared.fresh
    refine ⟨?_, SameFrames.refl⟩
    rw [Agrees, none]
    exact ⟨fresh.owns, rfl⟩
  | call before admissible ih => exact consistent_step ih admissible

/-- The frame was marked as valid before the first call. -/
def Marked (start : PhysicalMemoryAllocator words) (frame : PhysFrame .size2MiB) : Prop :=
  ∃ index, start.largeFrames.frameIdx frame = some index ∧ start.largeFrames.valid.IsSet index

def Within (frame : PhysFrame .size4KiB) (large : PhysFrame .size2MiB) : Prop :=
  large.startAddress ≤ frame.startAddress ∧
    frame.startAddress + PageSize.size4KiB.bytes ≤ large.startAddress + PageSize.size2MiB.bytes

structure Safe (start : PhysicalMemoryAllocator words) (state : MemoryState words) : Prop where
  large : state.large.Pairwise PhysFrame.Apart
  small : state.small.Pairwise PhysFrame.Apart
  across : ∀ frame ∈ state.large, ∀ other ∈ state.small, frame.Apart other
  marked : ∀ frame ∈ state.large, Marked start frame
  carved : ∀ frame ∈ state.small, ∃ reserved, state.allocator.Reserved reserved ∧ Within frame reserved
  reserved : ∀ frame, state.allocator.Reserved frame → Marked start frame ∧ frame ∉ state.large

variable {frame : PhysFrame .size2MiB}

theorem marked_of_owns (frames : SameFrames start.largeFrames state.allocator.largeFrames)
    {owned : List (PhysFrame .size2MiB)} (owns : Owns state.allocator.largeFrames owned)
    (found : frame ∈ owned) : Marked start frame := by
  have above := owns.above frame found
  have valid := owns.valid frame found
  have below := owns.valid_lt _ valid
  rw [frames.range] at above valid below
  rw [frames.valid] at valid
  exact ⟨_, frameIdx_eq above (by omega), valid⟩

variable {small : BitmapAllocator .size4KiB 8} {reserved : PhysFrame .size2MiB}

theorem within_of_carved (isCarved : Carved reserved small) {owned : List (PhysFrame .size4KiB)} (owns : Owns small owned)
    {frame : PhysFrame .size4KiB} (found : frame ∈ owned) : Within frame reserved := by
  have above := owns.above frame found
  have below := owns.valid_lt _ (owns.valid frame found)
  rw [isCarved.start] at above below
  rw [isCarved.finish] at below
  simp only [Within, PhysFrame.startAddress, PageSize.bytes]
  omega

theorem apart_of_within {other : PhysFrame .size4KiB}
    (within : Within other reserved) (different : frame ≠ reserved) : frame.Apart other := by
  rcases PhysFrame.apart_of_ne different with before | after
  · exact Or.inl (before.trans within.1)
  · exact Or.inr (within.2.trans after)

theorem Consistent.safe (consistent : Consistent start state) : Safe start state := by
  obtain ⟨agrees, frames⟩ := consistent
  obtain ⟨kept, owns, isKept, -⟩ := agrees.onLarge
  obtain ⟨-, nodup, apart⟩ := List.nodup_append.mp owns.nodup
  have isReserved (frame : PhysFrame .size2MiB) (isReserved : state.allocator.Reserved frame) :
      Marked start frame ∧ frame ∉ state.large :=
    ⟨marked_of_owns frames owns (List.mem_append_left _ (isKept frame isReserved)),
      fun found => apart frame (isKept frame isReserved) frame found rfl⟩
  have smallFrames : state.small.Pairwise PhysFrame.Apart ∧ ∀ frame ∈ state.small,
      ∃ reserved, state.allocator.Reserved reserved ∧ Within frame reserved := by
    cases carved : state.allocator.smallFrames with
    | none =>
      rw [Agrees, carved] at agrees
      rw [agrees.2]
      exact ⟨List.Pairwise.nil, List.forall_mem_nil _⟩
    | some smallFrames =>
      rw [Agrees, carved] at agrees
      obtain ⟨reserved, -, isCarved, ownsSmall⟩ := agrees
      exact ⟨ownsSmall.pairwise_apart, fun frame found => ⟨reserved,
        ⟨smallFrames, carved, isCarved.startAddress_eq⟩, within_of_carved isCarved ownsSmall found⟩⟩
  obtain ⟨smallApart, carved⟩ := smallFrames
  refine ⟨nodup.imp PhysFrame.apart_of_ne, smallApart, ?_, ?_, carved, isReserved⟩
  · intro frame found other member
    obtain ⟨reserved, isReserved', within⟩ := carved other member
    refine apart_of_within within ?_
    rintro rfl
    exact (isReserved frame isReserved').2 found
  · exact fun frame found => marked_of_owns frames owns (List.mem_append_right kept found)

structure SafeCall (state : MemoryState words) (call : AllocatorCall) : Prop where
  failed : Failed (state.step call).1 → (state.step call).2 = state
  reserved : ∀ frame, state.allocator.Reserved frame →
    (state.step call).2.allocator.Reserved frame ∧
      ∀ handed, (state.step call).1 = .ok (some handed) → frame ∉ handed.large

theorem Consistent.safeCall (consistent : Consistent start state)
    (admissible : state.Admissible call) : SafeCall state call := by
  have stepped := step_spec consistent.agrees admissible
  refine ⟨?_, ?_⟩ <;> generalize state.step call = answer at stepped
  · cases stepped with
    | failed nothing => exact fun _ => rfl
    | done => exact fun nothing => absurd rfl (nothing _)
  · cases stepped with
    | failed nothing =>
      exact fun frame isReserved => ⟨isReserved, fun handed done => absurd done (nothing handed)⟩
    | done agrees keeps apart =>
      refine fun frame isReserved => ⟨keeps.reserved frame isReserved, fun handed done => ?_⟩
      cases done
      exact apart frame isReserved

theorem after_allocateLargeFrame (state : MemoryState words) (count : Nat) :
    (Runs.after step state (List.replicate count .allocateLargeFrame)).allocator.largeFrames =
      state.allocator.largeFrames.afterFrames count := by
  induction count generalizing state with
  | zero => rfl
  | succ count ih =>
    rw [List.replicate_succ, Runs.after, ih, step, receive_allocator]
    rfl

theorem after_allocateSmallFrame (carved : state.allocator.smallFrames = some small) (count : Nat) :
    (Runs.after step state (List.replicate count .allocateSmallFrame)).allocator.smallFrames =
      some (small.afterFrames count) := by
  induction count generalizing state small with
  | zero => exact carved
  | succ count ih =>
    refine ih ?_
    rw [step, receive_allocator, answerWith, allocateSmallFrame, carved]

/-- After a call some more calls of one kind hand out just this. -/
def Returns (state : MemoryState words) (call : AllocatorCall) (handed : Handed) : Prop :=
  ∃ count, ((Runs.after step state (List.replicate count call)).step call).1 = .ok (some handed)

theorem Consistent.large_returns (consistent : Consistent start state)
    (found : frame ∈ state.large) :
    Returns (state.step (.deallocateLargeFrame frame)).2 .allocateLargeFrame ⟨[frame], []⟩ := by
  obtain ⟨next, same, agrees, -, free, above⟩ := deallocateLargeFrame_spec consistent.agrees found
  obtain ⟨kept, owns, -, -⟩ := agrees.onLarge
  obtain ⟨count, handed⟩ := exists_allocateFrame owns above free
  have freed : (state.step (.deallocateLargeFrame frame)).2 =
      ⟨next, state.large.erase frame, state.small⟩ := by
    rw [step, same]
    rfl
  have after := after_allocateLargeFrame ⟨next, state.large.erase frame, state.small⟩ count
  refine ⟨count, ?_⟩
  rw [freed, step, allocateLargeFrame, onLarge]
  simp only [after, handed]
  rfl

theorem Consistent.small_returns (consistent : Consistent start state)
    {frame : PhysFrame .size4KiB} (found : frame ∈ state.small) :
    Returns (state.step (.deallocateSmallFrame frame)).2 .allocateSmallFrame ⟨[], [frame]⟩ := by
  obtain ⟨next, smallFrames, same, agrees, -, carved, free, above⟩ :=
    deallocateSmallFrame_spec consistent.agrees found
  rw [Agrees, carved] at agrees
  obtain ⟨_, -, -, owns⟩ := agrees
  obtain ⟨count, handed⟩ := exists_allocateFrame owns above free
  have freed : (state.step (.deallocateSmallFrame frame)).2 =
      ⟨next, state.large, state.small.erase frame⟩ := by
    rw [step, same]
    rfl
  have after := @after_allocateSmallFrame _ ⟨next, state.large, state.small.erase frame⟩ _ carved count
  refine ⟨count, ?_⟩
  rw [freed, step, allocateSmallFrame]
  simp only [after, handed]
  rfl

/-- Along every run, for any frames that are valid at first, the frames in use are disjoint and
valid, calls that fail change nothing, and a frame that is given back can be had again. -/
theorem reachable_safe {start : PhysicalMemoryAllocator words} (prepared : start.Prepared)
    {state : MemoryState words} (reachable : Reachable start state) :
    Safe start state ∧ (∀ call, state.Admissible call → SafeCall state call) ∧
      (∀ frame ∈ state.large,
        Returns (state.step (.deallocateLargeFrame frame)).2 .allocateLargeFrame ⟨[frame], []⟩) ∧
      ∀ frame ∈ state.small,
        Returns (state.step (.deallocateSmallFrame frame)).2 .allocateSmallFrame ⟨[], [frame]⟩ := by
  have consistent := reachable_consistent prepared reachable
  exact ⟨consistent.safe, fun call admissible => consistent.safeCall admissible,
    fun frame found => consistent.large_returns found,
    fun frame found => consistent.small_returns found⟩

/-- No run loses memory: a frame that was valid at first is in use, is the one that small frames are
taken from, or is handed out by some further calls. -/
theorem no_frame_lost {start : PhysicalMemoryAllocator words} (prepared : start.Prepared)
    {state : MemoryState words} (reachable : Reachable start state) (marked : Marked start frame) :
    frame ∈ state.large ∨ state.allocator.Reserved frame ∨
      Returns state .allocateLargeFrame ⟨[frame], []⟩ := by
  obtain ⟨agrees, frames⟩ := reachable_consistent prepared reachable
  obtain ⟨index, found, valid⟩ := marked
  obtain ⟨number, -⟩ := of_frameIdx_eq_some found
  rw [← frames.range] at number
  rw [← frames.valid] at valid
  have used : ∃ kept, Owns state.allocator.largeFrames (kept ++ state.large) ∧
      ∀ frame ∈ kept, state.allocator.Reserved frame := by
    rw [Agrees] at agrees
    split at agrees
    · exact ⟨[], agrees.1, List.forall_mem_nil _⟩
    · next small carved =>
      obtain ⟨reserved, owns, isCarved, -⟩ := agrees
      exact ⟨[reserved], owns,
        List.forall_mem_singleton.mpr ⟨small, carved, isCarved.startAddress_eq⟩⟩
  obtain ⟨kept, owns, reserved⟩ := used
  by_cases taken : frame ∈ kept ++ state.large
  · exact (List.mem_append.mp taken).elim (fun held => .inr (.inl (reserved _ held))) .inl
  · have free : state.allocator.largeFrames.available.IsSet index := by
      rw [isSet_available, owns.allocated_iff]
      refine ⟨valid, fun ⟨other, owned, same⟩ => taken ?_⟩
      rwa [PhysFrame.ext (number.trans same.symm)]
    obtain ⟨count, handed⟩ := @exists_allocateFrame _ _ _ _ frame owns (number ▸ Nat.le_add_right _ _)
      (by rwa [number, Nat.add_sub_cancel_left])
    refine .inr (.inr ⟨count, ?_⟩)
    rw [step, allocateLargeFrame, onLarge]
    simp only [after_allocateLargeFrame, handed]
    rfl

def smallMemory : PhysicalMemoryAllocator 1 where
  largeFrames :=
    { allocated := .zeros 64
      valid := List.replicate 64 true
      range := ⟨⟨0, by decide⟩, ⟨64, by decide⟩⟩
      allocatedSize := rfl
      validSize := rfl }
  smallFrames := none

theorem smallMemory_prepared : smallMemory.Prepared := by
  let unmarked : PhysicalMemoryAllocator 1 :=
    { smallMemory with largeFrames := { smallMemory.largeFrames with
        valid := .zeros 64
        validSize := rfl } }
  have created : newRange smallMemory.largeFrames.range = .ok unmarked := by decide
  have marked : unmarked.markValid smallMemory.largeFrames.range true = .ok smallMemory := by
    decide +kernel
  exact .mark (.new created) marked

/-- The first large frame of it, which is in use after one call. -/
theorem first_frame_safe :
    ∃ state : MemoryState 1, state.large = [⟨0, by decide⟩] ∧ Safe smallMemory state ∧
      Returns (state.step (.deallocateLargeFrame ⟨0, by decide⟩)).2 .allocateLargeFrame
        ⟨[⟨0, by decide⟩], []⟩ := by
  have reachable : Reachable smallMemory
      ((⟨smallMemory, [], []⟩ : MemoryState 1).step .allocateLargeFrame).2 := .call .start trivial
  have large : ((⟨smallMemory, [], []⟩ : MemoryState 1).step .allocateLargeFrame).2.large =
      [⟨0, by decide⟩] := by decide +kernel
  obtain ⟨safe, -, again, -⟩ := reachable_safe smallMemory_prepared reachable
  exact ⟨_, large, safe, again _ (by exact List.mem_singleton_self _)⟩

theorem last_frame_not_lost :
    let state := ((⟨smallMemory, [], []⟩ : MemoryState 1).step .allocateLargeFrame).2
    ⟨63, by decide⟩ ∈ state.large ∨ state.allocator.Reserved ⟨63, by decide⟩ ∨
      Returns state .allocateLargeFrame ⟨[⟨63, by decide⟩], []⟩ :=
  no_frame_lost smallMemory_prepared (.call .start trivial) ⟨63, by decide, by decide⟩

end MemoryState

end Oak.Kernel
