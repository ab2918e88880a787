import Oak.Kernel.FrameRuns

namespace Oak.Kernel

open Oak.Data

/-! Frames in a row: `allocate_contiguous` and `largest_available`. -/

namespace BitmapAllocator

/-- The first number of a streak is the least from which all up to its last have the property. -/
structure Streak (holds : Nat → Prop) (ends : Nat × Nat) : Prop where
  nonempty : ends.1 ≤ ends.2
  all : ∀ index, ends.1 ≤ index → index ≤ ends.2 → holds index
  least : ∀ first, (∀ index, first ≤ index → index ≤ ends.2 → holds index) → ends.1 ≤ first

/-- The numbers below the bound have been looked at, and this is the streak of the last one. -/
structure Scanned (holds : Nat → Prop) (bound : Nat) (state : Option (Nat × Nat)) : Prop where
  streak : ∀ ends, state = some ends → Streak holds ends ∧ ends.2 < bound
  none_since : ∀ index < bound, (∀ ends, state = some ends → ends.2 < index) → ¬ holds index

variable {holds : Nat → Prop} {bound : Nat} {state : Option (Nat × Nat)}

theorem streak_single (own : holds bound) (before : 0 < bound → ¬ holds (bound - 1)) :
    Streak holds (bound, bound) where
  nonempty := Nat.le_refl bound
  all index lower upper := by
    cases Nat.le_antisymm upper lower
    exact own
  least first all := by
    by_contra! earlier
    exact before (by omega) (all (bound - 1) (by omega) (by omega))

theorem Scanned.next (scanned : Scanned holds bound state) (own : holds bound) :
    Streak holds (BitmapAllocator.streak state bound) ∧
      (BitmapAllocator.streak state bound).2 = bound := by
  cases state with
  | none =>
    refine ⟨streak_single own fun positive => ?_, rfl⟩
    exact scanned.none_since _ (by omega) nofun
  | some ends =>
    obtain ⟨known, below⟩ := scanned.streak ends rfl
    rw [BitmapAllocator.streak]
    split
    · next follows =>
      refine ⟨⟨by have := known.nonempty; omega, ?_, ?_⟩, rfl⟩
      · intro index lower upper
        rcases Nat.lt_or_ge ends.2 index with last | inside
        · cases (by omega : index = bound)
          exact own
        · exact known.all index lower inside
      · intro first all
        exact known.least first fun index lower upper => all index lower (by omega)
    · next apart =>
      refine ⟨streak_single own fun positive => ?_, rfl⟩
      refine scanned.none_since _ (by omega) fun other same => ?_
      cases same
      omega

theorem Scanned.push (scanned : Scanned holds bound state) (own : holds bound) :
    Scanned holds (bound + 1) (some (BitmapAllocator.streak state bound)) := by
  obtain ⟨next, last⟩ := scanned.next own
  refine ⟨?_, ?_⟩
  · intro ends same
    cases same
    exact ⟨next, by omega⟩
  · intro index below after
    have := after _ rfl
    omega

theorem Scanned.skip (scanned : Scanned holds bound state) (other : ¬ holds bound) :
    Scanned holds (bound + 1) state := by
  refine ⟨fun ends same => ?_, fun index below after => ?_⟩
  · obtain ⟨known, before⟩ := scanned.streak ends same
    exact ⟨known, by omega⟩
  · rcases Nat.lt_succ_iff_lt_or_eq.mp below with before | rfl
    · exact scanned.none_since index before after
    · exact other

/-- Every number with the property ends one of the streaks. -/
theorem streaks_spec {test : Nat → Bool} (count : Nat)
    (scanned : Scanned (test · = true) bound state) :
    (∀ ends ∈ streaks state ((List.range' bound count).filter test), Streak (test · = true) ends) ∧
      ∀ index, bound ≤ index → index < bound + count → test index = true →
        ∃ ends ∈ streaks state ((List.range' bound count).filter test), ends.2 = index := by
  induction count generalizing bound state with
  | zero => exact ⟨nofun, by omega⟩
  | succ count ih =>
    rw [List.range'_succ, List.filter_cons]
    by_cases own : test bound = true
    · obtain ⟨next, last⟩ := scanned.next own
      obtain ⟨sound, complete⟩ := ih (scanned.push own)
      rw [if_pos own]
      refine ⟨List.forall_mem_cons.mpr ⟨next, sound⟩, fun index lower upper found => ?_⟩
      rcases Nat.eq_or_lt_of_le lower with rfl | later
      · exact ⟨_, List.mem_cons_self, last⟩
      · obtain ⟨ends, member, same⟩ := complete index later (by omega) found
        exact ⟨ends, List.mem_cons_of_mem _ member, same⟩
    · obtain ⟨sound, complete⟩ := ih (scanned.skip own)
      rw [if_neg own]
      refine ⟨sound, fun index lower upper found => complete index ?_ (by omega) found⟩
      exact Nat.lt_of_le_of_ne lower fun same => own (same ▸ found)

theorem streaks_iterOnes (bits : Bits) :
    (∀ ends ∈ streaks none bits.iterOnes, Streak bits.IsSet ends) ∧
      ∀ index, bits.IsSet index → ∃ ends ∈ streaks none bits.iterOnes, ends.2 = index := by
  have isSet : bits.IsSet = fun index => (bits[index]? == some true) = true := by
    funext index
    rw [beq_iff_eq, Bits.IsSet]
  have start : Scanned bits.IsSet 0 none := by
    refine ⟨fun _ known => ?_, fun _ earlier => absurd earlier (Nat.not_lt_zero _)⟩
    cases known
  rw [Bits.iterOnes, List.range_eq_range']
  rw [isSet] at start ⊢
  obtain ⟨sound, complete⟩ := streaks_spec bits.length start
  refine ⟨sound, fun index found => complete index index.zero_le ?_ found⟩
  rw [Nat.zero_add]
  exact Bits.IsSet.lt_length (beq_iff_eq.mp found)

variable {size : PageSize} {words num : Nat} {allocator next : BitmapAllocator size words}

/-- So many frames, from this index of the bitmap on, are valid and not allocated. -/
def Run (allocator : BitmapAllocator size words) (start num : Nat) : Prop :=
  ∀ index, start ≤ index → index < start + num → allocator.available.IsSet index

/-- Any state of the bitmaps: the valid frames as they were marked, any of them allocated. -/
inductive Reached : BitmapAllocator size words → Prop
  | new {range : PhysFrameRange size} {allocator : BitmapAllocator size words}
      (created : new range = .ok allocator) : Reached allocator
  | mark {allocator next : BitmapAllocator size words} {range : PhysFrameRange size} {valid : Bool}
      (reached : Reached allocator) (marked : allocator.markValid range valid = .ok next) :
      Reached next
  | allocated {allocator : BitmapAllocator size words} (reached : Reached allocator)
      (allocated : Bits) (sized : allocated.length = allocator.allocated.length) :
      Reached (allocator.withAllocated allocated sized)

theorem Reached.managed (reached : Reached allocator) : Managed allocator := by
  induction reached with
  | new created => exact (fresh_new created).1.toManaged
  | mark _ marked ih => exact (ih.markValid marked).1
  | allocated _ allocated sized ih => exact ⟨ih.valid_lt⟩

/-- The frame after an available one, which is the end of a range, can be named too. -/
theorem Managed.add_eq (managed : Managed allocator) {index : Nat} (frame : PhysFrame size)
    (count : Nat) (isSet : allocator.available.IsSet index)
    (number : frame.number + count = allocator.range.start.number + index + 1) :
    ∃ next, frame.add count = .ok next ∧ next.number = frame.number + count ∧
      next.number ≤ allocator.range.finish.number := by
  have below := managed.valid_lt index (isSet_available.mp isSet).1
  have representable : (frame.number + count) * size.bytes < 2 ^ 52 := by
    rw [number]
    exact (Nat.mul_le_mul_right size.bytes below).trans_lt allocator.range.finish.representable
  exact ⟨⟨_, representable⟩, by rw [PhysFrame.add, dif_pos representable], rfl, number.trans_le below⟩

/-- The range is a run of so many available frames, and what becomes allocated is just it. -/
structure Takes (allocator : BitmapAllocator size words) (num : Nat) (range : PhysFrameRange size)
    (next : BitmapAllocator size words) : Prop where
  length : range.finish.number = range.start.number + num
  frames : SameFrames allocator next
  taken : ∃ start, range.start.number = allocator.range.start.number + start ∧
    allocator.Run start num ∧ ∀ index, next.allocated.IsSet index ↔
      allocator.allocated.IsSet index ∨ (start ≤ index ∧ index < start + num)

/-- What the caller expects of a request for so many frames. -/
def Contiguous (allocator : BitmapAllocator size words) (num : Nat) : Prop :=
  ∃ answer next, allocator.allocateContiguous num = (.ok answer, next) ∧
    (answer.isSome ↔ ∃ start, allocator.Run start num) ∧
    (answer = none → next = allocator) ∧
    ∀ range, answer = some range → allocator.Takes num range next

/-- What the caller expects of the longest run. -/
def Largest (allocator : BitmapAllocator size words) : Prop :=
  ∃ answer, allocator.largestAvailable = .ok answer ∧
    (answer = none → ∀ index, ¬ allocator.available.IsSet index) ∧
    ∀ range, answer = some range → ∃ start num, 0 < num ∧ allocator.Run start num ∧
      range.start.number = allocator.range.start.number + start ∧
      range.finish.number = range.start.number + num ∧
      ∀ other more, allocator.Run other more → more ≤ num

theorem Managed.largest (managed : Managed allocator) : Largest allocator := by
  obtain ⟨sound, complete⟩ := streaks_iterOnes allocator.available
  cases longest : (streaks none allocator.available.iterOnes).reverse.argmax
      fun ends => ends.2 - ends.1 with
  | none =>
    refine ⟨none, by rw [largestAvailable, longest], fun _ index found => ?_, nofun⟩
    rw [List.argmax_eq_none, List.reverse_eq_nil_iff] at longest
    obtain ⟨ends, member, -⟩ := complete index found
    rw [longest] at member
    cases member
  | some ends =>
    have streak := sound ends (List.mem_reverse.mp (List.argmax_mem longest))
    have ordered := streak.nonempty
    obtain ⟨first, first_eq, firstNumber⟩ := managed.frame_eq
      (isSet_available.mp (streak.all _ le_rfl ordered)).1
    have isLast := streak.all _ ordered le_rfl
    obtain ⟨last, last_eq, lastNumber⟩ := managed.frame_eq (isSet_available.mp isLast).1
    obtain ⟨finish, finish_eq, finishNumber, -⟩ := managed.add_eq _ _ isLast (congrArg (· + 1) lastNumber)
    refine ⟨some ⟨first, finish⟩, ?_, nofun, fun range same => ?_⟩
    · rw [largestAvailable, longest]
      simp [first_eq, last_eq, unwrap, finish_eq]
    · cases same
      refine ⟨ends.1, ends.2 + 1 - ends.1, by omega, ?_, firstNumber, ?_, ?_⟩
      · exact fun index lower upper => streak.all index lower (by omega)
      · change finish.number = first.number + _
        omega
      · intro other more run
        rcases Nat.eq_zero_or_pos more with rfl | positive
        · exact Nat.zero_le _
        · obtain ⟨found, member, same⟩ := complete (other + more - 1) (run _ (by omega) (by omega))
          have fits := List.le_of_mem_argmax (List.mem_reverse.mpr member) longest
          have starts := (sound found member).least other fun index lower upper =>
            run index lower (by omega)
          omega

theorem allSet_iff_run {start : Nat} :
    allocator.available.allSet start (start + num) = true ↔ allocator.Run start num :=
  Bits.allSet_iff

/-- The first window of available frames is taken, unless it ends at the end of the bitmap. -/
theorem Managed.allocate_window (managed : Managed allocator) {start : Nat} (positive : num ≠ 0)
    (found : allocator.available.firstWindow num = some start)
    (inside : start + num < words * 64) :
    ∃ range next, allocator.allocateContiguous num = (.ok (some range), next) ∧
      allocator.Takes num range next := by
  obtain ⟨-, free, -⟩ := Bits.firstWindow_eq_some.mp found
  have run := allSet_iff_run.mp free
  have isFirst := run start le_rfl (by omega)
  have isLast := run (start + num - 1) (by omega) (by omega)
  obtain ⟨first, first_eq, firstNumber⟩ := managed.frame_eq (isSet_available.mp isFirst).1
  obtain ⟨finish, finish_eq, finishNumber, below⟩ := managed.add_eq allocator.range.start
    (start + num) isLast (by omega)
  have after_eq : allocator.frame (start + num) = .ok (some finish) := by
    rw [BitmapAllocator.frame, allocator.validSize, if_neg (by omega), finish_eq]
    rfl
  have sized : (allocator.allocated.fill start (start + num) true).length =
    allocator.allocated.length := Bits.length_fill true
  refine ⟨⟨first, finish⟩, allocator.withAllocated _ sized, ?_, ?_, sameFrames_withAllocated _,
    start, firstNumber, run, fun index => ?_⟩
  · rw [allocateContiguous, if_neg positive, found]
    simp only [first_eq, after_eq, unwrap]
    have atFirst : allocator.frameIdx first = _ := frameIdx_eq (by omega) (by omega)
    have atFinish : allocator.frameIdx finish = _ := frameIdx_eq (by omega) below
    rw [allocate, atFirst, atFinish, firstNumber, finishNumber,
      Nat.add_sub_cancel_left, Nat.add_sub_cancel_left]
    simp only [free, allocator.length_available]
    rw [if_neg (by omega), if_pos trivial]
  · change finish.number = first.number + num
    omega
  · refine (Bits.isSet_fill true).trans ?_
    split
    · next own =>
      have := (run index own.1 own.2).lt_length
      rw [allocator.length_available, ← allocator.allocatedSize] at this
      exact iff_of_true ⟨rfl, this⟩ (Or.inr own)
    · next other => exact (or_iff_left other).symm

theorem panics_at_the_end {start : Nat} (positive : num ≠ 0)
    (found : allocator.available.firstWindow num = some start)
    (last : start + num = words * 64) : ¬ Contiguous allocator num := by
  intro contiguous
  obtain ⟨answer, next, returned, -⟩ := contiguous
  rw [allocateContiguous, if_neg positive, found] at returned
  have none_eq : allocator.frame (start + num) = .ok none := by
    rw [BitmapAllocator.frame, allocator.validSize, if_pos (by omega)]
  dsimp only at returned
  rw [none_eq] at returned
  generalize unwrap (allocator.frame start) = first at returned
  cases first <;> cases returned

theorem Managed.contiguous_iff (managed : Managed allocator) (num : Nat) :
    Contiguous allocator num ↔ num ≠ 0 ∧ (allocator.Run (words * 64 - num) num →
      ∃ start, start + num < words * 64 ∧ allocator.Run start num) := by
  by_cases positive : num = 0
  · refine iff_of_false (fun contiguous => ?_) fun holds => holds.1 positive
    obtain ⟨answer, next, returned, -⟩ := contiguous
    rw [allocateContiguous, if_pos positive] at returned
    cases returned
  have bounded {start : Nat} (run : allocator.Run start num) : start + num ≤ words * 64 := by
    have := (run (start + num - 1) (by omega) (by omega)).lt_length
    rw [allocator.length_available] at this
    omega
  cases found : allocator.available.firstWindow num with
  | none =>
    have free {start : Nat} : ¬ allocator.Run start num := by
      intro run
      have := bounded run
      refine Bits.firstWindow_eq_none.mp found start ?_ (allSet_iff_run.mpr run)
      rw [allocator.length_available]
      omega
    refine iff_of_true ⟨none, allocator, ?_, ?_, fun _ => rfl, fun _ same => ?_⟩
      ⟨positive, fun run => ?_⟩
    · rw [allocateContiguous, if_neg positive, found]
    · exact iff_of_false Bool.false_ne_true fun runs => free runs.choose_spec
    · cases same
    · exact absurd run free
  | some start =>
    obtain ⟨fits, all, first⟩ := Bits.firstWindow_eq_some.mp found
    have run := allSet_iff_run.mp all
    rcases Nat.lt_or_eq_of_le (bounded run) with inside | last
    · obtain ⟨range, next, returned, takes⟩ := managed.allocate_window positive found inside
      refine iff_of_true ⟨some range, next, returned, ?_, fun none => ?_,
        fun other same => ?_⟩ ⟨positive, fun _ => ⟨start, inside, run⟩⟩
      · exact iff_of_true rfl ⟨start, run⟩
      · cases none
      · cases same
        exact takes
    · refine iff_of_false (panics_at_the_end positive found last) fun holds => ?_
      obtain ⟨other, inside, free⟩ := holds.2 (by rwa [← last, Nat.add_sub_cancel])
      exact first other (by omega) (allSet_iff_run.mpr free)

theorem contiguous_and_largest_iff (allocator : BitmapAllocator size words)
    (reached : Reached allocator) (num : Nat) :
    Contiguous allocator num ∧ Largest allocator ↔
      num ≠ 0 ∧ (allocator.Run (words * 64 - num) num →
        ∃ start, start + num < words * 64 ∧ allocator.Run start num) := by
  rw [and_iff_left reached.managed.largest]
  exact reached.managed.contiguous_iff num

/-- Memory of 64 frames, all of them valid. -/
def oneWord : BitmapAllocator .size2MiB 1 := MemoryState.smallMemory.largeFrames

theorem oneWord_reached : Reached oneWord := by
  have created : BitmapAllocator.new oneWord.range =
      .ok { oneWord with valid := .zeros 64, validSize := rfl } := by decide
  have marked : BitmapAllocator.markValid { oneWord with valid := .zeros 64, validSize := rfl }
      oneWord.range true = .ok oneWord := by decide +kernel
  exact .mark (.new created) marked

/-- All of it can be allocated frame by frame, but not at once. -/
theorem whole_memory_not_contiguous :
    Reached oneWord ∧ oneWord.Run 0 64 ∧ (oneWord.allocateContiguous 64).1.IsPanic :=
  ⟨oneWord_reached, allSet_iff_run.mp (by decide +kernel), by decide +kernel⟩

theorem half_memory_contiguous : Reached oneWord ∧ Contiguous oneWord 32 ∧ Largest oneWord := by
  refine ⟨oneWord_reached, (contiguous_and_largest_iff oneWord oneWord_reached 32).mpr ?_⟩
  exact ⟨by decide, fun _ => ⟨0, by decide, allSet_iff_run.mp (by decide +kernel)⟩⟩

end BitmapAllocator

end Oak.Kernel
