import Oak.Stage0.E820Insert

namespace Oak.Stage0

open Oak.Data

/-! The gap that the firmware carves into the memory map, and what wrapping ends do to insertion. -/

namespace BootE820Entry

variable {entry : BootE820Entry}

theorem endAddr_lt_of_not_normal (wraps : ¬ entry.Normal) : entry.endAddr < entry.addr := by
  have size := entry.size.toNat_lt
  simp only [BootE820Entry.Normal, span] at wraps
  rw [UInt64.lt_iff_toNat_lt, endAddr, UInt64.toNat_add]
  omega

theorem normal_of_addr_le (forward : entry.addr ≤ entry.endAddr) : entry.Normal := by
  by_contra wraps
  exact UInt64.not_lt.mpr forward (endAddr_lt_of_not_normal wraps)

theorem Normal.addr_le (normal : entry.Normal) : entry.addr ≤ entry.endAddr := by
  rw [UInt64.le_iff_toNat_le, normal.endAddr]
  exact entry.start_le_stop

theorem normal_setSize {finish : UInt64} (after : entry.addr ≤ finish) :
    (entry.setSize (finish - entry.addr)).Normal := by
  rw [BootE820Entry.Normal, span_setSize after]
  exact finish.toNat_lt

theorem normal_setStart {start finish : UInt64} (before : start ≤ finish) :
    ((entry.setSize (finish - start)).setAddr start).Normal := by
  rw [BootE820Entry.Normal, span_setStart before]
  exact finish.toNat_lt

@[simp] theorem endAddr_setSize (entry : BootE820Entry) (finish : UInt64) :
    (entry.setSize (finish - entry.addr)).endAddr = finish := by
  rw [endAddr, setSize, UInt64.add_comm, UInt64.sub_add_cancel]

@[simp] theorem endAddr_setStart (entry : BootE820Entry) (start finish : UInt64) :
    ((entry.setSize (finish - start)).setAddr start).endAddr = finish := by
  rw [endAddr, setSize, setAddr, UInt64.add_comm, UInt64.sub_add_cancel]

end BootE820Entry

namespace E820Table

open BootE820Entry

variable {entry far : BootE820Entry} {rest table : E820Table}

theorem absorbRest_induction (grows others : BootE820Entry → Prop)
    (merge : ∀ entry next, grows entry → others next → entry.endAddr < next.endAddr →
      grows (entry.setSize (next.endAddr - entry.addr)))
    (shrink : ∀ entry next, grows entry → others next → entry.endAddr < next.endAddr →
      others ((next.setSize (next.endAddr - entry.endAddr)).setAddr entry.endAddr))
    (start : grows entry) (all : ∀ next ∈ rest, others next) :
    grows (absorbRest entry rest).1 ∧ ∀ next ∈ (absorbRest entry rest).2, others next := by
  induction rest generalizing entry with
  | nil => exact ⟨start, nofun⟩
  | cons next rest ih =>
    obtain ⟨first, later⟩ := List.forall_mem_cons.mp all
    rw [absorbRest]
    split
    · split
      · exact ih start later
      · next longer =>
        have longer := UInt64.not_le.mp longer
        split
        · exact ih (merge entry next start first longer) later
        · obtain ⟨grown, left⟩ := ih start later
          exact ⟨grown, List.forall_mem_cons.mpr ⟨shrink entry next start first longer, left⟩⟩
    · exact ⟨start, all⟩

theorem absorbRest_normal (normal : entry.Normal)
    (known : ∀ next ∈ rest, next ∈ table ∨ next.Normal) :
    ((absorbRest entry rest).1.Normal ∧ (absorbRest entry rest).1.addr = entry.addr ∧
      entry.endAddr ≤ (absorbRest entry rest).1.endAddr) ∧
      ∀ next ∈ (absorbRest entry rest).2, next ∈ table ∨ next.Normal := by
  refine absorbRest_induction
    (fun grown => grown.Normal ∧ grown.addr = entry.addr ∧ entry.endAddr ≤ grown.endAddr)
    (fun next => next ∈ table ∨ next.Normal) ?_ ?_ ⟨normal, rfl, UInt64.le_refl _⟩ known
  · rintro grown next ⟨grownNormal, addr, forward⟩ - longer
    have later : grown.addr ≤ next.endAddr :=
      UInt64.le_trans grownNormal.addr_le (UInt64.le_of_lt longer)
    refine ⟨normal_setSize later, addr, ?_⟩
    rw [endAddr_setSize]
    exact UInt64.le_trans forward (UInt64.le_of_lt longer)
  · intro grown next _ _ longer
    exact Or.inr (normal_setStart (UInt64.le_of_lt longer))

theorem absorbRest_apart (normal : entry.Normal) (sorted : Sorted (absorbRest entry rest).2)
    (found : far ∈ (absorbRest entry rest).2) (wraps : ¬ far.Normal) :
    (absorbRest entry rest).1.endAddr < far.addr := by
  induction rest generalizing entry with
  | nil => cases found
  | cons next rest ih =>
    rw [absorbRest] at sorted found ⊢
    split at sorted
    · next reach =>
      rw [if_pos reach] at found ⊢
      split at sorted
      · next covered =>
        rw [if_pos covered] at found ⊢
        exact ih normal sorted found
      · next longer =>
        rw [if_neg longer] at found ⊢
        have longer := UInt64.le_of_lt (UInt64.not_le.mp longer)
        split at sorted
        · next sameType =>
          rw [if_pos sameType] at found ⊢
          exact ih (normal_setSize (UInt64.le_trans normal.addr_le longer)) sorted found
        · next otherType =>
          rw [if_neg otherType] at found ⊢
          rcases List.mem_cons.mp found with rfl | later
          · exact absurd (normal_setStart longer) wraps
          · exact ih normal (List.pairwise_cons.mp sorted).2 later
    · next apart =>
      rw [if_neg apart] at found ⊢
      have apart := UInt64.not_le.mp apart
      rcases List.mem_cons.mp found with rfl | later
      · exact apart
      · exact UInt64.lt_of_lt_of_le apart ((List.pairwise_cons.mp sorted).1 far later)

variable {result : E820Table}

theorem insertE820Entry_normal (normal : entry.Normal)
    (returned : insertE820Entry table entry = .ok result) :
    ∃ front whole rest, result = front ++ absorbed whole rest ∧ whole.Normal ∧
      whole.addr ≤ entry.addr ∧ entry.endAddr ≤ whole.endAddr ∧
      (∀ other ∈ front, (other ∈ table ∧ other.addr < entry.addr) ∨ other.Normal) ∧
      ∀ other ∈ rest, other ∈ table ∨ other.Normal := by
  obtain ⟨before, after, rfl, below, above⟩ := exists_split table entry
  have same := eq_insertBetween below above returned
  have known : ∀ other ∈ before, (other ∈ before ++ after ∧ other.addr < entry.addr) ∨ other.Normal :=
    fun other found => Or.inl ⟨List.mem_append_left after found, below other found⟩
  have knownAfter : ∀ other ∈ after, other ∈ before ++ after ∨ other.Normal :=
    fun other found => Or.inl (List.mem_append_right before found)
  rw [same]
  rcases List.eq_nil_or_concat' before with rfl | ⟨init, previous, rfl⟩
  · exact ⟨[], entry, after, rfl, normal, UInt64.le_refl _, UInt64.le_refl _, nofun, knownAfter⟩
  · simp only [insertBetween, List.getLast?_append_cons, List.getLast?_singleton,
      List.dropLast_concat]
    have knownInit : ∀ other ∈ init,
        (other ∈ init ++ [previous] ++ after ∧ other.addr < entry.addr) ∨ other.Normal :=
      fun other found => known other (List.mem_append_left _ found)
    have starts : previous.addr ≤ entry.addr := UInt64.le_of_lt (below previous (by simp))
    split
    · next reaches =>
      have previousNormal := normal_of_addr_le (UInt64.le_trans starts reaches)
      split
      · refine ⟨init, _, after, rfl, ?_, ?_, ?_, knownInit, knownAfter⟩
        · split
          · exact normal_setSize (UInt64.le_trans starts normal.addr_le)
          · exact previousNormal
        · split <;> exact starts
        · split
          · rw [endAddr_setSize]
            exact UInt64.le_refl _
          · next shorter => exact UInt64.not_lt.mp shorter
      · refine ⟨init ++ [previous.setSize (entry.addr - previous.addr)], entry,
          remainder entry previous after, by simp, normal, UInt64.le_refl _, UInt64.le_refl _, ?_, ?_⟩
        · rw [List.forall_mem_append, List.forall_mem_singleton]
          exact ⟨knownInit, Or.inr (normal_setSize starts)⟩
        · rw [remainder]
          split
          · next longer =>
            exact List.forall_mem_cons.mpr
              ⟨Or.inr (normal_setStart (UInt64.le_of_lt longer)), knownAfter⟩
          · exact knownAfter
    · exact ⟨_, entry, after, rfl, normal, UInt64.le_refl _, UInt64.le_refl _, known, knownAfter⟩

theorem mem_insertE820Entry (normal : entry.Normal)
    (returned : insertE820Entry table entry = .ok result) :
    ∀ other ∈ result, other ∈ table ∨ other.Normal := by
  obtain ⟨front, whole, rest, rfl, wholeNormal, -, -, knownFront, knownRest⟩ :=
    insertE820Entry_normal normal returned
  have spec := absorbRest_normal wholeNormal knownRest
  rw [List.forall_mem_append, absorbed, List.forall_mem_cons]
  exact ⟨fun other found => (knownFront other found).imp_left And.left, Or.inr spec.1.1, spec.2⟩

section Gap

variable {start finish : UInt64}

/-- What the gap leaves of an entry that does not reach beyond it on both sides. -/
def carve (start finish : UInt64) (entry : BootE820Entry) : E820Table :=
  if reaches start finish entry then
    if entry.addr ≥ start ∧ entry.endAddr ≤ finish then []
    else if entry.addr < start then [entry.setSize (start - entry.addr)]
    else [(entry.setSize (entry.endAddr - finish)).setAddr finish]
  else [entry]

def Straddles (start finish : UInt64) (entry : BootE820Entry) : Prop :=
  entry.addr < start ∧ entry.endAddr > finish

variable {entry : BootE820Entry}

theorem reaches_iff :
    reaches start finish entry = true ↔ entry.addr < finish ∧ start < entry.endAddr := by
  simp [reaches]

theorem not_reaches_carve {left : BootE820Entry} (found : left ∈ carve start finish entry) :
    ¬ reaches start finish left = true := by
  rw [carve] at found
  split at found
  · split at found
    · cases found
    · split at found
      · rw [List.mem_singleton.mp found, reaches_iff, endAddr_setSize]
        exact fun inside => UInt64.lt_irrefl _ inside.2
      · rw [List.mem_singleton.mp found, reaches_iff]
        exact fun inside => UInt64.lt_irrefl _ inside.1
  · next outside => rwa [List.mem_singleton.mp found]

theorem carve_of_not_reaches (outside : ¬ reaches start finish entry = true) :
    carve start finish entry = [entry] := if_neg outside

theorem Straddles.reaches (straddles : Straddles start finish entry) (forward : start ≤ finish) :
    reaches start finish entry = true := by
  rw [reaches_iff]
  exact ⟨UInt64.lt_of_lt_of_le straddles.1 forward, UInt64.lt_of_le_of_lt forward straddles.2⟩

variable {table pre post : E820Table}

theorem flatMap_carve_of_not_reaches
    (outside : ∀ entry ∈ table, ¬ reaches start finish entry = true) :
    table.flatMap (carve start finish) = table := by
  induction table with
  | nil => rfl
  | cons entry rest ih =>
    obtain ⟨first, later⟩ := List.forall_mem_cons.mp outside
    rw [List.flatMap_cons, carve_of_not_reaches first, ih later]
    rfl

theorem exists_first_reaching (some : ∃ entry ∈ table, reaches start finish entry = true) :
    ∃ pre entry post, table = pre ++ entry :: post ∧
      (∀ other ∈ pre, ¬ reaches start finish other = true) ∧ reaches start finish entry = true := by
  obtain ⟨entry, found⟩ := Option.isSome_iff_exists.mp (List.find?_isSome.mpr some)
  obtain ⟨reached, pre, post, rfl, before⟩ := List.find?_eq_some_iff_append.mp found
  exact ⟨pre, entry, post, rfl, by simpa using before, reached⟩

theorem findIdx_reaching (before : ∀ other ∈ pre, ¬ reaches start finish other = true)
    (reached : reaches start finish entry = true) :
    (pre ++ entry :: post).findIdx (reaches start finish) = pre.length := by
  have none : pre.findIdx (reaches start finish) = pre.length := by
    simpa using before
  rw [List.findIdx_append, none, List.findIdx_cons, reached]
  simp

theorem findIdx_not_reaching (outside : ∀ entry ∈ table, ¬ reaches start finish entry = true) :
    table.findIdx (reaches start finish) = table.length := by
  simpa using outside

theorem ensureGapWithin_done (fuel : Nat)
    (outside : ∀ entry ∈ table, ¬ reaches start finish entry = true) :
    ensureGapWithin start finish (fuel + 1) table = .ok (some table) := by
  simp [ensureGapWithin, findIdx_not_reaching outside]

theorem ensureGapWithin_step (fuel : Nat)
    (before : ∀ other ∈ pre, ¬ reaches start finish other = true)
    (reached : reaches start finish entry = true) (unsplit : ¬ Straddles start finish entry) :
    ensureGapWithin start finish (fuel + 1) (pre ++ entry :: post) =
      ensureGapWithin start finish fuel (pre ++ (carve start finish entry ++ post)) := by
  have found : (pre ++ entry :: post)[pre.length]? = some entry := by simp
  rw [Straddles] at unsplit
  simp only [ensureGapWithin, findIdx_reaching before reached, found, if_neg unsplit,
    eraseIdx_append_length, carve]
  split
  · rfl
  · split <;> simp

theorem ensureGapWithin_carves (forward : start ≤ finish)
    (unsplit : ∀ entry ∈ table, ¬ Straddles start finish entry) {fuel : Nat}
    (enough : table.countP (reaches start finish) < fuel) :
    ensureGapWithin start finish fuel table = .ok (some (table.flatMap (carve start finish))) := by
  induction fuel generalizing table with
  | zero => omega
  | succ fuel ih =>
    by_cases some : ∃ entry ∈ table, reaches start finish entry = true
    · obtain ⟨pre, entry, post, rfl, before, reached⟩ := exists_first_reaching some
      have out : ∀ left ∈ carve start finish entry, ¬ reaches start finish left = true :=
        fun left found => not_reaches_carve found
      rw [List.forall_mem_append, List.forall_mem_cons] at unsplit
      rw [ensureGapWithin_step fuel before reached unsplit.2.1, ih]
      · simp [flatMap_carve_of_not_reaches out]
      · rw [List.forall_mem_append, List.forall_mem_append]
        exact ⟨unsplit.1, fun left found both => out left found (both.reaches forward), unsplit.2.2⟩
      · rw [List.countP_append, List.countP_cons_of_pos reached] at enough
        rw [List.countP_append, List.countP_append, List.countP_eq_zero.mpr out]
        omega
    · have outside : ∀ entry ∈ table, ¬ reaches start finish entry = true :=
        fun entry found reached => some ⟨entry, found, reached⟩
      rw [ensureGapWithin_done fuel outside, flatMap_carve_of_not_reaches outside]

def headOf (start : UInt64) (entry : BootE820Entry) : BootE820Entry :=
  entry.setSize (start - entry.addr)

def tailOf (finish : UInt64) (entry : BootE820Entry) : BootE820Entry :=
  (entry.setSize (entry.endAddr - finish)).setAddr finish

theorem le_addr_absorbed (beyond : finish ≤ entry.endAddr)
    (after : ∀ other ∈ post, finish ≤ other.addr) :
    ∀ other ∈ absorbed (tailOf finish entry) post, finish ≤ other.addr := by
  have spec := absorbRest_induction
    (fun grown => grown.addr = finish ∧ finish ≤ grown.endAddr) (fun other => finish ≤ other.addr)
    (fun grown next grows _ longer => ⟨grows.1, by
      rw [endAddr_setSize]
      exact UInt64.le_trans grows.2 (UInt64.le_of_lt longer)⟩)
    (fun grown next grows _ _ => grows.2)
    (show (tailOf finish entry).addr = finish ∧ _ from
      ⟨rfl, by rwa [tailOf, endAddr_setStart]⟩) after
  rw [absorbed, List.forall_mem_cons]
  exact ⟨UInt64.le_of_eq spec.1.1.symm, spec.2⟩

theorem insertBetween_split (forward : start < finish) :
    insertBetween (pre ++ [headOf start entry]) (tailOf finish entry) post =
      pre ++ [headOf start entry] ++ absorbed (tailOf finish entry) post := by
  have apart : ¬ (headOf start entry).endAddr ≥ (tailOf finish entry).addr := by
    rw [headOf, endAddr_setSize]
    exact UInt64.not_le.mpr forward
  simp [insertBetween, if_neg apart]

theorem ensureGapWithin_splits (forward : start < finish) (fuel : Nat) (valid : entry.Valid)
    (before : ∀ other ∈ pre, ¬ reaches start finish other = true ∧ other.addr < finish)
    (after : ∀ other ∈ post, finish ≤ other.addr) (straddles : Straddles start finish entry) :
    ensureGapWithin start finish (fuel + 2) (pre ++ entry :: post) =
        .ok (some (pre ++ headOf start entry :: absorbed (tailOf finish entry) post)) ∨
      (ensureGapWithin start finish (fuel + 2) (pre ++ entry :: post)).IsPanic := by
  have reached := straddles.reaches (UInt64.le_of_lt forward)
  have found : (pre ++ entry :: post)[pre.length]? = some entry := by simp
  obtain ⟨entryType, known⟩ := valid
  have new_eq : BootE820Entry.new finish (entry.endAddr - finish) entryType = tailOf finish entry := by
    simp [BootE820Entry.new, tailOf, setSize, setAddr, E820EntryType.toRepr_of_fromRepr known]
  have set_eq : (pre ++ entry :: post).set pre.length (entry.setSize (start - entry.addr)) =
      pre ++ [headOf start entry] ++ post := by
    simp [headOf]
  rw [Straddles] at straddles
  simp only [ensureGapWithin, findIdx_reaching (fun other member => (before other member).1) reached,
    found, if_pos straddles, known, new_eq, set_eq]
  have below : ∀ other ∈ pre ++ [headOf start entry], other.addr < (tailOf finish entry).addr := by
    rw [List.forall_mem_append, List.forall_mem_singleton]
    exact ⟨fun other member => (before other member).2, UInt64.lt_trans straddles.1 forward⟩
  have above : ∀ other ∈ post.head?, (tailOf finish entry).addr ≤ other.addr :=
    fun other member => after other (List.mem_of_mem_head? member)
  rcases insertE820Entry_cases below above with placed | ⟨panicked, -⟩
  · left
    rw [placed, insertBetween_split forward, ← List.append_cons]
    refine ensureGapWithin_done fuel ?_
    rw [List.forall_mem_append, List.forall_mem_cons]
    refine ⟨fun other member => (before other member).1, ?_, fun other member => ?_⟩
    · rw [reaches_iff, headOf, endAddr_setSize]
      exact fun inside => UInt64.lt_irrefl _ inside.2
    · have beyond := le_addr_absorbed (UInt64.le_of_lt straddles.2) after other member
      rw [reaches_iff]
      exact fun inside => UInt64.not_lt.mpr beyond inside.1
  · exact Or.inr (panicked.bind _)

theorem mem_set {index : Nat} (normal : entry.Normal) :
    ∀ other ∈ table.set index entry, other ∈ table ∨ other.Normal := by
  intro other found
  rcases List.mem_or_eq_of_mem_set found with member | rfl
  · exact Or.inl member
  · exact Or.inr normal

theorem mem_ensureGapWithin {fuel : Nat}
    (returned : ensureGapWithin start finish fuel table = .ok (some result)) :
    ∀ other ∈ result, other ∈ table ∨ other.Normal := by
  induction fuel generalizing table with
  | zero => cases returned
  | succ fuel ih =>
    have continued {next : E820Table} (known : ∀ other ∈ next, other ∈ table ∨ other.Normal)
        (returned : ensureGapWithin start finish fuel next = .ok (some result)) :
        ∀ other ∈ result, other ∈ table ∨ other.Normal := by
      intro other found
      rcases ih returned other found with member | normal
      · exact known other member
      · exact Or.inr normal
    simp only [ensureGapWithin] at returned
    split at returned
    · cases returned
      exact fun other found => Or.inl found
    · next entry found =>
      split at returned
      · next straddles =>
        have trimmed : (entry.setSize (start - entry.addr)).Normal :=
          normal_setSize (UInt64.le_of_lt straddles.1)
        split at returned
        · cases returned
        · next entryType known =>
          obtain ⟨next, inserted, returned⟩ := Outcome.bind_eq_ok.mp returned
          have newNormal : (BootE820Entry.new finish (entry.endAddr - finish) entryType).Normal :=
            @normal_setStart ⟨0, 0, entryType.toRepr⟩ _ _ (UInt64.le_of_lt straddles.2)
          refine continued (fun other member => ?_) returned
          rcases mem_insertE820Entry newNormal inserted other member with old | normal
          · exact mem_set trimmed other old
          · exact Or.inr normal
      · split at returned
        · exact continued (fun other member => Or.inl (List.mem_of_mem_eraseIdx member)) returned
        · next outside =>
          split at returned
          · next before =>
            exact continued (mem_set (normal_setSize (UInt64.le_of_lt before))) returned
          · next after =>
            refine continued (mem_set (normal_setStart ?_)) returned
            have late : entry.addr ≥ start := UInt64.not_lt.mp after
            exact UInt64.le_of_lt (UInt64.not_le.mp fun short => outside ⟨late, short⟩)

end Gap

end E820Table

end Oak.Stage0
