import Mathlib.Data.List.Sort
import Oak.Stage0.E820Gap

namespace Oak.Stage0

open Oak.Data Oak.Data.Span

/-! The memory map that the firmware makes of the host's table (`ZeroPage::fill_e820_table`).

For entries that end below the top of the address space the result is the map
one expects.  The ends of other entries wrap, and validation compares the wrapped
ends: such a table passes, and the result is well formed only if the entry at
the top stays out of the reach of the insertions. -/

namespace E820Table

open BootE820Entry

variable {entry : BootE820Entry} {rest before table result : E820Table} {bound : Nat}

theorem absorbed_bounded (normal : entry.Normal) (bounded : entry.span.stop ≤ bound)
    (others : ∀ next ∈ rest, next.Normal ∧ next.span.stop ≤ bound) :
    ∀ other ∈ absorbed entry rest, other.Normal ∧ other.span.stop ≤ bound := by
  have spec := absorbRest_induction (fun grown => grown.Normal ∧ grown.span.stop ≤ bound)
    (fun other => other.Normal ∧ other.span.stop ≤ bound) ?_ ?_ ⟨normal, bounded⟩ others
  · rw [absorbed, List.forall_mem_cons]
    exact spec
  · rintro grown next ⟨grownNormal, -⟩ ⟨nextNormal, nextBound⟩ longer
    have forward := UInt64.le_trans grownNormal.addr_le (UInt64.le_of_lt longer)
    refine ⟨normal_setSize forward, ?_⟩
    rw [span_setSize forward, nextNormal.endAddr]
    exact nextBound
  · rintro grown next - ⟨nextNormal, nextBound⟩ longer
    refine ⟨normal_setStart (UInt64.le_of_lt longer), ?_⟩
    rw [span_setStart (UInt64.le_of_lt longer), nextNormal.endAddr]
    exact nextBound

theorem Placed.bounded_absorbed {after front : E820Table} {whole : BootE820Entry}
    (placed : Placed before entry after front whole rest)
    (boundEntry : entry.span.stop ≤ bound)
    (boundOthers : ∀ other ∈ before ++ after, other.span.stop ≤ bound) :
    ∀ other ∈ front ++ absorbed whole rest, other.span.stop ≤ bound := by
  obtain ⟨boundWhole, boundParts⟩ := placed.bounded bound boundEntry boundOthers
  rw [List.forall_mem_append] at boundParts ⊢
  refine ⟨boundParts.1, fun other found => ?_⟩
  refine (absorbed_bounded placed.wholeNormal boundWhole (fun next member => ?_) other found).2
  exact ⟨placed.normal next (List.mem_append_right front member), boundParts.2 next member⟩

/-- An insertion below an entry that wraps.  Either that entry stays behind the result, or the
insertion reaches it and deletes it; the latter if the new type fills the space between them. -/
theorem Placed.below_top {after front : E820Table} {whole top : BootE820Entry}
    (placed : Placed before entry after front whole rest) {later : E820Table}
    (wraps : ¬ top.Normal) (laterNormal : ∀ other ∈ later, other.Normal)
    (below : entry.span.stop ≤ top.span.start)
    (others : ∀ other ∈ before ++ after, other.span.stop ≤ top.span.start) :
    (insertBetween before entry (after ++ top :: later) =
        insertBetween before entry after ++ top :: later ∧
      ¬ ∀ address, entry.span.stop ≤ address → address < top.span.start →
        labelsAt (spans (before ++ after)) address = [entry.type_]) ∨
    ((∀ other ∈ insertBetween before entry (after ++ top :: later), other.Normal) ∧
      ∀ address, entry.span.stop ≤ address → address < top.span.start →
        labelsAt (spans (before ++ after)) address = [entry.type_]) := by
  have spec := placed.absorbed_spec
  have grownNormal : (absorbRest whole rest).1.Normal := spec.normal _ List.mem_cons_self
  have grownStop := placed.stops.trans spec.stop_le
  have labels := placed.labelsAt_absorbed
  have sorted : ∀ next ∈ rest, ∀ far ∈ (top :: later).head?, next.addr ≤ far.addr := by
    rintro next found _ ⟨⟩
    obtain ⟨-, bounded⟩ := placed.bounded _ below others
    exact UInt64.le_iff_toNat_le.mpr
      (next.start_le_stop.trans (bounded next (List.mem_append_right front found)))
  have appended : absorbRest whole (rest ++ top :: later) = _ := absorbRest_append sorted
  by_cases apart : (absorbRest whole rest).1.endAddr < top.addr
  · refine Or.inl ⟨?_, fun fills => ?_⟩
    · have stops : absorbRest (absorbRest whole rest).1 (top :: later) = _ :=
        if_neg (UInt64.not_le.mpr apart)
      rw [placed.result, placed.insertBetween_eq, absorbed, appended, stops, absorbed]
      simp
    · rw [UInt64.lt_iff_toNat_lt, grownNormal.endAddr] at apart
      have filled := fills _ grownStop apart
      have outside : ¬ entry.span.Contains (absorbRest whole rest).1.span.stop :=
        fun inside => Nat.not_lt.mpr grownStop inside.2
      have here := labels (absorbRest whole rest).1.span.stop
      rw [if_neg outside, filled] at here
      have marked : entry.type_ ∈ labelsAt (spans (front ++ absorbed whole rest))
          (absorbRest whole rest).1.span.stop := by
        rw [here]
        exact List.mem_singleton_self _
      obtain ⟨span, member, inside, label⟩ := mem_labelsAt.mp marked
      obtain ⟨other, found, rfl⟩ := List.mem_map.mp member
      rw [absorbed, List.mem_append, List.mem_cons] at found
      rcases found with early | rfl | late
      · have ends := placed.ends other early
        have := spec.start_eq
        have := start_le_stop (absorbRest whole rest).1
        have := inside.2
        omega
      · exact absurd inside.2 (Nat.lt_irrefl _)
      · rcases spec.apart other late with away | otherType
        · exact absurd inside.1 (Nat.not_le.mpr away)
        · exact otherType (entryType_congr (label.trans placed.sameType.symm))
  · have reached := UInt64.not_lt.mp apart
    refine Or.inr ⟨?_, fun address low high => ?_⟩
    · have covered :=
        UInt64.le_trans (UInt64.le_of_lt (endAddr_lt_of_not_normal wraps)) reached
      have deleted : absorbRest (absorbRest whole rest).1 (top :: later) = _ :=
        (if_pos reached).trans (if_pos covered)
      have normal := @absorbRest_normal _ _ [] grownNormal
        fun next found => Or.inr (laterNormal next found)
      rw [placed.result, absorbed, appended, deleted, List.forall_mem_append, List.forall_mem_cons,
        List.forall_mem_append]
      exact ⟨fun other found => placed.normal other (List.mem_append_left rest found), normal.1.1,
        (List.forall_mem_cons.mp spec.normal).2,
        fun other found => (normal.2 other found).resolve_left List.not_mem_nil⟩
    · rw [UInt64.le_iff_toNat_le, grownNormal.endAddr] at reached
      have outside : ¬ entry.span.Contains address := fun inside => Nat.not_lt.mpr low inside.2
      have inside : (absorbRest whole rest).1.span.Contains address := by
        refine ⟨?_, high.trans_le reached⟩
        rw [spec.start_eq]
        exact placed.starts.trans (entry.start_le_stop.trans low)
      have ordered := placed.regular_absorbed.ordered
      have here := labels address
      rw [if_neg outside] at here
      rw [← here]
      rw [absorbed, List.append_cons] at ordered ⊢
      rw [labelsAt_middle ordered, if_pos inside, spec.type_eq, placed.sameType]

section Gap

variable {start finish : UInt64} {entry : BootE820Entry}

theorem straddles_iff (normal : entry.Normal) : Straddles start finish entry ↔
    entry.span.start < start.toNat ∧ finish.toNat < entry.span.stop := by
  rw [Straddles, gt_iff_lt, UInt64.lt_iff_toNat_lt, UInt64.lt_iff_toNat_lt, normal.endAddr]
  rfl

theorem carve_spec (normal : entry.Normal) (unsplit : ¬ Straddles start finish entry) :
    (∀ left ∈ carve start finish entry, left.Normal ∧ left.type_ = entry.type_ ∧
      entry.span.start ≤ left.span.start ∧ left.span.stop ≤ entry.span.stop) ∧
    Span.Ordered (spans (carve start finish entry)) ∧
    ∀ address, labelsAt (spans (carve start finish entry)) address =
      if start.toNat ≤ address ∧ address < finish.toNat then []
      else labelsAt (spans [entry]) address := by
  have entryEnd := normal.endAddr
  have reach : reaches start finish entry = true ↔
      entry.span.start < finish.toNat ∧ start.toNat < entry.span.stop := by
    rw [reaches_iff, UInt64.lt_iff_toNat_lt, UInt64.lt_iff_toNat_lt, entryEnd]
    rfl
  rw [straddles_iff normal] at unsplit
  -- the label of what is left agrees with that of the entry out of the gap
  have single (left : BootE820Entry) (sameType : left.type_ = entry.type_)
      (inside : ∀ address, left.span.Contains address ↔
        entry.span.Contains address ∧ ¬ (start.toNat ≤ address ∧ address < finish.toNat)) :
      Span.Ordered (spans [left]) ∧ ∀ address, labelsAt (spans [left]) address =
        if start.toNat ≤ address ∧ address < finish.toNat then []
        else labelsAt (spans [entry]) address := by
    refine ⟨List.pairwise_singleton _ _, fun address => ?_⟩
    have sameLabel : left.span.label = entry.span.label := sameType
    simp only [spans_cons, labelsAt_cons, sameLabel]
    by_cases gap : start.toNat ≤ address ∧ address < finish.toNat <;>
      by_cases here : entry.span.Contains address <;> simp [inside, gap]
  rw [carve]
  split
  · next reached =>
    rw [reach] at reached
    split
    · next within =>
      rw [ge_iff_le, UInt64.le_iff_toNat_le, UInt64.le_iff_toNat_le, entryEnd] at within
      refine ⟨List.forall_mem_nil _, List.Pairwise.nil, fun address => ?_⟩
      split
      · rfl
      · next outside =>
        rw [spans_cons, labelsAt_cons_of_not, spans_nil, labelsAt_nil]
        exact fun inside => outside ⟨within.1.trans inside.1, inside.2.trans_le within.2⟩
    · next outside =>
      split
      · next before =>
        have before' := UInt64.lt_iff_toNat_lt.mp before
        have trimmed := @span_setSize entry _ (UInt64.le_of_lt before)
        refine ⟨?_, single _ rfl fun address => ?_⟩
        · rw [List.forall_mem_singleton, BootE820Entry.Normal, trimmed]
          exact ⟨start.toNat_lt, rfl, le_rfl, reached.2.le⟩
        · simp only [trimmed, Span.Contains]
          change entry.span.start < _ at before'
          omega
      · next after =>
        have late : start ≤ entry.addr := UInt64.not_lt.mp after
        have beyond : finish ≤ entry.endAddr :=
          UInt64.le_of_lt (UInt64.not_le.mp fun short => outside ⟨late, short⟩)
        have trimmed := @span_setStart entry _ _ beyond
        rw [entryEnd] at trimmed
        refine ⟨?_, single _ rfl fun address => ?_⟩
        · rw [List.forall_mem_singleton, BootE820Entry.Normal, trimmed]
          exact ⟨normal, rfl, reached.1.le, le_rfl⟩
        · rw [UInt64.le_iff_toNat_le] at late
          change _ ≤ entry.span.start at late
          simp only [trimmed, Span.Contains]
          omega
  · next outside =>
    rw [reach] at outside
    refine ⟨?_, single _ rfl fun address => ?_⟩
    · rw [List.forall_mem_singleton]
      exact ⟨normal, rfl, le_rfl, le_rfl⟩
    · simp only [Span.Contains]
      omega

/-- A map without a range of addresses. -/
structure Gapped (start finish : UInt64) (table result : E820Table) : Prop where
  normal : ∀ other ∈ result, other.Normal
  valid : ∀ other ∈ result, other.Valid
  ordered : Span.Ordered (spans result)
  labels : ∀ address, labelsAt (spans result) address =
    if start.toNat ≤ address ∧ address < finish.toNat then []
    else labelsAt (spans table) address
  bounded : ∀ bound, (∀ other ∈ table, other.span.stop ≤ bound) →
    ∀ other ∈ result, other.span.stop ≤ bound

theorem Gapped.regular {table result : E820Table} (gap : Gapped start finish table result) :
    Regular result := { gap with }

theorem gapped_carve {table : E820Table} (regular : Regular table)
    (unsplit : ∀ other ∈ table, ¬ Straddles start finish other) :
    Gapped start finish table (table.flatMap (carve start finish)) := by
  have spec (entry : BootE820Entry) (member : entry ∈ table) :=
    carve_spec (regular.normal entry member) (unsplit entry member)
  clear unsplit
  refine ⟨?_, ?_, ?_, fun address => ?_, fun bound bounds => ?_⟩
  · rw [List.forall_mem_flatMap]
    exact fun entry member left found => ((spec entry member).1 left found).1
  · rw [List.forall_mem_flatMap]
    exact fun entry member left found =>
      (regular.valid entry member).congr ((spec entry member).1 left found).2.1.symm
  · induction table with
    | nil => exact List.Pairwise.nil
    | cons entry rest ih =>
      obtain ⟨⟨-, -, below⟩, regularRest⟩ := regular_cons.mp regular
      obtain ⟨here, more⟩ := List.forall_mem_cons.mp spec
      rw [List.flatMap_cons, ordered_append]
      refine ⟨here.2.1, ih regularRest more, fun left found later member => ?_⟩
      obtain ⟨old, oldMember, laterFound⟩ := List.mem_flatMap.mp member
      exact (here.1 left found).2.2.2.trans
        ((below old oldMember).trans ((more old oldMember).1 later laterFound).2.2.1)
  · induction table with
    | nil => split <;> rfl
    | cons entry rest ih =>
      obtain ⟨here, more⟩ := List.forall_mem_cons.mp spec
      have later := ih (regular_cons.mp regular).2 more
      have whole : labelsAt (spans (entry :: rest)) address =
          labelsAt (spans [entry]) address ++ labelsAt (spans rest) address := by
        rw [← labelsAt_append, ← spans_append, List.singleton_append]
      rw [List.flatMap_cons, spans_append, labelsAt_append, here.2.2, later, whole]
      split <;> rfl
  · rw [List.forall_mem_flatMap]
    exact fun entry member left found =>
      ((spec entry member).1 left found).2.2.2.trans (bounds entry member)

theorem span_headOf (before : entry.addr < start) :
    (headOf start entry).span = ⟨entry.span.start, start.toNat, entry.type_⟩ :=
  span_setSize (UInt64.le_of_lt before)

theorem span_tailOf (normal : entry.Normal) (beyond : finish < entry.endAddr) :
    (tailOf finish entry).span = ⟨finish.toNat, entry.span.stop, entry.type_⟩ := by
  rw [← normal.endAddr]
  exact span_setStart (UInt64.le_of_lt beyond)

section Split

variable {pre post : E820Table} (regular : Regular (pre ++ entry :: post))
  (forward : start < finish) (straddles : Straddles start finish entry)

include regular forward straddles

theorem placed_split : Placed (pre ++ [headOf start entry]) (tailOf finish entry) post
    (pre ++ [headOf start entry]) (tailOf finish entry) post := by
  obtain ⟨regularPre, regularRest, cross⟩ := regular_append.mp regular
  obtain ⟨⟨normal, valid, below⟩, regularPost⟩ := regular_cons.mp regularRest
  have head := span_headOf straddles.1
  have tail := span_tailOf normal straddles.2
  have gap := UInt64.lt_iff_toNat_lt.mp forward
  obtain ⟨early, late⟩ := (straddles_iff normal).mp straddles
  have crossEntry (other : BootE820Entry) (found : other ∈ pre) :
      other.span.stop ≤ entry.span.start := cross other found entry List.mem_cons_self
  have normalTail : (tailOf finish entry).Normal := by
    rw [BootE820Entry.Normal, tail]
    exact normal
  refine placed_apart ?_ normalTail (valid.congr rfl) ?_ ?_ fun rest => insertBetween_split forward
  · rw [regular_append, regular_concat, List.forall_mem_append, List.forall_mem_singleton,
      BootE820Entry.Normal, head]
    exact ⟨⟨regularPre, ⟨start.toNat_lt, valid.congr rfl⟩, crossEntry⟩, regularPost,
      fun other found later member => cross other found later (List.mem_cons_of_mem _ member),
      fun later found => (gap.trans late).le.trans (below later found)⟩
  · rw [List.forall_mem_append, List.forall_mem_singleton, head]
    exact ⟨fun other found => (crossEntry other found).trans_lt (early.trans gap), gap⟩
  · exact fun later found => late.le.trans (below later found)

theorem labelsAt_split (address : Nat) :
    labelsAt (spans (pre ++ headOf start entry :: absorbed (tailOf finish entry) post)) address =
      if start.toNat ≤ address ∧ address < finish.toNat then []
      else labelsAt (spans (pre ++ entry :: post)) address := by
  have placed := placed_split regular forward straddles
  have labels := placed.labelsAt_absorbed address
  rw [List.append_assoc, List.singleton_append] at labels
  have whole := regular.ordered
  rw [List.append_cons] at whole
  rw [labels, labelsAt_middle placed.ordered, List.append_cons pre entry, labelsAt_middle whole]
  have head := span_headOf straddles.1
  have tail := span_tailOf (regular.normal entry (by simp)) straddles.2
  have sameHead : (headOf start entry).type_ = entry.type_ := rfl
  have sameTail : (tailOf finish entry).type_ = entry.type_ := rfl
  have gap := UInt64.lt_iff_toNat_lt.mp forward
  obtain ⟨early, late⟩ := (straddles_iff (regular.normal entry (by simp))).mp straddles
  have inHead : (headOf start entry).span.Contains address ↔
      entry.span.start ≤ address ∧ address < start.toNat := by rw [head]; rfl
  have inTail : (tailOf finish entry).span.Contains address ↔
      finish.toNat ≤ address ∧ address < entry.span.stop := by rw [tail]; rfl
  rw [sameHead, sameTail]
  by_cases hidden : start.toNat ≤ address ∧ address < finish.toNat
  · have outHead : ¬ (headOf start entry).span.Contains address := by
      rw [inHead]
      omega
    have outTail : ¬ (tailOf finish entry).span.Contains address := by
      rw [inTail]
      omega
    rw [if_neg outHead, if_neg outTail, if_pos hidden]
    obtain ⟨-, regularRest, cross⟩ := regular_append.mp regular
    obtain ⟨⟨-, -, below⟩, -⟩ := regular_cons.mp regularRest
    refine labelsAt_eq_nil (List.forall_mem_map.mpr fun other member inside => ?_)
    rcases List.mem_append.mp member with before | after
    · have := cross other before entry List.mem_cons_self
      have := inside.2
      omega
    · have := below other after
      have := inside.1
      omega
  · have either : entry.span.Contains address ↔ (tailOf finish entry).span.Contains address ∨
        (headOf start entry).span.Contains address := by
      rw [inHead, inTail, Span.Contains]
      omega
    rw [if_neg hidden]
    by_cases first : (tailOf finish entry).span.Contains address <;>
      by_cases second : (headOf start entry).span.Contains address <;>
      simp [either, first]

theorem bounded_split (bounds : ∀ other ∈ pre ++ entry :: post, other.span.stop ≤ bound) :
    (tailOf finish entry).span.stop ≤ bound ∧
      ∀ other ∈ pre ++ [headOf start entry] ++ post, other.span.stop ≤ bound := by
  have gap := UInt64.lt_iff_toNat_lt.mp forward
  have entryNormal := regular.normal entry (by simp)
  obtain ⟨-, late⟩ := (straddles_iff entryNormal).mp straddles
  rw [List.forall_mem_append, List.forall_mem_cons] at bounds
  rw [List.forall_mem_append, List.forall_mem_append, List.forall_mem_singleton,
    span_headOf straddles.1, span_tailOf entryNormal straddles.2]
  exact ⟨bounds.2.1, ⟨bounds.1, (gap.trans late).le.trans bounds.2.1⟩, bounds.2.2⟩

theorem gapped_split : Gapped start finish (pre ++ entry :: post)
    (pre ++ headOf start entry :: absorbed (tailOf finish entry) post) := by
  have placed := placed_split regular forward straddles
  have result : pre ++ headOf start entry :: absorbed (tailOf finish entry) post =
      pre ++ [headOf start entry] ++ absorbed (tailOf finish entry) post := by simp
  have parts := placed.regular_absorbed
  rw [← result] at parts
  refine { parts with
    labels := labelsAt_split regular forward straddles, bounded := fun bound bounds => ?_ }
  obtain ⟨boundTail, boundOthers⟩ := bounded_split regular forward straddles bounds
  rw [result]
  exact placed.bounded_absorbed boundTail boundOthers

end Split

end Gap

/-- What validation establishes of a sorted table.  Ends may wrap. -/
structure Admitted (table : E820Table) : Prop where
  sorted : Sorted table
  follows : table.Pairwise fun first second => first.endAddr ≤ second.addr
  valid : ∀ entry ∈ table, entry.Valid

theorem follows_of_inOrder (sorted : Sorted table) (checked : inOrder table = true) :
    table.Pairwise fun first second => first.endAddr ≤ second.addr := by
  induction table with
  | nil => exact List.Pairwise.nil
  | cons first rest ih =>
    obtain ⟨-, sortedRest⟩ := List.pairwise_cons.mp sorted
    cases rest with
    | nil => exact List.pairwise_singleton _ _
    | cons second rest =>
      simp only [inOrder, Bool.and_eq_true, decide_eq_true_eq] at checked
      refine List.pairwise_cons.mpr ⟨fun later found => ?_, ih sortedRest checked.2⟩
      rcases List.mem_cons.mp found with rfl | more
      · exact checked.1
      · exact UInt64.le_trans checked.1 ((List.pairwise_cons.mp sortedRest).1 later more)

theorem admitted_of_validate (sorted : Sorted table) (checked : validateE820Table table = .ok ()) :
    Admitted table := by
  rw [validateE820Table] at checked
  split at checked
  · cases checked
  · split at checked
    · cases checked
    · next inOrder =>
      split at checked
      · cases checked
      · next valid =>
        refine ⟨sorted, follows_of_inOrder sorted (by simpa using inOrder), fun entry found => ?_⟩
        simp only [List.any_eq_true, not_exists, not_and] at valid
        rw [Valid, ← Option.ne_none_iff_exists']
        simpa using valid entry found

section Admitted

variable {table first second : E820Table}

theorem Admitted.left (admitted : Admitted (first ++ second)) : Admitted first :=
  ⟨(List.pairwise_append.mp admitted.sorted).1, (List.pairwise_append.mp admitted.follows).1,
    (List.forall_mem_append.mp admitted.valid).1⟩

theorem Admitted.regular (admitted : Admitted table) (normal : ∀ other ∈ table, other.Normal) :
    Regular table := by
  refine ⟨normal, admitted.valid, List.pairwise_map.mpr (admitted.follows.imp_of_mem fun {first second} found _ before => ?_)⟩
  rw [UInt64.le_iff_toNat_le, (normal first found).endAddr] at before
  exact before

end Admitted

def gapEnd : UInt64 := gapStart + gapSize

theorem gap_forward : gapStart < gapEnd := by decide

theorem ensureE820Gap_carves (unsplit : ∀ entry ∈ table, ¬ Straddles gapStart gapEnd entry)
    (returned : ensureE820Gap table gapStart gapSize = .ok (some result)) :
    result = table.flatMap (carve gapStart gapEnd) := by
  have carved := ensureGapWithin_carves (UInt64.le_of_lt gap_forward) unsplit
    (Nat.lt_succ_of_le List.countP_le_length)
  exact Option.some.inj (Except.ok.inj (returned.symm.trans carved))

theorem ensureE820Gap_splits {pre post : E820Table} (admitted : Admitted (pre ++ entry :: post))
    (straddles : Straddles gapStart gapEnd entry)
    (returned : ensureE820Gap (pre ++ entry :: post) gapStart gapSize = .ok (some result)) :
    result = pre ++ headOf gapStart entry :: absorbed (tailOf gapEnd entry) post := by
  obtain ⟨-, sortedRest, sortedCross⟩ := List.pairwise_append.mp admitted.sorted
  obtain ⟨-, followsRest, followsCross⟩ := List.pairwise_append.mp admitted.follows
  have steps : (pre ++ entry :: post).length + 1 = (pre.length + post.length) + 2 := by
    simp only [List.length_append, List.length_cons]
    omega
  rw [ensureE820Gap, steps] at returned
  change ensureGapWithin gapStart gapEnd _ _ = _ at returned
  refine (ensureGapWithin_splits gap_forward _ (admitted.valid entry (by simp)) ?_ ?_ straddles).elim
    (fun same => Option.some.inj (Except.ok.inj (returned.symm.trans same)))
    fun panicked => by rw [returned] at panicked; cases panicked
  · intro other found
    have starts := sortedCross other found entry List.mem_cons_self
    have ends := followsCross other found entry List.mem_cons_self
    refine ⟨?_, UInt64.lt_of_le_of_lt starts (UInt64.lt_trans straddles.1 gap_forward)⟩
    rw [reaches_iff]
    exact fun reached => UInt64.lt_irrefl _
      (UInt64.lt_trans reached.2 (UInt64.lt_of_le_of_lt ends straddles.1))
  · exact fun other found => UInt64.le_trans (UInt64.le_of_lt straddles.2)
      ((List.pairwise_cons.mp followsRest).1 other found)

theorem ensureE820Gap_gapped (admitted : Admitted table) (normal : ∀ other ∈ table, other.Normal)
    (returned : ensureE820Gap table gapStart gapSize = .ok (some result)) :
    Gapped gapStart gapEnd table result := by
  have regular := admitted.regular normal
  by_cases split : ∃ entry ∈ table, Straddles gapStart gapEnd entry
  · obtain ⟨entry, found, straddles⟩ := split
    obtain ⟨pre, post, rfl⟩ := List.append_of_mem found
    rw [ensureE820Gap_splits admitted straddles returned]
    exact gapped_split regular gap_forward straddles
  · have unsplit : ∀ entry ∈ table, ¬ Straddles gapStart gapEnd entry :=
      fun entry found straddles => split ⟨entry, found, straddles⟩
    rw [ensureE820Gap_carves unsplit returned]
    exact gapped_carve regular unsplit

/-- The map that the firmware should make of the host's entries. -/
structure WellFormed (host result : E820Table) : Prop where
  sorted : Sorted result
  disjoint : Span.Disjoint (spans result)
  valid : ∀ entry ∈ result, entry.Valid
  gap : ∀ address, 0xa0000 ≤ address → address < 0xf0000 →
    labelsAt (spans result) address = []
  reserved : ∀ address, 0xf0000 ≤ address → address < 0x100000 →
    labelsAt (spans result) address = [E820EntryType.reserved.toRepr]
  kept : ∀ address, address < 0xa0000 ∨ 0x100000 ≤ address →
    (labelsAt (spans result) address).Perm (labelsAt (spans host) address)

theorem labelsAt_perm {first second : E820Table} (perm : first.Perm second) (address : Nat) :
    (labelsAt (spans first) address).Perm (labelsAt (spans second) address) :=
  ((perm.map _).filter _).map _

theorem wellFormed_append {host gapped : E820Table} (gap : Gapped gapStart gapEnd before gapped)
    (inserted : Overrides gapped smbios result) (sorted : Sorted rest)
    (disjoint : Span.Disjoint (spans rest)) (valid : ∀ other ∈ rest, other.Valid)
    (high : ∀ other ∈ rest, 0x100000 ≤ other.span.start)
    (apart : ∀ other ∈ result, ∀ later ∈ rest, other.span.stop ≤ later.span.start)
    (perm : (before ++ rest).Perm host) : WellFormed host (result ++ rest) := by
  have none (address : Nat) (low : address < 0x100000) : labelsAt (spans rest) address = [] :=
    labelsAt_eq_nil_of_lt (List.forall_mem_map.mpr fun other member =>
      low.trans_le (high other member))
  have within (address : Nat) : smbios.span.Contains address ↔
      0xf0000 ≤ address ∧ address < 0x100000 := Iff.rfl
  have starts : gapStart.toNat = 0xa0000 := rfl
  have ends : gapEnd.toNat = 0xf0000 := rfl
  refine ⟨List.pairwise_append.mpr ⟨sorted_of_ordered inserted.ordered, sorted, ?_⟩, ?_,
    List.forall_mem_append.mpr ⟨inserted.valid, valid⟩, fun address low high => ?_,
    fun address low high => ?_, fun address outside => ?_⟩
  · intro other found later member
    exact UInt64.le_iff_toNat_le.mpr (other.start_le_stop.trans (apart other found later member))
  · rw [spans_append]
    refine List.pairwise_append.mpr ⟨inserted.ordered.disjoint, disjoint, ?_⟩
    intro span found span' found' address inside
    obtain ⟨other, member, rfl⟩ := List.mem_map.mp found
    obtain ⟨later, member', rfl⟩ := List.mem_map.mp found'
    have := apart other member later member'
    have := inside.1.2
    have := inside.2.1
    omega
  · have outside : ¬ smbios.span.Contains address := by
      rw [within]
      omega
    rw [spans_append, labelsAt_append, none address (by omega), inserted.labels, if_neg outside,
      gap.labels, if_pos ⟨low, high⟩]
    rfl
  · rw [spans_append, labelsAt_append, none address high, inserted.labels,
      if_pos ((within address).mpr ⟨low, high⟩)]
    rfl
  · have outside' : ¬ smbios.span.Contains address := by
      rw [within]
      omega
    have ungapped : ¬ (0xa0000 ≤ address ∧ address < 0xf0000) := by omega
    have same : labelsAt (spans (result ++ rest)) address =
        labelsAt (spans (before ++ rest)) address := by
      rw [spans_append, labelsAt_append, inserted.labels, if_neg outside', gap.labels, starts,
        ends, if_neg ungapped, spans_append, labelsAt_append]
    rw [same]
    exact labelsAt_perm perm address

/-- All the addresses of a range have one type and no other. -/
def Filled (table : E820Table) (low high : Nat) (label : UInt32) : Prop :=
  ∀ address, low ≤ address → address < high → labelsAt (spans table) address = [label]

/-- An entry reaches beyond the gap on both sides, and its type fills all up to the top. -/
def FilledAcross (table : E820Table) (top : BootE820Entry) : Prop :=
  ∃ other ∈ table, other.span.start < 0xa0000 ∧ 0xf0000 < other.span.stop ∧
    Filled table other.span.start top.span.start other.type_

/-- An entry that wraps is the last one, but for empty ones.  It is above the firmware's range, and
no merge reaches it. -/
def TopClear (table : E820Table) : Prop :=
  ∀ before top later, table = before ++ top :: later → ¬ top.Normal →
    (∀ other ∈ later, other.size = 0) ∧ 0x100000 < top.span.start ∧
      ¬ Filled table 0x100000 top.span.start E820EntryType.reserved.toRepr ∧
      ¬ FilledAcross table top

theorem span_of_empty (empty : entry.size = 0) :
    entry.span = ⟨entry.span.start, entry.span.start, entry.type_⟩ := by
  simp [span, empty]

theorem normal_of_empty (empty : entry.size = 0) : entry.Normal := by
  rw [BootE820Entry.Normal, span_of_empty empty]
  exact entry.addr.toNat_lt

variable {address : Nat}

theorem not_contains_of_empty (empty : entry.size = 0) : ¬ entry.span.Contains address := by
  rw [span_of_empty empty]
  exact fun inside => Nat.not_lt.mpr inside.1 inside.2

section Top

variable {before later : E820Table} {top : BootE820Entry}
  (admitted : Admitted (before ++ top :: later))

include admitted

theorem start_le_of_top : ∀ other ∈ top :: later, top.span.start ≤ other.span.start := by
  obtain ⟨-, sorted, -⟩ := List.pairwise_append.mp admitted.sorted
  rw [List.forall_mem_cons]
  exact ⟨le_rfl, fun other found =>
    UInt64.le_iff_toNat_le.mp ((List.pairwise_cons.mp sorted).1 other found)⟩

theorem labelsAt_below_top (low : address < top.span.start) :
    labelsAt (spans (before ++ top :: later)) address =
      labelsAt (spans before) address := by
  have none : labelsAt (spans (top :: later)) address = [] :=
    labelsAt_eq_nil_of_lt (List.forall_mem_map.mpr fun other member =>
      low.trans_le (start_le_of_top admitted other member))
  rw [spans_append, labelsAt_append, none, List.append_nil]

end Top

/-- The type of a split entry fills all up to the top if it does so from the entry's end on. -/
theorem filledAcross_split {pre mid later : E820Table} {top : BootE820Entry}
    (admitted : Admitted (pre ++ entry :: mid ++ top :: later))
    (normal : ∀ other ∈ pre ++ entry :: mid, other.Normal) (high : 0x100000 < top.span.start)
    (straddles : Straddles gapStart gapEnd entry) :
    FilledAcross (pre ++ entry :: mid ++ top :: later) top ↔
      ∀ address, (tailOf gapEnd entry).span.stop ≤ address → address < top.span.start →
        labelsAt (spans (pre ++ [headOf gapStart entry] ++ mid)) address =
          [(tailOf gapEnd entry).type_] := by
  have entryNormal := normal entry (by simp)
  have regular := admitted.left.regular normal
  have placed := placed_split regular gap_forward straddles
  have head := span_headOf straddles.1
  have tail := span_tailOf entryNormal straddles.2
  have sameType : (tailOf gapEnd entry).type_ = entry.type_ := rfl
  obtain ⟨early, late⟩ : entry.span.start < 0xa0000 ∧ 0xf0000 < entry.span.stop :=
    (straddles_iff entryNormal).mp straddles
  have whole := regular.ordered
  rw [List.append_cons] at whole
  -- below the top, the entry's type is where the entry is, and where it was without the entry
  have labels (address : Nat) (low : address < top.span.start) :
      labelsAt (spans (pre ++ entry :: mid ++ top :: later)) address =
        if entry.span.Contains address then [entry.type_]
        else labelsAt (spans (pre ++ mid)) address := by
    rw [labelsAt_below_top admitted low, List.append_cons, labelsAt_middle whole]
  have labels' (address : Nat) (beyond : entry.span.stop ≤ address) :
      labelsAt (spans (pre ++ [headOf gapStart entry] ++ mid)) address =
        labelsAt (spans (pre ++ mid)) address := by
    rw [labelsAt_middle placed.ordered, if_neg]
    rw [head]
    exact fun inside => absurd inside.2 (Nat.not_lt.mpr (show 0xa0000 ≤ address by omega))
  have stop : (tailOf gapEnd entry).span.stop = entry.span.stop := by rw [tail]
  rw [stop, sameType]
  constructor
  · rintro ⟨other, found, starts, stops, fills⟩ address beyond low
    have sameLabel : other.type_ = entry.type_ := by
      have here := fills 0xa0000 (by omega) (by omega)
      rw [labels _ (by omega), if_pos ⟨by omega, by omega⟩] at here
      exact (List.singleton_inj.mp here).symm
    have here := fills address (by omega) low
    rw [labels _ low, if_neg (fun inside => Nat.not_lt.mpr beyond inside.2)] at here
    rw [labels' address beyond, here, sameLabel]
  · intro fills
    refine ⟨entry, by simp, early, late, fun address from_ low => ?_⟩
    rw [labels _ low]
    split
    · rfl
    · next outside =>
      have beyond : entry.span.stop ≤ address :=
        Nat.not_lt.mp fun inside => outside ⟨from_, inside⟩
      rw [← labels' address beyond]
      exact fills address beyond low

section BelowTop

variable {before later : E820Table} {top : BootE820Entry}
  (admitted : Admitted (before ++ top :: later)) (wraps : ¬ top.Normal)
  (normal : ∀ other ∈ before, other.Normal) (empty : ∀ other ∈ later, other.size = 0)
  (high : 0x100000 < top.span.start)

include admitted normal

theorem stop_le_top : ∀ other ∈ before, other.span.stop ≤ top.span.start := by
  intro other found
  obtain ⟨-, -, follows⟩ := List.pairwise_append.mp admitted.follows
  rw [← (normal other found).endAddr]
  exact UInt64.le_iff_toNat_le.mp (follows other found top List.mem_cons_self)

include high in
theorem straddles_of_across {other : BootE820Entry} (found : other ∈ before ++ top :: later)
    (starts : other.span.start < 0xa0000) (stops : 0xf0000 < other.span.stop) :
    other ∈ before ∧ Straddles gapStart gapEnd other := by
  have member : other ∈ before := by
    refine (List.mem_append.mp found).resolve_right fun above => ?_
    have := start_le_of_top admitted other above
    omega
  exact ⟨member, (straddles_iff (normal other member)).mpr ⟨starts, stops⟩⟩

include wraps empty high

theorem gap_below_top {gapped : E820Table}
    (returned : ensureE820Gap (before ++ top :: later) gapStart gapSize = .ok (some gapped)) :
    (∃ low, Gapped gapStart gapEnd before low ∧ gapped = low ++ top :: later ∧
      ¬ FilledAcross (before ++ top :: later) top) ∨
    ((∀ other ∈ gapped, other.Normal) ∧ FilledAcross (before ++ top :: later) top) := by
  have regular := admitted.left.regular normal
  by_cases split : ∃ entry ∈ before, Straddles gapStart gapEnd entry
  · obtain ⟨entry, found, straddles⟩ := split
    obtain ⟨pre, mid, rfl⟩ := List.append_of_mem found
    have placed := placed_split regular gap_forward straddles
    have across := filledAcross_split admitted normal high straddles
    have laterNormal : ∀ other ∈ later, other.Normal :=
      fun other member => normal_of_empty (empty other member)
    have result : gapped = insertBetween (pre ++ [headOf gapStart entry]) (tailOf gapEnd entry)
        (mid ++ top :: later) := by
      rw [List.append_assoc, List.cons_append] at admitted returned
      rw [ensureE820Gap_splits admitted straddles returned, placed.result, List.append_assoc,
        List.singleton_append]
    obtain ⟨boundTail, boundOthers⟩ := bounded_split regular gap_forward straddles
      (stop_le_top admitted normal)
    rcases placed.below_top wraps laterNormal boundTail boundOthers with
      ⟨same, apart⟩ | ⟨gone, fills⟩
    · refine Or.inl ⟨_, gapped_split regular gap_forward straddles, ?_, ?_⟩
      · rw [result, same, placed.insertBetween_eq]
        simp
      · rwa [across]
    · refine Or.inr ⟨?_, across.mpr fills⟩
      rw [result]
      exact gone
  · left
    have unsplit : ∀ entry ∈ before, ¬ Straddles gapStart gapEnd entry :=
      fun entry found straddles => split ⟨entry, found, straddles⟩
    refine ⟨_, gapped_carve regular unsplit, ?_, ?_⟩
    · have none : ∀ other ∈ top :: later, ¬ reaches gapStart gapEnd other = true := by
        intro other found
        have := start_le_of_top admitted other found
        have outside : gapEnd ≤ other.addr :=
          UInt64.le_iff_toNat_le.mpr (show 0xf0000 ≤ other.span.start by omega)
        rw [reaches_iff]
        exact fun reached => UInt64.not_lt.mpr outside reached.1
      have unsplitAll : ∀ entry ∈ before ++ top :: later, ¬ Straddles gapStart gapEnd entry := by
        rw [List.forall_mem_append]
        exact ⟨unsplit, fun other found straddles =>
          none other found (straddles.reaches (UInt64.le_of_lt gap_forward))⟩
      rw [ensureE820Gap_carves unsplitAll returned, List.flatMap_append, flatMap_carve_of_not_reaches none]
    · rintro ⟨other, found, starts, stops, -⟩
      obtain ⟨member, straddles⟩ := straddles_of_across admitted normal high found starts stops
      exact unsplit other member straddles

/-- The table in the presence of an entry at the top: the firmware's map of the others, or one
from which the entry at the top has disappeared. -/
theorem fill_below_top {gapped result host : E820Table}
    (carved : ensureE820Gap (before ++ top :: later) gapStart gapSize = .ok (some gapped))
    (inserted : insertE820Entry gapped smbios = .ok result)
    (perm : (before ++ top :: later).Perm host) : (WellFormed host result ∧
      ¬ Filled (before ++ top :: later) 0x100000 top.span.start E820EntryType.reserved.toRepr ∧
      ¬ FilledAcross (before ++ top :: later) top) ∨ ((∀ other ∈ result, other.Normal) ∧
      (Filled (before ++ top :: later) 0x100000 top.span.start E820EntryType.reserved.toRepr ∨
        FilledAcross (before ++ top :: later) top)) := by
  have smbiosNormal : smbios.Normal := by decide
  have smbiosValid : smbios.Valid := by decide
  have starts := start_le_of_top admitted
  rcases gap_below_top admitted wraps normal empty high carved with
    ⟨low, gap, rfl, notAcross⟩ | ⟨gone, across⟩
  · obtain ⟨front, after, rfl, below, above⟩ := exists_split low smbios
    have above' : ∀ other ∈ (after ++ top :: later).head?, smbios.addr ≤ other.addr := by
      intro other found
      cases after with
      | nil =>
        cases found
        exact UInt64.le_iff_toNat_le.mpr (show 0xf0000 ≤ top.span.start by omega)
      | cons first rest => exact above other found
    rw [List.append_assoc] at inserted
    have same := eq_insertBetween below above' inserted
    obtain ⟨_, whole, rest, placed⟩ := insertBetween_placed gap.regular smbiosNormal
      smbiosValid below above
    have laterNormal : ∀ other ∈ later, other.Normal :=
      fun other member => normal_of_empty (empty other member)
    have bounds := gap.bounded _ (stop_le_top admitted normal)
    -- the labels above the firmware's range are those of the host
    have filled : Filled (before ++ top :: later) 0x100000 top.span.start
          E820EntryType.reserved.toRepr ↔
        ∀ address, smbios.span.stop ≤ address → address < top.span.start →
          labelsAt (spans (front ++ after)) address = [smbios.type_] := by
      refine forall_congr' fun address => imp_congr_right fun beyond => imp_congr_right fun under => ?_
      have ungapped : ¬ (gapStart.toNat ≤ address ∧ address < gapEnd.toNat) := fun inside =>
        absurd (show address < 0xf0000 from inside.2) (by omega)
      rw [gap.labels, if_neg ungapped, labelsAt_below_top admitted under]
      rfl
    rcases placed.below_top wraps laterNormal (show 0x100000 ≤ _ from high.le) bounds with
      ⟨apart, notFilled⟩ | ⟨gone, fills⟩
    · refine Or.inl ⟨?_, by rwa [filled], notAcross⟩
      have boundResult : ∀ other ∈ insertBetween front smbios after,
          other.span.stop ≤ top.span.start := by
        rw [placed.insertBetween_eq]
        exact placed.bounded_absorbed (show 0x100000 ≤ _ from high.le) bounds
      rw [same, apart]
      refine wellFormed_append gap placed.overrides (List.pairwise_append.mp admitted.sorted).2.1
        ?_ (List.forall_mem_append.mp admitted.valid).2
        (fun other found => high.le.trans (starts other found))
        (fun other found after member => (boundResult other found).trans (starts after member)) perm
      refine List.pairwise_map.mpr (List.pairwise_cons.mpr ⟨fun other found address inside => ?_, ?_⟩)
      · exact not_contains_of_empty (empty other found) inside.2
      · exact List.pairwise_of_forall_mem_list fun other found _ _ address inside =>
          not_contains_of_empty (empty other found) inside.1
    · refine Or.inr ⟨?_, Or.inl (filled.mpr fills)⟩
      rw [same]
      exact gone
  · refine Or.inr ⟨fun other found => ?_, Or.inr across⟩
    exact (mem_insertE820Entry smbiosNormal inserted other found).elim (gone other) id

end BelowTop

theorem fillE820Table_eq_ok {sorter : UnstableSort} {file : Bytes} :
    fillE820Table sorter file = .ok (some result) ↔
      validateE820Table (sorter.sort (readEntries file)) = .ok () ∧
      ∃ gapped, ensureE820Gap (sorter.sort (readEntries file)) gapStart gapSize = .ok (some gapped) ∧
        insertE820Entry gapped smbios = .ok result := by
  simp only [fillE820Table, Outcome.bind_eq_ok]
  constructor
  · rintro ⟨⟨⟩, checked, carved, gap, returned⟩
    cases carved with
    | none => cases returned
    | some gapped =>
      obtain ⟨table, inserted, same⟩ := Outcome.bind_eq_ok.mp returned
      cases same
      exact ⟨checked, gapped, gap, inserted⟩
  · rintro ⟨checked, gapped, gap, inserted⟩
    exact ⟨(), checked, some gapped, gap, Outcome.bind_eq_ok.mpr ⟨result, inserted, rfl⟩⟩

theorem contains_last : entry.span.Contains (2 ^ 64 - 1) ↔ ¬ entry.Normal := by
  have := entry.addr.toNat_lt
  simp only [Span.Contains, BootE820Entry.Normal, span]
  omega

section Exact

variable {host gapped result : E820Table}

theorem length_labelsAt_of_mem {front rest : E820Table} {entry other : BootE820Entry}
    (found : other ∈ front ++ rest) (inside : entry.span.Contains address)
    (inside' : other.span.Contains address) :
    1 < (labelsAt (spans (front ++ entry :: rest)) address).length := by
  have labelled : other.type_ ∈ labelsAt (spans (front ++ rest)) address :=
    mem_labelsAt.mpr ⟨other.span, List.mem_map_of_mem found, inside', rfl⟩
  have some := List.length_pos_of_mem labelled
  rw [spans_append, labelsAt_append, List.length_append] at some ⊢
  rw [spans_cons, labelsAt_cons_of_contains inside, List.length_cons]
  omega

theorem WellFormed.length_host_le (wellFormed : WellFormed host result)
    (outside : address < 0xa0000 ∨ 0x100000 ≤ address) :
    (labelsAt (spans host) address).length ≤ 1 := by
  rw [← (wellFormed.kept address outside).length_eq]
  exact wellFormed.disjoint.length_labelsAt_le address

/-- The entry at the top is in a map that is well formed, and what the firmware inserts does not
reach it. -/
theorem above_of_wellFormed {top : BootE820Entry} (wraps : ¬ top.Normal)
    (inserted : insertE820Entry gapped smbios = .ok result) (sorted : Sorted result)
    (disjoint : Span.Disjoint (spans result)) (found : top ∈ result) :
    0x100000 < top.span.start := by
  have smbiosNormal : smbios.Normal := by decide
  obtain ⟨front, whole, rest, rfl, wholeNormal, starts, stops, knownFront, knownRest⟩ :=
    insertE820Entry_normal smbiosNormal inserted
  obtain ⟨⟨grownNormal, sameAddr, grows⟩, -⟩ := absorbRest_normal wholeNormal knownRest
  have stop : 0x100000 ≤ (absorbRest whole rest).1.span.stop := by
    rw [← grownNormal.endAddr]
    exact UInt64.le_iff_toNat_le.mp (UInt64.le_trans stops grows)
  have start : (absorbRest whole rest).1.span.start ≤ 0xf0000 := by
    rw [← sameAddr] at starts
    exact starts
  rw [absorbed] at found sorted disjoint
  have elsewhere : top ∈ front ++ (absorbRest whole rest).2 := by
    rcases List.mem_append.mp found with early | late
    · exact List.mem_append_left _ early
    · rcases List.mem_cons.mp late with rfl | later
      · exact absurd grownNormal wraps
      · exact List.mem_append_right _ later
  have beyond : (absorbRest whole rest).1.span.stop ≤ top.span.start := by
    by_contra overlap
    have shared := disjoint.length_labelsAt_le
      (max top.span.start (absorbRest whole rest).1.span.start)
    have bothNormal : (absorbRest whole rest).1.span.stop < 2 ^ 64 := grownNormal
    have wide : 2 ^ 64 ≤ top.span.stop := Nat.not_lt.mp wraps
    have two := length_labelsAt_of_mem elsewhere
      (show (absorbRest whole rest).1.span.Contains _ from ⟨Nat.le_max_right _ _, by omega⟩)
      (show top.span.Contains _ from ⟨Nat.le_max_left _ _, by omega⟩)
    omega
  rcases List.mem_append.mp elsewhere with early | late
  · rcases knownFront top early with ⟨-, low⟩ | normal
    · have low : top.span.start < 0xf0000 := UInt64.lt_iff_toNat_lt.mp low
      omega
    · exact absurd normal wraps
  · have apart := absorbRest_apart wholeNormal
      (List.pairwise_cons.mp (List.pairwise_append.mp sorted).2.1).2 late wraps
    rw [UInt64.lt_iff_toNat_lt, grownNormal.endAddr] at apart
    exact stop.trans_lt apart

end Exact

/-- The firmware's map is well formed if and only if the insertions do not reach an entry at the
top of the address space. -/
theorem fillE820Table_wellFormed_iff {sorter : UnstableSort} {file : Bytes} {result : E820Table}
    (returned : fillE820Table sorter file = .ok (some result)) :
    WellFormed (readEntries file) result ↔ TopClear (sorter.sort (readEntries file)) := by
  obtain ⟨checked, gapped, carved, inserted⟩ := fillE820Table_eq_ok.mp returned
  have admitted := admitted_of_validate (sorter.sorted _) checked
  have perm := sorter.perm (readEntries file)
  generalize sorter.sort (readEntries file) = table at admitted perm carved
  generalize readEntries file = host at perm
  have smbiosNormal : smbios.Normal := by decide
  constructor
  · rintro wellFormed before top later rfl wraps
    -- the host gives no address two types, so no other entry is where this one is
    have alone (address : Nat) (outside : 0x100000 ≤ address) (inside : top.span.Contains address) :
        ∀ other ∈ before ++ later, ¬ other.span.Contains address := by
      intro other found inside'
      have two := length_labelsAt_of_mem found inside inside'
      have one := wellFormed.length_host_le (Or.inr outside)
      rw [(labelsAt_perm perm address).length_eq] at two
      omega
    have last := contains_last.mpr wraps
    have others : ∀ other ∈ before ++ later, other.Normal := fun other found =>
      Classical.byContradiction fun otherWraps =>
        alone _ (by decide) last other found (contains_last.mpr otherWraps)
    have found : top ∈ result := by
      have labelled : top.type_ ∈ labelsAt (spans host) (2 ^ 64 - 1) :=
        (labelsAt_perm perm _).subset
          (mem_labelsAt.mpr ⟨top.span, List.mem_map_of_mem (by simp), last, rfl⟩)
      obtain ⟨span, member, inside, -⟩ := mem_labelsAt.mp
        ((wellFormed.kept _ (Or.inr (by decide))).symm.subset labelled)
      obtain ⟨other, found, rfl⟩ := List.mem_map.mp member
      have otherWraps := contains_last.mp inside
      have ingapped := (mem_insertE820Entry smbiosNormal inserted other found).resolve_right otherWraps
      have known := (mem_ensureGapWithin carved other ingapped).resolve_right otherWraps
      have same : other = top := by
        by_contra different
        refine otherWraps (others other ?_)
        simp only [List.mem_append, List.mem_cons] at known ⊢
        tauto
      rwa [← same]
    have high := above_of_wellFormed wraps inserted wellFormed.sorted wellFormed.disjoint found
    have empty : ∀ other ∈ later, other.size = 0 := by
      intro other member
      by_contra nonempty
      have starts := start_le_of_top admitted other (List.mem_cons_of_mem _ member)
      have wide : 2 ^ 64 ≤ top.span.stop := Nat.not_lt.mp wraps
      have positive : 0 < other.size.toNat := by
        rw [Nat.pos_iff_ne_zero]
        exact fun zero => nonempty (UInt64.toNat_inj.mp zero)
      exact alone other.span.start (high.le.trans starts)
        ⟨starts, other.addr.toNat_lt.trans_le wide⟩ other (List.mem_append_right _ member)
        ⟨le_rfl, Nat.lt_add_of_pos_right positive⟩
    rcases fill_below_top admitted wraps (List.forall_mem_append.mp others).1 empty high carved
      inserted perm with ⟨-, clear⟩ | ⟨gone, -⟩
    · exact ⟨empty, high, clear⟩
    · exact absurd (gone top found) wraps
  · intro clear
    by_cases wrapping : ∃ top ∈ table, ¬ top.Normal
    · obtain ⟨top, found, wraps⟩ := wrapping
      obtain ⟨before, later, rfl⟩ := List.append_of_mem found
      obtain ⟨empty, high, notFilled, notAcross⟩ := clear before top later rfl wraps
      have normal : ∀ other ∈ before, other.Normal := by
        intro other member
        by_contra otherWraps
        obtain ⟨first, second, rfl⟩ := List.append_of_mem member
        obtain ⟨topEmpty, -⟩ := clear first other (second ++ top :: later) (by simp) otherWraps
        exact wraps (normal_of_empty (topEmpty top (by simp)))
      rcases fill_below_top admitted wraps normal empty high carved inserted perm with
        ⟨wellFormed, -⟩ | ⟨-, filled | across⟩
      · exact wellFormed
      · exact absurd filled notFilled
      · exact absurd across notAcross
    · have normal : ∀ other ∈ table, other.Normal := fun other found =>
        Classical.byContradiction fun wraps => wrapping ⟨other, found, wraps⟩
      have gap := ensureE820Gap_gapped admitted normal carved
      obtain ⟨front, after, rfl, below, above⟩ := exists_split gapped smbios
      obtain ⟨_, whole, rest, placed⟩ := insertBetween_placed gap.regular smbiosNormal (by decide)
        below above
      rw [eq_insertBetween below above inserted]
      have wellFormed := wellFormed_append gap placed.overrides List.Pairwise.nil
        List.Pairwise.nil nofun nofun nofun ((List.append_nil table).symm ▸ perm)
      rwa [List.append_nil] at wellFormed

/-- One of the sorts that the specification of `sort_unstable_by_key` admits. -/
def insertionSorter : UnstableSort where
  sort table := table.insertionSort fun first second => first.addr ≤ second.addr
  perm table := List.perm_insertionSort _ table
  sorted table := by
    have total : Std.Total fun first second : BootE820Entry => first.addr ≤ second.addr :=
      ⟨fun first second => UInt64.le_total first.addr second.addr⟩
    have transitive : IsTrans BootE820Entry fun first second => first.addr ≤ second.addr :=
      ⟨fun _ _ _ => UInt64.le_trans⟩
    exact List.pairwise_insertionSort _ table

def plainFile : Bytes :=
  [0, 0, 0x10, 0, 0, 0, 0, 0, 0, 0, 0, 1, 0, 0, 0, 0, 1, 0, 0, 0]

theorem plain_wellFormed_iff : fillE820Table insertionSorter plainFile =
      .ok (some [smbios, .new 0x100000 0x1000000 .ram]) ∧
    (WellFormed (readEntries plainFile) [smbios, .new 0x100000 0x1000000 .ram] ↔
      TopClear (insertionSorter.sort (readEntries plainFile))) := by
  have returned : fillE820Table insertionSorter plainFile =
      .ok (some [smbios, .new 0x100000 0x1000000 .ram]) := by
    refine fillE820Table_eq_ok.mpr ⟨rfl, [.new 0x100000 0x1000000 .ram], rfl, ?_⟩
    exact @insertE820Entry_eq _ [] _ _ (by decide) (by decide) (by decide) (by decide) (by decide)
  exact ⟨returned, fillE820Table_wellFormed_iff returned⟩

/-- Memory from 4 KiB on, of a size with which the end wraps to 2 KiB. -/
def wrappingFile : Bytes :=
  [0, 0x10, 0, 0, 0, 0, 0, 0, 0, 0xf8, 0xff, 0xff, 0xff, 0xff, 0xff, 0xff, 1, 0, 0, 0]

/-- The file passes validation, and memory stays where the gap should be. -/
theorem wrapping_end_fills_gap : fillE820Table insertionSorter wrappingFile =
      .ok (some [.new 0x1000 0xfffffffffffff800 .ram, smbios]) ∧
    ¬ WellFormed (readEntries wrappingFile) [.new 0x1000 0xfffffffffffff800 .ram, smbios] := by
  refine ⟨fillE820Table_eq_ok.mpr ⟨rfl, [.new 0x1000 0xfffffffffffff800 .ram], rfl, ?_⟩, ?_⟩
  · exact @insertE820Entry_eq _ [.new 0x1000 0xfffffffffffff800 .ram] [] _ (by decide) (by decide)
      (by decide) (by decide) (by decide)
  · intro wellFormed
    exact absurd (wellFormed.gap 0xa0000 (by decide) (by decide)) (by decide)

end E820Table

end Oak.Stage0
