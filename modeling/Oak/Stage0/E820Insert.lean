import Mathlib.Data.List.TakeWhile
import Oak.Stage0.E820

namespace Oak.Stage0

open Oak.Data

/-! Insertion into the E820 table, as a change of the map that the table describes. -/

namespace BootE820Entry

def span (entry : BootE820Entry) : Span UInt32 :=
  ⟨entry.addr.toNat, entry.addr.toNat + entry.size.toNat, entry.type_⟩

def Normal (entry : BootE820Entry) : Prop := entry.span.stop < 2 ^ 64

def Valid (entry : BootE820Entry) : Prop := ∃ entryType, entry.entryType = some entryType

instance (entry : BootE820Entry) : Decidable entry.Normal := inferInstanceAs (Decidable (_ < _))

instance (entry : BootE820Entry) : Decidable entry.Valid :=
  decidable_of_iff (entry.entryType.isSome = true) Option.isSome_iff_exists

variable {entry other : BootE820Entry}

theorem start_le_stop (entry : BootE820Entry) : entry.span.start ≤ entry.span.stop :=
  Nat.le_add_right _ _

theorem Normal.endAddr (normal : entry.Normal) : entry.endAddr.toNat = entry.span.stop := by
  exact Nat.mod_eq_of_lt normal

theorem Valid.type_eq (valid : entry.Valid) (same : entry.entryType = other.entryType) :
    entry.type_ = other.type_ := by
  obtain ⟨entryType, found⟩ := valid
  rw [← E820EntryType.toRepr_of_fromRepr found,
    ← E820EntryType.toRepr_of_fromRepr (same.symm.trans found)]

theorem entryType_congr (same : entry.type_ = other.type_) : entry.entryType = other.entryType :=
  congrArg E820EntryType.fromRepr same

theorem Valid.congr (valid : entry.Valid) (same : entry.type_ = other.type_) : other.Valid := by
  obtain ⟨entryType, found⟩ := valid
  exact ⟨entryType, (entryType_congr same).symm.trans found⟩

theorem span_setSize {finish : UInt64} (after : entry.addr ≤ finish) :
    (entry.setSize (finish - entry.addr)).span = ⟨entry.span.start, finish.toNat, entry.type_⟩ := by
  have difference := UInt64.toNat_sub_of_le _ _ after
  have bound := UInt64.le_iff_toNat_le.mp after
  simp only [span, setSize, Span.mk.injEq, and_true, true_and]
  omega

theorem span_setStart {start finish : UInt64} (before : start ≤ finish) :
    ((entry.setSize (finish - start)).setAddr start).span =
      ⟨start.toNat, finish.toNat, entry.type_⟩ := by
  have difference := UInt64.toNat_sub_of_le _ _ before
  have bound := UInt64.le_iff_toNat_le.mp before
  simp only [span, setSize, setAddr, Span.mk.injEq, and_true, true_and]
  omega

end BootE820Entry

namespace E820Table

open BootE820Entry

def spans (table : E820Table) : List (Span UInt32) := table.map BootE820Entry.span

@[simp] theorem spans_nil : spans [] = [] := rfl

@[simp] theorem spans_cons (entry : BootE820Entry) (table : E820Table) :
    spans (entry :: table) = entry.span :: spans table := rfl

@[simp] theorem spans_append (first second : E820Table) :
    spans (first ++ second) = spans first ++ spans second := List.map_append

variable {entry : BootE820Entry} {rest before after init : E820Table}

theorem ordered_cons : Span.Ordered (spans (entry :: rest)) ↔
      (∀ later ∈ rest, entry.span.stop ≤ later.span.start) ∧ Span.Ordered (spans rest) := by
  rw [spans_cons, Span.ordered_cons]
  simp [spans]

theorem ordered_append {first second : E820Table} : Span.Ordered (spans (first ++ second)) ↔
    Span.Ordered (spans first) ∧ Span.Ordered (spans second) ∧
      ∀ before ∈ first, ∀ after ∈ second, before.span.stop ≤ after.span.start := by
  rw [spans_append, Span.ordered_append]
  simp [spans]

/-- Entries of known types in order, that end below the top of the address space. -/
@[mk_iff] structure Regular (table : E820Table) : Prop where
  normal : ∀ other ∈ table, other.Normal
  valid : ∀ other ∈ table, other.Valid
  ordered : Span.Ordered (spans table)

theorem regular_append {first second : E820Table} : Regular (first ++ second) ↔
    Regular first ∧ Regular second ∧
      ∀ before ∈ first, ∀ after ∈ second, before.span.stop ≤ after.span.start := by
  simp only [regular_iff, List.forall_mem_append, ordered_append]
  tauto

theorem regular_cons : Regular (entry :: rest) ↔ (entry.Normal ∧ entry.Valid ∧
    ∀ later ∈ rest, entry.span.stop ≤ later.span.start) ∧ Regular rest := by
  simp only [regular_iff, List.forall_mem_cons, ordered_cons]
  tauto

theorem regular_concat : Regular (init ++ [entry]) ↔
    Regular init ∧ (entry.Normal ∧ entry.Valid) ∧
      ∀ other ∈ init, other.span.stop ≤ entry.span.start := by
  rw [regular_append]
  simp [regular_iff, Span.Ordered]

def absorbRest : BootE820Entry → E820Table → BootE820Entry × E820Table
  | entry, [] => (entry, [])
  | entry, next :: rest =>
    if entry.endAddr ≥ next.addr then
      if entry.endAddr ≥ next.endAddr then absorbRest entry rest
      else if entry.entryType = next.entryType then
        absorbRest (entry.setSize (next.endAddr - entry.addr)) rest
      else
        let (grown, rest) := absorbRest entry rest
        (grown, (next.setSize (next.endAddr - entry.endAddr)).setAddr entry.endAddr :: rest)
    else (entry, next :: rest)

def absorbed (entry : BootE820Entry) (rest : E820Table) : E820Table :=
  (absorbRest entry rest).1 :: (absorbRest entry rest).2

theorem eraseIdx_append_length (front : E820Table) (entry : BootE820Entry) (rest : E820Table) :
    (front ++ entry :: rest).eraseIdx front.length = front ++ rest := by
  rw [List.eraseIdx_append_of_length_le le_rfl, Nat.sub_self, List.eraseIdx_cons_zero]

theorem absorb_append (front : E820Table) (entry : BootE820Entry) (rest : E820Table) :
    absorb (front ++ rest) entry front.length =
      (front ++ (absorbRest entry rest).2, (absorbRest entry rest).1) := by
  induction rest generalizing front entry with
  | nil =>
    rw [absorb]
    simp [absorbRest]
  | cons next rest ih =>
    have inside : front.length < (front ++ next :: rest).length := by simp
    have found : (front ++ next :: rest)[front.length] = next := by simp
    rw [absorb, dif_pos inside]
    simp only [found, eraseIdx_append_length, absorbRest, ih]
    split
    · split
      · rfl
      · split
        · rfl
        · have moved := ih (front ++
            [(next.setSize (next.endAddr - entry.endAddr)).setAddr entry.endAddr]) entry
          simpa using moved
    · rfl

theorem absorbAt_append (front : E820Table) (entry : BootE820Entry) (rest : E820Table) :
    absorbAt (front ++ entry :: rest) front.length = .ok (front ++ absorbed entry rest) := by
  have shifted := absorb_append (front ++ [entry]) entry rest
  simp only [List.append_assoc, List.singleton_append, List.length_append,
    List.length_singleton] at shifted
  have found : (front ++ entry :: rest)[front.length]? = some entry := by simp
  simp only [absorbAt, found, shifted]
  simp [absorbed]

theorem absorbRest_stop (above : ∀ next ∈ rest.head?, entry.endAddr < next.addr) :
    absorbRest entry rest = (entry, rest) := by
  cases rest with
  | nil => rfl
  | cons next rest => exact if_neg (UInt64.not_le.mpr (above next rfl))

theorem absorbRest_append {more : E820Table}
    (sorted : ∀ next ∈ rest, ∀ far ∈ more.head?, next.addr ≤ far.addr) :
    absorbRest entry (rest ++ more) = ((absorbRest (absorbRest entry rest).1 more).1,
      (absorbRest entry rest).2 ++ (absorbRest (absorbRest entry rest).1 more).2) := by
  induction rest generalizing entry with
  | nil => rfl
  | cons next rest ih =>
    obtain ⟨first, others⟩ := List.forall_mem_cons.mp sorted
    rw [List.cons_append, absorbRest, absorbRest]
    split
    · split
      · exact ih others
      · split
        · exact ih others
        · simp [ih others]
    · next apart =>
      rw [absorbRest_stop fun far found =>
        UInt64.lt_of_lt_of_le (UInt64.not_le.mp apart) (first far found)]
      rfl

structure Absorbed (entry : BootE820Entry) (rest : E820Table) (grown : BootE820Entry)
    (left : E820Table) : Prop where
  addr_eq : grown.addr = entry.addr
  type_eq : grown.type_ = entry.type_
  stop_le : entry.span.stop ≤ grown.span.stop
  normal : ∀ other ∈ grown :: left, other.Normal
  ordered : Span.Ordered (spans (grown :: left))
  labels : ∀ address, Span.labelsAt (spans (grown :: left)) address =
    if entry.span.Contains address then [entry.type_] else Span.labelsAt (spans rest) address
  apart : ∀ next ∈ left, grown.span.stop < next.span.start ∨ next.entryType ≠ entry.entryType
  types : ∀ next ∈ left, ∃ old ∈ rest, next.type_ = old.type_

theorem Absorbed.start_eq {grown : BootE820Entry} {left : E820Table}
    (after : Absorbed entry rest grown left) : grown.span.start = entry.span.start :=
  congrArg UInt64.toNat after.addr_eq

theorem labelsAt_front (ordered : Span.Ordered (spans (entry :: rest))) (address : Nat) :
    Span.labelsAt (spans (entry :: rest)) address =
      if entry.span.Contains address then [entry.type_]
      else Span.labelsAt (spans rest) address := by
  rw [spans_cons, Span.labelsAt_cons]
  split
  · next inside =>
    have none : Span.labelsAt (spans rest) address = [] :=
      Span.labelsAt_eq_nil_of_lt fun later found =>
        inside.2.trans_le ((Span.ordered_cons.mp ordered).1 later found)
    rw [none]
    rfl
  · rfl

section Cases

variable {entry next grown : BootE820Entry} {rest left : E820Table}

theorem Absorbed.of_covered (after : Absorbed entry rest grown left)
    (starts : entry.span.start ≤ next.span.start) (covered : next.span.stop ≤ entry.span.stop) :
    Absorbed entry (next :: rest) grown left := by
  refine { after with labels := fun address => ?_, types := fun later found => ?_ }
  · rw [after.labels address, spans_cons]
    split
    · rfl
    · next outside =>
      rw [Span.labelsAt_cons_of_not]
      rintro ⟨lower, upper⟩
      exact outside ⟨starts.trans lower, upper.trans_le covered⟩
  · obtain ⟨old, member, same⟩ := after.types later found
    exact ⟨old, List.mem_cons_of_mem _ member, same⟩

theorem Absorbed.of_merged (ordered : Span.Ordered (spans (next :: rest))) (sameLabel : next.type_ = entry.type_)
    {merged : BootE820Entry} (sameAddr : merged.addr = entry.addr)
    (span_eq : merged.span = ⟨entry.span.start, next.span.stop, entry.type_⟩)
    (after : Absorbed merged rest grown left) (starts : entry.span.start ≤ next.span.start)
    (reached : next.span.start ≤ entry.span.stop) (longer : entry.span.stop < next.span.stop) :
    Absorbed entry (next :: rest) grown left := by
  have sameType : merged.type_ = entry.type_ := congrArg Span.label span_eq
  refine ⟨after.addr_eq.trans sameAddr, after.type_eq.trans sameType, ?_, after.normal,
    after.ordered, fun address => ?_, fun later found => ?_, fun later found => ?_⟩
  · have grows := after.stop_le
    rw [span_eq] at grows
    exact longer.le.trans grows
  · have whole : merged.span.Contains address ↔
        entry.span.Contains address ∨ next.span.Contains address := by
      simp only [span_eq, Span.Contains]
      omega
    rw [after.labels address, labelsAt_front ordered, sameLabel, sameType]
    by_cases inEntry : entry.span.Contains address <;>
      by_cases inNext : next.span.Contains address <;> simp [whole, inEntry]
  · rw [← entryType_congr sameType]
    exact after.apart later found
  · obtain ⟨old, member, same⟩ := after.types later found
    exact ⟨old, List.mem_cons_of_mem _ member, same⟩

theorem absorbed_of_shrunk (ordered : Span.Ordered (spans (next :: rest))) {moved : BootE820Entry}
    (span_eq : moved.span = ⟨entry.span.stop, next.span.stop, next.type_⟩) (normal : entry.Normal)
    (normalRest : ∀ later ∈ next :: rest, later.Normal) (starts : entry.span.start ≤ next.span.start)
    (reached : next.span.start ≤ entry.span.stop) (longer : entry.span.stop < next.span.stop)
    (otherType : entry.entryType ≠ next.entryType) :
    Absorbed entry (next :: rest) entry (moved :: rest) := by
  rw [List.forall_mem_cons] at normalRest
  obtain ⟨below, orderedRest⟩ := ordered_cons.mp ordered
  have sameType : moved.type_ = next.type_ := congrArg Span.label span_eq
  have orderedMoved : Span.Ordered (spans (moved :: rest)) := by
    rw [ordered_cons, span_eq]
    exact ⟨below, orderedRest⟩
  have orderedAll : Span.Ordered (spans (entry :: moved :: rest)) := by
    rw [ordered_cons, List.forall_mem_cons, span_eq]
    exact ⟨⟨le_rfl, fun later found => longer.le.trans (below later found)⟩, orderedMoved⟩
  refine ⟨rfl, rfl, le_rfl, ?_, orderedAll, fun address => ?_, ?_, ?_⟩
  · rw [List.forall_mem_cons, List.forall_mem_cons, BootE820Entry.Normal, BootE820Entry.Normal, span_eq]
    exact ⟨normal, normalRest.1, normalRest.2⟩
  · rw [labelsAt_front orderedAll, labelsAt_front orderedMoved, labelsAt_front ordered, sameType]
    by_cases inEntry : entry.span.Contains address
    · rw [if_pos inEntry, if_pos inEntry]
    · have part : moved.span.Contains address ↔ next.span.Contains address := by
        simp only [span_eq, Span.Contains] at inEntry ⊢
        omega
      simp [part]
  · rw [List.forall_mem_cons, BootE820Entry.entryType, sameType]
    exact ⟨Or.inr otherType.symm, fun later found => Or.inl (longer.trans_le (below later found))⟩
  · rw [List.forall_mem_cons]
    exact ⟨⟨next, List.mem_cons_self, sameType⟩,
      fun later found => ⟨later, List.mem_cons_of_mem _ found, rfl⟩⟩

theorem absorbed_of_apart (ordered : Span.Ordered (spans (next :: rest))) (normal : entry.Normal)
    (normalRest : ∀ later ∈ next :: rest, later.Normal)
    (apart : entry.span.stop < next.span.start) :
    Absorbed entry (next :: rest) entry (next :: rest) := by
  have beyond : ∀ later ∈ next :: rest, entry.span.stop < later.span.start := by
    rw [List.forall_mem_cons]
    exact ⟨apart, fun later found =>
      apart.trans_le (next.start_le_stop.trans ((ordered_cons.mp ordered).1 later found))⟩
  have orderedAll : Span.Ordered (spans (entry :: next :: rest)) :=
    ordered_cons.mpr ⟨fun later found => (beyond later found).le, ordered⟩
  exact ⟨rfl, rfl, le_rfl, List.forall_mem_cons.mpr ⟨normal, normalRest⟩, orderedAll,
    fun address => labelsAt_front orderedAll address, fun later found => Or.inl (beyond later found),
    fun later found => ⟨later, found, rfl⟩⟩

end Cases

theorem absorbRest_spec (normal : entry.Normal) (valid : entry.Valid)
    (normalRest : ∀ next ∈ rest, next.Normal) (ordered : Span.Ordered (spans rest))
    (starts : ∀ next ∈ rest, entry.span.start ≤ next.span.start) :
    Absorbed entry rest (absorbRest entry rest).1 (absorbRest entry rest).2 := by
  induction rest generalizing entry with
  | nil =>
    have alone : Span.Ordered (spans [entry]) := List.pairwise_singleton _ _
    exact ⟨rfl, rfl, le_rfl, by simpa [absorbRest] using normal, alone,
      fun address => labelsAt_front alone address, by simp [absorbRest], by simp [absorbRest]⟩
  | cons next rest ih =>
    obtain ⟨normalNext, normalLater⟩ := List.forall_mem_cons.mp normalRest
    obtain ⟨startNext, startLater⟩ := List.forall_mem_cons.mp starts
    obtain ⟨below, orderedRest⟩ := ordered_cons.mp ordered
    have entryEnd := normal.endAddr
    have nextEnd := normalNext.endAddr
    rw [absorbRest]
    split
    · next reached =>
      rw [ge_iff_le, UInt64.le_iff_toNat_le, entryEnd] at reached
      split
      · next covered =>
        rw [ge_iff_le, UInt64.le_iff_toNat_le, entryEnd, nextEnd] at covered
        exact (ih normal valid normalLater orderedRest startLater).of_covered startNext covered
      · next longer =>
        rw [ge_iff_le, UInt64.le_iff_toNat_le, entryEnd, nextEnd, Nat.not_le] at longer
        split
        · next sameType =>
          have forward : entry.addr ≤ next.endAddr := by
            rw [UInt64.le_iff_toNat_le, nextEnd]
            exact entry.start_le_stop.trans longer.le
          have merged := span_setSize forward
          rw [nextEnd] at merged
          have sameAddr : (entry.setSize (next.endAddr - entry.addr)).addr = entry.addr := rfl
          refine .of_merged ordered (valid.type_eq sameType).symm sameAddr merged
            (ih ?_ (valid.congr rfl) normalLater orderedRest ?_) startNext reached longer
          · rw [BootE820Entry.Normal, merged]
            exact normalNext
          · exact startLater
        · next otherType =>
          have stops : absorbRest entry rest = (entry, rest) := by
            refine absorbRest_stop fun later found => ?_
            rw [UInt64.lt_iff_toNat_lt, entryEnd]
            exact longer.trans_le (below later (List.mem_of_mem_head? found))
          have forward : entry.endAddr ≤ next.endAddr := by
            rw [UInt64.le_iff_toNat_le, entryEnd, nextEnd]
            exact longer.le
          simp only [stops]
          refine absorbed_of_shrunk ordered ?_ normal normalRest startNext reached longer otherType
          rw [span_setStart forward, entryEnd, nextEnd]
    · next apart =>
      rw [ge_iff_le, UInt64.le_iff_toNat_le, entryEnd, Nat.not_le] at apart
      exact absorbed_of_apart ordered normal normalRest apart

/-- What is left behind the new entry of a previous one that reaches beyond it. -/
def remainder (entry previous : BootE820Entry) (after : E820Table) : E820Table :=
  if previous.endAddr > entry.endAddr then
    (previous.setSize (previous.endAddr - entry.endAddr)).setAddr entry.endAddr :: after
  else after

/-- The table that insertion leaves, of the entries that start before the new one and the others. -/
def insertBetween (before : E820Table) (entry : BootE820Entry) (after : E820Table) : E820Table :=
  match before.getLast? with
  | none => absorbed entry after
  | some overlapping =>
    if overlapping.endAddr ≥ entry.addr then
      if overlapping.entryType = entry.entryType then
        before.dropLast ++ absorbed
          (if overlapping.endAddr < entry.endAddr then
            overlapping.setSize (entry.endAddr - overlapping.addr)
          else overlapping) after
      else
        before.dropLast ++ overlapping.setSize (entry.addr - overlapping.addr) ::
          absorbed entry (remainder entry overlapping after)
    else before ++ absorbed entry after

theorem findIdx_split (below : ∀ other ∈ before, other.addr < entry.addr)
    (above : ∀ other ∈ after.head?, entry.addr ≤ other.addr) :
    (before ++ after).findIdx (fun other => entry.addr ≤ other.addr) = before.length := by
  have none : before.findIdx (fun other => entry.addr ≤ other.addr) = before.length := by
    rw [List.findIdx_eq_length]
    intro other found
    simpa using below other found
  have first : after.findIdx (fun other => entry.addr ≤ other.addr) = 0 := by
    cases after with
    | nil => rfl
    | cons other after => simp [List.findIdx_cons, above other rfl]
  rw [List.findIdx_append, none, first]
  simp

theorem insertIdx_append (front rest : E820Table) (entry : BootE820Entry) :
    (front ++ rest).insertIdx front.length entry = front ++ entry :: rest := by
  induction front with
  | nil => rfl
  | cons first front ih => simp [ih]

theorem insertAt_append (front rest : E820Table) (entry : BootE820Entry) :
    insertAt (front ++ rest) entry front.length =
      if (front ++ rest).length < capacity then .ok (front ++ entry :: rest)
      else .panic "index out of bounds: the len is 128 but the index is 128" := by
  rw [insertAt, if_neg (by simp), insertIdx_append]

theorem insertApart_append (front rest : E820Table) (entry : BootE820Entry) :
    insertApart (front ++ rest) entry front.length =
      if (front ++ rest).length < capacity then .ok (front ++ absorbed entry rest)
      else .panic "index out of bounds: the len is 128 but the index is 128" := by
  rw [insertApart, insertAt_append]
  split
  · exact absorbAt_append front entry rest
  · rfl

theorem set_last (init rest : E820Table) (last entry : BootE820Entry) :
    (init ++ [last] ++ rest).set ((init ++ [last]).length - 1) entry = init ++ entry :: rest := by
  simp

theorem insertOverlapping_merge {overlapping : BootE820Entry}
    (same : overlapping.entryType = entry.entryType) :
    insertOverlapping (init ++ [overlapping] ++ rest) entry (init ++ [overlapping]).length overlapping =
      .ok (init ++ absorbed (if overlapping.endAddr < entry.endAddr then
          overlapping.setSize (entry.endAddr - overlapping.addr) else overlapping) rest) := by
  have last : (init ++ [overlapping]).length - 1 = init.length := by simp
  rw [insertOverlapping, if_pos same]
  simp only [set_last]
  rw [last, absorbAt_append]

theorem insertAt_trimmed (init rest : E820Table) (overlapping trimmed entry : BootE820Entry) :
    (insertAt (init ++ [overlapping] ++ rest) entry (init ++ [overlapping]).length >>= fun table =>
      absorbAt (table.set ((init ++ [overlapping]).length - 1) trimmed)
        (init ++ [overlapping]).length) =
      if (init ++ [overlapping] ++ rest).length < capacity then
        .ok (init ++ trimmed :: absorbed entry rest)
      else .panic "index out of bounds: the len is 128 but the index is 128" := by
  rw [insertAt_append]
  split
  · have placed := absorbAt_append (init ++ [trimmed]) entry rest
    simpa using placed
  · rfl

theorem insertOverlapping_trim {overlapping : BootE820Entry}
    (other : overlapping.entryType ≠ entry.entryType) :
    insertOverlapping (init ++ [overlapping] ++ rest) entry (init ++ [overlapping]).length
        overlapping = .ok (init ++ overlapping.setSize (entry.addr - overlapping.addr) ::
        absorbed entry (remainder entry overlapping rest)) ∨
      (insertOverlapping (init ++ [overlapping] ++ rest) entry (init ++ [overlapping]).length
        overlapping).IsPanic ∧
        (capacity < (init ++ [overlapping] ++ rest).length + 2 ∨ ¬ overlapping.Valid) := by
  rw [insertOverlapping, if_neg other, remainder]
  by_cases long : overlapping.endAddr > entry.endAddr
  · simp only [if_pos long]
    cases known : overlapping.entryType with
    | none =>
      refine Or.inr ⟨trivial, Or.inr ?_⟩
      rintro ⟨entryType, found⟩
      rw [known] at found
      cases found
    | some entryType =>
      have piece : BootE820Entry.new entry.endAddr (overlapping.endAddr - entry.endAddr)
          entryType =
            (overlapping.setSize (overlapping.endAddr - entry.endAddr)).setAddr entry.endAddr := by
        simp [BootE820Entry.new, setSize, setAddr, E820EntryType.toRepr_of_fromRepr known]
      simp only [piece, insertAt_append]
      by_cases room : (init ++ [overlapping] ++ rest).length < capacity
      · have behind := insertAt_trimmed init
          ((overlapping.setSize (overlapping.endAddr - entry.endAddr)).setAddr entry.endAddr :: rest)
          overlapping (overlapping.setSize (entry.addr - overlapping.addr)) entry
        simp only [if_pos room, Outcome.ok_bind, behind]
        split
        · exact Or.inl rfl
        · next full =>
          refine Or.inr ⟨trivial, Or.inl ?_⟩
          simp only [List.length_append, List.length_cons] at full room ⊢
          omega
      · simp only [if_neg room]
        exact Or.inr ⟨trivial, Or.inl (by omega)⟩
  · simp only [if_neg long, Outcome.ok_bind]
    rw [insertAt_trimmed]
    split
    · exact Or.inl rfl
    · exact Or.inr ⟨trivial, Or.inl (by omega)⟩

/-- Insertion succeeds if there is room for two entries and types are valid; in any case what it
returns is this table. -/
theorem insertE820Entry_cases (below : ∀ other ∈ before, other.addr < entry.addr)
    (above : ∀ other ∈ after.head?, entry.addr ≤ other.addr) :
    insertE820Entry (before ++ after) entry = .ok (insertBetween before entry after) ∨
      (insertE820Entry (before ++ after) entry).IsPanic ∧
        (capacity < (before ++ after).length + 2 ∨ ∃ other ∈ before, ¬ other.Valid) := by
  have index := findIdx_split below above
  simp only [insertE820Entry, index, List.take_left, insertBetween]
  have apart : insertApart (before ++ after) entry before.length =
        .ok (before ++ absorbed entry after) ∨
      (insertApart (before ++ after) entry before.length).IsPanic ∧
        (capacity < (before ++ after).length + 2 ∨ ∃ other ∈ before, ¬ other.Valid) := by
    rw [insertApart_append]
    split
    · exact Or.inl rfl
    · exact Or.inr ⟨trivial, Or.inl (by omega)⟩
  rcases List.eq_nil_or_concat' before with rfl | ⟨init, overlapping, rfl⟩
  · simpa using apart
  · simp only [List.getLast?_append_cons, List.getLast?_singleton, List.dropLast_concat]
    split
    · split
      · next same => exact Or.inl (insertOverlapping_merge same)
      · next other =>
        rcases insertOverlapping_trim other with placed | ⟨panicked, full | invalid⟩
        · exact Or.inl placed
        · exact Or.inr ⟨panicked, Or.inl full⟩
        · exact Or.inr ⟨panicked, Or.inr ⟨overlapping, by simp, invalid⟩⟩
    · exact apart

theorem eq_insertBetween {result : E820Table} (below : ∀ other ∈ before, other.addr < entry.addr)
    (above : ∀ other ∈ after.head?, entry.addr ≤ other.addr)
    (returned : insertE820Entry (before ++ after) entry = .ok result) :
    result = insertBetween before entry after := by
  rcases insertE820Entry_cases below above with placed | ⟨panicked, -⟩
  · exact Except.ok.inj (returned.symm.trans placed)
  · rw [returned] at panicked
    cases panicked

theorem sorted_of_ordered {table : E820Table} (ordered : Span.Ordered (spans table)) :
    Sorted table := by
  refine (List.pairwise_map.mp ordered).imp fun {first second} before => ?_
  exact UInt64.le_iff_toNat_le.mpr (first.start_le_stop.trans before)

theorem exists_split (table : E820Table) (entry : BootE820Entry) :
    ∃ before after, table = before ++ after ∧ (∀ other ∈ before, other.addr < entry.addr) ∧
      ∀ other ∈ after.head?, entry.addr ≤ other.addr := by
  refine ⟨_, _, (List.takeWhile_append_dropWhile (p := (·.addr < entry.addr))).symm,
    fun other found => ?_, fun other found => ?_⟩
  · simpa using List.mem_takeWhile_imp found
  · have first := List.head?_dropWhile_not (·.addr < entry.addr) table
    rw [Option.mem_def.mp found] at first
    simpa using first

theorem above_of_sorted (sorted : Sorted after)
    (above : ∀ other ∈ after.head?, entry.addr ≤ other.addr) :
    ∀ other ∈ after, entry.span.start ≤ other.span.start := by
  cases after with
  | nil => nofun
  | cons first rest =>
    have least := above first rfl
    rw [List.forall_mem_cons]
    exact ⟨UInt64.le_iff_toNat_le.mp least, fun other found => UInt64.le_iff_toNat_le.mp
      (UInt64.le_trans least ((List.pairwise_cons.mp sorted).1 other found))⟩

def Touches (first second : BootE820Entry) : Prop :=
  first.span.stop = second.span.start ∧ first.entryType = second.entryType

theorem labelsAt_middle {middle : BootE820Entry}
    (ordered : Span.Ordered (spans (init ++ [middle] ++ after))) (address : Nat) :
    Span.labelsAt (spans (init ++ [middle] ++ after)) address =
      if middle.span.Contains address then [middle.type_]
      else Span.labelsAt (spans (init ++ after)) address := by
  rw [List.append_assoc, List.singleton_append] at ordered ⊢
  obtain ⟨-, orderedRest, cross⟩ := ordered_append.mp ordered
  rw [spans_append, Span.labelsAt_append, labelsAt_front orderedRest]
  split
  · next inside =>
    rw [Span.labelsAt_eq_nil_of_le, List.nil_append]
    exact List.forall_mem_map.mpr fun other member =>
      (cross other member middle List.mem_cons_self).trans inside.1
  · rw [spans_append, Span.labelsAt_append]

/-- What the first half of an insertion does: the entries `front` and `rest` are the others, trimmed
to make place for `whole`, which is the new entry or the previous one grown by it. -/
structure Placed (before : E820Table) (entry : BootE820Entry) (after : E820Table)
    (front : E820Table) (whole : BootE820Entry) (rest : E820Table) : Prop where
  result : ∀ tail, insertBetween before entry (after ++ tail) = front ++ absorbed whole (rest ++ tail)
  normal : ∀ other ∈ front ++ rest, other.Normal
  valid : ∀ other ∈ front ++ rest, other.Valid
  ordered : Span.Ordered (spans (front ++ rest))
  wholeNormal : whole.Normal
  wholeValid : whole.Valid
  ends : ∀ other ∈ front, other.span.stop ≤ whole.span.start
  begins : ∀ other ∈ rest, whole.span.start ≤ other.span.start
  starts : whole.span.start ≤ entry.span.start
  stops : entry.span.stop ≤ whole.span.stop
  sameType : whole.type_ = entry.type_
  labels : ∀ address,
    (if whole.span.Contains address then [whole.type_]
      else Span.labelsAt (spans (front ++ rest)) address) =
    if entry.span.Contains address then [entry.type_]
      else Span.labelsAt (spans (before ++ after)) address
  previous : ∀ previous ∈ front.getLast?, previous.span.stop = whole.span.start →
    previous.entryType = whole.entryType →
    previous ∈ before ++ after ∧ ∃ old ∈ before ++ after, Touches previous old
  bounded : ∀ bound, entry.span.stop ≤ bound →
    (∀ other ∈ before ++ after, other.span.stop ≤ bound) →
    whole.span.stop ≤ bound ∧ ∀ other ∈ front ++ rest, other.span.stop ≤ bound

section Placing

variable {init before after : E820Table} {previous entry : BootE820Entry}

theorem placed_apart (regular : Regular (before ++ after)) (entryNormal : entry.Normal)
    (entryValid : entry.Valid) (ends : ∀ other ∈ before, other.span.stop < entry.span.start)
    (above : ∀ other ∈ after, entry.span.start ≤ other.span.start)
    (result : ∀ tail, insertBetween before entry (after ++ tail) =
      before ++ absorbed entry (after ++ tail)) :
    Placed before entry after before entry after :=
  { regular with
    result := result
    wholeNormal := entryNormal
    wholeValid := entryValid
    ends := fun other found => (ends other found).le
    begins := above
    starts := le_rfl
    stops := le_rfl
    sameType := rfl
    labels := fun _ => rfl
    previous := fun last found touches =>
      absurd touches (ends last (List.mem_of_getLast? found)).ne
    bounded := fun _ bound boundOthers => ⟨bound, boundOthers⟩ }

theorem span_merged (previousNormal : previous.Normal) (entryNormal : entry.Normal) :
    (if previous.endAddr < entry.endAddr then previous.setSize (entry.endAddr - previous.addr)
      else previous).span =
      ⟨previous.span.start, max previous.span.stop entry.span.stop, previous.type_⟩ := by
  split
  · next longer =>
    rw [UInt64.lt_iff_toNat_lt, previousNormal.endAddr, entryNormal.endAddr] at longer
    have forward : previous.addr ≤ entry.endAddr := by
      rw [UInt64.le_iff_toNat_le, entryNormal.endAddr]
      exact previous.start_le_stop.trans longer.le
    rw [span_setSize forward, entryNormal.endAddr, Nat.max_eq_right longer.le]
  · next shorter =>
    rw [UInt64.lt_iff_toNat_lt, previousNormal.endAddr, entryNormal.endAddr] at shorter
    rw [Nat.max_eq_left (Nat.le_of_not_lt shorter)]
    rfl

theorem placed_merge (regular : Regular (init ++ [previous] ++ after)) (entryNormal : entry.Normal)
    (starts : previous.span.start < entry.span.start) (reaches : entry.span.start ≤ previous.span.stop)
    (sameType : previous.entryType = entry.entryType)
    (result : ∀ tail, insertBetween (init ++ [previous]) entry (after ++ tail) =
      init ++ absorbed (if previous.endAddr < entry.endAddr then
        previous.setSize (entry.endAddr - previous.addr) else previous) (after ++ tail)) :
    Placed (init ++ [previous]) entry after init
      (if previous.endAddr < entry.endAddr then previous.setSize (entry.endAddr - previous.addr)
      else previous) after := by
  have labels := labelsAt_middle regular.ordered
  rw [List.append_assoc, List.singleton_append, regular_append, regular_cons] at regular
  obtain ⟨regularInit, ⟨⟨normal, valid, below⟩, regularAfter⟩, cross⟩ := regular
  have span_eq := span_merged normal entryNormal
  have sameLabel : previous.type_ = entry.type_ := valid.type_eq sameType
  have others : Regular (init ++ after) := regular_append.mpr
    ⟨regularInit, regularAfter, fun other found later member =>
      cross other found later (List.mem_cons_of_mem _ member)⟩
  generalize (if previous.endAddr < entry.endAddr then
    previous.setSize (entry.endAddr - previous.addr) else previous) = whole at result span_eq ⊢
  have wholeType : whole.type_ = previous.type_ := congrArg Span.label span_eq
  have start_eq : whole.span.start = previous.span.start := by rw [span_eq]
  have stop_eq : whole.span.stop = max previous.span.stop entry.span.stop := by rw [span_eq]
  refine { others with
    result
    wholeNormal := ?_
    wholeValid := valid.congr wholeType.symm
    ends := ?_
    begins := ?_
    starts := ?_
    stops := ?_
    sameType := wholeType.trans sameLabel
    labels := fun address => ?_
    previous := fun last found touches same => ?_
    bounded := fun bound boundEntry boundOthers => ?_ }
  · rw [BootE820Entry.Normal, stop_eq]
    exact max_lt normal entryNormal
  · intro other found
    rw [start_eq]
    exact cross other found previous List.mem_cons_self
  · intro later found
    rw [start_eq]
    exact previous.start_le_stop.trans (below later found)
  · rw [start_eq]
    exact starts.le
  · rw [stop_eq]
    exact Nat.le_max_right _ _
  · have either : whole.span.Contains address ↔
        previous.span.Contains address ∨ entry.span.Contains address := by
      simp only [Span.Contains]
      omega
    rw [labels address, wholeType, sameLabel]
    by_cases inPrevious : previous.span.Contains address <;>
      by_cases inEntry : entry.span.Contains address <;> simp [either, inPrevious]
  · have member := List.mem_of_getLast? found
    exact ⟨by simp [member], previous, by simp, touches.trans start_eq,
      same.trans (entryType_congr wholeType)⟩
  · rw [stop_eq]
    refine ⟨max_le (boundOthers previous (by simp)) boundEntry, fun other found => ?_⟩
    exact boundOthers other (by simp at found ⊢; tauto)

theorem remainder_append (entry previous : BootE820Entry) (after tail : E820Table) :
    remainder entry previous (after ++ tail) = remainder entry previous after ++ tail := by
  unfold remainder
  split <;> rfl

/-- The remainder is part of the previous entry, from the end of the new one on. -/
structure Remains (entry previous : BootE820Entry) (after rest : E820Table) : Prop where
  normal : ∀ other ∈ rest, other.Normal
  valid : ∀ other ∈ rest, other.Valid
  begins : ∀ other ∈ rest, entry.span.start ≤ other.span.start
  ordered : Span.Ordered (spans rest)
  labels : ∀ address, Span.labelsAt (spans rest) address =
    if entry.span.stop ≤ address ∧ previous.span.Contains address then [previous.type_]
    else Span.labelsAt (spans after) address
  bounded : ∀ other ∈ rest, other.span.stop = previous.span.stop ∨ other ∈ after

theorem remainder_spec (regular : Regular (previous :: after)) (entryNormal : entry.Normal)
    (starts : previous.span.start < entry.span.start)
    (above : ∀ other ∈ after, entry.span.start ≤ other.span.start) :
    Remains entry previous after (remainder entry previous after) := by
  obtain ⟨⟨normal, valid, below⟩, regularAfter⟩ := regular_cons.mp regular
  have entryBounds := entry.start_le_stop
  by_cases longer : previous.endAddr > entry.endAddr
  · have span_eq :
        ((previous.setSize (previous.endAddr - entry.endAddr)).setAddr entry.endAddr).span = _ :=
      span_setStart (UInt64.le_of_lt longer)
    rw [normal.endAddr, entryNormal.endAddr] at span_eq
    rw [remainder, if_pos longer]
    generalize (previous.setSize (previous.endAddr - entry.endAddr)).setAddr entry.endAddr = piece
      at span_eq
    have pieceType : piece.type_ = previous.type_ := congrArg Span.label span_eq
    have pieces : Regular (piece :: after) := by
      rw [regular_cons, BootE820Entry.Normal, span_eq]
      exact ⟨⟨normal, valid.congr pieceType.symm, below⟩, regularAfter⟩
    refine { pieces with
      begins := List.forall_mem_cons.mpr ⟨?_, above⟩
      labels := fun address => ?_
      bounded := List.forall_mem_cons.mpr ⟨Or.inl ?_, fun other found => Or.inr found⟩ }
    · rw [span_eq]
      exact entryBounds
    · have part : piece.span.Contains address ↔
          entry.span.stop ≤ address ∧ previous.span.Contains address := by
        simp only [span_eq, Span.Contains]
        omega
      rw [labelsAt_front pieces.ordered, pieceType]
      simp only [part]
    · rw [span_eq]
  · have stops := UInt64.le_iff_toNat_le.mp (UInt64.not_lt.mp longer)
    rw [normal.endAddr, entryNormal.endAddr] at stops
    rw [remainder, if_neg longer]
    refine { regularAfter with
      begins := above, labels := fun address => ?_, bounded := fun other found => Or.inr found }
    rw [if_neg]
    rintro ⟨beyond, -, inside⟩
    omega

theorem placed_trim (regular : Regular (init ++ [previous] ++ after)) (entryNormal : entry.Normal)
    (entryValid : entry.Valid) (starts : previous.span.start < entry.span.start)
    (reaches : entry.span.start ≤ previous.span.stop)
    (above : ∀ other ∈ after, entry.span.start ≤ other.span.start)
    (otherType : previous.entryType ≠ entry.entryType)
    (result : ∀ tail, insertBetween (init ++ [previous]) entry (after ++ tail) =
      init ++ previous.setSize (entry.addr - previous.addr) ::
        absorbed entry (remainder entry previous (after ++ tail))) :
    Placed (init ++ [previous]) entry after (init ++ [previous.setSize (entry.addr - previous.addr)])
      entry (remainder entry previous after) := by
  have labels := labelsAt_middle regular.ordered
  rw [List.append_assoc, List.singleton_append, regular_append] at regular
  obtain ⟨regularInit, regularRest, cross⟩ := regular
  have crossPrevious : ∀ other ∈ init, other.span.stop ≤ previous.span.start := fun other found =>
    cross other found previous List.mem_cons_self
  have remains := remainder_spec regularRest entryNormal starts above
  have entryBounds := entry.start_le_stop
  have trimmed : (previous.setSize (entry.addr - previous.addr)).span =
      ⟨previous.span.start, entry.span.start, previous.type_⟩ :=
    span_setSize (UInt64.le_iff_toNat_le.mpr starts.le)
  generalize previous.setSize (entry.addr - previous.addr) = front at trimmed result
  have frontType : front.type_ = previous.type_ := congrArg Span.label trimmed
  have frontEnds : ∀ other ∈ init ++ [front], other.span.stop ≤ entry.span.start := by
    rw [List.forall_mem_append, List.forall_mem_singleton, trimmed]
    exact ⟨fun other found => (crossPrevious other found).trans starts.le, le_rfl⟩
  have trimmedRegular : Regular (init ++ [front]) := by
    rw [regular_concat, BootE820Entry.Normal, trimmed]
    exact ⟨regularInit, ⟨entryBounds.trans_lt entryNormal,
      (regularRest.valid previous List.mem_cons_self).congr frontType.symm⟩, crossPrevious⟩
  have others : Regular (init ++ [front] ++ remainder entry previous after) :=
    regular_append.mpr ⟨trimmedRegular, { remains with },
      fun other found later member => (frontEnds other found).trans (remains.begins later member)⟩
  refine { others with
    result := fun tail => ?_
    wholeNormal := entryNormal
    wholeValid := entryValid
    ends := frontEnds
    begins := remains.begins
    starts := le_rfl
    stops := le_rfl
    sameType := rfl
    labels := fun address => ?_
    previous := fun last found touches same => ?_
    bounded := fun bound boundEntry boundOthers => ⟨boundEntry, ?_⟩ }
  · rw [result, remainder_append]
    simp
  · split
    · rfl
    · next outside =>
      rw [labels address, labelsAt_middle others.ordered, spans_append, Span.labelsAt_append,
        remains.labels, frontType]
      simp only [Span.Contains] at outside
      have initLabels : previous.span.Contains address →
          Span.labelsAt (spans init) address = [] := fun inside =>
        Span.labelsAt_eq_nil_of_le (List.forall_mem_map.mpr fun other member =>
          (crossPrevious other member).trans inside.1)
      by_cases before : address < entry.span.start
      · have same : front.span.Contains address ↔ previous.span.Contains address := by
          simp only [trimmed, Span.Contains]
          omega
        have early : ¬ entry.span.stop ≤ address := by omega
        simp [same, early]
      · have late : entry.span.stop ≤ address := by omega
        have notFront : ¬ front.span.Contains address := by
          simp only [trimmed, Span.Contains]
          omega
        by_cases inside : previous.span.Contains address
        · simp [notFront, late, initLabels inside]
        · simp [notFront, inside]
  · rw [List.getLast?_append_cons, List.getLast?_singleton, Option.mem_some_iff] at found
    subst found
    rw [BootE820Entry.entryType, frontType] at same
    exact absurd same otherType
  · rw [List.forall_mem_append, List.forall_mem_append, List.forall_mem_singleton, trimmed]
    refine ⟨⟨fun other found => boundOthers other (by simp [found]),
      entryBounds.trans boundEntry⟩, fun other found => ?_⟩
    rcases remains.bounded other found with same | member
    · rw [same]
      exact boundOthers previous (by simp)
    · exact boundOthers other (by simp [member])

theorem insertBetween_placed (regular : Regular (before ++ after)) (entryNormal : entry.Normal)
    (entryValid : entry.Valid) (below : ∀ other ∈ before, other.addr < entry.addr)
    (above : ∀ other ∈ after.head?, entry.addr ≤ other.addr) :
    ∃ front whole rest, Placed before entry after front whole rest := by
  have starts := above_of_sorted (sorted_of_ordered (regular_append.mp regular).2.1.ordered) above
  rcases List.eq_nil_or_concat' before with rfl | ⟨init, previous, rfl⟩
  · exact ⟨_, _, _, placed_apart regular entryNormal entryValid nofun starts fun tail => rfl⟩
  · have previousStarts : previous.span.start < entry.span.start :=
      UInt64.lt_iff_toNat_lt.mp (below previous (by simp))
    have previousNormal : previous.Normal := regular.normal previous (by simp)
    by_cases reaches : previous.endAddr ≥ entry.addr
    · have reached := reaches
      rw [ge_iff_le, UInt64.le_iff_toNat_le, previousNormal.endAddr] at reached
      by_cases sameType : previous.entryType = entry.entryType
      · refine ⟨_, _, _, placed_merge regular entryNormal previousStarts reached sameType
          fun tail => ?_⟩
        simp [insertBetween, reaches, sameType]
      · refine ⟨_, _, _, placed_trim regular entryNormal entryValid previousStarts reached
          starts sameType fun tail => ?_⟩
        simp [insertBetween, reaches, sameType]
    · have apart := reaches
      rw [ge_iff_le, UInt64.le_iff_toNat_le, previousNormal.endAddr, Nat.not_le] at apart
      refine ⟨_, _, _, placed_apart regular entryNormal entryValid ?_ starts fun tail => ?_⟩
      · rw [List.forall_mem_append, List.forall_mem_singleton]
        refine ⟨fun other found => ?_, apart⟩
        have cross := (regular_append.mp (regular_append.mp regular).1).2.2
        exact (cross other found previous (by simp)).trans_lt previousStarts
      · simp [insertBetween, UInt64.not_le.mp reaches]

end Placing

structure Overrides (table : E820Table) (entry : BootE820Entry) (result : E820Table) : Prop where
  normal : ∀ other ∈ result, other.Normal
  valid : ∀ other ∈ result, other.Valid
  ordered : Span.Ordered (spans result)
  labels : ∀ address, Span.labelsAt (spans result) address =
    if entry.span.Contains address then [entry.type_] else Span.labelsAt (spans table) address
  /-- The entry that holds the new range touches no entry of its type, unless the entry before it
  is one that touched such an entry already. -/
  merged : ∃ front grown left, result = front ++ grown :: left ∧
    grown.span.start ≤ entry.span.start ∧ entry.span.stop ≤ grown.span.stop ∧
    grown.type_ = entry.type_ ∧
    (∀ next ∈ left, grown.span.stop < next.span.start ∨ next.entryType ≠ grown.entryType) ∧
    ∀ previous ∈ front.getLast?, Touches previous grown →
      previous ∈ table ∧ ∃ old ∈ table, Touches previous old

section Placed

variable {before after front rest : E820Table} {entry whole : BootE820Entry}
  (placed : Placed before entry after front whole rest)

include placed

theorem Placed.absorbed_spec :
    Absorbed whole rest (absorbRest whole rest).1 (absorbRest whole rest).2 :=
  absorbRest_spec placed.wholeNormal placed.wholeValid
    (fun other found => placed.normal other (List.mem_append_right front found))
    (ordered_append.mp placed.ordered).2.1 placed.begins

theorem Placed.insertBetween_eq :
    insertBetween before entry after = front ++ absorbed whole rest := by
  simpa using placed.result []

theorem Placed.regular_absorbed : Regular (front ++ absorbed whole rest) := by
  have spec := placed.absorbed_spec
  obtain ⟨regularFront, regularRest, -⟩ :=
    regular_append.mp { placed with }
  refine regular_append.mpr ⟨regularFront, ⟨spec.normal, ?_, spec.ordered⟩, fun other found => ?_⟩
  · rw [absorbed, List.forall_mem_cons]
    refine ⟨placed.wholeValid.congr spec.type_eq.symm, fun later found => ?_⟩
    obtain ⟨old, member, same⟩ := spec.types later found
    exact (regularRest.valid old member).congr same.symm
  · have first : other.span.stop ≤ (absorbRest whole rest).1.span.start := by
      rw [spec.start_eq]
      exact placed.ends other found
    rw [absorbed, List.forall_mem_cons]
    exact ⟨first, fun later more =>
      first.trans ((start_le_stop _).trans ((ordered_cons.mp spec.ordered).1 later more))⟩

theorem Placed.labelsAt_absorbed (address : Nat) :
    Span.labelsAt (spans (front ++ absorbed whole rest)) address =
      if entry.span.Contains address then [entry.type_]
      else Span.labelsAt (spans (before ++ after)) address := by
  have labels := placed.absorbed_spec.labels address
  rw [← absorbed] at labels
  rw [← placed.labels, spans_append, spans_append, Span.labelsAt_append, Span.labelsAt_append, labels]
  split
  · next inside =>
    rw [Span.labelsAt_eq_nil_of_le, List.nil_append]
    exact List.forall_mem_map.mpr fun other member => (placed.ends other member).trans inside.1
  · rfl

theorem Placed.overrides : Overrides (before ++ after) entry (insertBetween before entry after) := by
  have spec := placed.absorbed_spec
  have sameGrown := entryType_congr spec.type_eq
  rw [placed.insertBetween_eq]
  refine { placed.regular_absorbed with
    labels := placed.labelsAt_absorbed
    merged := ⟨front, _, _, rfl, spec.start_eq.le.trans placed.starts,
      placed.stops.trans spec.stop_le, spec.type_eq.trans placed.sameType, ?_, ?_⟩ }
  · rw [sameGrown]
    exact spec.apart
  · rintro last found ⟨touches, same⟩
    exact placed.previous last found (touches.trans spec.start_eq) (same.trans sameGrown)

end Placed

theorem insertE820Entry_eq {result : E820Table} (below : ∀ other ∈ before, other.addr < entry.addr)
    (above : ∀ other ∈ after.head?, entry.addr ≤ other.addr)
    (room : (before ++ after).length + 2 ≤ capacity) (valid : ∀ other ∈ before, other.Valid)
    (same : insertBetween before entry after = result) :
    insertE820Entry (before ++ after) entry = .ok result := by
  subst same
  refine (insertE820Entry_cases below above).resolve_right ?_
  rintro ⟨-, full | ⟨other, found, invalid⟩⟩
  · omega
  · exact invalid (valid other found)

/-- Insertion gives the new range the new type and changes no other address. -/
theorem insertE820Entry_overrides {table : E820Table} {entry : BootE820Entry}
    (ordered : Span.Ordered (spans table)) (normal : ∀ other ∈ table, other.Normal)
    (valid : ∀ other ∈ table, other.Valid) (room : table.length + 2 ≤ capacity)
    (entryNormal : entry.Normal) (entryValid : entry.Valid) :
    ∃ result, insertE820Entry table entry = .ok result ∧ Overrides table entry result := by
  obtain ⟨before, after, rfl, below, above⟩ := exists_split table entry
  obtain ⟨front, whole, rest, placed⟩ :=
    insertBetween_placed ⟨normal, valid, ordered⟩ entryNormal entryValid below above
  exact ⟨_, insertE820Entry_eq below above room (List.forall_mem_append.mp valid).1
    rfl, placed.overrides⟩

/-- A reserved page in the middle of memory. -/
theorem reserved_page_overrides :
    ∃ result, insertE820Entry [.new 0 0x10000 .ram] (.new 0x4000 0x1000 .reserved) = .ok result ∧
      Overrides [.new 0 0x10000 .ram] (.new 0x4000 0x1000 .reserved) result := by
  exact insertE820Entry_overrides (List.pairwise_singleton _ _) (by decide) (by decide) (by decide)
    (by decide) ⟨.reserved, rfl⟩

/-- After insertions that return, each address has the type of the last entry over it; what none of
them covers is as it was. -/
theorem insertions_override {table result : E820Table} {entries : List BootE820Entry}
    (regular : Regular table) (sound : ∀ entry ∈ entries, entry.Normal ∧ entry.Valid)
    (returned : entries.foldlM insertE820Entry table = .ok result) :
    Regular result ∧ ∀ address, Span.labelsAt (spans result) address =
      match entries.reverse.find? (·.span.Contains address) with
      | some entry => [entry.type_]
      | none => Span.labelsAt (spans table) address := by
  induction entries generalizing table with
  | nil =>
    cases returned
    exact ⟨regular, fun _ => rfl⟩
  | cons entry rest ih =>
    obtain ⟨⟨normal, valid⟩, later⟩ := List.forall_mem_cons.mp sound
    obtain ⟨next, inserted, goesOn⟩ := except_bind_eq_ok.mp returned
    obtain ⟨before, after, rfl, below, above⟩ := exists_split table entry
    cases eq_insertBetween below above inserted
    obtain ⟨_, _, _, placed⟩ := insertBetween_placed regular normal valid below above
    have spec := placed.overrides
    obtain ⟨kept, labels⟩ := ih ⟨spec.normal, spec.valid, spec.ordered⟩ later goesOn
    refine ⟨kept, fun address => ?_⟩
    rw [labels, List.reverse_cons, List.find?_append]
    cases rest.reverse.find? (·.span.Contains address) with
    | some last => rfl
    | none =>
      rw [spec.labels]
      by_cases inside : entry.span.Contains address <;> simp [inside]

theorem reserved_page_remains :
    let result : E820Table :=
      [.new 0 0x4000 .ram, .new 0x4000 0x1000 .reserved, .new 0x5000 0xb000 .ram]
    Regular result ∧ Span.labelsAt (spans result) 0x4800 = [2] := by
  obtain ⟨regular, labels⟩ := @insertions_override [.new 0 0x10000 .ram] _
    [.new 0x4000 0x1000 .reserved] ⟨by decide, by decide, List.pairwise_singleton _ _⟩
    (List.forall_mem_singleton.mpr ⟨by decide, .reserved, rfl⟩)
    (except_bind_eq_ok.mpr ⟨_, @insertE820Entry_eq (.new 0x4000 0x1000 .reserved)
      [.new 0 0x10000 .ram] [] _ (by decide) (by decide) (by decide) (by decide) rfl, rfl⟩)
  exact ⟨regular, labels 0x4800⟩

/-- An entry whose end wraps creates memory at the bottom; an entry without a valid type cannot be
split; entries that touched before do so after a merge, and an empty entry in another one hides it. -/
theorem insertion_exceptions :
    (insertE820Entry [.new 0xffffffffffffe000 0x1800 .ram] (.new 0xfffffffffffff000 0x2000 .reserved) =
      .ok [.new 0xffffffffffffe000 0x1000 .ram, .new 0xfffffffffffff000 0x2000 .reserved,
        .new 0x1000 0xffffffffffffe800 .ram]) ∧
    (insertE820Entry [⟨0, 0x3000, 9⟩] (.new 0x1000 0x1000 .ram)).IsPanic ∧
    insertE820Entry [.new 0 0x1000 .ram, .new 0x1000 0x1000 .ram] (.new 0x2000 0x1000 .ram) =
      .ok [.new 0 0x1000 .ram, .new 0x1000 0x2000 .ram] ∧
    insertE820Entry [.new 0x1000 0x2000 .ram, .new 0x2000 0 .ram] (.new 0x2500 0x100 .reserved) =
      .ok [.new 0x1000 0x2000 .ram, .new 0x2000 0 .ram, .new 0x2500 0x100 .reserved] := by
  refine ⟨?_, by decide, ?_, ?_⟩
  · exact @insertE820Entry_eq _ [.new 0xffffffffffffe000 0x1800 .ram] [] _ (by decide) (by decide)
      (by decide) (by decide) (by decide)
  · exact @insertE820Entry_eq _ [.new 0 0x1000 .ram, .new 0x1000 0x1000 .ram] [] _ (by decide)
      (by decide) (by decide) (by decide) (by decide)
  · exact @insertE820Entry_eq _ [.new 0x1000 0x2000 .ram, .new 0x2000 0 .ram] [] _ (by decide)
      (by decide) (by decide) (by decide) (by decide)

end E820Table

end Oak.Stage0
