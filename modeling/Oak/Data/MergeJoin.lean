import Oak.Data.BTreeMap

namespace Oak.Data

/-! Merge join of two ordered maps, as `Itertools::merge_join_by` performs it
on the two entry streams. -/

inductive EitherOrBoth (α β : Type) where
  | both (left : α) (right : β)
  | left (value : α)
  | right (value : β)
deriving Repr, DecidableEq

namespace MergeJoin

variable {κ α β : Type} [LinearOrder κ]

/-- Place one entry of the left stream by the three outcomes of `Ord::cmp`.
`continue_` joins the rest of the left stream with what remains of the right
stream. -/
def place (key : κ) (value : α)
    (continue_ : List (κ × β) → List (κ × EitherOrBoth α β)) :
    List (κ × β) → List (κ × EitherOrBoth α β)
  | [] => (key, .left value) :: continue_ []
  | (other, found) :: rest =>
    if key < other then (key, .left value) :: continue_ ((other, found) :: rest)
    else if key = other then (key, .both value found) :: continue_ rest
    else (other, .right found) :: place key value continue_ rest

def join : List (κ × α) → List (κ × β) → List (κ × EitherOrBoth α β)
  | [] => fun right => right.map fun entry => (entry.1, .right entry.2)
  | (key, value) :: rest => place key value (join rest)

def combine : Option α → Option β → Option (EitherOrBoth α β)
  | none, none => none
  | some value, none => some (.left value)
  | none, some value => some (.right value)
  | some first, some second => some (.both first second)

theorem lookup_eq_none {entries : List (κ × α)} {bound found : κ}
    (above : ∀ key ∈ entries.map Prod.fst, bound < key) (below : found ≤ bound) :
    entries.lookup found = none := by
  rw [List.lookup_eq_none_iff]
  rintro ⟨key, value⟩ member
  have larger := above key (List.mem_map_of_mem member)
  simpa using ne_of_lt (lt_of_le_of_lt below larger)

variable {key : κ} {value : α}

theorem lookup_cons_ne {entries : List (κ × α)} {found : κ} (different : found ≠ key) :
    ((key, value) :: entries).lookup found = entries.lookup found := by
  have unequal : (found == key) = false := by simpa using different
  simp [List.lookup_cons, unequal]

variable {left : List (κ × α)} {right : List (κ × β)}

theorem mem_keys_join {allowed : κ → Prop} (own : ∀ found ∈ left.map Prod.fst, allowed found)
    (other : ∀ found ∈ right.map Prod.fst, allowed found) :
    ∀ found ∈ (join left right).map Prod.fst, allowed found := by
  induction left generalizing right with
  | nil => simpa [join] using other
  | cons entry left ih =>
    obtain ⟨first, rest⟩ := List.forall_mem_cons.mp own
    induction right with
    | nil => exact List.forall_mem_cons.mpr ⟨first, ih rest other⟩
    | cons head right ihRight =>
      obtain ⟨otherFirst, otherRest⟩ := List.forall_mem_cons.mp other
      rw [join, place]
      split
      · exact List.forall_mem_cons.mpr ⟨first, ih rest other⟩
      split
      · exact List.forall_mem_cons.mpr ⟨first, ih rest otherRest⟩
      · exact List.forall_mem_cons.mpr ⟨otherFirst, ihRight otherRest⟩

theorem lt_of_cons {bound : κ} {entry : κ × α} (below : bound < entry.1)
    (least : ∀ other ∈ left.map Prod.fst, entry.1 < other) :
    ∀ other ∈ (entry :: left).map Prod.fst, bound < other :=
  List.forall_mem_cons.mpr ⟨below, fun other member => below.trans (least other member)⟩

theorem join_sorted (leftSorted : (left.map Prod.fst).Pairwise (· < ·))
    (rightSorted : (right.map Prod.fst).Pairwise (· < ·)) :
    ((join left right).map Prod.fst).Pairwise (· < ·) := by
  induction left generalizing right with
  | nil => simpa [join, Function.comp_def] using rightSorted
  | cons entry left ih =>
    obtain ⟨least, leftRest⟩ := List.pairwise_cons.mp leftSorted
    induction right with
    | nil => exact List.pairwise_cons.mpr ⟨mem_keys_join least nofun, ih leftRest rightSorted⟩
    | cons head right ihRight =>
      obtain ⟨smallest, rightRest⟩ := List.pairwise_cons.mp rightSorted
      rw [join, place]
      split
      · next smaller =>
        exact List.pairwise_cons.mpr
          ⟨mem_keys_join least (lt_of_cons smaller smallest), ih leftRest rightSorted⟩
      split
      · next same =>
        exact List.pairwise_cons.mpr ⟨mem_keys_join least (same ▸ smallest), ih leftRest rightRest⟩
      · next notSmaller different =>
        have larger := lt_of_le_of_ne (not_lt.mp notSmaller) (Ne.symm different)
        exact List.pairwise_cons.mpr
          ⟨mem_keys_join (lt_of_cons larger least) smallest, ihRight rightRest⟩

theorem lookup_join (leftSorted : (left.map Prod.fst).Pairwise (· < ·))
    (rightSorted : (right.map Prod.fst).Pairwise (· < ·)) (found : κ) :
    (join left right).lookup found = combine (left.lookup found) (right.lookup found) := by
  induction left generalizing right with
  | nil =>
    have mapped : (join ([] : List (κ × α)) right).lookup found = (right.lookup found).map .right :=
      BTreeMap.get?_mapValues (fun _ => EitherOrBoth.right) ⟨right, rightSorted⟩ found
    rw [mapped]
    cases right.lookup found <;> rfl
  | cons entry left ih =>
    obtain ⟨key, value⟩ := entry
    obtain ⟨least, leftRest⟩ := List.pairwise_cons.mp leftSorted
    induction right with
    | nil =>
      rw [join, place]
      by_cases here : found = key
      · simp [here, combine]
      · simp [lookup_cons_ne here, ih leftRest rightSorted]
    | cons head right ihRight =>
      obtain ⟨other, content⟩ := head
      obtain ⟨smallest, rightRest⟩ := List.pairwise_cons.mp rightSorted
      rw [join, place]
      split
      · next smaller =>
        by_cases here : found = key
        · simp [here, lookup_eq_none (lt_of_cons smaller smallest) le_rfl, combine]
        · simp only [lookup_cons_ne here, ih leftRest rightSorted]
      split
      · next same =>
        subst same
        by_cases here : found = key
        · simp [here, combine]
        · simp only [lookup_cons_ne here, ih leftRest rightRest]
      · next notSmaller different =>
        have larger := lt_of_le_of_ne (not_lt.mp notSmaller) (Ne.symm different)
        by_cases here : found = other
        · simp [here, lookup_eq_none (lt_of_cons larger least) le_rfl, combine]
        · rw [lookup_cons_ne here, lookup_cons_ne here]
          exact ihRight rightRest

end MergeJoin

namespace BTreeMap

variable {κ α β : Type} [LinearOrder κ]

def mergeJoin (left : BTreeMap κ α) (right : BTreeMap κ β) : BTreeMap κ (EitherOrBoth α β) :=
  ⟨MergeJoin.join left.entries right.entries, MergeJoin.join_sorted left.sorted right.sorted⟩

theorem get?_mergeJoin (left : BTreeMap κ α) (right : BTreeMap κ β) (key : κ) :
    (left.mergeJoin right).get? key = MergeJoin.combine (left.get? key) (right.get? key) :=
  MergeJoin.lookup_join left.sorted right.sorted key

theorem mem_keys_mergeJoin {left : BTreeMap κ α} {right : BTreeMap κ β} {key : κ} :
    key ∈ (left.mergeJoin right).keys ↔ key ∈ left.keys ∨ key ∈ right.keys := by
  simp only [mem_keys_iff, get?_mergeJoin]
  cases left.get? key <;> cases right.get? key <;> simp [MergeJoin.combine]

section Judged

variable {γ : Type} {left : BTreeMap κ α} {right : BTreeMap κ β} {judge : EitherOrBoth α β → γ} {key : κ}

theorem get?_judged {value : γ} (notLeft : ∀ content, judge (.left content) ≠ value)
    (notRight : ∀ content, judge (.right content) ≠ value)
    (found : ((left.mergeJoin right).mapValues fun _ => judge).get? key = some value) :
    ∃ first second, left.get? key = some first ∧ right.get? key = some second ∧
      judge (.both first second) = value := by
  rw [get?_mapValues, get?_mergeJoin] at found
  cases hasLeft : left.get? key <;> cases hasRight : right.get? key <;>
    simp_all [MergeJoin.combine]

/-- If a value stands for what only the left side has, the other values stand for the right side. -/
theorem judged_iff {absent : γ} (onlyLeft : ∀ content, judge (.left content) = absent)
    (both : ∀ first second, judge (.both first second) ≠ absent)
    (onlyRight : ∀ content, judge (.right content) ≠ absent) :
    (∃ value, ((left.mergeJoin right).mapValues fun _ => judge).get? key = some value ∧
      value ≠ absent) ↔ ∃ content, right.get? key = some content := by
  rw [get?_mapValues, get?_mergeJoin]
  cases left.get? key <;> cases right.get? key <;> simp [MergeJoin.combine, onlyLeft, both, onlyRight]

end Judged

/-- What is kept of the judged join depends on the right side only under keys of the left side, if
nothing is kept under other keys. -/
theorem filter_mergeJoin_congr {γ : Type} {left : BTreeMap κ α} {right other : BTreeMap κ β}
    {judge : EitherOrBoth α β → γ} {keep : γ → Bool} (drops : ∀ value, keep (judge (.right value)) = false)
    (agree : ∀ key ∈ left.keys, right.get? key = other.get? key) :
    ((left.mergeJoin right).mapValues fun _ => judge).entries.filter (keep ·.2) =
      ((left.mergeJoin other).mapValues fun _ => judge).entries.filter (keep ·.2) := by
  refine filter_entries_congr fun key value kept => ?_
  simp only [get?_mapValues, get?_mergeJoin]
  cases held : left.get? key with
  | some content => rw [agree key (mem_keys_iff.mpr ⟨content, held⟩)]
  | none =>
    have dropped (side : BTreeMap κ β) :
        (MergeJoin.combine (none : Option α) (side.get? key)).map judge ≠ some value := by
      cases side.get? key with
      | none => exact nofun
      | some found =>
        rintro same
        cases same
        rw [drops] at kept
        cases kept
    exact iff_of_false (dropped right) (dropped other)

end BTreeMap

end Oak.Data
