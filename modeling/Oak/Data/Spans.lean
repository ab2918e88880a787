import Mathlib.Data.List.Basic
import Mathlib.Data.List.Pairwise

namespace Oak.Data

/-! Lists of labelled intervals.

A list of intervals gives each address the labels of the intervals that contain
it, in their order.  Lists of disjoint intervals give one label at most, and so
are finite descriptions of maps. -/

structure Span (τ : Type) where
  start : Nat
  stop : Nat
  label : τ
deriving Repr, DecidableEq

namespace Span

variable {τ : Type}

def Contains (span : Span τ) (address : Nat) : Prop := span.start ≤ address ∧ address < span.stop

instance (span : Span τ) (address : Nat) : Decidable (span.Contains address) :=
  inferInstanceAs (Decidable (_ ∧ _))

def labelsAt (spans : List (Span τ)) (address : Nat) : List τ :=
  (spans.filter (·.Contains address)).map label

/-- Each interval ends where a later one starts, or before. -/
def Ordered (spans : List (Span τ)) : Prop := spans.Pairwise fun first second =>
  first.stop ≤ second.start

/-- No address is in two of the intervals. -/
def Disjoint (spans : List (Span τ)) : Prop := spans.Pairwise fun first second =>
  ∀ address, ¬ (first.Contains address ∧ second.Contains address)

variable {spans : List (Span τ)} {span : Span τ} {address : Nat}

@[simp] theorem labelsAt_nil : labelsAt ([] : List (Span τ)) address = [] := rfl

theorem labelsAt_cons : labelsAt (span :: spans) address =
    if span.Contains address then span.label :: labelsAt spans address
    else labelsAt spans address := by
  by_cases inside : span.Contains address <;> simp [labelsAt, inside]

@[simp] theorem labelsAt_cons_of_contains (inside : span.Contains address) :
    labelsAt (span :: spans) address = span.label :: labelsAt spans address := by
  rw [labelsAt_cons, if_pos inside]

@[simp] theorem labelsAt_cons_of_not (outside : ¬ span.Contains address) :
    labelsAt (span :: spans) address = labelsAt spans address := by
  rw [labelsAt_cons, if_neg outside]

@[simp] theorem labelsAt_append (first second : List (Span τ)) :
    labelsAt (first ++ second) address = labelsAt first address ++ labelsAt second address := by
  simp [labelsAt]

theorem labelsAt_eq_nil (outside : ∀ span ∈ spans, ¬ span.Contains address) :
    labelsAt spans address = [] := by
  rw [labelsAt]
  simpa using outside

theorem mem_labelsAt {label : τ} :
    label ∈ labelsAt spans address ↔ ∃ span ∈ spans, span.Contains address ∧ span.label = label := by
  simp [labelsAt, and_assoc]

theorem labelsAt_eq_nil_of_le (above : ∀ span ∈ spans, span.stop ≤ address) :
    labelsAt spans address = [] :=
  labelsAt_eq_nil fun span found inside => Nat.not_lt.mpr (above span found) inside.2

theorem labelsAt_eq_nil_of_lt (below : ∀ span ∈ spans, address < span.start) :
    labelsAt spans address = [] :=
  labelsAt_eq_nil fun span found inside => Nat.not_lt.mpr inside.1 (below span found)

theorem Ordered.disjoint (ordered : Ordered spans) : Disjoint spans :=
  ordered.imp fun before address inside => by
    have := inside.1.2
    have := inside.2.1
    omega

theorem Disjoint.length_labelsAt_le (disjoint : Disjoint spans) (address : Nat) :
    (labelsAt spans address).length ≤ 1 := by
  induction spans with
  | nil => simp
  | cons span spans ih =>
    obtain ⟨apart, rest⟩ := List.pairwise_cons.mp disjoint
    by_cases inside : span.Contains address
    · rw [labelsAt_cons_of_contains inside, labelsAt_eq_nil]
      · simp
      · exact fun other found contains => apart other found address ⟨inside, contains⟩
    · rw [labelsAt_cons_of_not inside]
      exact ih rest

theorem ordered_cons : Ordered (span :: spans) ↔
    (∀ later ∈ spans, span.stop ≤ later.start) ∧ Ordered spans :=
  List.pairwise_cons

theorem ordered_append {first second : List (Span τ)} : Ordered (first ++ second) ↔
    Ordered first ∧ Ordered second ∧
      ∀ before ∈ first, ∀ after ∈ second, before.stop ≤ after.start :=
  List.pairwise_append

end Span

end Oak.Data
