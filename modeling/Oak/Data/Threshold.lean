import Mathlib.Data.List.Basic
import Mathlib.Data.Set.Basic

namespace Oak.Data.Threshold

/-! Named quorums: a name stands for a single key or for a number of other names.

`Satisfied` is the meaning of a name with respect to a set of keys; it is defined
for any assignment of quorums to names, with or without cycles. -/

inductive Quorum (ν κ : Type) where
  | witness (key : κ)
  | group (k : Nat) (members : List ν)
deriving Repr, DecidableEq

variable {ν κ : Type}

inductive Satisfied (quorums : ν → Option (Quorum ν κ)) (keys : Set κ) : ν → Prop
  | witness {name : ν} {key : κ} (defined : quorums name = some (.witness key))
      (present : key ∈ keys) : Satisfied quorums keys name
  | group {name : ν} {k : Nat} {members chosen : List ν}
      (defined : quorums name = some (.group k members)) (subset : chosen.Sublist members)
      (enough : k ≤ chosen.length) (each : ∀ member ∈ chosen, Satisfied quorums keys member) :
      Satisfied quorums keys name

variable {quorums : ν → Option (Quorum ν κ)} {keys more : Set κ} {name : ν}

theorem Satisfied.mono (satisfied : Satisfied quorums keys name) (subset : keys ⊆ more) :
    Satisfied quorums more name := by
  induction satisfied with
  | witness defined present => exact .witness defined (subset present)
  | group defined chosen enough _ ih => exact .group defined chosen enough ih

theorem satisfied_witness_iff {key : κ} (defined : quorums name = some (.witness key)) :
    Satisfied quorums keys name ↔ key ∈ keys := by
  constructor
  · intro satisfied
    cases satisfied with
    | witness other present =>
      rw [defined] at other
      cases other
      exact present
    | group other =>
      rw [defined] at other
      cases other
  · exact .witness defined

theorem satisfied_group_iff {k : Nat} {members : List ν} {test : ν → Bool}
    (defined : quorums name = some (.group k members))
    (tested : ∀ member ∈ members, test member = true ↔ Satisfied quorums keys member) :
    Satisfied quorums keys name ↔ k ≤ members.countP test := by
  constructor
  · intro satisfied
    cases satisfied with
    | witness other =>
      rw [defined] at other
      cases other
    | @group _ _ _ chosen other subset enough each =>
      rw [defined] at other
      cases other
      have all : chosen.countP test = chosen.length := by
        rw [List.countP_eq_length]
        exact fun member inside => (tested member (subset.mem inside)).mpr (each member inside)
      calc k ≤ chosen.length := enough
        _ = chosen.countP test := all.symm
        _ ≤ members.countP test := subset.countP_le
  · intro enough
    rw [List.countP_eq_length_filter] at enough
    refine .group defined List.filter_sublist enough fun member inside => ?_
    rw [List.mem_filter] at inside
    exact (tested member inside.1).mp inside.2

end Oak.Data.Threshold
