import Mathlib.Data.Finset.Union
import Mathlib.Order.Bounds.Basic

namespace Oak.Ifc

/-! Information-flow labels (`mcp/ifc/labels`): secrecy grows along a flow and integrity shrinks,
while `join` and `meet` treat both alike. -/

@[ext] structure BaseLabel (τ : Type) where
  tags : Finset τ
deriving DecidableEq

abbrev SecrecyLabel := BaseLabel

abbrev IntegrityLabel := BaseLabel

variable {τ : Type}

@[ext] structure Label (τ : Type) where
  secrecy : SecrecyLabel τ
  integrity : IntegrityLabel τ
deriving DecidableEq

def SecrecyLabel.canFlowTo (label target : SecrecyLabel τ) : Prop := label.tags ⊆ target.tags

def IntegrityLabel.canFlowTo (label target : IntegrityLabel τ) : Prop := target.tags ⊆ label.tags

def Label.canFlowTo (label target : Label τ) : Prop :=
  SecrecyLabel.canFlowTo label.secrecy target.secrecy ∧
    IntegrityLabel.canFlowTo label.integrity target.integrity

structure Privilege (τ : Type) where
  declassification : Finset τ
  endorsement : Finset τ

inductive PrivilegeError (τ : Type) where
  | declassification (requested permitted : Finset τ)
  | endorsement (requested permitted : Finset τ)

variable [DecidableEq τ]

def BaseLabel.join (label other : BaseLabel τ) : BaseLabel τ := ⟨label.tags ∪ other.tags⟩

def BaseLabel.meet (label other : BaseLabel τ) : BaseLabel τ := ⟨label.tags ∩ other.tags⟩

def Label.join (label other : Label τ) : Label τ :=
  ⟨label.secrecy.join other.secrecy, label.integrity.join other.integrity⟩

def Label.meet (label other : Label τ) : Label τ :=
  ⟨label.secrecy.meet other.secrecy, label.integrity.meet other.integrity⟩

namespace Privilege

def declassify (privilege : Privilege τ) (label : Label τ) (tags : Finset τ) :
    Except (PrivilegeError τ) (Label τ) :=
  if tags ⊆ privilege.declassification then
    .ok { label with secrecy := ⟨label.secrecy.tags \ tags⟩ }
  else .error (.declassification tags privilege.declassification)

def endorse (privilege : Privilege τ) (label : Label τ) (tags : Finset τ) :
    Except (PrivilegeError τ) (Label τ) :=
  if tags ⊆ privilege.endorsement then
    .ok { label with integrity := ⟨label.integrity.tags ∪ tags⟩ }
  else .error (.endorsement tags privilege.endorsement)

end Privilege

/-- A label computed from the labels of the inputs, with any of the privileges. -/
inductive Derives (privileges : Finset (Privilege τ)) : List (Label τ) → Label τ → Prop where
  | input (label : Label τ) : Derives privileges [label] label
  | join {inputs others : List (Label τ)} {label other : Label τ}
      (first : Derives privileges inputs label) (second : Derives privileges others other) :
      Derives privileges (inputs ++ others) (label.join other)
  | declassify {inputs : List (Label τ)} {label result : Label τ} {privilege : Privilege τ}
      {tags : Finset τ} (before : Derives privileges inputs label)
      (held : privilege ∈ privileges) (allowed : privilege.declassify label tags = .ok result) :
      Derives privileges inputs result
  | endorse {inputs : List (Label τ)} {label result : Label τ} {privilege : Privilege τ}
      {tags : Finset τ} (before : Derives privileges inputs label)
      (held : privilege ∈ privileges) (allowed : privilege.endorse label tags = .ok result) :
      Derives privileges inputs result

/-- The label without the tags that the privileges may remove, and with those they may add. -/
def Label.relaxed (privileges : Finset (Privilege τ)) (label : Label τ) : Label τ :=
  ⟨⟨label.secrecy.tags \ privileges.biUnion (·.declassification)⟩,
    ⟨label.integrity.tags ∪ privileges.biUnion (·.endorsement)⟩⟩

/-- The lattice of the flow order: integrity is met where secrecy is joined. -/
instance : Lattice (Label τ) where
  le := Label.canFlowTo
  le_refl label := ⟨Finset.Subset.refl _, Finset.Subset.refl _⟩
  le_trans _ _ _ first second := ⟨first.1.trans second.1, second.2.trans first.2⟩
  le_antisymm _ _ first second := Label.ext
    (BaseLabel.ext (first.1.antisymm second.1)) (BaseLabel.ext (second.2.antisymm first.2))
  sup label other := ⟨label.secrecy.join other.secrecy, label.integrity.meet other.integrity⟩
  le_sup_left _ _ := ⟨Finset.subset_union_left, Finset.inter_subset_left⟩
  le_sup_right _ _ := ⟨Finset.subset_union_right, Finset.inter_subset_right⟩
  sup_le _ _ _ first second :=
    ⟨Finset.union_subset first.1 second.1, Finset.subset_inter first.2 second.2⟩
  inf label other := ⟨label.secrecy.meet other.secrecy, label.integrity.join other.integrity⟩
  inf_le_left _ _ := ⟨Finset.inter_subset_left, Finset.subset_union_left⟩
  inf_le_right _ _ := ⟨Finset.inter_subset_right, Finset.subset_union_right⟩
  le_inf _ _ _ first second :=
    ⟨Finset.subset_inter first.1 second.1, Finset.union_subset first.2 second.2⟩

theorem BaseLabel.join_eq_meet_iff {label other : BaseLabel τ} :
    label.join other = label.meet other ↔ label = other := by
  rw [BaseLabel.ext_iff, BaseLabel.ext_iff]
  exact eq_comm.trans inf_eq_sup

variable {label other : Label τ}

theorem join_isLUB_iff :
    IsLUB {label, other} (label.join other) ↔ label.integrity = other.integrity := by
  rw [← BaseLabel.join_eq_meet_iff]
  constructor
  · intro least
    exact congrArg Label.integrity (least.unique isLUB_pair)
  · intro same
    have join : label.join other = label ⊔ other := Label.ext rfl same
    rw [join]
    exact isLUB_pair

theorem meet_isGLB_iff :
    IsGLB {label, other} (label.meet other) ↔ label.integrity = other.integrity := by
  rw [← BaseLabel.join_eq_meet_iff]
  constructor
  · intro greatest
    exact congrArg Label.integrity (isGLB_pair.unique greatest)
  · intro same
    have meet : label.meet other = label ⊓ other := Label.ext rfl same.symm
    rw [meet]
    exact isGLB_pair

variable {privileges : Finset (Privilege τ)} {inputs : List (Label τ)} {result : Label τ}

/-- What a derivation does to the tags: secrecy goes only by declassification, and integrity comes
from any of the inputs. -/
structure Tracks (privileges : Finset (Privilege τ)) (inputs : List (Label τ)) (result : Label τ) :
    Prop where
  secrecy : ∀ input ∈ inputs, (input.relaxed privileges).secrecy.tags ⊆ result.secrecy.tags
  trusted : ∀ input ∈ inputs, input.integrity.tags ⊆ result.integrity.tags
  origin : ∀ tag ∈ result.integrity.tags,
    (∃ input ∈ inputs, tag ∈ input.integrity.tags) ∨ tag ∈ privileges.biUnion (·.endorsement)

theorem Derives.tracks (derives : Derives privileges inputs result) :
    Tracks privileges inputs result := by
  induction derives with
  | input label =>
    refine ⟨?_, ?_, fun tag there => .inl ⟨label, List.mem_singleton_self _, there⟩⟩
    · rw [List.forall_mem_singleton]
      exact Finset.sdiff_subset
    · rw [List.forall_mem_singleton]
  | join _ _ first second =>
    refine ⟨?_, ?_, fun tag there => ?_⟩
    · rw [List.forall_mem_append]
      exact ⟨fun input member => (first.secrecy input member).trans Finset.subset_union_left,
        fun input member => (second.secrecy input member).trans Finset.subset_union_right⟩
    · rw [List.forall_mem_append]
      exact ⟨fun input member => (first.trusted input member).trans Finset.subset_union_left,
        fun input member => (second.trusted input member).trans Finset.subset_union_right⟩
    · rcases Finset.mem_union.mp there with there | there
      · exact (first.origin tag there).imp_left
          (Exists.imp fun _ => And.imp_left (List.mem_append_left _))
      · exact (second.origin tag there).imp_left
          (Exists.imp fun _ => And.imp_left (List.mem_append_right _))
  | @declassify _ _ _ privilege tags _ held allowed ih =>
    rw [Privilege.declassify] at allowed
    split at allowed
    · next permitted =>
        cases allowed
        refine ⟨fun input member tag there => ?_, ih.trusted, ih.origin⟩
        refine Finset.mem_sdiff.mpr ⟨ih.secrecy input member there, fun removed => ?_⟩
        exact (Finset.mem_sdiff.mp there).2 (Finset.mem_biUnion.mpr ⟨privilege, held, permitted removed⟩)
    · cases allowed
  | @endorse _ _ _ privilege tags _ held allowed ih =>
    rw [Privilege.endorse] at allowed
    split at allowed
    · next permitted =>
        cases allowed
        refine ⟨ih.secrecy, fun input member => (ih.trusted input member).trans Finset.subset_union_left,
          fun tag there => ?_⟩
        rcases Finset.mem_union.mp there with there | added
        · exact ih.origin tag there
        · exact .inr (Finset.mem_biUnion.mpr ⟨privilege, held, permitted added⟩)
    · cases allowed

end Oak.Ifc
