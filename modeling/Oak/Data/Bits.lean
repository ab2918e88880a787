import Mathlib.Data.List.Basic

namespace Oak.Data

/-! Arrays of bits, by the set of indices at which a bit is set. -/

abbrev Bits := List Bool

namespace Bits

def IsSet (bits : Bits) (index : Nat) : Prop := bits[index]? = some true

instance (bits : Bits) (index : Nat) : Decidable (bits.IsSet index) :=
  inferInstanceAs (Decidable (_ = _))

def zeros (size : Nat) : Bits := List.replicate size false

/-- The bits of the first array that are not in the second. -/
def andNot (first second : Bits) : Bits := List.zipWith (fun bit other => bit && !other) first second

def firstOne (bits : Bits) : Option Nat := bits.findIdx? id

def fill (bits : Bits) (start stop : Nat) (value : Bool) : Bits :=
  bits.mapIdx fun index bit => if start ≤ index ∧ index < stop then value else bit

def allSet (bits : Bits) (start stop : Nat) : Bool :=
  (List.range' start (stop - start)).all fun index => bits[index]? == some true

/-- The first place where so many bits are all set. -/
def firstWindow (bits : Bits) (width : Nat) : Option Nat :=
  (List.range (bits.length + 1 - width)).find? fun start => bits.allSet start (start + width)

def iterOnes (bits : Bits) : List Nat :=
  (List.range bits.length).filter fun index => bits[index]? == some true

variable {bits first second : Bits} {index start stop width : Nat}

theorem IsSet.lt_length (isSet : bits.IsSet index) : index < bits.length :=
  (List.getElem?_eq_some_iff.mp isSet).1

@[simp] theorem not_isSet_zeros (size index : Nat) : ¬ (zeros size).IsSet index := by
  intro isSet
  have found := (List.getElem?_eq_some_iff.mp isSet).2
  simp [zeros] at found

@[simp] theorem length_zeros (size : Nat) : (zeros size).length = size := List.length_replicate

@[simp] theorem length_andNot (same : first.length = second.length) :
    (andNot first second).length = first.length := by
  simp [andNot, same]

theorem isSet_andNot (same : first.length = second.length) :
    (andNot first second).IsSet index ↔ first.IsSet index ∧ ¬ second.IsSet index := by
  rw [IsSet, IsSet, IsSet, andNot, List.getElem?_zipWith]
  by_cases inside : index < first.length
  · rw [List.getElem?_eq_getElem inside, List.getElem?_eq_getElem (same ▸ inside)]
    simp
  · rw [List.getElem?_eq_none (Nat.not_lt.mp inside)]
    simp

theorem firstOne_eq_some :
    bits.firstOne = some index ↔ bits.IsSet index ∧ ∀ earlier < index, ¬ bits.IsSet earlier := by
  rw [firstOne, List.findIdx?_eq_some_iff_getElem]
  constructor
  · rintro ⟨inside, isSet, clear⟩
    refine ⟨List.getElem?_eq_some_iff.mpr ⟨inside, isSet⟩, fun earlier before set => ?_⟩
    obtain ⟨_, found⟩ := List.getElem?_eq_some_iff.mp set
    exact clear earlier before found
  · rintro ⟨isSet, clear⟩
    obtain ⟨inside, found⟩ := List.getElem?_eq_some_iff.mp isSet
    refine ⟨inside, found, fun earlier before set => clear earlier before ?_⟩
    exact List.getElem?_eq_some_iff.mpr ⟨Nat.lt_trans before inside, set⟩

theorem firstOne_eq_none : bits.firstOne = none ↔ ∀ index, ¬ bits.IsSet index := by
  rw [firstOne, List.findIdx?_eq_none_iff]
  constructor
  · intro clear index isSet
    exact absurd (clear true (List.mem_of_getElem? isSet)) (by decide)
  · intro clear bit found
    obtain ⟨index, at_⟩ := List.mem_iff_getElem?.mp found
    cases bit with
    | false => rfl
    | true => exact absurd at_ (clear index)

@[simp] theorem length_fill (value : Bool) : (bits.fill start stop value).length = bits.length :=
  List.length_mapIdx

theorem isSet_fill (value : Bool) : (bits.fill start stop value).IsSet index ↔
    if start ≤ index ∧ index < stop then value = true ∧ index < bits.length
    else bits.IsSet index := by
  rw [IsSet, fill, List.getElem?_mapIdx]
  by_cases inside : index < bits.length
  · rw [IsSet]
    split <;> simp [inside]
  · rw [IsSet]
    split <;> simp [inside]

theorem isSet_set (value : Bool) (other : Nat) : IsSet (bits.set index value) other ↔
    if index = other then value = true ∧ index < bits.length else bits.IsSet other := by
  rw [IsSet, List.getElem?_set]
  split
  · split
    · next inside => simp [inside]
    · next outside => simp [outside]
  · rfl

theorem allSet_iff : bits.allSet start stop = true ↔
    ∀ index, start ≤ index → index < stop → bits.IsSet index := by
  rw [allSet, List.all_eq_true]
  constructor
  · intro all index lower upper
    have found := all index (List.mem_range'_1.mpr ⟨lower, by omega⟩)
    simpa [IsSet] using found
  · intro all index found
    obtain ⟨lower, upper⟩ := List.mem_range'_1.mp found
    have set := all index lower (by omega)
    simpa [IsSet] using set

theorem firstWindow_eq_some : bits.firstWindow width = some start ↔
    start + width < bits.length + 1 ∧ bits.allSet start (start + width) = true ∧
      ∀ earlier < start, bits.allSet earlier (earlier + width) ≠ true := by
  simp [firstWindow, Nat.lt_sub_iff_add_lt, and_left_comm]

theorem firstWindow_eq_none : bits.firstWindow width = none ↔
    ∀ start, start + width < bits.length + 1 → bits.allSet start (start + width) ≠ true := by
  simp [firstWindow, Nat.lt_sub_iff_add_lt]

end Bits

end Oak.Data
