import Mathlib.Data.List.Basic
import Mathlib.Data.List.Lookmap
import Mathlib.Order.Lattice
import Oak.Data.Outcome

namespace Oak.Data

/-! Ordered finite maps.

`entries` lists the bindings in strictly increasing key order, which is the
order `BTreeMap::iter` visits them in.  The order is a field of the structure,
so a map has exactly one representation and equality of maps is equality of
their entries. -/

section Collect

variable {κ α β ε : Type}

/-- The fallible `iter().filter_map(..).collect::<Result<BTreeMap<_, _>, _>>()`:
entries are visited in key order and the first error stops the iteration. -/
def collectEntries (select : κ → α → Except ε (Option β)) :
    List (κ × α) → Except ε (List (κ × β))
  | [] => .ok []
  | (key, value) :: rest =>
    match select key value with
    | .error reason => .error reason
    | .ok none => collectEntries select rest
    | .ok (some selected) =>
      match collectEntries select rest with
      | .error reason => .error reason
      | .ok collected => .ok ((key, selected) :: collected)

variable {select : κ → α → Except ε (Option β)} {entries : List (κ × α)} {collected : List (κ × β)}

/-- What is collected of an entry. -/
def collectEntry (select : κ → α → Except ε (Option β)) (entry : κ × α) : Option (κ × β) :=
  match select entry.1 entry.2 with
  | .ok (some value) => some (entry.1, value)
  | _ => none

theorem collectEntry_eq_some {entry : κ × α} {found : κ × β} : collectEntry select entry = some found ↔
    entry.1 = found.1 ∧ select entry.1 entry.2 = .ok (some found.2) := by
  obtain ⟨key, value⟩ := found
  unfold collectEntry
  split
  · simp [*]
  · next other =>
    exact ⟨by simp, fun picked => absurd picked.2 (other _)⟩

theorem collectEntries_eq_ok : collectEntries select entries = .ok collected ↔
    (∀ entry ∈ entries, ∃ result, select entry.1 entry.2 = .ok result) ∧
      entries.filterMap (collectEntry select) = collected := by
  induction entries generalizing collected with
  | nil => simp [collectEntries]
  | cons entry rest ih =>
    rw [collectEntries, List.forall_mem_cons, List.filterMap_cons, collectEntry]
    split
    · simp [*]
    · simp [*]
    · split
      · next stopped =>
        rw [stopped] at ih
        simp_all
      · next collectedRest =>
        obtain ⟨accepted, rfl⟩ := ih.mp collectedRest
        simp_all

theorem collectEntries_keys (done : collectEntries select entries = .ok collected) :
    (collected.map Prod.fst).Sublist (entries.map Prod.fst) := by
  obtain ⟨-, rfl⟩ := collectEntries_eq_ok.mp done
  clear done
  induction entries with
  | nil => exact .slnil
  | cons entry rest ih =>
    rw [List.filterMap_cons]
    split
    · exact ih.cons _
    · next found =>
      rw [List.map_cons, List.map_cons, (collectEntry_eq_some.mp found).1]
      exact ih.cons_cons _

theorem collectEntries_error {reason : ε} (failed : collectEntries select entries = .error reason) :
    ∃ entry ∈ entries, select entry.1 entry.2 = .error reason := by
  induction entries with
  | nil => cases failed
  | cons entry rest ih =>
    simp only [collectEntries] at failed
    split at failed
    · next chosen =>
      cases failed
      exact ⟨_, List.mem_cons_self, chosen⟩
    · obtain ⟨found, member, chosen⟩ := ih failed
      exact ⟨found, List.mem_cons_of_mem _ member, chosen⟩
    · split at failed
      · next collected =>
        cases failed
        obtain ⟨found, member, chosen⟩ := ih collected
        exact ⟨found, List.mem_cons_of_mem _ member, chosen⟩
      · cases failed

end Collect

theorem lookup_eq_some_iff {κ α : Type} [BEq κ] [LawfulBEq κ] {entries : List (κ × α)}
    (distinct : (entries.map Prod.fst).Nodup) {key : κ} {value : α} :
    entries.lookup key = some value ↔ (key, value) ∈ entries := by
  induction entries with
  | nil => simp
  | cons entry rest ih =>
    obtain ⟨first, content⟩ := entry
    rw [List.map_cons, List.nodup_cons] at distinct
    by_cases same : key = first
    · subst same
      have absent : (key, value) ∉ rest := fun member =>
        distinct.1 (List.mem_map.mpr ⟨_, member, rfl⟩)
      simp [absent, eq_comm]
    · have different : (key == first) = false := by simpa using same
      simp [List.lookup_cons, different, ih distinct.2, same]

@[ext] structure BTreeMap (κ α : Type) [LinearOrder κ] where
  entries : List (κ × α)
  sorted : (entries.map Prod.fst).Pairwise (· < ·)

namespace BTreeMap

variable {κ α β γ ε : Type} [LinearOrder κ]

def empty : BTreeMap κ α := ⟨[], .nil⟩

def singleton (key : κ) (value : α) : BTreeMap κ α := ⟨[(key, value)], by simp⟩

def isEmpty (map : BTreeMap κ α) : Bool := map.entries.isEmpty

def get? (map : BTreeMap κ α) (key : κ) : Option α := map.entries.lookup key

def keys (map : BTreeMap κ α) : List κ := map.entries.map Prod.fst

theorem keys_nodup (map : BTreeMap κ α) : map.keys.Nodup :=
  map.sorted.imp fun less => ne_of_lt less

variable {map first : BTreeMap κ α} {key : κ} {value : α}

theorem get?_eq_some_iff : map.get? key = some value ↔ (key, value) ∈ map.entries :=
  lookup_eq_some_iff map.keys_nodup

theorem get?_singleton_eq_some {found : κ} {other : α}
    (held : (singleton key value).get? found = some other) : other = value := by
  rw [get?_eq_some_iff] at held
  simp only [singleton, List.mem_singleton, Prod.mk.injEq] at held
  exact held.2

theorem get?_of_mem {entry : κ × α} (member : entry ∈ map.entries) :
    map.get? entry.1 = some entry.2 :=
  get?_eq_some_iff.mpr member

theorem get?_eq_none_iff : map.get? key = none ↔ key ∉ map.keys := by
  constructor
  · intro absent member
    obtain ⟨⟨found, value⟩, present, rfl⟩ := List.mem_map.mp member
    rw [get?_of_mem present] at absent
    contradiction
  · intro absent
    cases found : map.get? key with
    | none => rfl
    | some value =>
      exact absurd (List.mem_map_of_mem (get?_eq_some_iff.mp found)) absent

theorem mem_keys_iff : key ∈ map.keys ↔ ∃ value, map.get? key = some value := by
  rw [← not_iff_not, ← get?_eq_none_iff, Option.eq_none_iff_forall_ne_some]
  simp

theorem isEmpty_iff : map.isEmpty = true ↔ map.entries = [] :=
  List.isEmpty_iff

theorem isEmpty_iff_keys : map.isEmpty = true ↔ map.keys = [] := by
  simp [isEmpty_iff, keys]

theorem eq_empty_of_keys (noKeys : map.keys = []) : map = empty :=
  BTreeMap.ext (List.map_eq_nil_iff.mp noKeys)

theorem isEmpty_eq_false_iff : map.isEmpty = false ↔ ∃ key value, map.get? key = some value := by
  simp only [isEmpty, get?_eq_some_iff]
  cases map.entries with
  | nil => simp
  | cons entry rest => simpa using ⟨entry.1, entry.2, .inl rfl⟩

theorem any_entries_iff {test : κ × α → Bool} : map.entries.any test = true ↔
      ∃ key value, map.get? key = some value ∧ test (key, value) = true := by
  simp [get?_eq_some_iff]

theorem get?_ne_none_of_keys {second : BTreeMap κ β} (sameKeys : first.keys = second.keys)
    (found : first.get? key ≠ none) : second.get? key ≠ none := by
  rw [ne_eq, get?_eq_none_iff] at found ⊢
  rwa [← sameKeys]

theorem isEmpty_of_keys {second : BTreeMap κ β} (sameKeys : first.keys = second.keys) :
    first.isEmpty = second.isEmpty := by
  rw [Bool.eq_iff_iff, isEmpty_iff_keys, isEmpty_iff_keys, sameKeys]

theorem filter_entries_congr {second : BTreeMap κ α} {keep : κ × α → Bool}
    (same : ∀ key value, keep (key, value) →
      (first.get? key = some value ↔ second.get? key = some value)) :
    first.entries.filter keep = second.entries.filter keep := by
  have sorted (map : BTreeMap κ α) :
      (map.entries.filter keep).Pairwise fun entry other => entry.1 < other.1 :=
    (List.pairwise_map.mp map.sorted).sublist List.filter_sublist
  have nodup (map : BTreeMap κ α) : (map.entries.filter keep).Nodup :=
    (sorted map).imp fun less equal => ne_of_lt less (congrArg Prod.fst equal)
  have perm : (first.entries.filter keep).Perm (second.entries.filter keep) := by
    rw [List.perm_ext_iff_of_nodup (nodup first) (nodup second)]
    rintro ⟨key, value⟩
    simp only [List.mem_filter, ← get?_eq_some_iff]
    exact and_congr_left (same key value)
  exact perm.eq_of_pairwise (fun _ _ _ _ less greater => absurd less (lt_asymm greater))
    (sorted first) (sorted second)

def values (map : BTreeMap κ α) : List α := map.entries.map Prod.snd

def containsKey (map : BTreeMap κ α) (key : κ) : Bool := (map.get? key).isSome

def insertEntry (key : κ) (value : α) : List (κ × α) → List (κ × α)
  | [] => [(key, value)]
  | (other, content) :: rest =>
    if key < other then (key, value) :: (other, content) :: rest
    else if key = other then (key, value) :: rest
    else (other, content) :: insertEntry key value rest

theorem mem_keys_insertEntry {found : κ} {entries : List (κ × α)}
    (member : found ∈ (insertEntry key value entries).map Prod.fst) :
    found = key ∨ found ∈ entries.map Prod.fst := by
  induction entries with
  | nil => simpa [insertEntry] using member
  | cons entry rest ih =>
    rw [insertEntry] at member
    split at member
    · simpa using member
    split at member
    · simp only [List.map_cons, List.mem_cons] at member ⊢
      tauto
    · simp only [List.map_cons, List.mem_cons] at member ⊢
      rcases member with here | later
      · exact .inr (.inl here)
      · rcases ih later with same | there
        · exact .inl same
        · exact .inr (.inr there)

theorem insertEntry_sorted {entries : List (κ × α)}
    (sorted : (entries.map Prod.fst).Pairwise (· < ·)) :
    ((insertEntry key value entries).map Prod.fst).Pairwise (· < ·) := by
  induction entries with
  | nil => simp [insertEntry]
  | cons entry rest ih =>
    rw [List.map_cons, List.pairwise_cons] at sorted
    rw [insertEntry]
    split
    · next less =>
        simp only [List.map_cons, List.pairwise_cons, List.mem_cons]
        refine ⟨?_, sorted⟩
        rintro found (rfl | later)
        · exact less
        · exact lt_trans less (sorted.1 found later)
    split
    · next same =>
        simp only [List.map_cons, List.pairwise_cons]
        rw [same]
        exact sorted
    · next notLess different =>
        simp only [List.map_cons, List.pairwise_cons]
        refine ⟨fun found member => ?_, ih sorted.2⟩
        rcases mem_keys_insertEntry member with rfl | there
        · exact lt_of_le_of_ne (not_lt.mp notLess) (Ne.symm different)
        · exact sorted.1 found there

/-- `BTreeMap::insert`; the value that was there before is dropped. -/
def insert (map : BTreeMap κ α) (key : κ) (value : α) : BTreeMap κ α :=
  ⟨insertEntry key value map.entries, insertEntry_sorted map.sorted⟩

theorem insert_entries_perm (absent : map.get? key = none) (value : α) :
    (map.insert key value).entries.Perm ((key, value) :: map.entries) := by
  rw [get?_eq_none_iff, keys] at absent
  simp only [insert]
  generalize map.entries = entries at absent
  induction entries with
  | nil => exact .refl _
  | cons entry rest ih =>
    rw [List.map_cons, List.mem_cons, not_or] at absent
    rw [insertEntry]
    split
    · exact .refl _
    rw [if_neg absent.1]
    exact ((ih absent.2).cons _).trans (.swap _ _ _)

/-- Rewrite every value and keep the keys: `iter().map(..).collect()` with an
unchanged key. -/
def mapValues (transform : κ → α → β) (map : BTreeMap κ α) : BTreeMap κ β :=
  ⟨map.entries.map fun entry => (entry.1, transform entry.1 entry.2), by
    simpa [List.map_map, Function.comp_def] using map.sorted⟩

@[simp] theorem keys_mapValues (transform : κ → α → β) (map : BTreeMap κ α) :
    (map.mapValues transform).keys = map.keys := by
  simp [keys, mapValues]

theorem get?_mapValues (transform : κ → α → β) (map : BTreeMap κ α) (key : κ) :
    (map.mapValues transform).get? key = (map.get? key).map (transform key) := by
  cases found : map.get? key with
  | none =>
    simpa [get?_eq_none_iff] using found
  | some value =>
    rw [Option.map_some, get?_eq_some_iff]
    exact List.mem_map.mpr ⟨_, get?_eq_some_iff.mp found, rfl⟩

def filterMapM (select : κ → α → Except ε (Option β)) (map : BTreeMap κ α) :
    Except ε (BTreeMap κ β) :=
  match done : collectEntries select map.entries with
  | .error reason => .error reason
  | .ok collected => .ok ⟨collected, map.sorted.sublist (collectEntries_keys done)⟩

variable {select : κ → α → Except ε (Option β)} {result : BTreeMap κ β}

theorem filterMapM_entries (done : map.filterMapM select = .ok result) :
    collectEntries select map.entries = .ok result.entries := by
  unfold filterMapM at done
  split at done
  · contradiction
  · rename_i collected collectedAll
    cases done
    exact collectedAll

theorem get?_filterMapM (done : map.filterMapM select = .ok result) (key : κ) (selected : β) :
    result.get? key = some selected ↔
      ∃ value, map.get? key = some value ∧ select key value = .ok (some selected) := by
  simp only [get?_eq_some_iff, ← (collectEntries_eq_ok.mp (filterMapM_entries done)).2,
    List.mem_filterMap, collectEntry_eq_some, Prod.exists]
  constructor
  · rintro ⟨_, value, member, rfl, chosen⟩
    exact ⟨value, member, chosen⟩
  · rintro ⟨value, member, chosen⟩
    exact ⟨key, value, member, rfl, chosen⟩

theorem filterMapM_exists
    (accepted : ∀ key value, map.get? key = some value → ∃ result, select key value = .ok result) :
    ∃ result, map.filterMapM select = .ok result := by
  have done : collectEntries select map.entries = .ok _ := collectEntries_eq_ok.mpr
    ⟨fun _ member => accepted _ _ (get?_of_mem member), rfl⟩
  unfold filterMapM
  split
  · rename_i failed
    rw [done] at failed
    contradiction
  · exact ⟨_, rfl⟩

theorem filterMapM_error {reason : ε} (failed : map.filterMapM select = .error reason) :
    ∃ key value, map.get? key = some value ∧ select key value = .error reason := by
  unfold filterMapM at failed
  split at failed
  · next stopped =>
    cases failed
    obtain ⟨entry, member, chosen⟩ := collectEntries_error stopped
    exact ⟨entry.1, entry.2, get?_of_mem member, chosen⟩
  · cases failed

theorem filterMapM_total (done : map.filterMapM select = .ok result)
    (found : map.get? key = some value) : ∃ chosen, select key value = .ok chosen :=
  (collectEntries_eq_ok.mp (filterMapM_entries done)).1 _ (get?_eq_some_iff.mp found)

/-- `iter().map(..).collect::<Result<BTreeMap<_, _>, _>>()` with an unchanged key. -/
def mapM (transform : κ → α → Except ε β) (map : BTreeMap κ α) : Except ε (BTreeMap κ β) :=
  map.filterMapM fun key value => (transform key value).map some

variable {transform : κ → α → Except ε β}

theorem get?_mapM (done : map.mapM transform = .ok result) (key : κ) (output : β) :
    result.get? key = some output ↔
      ∃ value, map.get? key = some value ∧ transform key value = .ok output := by
  simp only [get?_filterMapM done, except_map_eq_ok, Option.some.injEq, exists_eq_right]

theorem keys_mapM (done : map.mapM transform = .ok result) : result.keys = map.keys := by
  obtain ⟨accepted, same⟩ := collectEntries_eq_ok.mp (filterMapM_entries done)
  rw [keys, ← same, List.map_filterMap, keys, ← List.filterMap_eq_map]
  refine List.filterMap_congr fun entry member => ?_
  obtain ⟨chosen, computed⟩ := accepted entry member
  obtain ⟨output, outcome, -⟩ := except_map_eq_ok.mp computed
  simp [collectEntry, outcome, Except.map]

theorem mapM_exists
    (accepted : ∀ key value, map.get? key = some value → ∃ output, transform key value = .ok output) :
    ∃ result, map.mapM transform = .ok result := by
  apply filterMapM_exists
  intro key value found
  obtain ⟨output, computed⟩ := accepted key value found
  exact ⟨some output, by simp [computed, Except.map]⟩

theorem mapM_total (done : map.mapM transform = .ok result) (found : map.get? key = some value) :
    ∃ output, transform key value = .ok output := by
  obtain ⟨chosen, computed⟩ := filterMapM_total done found
  obtain ⟨output, outcome, -⟩ := except_map_eq_ok.mp computed
  exact ⟨output, outcome⟩

end BTreeMap

end Oak.Data
