import Mathlib.Data.List.Nodup

namespace Oak.Data

/-! A store of items under the keys that they carry. -/

structure Keyed {α κ : Type} (key : α → κ) where
  items : List α
  distinct : (items.map key).Nodup

namespace Keyed

variable {α κ : Type} {key : α → κ} [DecidableEq κ] {store : Keyed key} {item other : α} {k : κ}

def get? (store : Keyed key) (k : κ) : Option α :=
  store.items.find? (key · == k)

def erase (store : Keyed key) (k : κ) : Keyed key where
  items := store.items.filter (key · != k)
  distinct := store.distinct.sublist (List.filter_sublist.map key)

/-- Replaces the item that has the same key. -/
def put (store : Keyed key) (item : α) : Keyed key where
  items := item :: (store.erase (key item)).items
  distinct := by
    refine List.nodup_cons.mpr ⟨?_, (store.erase (key item)).distinct⟩
    simp [erase]

omit [DecidableEq κ] in
theorem eq_of_key (first : item ∈ store.items) (second : other ∈ store.items)
    (same : key item = key other) : item = other :=
  List.inj_on_of_nodup_map store.distinct first second same

theorem get?_eq_some : store.get? k = some item ↔ item ∈ store.items ∧ key item = k := by
  constructor
  · intro found
    exact ⟨List.mem_of_find?_eq_some found, by simpa using List.find?_some found⟩
  · rintro ⟨member, rfl⟩
    cases found : store.get? (key item) with
    | none => simpa using List.find?_eq_none.mp found item member
    | some other =>
      have same : key other = key item := by simpa using List.find?_some found
      rw [eq_of_key member (List.mem_of_find?_eq_some found) same.symm]

theorem mem_erase (member : other ∈ store.items) :
    item ∈ (store.erase (key other)).items ↔ item ∈ store.items ∧ item ≠ other := by
  rw [erase, List.mem_filter, bne_iff_ne]
  exact and_congr_right fun kept => not_congr ⟨eq_of_key kept member, congrArg key⟩

theorem mem_put : item ∈ (store.put other).items ↔
    item = other ∨ item ∈ store.items ∧ key item ≠ key other := by
  simp [put, erase]

theorem mem_foldl_put {items : List α} : item ∈ (items.foldl put store).items →
    item ∈ items ∨ item ∈ store.items ∧ key item ∉ items.map key := by
  induction items generalizing store with
  | nil => simp
  | cons first rest ih =>
    intro member
    rcases ih member with later | ⟨earlier, absent⟩
    · exact .inl (.tail _ later)
    · rcases mem_put.mp earlier with rfl | ⟨kept, apart⟩
      · exact .inl (.head _)
      · exact .inr ⟨kept, by simpa using ⟨apart, by simpa using absent⟩⟩

theorem mem_foldl_put_of_mem {items : List α} (member : item ∈ store.items)
    (absent : key item ∉ items.map key) : item ∈ (items.foldl put store).items := by
  induction items generalizing store with
  | nil => exact member
  | cons first rest ih =>
    rw [List.map_cons, List.mem_cons, not_or] at absent
    exact ih (mem_put.mpr (.inr ⟨member, absent.1⟩)) absent.2

/-- All items are there afterwards exactly if none replaces another. -/
theorem subset_foldl_put_iff {items : List α} : items ⊆ (items.foldl put store).items ↔
    ∀ item ∈ items, ∀ other ∈ items, key item = key other → item = other := by
  constructor
  · intro present item first other second
    exact eq_of_key (present first) (present second)
  · intro separate
    induction items generalizing store with
    | nil => exact List.nil_subset _
    | cons first rest ih =>
      have later : rest ⊆ (rest.foldl put (store.put first)).items := ih fun item member other second =>
        separate item (.tail _ member) other (.tail _ second)
      intro item member
      rw [List.foldl_cons]
      rcases List.mem_cons.mp member with rfl | inRest
      · by_cases again : key item ∈ rest.map key
        · obtain ⟨other, second, same⟩ := List.mem_map.mp again
          obtain rfl := separate item member other (.tail _ second) same.symm
          exact later second
        · exact mem_foldl_put_of_mem (mem_put.mpr (.inl rfl)) again
      · exact later inRest

end Keyed

end Oak.Data
