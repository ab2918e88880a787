import Mathlib.Data.List.Basic

namespace Oak.Data

/-! A list cut into pieces of one size, as `slice::chunks` does it. -/

variable {α : Type}

/-- The last piece may be shorter.  The source asks for pieces of positive size only. -/
def chunks (size : Nat) : List α → List (List α)
  | [] => []
  | first :: rest => (first :: rest.take (size - 1)) :: chunks size (rest.drop (size - 1))
termination_by items => items.length
decreasing_by
  rw [List.length_drop, List.length_cons]
  omega

@[simp] theorem chunks_nil (size : Nat) : chunks size ([] : List α) = [] := by
  rw [chunks]

theorem chunks_of_ne_nil {size : Nat} (positive : 0 < size) {items : List α} (some : items ≠ []) :
    chunks size items = items.take size :: chunks size (items.drop size) := by
  obtain ⟨size, rfl⟩ := Nat.exists_eq_succ_of_ne_zero (Nat.ne_of_gt positive)
  cases items with
  | nil => exact absurd rfl some
  | cons first rest =>
    rw [chunks]
    rfl

theorem chunks_map {β : Type} (convert : α → β) (size : Nat) (items : List α) :
    chunks size (items.map convert) = (chunks size items).map (List.map convert) := by
  fun_induction chunks size items with
  | case1 => rw [List.map_nil, chunks_nil, List.map_nil]
  | case2 first rest ih =>
    rw [List.map_cons, chunks, ← List.map_drop, ih, ← List.map_take]
    rfl

theorem flatten_chunks (size : Nat) (items : List α) : (chunks size items).flatten = items := by
  fun_induction chunks size items with
  | case1 => rfl
  | case2 first rest ih =>
    rw [List.flatten_cons, ih, List.cons_append, List.take_append_drop]

theorem chunk_bounds {size : Nat} (positive : 0 < size) {items chunk : List α}
    (found : chunk ∈ chunks size items) : 0 < chunk.length ∧ chunk.length ≤ size := by
  fun_induction chunks size items with
  | case1 => cases found
  | case2 first rest ih =>
    rcases List.mem_cons.mp found with rfl | later
    · simp only [List.length_cons, List.length_take]
      omega
    · exact ih later

end Oak.Data
