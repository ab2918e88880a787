import Oak.Data.Chunks
import Oak.Data.Outcome

namespace Oak.Data.Tally

/-! Operations that are tallied.

Each operation covers some numbers, and the state counts how often each number has been covered.
An allowed operation that returns has counted its numbers once more; it is only certain to return if
none of its numbers has been counted before. -/

variable {ε σ π : Type}

/-- The operations one after the other, up to the first that fails. -/
def runAll (run : π → σ → Outcome ε σ) : List π → σ → Outcome ε σ
  | [], state => .ok state
  | operation :: operations, state => run operation state >>= runAll run operations

def runEach {β : Type} (plan : β → Outcome ε (List π)) (run : π → σ → Outcome ε σ) :
    List β → σ → Outcome ε σ
  | [], state => .ok state
  | item :: items, state => do
    let operations ← plan item
    let next ← runAll run operations state
    runEach plan run items next

structure Tallied (allowed : π → Prop) (count : σ → Nat → Nat) (covers : π → Nat → Bool)
    (run : π → σ → Outcome ε σ) : Prop where
  adds : ∀ {operation state next}, allowed operation → run operation state = .ok next → ∀ number,
    count next number = count state number + if covers operation number then 1 else 0
  returns : ∀ {operation state}, allowed operation →
    (∀ number, covers operation number → count state number = 0) →
    ∃ next, run operation state = .ok next

def coverage (covers : π → Nat → Bool) (operations : List π) (number : Nat) : Nat :=
  operations.countP (covers · number)

section Coverage

variable {covers : π → Nat → Bool} {number : Nat}

@[simp] theorem coverage_nil : coverage covers [] number = 0 := rfl

@[simp] theorem coverage_cons (operation : π) (operations : List π) :
    coverage covers (operation :: operations) number =
      coverage covers operations number + if covers operation number then 1 else 0 :=
  List.countP_cons

@[simp] theorem coverage_append (first second : List π) : coverage covers (first ++ second) number =
      coverage covers first number + coverage covers second number :=
  List.countP_append

theorem coverage_map {ρ : Type} (convert : ρ → π) (operations : List ρ) :
    coverage covers (operations.map convert) number =
      coverage (fun operation => covers (convert operation)) operations number :=
  List.countP_map

theorem exists_of_coverage_pos {operations : List π}
    (covered : 0 < coverage covers operations number) :
    ∃ operation ∈ operations, covers operation number :=
  List.countP_pos_iff.mp covered

end Coverage

section Runs

variable {run : π → σ → Outcome ε σ}

theorem runAll_append (first second : List π) (state : σ) :
    runAll run (first ++ second) state = runAll run first state >>= runAll run second := by
  induction first generalizing state with
  | nil => rfl
  | cons operation first ih =>
    rw [List.cons_append, runAll, runAll]
    cases run operation state with
    | error fault => rfl
    | ok next => exact ih next

theorem runAll_flatten (groups : List (List π)) (state : σ) :
    runAll (runAll run) groups state = runAll run groups.flatten state := by
  induction groups generalizing state with
  | nil => rfl
  | cons group groups ih =>
    rw [runAll, List.flatten_cons, runAll_append]
    congr 1
    exact funext ih

theorem runAll_chunks (size : Nat) (operations : List π) (state : σ) :
    runAll (runAll run) (chunks size operations) state = runAll run operations state := by
  rw [runAll_flatten, flatten_chunks]

variable {operations : List π} {state next : σ}

theorem runAll_invariant (holds : σ → Prop)
    (preserved : ∀ operation ∈ operations, ∀ state next, holds state →
      run operation state = .ok next → holds next) (initial : holds state)
    (returned : runAll run operations state = .ok next) : holds next := by
  induction operations generalizing state with
  | nil =>
    cases returned
    exact initial
  | cons operation operations ih =>
    rw [List.forall_mem_cons] at preserved
    obtain ⟨middle, first, rest⟩ := except_bind_eq_ok.mp returned
    exact ih preserved.2 (preserved.1 state middle initial first) rest

theorem runEach_of_plan {β : Type} {plan : β → Outcome ε (List π)} {operations : β → List π}
    {items : List β} (planned : ∀ item ∈ items, plan item = .ok (operations item)) (state : σ) :
    runEach plan run items state = runAll run (items.flatMap operations) state := by
  induction items generalizing state with
  | nil => rfl
  | cons item items ih =>
    rw [List.forall_mem_cons] at planned
    rw [runEach, planned.1, Outcome.ok_bind, List.flatMap_cons, runAll_append]
    congr 1
    exact funext (ih planned.2)

theorem exists_plan_of_runEach {β : Type} {plan : β → Outcome ε (List π)} {items : List β}
    (returned : runEach plan run items state = .ok next) :
    ∀ item ∈ items, ∃ operations, plan item = .ok operations := by
  induction items generalizing state with
  | nil => nofun
  | cons item items ih =>
    obtain ⟨operations, planned, continued⟩ := except_bind_eq_ok.mp returned
    obtain ⟨middle, _, rest⟩ := except_bind_eq_ok.mp continued
    rw [List.forall_mem_cons]
    exact ⟨⟨operations, planned⟩, ih rest⟩

variable {allowed : π → Prop} {count : σ → Nat → Nat} {covers : π → Nat → Bool}

section

variable (tallied : Tallied allowed count covers run)
    (fine : ∀ operation ∈ operations, allowed operation)

include tallied fine

theorem Tallied.runAll_adds (returned : runAll run operations state = .ok next) (number : Nat) :
    count next number = count state number + coverage covers operations number := by
  induction operations generalizing state with
  | nil =>
    cases returned
    simp
  | cons operation operations ih =>
    rw [List.forall_mem_cons] at fine
    obtain ⟨middle, first, rest⟩ := except_bind_eq_ok.mp returned
    rw [ih fine.2 rest, tallied.adds fine.1 first, coverage_cons]
    omega

theorem Tallied.runAll_returns (once : ∀ number, 0 < coverage covers operations number →
      count state number + coverage covers operations number ≤ 1) :
    ∃ next, runAll run operations state = .ok next := by
  induction operations generalizing state with
  | nil => exact ⟨state, rfl⟩
  | cons operation operations ih =>
    simp only [coverage_cons] at once
    rw [List.forall_mem_cons] at fine
    have fresh : ∀ number, covers operation number → count state number = 0 := by
      intro number covered
      have := once number
      rw [if_pos covered] at this
      omega
    obtain ⟨middle, first⟩ := tallied.returns fine.1 fresh
    have rest : ∀ number, 0 < coverage covers operations number →
        count middle number + coverage covers operations number ≤ 1 := by
      intro number positive
      have := once number (Nat.add_pos_left positive _)
      rw [tallied.adds fine.1 first]
      omega
    obtain ⟨next, returned⟩ := ih fine.2 rest
    refine ⟨next, ?_⟩
    rw [runAll, first]
    exact returned

/-- From a state without counts, a run returns with the expected counts if and only if these are
how often its operations cover each number. -/
theorem Tallied.exact_iff (empty : ∀ number, count state number = 0) {expected : Nat → Nat}
    (once : ∀ number, expected number ≤ 1) : (∃ next, runAll run operations state = .ok next ∧
      ∀ number, count next number = expected number) ↔
    ∀ number, coverage covers operations number = expected number := by
  constructor
  · rintro ⟨next, returned, counted⟩ number
    rw [← counted, tallied.runAll_adds fine returned, empty, Nat.zero_add]
  · intro covered
    have disjoint : ∀ number, 0 < coverage covers operations number →
        count state number + coverage covers operations number ≤ 1 := by
      intro number _
      rw [empty, covered, Nat.zero_add]
      exact once number
    obtain ⟨next, returned⟩ := tallied.runAll_returns fine disjoint
    refine ⟨next, returned, fun number => ?_⟩
    rw [tallied.runAll_adds fine returned, empty, covered, Nat.zero_add]

end

theorem Tallied.group {γ : Type} (tallied : Tallied allowed count covers run)
    {parts : γ → List π} {groupAllowed : γ → Prop} {groupCovers : γ → Nat → Bool}
    (fine : ∀ group, groupAllowed group → ∀ operation ∈ parts group, allowed operation)
    (covered : ∀ group number, coverage covers (parts group) number =
      if groupCovers group number then 1 else 0) :
    Tallied groupAllowed count groupCovers fun group => runAll run (parts group) where
  adds := by
    intro group state next groupFine returned number
    rw [tallied.runAll_adds (fine group groupFine) returned, covered]
  returns := by
    intro group state groupFine fresh
    apply tallied.runAll_returns (fine group groupFine)
    intro number positive
    rw [covered] at positive ⊢
    by_cases inside : groupCovers group number
    · apply Nat.le_of_eq
      rw [fresh number inside, if_pos inside]
    · rw [if_neg inside] at positive
      omega

end Runs

end Oak.Data.Tally
