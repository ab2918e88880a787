import Oak.Data.Outcome

namespace Oak.Data

/-! Computations that ask an outside party.

Nothing ties an answer to its question or to the answers before it: the party sees how many questions
came earlier, and a deterministic computation asks the same questions whenever it gets the same
answers, so this is every behaviour that the party can show. -/

abbrev Party (Question Answer : Type) := Nat → Question → Answer

def Asking (Question Answer ε α : Type) := Party Question Answer → Nat → Except ε α × Nat

namespace Asking

variable {Question Answer ε α β : Type}

instance : Monad (Asking Question Answer ε) where
  pure value := fun _ asked => (.ok value, asked)
  bind first next := fun party asked =>
    match first party asked with
    | (.ok value, later) => next value party later
    | (.error reason, later) => (.error reason, later)

def ask (question : Question) : Asking Question Answer ε Answer :=
  fun party asked => (.ok (party asked question), asked + 1)

def known (result : Except ε α) : Asking Question Answer ε α := fun _ asked => (result, asked)

def mapResult (rewrite : Except ε α → Except ε β) (computation : Asking Question Answer ε α) :
    Asking Question Answer ε β :=
  fun party asked => (rewrite (computation party asked).1, (computation party asked).2)

def result (computation : Asking Question Answer ε α) (party : Party Question Answer) : Except ε α :=
  (computation party 0).1

/-- After `before` questions the computation succeeds, and then `after` have been asked. -/
def Returns (computation : Asking Question Answer ε α) (party : Party Question Answer)
    (before : Nat) (value : α) (after : Nat) : Prop :=
  computation party before = (.ok value, after)

def Fails (computation : Asking Question Answer ε α) (party : Party Question Answer)
    (before : Nat) (reason : ε) (after : Nat) : Prop :=
  computation party before = (.error reason, after)

variable {party : Party Question Answer} {before after : Nat}

variable {value : α}

@[simp] theorem returns_pure {found : α} :
    (pure value : Asking Question Answer ε α).Returns party before found after ↔
      value = found ∧ before = after := by
  simp [Returns, pure]

@[simp] theorem returns_known {outcome : Except ε α} :
    (known outcome : Asking Question Answer ε α).Returns party before value after ↔
      outcome = .ok value ∧ before = after := by
  simp [Returns, known]

@[simp] theorem returns_ask {question : Question} {answer : Answer} :
    (ask question : Asking Question Answer ε Answer).Returns party before answer after ↔
      party before question = answer ∧ before + 1 = after := by
  simp [Returns, ask]

variable {next : α → Asking Question Answer ε β} {first : Asking Question Answer ε α}

theorem returns_bind {value : β} : (first >>= next).Returns party before value after ↔
      ∃ found between, first.Returns party before found between ∧
        (next found).Returns party between value after := by
  simp only [Returns, bind]
  cases first party before with
  | mk outcome later =>
    cases outcome with
    | error reason => simp
    | ok found =>
      constructor
      · intro returned
        exact ⟨found, later, rfl, returned⟩
      · intro ⟨_, _, same, returned⟩
        cases same
        exact returned

variable {reason : ε}

theorem fails_bind : (first >>= next).Fails party before reason after ↔
      first.Fails party before reason after ∨ ∃ found between,
        first.Returns party before found between ∧ (next found).Fails party between reason after := by
  simp only [Returns, Fails, bind]
  cases first party before with
  | mk outcome later =>
    cases outcome with
    | error reason => simp
    | ok found =>
      constructor
      · intro failed
        exact .inr ⟨found, later, rfl, failed⟩
      · intro either
        rcases either with failed | ⟨_, _, same, failed⟩
        · cases failed
        · cases same
          exact failed

section Fixed

variable {holds : α → Prop} {middle : Nat}
  (spec : ∀ found between, first.Returns party before found between ↔ holds found ∧ middle = between)

include spec

/-- The rules for a first part that always asks the same number of questions. -/
theorem returns_bind_of {value : β} : (first >>= next).Returns party before value after ↔
    ∃ found, holds found ∧ (next found).Returns party middle value after := by
  simp only [returns_bind, spec, and_assoc, exists_and_left, exists_eq_left']

theorem fails_bind_of : (first >>= next).Fails party before reason after ↔
    first.Fails party before reason after ∨
      ∃ found, holds found ∧ (next found).Fails party middle reason after := by
  simp only [fails_bind, spec, and_assoc, exists_and_left, exists_eq_left']

end Fixed

@[simp] theorem fails_known {outcome : Except ε α} :
    (known outcome : Asking Question Answer ε α).Fails party before reason after ↔
      outcome = .error reason ∧ before = after := by
  simp [Fails, known]

@[simp] theorem not_fails_ask {question : Question} :
    ¬ (ask question : Asking Question Answer ε Answer).Fails party before reason after := by
  simp [Fails, ask]

theorem result_eq_ok {computation : Asking Question Answer ε α} :
    computation.result party = .ok value ↔ ∃ after, computation.Returns party 0 value after := by
  simp only [result, Returns]
  constructor
  · intro returned
    exact ⟨(computation party 0).2, by rw [← returned]⟩
  · intro ⟨after, returned⟩
    rw [returned]

end Asking

end Oak.Data
