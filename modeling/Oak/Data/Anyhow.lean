import Oak.Data.Outcome
import Mathlib.Logic.Unique

namespace Oak.Data

/-! Errors that are texts with contexts, as the `anyhow` crate builds them. -/

abbrev Anyhow := List String

namespace Anyhow

variable {α β : Type}

/-- `anyhow::Result`, of a function that cannot panic. -/
abbrev Result (α : Type) := Except Anyhow α

def bail (message : String) : Result α := .error [message]

def ensure (condition : Prop) [Decidable condition] (message : String) : Result Unit :=
  if condition then .ok () else bail message

/-- `Result::context`. -/
def context (message : String) : Result α → Result α
  | .ok value => .ok value
  | .error reason => .error (message :: reason)

/-- `Option::context`. -/
def present (message : String) : Option α → Result α
  | some value => .ok value
  | none => bail message

/-- `if let Some(value) = option`, around a check. -/
def ifSome (option : Option α) (check : α → Result Unit) : Result Unit :=
  match option with
  | some value => check value
  | none => .ok ()

/-- An error of another crate, of which the text is known, with a message made of it. -/
def mapText (message : String → String) : Except String α → Result α
  | .ok value => .ok value
  | .error text => bail (message text)

/-- `{}` prints the outermost message only. -/
def display (reason : Anyhow) : String := reason.headD ""

/-- `map_err` to a message made of what `{}` prints. -/
def rewrap (message : String → String) : Result α → Result α
  | .ok value => .ok value
  | .error reason => bail (message reason.display)

/-- `{:#}` prints all of them. -/
def displayAll (reason : Anyhow) : String := ": ".intercalate reason

@[simp] theorem bail_ne_ok (message : String) (value : α) : bail message ≠ .ok value := nofun

variable {message : String}

@[simp] theorem ensure_eq_ok {condition : Prop} [Decidable condition] :
    ensure condition message = .ok () ↔ condition := by
  rw [ensure]
  split <;> simp [*]

variable {result : Result α} {value : α}

@[simp] theorem context_eq_ok : context message result = .ok value ↔ result = .ok value := by
  cases result <;> simp [context]

@[simp] theorem present_eq_ok {option : Option α} :
    present message option = .ok value ↔ option = some value := by
  cases option <;> simp [present]

@[simp] theorem ifSome_eq_ok {option : Option α} {check : α → Result Unit} :
    ifSome option check = .ok () ↔ ∀ value ∈ option, check value = .ok () := by
  cases option <;> simp [ifSome]

@[simp] theorem mapText_eq_ok {message : String → String} {result : Except String α} :
    mapText message result = .ok value ↔ result = .ok value := by
  cases result <;> simp [mapText]

@[simp] theorem rewrap_eq_ok {message : String → String} :
    rewrap message result = .ok value ↔ result = .ok value := by
  cases result <;> simp [rewrap]

@[simp] theorem bind_eq_ok {next : α → Result β} {value : β} :
    result >>= next = .ok value ↔ ∃ first, result = .ok first ∧ next first = .ok value :=
  except_bind_eq_ok

@[simp] theorem pure_eq_ok {first : α} : (pure first : Result α) = .ok value ↔ first = value := by
  simp [pure, Except.pure]

theorem isOk_iff : result.isOk = true ↔ ∃ value, result = .ok value := by
  cases result <;> simp [Except.toBool]

theorem unit_bind_eq_ok {check : Result Unit} {next : Unit → Result β} {value : β} :
    check >>= next = .ok value ↔ check = .ok () ∧ next () = .ok value := by
  rw [bind_eq_ok]
  exact Unique.exists_iff

end Anyhow

end Oak.Data
