import Mathlib.Data.Prod.Basic

namespace Oak.Data

/-! Results of fallible source functions.

A Rust call either returns, with `Ok` or `Err`, or panics.  A panic is kept
apart from a returned error because callers can handle the latter only. -/

inductive Fault (ε : Type) where
  | error (reason : ε)
  | panic (message : String)
deriving Repr, DecidableEq

def Fault.map {ε δ : Type} (rewrite : ε → δ) : Fault ε → Fault δ
  | .error reason => .error (rewrite reason)
  | .panic message => .panic message

abbrev Outcome (ε α : Type) := Except (Fault ε) α

theorem except_bind_eq_ok {ε α β : Type} {result : Except ε α} {next : α → Except ε β} {value : β} :
    result >>= next = .ok value ↔ ∃ first, result = .ok first ∧ next first = .ok value := by
  cases result <;> simp [bind, Except.bind]

theorem except_map_eq_ok {ε α β : Type} {result : Except ε α} {transform : α → β} {value : β} :
    result.map transform = .ok value ↔ ∃ first, result = .ok first ∧ transform first = value := by
  cases result <;> simp [Except.map]

theorem exists_ok_of_any {ε α : Type} {result : Except ε α} {test : α → Bool}
    (passed : result.toOption.any test = true) : ∃ value, result = .ok value ∧ test value = true := by
  cases result with
  | error reason => cases passed
  | ok value => exact ⟨value, rfl, passed⟩

theorem except_mapError_eq_ok {ε δ α : Type} {rewrite : ε → δ} {result : Except ε α} {value : α} :
    result.mapError rewrite = .ok value ↔ result = .ok value := by
  cases result with
  | error reason =>
    have failed : (Except.error reason : Except ε α).mapError rewrite = .error (rewrite reason) := rfl
    simp [failed]
  | ok first =>
    have kept : (Except.ok first : Except ε α).mapError rewrite = .ok first := rfl
    simp [kept]

namespace Outcome

variable {ε δ α β : Type}

def err (reason : ε) : Outcome ε α := .error (.error reason)

def panic (message : String) : Outcome ε α := .error (.panic message)

/-- The call returned, and what it returned is an `Err`. -/
def IsErr : Outcome ε α → Prop
  | .error (.error _) => True
  | _ => False

def IsPanic : Outcome ε α → Prop
  | .error (.panic _) => True
  | _ => False

instance (outcome : Outcome ε α) : Decidable outcome.IsErr :=
  match outcome with
  | .error (.error _) => .isTrue trivial
  | .error (.panic _) => .isFalse id
  | .ok _ => .isFalse id

instance (outcome : Outcome ε α) : Decidable outcome.IsPanic :=
  match outcome with
  | .error (.error _) => .isFalse id
  | .error (.panic _) => .isTrue trivial
  | .ok _ => .isFalse id

@[simp] theorem not_isPanic_ok (value : α) : ¬ IsPanic (.ok value : Outcome ε α) := id

@[simp] theorem not_isPanic_err (reason : ε) : ¬ (err reason : Outcome ε α).IsPanic := id

def returned : Except ε α → Outcome ε α
  | .ok value => .ok value
  | .error reason => .err reason

/-- `Result::map_err`: returned errors are rewritten and panics propagate. -/
def mapErr (rewrite : ε → δ) : Outcome ε α → Outcome δ α
  | .ok value => .ok value
  | .error fault => .error (fault.map rewrite)

variable {outcome : Outcome ε α} {value : α}

theorem mapErr_eq_ok {rewrite : ε → δ} :
    outcome.mapErr rewrite = .ok value ↔ outcome = .ok value := by
  cases outcome <;> simp [mapErr]

theorem mapErr_ok (rewrite : ε → δ) (value : α) :
    mapErr rewrite (.ok value : Outcome ε α) = .ok value := rfl

def widen : Outcome Empty α → Outcome ε α := mapErr Empty.elim

@[simp] theorem widen_ok (value : α) : widen (.ok value) = (.ok value : Outcome ε α) := rfl

theorem isPanic_mapErr {rewrite : ε → δ} : (outcome.mapErr rewrite).IsPanic ↔ outcome.IsPanic := by
  rcases outcome with (reason | message) | value <;> exact Iff.rfl

theorem bind_eq_ok {next : α → Outcome ε β} {result : β} :
    outcome >>= next = .ok result ↔ ∃ value, outcome = .ok value ∧ next value = .ok result :=
  except_bind_eq_ok

@[simp] theorem ok_bind (value : α) (next : α → Outcome ε β) :
    ((.ok value : Outcome ε α) >>= next) = next value := rfl

@[simp] theorem err_bind (reason : ε) (next : α → Outcome ε β) :
    ((err reason : Outcome ε α) >>= next) = err reason := rfl

theorem isPanic_bind {next : α → Outcome ε β} : IsPanic (outcome >>= next) ↔
    outcome.IsPanic ∨ ∃ value, outcome = .ok value ∧ (next value).IsPanic := by
  rcases outcome with (reason | message) | value
  · exact iff_of_false id (by simp [IsPanic])
  · exact iff_of_true trivial (.inl trivial)
  · simp

theorem IsPanic.bind (panicked : outcome.IsPanic) (next : α → Outcome ε β) :
    IsPanic (outcome >>= next) := isPanic_bind.mpr (.inl panicked)

theorem not_isPanic_mapErr (rewrite : ε → δ) (fine : ¬ outcome.IsPanic) :
    ¬ (outcome.mapErr rewrite).IsPanic :=
  isPanic_mapErr.not.mpr fine

theorem not_isPanic_bind {next : α → Outcome ε β} (fine : ¬ outcome.IsPanic)
    (rest : ∀ value, ¬ (next value).IsPanic) : ¬ IsPanic (outcome >>= next) := by
  rw [isPanic_bind]
  rintro (panicked | ⟨value, -, panicked⟩)
  · exact fine panicked
  · exact rest value panicked

theorem IsPanic.ne_ok (panicked : outcome.IsPanic) (value : α) : outcome ≠ .ok value := by
  rintro rfl
  cases panicked

theorem returned_eq_ok {result : Except ε α} :
    returned result = .ok value ↔ result = .ok value := by
  cases result with
  | ok found => simp [returned]
  | error reason => simp [returned, err]

def caught : Outcome ε α → Outcome δ (Except ε α)
  | .ok value => .ok (.ok value)
  | .error (.error reason) => .ok (.error reason)
  | .error (.panic message) => .panic message

theorem caught_eq_ok_ok :
    (outcome.caught : Outcome δ (Except ε α)) = .ok (.ok value) ↔ outcome = .ok value := by
  rcases outcome with (reason | message) | found <;> simp [caught, panic]

/-- `if let Some(value) = option`, around a check. -/
def ifSome (option : Option α) (check : α → Outcome ε Unit) : Outcome ε Unit :=
  match option with
  | some value => check value
  | none => .ok ()

end Outcome

/-- The call returns `Ok` with exactly the values that `holds` admits, and panics exactly if `panics`
is true; otherwise it returns an error. -/
structure Decides {ε α : Type} (outcome : Outcome ε α) (holds : α → Prop) (panics : Prop) : Prop where
  ok_iff : ∀ value, outcome = .ok value ↔ holds value
  panic_iff : outcome.IsPanic ↔ panics

namespace Decides

variable {ε δ α β : Type} {outcome : Outcome ε α} {holds : α → Prop} {panics : Prop}

theorem ok (value : α) : Decides (.ok value : Outcome ε α) (fun found => value = found) False :=
  ⟨fun _ => by simp, by simp⟩

theorem err (reason : ε) : Decides (.err reason : Outcome ε α) (fun _ => False) False :=
  ⟨fun _ => by simp [Outcome.err], by simp⟩

theorem panic (message : String) : Decides (.panic message : Outcome ε α) (fun _ => False) True :=
  ⟨fun _ => by simp [Outcome.panic], by simp [Outcome.panic, Outcome.IsPanic]⟩

theorem congr {holds' : α → Prop} {panics' : Prop} (decides : Decides outcome holds panics)
    (sameOk : ∀ value, holds value ↔ holds' value) (samePanic : panics ↔ panics') :
    Decides outcome holds' panics' :=
  ⟨fun value => (decides.ok_iff value).trans (sameOk value), decides.panic_iff.trans samePanic⟩

theorem returned {result : Except ε α} (same : ∀ value, result = .ok value ↔ holds value) :
    Decides (Outcome.returned result) holds False := by
  refine ⟨fun value => Outcome.returned_eq_ok.trans (same value), ?_⟩
  cases result <;> simp [Outcome.returned]

theorem mapErr {rewrite : ε → δ} (decides : Decides outcome holds panics) :
    Decides (outcome.mapErr rewrite) holds panics :=
  ⟨fun value => Outcome.mapErr_eq_ok.trans (decides.ok_iff value),
    Outcome.isPanic_mapErr.trans decides.panic_iff⟩

theorem bind {next : α → Outcome ε β} {holdsNext : α → β → Prop} {panicsNext : α → Prop}
    (decides : Decides outcome holds panics)
    (after : ∀ value, holds value → Decides (next value) (holdsNext value) (panicsNext value)) :
    Decides (outcome >>= next) (fun result => ∃ value, holds value ∧ holdsNext value result)
      (panics ∨ ∃ value, holds value ∧ panicsNext value) := by
  constructor
  · intro result
    simp only [Outcome.bind_eq_ok, decides.ok_iff]
    exact exists_congr fun value => and_congr_right fun held => (after value held).ok_iff result
  · simp only [Outcome.isPanic_bind, decides.panic_iff, decides.ok_iff]
    exact or_congr_right <| exists_congr fun value => and_congr_right fun held =>
      (after value held).panic_iff

theorem not_isPanic_bind {next : α → Outcome ε β} (decides : Decides outcome holds panics) :
    ¬ Outcome.IsPanic (outcome >>= next) ↔
      ¬ panics ∧ ∀ value, holds value → ¬ (next value).IsPanic := by
  have bound := decides.bind fun value _ =>
    (⟨fun _ => Iff.rfl, Iff.rfl⟩ : Decides (next value) (next value = .ok ·) (next value).IsPanic)
  simp [bound.panic_iff]

theorem andThen {check : Outcome ε Unit} {passes : Prop} {next : Unit → Outcome ε β}
    {holdsNext : β → Prop} {panicsNext : Prop} (decides : Decides check (fun _ => passes) panics)
    (after : passes → Decides (next ()) holdsNext panicsNext) :
    Decides (check >>= next) (fun result => passes ∧ holdsNext result)
      (panics ∨ passes ∧ panicsNext) :=
  (decides.bind fun _ held => after held).congr (fun _ => by simp) (by simp)

theorem ifSome {option : Option α} {check : α → Outcome ε Unit} {passes panics : α → Prop}
    (each : ∀ value ∈ option, Decides (check value) (fun _ => passes value) (panics value)) :
    Decides (Outcome.ifSome option check) (fun _ => ∀ value ∈ option, passes value)
      (∃ value ∈ option, panics value) := by
  cases option with
  | none => exact ⟨fun _ => by simp [Outcome.ifSome], by simp [Outcome.ifSome]⟩
  | some value => exact (each value rfl).congr (by simp) (by simp)

theorem ite {condition : Prop} [Decidable condition] {next : Outcome ε α} {reason : ε}
    (decides : condition → Decides next holds panics) :
    Decides (if condition then next else .err reason) (fun value => condition ∧ holds value)
      (condition ∧ panics) := by
  split
  · next holds => exact (decides holds).congr (by simp [holds]) (by simp [holds])
  · next fails => exact (err reason).congr (by simp [fails]) (by simp [fails])

end Decides

theorem forM_eq_ok_iff {ε α : Type} {check : α → Except ε Unit} {entries : List α} :
    entries.forM check = .ok () ↔ ∀ entry ∈ entries, check entry = .ok () := by
  induction entries with
  | nil => simp [pure, Except.pure]
  | cons entry rest ih =>
    rw [List.forall_mem_cons, ← ih, List.forM]
    cases check entry with
    | ok | error => simp [bind, Except.bind]

end Oak.Data
