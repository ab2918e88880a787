import Mathlib.Data.List.Basic

namespace Oak.Data.Runs

/-! Runs of a deterministic machine.

`step` answers one input with an output and the next state.  `after` is the
state a run ends in and `trace` pairs every input with the answer it got, so
properties of a whole history and properties of the state reached can be
stated, and proved, together. -/

variable {σ ι ο : Type}

def after (step : σ → ι → ο × σ) (state : σ) : List ι → σ
  | [] => state
  | input :: rest => after step (step state input).2 rest

def trace (step : σ → ι → ο × σ) (state : σ) : List ι → List (ι × ο)
  | [] => []
  | input :: rest => (input, (step state input).1) :: trace step (step state input).2 rest

variable {step : σ → ι → ο × σ} {state : σ}

section

variable (holds : List (ι × ο) → σ → Prop)
    (preserved : ∀ history state input, holds history state → holds (history ++ [(input, (step state input).1)]) (step state input).2)

include holds preserved

/-- The induction every safety proof uses: a relation between the history so
far and the current state that each step extends holds after every run. -/
theorem invariant {history : List (ι × ο)} (initial : holds history state) (inputs : List ι) :
    holds (history ++ trace step state inputs) (after step state inputs) := by
  induction inputs generalizing history state with
  | nil => simpa [trace, after] using initial
  | cons input rest ih =>
    have next := ih (preserved history state input initial)
    simpa [trace, after] using next

theorem invariant_from_start (initial : holds [] state) (inputs : List ι) :
    holds (trace step state inputs) (after step state inputs) := by
  simpa using invariant holds preserved initial inputs

end

theorem state_invariant (holds : σ → Prop)
    (preserved : ∀ state input, holds state → holds (step state input).2)
    (initial : holds state) (inputs : List ι) : holds (after step state inputs) := by
  induction inputs generalizing state with
  | nil => exact initial
  | cons input rest ih => exact ih (preserved state input initial)

def Along (next : σ → ι → σ) (allowed : σ → ι → Prop) : σ → List ι → Prop
  | _, [] => True
  | state, input :: rest => allowed state input ∧ Along next allowed (next state input) rest

theorem Along.invariant {next : σ → ι → σ} {allowed : σ → ι → Prop} (holds : σ → Prop)
    (preserved : ∀ state input, allowed state input → holds state → holds (next state input))
    {state : σ} {inputs : List ι} (along : Along next allowed state inputs)
    (initial : holds state) : holds (inputs.foldl next state) := by
  induction inputs generalizing state with
  | nil => exact initial
  | cons input rest ih => exact ih along.2 (preserved state input along.1 initial)

end Oak.Data.Runs
