import Oak.Data.Interleaving

namespace Oak.Data

/-! Sequential programs over a pair of pipes.

A program writes a symbol, waits for one, or has ended with a result.  It reads
the front of its pipe only, so two programs with a pipe in each direction are
processes whose steps commute. -/

inductive Process (μ ρ : Type) where
  | finish (result : ρ)
  | write (symbol : μ) (next : Process μ ρ)
  | read (next : μ → Process μ ρ)

namespace Process

open Interleaving

variable {μ ρ τ : Type}

def writeAll (symbols : List μ) (next : Process μ ρ) : Process μ ρ :=
  symbols.foldr .write next

def readExact : Nat → (List μ → Process μ ρ) → Process μ ρ
  | 0, next => next []
  | count + 1, next => .read fun symbol => readExact count fun rest => next (symbol :: rest)

def act : Process μ ρ → List μ → Option (Local (Process μ ρ) μ)
  | .finish _, _ => none
  | .write symbol next, pipe => some ⟨next, pipe, [symbol]⟩
  | .read _, [] => none
  | .read next, symbol :: pipe => some ⟨next symbol, pipe, []⟩

theorem act_readsFront : ReadsFront (act : Process μ ρ → _) := by
  intro process pipe taken later acted
  cases process with
  | finish result => cases acted
  | write symbol next =>
    cases acted
    rfl
  | read next =>
    cases pipe with
    | nil => cases acted
    | cons symbol pipe =>
      cases acted
      rfl

def step : Side → Pair (Process μ ρ) (Process μ τ) μ → Option (Pair (Process μ ρ) (Process μ τ) μ) :=
  Pair.step act act

theorem step_commutes : Commutes (step : Side → Pair (Process μ ρ) (Process μ τ) μ → _) :=
  Pair.commutes act_readsFront act_readsFront

/-- Some complete run ends there; then, as steps commute, so does every other. -/
def Completes (start final : Pair (Process μ ρ) (Process μ τ) μ) : Prop :=
  ∃ count, Finishes step count start final

variable {symbols : List μ} {next : List μ → Process μ ρ} {count : Nat}

section Completes

variable {client : Process μ ρ} {server : Process μ τ} {final : Pair (Process μ ρ) (Process μ τ) μ}

theorem completes_finish {result : ρ} {answer : τ} :
    Completes (⟨.finish result, .finish answer, [], []⟩ : Pair (Process μ ρ) (Process μ τ) μ)
      ⟨.finish result, .finish answer, [], []⟩ := by
  refine ⟨0, .done fun side => ?_⟩
  cases side <;> rfl

theorem Completes.step {start next : Pair (Process μ ρ) (Process μ τ) μ} (side : Side)
    (moved : step side start = some next) (rest : Completes next final) : Completes start final := by
  obtain ⟨count, finishes⟩ := rest
  exact ⟨count + 1, .more side moved finishes⟩

theorem Completes.client_sends (exact : symbols.length = count)
    {next : List μ → Process μ τ} (rest : Completes ⟨client, next symbols, [], []⟩ final) :
    Completes ⟨writeAll symbols client, readExact count next, [], []⟩ final := by
  subst exact
  induction symbols generalizing next with
  | nil => exact rest
  | cons symbol symbols ih =>
    have later : Completes ⟨writeAll symbols client,
        readExact symbols.length fun rest => next (symbol :: rest), [], []⟩ final := ih rest
    exact .step .client rfl (.step .server rfl later)

theorem Completes.server_sends (exact : symbols.length = count) (rest : Completes ⟨next symbols, server, [], []⟩ final) :
    Completes ⟨readExact count next, writeAll symbols server, [], []⟩ final := by
  subst exact
  induction symbols generalizing next with
  | nil => exact rest
  | cons symbol symbols ih =>
    have later : Completes ⟨readExact symbols.length fun rest => next (symbol :: rest),
        writeAll symbols server, [], []⟩ final := ih rest
    exact .step .server rfl (.step .client rfl later)

end Completes

/-- Whatever the program reads, its result is one that `holds` admits. -/
inductive Ends (holds : ρ → Prop) : Process μ ρ → Prop
  | finish {result : ρ} (held : holds result) : Ends holds (.finish result)
  | write {symbol : μ} {next : Process μ ρ} (ends : Ends holds next) : Ends holds (.write symbol next)
  | read {next : μ → Process μ ρ} (ends : ∀ symbol, Ends holds (next symbol)) : Ends holds (.read next)

section Ends

variable {holds : ρ → Prop}

theorem Ends.act {process : Process μ ρ} (ends : Ends holds process) {pipe : List μ}
    {taken : Local (Process μ ρ) μ} (acted : process.act pipe = some taken) :
    Ends holds taken.state := by
  cases ends with
  | finish held => cases acted
  | write ends =>
    cases acted
    exact ends
  | read ends =>
    cases pipe with
    | nil => cases acted
    | cons symbol pipe =>
      cases acted
      exact ends symbol

theorem Ends.writeAll {next : Process μ ρ} (ends : Ends holds next) :
    Ends holds (writeAll symbols next) := by
  induction symbols with
  | nil => exact ends
  | cons symbol symbols ih => exact .write ih

theorem Ends.readExact (ends : ∀ symbols, symbols.length = count → Ends holds (next symbols)) :
    Ends holds (readExact count next) := by
  induction count generalizing next with
  | zero => exact ends [] rfl
  | succ count ih =>
    refine .read fun symbol => ih fun symbols exact => ends _ ?_
    rw [List.length_cons, exact]

theorem Ends.server_result {holds : τ → Prop} {start : Pair (Process μ ρ) (Process μ τ) μ}
    (ends : Ends holds start.server) {client : Process μ ρ} {answer : τ} {toClient toServer : List μ}
    (completes : Completes start ⟨client, .finish answer, toClient, toServer⟩) : holds answer := by
  obtain ⟨count, finishes⟩ := completes
  refine finishes.backwards (fun pair => Ends holds pair.server → holds answer) ?_ ?_ ends
  · intro side pair next moved later ends
    refine later ?_
    cases side with
    | client =>
      obtain ⟨taken, -, rfl⟩ := Option.map_eq_some_iff.mp moved
      exact ends
    | server =>
      obtain ⟨taken, acted, rfl⟩ := Option.map_eq_some_iff.mp moved
      exact ends.act acted
  · intro ended
    cases ended with
    | finish held => exact held

end Ends

end Process

end Oak.Data
