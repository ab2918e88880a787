import Mathlib.Data.List.Basic

namespace Oak.Data.Interleaving

/-! Interleavings of processes whose steps commute.

When the steps of different processes commute, one complete run decides what
every schedule does: no schedule takes more steps than that run has, and a
schedule that can go no further has ended where that run ends.  Two processes
with one-way mailboxes between them are an instance. -/

section Schedules

variable {σ ι : Type} (step : ι → σ → Option σ)

/-- A state in which no process can take a step. -/
def Quiescent (state : σ) : Prop := ∀ process, step process state = none

inductive Finishes : Nat → σ → σ → Prop where
  | done {state : σ} (quiescent : Quiescent step state) : Finishes 0 state state
  | more {count : Nat} {state next final : σ} (process : ι)
      (moved : step process state = some next) (rest : Finishes count next final) :
      Finishes (count + 1) state final

/-- The steps of two processes can be taken in either order. -/
def Commutes : Prop :=
  ∀ first second state afterFirst afterSecond, first ≠ second →
    step first state = some afterFirst → step second state = some afterSecond →
    ∃ both, step second afterFirst = some both ∧ step first afterSecond = some both

/-- A process that is scheduled when it cannot take a step is passed over. -/
def execute (state : σ) : List ι → σ
  | [] => state
  | process :: rest => execute ((step process state).getD state) rest

def stepsTaken (state : σ) : List ι → Nat
  | [] => 0
  | process :: rest =>
    (if (step process state).isSome then 1 else 0) +
      stepsTaken ((step process state).getD state) rest

variable {step}

variable {count : Nat} {state final : σ}

theorem Finishes.after (commutes : Commutes step) {next : σ}
    (finishes : Finishes step count state final) {process : ι}
    (moved : step process state = some next) :
    ∃ fewer, count = fewer + 1 ∧ Finishes step fewer next final := by
  induction finishes generalizing next process with
  | done quiescent => simp [quiescent process] at moved
  | @more count state other final chosen otherMoved rest ih =>
    refine ⟨count, rfl, ?_⟩
    by_cases same : chosen = process
    · subst same
      rw [otherMoved, Option.some.injEq] at moved
      subst moved
      exact rest
    · obtain ⟨both, movedAfter, chosenAfter⟩ := commutes _ _ _ _ _ same otherMoved moved
      obtain ⟨fewer, rfl, remaining⟩ := ih movedAfter
      exact .more chosen chosenAfter remaining

theorem Finishes.execute (commutes : Commutes step) (finishes : Finishes step count state final)
    (schedule : List ι) : ∃ remaining, stepsTaken step state schedule + remaining = count ∧
      Finishes step remaining (execute step state schedule) final := by
  induction schedule generalizing state count with
  | nil => exact ⟨count, Nat.zero_add _, finishes⟩
  | cons process rest ih =>
    cases moved : step process state with
    | none =>
      obtain ⟨remaining, total, followed⟩ := ih finishes
      refine ⟨remaining, ?_, ?_⟩
      · simpa [stepsTaken, moved] using total
      · simpa [Interleaving.execute, moved] using followed
    | some next =>
      obtain ⟨fewer, rfl, after⟩ := finishes.after commutes moved
      obtain ⟨remaining, total, followed⟩ := ih after
      refine ⟨remaining, ?_, ?_⟩
      · simp only [stepsTaken, moved, Option.isSome_some, ↓reduceIte, Option.getD_some]
        omega
      · simpa [Interleaving.execute, moved] using followed

theorem Finishes.eq_of_quiescent (finishes : Finishes step count state final)
    (quiescent : Quiescent step state) : state = final := by
  cases finishes with
  | done _ => rfl
  | more process moved rest => simp [quiescent process] at moved

theorem Finishes.backwards (holds : σ → Prop)
    (earlier : ∀ process state next, step process state = some next → holds next → holds state)
    (finishes : Finishes step count state final) (atEnd : holds final) : holds state := by
  induction finishes with
  | done _ => exact atEnd
  | more process moved rest ih => exact earlier process _ _ moved (ih atEnd)

end Schedules

section Mailboxes

variable {σ τ μ : Type}

/-- A local step: the next state, what is left in the mailbox and what is sent. -/
structure Local (σ μ : Type) where
  state : σ
  mailbox : List μ
  sent : List μ

/-- A process that only looks at the front of its mailbox. -/
def ReadsFront (act : σ → List μ → Option (Local σ μ)) : Prop :=
  ∀ state mailbox taken later, act state mailbox = some taken →
    act state (mailbox ++ later) = some { taken with mailbox := taken.mailbox ++ later }

inductive Side where
  | client
  | server
deriving DecidableEq, Repr

structure Pair (σ τ μ : Type) where
  client : σ
  server : τ
  toClient : List μ
  toServer : List μ

def Pair.step (client : σ → List μ → Option (Local σ μ)) (server : τ → List μ → Option (Local τ μ))
    (side : Side) (pair : Pair σ τ μ) : Option (Pair σ τ μ) :=
  match side with
  | .client => (client pair.client pair.toClient).map fun taken => {
      client := taken.state
      server := pair.server
      toClient := taken.mailbox
      toServer := pair.toServer ++ taken.sent }
  | .server => (server pair.server pair.toServer).map fun taken => {
      client := pair.client
      server := taken.state
      toClient := pair.toClient ++ taken.sent
      toServer := taken.mailbox }

variable {client : σ → List μ → Option (Local σ μ)} {server : τ → List μ → Option (Local τ μ)}

theorem Pair.swap (clientFront : ReadsFront client) (serverFront : ReadsFront server)
    {pair afterClient afterServer : Pair σ τ μ}
    (clientMoved : Pair.step client server .client pair = some afterClient)
    (serverMoved : Pair.step client server .server pair = some afterServer) :
    ∃ both, Pair.step client server .server afterClient = some both ∧
      Pair.step client server .client afterServer = some both := by
  simp only [Pair.step, Option.map_eq_some_iff] at clientMoved serverMoved
  obtain ⟨clientTaken, clientActed, rfl⟩ := clientMoved
  obtain ⟨serverTaken, serverActed, rfl⟩ := serverMoved
  have clientLater := clientFront _ _ _ serverTaken.sent clientActed
  have serverLater := serverFront _ _ _ clientTaken.sent serverActed
  refine ⟨{
    client := clientTaken.state
    server := serverTaken.state
    toClient := clientTaken.mailbox ++ serverTaken.sent
    toServer := serverTaken.mailbox ++ clientTaken.sent }, ?_, ?_⟩
  · simp [Pair.step, serverLater]
  · simp [Pair.step, clientLater]

theorem Pair.commutes (clientFront : ReadsFront client) (serverFront : ReadsFront server) :
    Commutes (Pair.step client server) := by
  intro first second pair afterFirst afterSecond different firstMoved secondMoved
  cases first with
  | client =>
    cases second with
    | client => exact absurd rfl different
    | server => exact Pair.swap clientFront serverFront firstMoved secondMoved
  | server =>
    cases second with
    | client =>
      obtain ⟨both, serverAfter, clientAfter⟩ :=
        Pair.swap clientFront serverFront secondMoved firstMoved
      exact ⟨both, clientAfter, serverAfter⟩
    | server => exact absurd rfl different

end Mailboxes

end Oak.Data.Interleaving
