import Mathlib.Data.List.Basic

namespace Oak.Data

/-! Decoders of record streams.

A framing cuts the first complete record off a stream.  A decoder hands the
records of a stream to a state, one after the other, and stops at the first
record it refuses.  Decoding a stream piece by piece, with the incomplete
record at the end of a piece kept for the next one, gives what decoding the
whole stream gives. -/

structure Framing (α : Type) where
  split : List α → Option (List α × List α)
  split_eq : ∀ {stream record rest}, split stream = some (record, rest) →
    stream = record ++ rest
  record_ne_nil : ∀ {stream record rest}, split stream = some (record, rest) → record ≠ []
  split_append : ∀ {stream record rest} (later : List α), split stream = some (record, rest) →
    split (stream ++ later) = some (record, rest ++ later)

namespace Framing

variable {α : Type} (framing : Framing α)

def recordsWithin : Nat → List α → List (List α) × List α
  | 0, stream => ([], stream)
  | fuel + 1, stream =>
    match framing.split stream with
    | none => ([], stream)
    | some (record, rest) =>
      let (later, left) := recordsWithin fuel rest
      (record :: later, left)

def records (stream : List α) : List (List α) × List α :=
  framing.recordsWithin stream.length stream

variable {framing} {stream record rest : List α}

theorem rest_shorter (cut : framing.split stream = some (record, rest)) :
    rest.length < stream.length := by
  have nonempty := List.length_pos_iff.mpr (framing.record_ne_nil cut)
  rw [framing.split_eq cut, List.length_append]
  omega

theorem stream_induction (framing : Framing α) {motive : List α → Prop}
    (incomplete : ∀ stream, framing.split stream = none → motive stream)
    (complete : ∀ stream record rest, framing.split stream = some (record, rest) →
      motive rest → motive stream) (stream : List α) : motive stream := by
  generalize size : stream.length = count
  induction count using Nat.strongRecOn generalizing stream with
  | ind count ih =>
    cases cut : framing.split stream with
    | none => exact incomplete stream cut
    | some pair =>
      have shorter := rest_shorter cut
      exact complete stream pair.1 pair.2 cut (ih _ (by omega) pair.2 rfl)

theorem recordsWithin_of_none (incomplete : framing.split stream = none) (fuel : Nat) :
    framing.recordsWithin fuel stream = ([], stream) := by
  cases fuel with
  | zero => rfl
  | succ fuel => simp only [recordsWithin, incomplete]

theorem recordsWithin_enough {fuel other : Nat} (enough : stream.length ≤ fuel)
    (otherEnough : stream.length ≤ other) :
    framing.recordsWithin fuel stream = framing.recordsWithin other stream := by
  induction stream using stream_induction framing generalizing fuel other with
  | incomplete stream cut => rw [recordsWithin_of_none cut, recordsWithin_of_none cut]
  | complete stream record rest cut ih =>
    have shorter := rest_shorter cut
    cases fuel with
    | zero => omega
    | succ fuel =>
      cases other with
      | zero => omega
      | succ other => simp only [recordsWithin, cut, @ih fuel other (by omega) (by omega)]

theorem records_of_none (incomplete : framing.split stream = none) :
    framing.records stream = ([], stream) := recordsWithin_of_none incomplete _

theorem records_of_some (cut : framing.split stream = some (record, rest)) :
    framing.records stream = (record :: (framing.records rest).1, (framing.records rest).2) := by
  have shorter := rest_shorter cut
  unfold records
  cases size : stream.length with
  | zero => omega
  | succ fuel =>
    have same : framing.recordsWithin fuel rest = framing.recordsWithin rest.length rest :=
      recordsWithin_enough (by omega) (Nat.le_refl _)
    simp only [recordsWithin, cut, same]

theorem records_append (first second : List α) : framing.records (first ++ second) =
      ((framing.records first).1 ++ (framing.records ((framing.records first).2 ++ second)).1,
        (framing.records ((framing.records first).2 ++ second)).2) := by
  induction first using stream_induction framing with
  | incomplete stream cut => rw [records_of_none cut, List.nil_append]
  | complete stream record rest cut ih =>
    rw [records_of_some (framing.split_append second cut), records_of_some cut, ih,
      List.cons_append]

theorem records_flatten (framing : Framing α) (stream : List α) :
    (framing.records stream).1.flatten ++ (framing.records stream).2 = stream := by
  induction stream using stream_induction framing with
  | incomplete stream cut =>
    rw [records_of_none cut]
    rfl
  | complete stream record rest cut ih =>
    rw [records_of_some cut, List.flatten_cons, List.append_assoc, ih]
    exact (framing.split_eq cut).symm

theorem split_rest (framing : Framing α) (stream : List α) :
    framing.split (framing.records stream).2 = none := by
  induction stream using stream_induction framing with
  | incomplete stream cut =>
    rw [records_of_none cut]
    exact cut
  | complete stream record rest cut ih =>
    rw [records_of_some cut]
    exact ih

end Framing

structure Decoded (β σ ε : Type) where
  output : List β
  failure : Option ε
  state : σ

def Decoded.prepend {β σ ε : Type} (output : List β) (decoded : Decoded β σ ε) : Decoded β σ ε :=
  { decoded with output := output ++ decoded.output }

/-- `accept` reads one record. -/
structure Decoder (α β σ ε : Type) where
  framing : Framing α
  accept : σ → List α → Except ε (List β) × σ

namespace Decoder

variable {α β σ ε : Type} (decoder : Decoder α β σ ε)

def acceptAll (state : σ) : List (List α) → Decoded β σ ε
  | [] => { output := [], failure := none, state }
  | record :: rest =>
    match decoder.accept state record with
    | (.error failure, next) => { output := [], failure := some failure, state := next }
    | (.ok output, next) => (acceptAll next rest).prepend output

def decode (state : σ) (stream : List α) : Decoded β σ ε :=
  decoder.acceptAll state (decoder.framing.records stream).1

variable {decoder} {state : σ} {first second : List (List α)}

theorem acceptAll_append (accepted : (decoder.acceptAll state first).failure = none) :
    decoder.acceptAll state (first ++ second) =
      (decoder.acceptAll (decoder.acceptAll state first).state second).prepend
        (decoder.acceptAll state first).output := by
  induction first generalizing state with
  | nil => rfl
  | cons record rest ih =>
    cases read : decoder.accept state record with
    | mk result next =>
      cases result with
      | error failure => simp [acceptAll, read] at accepted
      | ok output =>
        simp only [acceptAll, read] at accepted
        simp [acceptAll, read, ih accepted, Decoded.prepend]

theorem acceptAll_failure (accepted : (decoder.acceptAll state (first ++ second)).failure = none) :
    (decoder.acceptAll state first).failure = none := by
  induction first generalizing state with
  | nil => rfl
  | cons record rest ih =>
    cases read : decoder.accept state record with
    | mk result next =>
      cases result with
      | error failure => simp [acceptAll, read] at accepted
      | ok output =>
        simp only [List.cons_append, acceptAll, read] at accepted ⊢
        exact ih accepted

theorem decode_failure {first second : List α}
    (accepted : (decoder.decode state (first ++ second)).failure = none) :
    (decoder.decode state first).failure = none := by
  unfold decode at accepted
  rw [Framing.records_append] at accepted
  exact acceptAll_failure accepted

theorem decode_append {first second : List α}
    (accepted : (decoder.decode state first).failure = none) :
    decoder.decode state (first ++ second) = (decoder.decode (decoder.decode state first).state
        ((decoder.framing.records first).2 ++ second)).prepend
        (decoder.decode state first).output := by
  unfold decode at accepted ⊢
  rw [Framing.records_append]
  exact acceptAll_append accepted

end Decoder

end Oak.Data
