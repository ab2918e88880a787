import Mathlib.Algebra.Group.Int.Defs
import Mathlib.Algebra.Group.Nat.Defs
import Oak.Data.Anyhow
import Mathlib.Data.Int.Init
import Mathlib.Order.Defs.LinearOrder

namespace Oak.Tr

open Oak.Data

/-! Points in time (`oak_time`).

The source counts nanoseconds in an `i128`.  Every value it makes of an `i64`
number of seconds or milliseconds, and every sum of two of them, lies far
inside that type, so the count is an integer here. -/

/-- Code outside the repository: the calendar of the `chrono` crate.  `render` makes the text of
the instant so many seconds and nanoseconds after the epoch; it has none beyond the last year of the
calendar or before the first one. -/
structure Calendar where
  render : Int → Nat → Option String

structure Instant where
  nanoseconds : Int
deriving Repr, DecidableEq

/-- `core::time::Duration`, in nanoseconds.  Seconds are a `u64`. -/
abbrev Duration := Fin (2 ^ 64 * 1000000000)

namespace Instant

instance : LT Instant := ⟨fun first second => first.nanoseconds < second.nanoseconds⟩

instance : LE Instant := ⟨fun first second => first.nanoseconds ≤ second.nanoseconds⟩

instance (first second : Instant) : Decidable (first < second) :=
  inferInstanceAs (Decidable (first.nanoseconds < second.nanoseconds))

instance (first second : Instant) : Decidable (first ≤ second) :=
  inferInstanceAs (Decidable (first.nanoseconds ≤ second.nanoseconds))

@[simp] theorem not_lt {first second : Instant} : ¬ first < second ↔ second ≤ first := Int.not_lt

def fromUnixSeconds (seconds : Int64) : Instant := ⟨1000000000 * seconds.toInt⟩

def fromUnixMillis (millis : Int64) : Instant := ⟨1000000 * millis.toInt⟩

/-- The time of a certificate.  Every duration fits the `i128` that the source converts it to. -/
def fromUnixDuration (duration : Duration) : Instant := ⟨Int.ofNat duration.val⟩

/-- `i64::try_from`, with the text of the `expect` around it. -/
def toI64 {ε : Type} (number : Int) (message : String) : Outcome ε Int64 :=
  if -2 ^ 63 ≤ number ∧ number < 2 ^ 63 then .ok (Int64.ofInt number) else .panic message

/-- `into_unix_seconds`, which rounds towards the epoch. -/
def intoUnixSeconds {ε : Type} (instant : Instant) : Outcome ε Int64 :=
  toI64 (instant.nanoseconds.tdiv 1000000000) "failed to convert from i128 to i64"

/-- `into_unix_millis`, which rounds towards the epoch. -/
def intoUnixMillis {ε : Type} (instant : Instant) : Outcome ε Int64 :=
  toI64 (instant.nanoseconds.tdiv 1000000) "failed to convert from i128 to i64"

/-- The text of `{}`.  `DateTime::from_timestamp` is asked for the seconds rounded down and the
nanoseconds above them. -/
def display {ε : Type} (calendar : Calendar) (instant : Instant) : Outcome ε String := do
  let _ ← toI64 (instant.nanoseconds.tdiv 1000000000) "failed to convert i128 to i64"
  match calendar.render (instant.nanoseconds.fdiv 1000000000)
      (instant.nanoseconds.fmod 1000000000).toNat with
  | some text => .ok text
  | none => .panic "out of range instant"

def InCalendar (calendar : Calendar) (instant : Instant) : Prop :=
  -2 ^ 63 ≤ instant.nanoseconds.tdiv 1000000000 ∧ instant.nanoseconds.tdiv 1000000000 < 2 ^ 63 ∧
    (calendar.render (instant.nanoseconds.fdiv 1000000000)
      (instant.nanoseconds.fmod 1000000000).toNat).isSome

variable {ε : Type} {calendar : Calendar} {instant : Instant}

theorem toI64_cases (number : Int) (message : String) :
    (∃ value, (toI64 number message : Outcome ε Int64) = .ok value ∧ -2 ^ 63 ≤ number ∧
        number < 2 ^ 63) ∨ ((toI64 number message : Outcome ε Int64) = .panic message ∧
        ¬ (-2 ^ 63 ≤ number ∧ number < 2 ^ 63)) := by
  rw [toI64]
  split
  · next within => exact .inl ⟨_, rfl, within⟩
  · next beyond => exact .inr ⟨rfl, beyond⟩

theorem display_cases (calendar : Calendar) (instant : Instant) :
    (∃ text, (instant.display calendar : Outcome ε String) = .ok text ∧
        instant.InCalendar calendar) ∨
      ∃ message, (instant.display calendar : Outcome ε String) = .panic message ∧
        ¬ instant.InCalendar calendar := by
  rw [display, InCalendar]
  rcases toI64_cases (ε := ε) (instant.nanoseconds.tdiv 1000000000)
    "failed to convert i128 to i64" with ⟨seconds, converted, lower, upper⟩ | ⟨failed, beyond⟩
  · rw [converted]
    cases calendar.render (instant.nanoseconds.fdiv 1000000000)
        (instant.nanoseconds.fmod 1000000000).toNat with
    | some text => exact .inl ⟨text, rfl, lower, upper, rfl⟩
    | none => exact .inr ⟨_, rfl, fun inside => absurd inside.2.2 (by simp)⟩
  · rw [failed]
    exact .inr ⟨_, rfl, fun inside => beyond ⟨inside.1, inside.2.1⟩⟩

end Instant

/-- `google.protobuf.Timestamp`, and `Duration` with the same fields. -/
structure ProtoTime where
  seconds : Int64
  nanos : Int32
deriving DecidableEq

def ProtoTime.nanoseconds (time : ProtoTime) : Int :=
  1000000000 * time.seconds.toInt + time.nanos.toInt

def ProtoTime.toInstant (time : ProtoTime) : Instant := ⟨time.nanoseconds⟩

/-- `Instant + Duration`. -/
def Instant.after (instant : Instant) (offset : ProtoTime) : Instant :=
  ⟨instant.nanoseconds + offset.nanoseconds⟩

end Oak.Tr
