import Oak.Session.Config

namespace Oak.Session.Aggregators

open Oak.Data

/-! How the results of the verifiers become one (`oak_session/src/aggregators.rs`). -/

namespace DefaultLegacyVerifierResultsAggregator

structure Tally where
  hasMatch : Bool
  hasConfiguredVerifier : Bool
  failures : BTreeMap String String

def count (tally : Tally) (entry : String × VerifierResult) : Tally :=
  match entry.2 with
  | .success _ _ => { tally with hasConfiguredVerifier := true, hasMatch := true }
  | .failure _ result =>
    { hasConfiguredVerifier := true
      hasMatch := true
      failures := tally.failures.insert entry.1 result.reason }
  | .missing => { tally with hasConfiguredVerifier := true }
  | .unverified _ => tally

def processAssertionResults : LegacyVerifierResultsAggregator := fun results =>
  let tally := results.entries.foldl count ⟨false, false, .empty⟩
  if tally.hasConfiguredVerifier && !tally.hasMatch then .error .noMatchedLegacyVerifier
  else if !tally.failures.isEmpty then .error (.legacyVerificationFailure tally.failures)
  else .ok ()

end DefaultLegacyVerifierResultsAggregator

abbrev Failures := BTreeMap String BoundAssertionVerificationError

namespace Any

def search (failures : Failures) :
    List (String × BoundAssertionVerifierResult) → Except AggregatedVerificationError Unit
  | [] =>
    if failures.isEmpty then .error .noMatchedBoundAssertionVerifier
    else .error (.assertionVerificationFailure failures)
  | (id, result) :: rest =>
    match result with
    | .success _ => .ok ()
    | .failure _ error => search (failures.insert id error) rest
    | .missing | .unverified _ => search failures rest

def processAssertionResults : AssertionResultsAggregator := fun assertionResults =>
  search .empty assertionResults.entries

end Any

namespace All

def collect (failures : Failures) (entry : String × BoundAssertionVerifierResult) : Failures :=
  match entry.2 with
  | .success _ => failures
  | .failure _ error => failures.insert entry.1 error
  | .missing => failures.insert entry.1 .peerAssertionMissing
  | .unverified _ => failures

def processAssertionResults : AssertionResultsAggregator := fun assertionResults =>
  let failures := assertionResults.entries.foldl collect .empty
  if !failures.isEmpty then .error (.assertionVerificationFailure failures) else .ok ()

end All

def configured : BoundAssertionVerifierResult → Bool
  | .success _ | .failure _ _ | .missing => true
  | .unverified _ => false

namespace PassThrough

def processAssertionResults : AssertionResultsAggregator := fun assertionResults =>
  match assertionResults.entries.filter (configured ·.2) with
  | [(id, result)] =>
    match result with
    | .success _ => .ok ()
    | .failure _ error => .error (.assertionVerificationFailure (.singleton id error))
    | .missing => .error .noMatchedBoundAssertionVerifier
    | .unverified _ => .error .configurationError
  | _ => .error .configurationError

end PassThrough

namespace Empty

def processAssertionResults : AssertionResultsAggregator := fun assertionResults =>
  if assertionResults.entries.all (fun entry => !configured entry.2) then .ok ()
  else .error .configurationError

end Empty

end Oak.Session.Aggregators
