import Oak.Crypto.Handshake
import Oak.Session.Messages

namespace Oak.Session

open Oak.Data Oak.Crypto

/-! The configuration of a session.

A trait object of the source is a record of its methods, or the method itself
when there is one.  What the application plugs in is thus an arbitrary
function. -/

/-- The `Debug` text of a string without control characters. -/
def debugString (text : String) : String :=
  "\"" ++ (text.replace "\\" "\\\\").replace "\"" "\\\"" ++ "\""

def debugMap {α : Type} (debug : α → String) (map : BTreeMap String α) : String :=
  "\x7b" ++ ", ".intercalate (map.entries.map fun entry =>
    debugString entry.1 ++ ": " ++ debug entry.2) ++ "\x7d"

inductive Status where
  | unspecified
  | success
  | genericFailure
deriving Repr, DecidableEq

/-- `details` stands for the fields that only a binding verifier provider
reads: the extracted evidence, the public keys and the event results. -/
structure AttestationResults where
  status : Status
  reason : String
  details : Bytes
deriving Repr, DecidableEq

inductive VerifierResult where
  | success (evidence : EndorsedEvidence) (result : AttestationResults)
  | failure (evidence : EndorsedEvidence) (result : AttestationResults)
  | missing
  | unverified (evidence : EndorsedEvidence)
deriving Repr, DecidableEq

inductive BoundAssertionVerificationError where
  | genericFailure (errorMsg : String)
  | bindingVerificationFailure (errorMsg : String)
  | peerAssertionMissing
  | assertionParsingError (decodeError : String)
  | assertionMissingExpectedFields (errorMsg : String)
deriving Repr, DecidableEq

namespace BoundAssertionVerificationError

def display : BoundAssertionVerificationError → String
  | genericFailure errorMsg => s!"generic verification error: {errorMsg}"
  | bindingVerificationFailure errorMsg => s!"binding verification error: {errorMsg}"
  | peerAssertionMissing => "peer assertion missing"
  | assertionParsingError decodeError => s!"assertion parsing error: {decodeError}"
  | assertionMissingExpectedFields errorMsg => s!"assertion missing expected fields: {errorMsg}"

def debug : BoundAssertionVerificationError → String
  | genericFailure errorMsg => "GenericFailure \x7b error_msg: " ++ debugString errorMsg ++ " \x7d"
  | bindingVerificationFailure errorMsg =>
    "BindingVerificationFailure \x7b error_msg: " ++ debugString errorMsg ++ " \x7d"
  | peerAssertionMissing => "PeerAssertionMissing"
  | assertionParsingError decodeError => s!"AssertionParsingError({decodeError})"
  | assertionMissingExpectedFields errorMsg =>
    "AssertionMissingExpectedFields \x7b error_msg: " ++ debugString errorMsg ++ " \x7d"

end BoundAssertionVerificationError

structure VerifiedBoundAssertion where
  assertion : Assertion
  verifyBinding : (boundData : Bytes) → SessionBinding →
    Except BoundAssertionVerificationError Unit

inductive BoundAssertionVerifierResult where
  | success (verifiedBoundAssertion : VerifiedBoundAssertion)
  | failure (assertion : Assertion) (error : BoundAssertionVerificationError)
  | missing
  | unverified (assertion : Assertion)

inductive AggregatedVerificationError where
  | legacyVerificationFailure (failures : BTreeMap String String)
  | assertionVerificationFailure (failures : BTreeMap String BoundAssertionVerificationError)
  | noMatchedLegacyVerifier
  | noMatchedBoundAssertionVerifier
  | configurationError

def AggregatedVerificationError.display : AggregatedVerificationError → String
  | legacyVerificationFailure failures =>
    "legacy attestation verification failed, failures: " ++ debugMap debugString failures
  | assertionVerificationFailure failures =>
    "assertion verification failed, failures: " ++
      debugMap BoundAssertionVerificationError.debug failures
  | noMatchedLegacyVerifier => "no matched legacy verifier found"
  | noMatchedBoundAssertionVerifier => "no matched bound assertion verifier found"
  | configurationError => "aggregator configuration error"

abbrev LegacyVerifierResultsAggregator :=
  BTreeMap String VerifierResult → Except AggregatedVerificationError Unit

abbrev AssertionResultsAggregator :=
  BTreeMap String BoundAssertionVerifierResult → Except AggregatedVerificationError Unit

/-- `verify_binding` of a session binding verifier. -/
abbrev SessionBindingVerifier := (boundData binding : Bytes) → Except AnyError Unit

structure PeerAttestationVerifier where
  verify : (evidence endorsements : Bytes) → Except AnyError AttestationResults
  createSessionBindingVerifier : AttestationResults → Except AnyError SessionBindingVerifier

abbrev BoundAssertionVerifier :=
  Assertion → Except BoundAssertionVerificationError VerifiedBoundAssertion

/-- An assertion of this party; `bind` fails with the text of the generator's
error. -/
structure BindableAssertion where
  assertion : Assertion
  bind : (boundData : Bytes) → Except AnyError SessionBinding

abbrev SessionBinder := (boundData : Bytes) → Bytes

structure AttestationHandlerConfig where
  selfAttesters : BTreeMap String (Except AnyError Bytes)
  selfAssertionGenerators : BTreeMap String (Except AnyError BindableAssertion)
  selfEndorsers : BTreeMap String (Option Bytes → Except AnyError Bytes)
  peerVerifiers : BTreeMap String PeerAttestationVerifier
  peerAssertionVerifiers : BTreeMap String BoundAssertionVerifier
  legacyAttestationResultsAggregator : LegacyVerifierResultsAggregator
  assertionAttestationAggregator : AssertionResultsAggregator

inductive HandshakeType where
  | noiseKK
  | noiseKN
  | noiseNK
  | noiseNN
deriving Repr, DecidableEq

structure HandshakeHandlerConfig where
  handshakeType : HandshakeType
  selfStaticPrivateKey : Option IdentityKeyHandle
  peerStaticPublicKey : Option Bytes
  sessionBinders : BTreeMap String SessionBinder

structure Payload where
  message : Bytes
  aad : Option Bytes
  nonce : Option Bytes
deriving Repr, DecidableEq

namespace Payload

def ofBytes (message : Bytes) : Payload := { message, aad := none, nonce := none }

def ofPlaintext (message : PlaintextMessage) : Payload :=
  { message := message.plaintext, nonce := none, aad := none }

def toPlaintext (payload : Payload) : PlaintextMessage := { plaintext := payload.message }

def ofEncrypted (message : EncryptedMessage) : Payload :=
  { message := message.ciphertext, nonce := message.nonce, aad := message.associatedData }

def toEncrypted (payload : Payload) : EncryptedMessage :=
  { ciphertext := payload.message, nonce := payload.nonce, associatedData := payload.aad }

end Payload

/-- The `Encryptor` trait over the state of an implementation. -/
class Encryptor (ε : Type) where
  encrypt : ε → Payload → Outcome AnyError Payload × ε
  decrypt : ε → Payload → Outcome AnyError Payload × ε

structure SessionConfig (ε : Type) where
  attestationHandlerConfig : AttestationHandlerConfig
  handshakeHandlerConfig : HandshakeHandlerConfig
  provideEncryptor : OrderedCrypter → Outcome AnyError ε

end Oak.Session
