import Oak.Data.Protobuf

namespace Oak.Session

open Oak.Data

/-! The messages of `session.proto`.

Evidence and endorsements are kept as their encodings: the session hands them
to a verifier and looks at nothing in them but their presence. -/

structure Assertion where
  content : Bytes
deriving Repr, DecidableEq

structure EndorsedEvidence where
  evidence : Option Bytes
  endorsements : Option Bytes
deriving Repr, DecidableEq

structure AttestMessage where
  endorsedEvidence : BTreeMap String EndorsedEvidence
  assertions : BTreeMap String Assertion

abbrev AttestRequest := AttestMessage

abbrev AttestResponse := AttestMessage

structure NoiseHandshakeMessage where
  ephemeralPublicKey : Bytes
  staticPublicKey : Bytes
  ciphertext : Bytes
deriving Repr, DecidableEq

structure SessionBinding where
  binding : Bytes
deriving Repr, DecidableEq

structure HandshakeMessage where
  handshakeType : Option NoiseHandshakeMessage
  attestationBindings : BTreeMap String SessionBinding
  assertionBindings : BTreeMap String SessionBinding

abbrev HandshakeRequest := HandshakeMessage

abbrev HandshakeResponse := HandshakeMessage

structure EncryptedMessage where
  ciphertext : Bytes
  associatedData : Option Bytes
  nonce : Option Bytes
deriving Repr, DecidableEq

structure PlaintextMessage where
  plaintext : Bytes
deriving Repr, DecidableEq

inductive Content where
  | attest (message : AttestMessage)
  | handshake (message : HandshakeMessage)
  | encrypted (message : EncryptedMessage)

/-- A `SessionRequest` or a `SessionResponse`, whose content may be unset. -/
structure SessionMessage where
  content : Option Content

abbrev SessionRequest := SessionMessage

abbrev SessionResponse := SessionMessage

open Protobuf in
/-- `encoded_len` of an attestation message. -/
def AttestMessage.encodedLen (message : AttestMessage) : Nat :=
  (encodeMap 1 (fun evidence => encodeOptional 1 evidence.evidence ++
      encodeOptional 2 evidence.endorsements) message.endorsedEvidence).length +
    (encodeMap 2 (fun assertion => encodeNonEmpty 1 assertion.content) message.assertions).length

end Oak.Session
