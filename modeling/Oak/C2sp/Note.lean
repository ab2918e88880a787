import Oak.Data.Base64
import Oak.Data.Outcome

namespace Oak.C2sp

open Oak.Data

/-! Keys and signatures of signed notes: `tr/c2sp/note.rs`, up to verification. -/

abbrev Sha256 := Block 32

/-- Code outside the repository: the `ed25519-dalek` crate and the ML-DSA-44 implementation behind
the C interface.  `mlDsa` is the build feature of that name; without it signature type `0x06` does
not exist. -/
structure SignatureSchemes where
  mlDsa : Bool
  /-- The bytes are a point of the curve, and `VerifyingKey::from_bytes` accepts them. -/
  ed25519FromBytes : Block 32 → Bool
  ed25519Verify : Block 32 → Bytes → Block 64 → Bool
  mlDsa44Verify : Block 1312 → Bytes → Block 2420 → Bool

inductive CheckpointError where
  | malformed
deriving Repr, DecidableEq

inductive NoteError where
  | malformedSignature
  | malformedVerifyingKey
  | malformedCheckpoint (reason : CheckpointError)
  | signatureVerificationFailed
  | opaqueDataTooLong
deriving Repr, DecidableEq

inductive SignatureType where
  | ed25519
  | ed25519CosignatureV1
  | mlDsa44SubtreeV1
deriving Repr, DecidableEq

def SignatureType.fromByte (schemes : SignatureSchemes) (byte : UInt8) :
    Except NoteError SignatureType :=
  if byte = 0x01 then .ok .ed25519
  else if byte = 0x04 then .ok .ed25519CosignatureV1
  else if byte = 0x06 ∧ schemes.mlDsa then .ok .mlDsa44SubtreeV1
  else .error .malformedVerifyingKey

inductive VerifyingKey where
  | ed25519 (key : Block 32)
  | ed25519CosignatureV1 (key : Block 32)
  | mlDsa44SubtreeV1 (key : Block 1312)
deriving DecidableEq

structure NoteVerifyingKey where
  origin : Text
  keyIdHint : Block 4
  verifyingKey : VerifyingKey
deriving DecidableEq

/-- The key after its type byte; `ed25519` and `ed25519CosignatureV1` share the format. -/
def VerifyingKey.parse (schemes : SignatureSchemes) :
    SignatureType → Bytes → Except NoteError VerifyingKey
  | .ed25519, raw =>
    match Block.ofBytes? 32 raw with
    | some key =>
      if schemes.ed25519FromBytes key then .ok (.ed25519 key) else .error .malformedVerifyingKey
    | none => .error .malformedVerifyingKey
  | .ed25519CosignatureV1, raw =>
    match Block.ofBytes? 32 raw with
    | some key =>
      if schemes.ed25519FromBytes key then .ok (.ed25519CosignatureV1 key)
      else .error .malformedVerifyingKey
    | none => .error .malformedVerifyingKey
  | .mlDsa44SubtreeV1, raw =>
    match Block.ofBytes? 1312 raw with
    | some key => .ok (.mlDsa44SubtreeV1 key)
    | none => .error .malformedVerifyingKey

/-- `<key name>+<hex key ID>+<base64(signature type || public key)>`. -/
def NoteVerifyingKey.parse (schemes : SignatureSchemes) (serialized : Text) :
    Except NoteError NoteVerifyingKey :=
  match Text.splitOnce '+' serialized with
  | none => .error .malformedVerifyingKey
  | some (origin, rest) =>
    match Text.splitOnce '+' rest with
    | none => .error .malformedVerifyingKey
    | some (idEncoded, keyEncoded) =>
      match Hex.decode idEncoded, Base64.decode keyEncoded with
      | some idBytes, some (typeByte :: raw) =>
        match Block.ofBytes? 4 idBytes with
        | none => .error .malformedVerifyingKey
        | some keyIdHint => do
          let kind ← SignatureType.fromByte schemes typeByte
          let verifyingKey ← VerifyingKey.parse schemes kind raw
          return { origin, keyIdHint, verifyingKey }
      | _, _ => .error .malformedVerifyingKey

structure NoteSignature where
  origin : Text
  keyIdHint : Block 4
  sigBytes : Bytes
deriving DecidableEq

namespace NoteSignature

def marker : Text := ['—', ' ']

def parse (serialized : Text) : Except NoteError NoteSignature :=
  match serialized.dropPrefix? marker with
  | none => .error .malformedSignature
  | some strip =>
    match Text.splitOnce ' ' strip with
    | none => .error .malformedSignature
    | some (origin, encoded) =>
      match Base64.decode encoded with
      | some (b0 :: b1 :: b2 :: b3 :: sigBytes) =>
        .ok { origin, keyIdHint := ⟨[b0, b1, b2, b3], rfl⟩, sigBytes }
      | _ => .error .malformedSignature

def matchesKey (signature : NoteSignature) (vkey : NoteVerifyingKey) : Bool :=
  signature.origin = vkey.origin && signature.keyIdHint = vkey.keyIdHint

def toSignatureLine (signature : NoteSignature) : Text :=
  marker ++ signature.origin ++ ' ' :: Base64.encode (signature.keyIdHint.toList ++ signature.sigBytes)

end NoteSignature

end Oak.C2sp
