import Oak.C2sp.Note
import Oak.Data.Protobuf

namespace Oak.C2sp

open Oak.Data

/-! The checkpoint section of a log proof (`tr/c2sp/lib.rs`), and the verification of a signature
over it (`tr/c2sp/note.rs`). -/

structure Checkpoint where
  origin : Text
  treeSize : UInt64
  rootHash : Sha256
  /-- The text that is signed: origin, size, root hash and extension lines. -/
  signedPayload : Text
  signatures : List NoteSignature
deriving DecidableEq

/-- `str::parse::<u64>`. -/
def parseU64 (text : Text) : Option UInt64 :=
  (Text.parseUnsigned (2 ^ 64) text).map UInt64.ofNat

def parseHash (text : Text) : Option Sha256 :=
  (Base64.decode text).bind (Block.ofBytes? 32)

namespace Checkpoint

def parseSignatures : List Text → Except CheckpointError (List NoteSignature)
  | [] => .ok []
  | line :: rest =>
    if line = [] then parseSignatures rest
    else
      match NoteSignature.parse line with
      | .error _ => .error .malformed
      | .ok signature => do
        let signatures ← parseSignatures rest
        return signature :: signatures

/-- `Checkpoint::parse` after the text has been split into lines. -/
def parseLines : List Text → Except CheckpointError Checkpoint
  | origin :: cpSize :: cpRoot :: rest =>
    match parseU64 cpSize, parseHash cpRoot with
    | some treeSize, some rootHash => do
      let extensions := rest.takeWhile (fun line => !line.isEmpty)
      let signedPayload := Text.unlines (origin :: cpSize :: cpRoot :: extensions)
      -- the blank separator goes with the extension lines
      let signatures ← parseSignatures (rest.drop (extensions.length + 1))
      return { origin, treeSize, rootHash, signedPayload, signatures }
    | _, _ => .error .malformed
  | _ => .error .malformed

def parse (serialized : Text) : Except CheckpointError Checkpoint :=
  parseLines (Text.lines serialized)

def serialize (checkpoint : Checkpoint) : Text :=
  checkpoint.signedPayload ++ '\n' :: Text.unlines (checkpoint.signatures.map (·.toSignatureLine))

end Checkpoint

/-- `str::as_bytes`. -/
def utf8 (text : Text) : Bytes := (String.ofList text).toUTF8.data.toList

theorem utf8_inj {first second : Text} (same : utf8 first = utf8 second) : first = second :=
  String.ofList_injective (Protobuf.utf8_injective same)

theorem utf8_eq (text : Text) : utf8 text = text.flatMap String.utf8EncodeChar := by
  simp [utf8, List.utf8Encode]

/-- `opaque<1..2^8-1>`: one byte of length and the data. -/
def pushOpaqueU8 (data : Bytes) : Except NoteError Bytes :=
  if data.length > 255 then .error .opaqueDataTooLong
  else .ok (UInt8.ofNat data.length :: data)

/-- The signed message.  The `Instant` of the source is made of the seconds and turned back into
them without loss, so it is `epochSecs` here. -/
def SignatureType.message (kind : SignatureType) (checkpointText : Text) (epochSecs : UInt64)
    (cosignerName : Text) : Except NoteError Bytes :=
  match kind with
  | .ed25519 => .ok (utf8 checkpointText)
  | .ed25519CosignatureV1 =>
    .ok (utf8 ("cosignature/v1\ntime ".toList ++ Text.decimal epochSecs.toNat ++ '\n' :: checkpointText))
  | .mlDsa44SubtreeV1 =>
    match Checkpoint.parse checkpointText with
    | .error reason => .error (.malformedCheckpoint reason)
    | .ok checkpoint => do
      let cosigner ← pushOpaqueU8 (utf8 cosignerName)
      let logOrigin ← pushOpaqueU8 (utf8 checkpoint.origin)
      return utf8 "subtree/v1\n\x00".toList ++ cosigner ++ bigEndian 8 epochSecs.toNat
        ++ logOrigin ++ List.replicate 8 0 ++ bigEndian 8 checkpoint.treeSize.toNat
        ++ checkpoint.rootHash.toList

def verifyEd25519 (schemes : SignatureSchemes) (key : Block 32) (message signature : Bytes) :
    Except NoteError Unit :=
  match Block.ofBytes? 64 signature with
  | none => .error .malformedSignature
  | some sig =>
    if schemes.ed25519Verify key message sig then .ok () else .error .signatureVerificationFailed

def verifyMlDsa44 (schemes : SignatureSchemes) (key : Block 1312) (message signature : Bytes) :
    Except NoteError Unit :=
  match Block.ofBytes? 2420 signature with
  | none => .error .malformedSignature
  | some sig =>
    if schemes.mlDsa44Verify key message sig then .ok () else .error .signatureVerificationFailed

/-- The first eight bytes of a timestamped signature. -/
def timestampSecs (sigBytes : Bytes) : UInt64 := UInt64.ofNat (ofBigEndian (sigBytes.take 8))

def NoteVerifyingKey.verify (schemes : SignatureSchemes) (vkey : NoteVerifyingKey)
    (checkpointText : Text) (sig : NoteSignature) : Except NoteError Unit :=
  match vkey.verifyingKey with
  | .ed25519 key =>
    if sig.sigBytes.length ≠ 64 then .error .malformedSignature
    else do
      let message ← SignatureType.ed25519.message checkpointText 0 []
      verifyEd25519 schemes key message sig.sigBytes
  | .ed25519CosignatureV1 key =>
    if sig.sigBytes.length ≤ 8 then .error .malformedSignature
    else do
      let message ← SignatureType.ed25519CosignatureV1.message checkpointText
        (timestampSecs sig.sigBytes) vkey.origin
      verifyEd25519 schemes key message (sig.sigBytes.drop 8)
  | .mlDsa44SubtreeV1 key =>
    if sig.sigBytes.length ≤ 8 then .error .malformedSignature
    else do
      let message ← SignatureType.mlDsa44SubtreeV1.message checkpointText
        (timestampSecs sig.sigBytes) vkey.origin
      verifyMlDsa44 schemes key message (sig.sigBytes.drop 8)

end Oak.C2sp
