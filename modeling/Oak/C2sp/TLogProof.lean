import Oak.C2sp.Checkpoint
import Oak.C2sp.Policy

namespace Oak.C2sp

open Oak.Data

/-! Log proofs: parsing, serialization and verification against a policy (`tr/c2sp/lib.rs`). -/

/-- Code outside the repository: SHA-256, and the computation of a Merkle root by `rs_merkle` from
the node hash, the path, the index of the leaf, its hash and the number of leaves. -/
structure MerkleLibrary where
  sha256 : Bytes → Sha256
  root : (Sha256 → Option Sha256 → Sha256) → List Sha256 → Nat → Sha256 → Nat → Option Sha256

inductive TLogProofError where
  | invalidHeader
  | invalidIndex
  | malformedCheckpoint (reason : CheckpointError)
  | malformedProof
  | signatureMismatch
  | rootMismatch
  | invalidMerkleChain
  | insufficientWitnesses
  | note (reason : NoteError)
  | format
deriving Repr, DecidableEq

structure TLogProof where
  index : UInt64
  proofHashes : List Sha256
  checkpoint : Checkpoint
deriving DecidableEq

namespace TLogProof

def header : Text := "c2sp.org/tlog-proof@v1".toList

/-- The line after the header, or the one after that if it holds extra data. -/
def indexLine : List Text → Option (Text × List Text)
  | [] => none
  | line :: rest =>
    if "extra ".toList.isPrefixOf line then
      match rest with
      | [] => none
      | next :: later => some (next, later)
    else some (line, rest)

def parseHashes : List Text → Except TLogProofError (List Sha256 × List Text)
  | [] => .ok ([], [])
  | line :: rest =>
    if line = [] then .ok ([], rest)
    else
      match parseHash line with
      | none => .error .malformedProof
      | some hash => do
        let (hashes, later) ← parseHashes rest
        return (hash :: hashes, later)

/-- `TLogProof::parse` after the text has been split into lines. -/
def parseLines : List Text → Except TLogProofError TLogProof
  | [] => .error .invalidHeader
  | first :: rest =>
    if first ≠ header then .error .invalidHeader
    else
      match indexLine rest with
      | none => .error .invalidIndex
      | some (line, rest) =>
        match line.dropPrefix? "index ".toList with
        | none => .error .invalidIndex
        | some digits =>
          match parseU64 digits with
          | none => .error .format
          | some index => do
            let (proofHashes, remaining) ← parseHashes rest
            match Checkpoint.parse (Text.joinLines remaining) with
            | .error reason => .error (.malformedCheckpoint reason)
            | .ok checkpoint => return { index, proofHashes, checkpoint }

def parse (serialized : Text) : Except TLogProofError TLogProof :=
  parseLines (Text.lines serialized)

def serialize (proof : TLogProof) : Text :=
  Text.unlines [header, "index ".toList ++ Text.decimal proof.index.toNat]
    ++ Text.unlines (proof.proofHashes.map fun hash => Base64.encode hash.toList)
    ++ '\n' :: proof.checkpoint.serialize

/-- The signatures that match one log key, all of which must verify; `numFound` counts them. -/
def verifyLogKey (schemes : SignatureSchemes) (signedPayload : Text) (logKey : NoteVerifyingKey)
    (numFound : Nat) : List NoteSignature → Except NoteError Nat
  | [] => .ok numFound
  | sig :: rest =>
    if sig.matchesKey logKey then do
      logKey.verify schemes signedPayload sig
      verifyLogKey schemes signedPayload logKey (numFound + 1) rest
    else verifyLogKey schemes signedPayload logKey numFound rest

def verifyLogKeys (schemes : SignatureSchemes) (checkpoint : Checkpoint) (numFound : Nat) :
    List NoteVerifyingKey → Except NoteError Nat
  | [] => .ok numFound
  | logKey :: rest =>
    if checkpoint.origin ≠ logKey.origin then verifyLogKeys schemes checkpoint numFound rest
    else do
      let numFound ←
        verifyLogKey schemes checkpoint.signedPayload logKey numFound checkpoint.signatures
      verifyLogKeys schemes checkpoint numFound rest

def signedBy (schemes : SignatureSchemes) (signedPayload : Text) (key : NoteVerifyingKey)
    (sig : NoteSignature) : Bool :=
  sig.matchesKey key && (key.verify schemes signedPayload sig).isOk

/-- For every signature the first witness key, in the order of the policy, that it is valid for. -/
def verifiedWitnesses (schemes : SignatureSchemes) (checkpoint : Checkpoint)
    (witnessKeys : List NoteVerifyingKey) : List NoteVerifyingKey :=
  checkpoint.signatures.filterMap fun sig =>
    witnessKeys.find? fun key => signedBy schemes checkpoint.signedPayload key sig

/-- `C2spHasher::hash`. -/
def leafHash (merkle : MerkleLibrary) (data : Bytes) : Sha256 := merkle.sha256 (0x00 :: data)

/-- `C2spHasher::concat_and_hash`; a left child without a sibling is promoted. -/
def concatAndHash (merkle : MerkleLibrary) (left : Sha256) : Option Sha256 → Sha256
  | some right => merkle.sha256 (0x01 :: (left.toList ++ right.toList))
  | none => left

def computeRootHash (merkle : MerkleLibrary) (proof : TLogProof) (entry : Bytes) :
    Except TLogProofError Sha256 :=
  if proof.checkpoint.treeSize ≤ proof.index then .error .invalidMerkleChain
  else
    match merkle.root (concatAndHash merkle) proof.proofHashes proof.index.toNat
        (leafHash merkle entry) proof.checkpoint.treeSize.toNat with
    | none => .error .invalidMerkleChain
    | some root => .ok root

def verify (schemes : SignatureSchemes) (merkle : MerkleLibrary) (proof : TLogProof)
    (policy : Policy) (entry : Bytes) : Outcome TLogProofError Unit := do
  let numFound ← (Outcome.returned
    (verifyLogKeys schemes proof.checkpoint 0 policy.logKeys)).mapErr .note
  if numFound ≠ 1 then .err .signatureMismatch
  else do
    let satisfied ←
      (policy.checkQuorum (verifiedWitnesses schemes proof.checkpoint policy.witnessKeys)).widen
    if ¬ satisfied then .err .insufficientWitnesses
    else do
      let hash ← Outcome.returned (proof.computeRootHash merkle entry)
      if hash ≠ proof.checkpoint.rootHash then .err .rootMismatch
      else return ()

end TLogProof

end Oak.C2sp
