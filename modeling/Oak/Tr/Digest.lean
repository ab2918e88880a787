import Oak.Data.Anyhow
import Oak.Data.Base64
import Oak.Data.BTreeMap
import Mathlib.Data.Char
import Mathlib.Data.List.Lex

namespace Oak.Tr

open Oak.Data

/-! Digests (`util/digest`).

The two digest messages have one field for every algorithm, and every function
treats all of them alike, so a digest is a function of the algorithm.  An empty
field means that the digest is not known. -/

inductive Algorithm where
  | psha2
  | sha1
  | sha2_256
  | sha2_512
  | sha3_512
  | sha3_384
  | sha3_256
  | sha3_224
  | sha2_384
deriving Repr, DecidableEq

namespace Algorithm

def all : List Algorithm :=
  [psha2, sha1, sha2_256, sha2_512, sha3_512, sha3_384, sha3_256, sha3_224, sha2_384]

theorem mem_all (algorithm : Algorithm) : algorithm ∈ all := by
  cases algorithm <;> decide

def name : Algorithm → String
  | psha2 => "psha2"
  | sha1 => "sha1"
  | sha2_256 => "sha2_256"
  | sha2_512 => "sha2_512"
  | sha3_512 => "sha3_512"
  | sha3_384 => "sha3_384"
  | sha3_256 => "sha3_256"
  | sha3_224 => "sha3_224"
  | sha2_384 => "sha2_384"

def ofKey (key : Text) : Option Algorithm :=
  [("psha2".toList, psha2), ("sha1".toList, sha1), ("sha256".toList, sha2_256),
    ("sha2_256".toList, sha2_256), ("sha512".toList, sha2_512), ("sha2_512".toList, sha2_512),
    ("sha3_512".toList, sha3_512), ("sha3_384".toList, sha3_384), ("sha3_256".toList, sha3_256),
    ("sha3_224".toList, sha3_224), ("sha384".toList, sha2_384),
    ("sha2_384".toList, sha2_384)].lookup key

end Algorithm

abbrev RawDigest := Algorithm → Bytes

abbrev HexDigest := Algorithm → Text

abbrev DigestSet := BTreeMap Text Text

/-- Code outside the repository: the hash functions of the `sha2` crate. -/
structure Sha2 where
  sha256 : Bytes → Block 32
  sha384 : Bytes → Block 48
  sha512 : Bytes → Block 64

def rawDigestFromContents (sha2 : Sha2) (contents : Bytes) : RawDigest
  | .sha2_256 => (sha2.sha256 contents).toList
  | .sha2_512 => (sha2.sha512 contents).toList
  | .sha2_384 => (sha2.sha384 contents).toList
  | _ => []

def rawToHexDigest (digest : RawDigest) : HexDigest := fun algorithm => Hex.encode (digest algorithm)

/-- The first field that is not hexadecimal is reported. -/
def hexToRawDigest (digest : HexDigest) : Anyhow.Result RawDigest :=
  match Algorithm.all.find? fun algorithm => (Hex.decode (digest algorithm)).isNone with
  | some algorithm => Anyhow.bail ("could not decode field " ++ algorithm.name)
  | none => .ok fun algorithm => (Hex.decode (digest algorithm)).getD []

def setDigestFieldFromMapEntry (digest : HexDigest) (key value : Text) : Anyhow.Result HexDigest :=
  match Algorithm.ofKey key with
  | none => Anyhow.bail ("unknown digest key " ++ String.ofList key)
  | some algorithm =>
    if digest algorithm ≠ [] then Anyhow.bail ("duplicate key " ++ String.ofList key)
    else .ok (Function.update digest algorithm value)

def setToHexDigest (digestSet : DigestSet) : Anyhow.Result HexDigest :=
  digestSet.entries.foldlM (fun digest entry => setDigestFieldFromMapEntry digest entry.1 entry.2)
    fun _ => []

/-- The size of a digest; `psha2` has none. -/
def Algorithm.size? : Algorithm → Option Nat
  | .psha2 => none
  | .sha1 => some 20
  | .sha2_256 => some 32
  | .sha2_384 => some 48
  | .sha2_512 => some 64
  | .sha3_224 => some 28
  | .sha3_256 => some 32
  | .sha3_384 => some 48
  | .sha3_512 => some 64

/-- The names before the colon of a typed hash.  They are not those of a digest set. -/
def Algorithm.ofTypedHash (name : Text) : Option Algorithm :=
  [("psha2".toList, Algorithm.psha2), ("sha1".toList, .sha1), ("sha256".toList, .sha2_256),
    ("sha2_256".toList, .sha2_256), ("sha2-256".toList, .sha2_256), ("sha384".toList, .sha2_384),
    ("sha2_384".toList, .sha2_384), ("sha2-384".toList, .sha2_384), ("sha512".toList, .sha2_512),
    ("sha2_512".toList, .sha2_512), ("sha2-512".toList, .sha2_512), ("sha3_224".toList, .sha3_224),
    ("sha3-224".toList, .sha3_224), ("sha3_256".toList, .sha3_256), ("sha3-256".toList, .sha3_256),
    ("sha3_384".toList, .sha3_384), ("sha3-384".toList, .sha3_384), ("sha3_512".toList, .sha3_512),
    ("sha3-512".toList, .sha3_512)].lookup name

/-- The enumeration of the source has one constructor for every algorithm, around an array of its
size. -/
structure Digest where
  algorithm : Algorithm
  bytes : Bytes
  sized : ∀ size ∈ algorithm.size?, bytes.length = size

inductive DigestError where
  | invalidDigestSpec
  | hexDecodingError (name value : Text)
  | unknownKey (name : Text)
deriving Repr, DecidableEq

namespace Digest

def fromTypedHash (typedHash : Text) : Except DigestError Digest :=
  match Text.splitOnce ':' typedHash with
  | none => .error .invalidDigestSpec
  | some (name, hash) =>
    match Hex.decode hash with
    | none => .error (.hexDecodingError name hash)
    | some bytes =>
      match Algorithm.ofTypedHash name with
      | none => .error (.unknownKey name)
      | some algorithm =>
        if sized : ∀ size ∈ algorithm.size?, bytes.length = size then
          .ok ⟨algorithm, bytes, sized⟩
        else .error (.hexDecodingError name hash)

/-- `HexDigest::from`: the other fields are empty. -/
def toHex (digest : Digest) : HexDigest :=
  Function.update (fun _ => []) digest.algorithm (Hex.encode digest.bytes)

end Digest

inductive MatchResult where
  | same
  | different
  | undecidable
  | contradictory
deriving Repr, DecidableEq

section Comparison

variable {α : Type} [DecidableEq α]

def comparable (first second : Algorithm → List α) (algorithm : Algorithm) : Bool :=
  !(first algorithm).isEmpty && !(second algorithm).isEmpty

def getDigestMatch (first second : Algorithm → List α) : MatchResult :=
  let compared := Algorithm.all.filter (comparable first second)
  let same := compared.countP fun algorithm => first algorithm = second algorithm
  let different := compared.countP fun algorithm => first algorithm ≠ second algorithm
  if same > 0 then if different > 0 then .contradictory else .same
  else if different > 0 then .different else .undecidable

/-- The digests name one contents: they have an algorithm in common and differ in none. -/
structure DigestsAgree (first second : Algorithm → List α) : Prop where
  common : ∃ algorithm, first algorithm ≠ [] ∧ second algorithm ≠ []
  agree : ∀ algorithm, first algorithm ≠ [] → second algorithm ≠ [] →
    first algorithm = second algorithm

omit [DecidableEq α] in
theorem comparable_iff {first second : Algorithm → List α} {algorithm : Algorithm} :
    comparable first second algorithm = true ↔ first algorithm ≠ [] ∧ second algorithm ≠ [] := by
  simp [comparable]

theorem getDigestMatch_eq_same {first second : Algorithm → List α} :
    getDigestMatch first second = .same ↔ DigestsAgree first second := by
  have shape : getDigestMatch first second = .same ↔
      (∃ algorithm, comparable first second algorithm = true ∧ first algorithm = second algorithm) ∧
        ∀ algorithm, comparable first second algorithm = true →
          first algorithm = second algorithm := by
    simp only [getDigestMatch]
    split
    · next some =>
        simp only [List.countP_pos_iff, List.mem_filter, decide_eq_true_eq] at some
        obtain ⟨algorithm, ⟨-, compared⟩, equal⟩ := some
        split
        · next another =>
            simp only [List.countP_pos_iff, List.mem_filter, decide_eq_true_eq] at another
            obtain ⟨other, ⟨-, comparedOther⟩, unequal⟩ := another
            refine ⟨nofun, fun all => absurd (all.2 other comparedOther) unequal⟩
        · next none =>
            simp only [List.countP_pos_iff, List.mem_filter, decide_eq_true_eq] at none
            refine ⟨fun _ => ⟨⟨algorithm, compared, equal⟩, fun other comparedOther => ?_⟩,
              fun _ => rfl⟩
            exact Decidable.byContradiction fun unequal =>
              none ⟨other, ⟨other.mem_all, comparedOther⟩, unequal⟩
    · next none =>
        simp only [List.countP_pos_iff, List.mem_filter, decide_eq_true_eq] at none
        refine ⟨fun same => ?_, fun all => ?_⟩
        · split at same <;> cases same
        · obtain ⟨algorithm, compared, equal⟩ := all.1
          exact absurd ⟨algorithm, ⟨algorithm.mem_all, compared⟩, equal⟩ none
  rw [shape]
  constructor
  · rintro ⟨⟨algorithm, compared, -⟩, agree⟩
    exact ⟨⟨algorithm, comparable_iff.mp compared⟩,
      fun other left right => agree other (comparable_iff.mpr ⟨left, right⟩)⟩
  · rintro ⟨⟨algorithm, left, right⟩, agree⟩
    refine ⟨⟨algorithm, comparable_iff.mpr ⟨left, right⟩, agree algorithm left right⟩, ?_⟩
    exact fun other compared => agree other (comparable_iff.mp compared).1 (comparable_iff.mp compared).2

/-- The texts of the source also print both digests. -/
def MatchResult.verdict : MatchResult → Anyhow.Result Unit
  | .same => .ok ()
  | .different => Anyhow.bail "mismatched digests"
  | .undecidable => Anyhow.bail "invalid digests"
  | .contradictory => Anyhow.bail "hash collision"

end Comparison

def isHexDigestMatch (actual expected : HexDigest) : Anyhow.Result Unit :=
  (getDigestMatch actual expected).verdict

def isRawDigestMatch (actual expected : RawDigest) : Anyhow.Result Unit :=
  isHexDigestMatch (rawToHexDigest actual) (rawToHexDigest expected)

theorem MatchResult.verdict_eq_ok {result : MatchResult} :
    result.verdict = .ok () ↔ result = .same := by
  cases result <;> simp [verdict]

@[simp] theorem isHexDigestMatch_eq_ok {actual expected : HexDigest} :
    isHexDigestMatch actual expected = .ok () ↔ DigestsAgree actual expected := by
  rw [isHexDigestMatch, MatchResult.verdict_eq_ok, getDigestMatch_eq_same]

end Oak.Tr
