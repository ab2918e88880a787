import Mathlib.Data.Char
import Mathlib.Data.List.Lex
import Oak.C2sp.Note
import Oak.Data.BTreeMap
import Oak.Data.Threshold

namespace Oak.C2sp

open Oak.Data

/-! Policies for log proofs, their parser and the evaluation of their quorum: `tr/c2sp/policy.rs`. -/

structure PolicyError where
  line : Nat
  reason : String
deriving Repr, DecidableEq

abbrev QuorumName := Text

abbrev Quorum := Threshold.Quorum QuorumName NoteVerifyingKey

structure Policy where
  logKeys : List NoteVerifyingKey
  quorums : BTreeMap QuorumName Quorum
  quorum : Option QuorumName

namespace Policy

/-- The variables of `parse`. -/
structure Builder where
  logKeys : List NoteVerifyingKey
  quorums : BTreeMap QuorumName Quorum
  quorumSet : Bool
  rootQuorum : Option QuorumName

def Builder.start : Builder :=
  { logKeys := [], quorums := .empty, quorumSet := false, rootQuorum := none }

def quoted (name : Text) : String := "`" ++ String.ofList name ++ "`"

/-- `any` is one and `all` is the number of members; a number must lie between the two. -/
def parseThreshold (threshold : Text) (count : Nat) : Except String Nat :=
  if threshold = "any".toList then .ok 1
  else if threshold = "all".toList then .ok count
  else
    match Text.parseUnsigned (2 ^ 64) threshold with
    | none => .error ("invalid threshold " ++ quoted threshold)
    | some k =>
      if 1 ≤ k ∧ k ≤ count then .ok k
      else .error s!"threshold {k} out of range for group of size {count}, must satisfy 1 <= k <= {count}"

def isEd25519 (key : NoteVerifyingKey) : Bool :=
  match key.verifyingKey with
  | .ed25519 _ => true
  | _ => false

def isCosignature (key : NoteVerifyingKey) : Bool :=
  match key.verifyingKey with
  | .ed25519CosignatureV1 _ => true
  | _ => false

/-- `ml_dsa_ok`, in a build with the feature. -/
def isMlDsa (key : NoteVerifyingKey) : Bool :=
  match key.verifyingKey with
  | .mlDsa44SubtreeV1 _ => true
  | _ => false

/-- The rule `log <vkey> [<url>]`, from its arguments. -/
def logRule (schemes : SignatureSchemes) (state : Builder) (arguments : List Text) :
    Except String Builder :=
  match arguments with
  | [] => .error "invalid log rule: expected 1 or 2 arguments, got 0"
  | vkeyStr :: optional =>
    if 1 < optional.length then
      .error s!"invalid log rule: expected 1 or 2 arguments, got {arguments.length}"
    else
      match NoteVerifyingKey.parse schemes vkeyStr with
      | .error _ => .error "log key must be a C2SP verifying key string"
      | .ok vkey =>
        if ¬ isEd25519 vkey ∧ ¬ (schemes.mlDsa ∧ isMlDsa vkey) then
          .error "log key must have Ed25519 (0x01) or ML-DSA-44 (0x06) type"
        else if state.logKeys.any (fun existing => existing.verifyingKey = vkey.verifyingKey) then
          .error "duplicate log key"
        else .ok { state with logKeys := state.logKeys ++ [vkey] }

def isWitnessWith (vkey : NoteVerifyingKey) : Quorum → Bool
  | .witness existing => existing.verifyingKey = vkey.verifyingKey
  | .group _ _ => false

/-- The rule `witness <name> <vkey> [<url>]`, from its arguments. -/
def witnessRule (schemes : SignatureSchemes) (state : Builder) (arguments : List Text) :
    Except String Builder :=
  match arguments with
  | name :: vkeyStr :: optional =>
    if 1 < optional.length then
      .error s!"invalid witness rule: expected 2 or 3 arguments, got {arguments.length}"
    else if name = "none".toList then .error "`none` is a reserved name"
    else
      match NoteVerifyingKey.parse schemes vkeyStr with
      | .error _ => .error "witness key must be a C2SP verifying key string"
      | .ok vkey =>
        if ¬ isCosignature vkey ∧ ¬ (schemes.mlDsa ∧ isMlDsa vkey) then
          .error "witness key must have a cosignature type (0x04 or 0x06)"
        else if state.quorums.containsKey name then
          .error ("duplicate name " ++ quoted name)
        else if state.quorums.values.any (isWitnessWith vkey) then
          .error "duplicate witness key"
        else .ok { state with quorums := state.quorums.insert name (.witness vkey) }
  | _ => .error s!"invalid witness rule: expected 2 or 3 arguments, got {arguments.length}"

/-- The loop over the members of a group; `seen` are the members before. -/
def checkMembers (quorums : BTreeMap QuorumName Quorum) (seen : List QuorumName) :
    List QuorumName → Except String Unit
  | [] => .ok ()
  | member :: members =>
    if member ∈ seen then .error ("duplicate group member " ++ quoted member)
    else if ¬ quorums.containsKey member then .error ("unknown group member " ++ quoted member)
    else checkMembers quorums (member :: seen) members

/-- The rule `group <name> <threshold> <member>..`, from its arguments. -/
def groupRule (state : Builder) (arguments : List Text) : Except String Builder :=
  match arguments with
  | name :: kStr :: first :: others =>
    if name = "none".toList then .error "`none` is a reserved name"
    else do
      let members := first :: others
      let k ← parseThreshold kStr members.length
      if state.quorums.containsKey name then .error ("duplicate name " ++ quoted name)
      else do
        checkMembers state.quorums [] members
        return { state with quorums := state.quorums.insert name (.group k members) }
  | _ => .error s!"invalid group rule: expected at least 3 arguments, got {arguments.length}"

/-- The rule `quorum <name>`, from its arguments. -/
def quorumRule (state : Builder) (arguments : List Text) : Except String Builder :=
  match arguments with
  | [name] =>
    if state.quorumSet then .error "quorum already set"
    else if name = "none".toList then .ok { state with quorumSet := true }
    else if ¬ state.quorums.containsKey name then
      .error ("unknown quorum name " ++ quoted name)
    else .ok { state with quorumSet := true, rootQuorum := some name }
  | _ => .error "invalid quorum rule: expected exactly one argument"

def parseRule (schemes : SignatureSchemes) (state : Builder) (keyword : Text)
    (arguments : List Text) : Except String Builder :=
  if keyword = "log".toList then logRule schemes state arguments
  else if keyword = "witness".toList then witnessRule schemes state arguments
  else if keyword = "group".toList then groupRule state arguments
  else if keyword = "quorum".toList then quorumRule state arguments
  else .error ("unknown keyword " ++ quoted keyword)

/-- The loop over the lines, from line number `lineno` on. -/
def parseLines (schemes : SignatureSchemes) (state : Builder) (lineno : Nat) :
    List Text → Outcome PolicyError Builder
  | [] => .ok state
  | raw :: rest =>
    let line := Text.trim raw
    if line = [] ∨ line.head? = some '#' then parseLines schemes state (lineno + 1) rest
    else
      match Text.splitAsciiWhitespace line with
      | [] => .panic "index out of bounds: the len is 0 but the index is 0"
      | keyword :: arguments =>
        match parseRule schemes state keyword arguments with
        | .error reason => .err { line := lineno + 1, reason }
        | .ok state => parseLines schemes state (lineno + 1) rest

def parse (schemes : SignatureSchemes) (data : Text) : Outcome PolicyError Policy := do
  let state ← parseLines schemes .start 0 (Text.lines data)
  if state.quorumSet then
    return { logKeys := state.logKeys, quorums := state.quorums, quorum := state.rootQuorum }
  else .err { line := (Text.lines data).length, reason := "no quorum line found" }

def witnessKeys (policy : Policy) : List NoteVerifyingKey :=
  policy.quorums.values.filterMap fun quorum =>
    match quorum with
    | .witness vkey => some vkey
    | .group _ _ => none

def countSatisfied {α : Type} (test : α → Outcome Empty Bool) : List α → Outcome Empty Nat
  | [] => .ok 0
  | member :: members => do
    let satisfied ← test member
    let count ← countSatisfied test members
    return if satisfied then count + 1 else count

/-- The recursion over the names is not bounded by the source; `depth` is the stack it may use. -/
def satisfies (policy : Policy) (verifiedKeys : List NoteVerifyingKey) :
    Nat → Quorum → Outcome Empty Bool
  | 0, _ => .panic "stack overflow"
  | _ + 1, .witness witnessKey => .ok (verifiedKeys.contains witnessKey)
  | depth + 1, .group k members => do
    let count ← countSatisfied (fun member =>
      match policy.quorums.get? member with
      | none => .panic "group members must be in quorums"
      | some quorum => policy.satisfies verifiedKeys depth quorum) members
    return decide (k ≤ count)

/-- A chain of distinct names is no longer than the number of names. -/
def checkQuorum (policy : Policy) (verifiedKeys : List NoteVerifyingKey) : Outcome Empty Bool :=
  match policy.quorum with
  | none => .ok true
  | some name =>
    match policy.quorums.get? name with
    | none => .panic "quorum must be in quorums"
    | some root => policy.satisfies verifiedKeys policy.quorums.entries.length root

end Policy

end Oak.C2sp
