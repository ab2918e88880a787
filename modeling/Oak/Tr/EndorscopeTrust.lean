import Oak.Tr.EndorscopeList
import Oak.Tr.EndorsementMeaning

namespace Oak.Tr

open Oak.Data

/-! What the remote side can pass off.

The loader and the `list` command look at no hash of what they are served, so a
set of files that verifies is taken for the one asked for. -/

variable {Certificate : Type} (crates : EndorsementCrates Certificate)

/-- `into_unix_millis` returns this. -/
def Instant.UnixMillis (instant : Instant) (millis : Int64) : Prop :=
  (instant.intoUnixMillis : Outcome Empty Int64) = .ok millis

/-- The text is the typed SHA2-256 hash of the contents. -/
def IsHashOf (hash : Text) (contents : Bytes) : Prop :=
  ∃ digest, Digest.fromTypedHash hash = .ok digest ∧ digest.algorithm = .sha2_256 ∧
    digest.bytes = (crates.sha2.sha256 contents).toList

def Package.keyFile (package : Package) : Bytes := Protobuf.utf8 (String.ofList package.endorserPublicKey)

/-- The files served for an endorsement verify, with the key that is among them. -/
def CaStorage.ServesVerified (storage : CaStorage) (remote : Remote) (endorsementHash : Text)
    (rekorPublicKey c2spPolicy : Option Text) (now : Int64) (claimTypes : List Text)
    (package : Package) (statement : Statement) : Prop :=
  storage.Serves crates remote endorsementHash package ∧ package.rekorPublicKey = rekorPublicKey ∧
    package.c2spPolicy = c2spPolicy ∧ package.verify crates now claimTypes = .ok statement

variable {statement : Statement}

theorem loaded_verified_iff {storage : CaStorage} {remote : Remote} {endorsementHash : Text}
    {rekorPublicKey c2spPolicy : Option Text} {now : Int64} {claimTypes : List Text}
    {package : Package} :
    ((storage.load crates endorsementHash rekorPublicKey c2spPolicy).result remote = .ok package ∧
        package.verify crates now claimTypes = .ok statement) ↔
      storage.ServesVerified crates remote endorsementHash rekorPublicKey c2spPolicy now claimTypes
        package statement := by
  rw [CaStorage.load_eq_ok, CaStorage.ServesVerified, and_assoc, and_assoc]

namespace Printed

variable {α β ε : Type} {next : α → Printed β}

theorem mem_lines_bind {first : Printed α} {line : Line} :
    line ∈ (first >>= next).lines ↔
      line ∈ first.lines ∨ ∃ value, first.outcome = .ok value ∧ line ∈ (next value).lines := by
  simp only [bind]
  cases first.outcome with
  | error | ok => simp

/-- No endorsement is reported as verified. -/
def Quiet (printed : Printed α) : Prop :=
  ∀ hash package statement, Line.verified hash package statement ∉ printed.lines

theorem quiet_silent (outcome : Outcome Empty α) : Quiet (silent outcome) :=
  fun _ _ _ => List.not_mem_nil

theorem quiet_pure (value : α) : Quiet (pure value) := quiet_silent (.ok value)

theorem quiet_detail (text : String) : Quiet (println (.detail text)) := by
  intro hash package statement member
  cases List.mem_singleton.mp member

theorem quiet_found (count : Nat) (keyHash : Text) :
    Quiet (println (.foundEndorsements count keyHash)) := by
  intro hash package statement member
  cases List.mem_singleton.mp member

theorem quiet_expect (message : String) (outcome : Outcome ε α) : Quiet (expect message outcome) := by
  rcases outcome with (reason | text) | value
  · exact quiet_silent _
  · exact quiet_silent _
  · exact quiet_silent _

theorem Quiet.bind {first : Printed α} (quiet : Quiet first)
    (rest : ∀ value, Quiet (next value)) : Quiet (first >>= next) := by
  intro hash package statement member
  rcases mem_lines_bind.mp member with before | ⟨value, -, after⟩
  · exact quiet hash package statement before
  · exact rest value hash package statement after

theorem Quiet.onlyIf {condition : Bool} {printed : Printed Unit} (quiet : Quiet printed) :
    Quiet (onlyIf condition printed) := by
  cases condition with
  | false => exact quiet_pure ()
  | true => exact quiet

theorem quiet_forM {items : List α} {each : α → Printed Unit} (quiet : ∀ item, Quiet (each item)) :
    Quiet (items.forM each) := by
  induction items with
  | nil => exact quiet_pure ()
  | cons item rest ih => exact (quiet item).bind fun _ => ih

end Printed

open Printed

section Reports

variable {crates} {storage : CaStorage} {session : Session}
  {mpmAttachment : Bytes → Except String Text} {currentTime : Instant} {claimTypes : List Text}
  {rekorPublicKey c2spPolicy : Option Text}

theorem quiet_printClaim (claim : Text) : Quiet (printClaim claim) := by
  rw [printClaim]
  split
  · split
    · exact quiet_detail _
    · exact quiet_silent _
  · exact quiet_detail _

theorem quiet_printInstant (label : String) (instant : Instant) :
    Quiet (printInstant crates label instant) :=
  (quiet_silent _).bind fun _ => quiet_detail _

theorem quiet_printDetails (package : Package) (statement : Statement) :
    Quiet (printDetails crates mpmAttachment package statement) :=
  (quiet_expect _ _).bind fun _ => (quiet_detail _).bind fun _ => (quiet_printInstant _ _).bind fun _ =>
    (quiet_printInstant _ _).bind fun _ =>
      (Quiet.onlyIf ((quiet_expect _ _).bind fun _ => quiet_detail _)).bind fun _ =>
        quiet_forM quiet_printClaim

theorem quiet_collectByKeys (position : Nat) (collected keys : List Text) :
    Quiet (collectByKeys storage session position collected keys) := by
  induction keys generalizing position collected with
  | nil => exact quiet_pure _
  | cons key rest ih =>
    rw [collectByKeys]
    split
    · exact ih _ _
    · exact (quiet_found _ _).bind fun _ => ih _ _

theorem quiet_listKeysByKeyset (keysetHash : Text) :
    Quiet (listKeysByKeyset storage session keysetHash) := by
  refine (quiet_expect _ _).bind fun keys => Quiet.bind ?_ fun _ =>
    (quiet_forM fun key => ?_).bind fun _ => quiet_pure _
  · intro hash package statement member
    cases List.mem_singleton.mp member
  · intro hash package statement member
    cases List.mem_singleton.mp member

theorem quiet_intersectSubject (current : Option (List Text)) (hash : Option Text) :
    Quiet (intersectSubject storage session current hash) := by
  cases hash with
  | none => exact quiet_pure _
  | some hash => exact (quiet_expect _ _).bind fun _ => quiet_pure _

theorem quiet_intersectKey (current : Option (List Text)) (hash : Option Text) :
    Quiet (intersectKey storage session current hash) := by
  cases hash with
  | none => exact quiet_pure _
  | some hash =>
    exact (quiet_expect _ _).bind fun _ => (quiet_found _ _).bind fun _ => quiet_pure _

theorem quiet_intersectKeyset (current : Option (List Text)) (hash : Option Text) :
    Quiet (intersectKeyset storage session current hash) := by
  cases hash with
  | none => exact quiet_pure _
  | some hash =>
    exact ((quiet_listKeysByKeyset hash).bind fun _ => quiet_collectByKeys _ _ _).bind fun _ =>
      quiet_pure _

theorem quiet_intersectClaims (position : Nat) (current : Option (List Text)) (claims : List Text) :
    Quiet (intersectClaims crates storage session position current claims) := by
  induction claims generalizing position current with
  | nil => exact quiet_pure _
  | cons claim rest ih => exact (quiet_expect _ _).bind fun _ => ih _ _

theorem quiet_selectHashes (mode : ListMode) : Quiet (selectHashes crates storage session mode) :=
  (Quiet.onlyIf (quiet_silent _)).bind fun _ => (quiet_intersectSubject _ _).bind fun _ =>
    (quiet_intersectKey _ _).bind fun _ => (quiet_intersectKeyset _ _).bind fun _ =>
      (quiet_intersectClaims _ _ _).bind fun _ => quiet_pure _

theorem verified_verifyPrintPackage {package shown : Package} {endorsementHash hash : Text} : Line.verified hash shown statement ∈
        (verifyPrintPackage crates mpmAttachment currentTime claimTypes package endorsementHash).lines ↔
      hash = endorsementHash ∧ shown = package ∧ ∃ now, currentTime.UnixMillis now ∧
        package.verify crates now claimTypes = .ok statement := by
  simp only [verifyPrintPackage, mem_lines_bind, silent, List.not_mem_nil, false_or, Package.verify,
    Outcome.bind_eq_ok]
  constructor
  · intro ⟨now, time, refValue, keys, result, verified, member⟩
    cases result with
    | error reason => cases List.mem_singleton.mp member
    | ok found =>
      rcases mem_lines_bind.mp member with first | ⟨_, -, later⟩
      · cases List.mem_singleton.mp first
        refine ⟨rfl, rfl, now, time, refValue, ?_, Outcome.caught_eq_ok_ok.mp verified⟩
        rw [keys, Outcome.widen_ok]
      · exact absurd later (quiet_printDetails _ _ _ _ _)
  · intro ⟨sameHash, samePackage, now, time, refValue, keys, verified⟩
    subst sameHash samePackage
    have found := Outcome.mapErr_eq_ok.mp keys
    refine ⟨now, time, refValue, found, .ok statement, Outcome.caught_eq_ok_ok.mpr verified, ?_⟩
    exact mem_lines_bind.mpr (.inl (List.mem_singleton.mpr rfl))

theorem verified_listEndorsement {position : Nat} {endorsementHash hash : Text} {package : Package} :
    Line.verified hash package statement ∈ (listEndorsement crates storage session mpmAttachment
        currentTime claimTypes rekorPublicKey c2spPolicy position endorsementHash).lines ↔
      hash = endorsementHash ∧ ∃ now, currentTime.UnixMillis now ∧
        storage.ServesVerified crates (session (.load position)) endorsementHash rekorPublicKey
          c2spPolicy now claimTypes package statement := by
  simp only [← loaded_verified_iff, listEndorsement]
  split
  · next found loaded =>
      rw [verified_verifyPrintPackage]
      constructor
      · intro ⟨same, samePackage, now, time, verified⟩
        subst samePackage
        exact ⟨same, now, time, loaded, verified⟩
      · intro ⟨same, now, time, again, verified⟩
        cases loaded.symm.trans again
        exact ⟨same, rfl, now, time, verified⟩
  · next reason failed =>
      constructor
      · intro member
        cases List.mem_singleton.mp member
      · intro ⟨_, _, _, loaded, _⟩
        cases failed.symm.trans loaded

end Reports

/-- The loop over the hashes gets to this one: the limit is not reached and nothing has panicked. -/
inductive Reached (limit : Nat) (each : Nat → Text → Printed Unit) :
    Nat → List Text → Nat → Text → Prop
  | here {position : Nat} {hash : Text} {rest : List Text} :
      Reached limit each position (hash :: rest) position hash
  | later {position found : Nat} {hash target : Text} {rest : List Text}
      (done : (each position hash).outcome = .ok ()) (below : ¬ (0 < limit ∧ limit - 1 ≤ position))
      (reached : Reached limit each (position + 1) rest found target) :
      Reached limit each position (hash :: rest) found target

section Loop

variable {crates} {storage : CaStorage} {session : Session}
  {mpmAttachment : Bytes → Except String Text} {currentTime : Instant} {claimTypes : List Text}
  {rekorPublicKey c2spPolicy : Option Text}

theorem mem_listEndorsementHashes {limit position : Nat} {hashes : List Text} {line : Line} :
    line ∈ (listEndorsementHashes crates storage session mpmAttachment currentTime claimTypes
        rekorPublicKey c2spPolicy limit position hashes).lines ↔
      ∃ found hash, Reached limit (listEndorsement crates storage session mpmAttachment currentTime
          claimTypes rekorPublicKey c2spPolicy) position hashes found hash ∧
        line ∈ (listEndorsement crates storage session mpmAttachment currentTime claimTypes
          rekorPublicKey c2spPolicy found hash).lines := by
  induction hashes generalizing position with
  | nil =>
    constructor
    · intro member
      cases member
    · intro ⟨_, _, reached, _⟩
      cases reached
  | cons hash rest ih =>
    rw [listEndorsementHashes, mem_lines_bind]
    constructor
    · intro either
      rcases either with now | ⟨_, done, member⟩
      · exact ⟨position, hash, .here, now⟩
      · by_cases last : 0 < limit ∧ limit - 1 ≤ position
        · rw [if_pos last] at member
          cases member
        · rw [if_neg last] at member
          obtain ⟨found, target, reached, member⟩ := ih.mp member
          exact ⟨found, target, .later done last reached, member⟩
    · intro ⟨found, target, reached, member⟩
      cases reached with
      | here => exact .inl member
      | later done below reached =>
        refine .inr ⟨(), done, ?_⟩
        rw [if_neg below]
        exact ih.mpr ⟨found, target, reached, member⟩

end Loop

section Listing

variable (storage : CaStorage) (session : Session) (mpmAttachment : Bytes → Except String Text)
  (currentTime : Instant) (claimTypes : List Text) (args : ListArgs)

/-- The command gets to this hash in the list that the remote side gives it. -/
def Listed (position : Nat) (hash : Text) : Prop :=
  ∃ finalHashes, (selectHashes crates storage session args.mode).outcome = .ok finalHashes ∧
    Reached args.limit (listEndorsement crates storage session mpmAttachment currentTime claimTypes
      args.tlogKeys.1 args.tlogKeys.2) 0 finalHashes.reverse position hash

theorem verified_list {hash : Text} {package : Package} :
    Line.verified hash package statement ∈
        (list crates storage session mpmAttachment currentTime claimTypes args).lines ↔
      ∃ position now, Listed crates storage session mpmAttachment currentTime claimTypes args position
          hash ∧ currentTime.UnixMillis now ∧
        storage.ServesVerified crates (session (.load position)) hash args.tlogKeys.1 args.tlogKeys.2 now
          claimTypes package statement := by
  rw [list, mem_lines_bind]
  constructor
  · intro either
    rcases either with selecting | ⟨finalHashes, selected, member⟩
    · exact absurd selecting (quiet_selectHashes _ _ _ _)
    · obtain ⟨position, target, reached, member⟩ := mem_listEndorsementHashes.mp member
      obtain ⟨same, now, time, served⟩ := verified_listEndorsement.mp member
      subst same
      exact ⟨position, now, ⟨finalHashes, selected, reached⟩, time, served⟩
  · intro ⟨position, now, ⟨finalHashes, selected, reached⟩, time, served⟩
    refine .inr ⟨finalHashes, selected, mem_listEndorsementHashes.mpr ⟨position, hash, reached, ?_⟩⟩
    exact verified_listEndorsement.mpr ⟨rfl, now, time, served⟩

end Listing

namespace AnotherEndorsement

def acceptingCrates : EndorsementCrates Empty :=
  { Unprintable.acceptingCrates with
    keys := { Unprintable.acceptingCrates.keys with
      documentFromPem := fun _ => .ok (publicKeyPemLabel, []) } }

def storage : CaStorage := { join := .ok, fbucket := "files".toList, ibucket := "index".toList }

def remote : Remote := fun _ _ => .ok []

/-- The list for a key names the endorsement `x`. -/
def session : Session
  | .key => fun _ _ => .ok [120]
  | _ => remote

def args (keyHash : Text) : ListArgs :=
  { mode := ⟨none, some keyHash, none, []⟩, skipTlogVerification := true, rekorPublicKey := []
    c2spPolicy := [], limit := 0 }

def package : Package :=
  { endorsement := [], signature := [], rekorLogEntry := some [], c2spTlogProof := some []
    pesConfirmation := some [], subject := none, endorserPublicKey := [], rekorPublicKey := none
    c2spPolicy := none }

def hash : Text := "sha2-256:".toList ++ List.replicate 64 'f'

theorem not_isHashOf (contents : Bytes) : ¬ IsHashOf acceptingCrates hash contents := by
  intro ⟨digest, parsed, _, zero⟩
  have other : (Digest.fromTypedHash hash).toOption.any
      (fun digest => digest.bytes ≠ (Block.zero 32).toList) = true := by
    decide +kernel
  obtain ⟨found, again, differs⟩ := exists_ok_of_any other
  cases parsed.symm.trans again
  exact absurd zero (of_decide_eq_true differs)

theorem listed_lines :
    (list acceptingCrates storage session (fun _ => .error "") ⟨0⟩ [] (args hash)).lines =
      [.foundEndorsements 1 hash, .verified ['x'] package Unprintable.statement] := by
  rfl

end AnotherEndorsement

end Oak.Tr
