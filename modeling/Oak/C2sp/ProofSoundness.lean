import Mathlib.Algebra.Ring.Nat
import Oak.C2sp.PolicyMeaning
import Oak.C2sp.ProofRoundTrip

namespace Oak.C2sp

open Oak.Data Oak.Data.Outcome

/-! What an accepted log proof establishes. -/

variable {checkpoint : Checkpoint} {logKeys : List NoteVerifyingKey}

namespace Checkpoint

/-- The signed text starts with the fields of the checkpoint. -/
def TextBinds (checkpoint : Checkpoint) : Prop :=
  ∃ cpSize cpRoot extensions,
    checkpoint.signedPayload = Text.unlines (checkpoint.origin :: cpSize :: cpRoot :: extensions) ∧
      parseU64 cpSize = some checkpoint.treeSize ∧ parseHash cpRoot = some checkpoint.rootHash

theorem ReadFrom.binds {content : List Text} (read : ReadFrom content checkpoint) :
    checkpoint.TextBinds := by
  obtain ⟨cpSize, cpRoot, extensions, body, size, root, -⟩ := read.fields
  exact ⟨cpSize, cpRoot, extensions, by rw [read.payload, body], size, root⟩

end Checkpoint

namespace TLogProof

variable {schemes : SignatureSchemes} {merkle : MerkleLibrary} {proof : TLogProof} {policy : Policy}

theorem parse_binds {serialized : Text} (parsed : parse serialized = .ok proof) :
    proof.checkpoint.TextBinds := by
  have read := Checkpoint.parseLines_readFrom (fun _ member => Text.newline_notMem_lines member)
    (parseLines_checkpoint parsed)
  exact read.binds

theorem verifyLogKey_eq_ok {signedPayload : Text} {logKey : NoteVerifyingKey} {before after : Nat}
    {signatures : List NoteSignature} :
    verifyLogKey schemes signedPayload logKey before signatures = .ok after ↔
      (∀ sig ∈ signatures, sig.matchesKey logKey = true →
        logKey.verify schemes signedPayload sig = .ok ()) ∧
      after = before + signatures.countP (·.matchesKey logKey) := by
  induction signatures generalizing before with
  | nil =>
    rw [verifyLogKey, eq_comm]
    simp
  | cons sig rest ih =>
    rw [verifyLogKey, List.forall_mem_cons, List.countP_cons]
    by_cases own : sig.matchesKey logKey = true
    · rw [if_pos own, if_pos own]
      cases valid : logKey.verify schemes signedPayload sig with
      | error reason => simp [own, bind, Except.bind]
      | ok =>
        have rest := @ih (before + 1)
        simp only [bind, Except.bind, rest, implies_true, true_and]
        rw [Nat.add_right_comm, Nat.add_assoc]
    · rw [if_neg own, ih]
      simp [own]

theorem verifyLogKeys_eq_ok {before after : Nat} :
    verifyLogKeys schemes checkpoint before logKeys = .ok after ↔
      (∀ key ∈ logKeys, key.origin = checkpoint.origin → ∀ sig ∈ checkpoint.signatures,
        sig.matchesKey key = true → key.verify schemes checkpoint.signedPayload sig = .ok ()) ∧
      after = before + ((logKeys.filter (·.origin = checkpoint.origin)).map fun key =>
        checkpoint.signatures.countP (·.matchesKey key)).sum := by
  induction logKeys generalizing before with
  | nil =>
    rw [verifyLogKeys, Except.ok.injEq, eq_comm]
    exact (and_iff_right (List.forall_mem_nil _)).symm
  | cons key rest ih =>
    rw [verifyLogKeys, List.forall_mem_cons]
    by_cases sameOrigin : key.origin = checkpoint.origin
    · rw [if_neg (not_not_intro sameOrigin.symm), List.filter_cons, decide_eq_true sameOrigin,
        if_pos rfl, List.map_cons, List.sum_cons, except_bind_eq_ok]
      constructor
      · intro found
        obtain ⟨middle, own, others⟩ := found
        obtain ⟨valid, counted⟩ := verifyLogKey_eq_ok.mp own
        obtain ⟨validOthers, total⟩ := ih.mp others
        refine ⟨⟨fun _ => valid, validOthers⟩, ?_⟩
        omega
      · intro all
        obtain ⟨⟨valid, validOthers⟩, total⟩ := all
        refine ⟨_, verifyLogKey_eq_ok.mpr ⟨valid sameOrigin, rfl⟩, ih.mpr ⟨validOthers, ?_⟩⟩
        omega
    · rw [if_pos (fun same => sameOrigin same.symm), List.filter_cons, decide_eq_false sameOrigin,
        if_neg Bool.false_ne_true, ih, and_iff_right (fun same => absurd same sameOrigin)]

theorem verifyLogKeys_found (verified : verifyLogKeys schemes checkpoint 0 logKeys = .ok 1) :
    ∃ logKey ∈ logKeys, logKey.origin = checkpoint.origin ∧ ∃ sig ∈ checkpoint.signatures,
      sig.matchesKey logKey ∧ logKey.verify schemes checkpoint.signedPayload sig = .ok () := by
  obtain ⟨valid, total⟩ := verifyLogKeys_eq_ok.mp verified
  rw [Nat.zero_add] at total
  obtain ⟨count, member, counted⟩ := List.exists_mem_ne_zero_of_sum_ne_zero
    (ne_of_eq_of_ne total.symm Nat.one_ne_zero)
  obtain ⟨logKey, found, rfl⟩ := List.mem_map.mp member
  obtain ⟨listed, origin⟩ := List.mem_filter.mp found
  obtain ⟨sig, signed, own⟩ := List.countP_pos_iff.mp (Nat.pos_of_ne_zero counted)
  have origin : logKey.origin = checkpoint.origin := of_decide_eq_true origin
  exact ⟨logKey, listed, origin, sig, signed, own, valid logKey listed origin sig signed own⟩

/-- The witness keys of the policy that a signature of the checkpoint is valid for. -/
def cosigners (schemes : SignatureSchemes) (proof : TLogProof) (policy : Policy) :
    Set NoteVerifyingKey :=
  {key | key ∈ policy.witnessKeys ∧ ∃ sig ∈ proof.checkpoint.signatures,
    sig.matchesKey key ∧ key.verify schemes proof.checkpoint.signedPayload sig = .ok ()}

theorem mem_cosigners {key : NoteVerifyingKey}
    (counted : key ∈ verifiedWitnesses schemes proof.checkpoint policy.witnessKeys) :
    key ∈ cosigners schemes proof policy := by
  obtain ⟨sig, member, found⟩ := List.mem_filterMap.mp counted
  have signed := List.find?_some found
  rw [signedBy, Bool.and_eq_true] at signed
  refine ⟨List.mem_of_find?_eq_some found, sig, member, signed.1, ?_⟩
  cases valid : key.verify schemes proof.checkpoint.signedPayload sig with
  | ok => rfl
  | error reason =>
    rw [valid] at signed
    cases signed.2

structure Established (schemes : SignatureSchemes) (merkle : MerkleLibrary) (proof : TLogProof)
    (policy : Policy) (entry : Bytes) : Prop where
  text : proof.checkpoint.TextBinds
  log : ∃ logKey ∈ policy.logKeys, logKey.origin = proof.checkpoint.origin ∧
    ∃ sig ∈ proof.checkpoint.signatures, sig.matchesKey logKey ∧
      logKey.verify schemes proof.checkpoint.signedPayload sig = .ok ()
  quorum : policy.Satisfied (cosigners schemes proof policy)
  index : proof.index < proof.checkpoint.treeSize
  root : merkle.root (concatAndHash merkle) proof.proofHashes proof.index.toNat
    (leafHash merkle entry) proof.checkpoint.treeSize.toNat = some proof.checkpoint.rootHash

theorem computeRootHash_ok {entry : Bytes} {hash : Sha256}
    (computed : proof.computeRootHash merkle entry = .ok hash) :
    proof.index < proof.checkpoint.treeSize ∧
      merkle.root (concatAndHash merkle) proof.proofHashes proof.index.toNat
        (leafHash merkle entry) proof.checkpoint.treeSize.toNat = some hash := by
  rw [computeRootHash] at computed
  split at computed
  · cases computed
  next inside =>
  split at computed
  · cases computed
  next root found =>
  cases computed
  exact ⟨UInt64.not_le.mp inside, found⟩

theorem widen_decides {α : Type} (outcome : Outcome Empty α) :
    Decides (outcome.widen : Outcome TLogProofError α) (fun value => outcome = .ok value)
      (∀ value, outcome ≠ .ok value) := by
  cases outcome with
  | error fault =>
    cases fault with
    | error impossible => cases impossible
    | panic message => exact (Decides.panic message).congr (by simp) (by simp)
  | ok value => exact (Decides.ok value).congr (by simp) (by simp)

theorem verify_decides (schemes : SignatureSchemes) (merkle : MerkleLibrary) (proof : TLogProof)
    (policy : Policy) (entry : Bytes) :
    Decides (proof.verify schemes merkle policy entry)
      (fun _ => verifyLogKeys schemes proof.checkpoint 0 policy.logKeys = .ok 1 ∧
        policy.checkQuorum (verifiedWitnesses schemes proof.checkpoint policy.witnessKeys) = .ok true ∧
        proof.computeRootHash merkle entry = .ok proof.checkpoint.rootHash)
      (verifyLogKeys schemes proof.checkpoint 0 policy.logKeys = .ok 1 ∧
        ∀ answer, policy.checkQuorum
          (verifiedWitnesses schemes proof.checkpoint policy.witnessKeys) ≠ .ok answer) := by
  rw [verify]
  simp only [ite_not]
  have counted : Decides ((Outcome.returned
      (verifyLogKeys schemes proof.checkpoint 0 policy.logKeys)).mapErr TLogProofError.note)
      (fun found => verifyLogKeys schemes proof.checkpoint 0 policy.logKeys = .ok found) False :=
    (Decides.returned fun found => Iff.rfl).mapErr
  have quorum := widen_decides
    (policy.checkQuorum (verifiedWitnesses schemes proof.checkpoint policy.witnessKeys))
  have root : Decides (Outcome.returned (proof.computeRootHash merkle entry))
      (fun hash => proof.computeRootHash merkle entry = .ok hash) False :=
    .returned fun hash => Iff.rfl
  apply Decides.congr (counted.bind fun found _ => .ite fun one => quorum.bind fun satisfied _ =>
    .ite fun enough => root.bind fun hash _ => .ite fun same => .ok ())
  · simp
  · simp

theorem accepted_proof_established {policyText proofText : Text} {entry : Bytes}
    (parsedPolicy : Policy.parse schemes policyText = .ok policy)
    (parsedProof : parse proofText = .ok proof)
    (accepted : proof.verify schemes merkle policy entry = .ok ()) :
    Established schemes merkle proof policy entry := by
  classical
  obtain ⟨counted, satisfied, computed⟩ := ((verify_decides _ _ _ _ _).ok_iff ()).mp accepted
  rw [Policy.checkQuorum_ok parsedPolicy, Except.ok.injEq, decide_eq_true_iff] at satisfied
  obtain ⟨index, root⟩ := computeRootHash_ok computed
  exact
    { text := parse_binds parsedProof
      log := verifyLogKeys_found counted
      quorum := satisfied.mono fun key member => mem_cosigners member
      index
      root }

/-- The quorum of a parsed policy is evaluated without a panic, and nothing else can panic. -/
theorem verify_not_isPanic {policyText : Text} {entry : Bytes}
    (parsedPolicy : Policy.parse schemes policyText = .ok policy) :
    ¬ (proof.verify schemes merkle policy entry).IsPanic := by
  classical
  rw [(verify_decides _ _ _ _ _).panic_iff]
  exact fun panics => panics.2 _ (Policy.checkQuorum_ok parsedPolicy _)

def acceptAll : SignatureSchemes :=
  { mlDsa := false, ed25519FromBytes := fun _ => true, ed25519Verify := fun _ _ _ => true
    mlDsa44Verify := fun _ _ _ => true }

def zeroMerkle : MerkleLibrary :=
  { sha256 := fun _ => Block.zero 32, root := fun _ _ _ leaf _ => some leaf }

def logAndWitness : Text :=
  "log o+01020304+AQAA".toList ++ List.replicate 40 'A'
    ++ "\nwitness w w+01020304+BAAA".toList ++ List.replicate 40 'A' ++ "\nquorum w\n".toList

def cosignedProof : Text :=
  "c2sp.org/tlog-proof@v1\nindex 0\n\no\n1\n".toList ++ List.replicate 43 'A' ++ "=\n\n".toList
    ++ "— o AQIDBAAA".toList ++ List.replicate 83 'A' ++ "=\n".toList
    ++ "— w AQIDBAAA".toList ++ List.replicate 94 'A' ++ "==\n".toList

theorem cosigned_proof_established : ∃ policy proof,
    Policy.parse acceptAll logAndWitness = .ok policy ∧ parse cosignedProof = .ok proof ∧
      Established acceptAll zeroMerkle proof policy [] := by
  have accepted : ((Policy.parse acceptAll logAndWitness).toOption.any fun policy =>
      (parse cosignedProof).toOption.any fun proof =>
        (proof.verify acceptAll zeroMerkle policy []).isOk) = true := by decide +kernel
  obtain ⟨policy, parsedPolicy, accepted⟩ := exists_ok_of_any accepted
  obtain ⟨proof, parsedProof, accepted⟩ := exists_ok_of_any accepted
  refine ⟨policy, proof, parsedPolicy, parsedProof,
    accepted_proof_established parsedPolicy parsedProof ?_⟩
  cases verified : proof.verify acceptAll zeroMerkle policy [] with
  | ok => rfl
  | error fault =>
    rw [verified] at accepted
    cases accepted

end TLogProof

end Oak.C2sp
