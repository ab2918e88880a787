import Oak.C2sp.ProofSoundness

namespace Oak.C2sp

open Oak.Data

/-! Signature lines that do not change the verdict on a log proof.

The loops of `verify` look at the signatures through three things only: whether
those that match a log key are valid, how many they are, and which witnesses
have a valid one. -/

namespace TLogProof

variable {schemes : SignatureSchemes} {merkle : MerkleLibrary} {proof : TLogProof} {policy : Policy}
  {entry : Bytes} {first second : List NoteSignature}

def withSignatures (proof : TLogProof) (signatures : List NoteSignature) : TLogProof :=
  { proof with checkpoint := { proof.checkpoint with signatures } }

def SameVerdict (first second : Outcome TLogProofError Unit) : Prop :=
  (first = .ok () ↔ second = .ok ()) ∧ (first.IsPanic ↔ second.IsPanic)

/-- The key is one of those that `verify` tries on the log's own signature. -/
def IsLogKey (policy : Policy) (checkpoint : Checkpoint) (key : NoteVerifyingKey) : Prop :=
  key ∈ policy.logKeys ∧ key.origin = checkpoint.origin

def IsCosignature (schemes : SignatureSchemes) (policy : Policy) (signedPayload : Text)
    (sig : NoteSignature) : Prop :=
  ∃ key ∈ policy.witnessKeys, signedBy schemes signedPayload key sig = true

/-- No key of the policy has the origin and the key id of the signature. -/
def IsUnknown (policy : Policy) (sig : NoteSignature) : Prop :=
  (∀ key ∈ policy.logKeys, sig.matchesKey key = false) ∧
    ∀ key ∈ policy.witnessKeys, sig.matchesKey key = false

variable {checkpoint : Checkpoint}

/-- Two lists of signatures that the loops over the log keys cannot tell apart. -/
structure SameLog (schemes : SignatureSchemes) (policy : Policy) (checkpoint : Checkpoint)
    (first second : List NoteSignature) : Prop where
  valid : ∀ key, IsLogKey policy checkpoint key →
    ((∀ sig ∈ first, sig.matchesKey key = true →
        key.verify schemes checkpoint.signedPayload sig = .ok ()) ↔
      ∀ sig ∈ second, sig.matchesKey key = true →
        key.verify schemes checkpoint.signedPayload sig = .ok ())
  count : ∀ key, IsLogKey policy checkpoint key →
    first.countP (·.matchesKey key) = second.countP (·.matchesKey key)

theorem SameLog.symm (same : SameLog schemes policy checkpoint first second) :
    SameLog schemes policy checkpoint second first where
  valid key own := (same.valid key own).symm
  count key own := (same.count key own).symm

theorem SameLog.verifyLogKeys {found : Nat}
    (same : SameLog schemes policy checkpoint first second) :
    verifyLogKeys schemes { checkpoint with signatures := first } 0 policy.logKeys = .ok found ↔
      verifyLogKeys schemes { checkpoint with signatures := second } 0 policy.logKeys = .ok found := by
  have counts : ((policy.logKeys.filter (·.origin = checkpoint.origin)).map fun key =>
      first.countP (·.matchesKey key)) =
      (policy.logKeys.filter (·.origin = checkpoint.origin)).map fun key =>
        second.countP (·.matchesKey key) := by
    apply List.map_congr_left
    intro key member
    obtain ⟨member, origin⟩ := List.mem_filter.mp member
    exact same.count key ⟨member, by simpa using origin⟩
  rw [verifyLogKeys_eq_ok, verifyLogKeys_eq_ok, counts]
  apply and_congr_left
  intro _
  constructor
  · intro valid key member origin
    exact (same.valid key ⟨member, origin⟩).mp (valid key member origin)
  · intro valid key member origin
    exact (same.valid key ⟨member, origin⟩).mpr (valid key member origin)

theorem countSatisfied_grows {α : Type} {test better : α → Outcome Empty Bool}
    (grows : ∀ member answer, test member = .ok answer →
      ∃ more, better member = .ok more ∧ (answer = true → more = true))
    {members : List α} {count : Nat} (counted : Policy.countSatisfied test members = .ok count) :
    ∃ more, Policy.countSatisfied better members = .ok more ∧ count ≤ more := by
  induction members generalizing count with
  | nil =>
    cases counted
    exact ⟨0, rfl, Nat.le_refl 0⟩
  | cons member members ih =>
    obtain ⟨answer, tested, counted⟩ := Outcome.bind_eq_ok.mp counted
    obtain ⟨others, rest, counted⟩ := Outcome.bind_eq_ok.mp counted
    cases counted
    obtain ⟨answerMore, testedMore, kept⟩ := grows member answer tested
    obtain ⟨othersMore, restMore, fewer⟩ := ih rest
    refine ⟨_, by rw [Policy.countSatisfied, testedMore, restMore]; rfl, ?_⟩
    cases answer with
    | false =>
      cases answerMore with
      | false => exact fewer
      | true => exact Nat.le_succ_of_le fewer
    | true =>
      rw [kept rfl]
      exact Nat.succ_le_succ fewer

variable {fewer more : List NoteVerifyingKey}

theorem satisfies_grows (subset : fewer ⊆ more) {depth : Nat}
    {quorum : Quorum} {answer : Bool} (evaluated : policy.satisfies fewer depth quorum = .ok answer) :
    ∃ better, policy.satisfies more depth quorum = .ok better ∧ (answer = true → better = true) := by
  induction depth generalizing quorum answer with
  | zero => cases evaluated
  | succ depth ih =>
    cases quorum with
    | witness key =>
      cases evaluated
      refine ⟨more.contains key, rfl, ?_⟩
      intro found
      exact List.contains_iff_mem.mpr (subset (List.contains_iff_mem.mp found))
    | group k members =>
      obtain ⟨count, counted, evaluated⟩ := Outcome.bind_eq_ok.mp evaluated
      cases evaluated
      simp only [Policy.satisfies, Outcome.bind_eq_ok]
      suffices ∃ total, Policy.countSatisfied _ members = .ok total ∧ count ≤ total by
        obtain ⟨total, countedMore, fewer⟩ := this
        refine ⟨decide (k ≤ total), ⟨total, countedMore, rfl⟩, ?_⟩
        intro enough
        exact decide_eq_true ((of_decide_eq_true enough).trans fewer)
      apply countSatisfied_grows ?_ counted
      intro member answer tested
      cases known : policy.quorums.get? member with
      | none =>
        rw [known] at tested
        cases tested
      | some quorum =>
        rw [known] at tested
        exact ih tested

theorem checkQuorum_grows (subset : fewer ⊆ more) {answer : Bool}
    (evaluated : policy.checkQuorum fewer = .ok answer) :
    ∃ better, policy.checkQuorum more = .ok better ∧ (answer = true → better = true) := by
  rw [Policy.checkQuorum] at evaluated ⊢
  cases named : policy.quorum with
  | none => exact ⟨true, rfl, fun _ => rfl⟩
  | some name =>
    rw [named] at evaluated
    dsimp only at evaluated ⊢
    cases known : policy.quorums.get? name with
    | none =>
      rw [known] at evaluated
      cases evaluated
    | some root =>
      rw [known] at evaluated
      exact satisfies_grows subset evaluated

def witnessesOf (schemes : SignatureSchemes) (policy : Policy) (checkpoint : Checkpoint)
    (signatures : List NoteSignature) : List NoteVerifyingKey :=
  verifiedWitnesses schemes { checkpoint with signatures } policy.witnessKeys

section

variable (sameLog : SameLog schemes policy proof.checkpoint first second)

include sameLog

theorem accepted_of_more (more : witnessesOf schemes policy proof.checkpoint first ⊆
      witnessesOf schemes policy proof.checkpoint second)
    (accepted : (proof.withSignatures first).verify schemes merkle policy entry = .ok ()) :
    (proof.withSignatures second).verify schemes merkle policy entry = .ok () := by
  obtain ⟨log, quorum, root⟩ := ((verify_decides _ _ _ _ _).ok_iff ()).mp accepted
  obtain ⟨answer, evaluated, kept⟩ := checkQuorum_grows more quorum
  rw [kept rfl] at evaluated
  exact ((verify_decides _ _ _ _ _).ok_iff ()).mpr ⟨sameLog.verifyLogKeys.mp log, evaluated, root⟩

theorem isPanic_of_fewer (fewer : witnessesOf schemes policy proof.checkpoint second ⊆
      witnessesOf schemes policy proof.checkpoint first)
    (panicked : ((proof.withSignatures first).verify schemes merkle policy entry).IsPanic) :
    ((proof.withSignatures second).verify schemes merkle policy entry).IsPanic := by
  obtain ⟨log, quorum⟩ := (verify_decides _ _ _ _ _).panic_iff.mp panicked
  apply (verify_decides _ _ _ _ _).panic_iff.mpr
  refine ⟨sameLog.verifyLogKeys.mp log, ?_⟩
  intro answer evaluated
  obtain ⟨better, evaluatedFirst, -⟩ := checkQuorum_grows fewer evaluated
  exact quorum better evaluatedFirst

theorem sameVerdict_of_same (same : ∀ key, key ∈ witnessesOf schemes policy proof.checkpoint first ↔
      key ∈ witnessesOf schemes policy proof.checkpoint second) :
    SameVerdict ((proof.withSignatures first).verify schemes merkle policy entry)
      ((proof.withSignatures second).verify schemes merkle policy entry) := by
  have onward : witnessesOf schemes policy proof.checkpoint first ⊆
      witnessesOf schemes policy proof.checkpoint second := fun key => (same key).mp
  have back : witnessesOf schemes policy proof.checkpoint second ⊆
      witnessesOf schemes policy proof.checkpoint first := fun key => (same key).mpr
  constructor
  · exact ⟨accepted_of_more sameLog onward, accepted_of_more sameLog.symm back⟩
  · exact ⟨isPanic_of_fewer sameLog back, isPanic_of_fewer sameLog.symm onward⟩

end

theorem sameLog_of_perm (perm : first.Perm second) :
    SameLog schemes policy proof.checkpoint first second where
  valid key _ := by simp only [perm.mem_iff]
  count key _ := perm.countP_eq _

variable {extra : List NoteSignature}

theorem sameLog_append (apart : ∀ sig ∈ extra, ∀ key, IsLogKey policy proof.checkpoint key →
      sig.matchesKey key = false) :
    SameLog schemes policy proof.checkpoint first (extra ++ first) where
  valid key own := by
    rw [List.forall_mem_append]
    have none : ∀ sig ∈ extra, sig.matchesKey key = true →
        key.verify schemes proof.checkpoint.signedPayload sig = .ok () := by
      intro sig member matching
      rw [apart sig member key own] at matching
      cases matching
    exact ⟨fun valid => ⟨none, valid⟩, fun both => both.2⟩
  count key own := by
    have none : extra.countP (·.matchesKey key) = 0 := by
      rw [List.countP_eq_zero]
      intro sig member
      rw [apart sig member key own]
      exact Bool.false_ne_true
    rw [List.countP_append, none, Nat.zero_add]

theorem mem_witnessesOf_append {key : NoteVerifyingKey} :
    key ∈ witnessesOf schemes policy proof.checkpoint (extra ++ first) ↔
      key ∈ witnessesOf schemes policy proof.checkpoint extra ∨
        key ∈ witnessesOf schemes policy proof.checkpoint first := by
  simp [witnessesOf, verifiedWitnesses]

theorem mem_witnessesOf_perm (perm : first.Perm second) {key : NoteVerifyingKey} :
    key ∈ witnessesOf schemes policy proof.checkpoint first ↔
      key ∈ witnessesOf schemes policy proof.checkpoint second := by
  simp only [witnessesOf, verifiedWitnesses, (perm.filterMap _).mem_iff]

theorem sameVerdict_of_perm (perm : first.Perm second) :
    SameVerdict ((proof.withSignatures first).verify schemes merkle policy entry)
      ((proof.withSignatures second).verify schemes merkle policy entry) :=
  sameVerdict_of_same (sameLog_of_perm perm) fun _ => mem_witnessesOf_perm perm

theorem SameVerdict.trans {first second third : Outcome TLogProofError Unit}
    (onward : SameVerdict first second) (further : SameVerdict second third) :
    SameVerdict first third :=
  ⟨onward.1.trans further.1, onward.2.trans further.2⟩

theorem sameVerdict_of_unknown (unknown : ∀ sig ∈ extra, IsUnknown policy sig) :
    SameVerdict ((proof.withSignatures first).verify schemes merkle policy entry)
      ((proof.withSignatures (extra ++ first)).verify schemes merkle policy entry) := by
  apply sameVerdict_of_same
  · exact sameLog_append fun sig member key own => (unknown sig member).1 key own.1
  · intro key
    rw [mem_witnessesOf_append]
    have none : key ∉ witnessesOf schemes policy proof.checkpoint extra := by
      intro counted
      obtain ⟨sig, member, found⟩ := List.mem_filterMap.mp counted
      have signed := List.find?_some found
      rw [signedBy, (unknown sig member).2 key (List.mem_of_find?_eq_some found)] at signed
      cases signed
    exact (or_iff_right none).symm

theorem sameVerdict_of_repeated {sig : NoteSignature} (member : sig ∈ first)
    (apart : ∀ key, IsLogKey policy proof.checkpoint key → sig.matchesKey key = false) :
    SameVerdict ((proof.withSignatures first).verify schemes merkle policy entry)
      ((proof.withSignatures (sig :: first)).verify schemes merkle policy entry) := by
  apply sameVerdict_of_same
  · exact sameLog_append fun other found key own => List.mem_singleton.mp found ▸ apart key own
  · intro key
    have repeated : key ∈ witnessesOf schemes policy proof.checkpoint [sig] →
        key ∈ witnessesOf schemes policy proof.checkpoint first := by
      intro counted
      obtain ⟨other, found, signed⟩ := List.mem_filterMap.mp counted
      rw [List.mem_singleton.mp found] at signed
      exact List.mem_filterMap.mpr ⟨sig, member, signed⟩
    rw [← List.singleton_append, mem_witnessesOf_append]
    exact (or_iff_right_of_imp repeated).symm

/-- Signatures that are rearranged, that are by keys the policy does not have, or that are repeated
do not change the verdict, and one more cosignature only helps.  For the last two the signature must
not match a log key too, of which there has to be exactly one signature. -/
theorem extra_signatures_harmless (schemes : SignatureSchemes) (merkle : MerkleLibrary)
    (policy : Policy) (proof : TLogProof) (entry : Bytes) (more : List NoteSignature) :
    (more.Perm proof.checkpoint.signatures → SameVerdict (proof.verify schemes merkle policy entry)
        ((proof.withSignatures more).verify schemes merkle policy entry)) ∧
    (∀ extra, (∀ sig ∈ extra, IsUnknown policy sig) →
      more.Perm (extra ++ proof.checkpoint.signatures) →
      SameVerdict (proof.verify schemes merkle policy entry)
        ((proof.withSignatures more).verify schemes merkle policy entry)) ∧
    (∀ sig ∈ proof.checkpoint.signatures,
      (∀ key, IsLogKey policy proof.checkpoint key → sig.matchesKey key = false) →
      more.Perm (sig :: proof.checkpoint.signatures) →
      SameVerdict (proof.verify schemes merkle policy entry)
        ((proof.withSignatures more).verify schemes merkle policy entry)) ∧
    (∀ sig, IsCosignature schemes policy proof.checkpoint.signedPayload sig →
      (∀ key, IsLogKey policy proof.checkpoint key → sig.matchesKey key = false) →
      more.Perm (sig :: proof.checkpoint.signatures) →
      proof.verify schemes merkle policy entry = .ok () →
      (proof.withSignatures more).verify schemes merkle policy entry = .ok ()) := by
  refine ⟨?_, ?_, ?_, ?_⟩
  · intro perm
    exact sameVerdict_of_perm perm.symm
  · intro extra unknown perm
    exact (sameVerdict_of_unknown unknown).trans (sameVerdict_of_perm perm.symm)
  · intro sig member apart perm
    exact (sameVerdict_of_repeated member apart).trans (sameVerdict_of_perm perm.symm)
  · intro sig _ apart perm accepted
    have appended : (proof.withSignatures (sig :: proof.checkpoint.signatures)).verify schemes merkle
        policy entry = .ok () := by
      apply accepted_of_more (sameLog_append fun other found key own =>
        List.mem_singleton.mp found ▸ apart key own) _ accepted
      intro key counted
      rw [mem_witnessesOf_append]
      exact .inr counted
    exact (sameVerdict_of_perm perm.symm).1.mp appended

def sharedHintPolicy : Text :=
  "log o+01020304+AQAA".toList ++ List.replicate 40 'A'
    ++ "\nwitness w o+01020304+BAAA".toList ++ List.replicate 40 'A' ++ "\nquorum none\n".toList

def signedProof : Text :=
  "c2sp.org/tlog-proof@v1\nindex 0\n\no\n1\n".toList ++ List.replicate 43 'A' ++ "=\n\n".toList
    ++ "— o AQIDBAAA".toList ++ List.replicate 83 'A' ++ "=\n".toList

def cosignatureLine : Text := "— o AQIDBAAA".toList ++ List.replicate 94 'A' ++ "==\n".toList

def cosignature : NoteSignature := ⟨['o'], ⟨[1, 2, 3, 4], rfl⟩, List.replicate 72 0⟩

def acceptMlDsa : SignatureSchemes := { acceptAll with mlDsa := true }

def mlDsaKey : NoteVerifyingKey := ⟨['o'], Block.zero 4, .mlDsa44SubtreeV1 (Block.zero 1312)⟩

def sharedKeyPolicy : Policy :=
  { logKeys := [mlDsaKey], quorums := BTreeMap.empty.insert ['w'] (.witness mlDsaKey)
    quorum := some ['w'] }

def mlDsaSignature : NoteSignature := ⟨['o'], Block.zero 4, List.replicate 2428 0⟩

def mlDsaProof : TLogProof :=
  { index := 0, proofHashes := []
    checkpoint :=
      { origin := ['o'], treeSize := 1, rootHash := Block.zero 32, signatures := [mlDsaSignature]
        signedPayload := "o\n1\n".toList ++ List.replicate 43 'A' ++ "=\n".toList } }

/-- A valid cosignature added to an accepted proof, and a signature line written twice. -/
theorem added_signatures_refused :
    (∃ policy proof longer, Policy.parse acceptAll sharedHintPolicy = .ok policy ∧
      parse signedProof = .ok proof ∧ parse (signedProof ++ cosignatureLine) = .ok longer ∧
      longer = proof.withSignatures (proof.checkpoint.signatures ++ [cosignature]) ∧
      IsCosignature acceptAll policy proof.checkpoint.signedPayload cosignature ∧
      proof.verify acceptAll zeroMerkle policy [] = .ok () ∧
      longer.verify acceptAll zeroMerkle policy [] = .err (.note .malformedSignature)) ∧
    mlDsaProof.verify acceptMlDsa zeroMerkle sharedKeyPolicy [] = .ok () ∧
      (mlDsaProof.withSignatures [mlDsaSignature, mlDsaSignature]).verify acceptMlDsa zeroMerkle
        sharedKeyPolicy [] = .err .signatureMismatch := by
  refine ⟨?_, by decide +kernel, by decide +kernel⟩
  have evaluated : ((Policy.parse acceptAll sharedHintPolicy).toOption.any fun policy =>
      (parse signedProof).toOption.any fun proof =>
        (parse (signedProof ++ cosignatureLine)).toOption.any fun longer =>
          decide (longer = proof.withSignatures (proof.checkpoint.signatures ++ [cosignature]) ∧
            (∃ key ∈ policy.witnessKeys,
              signedBy acceptAll proof.checkpoint.signedPayload key cosignature = true) ∧
            proof.verify acceptAll zeroMerkle policy [] = .ok () ∧
            longer.verify acceptAll zeroMerkle policy [] = .err (.note .malformedSignature))) = true := by
    decide +kernel
  obtain ⟨policy, parsedPolicy, evaluated⟩ := exists_ok_of_any evaluated
  obtain ⟨proof, parsedProof, evaluated⟩ := exists_ok_of_any evaluated
  obtain ⟨longer, parsedLonger, evaluated⟩ := exists_ok_of_any evaluated
  obtain ⟨same, valid, accepted, refused⟩ := of_decide_eq_true evaluated
  exact ⟨policy, proof, longer, parsedPolicy, parsedProof, parsedLonger, same, valid, accepted, refused⟩

theorem reversed_proof_accepted : ∃ policy proof,
    Policy.parse acceptAll logAndWitness = .ok policy ∧ parse cosignedProof = .ok proof ∧
      proof.checkpoint.signatures.length = 2 ∧
      (proof.withSignatures proof.checkpoint.signatures.reverse).verify acceptAll zeroMerkle policy []
        = .ok () := by
  have accepted : ((Policy.parse acceptAll logAndWitness).toOption.any fun policy =>
      (parse cosignedProof).toOption.any fun proof =>
        decide (proof.verify acceptAll zeroMerkle policy [] = .ok () ∧
          proof.checkpoint.signatures.length = 2)) = true := by decide +kernel
  obtain ⟨policy, parsedPolicy, accepted⟩ := exists_ok_of_any accepted
  obtain ⟨proof, parsedProof, accepted⟩ := exists_ok_of_any accepted
  obtain ⟨accepted, two⟩ := of_decide_eq_true accepted
  have same := (extra_signatures_harmless acceptAll zeroMerkle policy proof [] _).1
    (List.reverse_perm proof.checkpoint.signatures)
  exact ⟨policy, proof, parsedPolicy, parsedProof, two, same.1.mp accepted⟩

end TLogProof

end Oak.C2sp
