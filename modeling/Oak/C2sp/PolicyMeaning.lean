import Oak.C2sp.Policy

namespace Oak.C2sp

open Oak.Data Oak.Data.Text

/-! What a policy text means, and that the parsed policy means the same.

The text is read rule by rule, as a list of token lines; `reading` is what one
line defines.  The parser goes through the same lines with more checks, and
`Builder.Follows` is what holds between the lines read so far and its variables. -/

namespace Policy

variable {schemes : SignatureSchemes}

/-- The token lines of a text, without empty lines and comments. -/
def rules (data : Text) : List (List Text) :=
  (((lines data).map trim).filter
    fun line => decide ¬ (line = [] ∨ line.head? = some '#')).map splitAsciiWhitespace

def declaredName : List Text → Option QuorumName
  | keyword :: name :: _ =>
    if keyword = "witness".toList ∨ keyword = "group".toList then some name else none
  | _ => none

/-- How many of `count` members a threshold asks for. -/
def wanted (threshold : Text) (count : Nat) : Option Nat :=
  if threshold = "any".toList then some 1
  else if threshold = "all".toList then some count
  else parseUnsigned (2 ^ 64) threshold

/-- The quorum a line defines: the key of a witness, or the members of a group. -/
def reading (schemes : SignatureSchemes) : List Text → Option (QuorumName × Quorum)
  | keyword :: name :: third :: more =>
    if keyword = "witness".toList then
      (NoteVerifyingKey.parse schemes third).toOption.map fun vkey => (name, .witness vkey)
    else if keyword = "group".toList then
      (wanted third more.length).map fun k => (name, .group k more)
    else none
  | _ => none

def definitions (schemes : SignatureSchemes) (data : Text) : List (QuorumName × Quorum) :=
  (rules data).filterMap (reading schemes)

def quorumOf (schemes : SignatureSchemes) (data : Text) (name : QuorumName) : Option Quorum :=
  (definitions schemes data).lookup name

def witnessKey : QuorumName × Quorum → Option VerifyingKey
  | (_, .witness vkey) => some vkey.verifyingKey
  | (_, .group _ _) => none

/-- The keys satisfy the `quorum` line of the text, read recursively. -/
def QuorumHolds (schemes : SignatureSchemes) (data : Text) (keys : Set NoteVerifyingKey) : Prop :=
  ∃ name, ["quorum".toList, name] ∈ rules data ∧
    (name = "none".toList ∨ Threshold.Satisfied (quorumOf schemes data) keys name)

/-- Every member of a group is declared on an earlier line. -/
def MembersDeclared (lines : List (List Text)) : Prop :=
  ∀ before name threshold members after,
    lines = before ++ ("group".toList :: name :: threshold :: members) :: after →
      ∀ member ∈ members, member ∈ before.filterMap declaredName

def ThresholdsInRange (lines : List (List Text)) : Prop :=
  ∀ name threshold members, "group".toList :: name :: threshold :: members ∈ lines →
    ∃ k, wanted threshold members.length = some k ∧ 1 ≤ k ∧ k ≤ members.length

structure WellFormed (schemes : SignatureSchemes) (data : Text) : Prop where
  names : ((rules data).filterMap declaredName).Nodup
  keys : ((definitions schemes data).filterMap witnessKey).Nodup
  members : MembersDeclared (rules data)
  thresholds : ThresholdsInRange (rules data)

/-- The members of a group stand before it in the list of definitions. -/
def Ordered (defined : List (QuorumName × Quorum)) : Prop :=
  ∀ (index : Nat) name k members, defined[index]? = some (name, .group k members) →
    ∀ member ∈ members, ∃ earlier < index, ∃ quorum, defined[earlier]? = some (member, quorum)

/-- The `quorum` line, once there is one. -/
structure RootFollows (lines : List (List Text)) (state : Builder) : Prop where
  unset : state.quorumSet = false →
    state.rootQuorum = none ∧ ∀ name, ["quorum".toList, name] ∉ lines
  set : state.quorumSet = true → ∃ name, ["quorum".toList, name] ∈ lines ∧
    (∀ other, ["quorum".toList, other] ∈ lines → other = name) ∧
    ((name = "none".toList ∧ state.rootQuorum = none) ∨
      (name ≠ "none".toList ∧ state.rootQuorum = some name ∧ state.quorums.containsKey name))

structure Follows (schemes : SignatureSchemes) (lines : List (List Text)) (state : Builder) :
    Prop where
  entries : state.quorums.entries.Perm (lines.filterMap (reading schemes))
  declared : lines.filterMap declaredName = (lines.filterMap (reading schemes)).map Prod.fst
  keys : ((lines.filterMap (reading schemes)).filterMap witnessKey).Nodup
  ordered : Ordered (lines.filterMap (reading schemes))
  members : MembersDeclared lines
  thresholds : ThresholdsInRange lines
  root : RootFollows lines state

theorem follows_start : Follows schemes [] .start where
  entries := .refl _
  declared := rfl
  keys := List.nodup_nil
  ordered := by
    intro index name k members there
    simp at there
  members := by
    intro before name threshold members after split
    simp at split
  thresholds := by
    intro name threshold members member
    cases member
  root := ⟨fun _ => ⟨rfl, fun name => by simp⟩, fun set => by cases set⟩

variable {lines : List (List Text)} {state next : Builder} {rule : List Text}

variable {name : QuorumName} {quorum : Quorum}

theorem Follows.get? (follows : Follows schemes lines state) :
    state.quorums.get? name = some quorum ↔ (name, quorum) ∈ lines.filterMap (reading schemes) := by
  rw [BTreeMap.get?_eq_some_iff, follows.entries.mem_iff]

theorem Follows.names_nodup (follows : Follows schemes lines state) :
    ((lines.filterMap (reading schemes)).map Prod.fst).Nodup :=
  ((follows.entries.map Prod.fst).nodup_iff).mp state.quorums.keys_nodup

theorem Follows.containsKey (follows : Follows schemes lines state) :
    state.quorums.containsKey name = true ↔ name ∈ lines.filterMap declaredName := by
  rw [follows.declared, BTreeMap.containsKey, Option.isSome_iff_exists, List.mem_map]
  constructor
  · rintro ⟨quorum, found⟩
    exact ⟨(name, quorum), follows.get?.mp found, rfl⟩
  · rintro ⟨⟨other, quorum⟩, member, rfl⟩
    exact ⟨quorum, follows.get?.mpr member⟩

theorem membersDeclared_concat (declared : MembersDeclared lines)
    (fresh : ∀ name threshold members, rule = "group".toList :: name :: threshold :: members →
      ∀ member ∈ members, member ∈ lines.filterMap declaredName) :
    MembersDeclared (lines ++ [rule]) := by
  intro before name threshold members after split
  rcases List.eq_nil_or_concat after with rfl | ⟨inner, last, rfl⟩
  · obtain ⟨rfl, same⟩ := List.append_inj' split rfl
    exact fresh name threshold members (by simpa using same)
  · rw [List.concat_eq_append, ← List.cons_append, ← List.append_assoc] at split
    obtain ⟨same, -⟩ := List.append_inj' split rfl
    exact declared before name threshold members inner same

theorem thresholdsInRange_concat (inRange : ThresholdsInRange lines)
    (fresh : ∀ name threshold members, rule = "group".toList :: name :: threshold :: members →
      ∃ k, wanted threshold members.length = some k ∧ 1 ≤ k ∧ k ≤ members.length) :
    ThresholdsInRange (lines ++ [rule]) := by
  intro name threshold members member
  rcases List.mem_append.mp member with old | new
  · exact inRange name threshold members old
  · exact fresh name threshold members (List.mem_singleton.mp new).symm

theorem rootFollows_concat (root : RootFollows lines state)
    (other : ∀ name, rule ≠ ["quorum".toList, name]) (set : next.quorumSet = state.quorumSet)
    (same : next.rootQuorum = state.rootQuorum)
    (kept : ∀ name, state.quorums.containsKey name → next.quorums.containsKey name) :
    RootFollows (lines ++ [rule]) next := by
  have only : ∀ name, ["quorum".toList, name] ∈ lines ++ [rule] ↔ ["quorum".toList, name] ∈ lines := by
    intro name
    rw [List.mem_append, List.mem_singleton, or_iff_left]
    exact fun here => other name here.symm
  constructor
  · intro unset
    obtain ⟨none, absent⟩ := root.unset (set ▸ unset)
    refine ⟨same.trans none, fun name => ?_⟩
    rw [only]
    exact absent name
  · intro isSet
    obtain ⟨name, there, unique, meaning⟩ := root.set (set ▸ isSet)
    refine ⟨name, (only name).mpr there, fun another member => unique another ((only another).mp member), ?_⟩
    rw [same]
    exact meaning.imp id fun ⟨named, points, present⟩ => ⟨named, points, kept name present⟩

theorem Follows.pass (follows : Follows schemes lines state)
    (undefined : reading schemes rule = none) (undeclared : declaredName rule = none)
    (same : next.quorums = state.quorums) (root : RootFollows (lines ++ [rule]) next) :
    Follows schemes (lines ++ [rule]) next := by
  have notGroup : ∀ name threshold members,
      rule ≠ "group".toList :: name :: threshold :: members := by
    rintro name threshold members rfl
    simp [declaredName] at undeclared
  have defined : (lines ++ [rule]).filterMap (reading schemes) = lines.filterMap (reading schemes) := by
    simp [undefined]
  have names : (lines ++ [rule]).filterMap declaredName = lines.filterMap declaredName := by
    simp [undeclared]
  exact
    { entries := by
        rw [defined, same]
        exact follows.entries
      declared := by
        rw [defined, names]
        exact follows.declared
      keys := by
        rw [defined]
        exact follows.keys
      ordered := by
        rw [defined]
        exact follows.ordered
      members := membersDeclared_concat follows.members fun name threshold members equal =>
        absurd equal (notGroup name threshold members)
      thresholds := thresholdsInRange_concat follows.thresholds fun name threshold members equal =>
        absurd equal (notGroup name threshold members)
      root }

theorem ordered_concat {defined : List (QuorumName × Quorum)} (ordered : Ordered defined)
    (fresh : ∀ k members, quorum = .group k members →
      ∀ member ∈ members, ∃ other, (member, other) ∈ defined) :
    Ordered (defined ++ [(name, quorum)]) := by
  intro index found k members there member inside
  rcases Nat.lt_trichotomy index defined.length with old | last | beyond
  · rw [List.getElem?_append_left old] at there
    obtain ⟨earlier, before, other, held⟩ := ordered index found k members there member inside
    exact ⟨earlier, before, other, by rwa [List.getElem?_append_left (by omega)]⟩
  · subst last
    rw [List.getElem?_concat_length] at there
    cases there
    obtain ⟨other, held⟩ := fresh k members rfl member inside
    obtain ⟨earlier, bound, here⟩ := List.getElem_of_mem held
    refine ⟨earlier, bound, other, ?_⟩
    rw [List.getElem?_append_left bound, List.getElem?_eq_getElem bound, here]
  · rw [List.getElem?_eq_none (by simp; omega)] at there
    cases there

theorem Follows.define (follows : Follows schemes lines state)
    (defines : reading schemes rule = some (name, quorum))
    (declares : declaredName rule = some name) (absent : ¬ state.quorums.containsKey name)
    (newKey : ∀ vkey, quorum = .witness vkey → ¬ state.quorums.values.any (isWitnessWith vkey))
    (newGroup : ∀ k members, quorum = .group k members →
      ∀ member ∈ members, state.quorums.containsKey member) (inRange : ∀ found threshold members,
      rule = "group".toList :: found :: threshold :: members →
        ∃ k, wanted threshold members.length = some k ∧ 1 ≤ k ∧ k ≤ members.length)
    (sameMembers : ∀ found threshold members,
      rule = "group".toList :: found :: threshold :: members → ∃ k, quorum = .group k members)
    (stored : next.quorums = state.quorums.insert name quorum)
    (set : next.quorumSet = state.quorumSet) (root : next.rootQuorum = state.rootQuorum) :
    Follows schemes (lines ++ [rule]) next := by
  have missing : state.quorums.get? name = none := by
    simpa [BTreeMap.containsKey] using absent
  have defined : (lines ++ [rule]).filterMap (reading schemes)
      = lines.filterMap (reading schemes) ++ [(name, quorum)] := by
    simp [defines]
  have grown : next.quorums.entries.Perm ((name, quorum) :: state.quorums.entries) := by
    rw [stored]
    exact BTreeMap.insert_entries_perm missing quorum
  have kept : ∀ other, state.quorums.containsKey other → next.quorums.containsKey other := by
    intro other present
    rw [BTreeMap.containsKey, Option.isSome_iff_exists] at present ⊢
    obtain ⟨held, found⟩ := present
    refine ⟨held, BTreeMap.get?_eq_some_iff.mpr ?_⟩
    rw [grown.mem_iff]
    exact List.mem_cons_of_mem _ (BTreeMap.get?_eq_some_iff.mp found)
  exact
    { entries := by
        rw [defined]
        exact grown.trans ((follows.entries.cons _).trans (List.perm_append_singleton _ _).symm)
      declared := by
        rw [defined, List.filterMap_append, follows.declared]
        simp [declares]
      keys := by
        rw [defined, List.filterMap_append]
        cases quorum with
        | group k members =>
          simp only [List.filterMap_cons, witnessKey, List.filterMap_nil, List.append_nil]
          exact follows.keys
        | witness vkey =>
          rw [List.nodup_append]
          refine ⟨follows.keys, List.nodup_singleton _, ?_⟩
          rintro key present _ (last : _ ∈ [_]) rfl
          rw [List.mem_singleton] at last
          apply newKey vkey rfl
          rw [List.any_eq_true]
          obtain ⟨⟨other, existing⟩, member, same⟩ := List.mem_filterMap.mp present
          refine ⟨existing, List.mem_map_of_mem (follows.entries.mem_iff.mpr member), ?_⟩
          cases existing with
          | group => simp [witnessKey] at same
          | witness existingKey =>
            simp only [witnessKey, Option.some.injEq] at same
            simp [isWitnessWith, same, last]
      ordered := by
        rw [defined]
        refine ordered_concat follows.ordered fun k members group member inside => ?_
        have present := newGroup k members group member inside
        rw [BTreeMap.containsKey, Option.isSome_iff_exists] at present
        obtain ⟨other, found⟩ := present
        exact ⟨other, follows.get?.mp found⟩
      members := membersDeclared_concat follows.members fun found threshold members equal => by
        obtain ⟨k, group⟩ := sameMembers found threshold members equal
        exact fun member inside =>
          follows.containsKey.mp (newGroup k members group member inside)
      thresholds := thresholdsInRange_concat follows.thresholds inRange
      root := by
        refine rootFollows_concat follows.root ?_ set root kept
        rintro other rfl
        simp [declaredName] at declares }

theorem parseThreshold_ok {threshold : Text} {count k : Nat} (nonempty : 1 ≤ count)
    (parsed : parseThreshold threshold count = .ok k) :
    wanted threshold count = some k ∧ 1 ≤ k ∧ k ≤ count := by
  rw [parseThreshold] at parsed
  rw [wanted]
  split at parsed
  · next any =>
      cases parsed
      exact ⟨if_pos any, Nat.le_refl _, nonempty⟩
  rw [if_neg (by assumption)]
  split at parsed
  · next all =>
      cases parsed
      exact ⟨if_pos all, nonempty, Nat.le_refl _⟩
  rw [if_neg (by assumption)]
  split at parsed
  · cases parsed
  · next number found =>
      split at parsed
      · next inRange =>
          cases parsed
          exact ⟨found, inRange⟩
      · cases parsed

theorem checkMembers_ok {quorums : BTreeMap QuorumName Quorum} {seen members : List QuorumName}
    (checked : checkMembers quorums seen members = .ok ()) :
    ∀ member ∈ members, quorums.containsKey member := by
  induction members generalizing seen with
  | nil => simp
  | cons first members ih =>
    rw [checkMembers] at checked
    split at checked
    · cases checked
    split at checked
    · cases checked
    · next present =>
        intro member inside
        rcases List.mem_cons.mp inside with rfl | later
        · simpa using present
        · exact ih checked member later

variable {arguments : List Text} {data : Text}

section

variable (follows : Follows schemes lines state)

include follows

theorem logRule_follows (parsed : logRule schemes state arguments = .ok next) :
    Follows schemes (lines ++ ["log".toList :: arguments]) next := by
  have same : next.quorums = state.quorums ∧ next.quorumSet = state.quorumSet ∧
      next.rootQuorum = state.rootQuorum := by
    rw [logRule.eq_def] at parsed
    split at parsed
    · cases parsed
    split at parsed
    · cases parsed
    split at parsed
    · cases parsed
    split at parsed
    · cases parsed
    split at parsed
    · cases parsed
    · cases parsed
      exact ⟨rfl, rfl, rfl⟩
  obtain ⟨quorums, set, root⟩ := same
  refine follows.pass ?_ ?_ quorums (rootFollows_concat follows.root ?_ set root ?_)
  · rcases arguments with _ | ⟨first, _ | ⟨second, more⟩⟩ <;> simp [reading]
  · cases arguments <;> simp [declaredName]
  · intro name
    simp
  · rw [quorums]
    exact fun _ present => present

theorem witnessRule_follows (parsed : witnessRule schemes state arguments = .ok next) :
    Follows schemes (lines ++ ["witness".toList :: arguments]) next := by
  rw [witnessRule.eq_def] at parsed
  split at parsed
  · next name vkeyStr optional =>
      split at parsed
      · cases parsed
      split at parsed
      · cases parsed
      split at parsed
      · cases parsed
      next vkey key =>
      split at parsed
      · cases parsed
      split at parsed
      · cases parsed
      next absent =>
      split at parsed
      · cases parsed
      next newKey =>
      cases parsed
      refine follows.define ?_ ?_ absent ?_ ?_ ?_ ?_ rfl rfl rfl
      · simp [reading, key, Except.toOption]
      · simp [declaredName]
      · intro other equal
        cases equal
        exact newKey
      · intro k members equal
        cases equal
      · intro found threshold members equal
        simp at equal
      · intro found threshold members equal
        simp at equal
  · cases parsed

theorem groupRule_follows (parsed : groupRule state arguments = .ok next) :
    Follows schemes (lines ++ ["group".toList :: arguments]) next := by
  rw [groupRule.eq_def] at parsed
  split at parsed
  · next name kStr first others =>
      split at parsed
      · cases parsed
      simp only [bind, Except.bind] at parsed
      split at parsed
      · cases parsed
      next k threshold =>
      split at parsed
      · cases parsed
      next absent =>
      split at parsed
      · cases parsed
      next checked =>
      cases parsed
      obtain ⟨asked, least, most⟩ := parseThreshold_ok (by simp) threshold
      refine follows.define ?_ ?_ absent ?_ ?_ ?_ ?_ rfl rfl rfl
      · simpa [reading] using asked
      · simp [declaredName]
      · intro vkey equal
        cases equal
      · intro count members equal
        cases equal
        exact checkMembers_ok checked
      · intro found text members equal
        obtain ⟨-, rfl, rfl⟩ := equal
        exact ⟨k, asked, least, most⟩
      · intro found text members equal
        obtain ⟨-, -, rfl⟩ := equal
        exact ⟨k, rfl⟩
  · cases parsed

theorem quorumRule_follows (parsed : quorumRule state arguments = .ok next) :
    Follows schemes (lines ++ ["quorum".toList :: arguments]) next := by
  rw [quorumRule.eq_def] at parsed
  split at parsed
  · next name =>
      split at parsed
      · cases parsed
      next unset =>
      obtain ⟨rootless, first⟩ := follows.root.unset (by simpa using unset)
      have unique : ∀ other, ["quorum".toList, other] ∈ lines ++ [["quorum".toList, name]] →
          other = name := by
        intro other member
        rcases List.mem_append.mp member with old | new
        · exact absurd old (first other)
        · simpa using new
      have listed : ["quorum".toList, name] ∈ lines ++ [["quorum".toList, name]] := by simp
      split at parsed
      · next none =>
          cases parsed
          refine follows.pass (by simp [reading]) (by simp [declaredName]) rfl ⟨?_, fun _ => ?_⟩
          · intro isUnset
            cases isUnset
          · exact ⟨name, listed, unique, .inl ⟨none, rootless⟩⟩
      · next named =>
          split at parsed
          · cases parsed
          next present =>
          cases parsed
          refine follows.pass (by simp [reading]) (by simp [declaredName]) rfl ⟨?_, fun _ => ?_⟩
          · intro isUnset
            cases isUnset
          · exact ⟨name, listed, unique, .inr ⟨named, rfl, by simpa using present⟩⟩
  · cases parsed

theorem parseRule_follows {keyword : Text}
    (parsed : parseRule schemes state keyword arguments = .ok next) :
    Follows schemes (lines ++ [keyword :: arguments]) next := by
  rw [parseRule] at parsed
  split at parsed
  · next same =>
      rw [same]
      exact logRule_follows follows parsed
  split at parsed
  · next same =>
      rw [same]
      exact witnessRule_follows follows parsed
  split at parsed
  · next same =>
      rw [same]
      exact groupRule_follows follows parsed
  split at parsed
  · next same =>
      rw [same]
      exact quorumRule_follows follows parsed
  · cases parsed

theorem parseLines_follows {content : List Text} {lineno : Nat}
    (parsed : parseLines schemes state lineno content = .ok next) :
    Follows schemes (lines ++ ((content.map trim).filter
      fun line => decide ¬ (line = [] ∨ line.head? = some '#')).map splitAsciiWhitespace)
      next := by
  induction content generalizing lines state lineno with
  | nil =>
    cases parsed
    simpa using follows
  | cons raw rest ih =>
    simp only [parseLines] at parsed
    split at parsed
    · next skipped =>
        rw [List.map_cons, List.filter_cons_of_neg (by simp only [skipped]; decide)]
        exact ih follows parsed
    next kept =>
    rw [List.map_cons, List.filter_cons_of_pos (by simpa using kept), List.map_cons]
    split at parsed
    · cases parsed
    next keyword arguments tokens =>
    split at parsed
    · cases parsed
    next stepped =>
    rw [tokens]
    have later := ih (parseRule_follows follows stepped) parsed
    rwa [List.append_assoc] at later

end

theorem parse_follows {policy : Policy} (parsed : parse schemes data = .ok policy) :
    ∃ state, Follows schemes (rules data) state ∧ state.quorumSet = true ∧
      policy = { logKeys := state.logKeys, quorums := state.quorums, quorum := state.rootQuorum } := by
  rw [parse, Outcome.bind_eq_ok] at parsed
  obtain ⟨state, built, finished⟩ := parsed
  have follows := parseLines_follows follows_start built
  split at finished
  · next set =>
      cases finished
      exact ⟨state, follows, set, rfl⟩
  · cases finished

section Evaluation

variable {defined : List (QuorumName × Quorum)} {policy : Policy}
  {verified others : List NoteVerifyingKey}

theorem countSatisfied_ok {α : Type} {test : α → Outcome Empty Bool} {answer : α → Bool}
    {members : List α} (answers : ∀ member ∈ members, test member = .ok (answer member)) :
    countSatisfied test members = .ok (members.countP answer) := by
  induction members with
  | nil => rfl
  | cons member members ih =>
    have later := ih fun other inside => answers other (List.mem_cons_of_mem _ inside)
    simp only [countSatisfied, answers member List.mem_cons_self, later, bind, Except.bind,
      List.countP_cons]
    split <;> rfl

open Classical in
theorem satisfies_ok (ordered : Ordered defined)
    (stored : ∀ name quorum, policy.quorums.get? name = some quorum ↔ (name, quorum) ∈ defined)
    {index depth : Nat} {name : QuorumName} {quorum : Quorum}
    (there : defined[index]? = some (name, quorum)) (enough : index < depth) :
    policy.satisfies verified depth quorum = .ok (decide
      (Threshold.Satisfied policy.quorums.get? {key | key ∈ verified} name)) := by
  induction index using Nat.strongRecOn generalizing depth name quorum with
  | ind index ih =>
    have held : policy.quorums.get? name = some quorum :=
      (stored name quorum).mpr (List.mem_of_getElem? there)
    obtain ⟨depth, rfl⟩ := Nat.exists_eq_succ_of_ne_zero (Nat.ne_of_gt (Nat.zero_lt_of_lt enough))
    cases quorum with
    | witness key =>
      rw [satisfies]
      congr 1
      rw [Bool.eq_iff_iff, decide_eq_true_iff, Threshold.satisfied_witness_iff held]
      simp
    | group k members =>
      rw [satisfies, Outcome.bind_eq_ok]
      refine ⟨members.countP fun member => decide
        (Threshold.Satisfied policy.quorums.get? {key | key ∈ verified} member),
        countSatisfied_ok fun member inside => ?_, ?_⟩
      · obtain ⟨earlier, before, other, found⟩ :=
          ordered index name k members there member inside
        have present : policy.quorums.get? member = some other :=
          (stored member other).mpr (List.mem_of_getElem? found)
        rw [present]
        exact ih earlier before found (by omega)
      · simp only [pure, Except.pure]
        congr 1
        rw [Bool.eq_iff_iff, decide_eq_true_iff, decide_eq_true_iff]
        exact (Threshold.satisfied_group_iff held fun member _ => decide_eq_true_iff).symm

def Satisfied (policy : Policy) (keys : Set NoteVerifyingKey) : Prop :=
  match policy.quorum with
  | none => True
  | some name => Threshold.Satisfied policy.quorums.get? keys name

theorem Satisfied.mono {keys more : Set NoteVerifyingKey} (satisfied : policy.Satisfied keys)
    (subset : keys ⊆ more) : policy.Satisfied more := by
  rw [Satisfied.eq_def] at satisfied ⊢
  split
  · trivial
  · next name root =>
      rw [root] at satisfied
      exact Threshold.Satisfied.mono satisfied subset

theorem parseLines_not_isPanic (content : List Text) (state : Builder) (lineno : Nat) :
    ¬ (parseLines schemes state lineno content).IsPanic := by
  induction content generalizing state lineno with
  | nil => simp [parseLines]
  | cons raw rest ih =>
    rw [parseLines]
    split
    · exact ih _ _
    next filled =>
    split
    · next none =>
        rw [not_or] at filled
        exact absurd none (splitAsciiWhitespace_trim_ne_nil filled.1)
    split
    · simp
    · exact ih _ _

theorem parse_not_isPanic (data : Text) : ¬ (parse schemes data).IsPanic := by
  have clean : ¬ (parseLines schemes .start 0 (lines data)).IsPanic :=
    parseLines_not_isPanic _ _ _
  rw [parse]
  cases read : parseLines schemes .start 0 (lines data) with
  | error fault =>
    rw [read] at clean
    cases fault with
    | error reason => exact id
    | panic message => exact absurd trivial clean
  | ok state =>
    rw [Outcome.ok_bind]
    split
    · exact id
    · exact id

open Classical in
theorem checkQuorum_ok (parsed : parse schemes data = .ok policy)
    (verified : List NoteVerifyingKey) :
    policy.checkQuorum verified = .ok (decide (policy.Satisfied {key | key ∈ verified})) := by
  obtain ⟨state, follows, set, rfl⟩ := parse_follows parsed
  obtain ⟨name, -, -, meaning⟩ := follows.root.set set
  rcases meaning with ⟨-, root⟩ | ⟨-, root, present⟩
  · simp only [checkQuorum, Satisfied, root, decide_true]
  · rw [BTreeMap.containsKey, Option.isSome_iff_exists] at present
    obtain ⟨quorum, found⟩ := present
    obtain ⟨index, bound, there⟩ := List.getElem_of_mem (follows.get?.mp found)
    simp only [checkQuorum, Satisfied, root, found]
    have at_index : ((rules data).filterMap (reading schemes))[index]? = some (name, quorum) := by
      rw [List.getElem?_eq_getElem bound, there]
    refine satisfies_ok follows.ordered (fun _ _ => follows.get?) at_index ?_
    rw [follows.entries.length_eq]
    exact bound

end Evaluation

theorem quorumOf_eq (follows : Follows schemes (rules data) state)
    (name : QuorumName) : quorumOf schemes data name = state.quorums.get? name := by
  apply Option.ext
  intro quorum
  rw [follows.get?]
  exact lookup_eq_some_iff follows.names_nodup

/-- An accepted text is well formed, and the parsed policy answers as the text reads, for any keys:
more keys never turn a satisfied quorum down, and their order and repetitions do not matter. -/
theorem parsed_policy_means_its_text {data : Text} {policy : Policy}
    (parsed : parse schemes data = .ok policy) : WellFormed schemes data ∧
    (∀ name, policy.quorums.get? name = quorumOf schemes data name) ∧
    ∀ verified, ∃ answer, policy.checkQuorum verified = .ok answer ∧
      (answer = true ↔ QuorumHolds schemes data {key | key ∈ verified}) ∧
      ∀ others, (∀ key ∈ verified, key ∈ others) →
        (answer = true → policy.checkQuorum others = .ok true) ∧
        ((∀ key ∈ others, key ∈ verified) → policy.checkQuorum others = .ok answer) := by
  classical
  obtain ⟨state, follows, set, built⟩ := parse_follows parsed
  have same : policy.quorums.get? = quorumOf schemes data := by
    funext name
    rw [quorumOf_eq follows, built]
  have wellFormed : WellFormed schemes data :=
    { names := by
        rw [follows.declared]
        exact follows.names_nodup
      keys := follows.keys
      members := follows.members
      thresholds := follows.thresholds }
  refine ⟨wellFormed, fun name => congrFun same name, fun verified => ?_⟩
  refine ⟨_, checkQuorum_ok parsed verified, ?_, fun others subset => ⟨fun holds => ?_, fun back => ?_⟩⟩
  · rw [decide_eq_true_iff]
    obtain ⟨name, listed, unique, meaning⟩ := follows.root.set set
    have only : QuorumHolds schemes data {key | key ∈ verified} ↔
        (name = "none".toList ∨
          Threshold.Satisfied (quorumOf schemes data) {key | key ∈ verified} name) := by
      constructor
      · rintro ⟨other, there, holds⟩
        rwa [unique other there] at holds
      · exact fun holds => ⟨name, listed, holds⟩
    rw [only, ← same, built]
    rcases meaning with ⟨none, root⟩ | ⟨named, root, -⟩
    · simp [Satisfied, root, none]
    · simp only [Satisfied, root, or_iff_right named]
  · rw [decide_eq_true_iff] at holds
    rw [checkQuorum_ok parsed others]
    exact congrArg _ (decide_eq_true (holds.mono fun key member => subset key member))
  · have equal : {key | key ∈ others} = {key | key ∈ verified} :=
      Set.Subset.antisymm (fun key member => back key member) fun key member => subset key member
    rw [checkQuorum_ok parsed others, equal]

def anyKey : SignatureSchemes :=
  { mlDsa := false, ed25519FromBytes := fun _ => true, ed25519Verify := fun _ _ _ => false
    mlDsa44Verify := fun _ _ _ => false }

def oneWitness : Text :=
  "witness w o+01020304+BAAA".toList ++ List.replicate 40 'A' ++ "\ngroup g any w\nquorum g\n".toList

theorem one_witness_means_its_text : ∃ policy, parse anyKey oneWitness = .ok policy ∧
    WellFormed anyKey oneWitness ∧ ∃ answer, policy.checkQuorum [] = .ok answer ∧
      (answer = true ↔ QuorumHolds anyKey oneWitness {key | key ∈ []}) := by
  have accepted : (parse anyKey oneWitness).isOk = true := by decide +kernel
  cases parsed : parse anyKey oneWitness with
  | error fault =>
    rw [parsed] at accepted
    cases accepted
  | ok policy =>
    obtain ⟨wellFormed, -, answers⟩ := parsed_policy_means_its_text parsed
    obtain ⟨answer, evaluated, meaning, -⟩ := answers []
    exact ⟨policy, rfl, wellFormed, answer, evaluated, meaning⟩

end Policy

end Oak.C2sp
