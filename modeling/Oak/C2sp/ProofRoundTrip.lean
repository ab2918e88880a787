import Oak.C2sp.TLogProof

namespace Oak.C2sp

open Oak.Data Oak.Data.Text

/-! Parsing what a parsed log proof serializes to.

Lines are split twice, once for the proof and once for the checkpoint in it, and
both times a carriage return in front of a line feed is taken for part of the
line ending.  A line of the signed text that still ends in one after that is
written as it is and read back without it. -/

variable {body : List Text} {line : Text}

namespace NoteSignature

structure Plain (signature : NoteSignature) : Prop where
  noSpace : ' ' ∉ signature.origin
  oneLine : '\n' ∉ signature.origin

theorem parse_plain {signature : NoteSignature} (oneLine : '\n' ∉ line)
    (parsed : parse line = .ok signature) : signature.Plain := by
  rw [parse] at parsed
  split at parsed
  · cases parsed
  next strip stripped =>
  split at parsed
  · cases parsed
  next origin encoded found =>
  split at parsed
  · cases parsed
    obtain ⟨whole, absent⟩ := splitOnce_eq_some found
    obtain ⟨front, rfl, -⟩ := List.dropPrefix?_eq_some_iff.mp stripped
    refine ⟨absent, fun inside => oneLine ?_⟩
    rw [whole]
    exact List.mem_append_right _ (List.mem_append_left _ inside)
  · cases parsed

variable {signature : NoteSignature}

theorem parse_toSignatureLine (plain : signature.Plain) :
    parse signature.toSignatureLine = .ok signature := by
  obtain ⟨origin, ⟨keyIdHint, four⟩, sigBytes⟩ := signature
  obtain ⟨b0, b1, b2, b3, rfl⟩ : ∃ b0 b1 b2 b3, keyIdHint = [b0, b1, b2, b3] := by
    match keyIdHint, four with
    | [b0, b1, b2, b3], _ => exact ⟨b0, b1, b2, b3, rfl⟩
  have stripped : (toSignatureLine ⟨origin, ⟨[b0, b1, b2, b3], four⟩, sigBytes⟩).dropPrefix? marker
      = some (origin ++ ' ' :: Base64.encode ([b0, b1, b2, b3] ++ sigBytes)) := by
    rw [List.dropPrefix?_eq_some_iff]
    refine ⟨marker, ?_, by simp⟩
    rw [toSignatureLine, List.append_assoc]
    rfl
  have split : splitOnce ' ' (origin ++ ' ' :: Base64.encode ([b0, b1, b2, b3] ++ sigBytes))
      = some (origin, Base64.encode ([b0, b1, b2, b3] ++ sigBytes)) :=
    splitOnce_append plain.noSpace _
  simp only [parse, stripped]
  rw [split]
  simp only [Base64.decode_encode, List.cons_append, List.nil_append]

theorem toSignatureLine_oneLine (plain : signature.Plain) : '\n' ∉ signature.toSignatureLine := by
  rw [toSignatureLine]
  intro inside
  rcases List.mem_append.mp inside with front | encoded
  · rcases List.mem_append.mp front with mark | origin
    · revert mark
      decide
    · exact plain.oneLine origin
  · rcases List.mem_cons.mp encoded with space | symbol
    · revert space
      decide
    · exact absurd (Base64.isSymbol_of_mem_encode _ symbol) (by decide)

theorem toSignatureLine_getLast? : signature.toSignatureLine.getLast? ≠ some '\r' := by
  intro ends
  have nonempty : Base64.encode (signature.keyIdHint.toList ++ signature.sigBytes) ≠ [] := by
    apply Base64.encode_ne_nil
    intro empty
    have length := congrArg List.length empty
    simp at length
  rw [toSignatureLine, List.append_cons, List.getLast?_append_of_ne_nil _ nonempty] at ends
  exact absurd (Base64.isSymbol_of_mem_encode _ (List.mem_of_getLast? ends)) (by decide)

theorem toSignatureLine_ne_nil : signature.toSignatureLine ≠ [] := by
  simp [toSignatureLine]

theorem oneLine_of_mem_map {signatures : List NoteSignature}
    (plain : ∀ signature ∈ signatures, signature.Plain)
    (member : line ∈ signatures.map (·.toSignatureLine)) : '\n' ∉ line := by
  obtain ⟨signature, among, rfl⟩ := List.mem_map.mp member
  exact toSignatureLine_oneLine (plain signature among)

theorem map_chomp_toSignatureLine (signatures : List NoteSignature) :
    (signatures.map (·.toSignatureLine)).map chomp = signatures.map (·.toSignatureLine) := by
  refine map_chomp fun line member => ?_
  obtain ⟨signature, -, rfl⟩ := List.mem_map.mp member
  exact chomp_of_getLast? toSignatureLine_getLast?

end NoteSignature

namespace Checkpoint

variable {checkpoint : Checkpoint} {content : List Text}

def bodyOf (content : List Text) : List Text :=
  content.take 3 ++ (content.drop 3).takeWhile fun line => !line.isEmpty

theorem mem_of_mem_bodyOf (member : line ∈ bodyOf content) : line ∈ content := by
  rcases List.mem_append.mp member with first | extension
  · exact List.mem_of_mem_take first
  · exact List.mem_of_mem_drop ((List.takeWhile_sublist _).subset extension)

variable {signatures : List NoteSignature}

theorem parseSignatures_plain (oneLine : ∀ line ∈ content, '\n' ∉ line)
    (parsed : parseSignatures content = .ok signatures) :
    ∀ signature ∈ signatures, signature.Plain := by
  induction content generalizing signatures with
  | nil =>
    cases parsed
    simp
  | cons line rest ih =>
    have later := fun other member => oneLine other (List.mem_cons_of_mem _ member)
    rw [parseSignatures] at parsed
    split at parsed
    · exact ih later parsed
    split at parsed
    · cases parsed
    next signature first =>
    simp only [bind, Except.bind] at parsed
    split at parsed
    · cases parsed
    next others parsedRest =>
    cases parsed
    intro found member
    rcases List.mem_cons.mp member with rfl | inRest
    · exact NoteSignature.parse_plain (oneLine line List.mem_cons_self) first
    · exact ih later parsedRest found inRest

theorem parseSignatures_lines (plain : ∀ signature ∈ signatures, signature.Plain) :
    parseSignatures (signatures.map (·.toSignatureLine)) = .ok signatures := by
  induction signatures with
  | nil => rfl
  | cons signature rest ih =>
    have first := NoteSignature.parse_toSignatureLine (plain signature List.mem_cons_self)
    have later := ih fun other member => plain other (List.mem_cons_of_mem _ member)
    rw [List.map_cons, parseSignatures, if_neg NoteSignature.toSignatureLine_ne_nil]
    simp only [first, later, bind, Except.bind, pure, Except.pure]

/-- A checkpoint and the lines of the text it was read from. -/
structure ReadFrom (content : List Text) (checkpoint : Checkpoint) : Prop where
  payload : checkpoint.signedPayload = unlines (bodyOf content)
  fields : ∃ cpSize cpRoot extensions,
    bodyOf content = checkpoint.origin :: cpSize :: cpRoot :: extensions ∧
      parseU64 cpSize = some checkpoint.treeSize ∧ parseHash cpRoot = some checkpoint.rootHash ∧
      ∀ line ∈ extensions, line ≠ []
  signatures : ∀ signature ∈ checkpoint.signatures, signature.Plain

theorem ReadFrom.three_le_length (read : ReadFrom content checkpoint) :
    3 ≤ (bodyOf content).length := by
  obtain ⟨cpSize, cpRoot, extensions, body, -⟩ := read.fields
  simp [body]

theorem parseLines_readFrom (oneLine : ∀ line ∈ content, '\n' ∉ line)
    (parsed : parseLines content = .ok checkpoint) : ReadFrom content checkpoint := by
  rw [parseLines.eq_def] at parsed
  split at parsed
  · next origin cpSize cpRoot rest =>
      split at parsed
      · next treeSize rootHash size root =>
          simp only [bind, Except.bind] at parsed
          split at parsed
          · cases parsed
          next signatures found =>
          cases parsed
          refine ⟨rfl, ⟨cpSize, cpRoot, _, rfl, size, root, ?_⟩, ?_⟩
          · intro line member
            have kept := List.mem_takeWhile_imp member
            simpa using kept
          · refine parseSignatures_plain (fun line member => oneLine line ?_) found
            have later : line ∈ rest := List.mem_of_mem_drop member
            simp [later]
      · cases parsed
  · cases parsed

/-- The lines after the signed text, as `serialize` writes them and a second split returns them. -/
def signatureSection (signatures : List NoteSignature) : List Text :=
  if signatures = [] then [] else [] :: signatures.map (·.toSignatureLine)

theorem signatureSection_takeWhile (signatures : List NoteSignature) :
    (signatureSection signatures).takeWhile (fun line => !line.isEmpty) = [] := by
  rw [signatureSection]
  split <;> simp

theorem parseLines_written (read : ReadFrom content checkpoint) :
    parseLines (bodyOf content ++ signatureSection checkpoint.signatures) = .ok checkpoint := by
  obtain ⟨cpSize, cpRoot, extensions, body, size, root, nonempty⟩ := read.fields
  have payload := read.payload
  rw [body] at payload ⊢
  have all : ∀ line ∈ extensions, (!line.isEmpty) = true := by
    intro line member
    simpa using nonempty line member
  have extent : (extensions ++ signatureSection checkpoint.signatures).takeWhile
      (fun line => !line.isEmpty) = extensions := by
    rw [List.takeWhile_append_of_pos all, signatureSection_takeWhile, List.append_nil]
  have rest : parseSignatures ((extensions ++ signatureSection checkpoint.signatures).drop
      (extensions.length + 1)) = .ok checkpoint.signatures := by
    rw [signatureSection]
    split
    · next none =>
        rw [List.append_nil, List.drop_eq_nil_of_le (by omega), none]
        rfl
    · rw [← List.drop_drop, List.drop_left]
      exact parseSignatures_lines read.signatures
  simp only [List.cons_append, parseLines, size, root, extent, rest, bind, Except.bind, pure,
    Except.pure, ← payload]

theorem bodyOf_append_prefix (three : 3 ≤ body.length)
    (signatures : List NoteSignature) : bodyOf (body ++ signatureSection signatures) <+: body := by
  rw [bodyOf, List.take_append_of_le_length three, List.drop_append_of_le_length three,
    List.takeWhile_append]
  conv_rhs => rw [← List.take_append_drop 3 body]
  rw [List.prefix_append_right_inj]
  split
  · have nothing := signatureSection_takeWhile signatures
    exact ⟨[], by simp [nothing]⟩
  · exact List.takeWhile_prefix _

theorem lines_joinLines_written (oneLine : ∀ line ∈ body, '\n' ∉ line)
    (plain : ∀ signature ∈ signatures, signature.Plain) :
    lines (joinLines (body ++ [] :: signatures.map (·.toSignatureLine)))
      = body.map chomp ++ signatureSection signatures := by
  rcases List.eq_nil_or_concat signatures with rfl | ⟨earlier, last, rfl⟩
  · rw [List.map_nil, lines_joinLines oneLine (by simp), if_pos rfl]
    rfl
  · have shape : body ++ [] :: (earlier ++ [last]).map (·.toSignatureLine)
        = (body ++ [] :: earlier.map (·.toSignatureLine)) ++ [last.toSignatureLine] := by simp
    have lastPlain := plain last (by simp)
    rw [List.concat_eq_append, shape, lines_joinLines ?_
      (NoteSignature.toSignatureLine_oneLine lastPlain),
      if_neg NoteSignature.toSignatureLine_ne_nil, signatureSection, if_neg (by simp)]
    · simp only [List.map_append, List.map_cons, NoteSignature.map_chomp_toSignatureLine]
      simp [chomp]
    · intro line member
      have earlierPlain : ∀ signature ∈ earlier, signature.Plain := fun signature among =>
        plain signature (by simp [among])
      rw [List.mem_append, List.mem_cons] at member
      rcases member with inBody | rfl | inEarlier
      · exact oneLine line inBody
      · simp
      · exact NoteSignature.oneLine_of_mem_map earlierPlain inEarlier

end Checkpoint

namespace TLogProof

variable {proof : TLogProof}

def afterBlank (content : List Text) : List Text :=
  (content.dropWhile fun line => !line.isEmpty).tail

def bodyLines (serialized : Text) : List Text :=
  Checkpoint.bodyOf (lines (joinLines (afterBlank (lines serialized))))

/-- No line of the signed text is left with a carriage return at its end. -/
def CleanBody (serialized : Text) : Prop :=
  ∀ line ∈ bodyLines serialized, line.getLast? ≠ some '\r'

variable {line : Text}

theorem afterBlank_cons (filled : line ≠ []) (rest : List Text) :
    afterBlank (line :: rest) = afterBlank rest := by
  simp [afterBlank, filled]

variable {content : List Text}

theorem parseHashes_rest {later : List Text} {hashes : List Sha256}
    (parsed : parseHashes content = .ok (hashes, later)) : later = afterBlank content := by
  induction content generalizing hashes with
  | nil =>
    cases parsed
    rfl
  | cons line rest ih =>
    rw [parseHashes] at parsed
    split at parsed
    · next blank =>
        cases parsed
        simp [afterBlank, blank]
    next filled =>
    split at parsed
    · cases parsed
    simp only [bind, Except.bind] at parsed
    split at parsed
    · cases parsed
    next others parsedRest =>
    cases parsed
    rw [afterBlank_cons filled]
    exact ih parsedRest

theorem indexLine_rest {later : List Text} (found : indexLine content = some (line, later))
    (filled : line ≠ []) : afterBlank content = afterBlank later := by
  rw [indexLine.eq_def] at found
  split at found
  · cases found
  next first rest =>
  split at found
  · next extra =>
      have filledFirst : first ≠ [] := by
        rintro rfl
        cases extra
      split at found
      · cases found
      cases found
      rw [afterBlank_cons filledFirst, afterBlank_cons filled]
  · cases found
    exact afterBlank_cons filled _

theorem parseLines_checkpoint (parsed : parseLines content = .ok proof) :
    Checkpoint.parse (joinLines (afterBlank content)) = .ok proof.checkpoint := by
  rw [parseLines.eq_def] at parsed
  split at parsed
  · cases parsed
  next first rest =>
  split at parsed
  · cases parsed
  next isHeader =>
  split at parsed
  · cases parsed
  next line later found =>
  split at parsed
  · cases parsed
  next digits stripped =>
  split at parsed
  · cases parsed
  simp only [bind, Except.bind] at parsed
  split at parsed
  · cases parsed
  next hashes parsedHashes =>
  split at parsed
  · cases parsed
  next checkpoint parsedCheckpoint =>
  cases parsed
  have filledHeader : first ≠ [] := by
    rw [show first = header by simpa using isHeader]
    decide
  have filled : line ≠ [] := by
    rintro rfl
    cases stripped
  rw [afterBlank_cons filledHeader, indexLine_rest found filled, ← parseHashes_rest parsedHashes]
  exact parsedCheckpoint

theorem parseHashes_written (hashes : List Sha256) (rest : List Text) :
    parseHashes ((hashes.map fun hash => Base64.encode hash.toList) ++ [] :: rest)
      = .ok (hashes, rest) := by
  induction hashes with
  | nil => rfl
  | cons hash hashes ih =>
    have nonempty : Base64.encode hash.toList ≠ [] := by
      apply Base64.encode_ne_nil
      intro empty
      have length := congrArg List.length empty
      simp at length
    have parsed : parseHash (Base64.encode hash.toList) = some hash := by
      rw [parseHash, Base64.decode_encode, Option.bind_some, Block.ofBytes?_toList]
    rw [List.map_cons, List.cons_append, parseHashes, if_neg nonempty]
    simp only [parsed, ih, bind, Except.bind, pure, Except.pure]

def frontLines (proof : TLogProof) : List Text :=
  header :: ("index ".toList ++ decimal proof.index.toNat)
    :: proof.proofHashes.map fun hash => Base64.encode hash.toList

theorem parseLines_written (proof : TLogProof) (rest : List Text) :
    parseLines (proof.frontLines ++ [] :: rest)
      = match Checkpoint.parse (joinLines rest) with
        | .error reason => .error (.malformedCheckpoint reason)
        | .ok checkpoint => .ok { proof with checkpoint } := by
  have stripped : ("index ".toList ++ decimal proof.index.toNat).dropPrefix? "index ".toList
      = some (decimal proof.index.toNat) :=
    List.dropPrefix?_eq_some_iff.mpr ⟨_, rfl, by simp⟩
  have number : parseU64 (decimal proof.index.toNat) = some proof.index := by
    rw [parseU64, parseUnsigned_decimal proof.index.toNat_lt]
    simp
  have line : indexLine (("index ".toList ++ decimal proof.index.toNat)
      :: ((proof.proofHashes.map fun hash => Base64.encode hash.toList) ++ [] :: rest))
      = some ("index ".toList ++ decimal proof.index.toNat,
        (proof.proofHashes.map fun hash => Base64.encode hash.toList) ++ [] :: rest) := rfl
  rw [frontLines, List.cons_append, List.cons_append, parseLines, if_neg (by simp)]
  simp only [line, stripped, number, parseHashes_written]
  rfl

theorem frontLines_plain (member : line ∈ proof.frontLines) : '\n' ∉ line ∧ '\r' ∉ line := by
  rw [frontLines, List.mem_cons, List.mem_cons, List.mem_map] at member
  rcases member with rfl | rfl | ⟨hash, -, rfl⟩
  · decide
  · have clear : '\n' ∉ "index ".toList ∧ '\r' ∉ "index ".toList := by decide
    rw [List.mem_append, List.mem_append, not_or, not_or]
    exact ⟨⟨clear.1, fun digit => absurd (isDigit_of_mem_decimal digit) (by decide)⟩,
      ⟨clear.2, fun digit => absurd (isDigit_of_mem_decimal digit) (by decide)⟩⟩
  · exact ⟨fun symbol => absurd (Base64.isSymbol_of_mem_encode _ symbol) (by decide),
      fun symbol => absurd (Base64.isSymbol_of_mem_encode _ symbol) (by decide)⟩

theorem lines_serialize (payload : proof.checkpoint.signedPayload = unlines body)
    (oneLine : ∀ line ∈ body, '\n' ∉ line)
    (plain : ∀ signature ∈ proof.checkpoint.signatures, signature.Plain) :
    lines proof.serialize = proof.frontLines ++ [] :: (body.map chomp
      ++ [] :: proof.checkpoint.signatures.map (·.toSignatureLine)) := by
  have written : proof.serialize = unlines (proof.frontLines ++ [] :: (body
      ++ [] :: proof.checkpoint.signatures.map (·.toSignatureLine))) := by
    simp only [serialize, Checkpoint.serialize, payload, frontLines, unlines_append,
      unlines_cons, List.append_assoc, List.cons_append, List.nil_append]
    rfl
  have front : proof.frontLines.map chomp = proof.frontLines :=
    map_chomp fun line member => chomp_of_notMem (frontLines_plain member).2
  rw [written, lines_unlines ?_]
  · simp only [List.map_append, List.map_cons, front, NoteSignature.map_chomp_toSignatureLine]
    rfl
  · simp only [List.mem_append, List.mem_cons]
    rintro line (inFront | rfl | inBody | rfl | inSignatures)
    · exact (frontLines_plain inFront).1
    · simp
    · exact oneLine line inBody
    · simp
    · exact NoteSignature.oneLine_of_mem_map plain inSignatures

/-- A proof that was read is read back from what it serializes to unless a line of the signed text
ends in a carriage return. -/
theorem parse_serialize_iff {serialized : Text} (parsed : parse serialized = .ok proof) :
    parse proof.serialize = .ok proof ↔ CleanBody serialized := by
  have oneLine : ∀ line ∈ lines (joinLines (afterBlank (lines serialized))),
      '\n' ∉ line := fun line member => newline_notMem_lines member
  have read := Checkpoint.parseLines_readFrom oneLine (parseLines_checkpoint parsed)
  have bodyOneLine : ∀ line ∈ bodyLines serialized, '\n' ∉ line := fun line member =>
    oneLine line (Checkpoint.mem_of_mem_bodyOf member)
  have written : proof.checkpoint.signedPayload = unlines (bodyLines serialized) := read.payload
  have again : lines (joinLines ((bodyLines serialized).map chomp
        ++ [] :: proof.checkpoint.signatures.map (·.toSignatureLine)))
      = ((bodyLines serialized).map chomp).map chomp
        ++ Checkpoint.signatureSection proof.checkpoint.signatures := by
    refine Checkpoint.lines_joinLines_written (fun line member => ?_) read.signatures
    obtain ⟨whole, inBody, rfl⟩ := List.mem_map.mp member
    exact fun inside => bodyOneLine whole inBody (mem_of_mem_chomp inside)
  rw [parse, lines_serialize written bodyOneLine read.signatures, parseLines_written,
    Checkpoint.parse]
  constructor
  · intro same
    split at same
    · cases same
    next checkpoint parsedAgain =>
    have isSame : checkpoint = proof.checkpoint := by
      injection same with same
      exact congrArg TLogProof.checkpoint same
    have readAgain := Checkpoint.parseLines_readFrom
      (fun line member => newline_notMem_lines member) parsedAgain
    have payload : unlines (Checkpoint.bodyOf _) = unlines (bodyLines serialized) :=
      readAgain.payload.symm.trans (isSame ▸ written)
    rw [again] at payload
    -- the signed text that was read back is no longer than what the chomped lines make
    have three : 3 ≤ (((bodyLines serialized).map chomp).map chomp).length := by
      rw [List.length_map, List.length_map]
      exact read.three_le_length
    have shorter := unlines_length_le_of_isPrefix
      (Checkpoint.bodyOf_append_prefix three proof.checkpoint.signatures)
    rw [payload, List.map_map] at shorter
    intro line member ends
    have first := chomp_length_lt ends
    have second := chomp_length_le (chomp line)
    have unchanged := length_eq_of_unlines (fun line =>
      (chomp_length_le (chomp line)).trans (chomp_length_le line))
      shorter line member
    omega
  · intro clean
    have kept : (bodyLines serialized).map chomp = bodyLines serialized :=
      map_chomp fun line member => chomp_of_getLast? (clean line member)
    rw [again, kept, kept, bodyLines, Checkpoint.parseLines_written read]

def signedNote (ending : Text) : Text :=
  "c2sp.org/tlog-proof@v1\nindex 7\n\norigin".toList ++ ending ++ "8\n".toList
    ++ List.replicate 43 'A' ++ "=\n\n— origin AQIDBAAA\n".toList

theorem signedNote_serialize_parses : ∃ proof, parse (signedNote ['\n']) = .ok proof ∧
    parse proof.serialize = .ok proof := by
  have parses : (parse (signedNote ['\n'])).toOption.isSome = true := by decide +kernel
  cases parsed : parse (signedNote ['\n']) with
  | error reason =>
    rw [parsed] at parses
    cases parses
  | ok proof =>
    have clean : ∀ line ∈ bodyLines (signedNote ['\n']), line.getLast? ≠ some '\r' := by
      decide +kernel
    exact ⟨proof, rfl, (parse_serialize_iff parsed).mpr clean⟩

/-- With three carriage returns in front of the line feed one is left in the origin. -/
theorem returned_origin_changes : ∃ proof, parse (signedNote "\r\r\r\n".toList) = .ok proof ∧
    parse proof.serialize ≠ .ok proof := by
  have changes : (match parse (signedNote "\r\r\r\n".toList) with
      | .ok proof => decide (∀ again ∈ (parse proof.serialize).toOption, again ≠ proof)
      | .error _ => false) = true := by decide +kernel
  cases parsed : parse (signedNote "\r\r\r\n".toList) with
  | error reason =>
    rw [parsed] at changes
    cases changes
  | ok proof =>
    refine ⟨proof, rfl, fun same => ?_⟩
    rw [parsed] at changes
    have other := of_decide_eq_true changes proof (by rw [same]; rfl)
    exact other rfl

end TLogProof

end Oak.C2sp
