import Mathlib.Data.List.DropRight
import Mathlib.Data.List.Intervals

namespace Oak.Data

/-! Text, as the parsers of the source see it.

A `&str` is the list of its characters.  The functions are those of `str` that
line-based formats are read and written with. -/

abbrev Text := List Char

/-- Found by name, so that deciding membership does not prove it again. -/
instance : LawfulBEq Text := inferInstance

namespace Text

/-- `core::str::from_utf8`. -/
def ofUtf8 (bytes : List UInt8) : Option Text := (String.fromUTF8? ⟨bytes.toArray⟩).map String.toList

def chomp (line : Text) : Text :=
  if line.getLast? = some '\r' then line.dropLast else line

def linesFrom (current : Text) : Text → List Text
  | [] => if current = [] then [] else [current]
  | char :: rest =>
    if char = '\n' then chomp current :: linesFrom [] rest
    else linesFrom (current ++ [char]) rest

/-- `str::lines`: the last line needs no line feed, and without one it keeps a carriage return. -/
def lines (text : Text) : List Text := linesFrom [] text

def unlines (content : List Text) : Text := content.flatMap (· ++ ['\n'])

/-- `join("\n")`. -/
def joinLines (content : List Text) : Text := ['\n'].intercalate content

variable {line text : Text}

theorem linesFrom_append (oneLine : '\n' ∉ line) (current rest : Text) :
    linesFrom current (line ++ rest) = linesFrom (current ++ line) rest := by
  induction line generalizing current with
  | nil => rw [List.nil_append, List.append_nil]
  | cons char line ih =>
    rw [List.mem_cons, not_or] at oneLine
    rw [List.cons_append, linesFrom, if_neg (Ne.symm oneLine.1), ih oneLine.2, ← List.append_cons]

theorem lines_last (oneLine : '\n' ∉ line) : lines line = if line = [] then [] else [line] := by
  rw [lines, ← List.append_nil line, linesFrom_append oneLine, List.append_nil]
  rfl

theorem lines_cons (oneLine : '\n' ∉ line) (rest : Text) :
    lines (line ++ '\n' :: rest) = chomp line :: lines rest :=
  linesFrom_append oneLine [] _

theorem unlines_append (first second : List Text) :
    unlines (first ++ second) = unlines first ++ unlines second := List.flatMap_append

theorem unlines_cons (line : Text) (content : List Text) :
    unlines (line :: content) = line ++ '\n' :: unlines content := by
  simp [unlines]

theorem unlines_length_le_of_isPrefix {first second : List Text} (isPrefix : first <+: second) :
    (unlines first).length ≤ (unlines second).length := by
  obtain ⟨rest, rfl⟩ := isPrefix
  rw [unlines_append, List.length_append]
  omega

variable {content : List Text}

/-- Lines that do not grow make a text that is not longer; if it is as long, none has shrunk. -/
theorem length_eq_of_unlines {shrink : Text → Text}
    (shrinks : ∀ line, (shrink line).length ≤ line.length)
    (kept : (unlines content).length ≤ (unlines (content.map shrink)).length) :
    ∀ line ∈ content, (shrink line).length = line.length := by
  have shorter : ∀ content : List Text,
      (unlines (content.map shrink)).length ≤ (unlines content).length := by
    intro content
    induction content with
    | nil => exact Nat.le_refl _
    | cons line content ih =>
      have first := shrinks line
      simp only [List.map_cons, unlines_cons, List.length_append, List.length_cons]
      omega
  induction content with
  | nil => simp
  | cons line content ih =>
    have first := shrinks line
    have rest := shorter content
    simp only [List.map_cons, unlines_cons, List.length_append, List.length_cons] at kept
    exact List.forall_mem_cons.mpr ⟨by omega, ih (by omega)⟩

theorem lines_unlines (oneLine : ∀ line ∈ content, '\n' ∉ line) :
    lines (unlines content) = content.map chomp := by
  induction content with
  | nil => rfl
  | cons line content ih =>
    obtain ⟨first, later⟩ := List.forall_mem_cons.mp oneLine
    rw [unlines_cons, lines_cons first, ih later, List.map_cons]

variable {char : Char}

theorem mem_of_mem_chomp (member : char ∈ chomp line) : char ∈ line := by
  rw [chomp] at member
  split at member
  · exact List.dropLast_subset line member
  · exact member

theorem newline_notMem_linesFrom {current : Text} (clean : '\n' ∉ current)
    (member : line ∈ linesFrom current text) : '\n' ∉ line := by
  induction text generalizing current with
  | nil =>
    rw [linesFrom] at member
    split at member
    · cases member
    · rw [List.mem_singleton.mp member]
      exact clean
  | cons char rest ih =>
    rw [linesFrom] at member
    split at member
    · rcases List.mem_cons.mp member with rfl | later
      · exact fun inside => clean (mem_of_mem_chomp inside)
      · exact ih (by simp) later
    · next other =>
        refine ih ?_ member
        rw [List.mem_append, List.mem_singleton, not_or]
        exact ⟨clean, Ne.symm other⟩

theorem newline_notMem_lines (member : line ∈ lines text) : '\n' ∉ line :=
  newline_notMem_linesFrom (by simp) member

theorem lines_joinLines_cons {first second : Text} (oneLine : '\n' ∉ first) :
    lines (joinLines (first :: second :: content))
      = chomp first :: lines (joinLines (second :: content)) := by
  have split : joinLines (first :: second :: content)
      = first ++ '\n' :: joinLines (second :: content) := by
    simp [joinLines]
  rw [split, lines_cons oneLine]

theorem joinLines_singleton (line : Text) : joinLines [line] = line := by
  simp [joinLines]

theorem lines_joinLines {last : Text} (oneLine : ∀ line ∈ content, '\n' ∉ line)
    (lastLine : '\n' ∉ last) : lines (joinLines (content ++ [last]))
      = content.map chomp ++ if last = [] then [] else [last] := by
  induction content with
  | nil =>
    rw [List.nil_append, joinLines_singleton, lines_last lastLine]
    rfl
  | cons line content ih =>
    obtain ⟨first, later⟩ := List.forall_mem_cons.mp oneLine
    have tail := ih later
    cases content with
    | nil => rw [List.singleton_append, lines_joinLines_cons first, ← List.nil_append [last], tail]; rfl
    | cons next content =>
      rw [List.cons_append, List.cons_append, lines_joinLines_cons first, ← List.cons_append, tail]
      rfl

theorem chomp_of_getLast? (plain : line.getLast? ≠ some '\r') : chomp line = line :=
  if_neg plain

theorem chomp_of_notMem (plain : '\r' ∉ line) : chomp line = line :=
  chomp_of_getLast? fun ends => plain (List.mem_of_getLast? ends)

theorem map_chomp (plain : ∀ line ∈ content, chomp line = line) : content.map chomp = content := by
  conv_rhs => rw [← List.map_id content]
  exact List.map_inj_left.mpr plain

theorem chomp_length_le (line : Text) : (chomp line).length ≤ line.length := by
  rw [chomp]
  split
  · rw [List.length_dropLast]
    omega
  · exact Nat.le_refl _

theorem chomp_length_lt (ends : line.getLast? = some '\r') : (chomp line).length < line.length := by
  have nonempty : line ≠ [] := by
    rintro rfl
    simp at ends
  have positive := List.length_pos_iff.mpr nonempty
  rw [chomp, if_pos ends, List.length_dropLast]
  omega

/-- `str::split_once`. -/
def splitOnce (separator : Char) : Text → Option (Text × Text)
  | [] => none
  | char :: rest =>
    if char = separator then some ([], rest)
    else (splitOnce separator rest).map fun parts => (char :: parts.1, parts.2)

theorem splitOnce_append {separator : Char} {before : Text} (absent : separator ∉ before)
    (after : Text) : splitOnce separator (before ++ separator :: after) = some (before, after) := by
  induction before with
  | nil => simp [splitOnce]
  | cons char before ih =>
    rw [List.mem_cons, not_or] at absent
    rw [List.cons_append, splitOnce, if_neg (Ne.symm absent.1), ih absent.2, Option.map_some]

theorem splitOnce_eq_some {separator : Char} {before after : Text}
    (found : splitOnce separator text = some (before, after)) :
    text = before ++ separator :: after ∧ separator ∉ before := by
  induction text generalizing before with
  | nil => cases found
  | cons char rest ih =>
    rw [splitOnce] at found
    split at found
    · next here =>
        cases found
        exact ⟨by rw [here, List.nil_append], by simp⟩
    · next other =>
        obtain ⟨⟨first, second⟩, split, joined⟩ := Option.map_eq_some_iff.mp found
        cases joined
        obtain ⟨whole, absent⟩ := ih split
        refine ⟨by rw [whole, List.cons_append], ?_⟩
        rw [List.mem_cons, not_or]
        exact ⟨Ne.symm other, absent⟩

/-- `char::is_ascii_whitespace`. -/
def isAsciiWhitespace (char : Char) : Bool :=
  char == ' ' || char == '\t' || char == '\n' || char == '\x0c' || char == '\r'

/-- `char::is_whitespace`, the `White_Space` property of Unicode. -/
def isWhitespace (char : Char) : Bool :=
  (9 ≤ char.toNat && char.toNat ≤ 13) || char.toNat == 0x20 || char.toNat == 0x85
    || char.toNat == 0xa0 || char.toNat == 0x1680 || (0x2000 ≤ char.toNat && char.toNat ≤ 0x200a)
    || char.toNat == 0x2028 || char.toNat == 0x2029 || char.toNat == 0x202f
    || char.toNat == 0x205f || char.toNat == 0x3000

def trim (text : Text) : Text := (text.dropWhile isWhitespace).rdropWhile isWhitespace

def splitAsciiWhitespace (text : Text) : List Text :=
  (text.splitOnP isAsciiWhitespace).filter fun piece => !piece.isEmpty

theorem head?_trim (first : (trim text).head? = some char) : isWhitespace char = false := by
  obtain ⟨rest, whole⟩ : trim text <+: text.dropWhile isWhitespace := List.rdropWhile_prefix _ _
  have head : (text.dropWhile isWhitespace).head? = some char := by
    rw [← whole, List.head?_append, first]
    rfl
  have visible := List.head?_dropWhile_not isWhitespace text
  rw [head] at visible
  simpa using visible

theorem isWhitespace_of_isAsciiWhitespace (ascii : isAsciiWhitespace char = true) :
    isWhitespace char = true := by
  simp only [isAsciiWhitespace, Bool.or_eq_true, beq_iff_eq] at ascii
  rcases ascii with (((rfl | rfl) | rfl) | rfl) | rfl <;> decide

theorem splitAsciiWhitespace_trim_ne_nil (nonempty : trim text ≠ []) :
    splitAsciiWhitespace (trim text) ≠ [] := by
  cases shape : trim text with
  | nil => exact absurd shape nonempty
  | cons char rest =>
    have visible : isAsciiWhitespace char ≠ true := fun ascii => by
      have blank := isWhitespace_of_isAsciiWhitespace ascii
      rw [head?_trim (by rw [shape]; rfl)] at blank
      cases blank
    rw [splitAsciiWhitespace, List.splitOnP_cons_eq_if_modifyHead, if_neg visible]
    cases pieces : rest.splitOnP isAsciiWhitespace with
    | nil => exact absurd pieces (List.splitOnP_ne_nil _ _)
    | cons piece pieces => simp

def parseDigits : Text → Nat → Option Nat
  | [], number => some number
  | char :: rest, number =>
    if char.isDigit then parseDigits rest (10 * number + (char.toNat - 48)) else none

def withoutPlus : Text → Text
  | '+' :: rest => rest
  | text => text

/-- `str::parse` to an unsigned integer type whose values lie below `limit`. -/
def parseUnsigned (limit : Nat) (text : Text) : Option Nat :=
  if withoutPlus text = [] then none
  else (parseDigits (withoutPlus text) 0).filter fun number => decide (number < limit)

def digitsOf : Nat → Nat → Text
  | 0, _ => []
  | fuel + 1, number =>
    if number < 10 then [Nat.digitChar number]
    else digitsOf fuel (number / 10) ++ [Nat.digitChar (number % 10)]

/-- An unsigned number as `{}` formats it. -/
def decimal (number : Nat) : Text := digitsOf (number + 1) number

theorem parseDigits_append (first second : Text) (number : Nat) :
    parseDigits (first ++ second) number = (parseDigits first number).bind (parseDigits second) := by
  induction first generalizing number with
  | nil => rfl
  | cons char first ih =>
    rw [List.cons_append, parseDigits, parseDigits]
    split
    · exact ih _
    · rfl

theorem parseDigits_digitChar {digit : Nat} (small : digit < 10) (number : Nat) :
    parseDigits [Nat.digitChar digit] number = some (10 * number + digit) := by
  have all : ∀ digit < 10, (Nat.digitChar digit).isDigit = true ∧
      (Nat.digitChar digit).toNat - 48 = digit := by decide
  obtain ⟨isDigit, value⟩ := all digit small
  rw [parseDigits, if_pos isDigit, value, parseDigits]

variable {fuel number : Nat}

theorem parseDigits_digitsOf (enough : number < fuel) :
    parseDigits (digitsOf fuel number) 0 = some number := by
  induction fuel generalizing number with
  | zero => omega
  | succ fuel ih =>
    rw [digitsOf]
    split
    · next small =>
        rw [parseDigits_digitChar small]
        simp
    · rw [parseDigits_append, ih (by omega), Option.bind_some,
        parseDigits_digitChar (Nat.mod_lt _ (by omega))]
      simp only [Option.some.injEq]
      omega

theorem exists_digitChar_of_mem_digitsOf (member : char ∈ digitsOf fuel number) :
    ∃ digit < 10, char = Nat.digitChar digit := by
  induction fuel generalizing number with
  | zero => cases member
  | succ fuel ih =>
    rw [digitsOf] at member
    split at member
    · next small => exact ⟨number, small, List.mem_singleton.mp member⟩
    · rcases List.mem_append.mp member with earlier | last
      · exact ih earlier
      · exact ⟨_, Nat.mod_lt _ (by omega), List.mem_singleton.mp last⟩

theorem isDigit_of_mem_decimal (member : char ∈ decimal number) : char.isDigit = true := by
  have all : ∀ digit < 10, (Nat.digitChar digit).isDigit = true := by decide
  obtain ⟨digit, small, rfl⟩ := exists_digitChar_of_mem_digitsOf member
  exact all digit small

theorem notMem_decimal (other : char.isDigit = false) (number : Nat) : char ∉ decimal number := by
  intro member
  rw [isDigit_of_mem_decimal member] at other
  cases other

theorem parseUnsigned_decimal {limit : Nat} (bound : number < limit) :
    parseUnsigned limit (decimal number) = some number := by
  have parsed : parseDigits (decimal number) 0 = some number := parseDigits_digitsOf (by omega)
  have nonempty : decimal number ≠ [] := by
    rw [decimal, digitsOf]
    split <;> simp
  have unsigned : withoutPlus (decimal number) = decimal number := by
    rw [withoutPlus]
    intro rest signed
    have plus : '+' ∈ decimal number := by
      rw [signed]
      exact List.mem_cons_self
    exact absurd (isDigit_of_mem_decimal plus) (by decide)
  rw [parseUnsigned, unsigned, if_neg nonempty, parsed]
  simp [bound]

theorem decimal_injective : Function.Injective decimal := by
  intro first second same
  have parsed := parseUnsigned_decimal (Nat.lt_succ_of_le (Nat.le_max_left first second))
  rw [same, parseUnsigned_decimal (Nat.lt_succ_of_le (Nat.le_max_right first second))] at parsed
  exact (Option.some.inj parsed).symm

end Text

end Oak.Data
