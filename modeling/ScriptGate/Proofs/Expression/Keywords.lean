import ScriptGate.Proofs.Expression.Acceptance

/-! # Statement keywords at the start of a line

A refusal that names a statement keyword is due to the first word of a line outside brackets. Words
end before a dollar sign, which is a part of identifiers, so the keyword that is named is either the
whole identifier at that place or its part before a dollar sign (`names_keyword_iff`). -/

namespace ScriptGate.Expression

/-- The characters of identifiers: those of words, and the dollar sign. -/
def isNameChar (char : Char) : Bool := Text.isWord char || char = '$'

/-- The identifier a text begins with. -/
def leadingName (text : List Char) : List Char := text.takeWhile isNameChar

/-- The keyword of the statement for which a script is refused. -/
def Refusal.keyword? : Refusal → Option String
  | .startsWithStatement keyword => some keyword
  | .containsStatement keyword => some keyword
  | _ => none

/-! ### Names and words -/

theorem isNameChar_of_isWord {char : Char} (isWord : Text.isWord char = true) :
    isNameChar char = true := by
  rw [isNameChar, isWord, Bool.true_or]

theorem startsOperand_of_isNameChar {char : Char} (isName : isNameChar char = true) :
    startsOperand char = true := by
  rw [startsOperand, isNameChar, Text.isWord] at *
  rw [isName, Bool.true_or]

theorem isPlain_of_isNameChar {char : Char} (isName : isNameChar char = true) :
    isPlain char = true := by
  have notQuote : Text.isQuote char = false := by
    by_contra quoted
    rcases Text.isQuote_iff.mp (Bool.of_not_eq_false quoted) with rfl | rfl | rfl <;>
      exact absurd isName (by decide)
  have notSlash : char ≠ '/' := by
    intro slash
    rw [slash] at isName
    exact absurd isName (by decide)
  simp only [isPlain, notQuote, Bool.not_false, Bool.true_and, decide_eq_true_eq]
  exact notSlash

theorem plainPiece_of_isNameChar {char : Char} (isName : isNameChar char = true) :
    plainPiece char = .code char := by
  have notBlank : ¬ Text.isBlank char = true := by
    intro blank
    rw [isNameChar, Text.isWord_eq_false_of_isBlank blank, Bool.false_or,
      decide_eq_true_eq] at isName
    rw [isName] at blank
    exact absurd blank (by decide)
  rw [plainPiece, if_neg notBlank]

theorem pieces_name_append {name : List Char} (isName : ∀ char ∈ name, isNameChar char = true)
    (rest : List Char) : pieces (name ++ rest) = name.map .code ++ pieces rest := by
  rw [pieces_plain_append fun char member => isPlain_of_isNameChar (isName char member)]
  congr 1
  apply List.map_congr_left
  exact fun char member => plainPiece_of_isNameChar (isName char member)

theorem leadingWord_eq_takeWhile_leadingName {tokens : List Piece}
    (lexed : Lexes (textOf tokens) tokens) :
    leadingWord tokens = (leadingName (textOf tokens)).takeWhile Text.isWord := by
  rw [lexed.leadingWord_eq, leadingName, List.takeWhile_takeWhile]
  congr 1
  funext char
  simpa using isNameChar_of_isWord

/-- A word stands at the start of a text when it is the identifier there, or the identifier goes on
with a dollar sign after it. -/
theorem startsWord_iff_leadingName {keyword : String} {text : List Char}
    (isWord : ∀ char ∈ keyword.toList, Text.isWord char = true) :
    StartsWord keyword text ↔
      leadingName text = keyword.toList ∨ keyword.toList ++ ['$'] <+: leadingName text := by
  have isName : ∀ char ∈ keyword.toList, isNameChar char = true := fun char member =>
    isNameChar_of_isWord (isWord char member)
  constructor
  · rintro ⟨rest, rfl, boundary⟩
    rw [leadingName, List.takeWhile_append_of_pos isName]
    cases rest with
    | nil => exact .inl (List.append_nil _)
    | cons char rest =>
        have notWord := boundary char rfl
        by_cases dollar : char = '$'
        · refine .inr ⟨rest.takeWhile isNameChar, ?_⟩
          rw [dollar, List.takeWhile_cons_of_pos (by decide), List.append_assoc]
          rfl
        · rw [List.takeWhile_cons_of_neg (by simp [isNameChar, notWord, dollar]), List.append_nil]
          exact .inl rfl
  · have split : text = leadingName text ++ text.dropWhile isNameChar :=
      List.takeWhile_append_dropWhile.symm
    rintro (whole | ⟨rest, longer⟩)
    · rw [whole] at split
      refine ⟨text.dropWhile isNameChar, split, fun char first => ?_⟩
      have stopped := List.head?_dropWhile_not isNameChar text
      rw [Option.mem_def.mp first] at stopped
      have noName : isNameChar char = false := by simpa using stopped
      by_contra inWord
      rw [isNameChar_of_isWord (Bool.of_not_eq_false inWord)] at noName
      cases noName
    · rw [← longer, List.append_assoc, List.append_assoc] at split
      refine ⟨_, split, fun char first => ?_⟩
      obtain rfl := Option.some.inj first
      decide

/-! ### Refusals that name a keyword -/

/-- The keyword at the start of a line, for which a script is refused. -/
def statementAt (last : Option Char) (keyword : String) : Refusal :=
  if last = none then .startsWithStatement keyword else .containsStatement keyword

namespace Scan

/-- A line is refused for the keyword it begins with. -/
theorem lineRefusal?_of_keyword {scan : Scan} {line : List Piece} {keyword : String}
    (lineStart : scan.lineStart = true) (isKeyword : keyword ∈ statementKeywords)
    (begins : keyword.toList = leadingWord line) (first : Char) :
    scan.lineRefusal? first line = some (statementAt scan.last keyword) := by
  obtain ⟨other, found⟩ : ∃ other, statementKeywords.find? (·.toList = leadingWord line) =
      some other := by
    apply Option.isSome_iff_exists.mp
    rw [List.find?_isSome]
    exact ⟨keyword, isKeyword, decide_eq_true begins⟩
  have same : other.toList = leadingWord line := by simpa using List.find?_some found
  obtain rfl : other = keyword := String.toList_inj.mp (same.trans begins.symm)
  simp only [lineRefusal?, lineStart, found, Bool.not_true, Bool.false_eq_true, ↓reduceIte]
  cases scan.last <;> rfl

/-- A line is refused for no keyword but the one it begins with. -/
theorem keyword_of_lineRefusal? {scan : Scan} {first : Char} {line : List Piece}
    {refusal : Refusal} (refused : scan.lineRefusal? first line = some refusal) {keyword : String}
    (names : refusal.keyword? = some keyword) :
    scan.lineStart = true ∧ refusal = statementAt scan.last keyword ∧
      keyword ∈ statementKeywords ∧ keyword.toList = leadingWord line := by
  have lineStart : scan.lineStart = true := by
    by_contra inLine
    rw [lineRefusal?, if_pos (by rw [Bool.of_not_eq_true inLine]; rfl)] at refused
    cases refused
  simp only [lineRefusal?, lineStart, Bool.not_true, Bool.false_eq_true, ↓reduceIte] at refused
  cases found : statementKeywords.find? (·.toList = leadingWord line) with
  | some other =>
      have refusalIs : refusal = statementAt scan.last other := by
        rw [found] at refused
        cases last : scan.last <;> rw [last] at refused <;> exact (Option.some.inj refused).symm
      have same : other = keyword := by
        rw [refusalIs, statementAt] at names
        split at names <;> exact Option.some.inj names
      subst same
      exact ⟨lineStart, refusalIs, List.mem_of_find?_eq_some found,
        by simpa using List.find?_some found⟩
  | none =>
      rw [found] at refused
      cases last : scan.last with
      | none =>
          rw [last] at refused
          cases refused
      | some char =>
          rw [last] at refused
          simp only at refused
          split at refused
          · obtain rfl := Option.some.inj refused
            cases names
          · cases refused

theorem keyword?_of_readCode {scan : Scan} {char : Char} {refusal : Refusal}
    (stops : scan.readCode char = .error refusal) : refusal.keyword? = none := by
  unfold readCode at stops
  repeat' split at stops
  all_goals cases stops <;> rfl

theorem read_of_lineRefusal? {scan : Scan} {piece : Piece} {rest : List Piece} {first : Char}
    {refusal : Refusal} (mark : piece.mark? = some first)
    (refused : scan.lineRefusal? first (piece :: rest) = some refusal) :
    scan.read piece rest = .error refusal := by
  cases piece with
  | blank _ | lineComment _ | blockComment _ | openComment _ => cases mark
  | openString _ _ | string _ _ | code _ =>
      cases mark
      simp only [read, refused, Option.getD_some]

/-- A piece that may stand at the start of its line is refused for no keyword. -/
theorem keyword?_of_read {scan : Scan} {piece : Piece} {rest : List Piece} {refusal : Refusal}
    (allowed : ∀ first ∈ piece.mark?, scan.lineRefusal? first (piece :: rest) = none)
    (stops : scan.read piece rest = .error refusal) : refusal.keyword? = none := by
  cases piece with
  | blank _ | lineComment _ | blockComment _ => cases stops
  | openComment _ =>
      cases stops
      rfl
  | openString quote _ =>
      rw [read, allowed quote rfl] at stops
      cases stops
      rfl
  | string quote _ =>
      rw [read, allowed quote rfl] at stops
      cases stops
  | code char =>
      rw [read, allowed char rfl] at stops
      exact keyword?_of_readCode stops

/-- A piece that is refused for a keyword is refused as the first of its line. -/
theorem lineRefusal?_of_read {scan : Scan} {piece : Piece} {rest : List Piece} {refusal : Refusal}
    (stops : scan.read piece rest = .error refusal) {keyword : String}
    (names : refusal.keyword? = some keyword) :
    ∃ first, scan.lineRefusal? first (piece :: rest) = some refusal := by
  by_contra noLine
  have allowed : ∀ first ∈ piece.mark?, scan.lineRefusal? first (piece :: rest) = none := by
    intro first mark
    by_contra refused
    obtain ⟨reason, refused⟩ := Option.ne_none_iff_exists'.mp refused
    have same := (read_of_lineRefusal? mark refused).symm.trans stops
    cases same
    exact noLine ⟨first, refused⟩
  rw [keyword?_of_read allowed stops] at names
  cases names

end Scan

/-- Pieces whose text begins with a keyword begin with a code character. -/
theorem exists_code_of_startsWord {keyword : String} {line : List Piece}
    (isKeyword : keyword ∈ statementKeywords) (lexed : Lexes (textOf line) line)
    (starts : StartsWord keyword (textOf line)) : ∃ char rest, line = .code char :: rest := by
  have word := (lexed.startsWord_iff (.inl isKeyword)).mp starts
  have notEmpty : keyword.toList ≠ [] := by
    have longEnough : statementKeywords.all (·.toList ≠ []) = true := by decide
    simpa using List.all_eq_true.mp longEnough keyword isKeyword
  cases line with
  | nil => exact absurd word notEmpty
  | cons piece rest =>
      cases piece with
      | code char => exact ⟨char, rest, rfl⟩
      | _ => exact absurd word notEmpty

/-- A script is refused for a keyword exactly when the check reads up to a line outside brackets
that the keyword begins. -/
theorem refusal?_eq_statement_iff {script : List Char} {refusal : Refusal} {keyword : String}
    (names : refusal.keyword? = some keyword) :
    refusal? script = some refusal ↔
      keyword ∈ statementKeywords ∧ ∃ before line last reached,
        pieces (body script) = before ++ line ∧ FirstOfLine before last ∧
        Scan.initial.Reads before line reached ∧ refusal = statementAt last keyword ∧
        StartsWord keyword (textOf line) := by
  have lexed := lexes_pieces (body script)
  constructor
  · intro refused
    unfold refusal? at refused
    split at refused
    · obtain rfl := Option.some.inj refused
      cases names
    · rcases Scan.exists_reads_of_refusal? refused with
        ⟨before, piece, after, reached, split, run, stops⟩ | rfl
      · obtain ⟨first, refusedLine⟩ := Scan.lineRefusal?_of_read stops names
        obtain ⟨lineStart, same, isKeyword, word⟩ :=
          Scan.keyword_of_lineRefusal? refusedLine names
        have described := run.describes Scan.describes_initial
        have firstOfLine := (described.lines.firstOfLine_iff reached.last).mpr ⟨lineStart, rfl⟩
        rw [split] at lexed
        exact ⟨isKeyword, before, piece :: after, reached.last, reached, split, firstOfLine, run,
          same, (lexed.drop.startsWord_iff (.inl isKeyword)).mpr word⟩
      · cases names
  · rintro ⟨isKeyword, before, line, last, reached, split, firstOfLine, run, rfl, starts⟩
    rw [split] at lexed
    obtain ⟨char, rest, rfl⟩ := exists_code_of_startsWord isKeyword lexed.drop starts
    have described := run.describes Scan.describes_initial
    obtain ⟨lineStart, rfl⟩ := (described.lines.firstOfLine_iff last).mp firstOfLine
    have stops := Scan.read_of_lineRefusal? rfl (Scan.lineRefusal?_of_keyword lineStart isKeyword
      ((lexed.drop.startsWord_iff (.inl isKeyword)).mp starts) char)
    have notEmpty : ¬ (body script).isEmpty = true := by
      rw [List.isEmpty_iff]
      intro empty
      rw [empty, pieces_nil] at split
      exact absurd split.symm (List.append_ne_nil_of_right_ne_nil _ (List.cons_ne_nil _ _))
    rw [refusal?, if_neg notEmpty, split, run.refusal?_append,
      Scan.refusal?_cons_of_error stops]

/-- Nothing but white space and comments stands before the first line. -/
theorem firstOfLine_none_iff {before : List Piece} : FirstOfLine before none ↔ IsGap before := by
  constructor
  · rintro ⟨isGap⟩
    exact isGap
  · exact .start

/-- **Refusals for a keyword.** A script is said to start with a statement exactly when the first
identifier in it, after white space and comments, is a statement keyword or goes on with a dollar
sign after one. It is said to contain a statement exactly when the check gets to a later line
outside brackets with such an identifier at its start. -/
theorem names_keyword_iff (script : List Char) (keyword : String) :
    (refusal? script = some (.startsWithStatement keyword) ↔
      keyword ∈ statementKeywords ∧ ∃ before line,
        pieces (body script) = before ++ line ∧ IsGap before ∧
        (leadingName (textOf line) = keyword.toList ∨
          keyword.toList ++ ['$'] <+: leadingName (textOf line))) ∧
    (refusal? script = some (.containsStatement keyword) ↔
      keyword ∈ statementKeywords ∧ ∃ before line last reached,
        pieces (body script) = before ++ line ∧ FirstOfLine before (some last) ∧
        Scan.initial.Reads before line reached ∧
        (leadingName (textOf line) = keyword.toList ∨
          keyword.toList ++ ['$'] <+: leadingName (textOf line))) := by
  have lexed := lexes_pieces (body script)
  have name {line : List Piece} (isKeyword : keyword ∈ statementKeywords) :
      StartsWord keyword (textOf line) ↔ leadingName (textOf line) = keyword.toList ∨
        keyword.toList ++ ['$'] <+: leadingName (textOf line) :=
    startsWord_iff_leadingName (isWord_of_mem_keyword (.inl isKeyword))
  constructor
  · rw [refusal?_eq_statement_iff rfl]
    apply and_congr_right
    intro isKeyword
    constructor
    · rintro ⟨before, line, last, _, split, first, _, same, starts⟩
      obtain rfl : last = none := by
        by_contra later
        rw [statementAt, if_neg later] at same
        cases same
      exact ⟨before, line, split, firstOfLine_none_iff.mp first, (name isKeyword).mp starts⟩
    · rintro ⟨before, line, split, isGap, starts⟩
      have starts := (name isKeyword).mpr starts
      rw [split] at lexed
      obtain ⟨char, rest, rfl⟩ := exists_code_of_startsWord isKeyword lexed.drop starts
      obtain ⟨reached, run, _⟩ := Scan.initial.reads_gap (.code char :: rest) isGap
        lexed.isClosed_of_mem
      exact ⟨before, _, none, reached, split, .start isGap, run, rfl, starts⟩
  · rw [refusal?_eq_statement_iff rfl]
    apply and_congr_right
    intro isKeyword
    constructor
    · rintro ⟨before, line, last, reached, split, first, run, same, starts⟩
      cases last with
      | none => cases same
      | some char =>
          have starts := (name isKeyword).mp starts
          exact ⟨before, line, char, reached, split, first, run, starts⟩
    · rintro ⟨before, line, last, reached, split, first, run, starts⟩
      exact ⟨before, line, some last, reached, split, first, run, rfl, (name isKeyword).mpr starts⟩

theorem dollar_name_is_refused :
    leadingName "do$x".toList = "do$x".toList ∧
      refusal? "do$x".toList = some (.startsWithStatement "do") ∧
      refusal? "a +\nif$".toList = some (.containsStatement "if") := by
  decide +kernel

end ScriptGate.Expression
