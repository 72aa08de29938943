import ScriptGate.Proofs.Expression.Body
import ScriptGate.Proofs.Expression.Keywords

/-! # Line breaks outside brackets

At a line break outside brackets the check looks at one character before it, at one after it, and at
the word that begins there (`MayContinue`). It knows no tokens. So it takes no notice of an operand
that ends or begins with another character than those of names, string literals and brackets
(`break_between_operands_iff`), and it takes an operator keyword before the break for an operand
(`break_after_operator_iff`). -/

namespace ScriptGate.Expression

/-- A line with the given first character and word may follow one with the given last character. -/
def MayContinue (last first : Char) (word : List Char) : Prop :=
  (∀ keyword ∈ statementKeywords, keyword.toList ≠ word) ∧
    (endsOperand last = true → startsOperand first = true →
      ∃ keyword ∈ binaryKeywords, keyword.toList = word)

theorem leadingWord_gap {gap : List Piece} (isGap : IsGap gap) (filled : gap ≠ [])
    (rest : List Piece) : leadingWord (gap ++ rest) = [] := by
  cases gap with
  | nil => exact absurd rfl filled
  | cons piece gap =>
      have unmarked := isGap piece List.mem_cons_self
      cases piece <;> first | rfl | cases unmarked

namespace Scan

/-- Pieces that are read at one place are read at another, between the same brackets, when the first
of them may stand there. What the check knows after the first differs in the offset at most. -/
theorem refusal?_elsewhere {scan other : Scan} {piece : Piece} {rest : List Piece} {first : Char}
    (mark : piece.mark? = some first) (sameDue : other.due = scan.due)
    (accepted : scan.refusal? (piece :: rest) = none) :
    other.refusal? (piece :: rest) = none ↔
      other.AllowsLine first (leadingWord (piece :: rest)) := by
  obtain ⟨final, run, complete⟩ := refusal?_eq_none_iff.mp accepted
  cases run with
  | cons step later =>
      rw [List.append_nil] at step
      obtain ⟨closed, _, separates, due, read, rfl⟩ := read_eq_ok_iff.mp step
      constructor
      · intro otherAccepted
        obtain ⟨_, otherRun, _⟩ := refusal?_eq_none_iff.mp otherAccepted
        cases otherRun with
        | cons otherStep _ =>
            rw [List.append_nil] at otherStep
            exact (read_eq_ok_iff.mp otherStep).2.1 first mark
      · intro allows
        have otherStep : other.read piece rest =
            .ok ((scan.after piece due).movedTo (other.offset + piece.text.length)) := by
          rw [← sameDue] at separates read
          refine read_eq_ok_iff.mpr ⟨closed, ?_, separates, due, read, ?_⟩
          · intro char isFirst
            obtain rfl := Option.some.inj (mark.symm.trans isFirst)
            exact allows
          · simp [after, movedTo, mark]
        rw [refusal?_cons_of_ok otherStep, ← verdict_eq_none_iff, verdict_movedTo,
          verdict_eq_none_iff]
        exact refusal?_eq_none_iff.mpr ⟨final, later, complete⟩

/-- After a line break outside brackets, pieces that are read elsewhere outside brackets are read
when their line may follow the one before. -/
theorem refusal?_after_break {scan other : Scan} {gap rest : List Piece} {piece : Piece}
    {last first : Char} (outside : scan.due = []) (isLast : scan.last = some last)
    (isGap : IsGap gap) (closed : ∀ piece ∈ gap, piece.IsClosed)
    (breaks : ∃ piece ∈ gap, piece.breaksLine = true) (mark : piece.mark? = some first)
    (otherOutside : other.due = []) (accepted : other.refusal? (piece :: rest) = none) :
    scan.refusal? (gap ++ piece :: rest) = none ↔
      MayContinue last first (leadingWord (piece :: rest)) := by
  obtain ⟨reached, run, due, sameLast, lineStart⟩ := scan.reads_gap (piece :: rest) isGap closed
  have sameDue : reached.due = other.due := by rw [due, outside, otherOutside]
  have atStart : reached.lineStart = true := by
    rw [lineStart, outside, List.isEmpty_nil, Bool.true_and, List.any_eq_true.mpr breaks,
      Bool.or_true]
  rw [run.refusal?_append, refusal?_elsewhere mark sameDue accepted]
  simp [AllowsLine, MayContinue, atStart, sameLast, isLast]

/-- Wider white space after a piece outside brackets, with a line break in it. -/
theorem refusal?_widen {start narrow wide rest : List Piece} {previous piece : Piece}
    {last first : Char}
    (accepted : initial.refusal? (start ++ [previous] ++ (narrow ++ piece :: rest)) = none)
    (outside : depth (codeOf (start ++ [previous])) = 0) (isLast : previous.mark? = some last)
    (isNarrow : IsGap narrow) (filled : narrow ≠ []) (isWide : IsGap wide)
    (closed : ∀ piece ∈ wide, piece.IsClosed) (breaks : ∃ piece ∈ wide, piece.breaksLine = true)
    (isFirst : piece.mark? = some first) :
    initial.refusal? (start ++ [previous] ++ (wide ++ piece :: rest)) = none ↔
      MayContinue last first (leadingWord (piece :: rest)) := by
  obtain ⟨final, run, complete⟩ := refusal?_eq_none_iff.mp accepted
  obtain ⟨middle, before, later⟩ := run.split
  rw [List.append_nil] at before
  have outside := (before.describes describes_initial).depth_eq_zero_iff.mp outside
  obtain ⟨_, narrowRun, _⟩ := later.split
  obtain ⟨other, gapRun, due, _⟩ := middle.reads_gap (piece :: rest) isNarrow narrowRun.isClosed
  have elsewhere : other.refusal? (piece :: rest) = none := by
    rw [← gapRun.refusal?_append]
    exact refusal?_eq_none_iff.mpr ⟨final, later, complete⟩
  have wideFilled : wide ≠ [] := by
    obtain ⟨feed, member, _⟩ := breaks
    exact List.ne_nil_of_mem member
  have sameWord := (leadingWord_gap isNarrow filled (piece :: rest)).trans
    (leadingWord_gap isWide wideFilled (piece :: rest)).symm
  rw [(before.congr_rest sameWord).refusal?_append]
  exact refusal?_after_break outside (before.last_eq isLast) isWide closed breaks isFirst
    (due.trans outside) elsewhere

end Scan

/-! ### The last and the first token of a script -/

/-- What an operand can end with: a name or number, the point of a number, a string literal, a
closing bracket, or one of the operators `++` and `--`. -/
inductive Ending where
  | name
  | point
  | string
  | closer
  | step
deriving DecidableEq, Repr

/-- What cannot go on with an operand: a name or number, the point of a number, a string literal, or
one of the operators `!`, `~`, `++` and `--` in front of an operand. -/
inductive Beginning where
  | name (text : List Char)
  | point
  | string
  | negation
  | complement
  | step
deriving DecidableEq, Repr

/-- Some pieces end like an operand. Of a name, its last character is given. -/
inductive EndsWith : Ending → List Piece → Prop where
  | name {start : List Piece} {char : Char} (isName : isNameChar char = true) :
      EndsWith .name (start ++ [.code char])
  | point {start : List Piece} {digit : Char} (isDigit : Text.isAsciiDigit digit = true) :
      EndsWith .point (start ++ [.code digit] ++ [.code '.'])
  | string {start : List Piece} {quote : Char} {text : List Char} :
      EndsWith .string (start ++ [.string quote text])
  | closer {start : List Piece} {char : Char} (closes : isCloser char = true) :
      EndsWith .closer (start ++ [.code char])
  | step {start : List Piece} {sign : Char} (isSign : sign = '+' ∨ sign = '-') :
      EndsWith .step (start ++ [.code sign] ++ [.code sign])

/-- Some pieces begin with a token that cannot go on with an operand. -/
inductive BeginsWith : Beginning → List Piece → Prop where
  | name {rest : List Piece} {char : Char} {text : List Char} (isName : isNameChar char = true)
      (whole : leadingName (textOf (.code char :: rest)) = text) :
      BeginsWith (.name text) (.code char :: rest)
  | point {rest : List Piece} {digit : Char} (isDigit : Text.isAsciiDigit digit = true) :
      BeginsWith .point (.code '.' :: .code digit :: rest)
  | string {rest : List Piece} {quote : Char} {text : List Char} :
      BeginsWith .string (.string quote text :: rest)
  | negation {rest : List Piece} : BeginsWith .negation (.code '!' :: rest)
  | complement {rest : List Piece} : BeginsWith .complement (.code '~' :: rest)
  | step {rest : List Piece} {sign : Char} (isSign : sign = '+' ∨ sign = '-') :
      BeginsWith .step (.code sign :: .code sign :: rest)

/-- The last token of a script, with white space and comments after it. -/
def EndsIn (script : List Char) (ending : Ending) : Prop :=
  ∃ tokens gap, pieces script = tokens ++ gap ∧ IsGap gap ∧ EndsWith ending tokens

/-- The first token of a script, with white space and comments before it. -/
def BeginsIn (script : List Char) (beginning : Beginning) : Prop :=
  ∃ gap tokens, pieces script = gap ++ tokens ∧ IsGap gap ∧ BeginsWith beginning tokens

/-- Whether the check sees that an operand ends. -/
def Ending.isSeen : Ending → Bool
  | .name | .string | .closer => true
  | .point | .step => false

/-- Whether the check sees that another operand begins. A name counts as far as its word goes, which
ends before a dollar sign. -/
def Beginning.isSeen : Beginning → Bool
  | .name text => !binaryKeywords.any (·.toList = text.takeWhile Text.isWord)
  | .string => true
  | .point | .negation | .complement | .step => false

theorem trails_of_isNameChar {char : Char} (isName : isNameChar char = true) :
    (Piece.code char).trails = false := by
  apply decide_eq_false
  intro semicolon
  rw [semicolon] at isName
  exact absurd isName (by decide)

/-- The last character of an operand, and what the check takes it for. -/
theorem EndsWith.exists_last {ending : Ending} {tokens : List Piece}
    (ends : EndsWith ending tokens) (fits : ∀ piece ∈ tokens, piece.Fits) :
    ∃ start previous last, tokens = start ++ [previous] ∧ previous.mark? = some last ∧
      previous.trails = false ∧ endsOperand last = ending.isSeen := by
  cases ends with
  | name isName =>
      refine ⟨_, _, _, rfl, rfl, trails_of_isNameChar isName, ?_⟩
      rw [endsOperand, startsOperand_of_isNameChar isName]
      rfl
  | point _ => exact ⟨_, _, _, rfl, rfl, rfl, by decide⟩
  | string =>
      refine ⟨_, _, _, rfl, rfl, rfl, ?_⟩
      have quoted := fits _ (List.mem_append_right _ List.mem_cons_self)
      rw [endsOperand, startsOperand, show Text.isQuote _ = true from quoted]
      simp only [Bool.or_true, Bool.true_or, Ending.isSeen]
  | closer closes =>
      refine ⟨_, _, _, rfl, rfl, ?_, ?_⟩
      · rcases isCloser_iff.mp closes with rfl | rfl | rfl <;> rfl
      · rw [endsOperand, closes, Bool.or_true]
        rfl
  | step isSign =>
      refine ⟨_, _, _, rfl, rfl, ?_, ?_⟩
      · rcases isSign with rfl | rfl <;> rfl
      · rcases isSign with rfl | rfl <;> decide

/-- The first character of a token, and what the check takes it for. -/
theorem BeginsWith.exists_first {beginning : Beginning} {tokens : List Piece}
    (begins : BeginsWith beginning tokens) (lexed : Lexes (textOf tokens) tokens) :
    ∃ next rest first, tokens = next :: rest ∧ next.mark? = some first ∧ next.trails = false ∧
      ((startsOperand first = true →
        ∃ keyword ∈ binaryKeywords, keyword.toList = leadingWord tokens) ↔
          beginning.isSeen = false) := by
  have unseen {first : Char} (other : startsOperand first = false)
      (hidden : beginning.isSeen = false) :
      (startsOperand first = true →
        ∃ keyword ∈ binaryKeywords, keyword.toList = leadingWord tokens) ↔
          beginning.isSeen = false := by
    refine iff_of_true (fun starts => ?_) hidden
    rw [other] at starts
    cases starts
  cases begins with
  | name isName whole =>
      refine ⟨_, _, _, rfl, rfl, trails_of_isNameChar isName, ?_⟩
      rw [startsOperand_of_isNameChar isName, leadingWord_eq_takeWhile_leadingName lexed, whole]
      simp [Beginning.isSeen]
  | point _ => exact ⟨_, _, _, rfl, rfl, rfl, unseen (by decide) rfl⟩
  | @string rest quote text =>
      refine ⟨_, _, _, rfl, rfl, rfl, ?_⟩
      have quoted : Text.isQuote quote = true := lexed.fits _ List.mem_cons_self
      have starts : startsOperand quote = true := by rw [startsOperand, quoted, Bool.or_true]
      have noKeyword : ¬ ∃ keyword ∈ binaryKeywords, keyword.toList = [] := by decide
      exact iff_of_false (fun joins => noKeyword (joins starts)) (by decide)
  | negation => exact ⟨_, _, _, rfl, rfl, rfl, unseen (by decide) rfl⟩
  | complement => exact ⟨_, _, _, rfl, rfl, rfl, unseen (by decide) rfl⟩
  | step isSign =>
      rcases isSign with rfl | rfl
      · exact ⟨_, _, _, rfl, rfl, rfl, unseen (by decide) rfl⟩
      · exact ⟨_, _, _, rfl, rfl, rfl, unseen (by decide) rfl⟩

/-! ### Two scripts on two lines -/

/-- The check gets to the end of the last token of an accepted script with no bracket open. -/
theorem exists_reads_of_accepted {script : List Char} {start gap : List Piece} {previous : Piece}
    (accepted : refusal? script = none) (split : pieces script = start ++ [previous] ++ gap)
    (isGap : IsGap gap) (stays : previous.trails = false) :
    ∃ middle, Scan.initial.Reads (start ++ [previous]) [] middle ∧ middle.due = [] := by
  obtain ⟨_, accepted⟩ := refusal?_eq_none_iff_trimmed.mp accepted
  have keeps : trimmed (pieces script) = start ++ [previous] ++ trimmed gap := by
    rw [split, trimmed_concat_append stays]
  have leftGap : IsGap (trimmed gap) := fun piece member =>
    isGap piece ((List.rdropWhile_prefix Piece.trails gap).subset member)
  rw [keeps, Scan.refusal?_eq_none_iff] at accepted
  obtain ⟨final, run, complete⟩ := accepted
  obtain ⟨middle, start, later⟩ := run.split
  have sameDue := later.dueAfter?_eq
  rw [codeOf_of_isGap leftGap] at sameDue
  have noWord : leadingWord (trimmed gap ++ []) = leadingWord [] := by
    rw [List.append_nil]
    apply Scan.leadingWord_eq_nil
    intro char rest begins
    have unmarked := leftGap (.code char) (by simp [begins])
    cases unmarked
  exact ⟨middle, start.congr_rest noWord, (Option.some.inj sameDue).trans complete⟩

/-- The first token of an accepted script is read where a line begins. -/
theorem exists_scan_of_accepted {script : List Char} {gap rest : List Piece} {piece : Piece}
    {first : Char} (accepted : refusal? script = none)
    (split : pieces script = gap ++ piece :: rest) (isGap : IsGap gap)
    (mark : piece.mark? = some first) (stays : piece.trails = false) :
    ∃ scan : Scan, scan.due = [] ∧ scan.refusal? (piece :: trimmed rest) = none ∧
      ∀ keyword ∈ statementKeywords, keyword.toList ≠ leadingWord (piece :: trimmed rest) := by
  have closed : ∀ piece ∈ gap, piece.IsClosed := fun piece member =>
    isClosed_of_accepted accepted piece (by simp [split, member])
  obtain ⟨_, accepted⟩ := refusal?_eq_none_iff_trimmed.mp accepted
  have keeps : trimmed (pieces script) = gap ++ piece :: trimmed rest := by
    rw [split, trimmed_append, trimmed_cons stays, if_neg (List.cons_ne_nil _ _)]
  obtain ⟨scan, run, due, _, lineStart⟩ :=
    Scan.initial.reads_gap (piece :: trimmed rest) isGap closed
  rw [keeps, run.refusal?_append] at accepted
  have allows := (Scan.refusal?_elsewhere mark rfl accepted).mp accepted
  exact ⟨scan, due, accepted, (allows lineStart).1⟩

/-- Two accepted scripts are refused on two lines when the tokens at the line break look like two
operands that no keyword joins. -/
theorem refusal?_lines_eq_none_iff {first second : List Char} {start gap lead rest : List Piece}
    {previous next : Piece} {last char : Char} (firstAccepted : refusal? first = none)
    (firstSplit : pieces first = start ++ [previous] ++ gap) (isGap : IsGap gap)
    (isLast : previous.mark? = some last) (stays : previous.trails = false)
    (secondAccepted : refusal? second = none) (secondSplit : pieces second = lead ++ next :: rest)
    (isLead : IsGap lead) (isFirst : next.mark? = some char) (staysNext : next.trails = false) :
    refusal? (first ++ '\n' :: second) = none ↔
      (endsOperand last = true → startsOperand char = true →
        ∃ keyword ∈ binaryKeywords, keyword.toList = leadingWord (next :: rest)) := by
  obtain ⟨middle, run, outside⟩ := exists_reads_of_accepted firstAccepted firstSplit isGap stays
  obtain ⟨other, otherOutside, accepted, noStatement⟩ :=
    exists_scan_of_accepted secondAccepted secondSplit isLead isFirst staysNext
  have firstClosed := isClosed_of_accepted firstAccepted
  have secondClosed := isClosed_of_accepted secondAccepted
  -- On two lines the gaps around the break are one gap.
  let between := gap ++ .blank '\n' :: lead
  have betweenIsGap : IsGap between :=
    List.forall_mem_append.mpr ⟨isGap, List.forall_mem_cons.mpr ⟨rfl, isLead⟩⟩
  have betweenClosed : ∀ piece ∈ between, piece.IsClosed := by
    refine List.forall_mem_append.mpr ⟨fun piece member => ?_, List.forall_mem_cons.mpr
      ⟨trivial, fun piece member => ?_⟩⟩
    · exact firstClosed piece (by simp [firstSplit, member])
    · exact secondClosed piece (by simp [secondSplit, member])
  have breaks : ∃ piece ∈ between, piece.breaksLine = true :=
    ⟨.blank '\n', List.mem_append_right _ List.mem_cons_self, rfl⟩
  have keeps : trimmed (pieces (first ++ '\n' :: second)) =
      start ++ [previous] ++ (between ++ next :: trimmed rest) := by
    have whole : pieces (first ++ '\n' :: second) =
        start ++ [previous] ++ between ++ next :: rest := by
      rw [pieces_append_newline firstClosed, firstSplit, secondSplit]
      simp only [between, List.append_assoc, List.cons_append]
    rw [whole, trimmed_append, trimmed_cons staysNext, if_neg (List.cons_ne_nil _ _),
      List.append_assoc]
  have noWord : leadingWord (between ++ next :: trimmed rest) = [] :=
    leadingWord_gap betweenIsGap (List.append_ne_nil_of_right_ne_nil _ (List.cons_ne_nil _ _)) _
  have sameWord : leadingWord (next :: trimmed rest) = leadingWord (next :: rest) := by
    rw [← trimmed_cons staysNext, leadingWord_trimmed]
  rw [refusal?_eq_none_iff_trimmed, keeps, and_iff_right (by simp), ← sameWord,
    (run.congr_rest noWord.symm).refusal?_append,
    Scan.refusal?_after_break outside (run.last_eq isLast) betweenIsGap betweenClosed breaks
      isFirst otherOutside accepted, MayContinue, and_iff_right noStatement]

/-- **A line break between two operands.** Two accepted scripts, the first with an operand at its
end and the second with a token at its start that cannot go on with it, are refused on two lines
exactly when the check sees both the end and the beginning. It sees neither the point of a number
nor a sign, and of a name at the start only the part before a dollar sign. -/
theorem break_between_operands_iff {first second : List Char} {ending : Ending}
    {beginning : Beginning} (firstAccepted : refusal? first = none)
    (secondAccepted : refusal? second = none) (ends : EndsIn first ending)
    (begins : BeginsIn second beginning) :
    refusal? (first ++ '\n' :: second) ≠ none ↔
      ending.isSeen = true ∧ beginning.isSeen = true := by
  obtain ⟨tokens, gap, firstSplit, isGap, ends⟩ := ends
  obtain ⟨lead, later, secondSplit, isLead, begins⟩ := begins
  have firstLexed := lexes_pieces first
  have secondLexed := lexes_pieces second
  rw [firstSplit] at firstLexed
  rw [secondSplit] at secondLexed
  obtain ⟨start, previous, last, rfl, isLast, stays, sameEnd⟩ :=
    ends.exists_last fun piece member => firstLexed.fits piece (List.mem_append_left _ member)
  obtain ⟨next, rest, char, rfl, isFirst, staysNext, sameBeginning⟩ :=
    begins.exists_first secondLexed.drop
  rw [Ne, refusal?_lines_eq_none_iff firstAccepted firstSplit isGap isLast stays secondAccepted
    secondSplit isLead isFirst staysNext, sameEnd, sameBeginning, Classical.not_imp,
    Bool.not_eq_false]

theorem break_between_calls :
    refusal? "f() // x".toList = none ∧ refusal? "/* y */ b".toList = none ∧
      EndsIn "f() // x".toList .closer ∧ BeginsIn "/* y */ b".toList (.name "b".toList) ∧
      (refusal? "f() // x\n/* y */ b".toList ≠ none ↔
        Ending.closer.isSeen = true ∧ (Beginning.name "b".toList).isSeen = true) := by
  have firstAccepted : refusal? "f() // x".toList = none := by decide +kernel
  have secondAccepted : refusal? "/* y */ b".toList = none := by decide +kernel
  have ends : EndsIn "f() // x".toList .closer :=
    ⟨[.code 'f', .code '('] ++ [.code ')'], [.blank ' ', .lineComment " x".toList],
      by decide +kernel, by decide, .closer (by decide)⟩
  have begins : BeginsIn "/* y */ b".toList (.name "b".toList) :=
    ⟨[.blockComment " y ".toList, .blank ' '], [.code 'b'], by decide +kernel, by decide,
      .name (by decide) (by decide)⟩
  exact ⟨firstAccepted, secondAccepted, ends, begins,
    break_between_operands_iff firstAccepted secondAccepted ends begins⟩

theorem break_after_step_is_unseen :
    EndsIn "a++".toList .step ∧ BeginsIn "b".toList (.name "b".toList) ∧
      refusal? "a++".toList = none ∧ refusal? "b".toList = none ∧
      refusal? "a++\nb".toList = none := by
  refine ⟨⟨[.code 'a'] ++ [.code '+'] ++ [.code '+'], [], ?_⟩, ⟨[], [.code 'b'], ?_⟩, ?_⟩
  · exact ⟨by decide +kernel, List.forall_mem_nil _, .step (.inl rfl)⟩
  · exact ⟨by decide +kernel, List.forall_mem_nil _, .name (by decide) (by decide)⟩
  · decide +kernel

/-! ### A line break after an operator keyword -/

/-- The keywords of operators with an operand after them. -/
def operatorKeywords : List String := ["new", "typeof", "void", "delete", "in", "instanceof"]

/-- In a text an operator keyword, perhaps as the end of a longer name, stands outside comments,
string literals and brackets. White space follows it, and then a token, of which the first character
is given. -/
structure OperatorAt (before : List Char) (keyword : String) (gap after : List Char)
    (first : Char) : Prop where
  isOperator : keyword ∈ operatorKeywords
  cut : pieces (before ++ (keyword.toList ++ (gap ++ after))) =
    pieces before ++ pieces (keyword.toList ++ (gap ++ after))
  outside : depth (codeOf (pieces before)) = 0
  spaced : gap ≠ []
  blank : ∀ char ∈ gap, Text.isBlank char = true
  token : (pieces after).head?.bind Piece.mark? = some first

theorem codeOf_name (name : List Char) : codeOf (name.map .code) = name := by
  rw [codeOf, List.filterMap_map]
  exact List.filterMap_some

theorem depth_append_name {name : List Char} (isName : ∀ char ∈ name, isNameChar char = true)
    (text : List Char) : depth (text ++ name) = depth text := by
  have noBracket (char : Char) (member : char ∈ name) :
      closerOf? char = none ∧ isCloser char = false :=
    noBracket_of_class (by decide) (isName char member)
  have noOpener : name.countP (fun char => (closerOf? char).isSome) = 0 := by
    rw [List.countP_eq_zero]
    intro char member
    rw [(noBracket char member).1]
    exact Bool.false_ne_true
  have noCloser : name.countP isCloser = 0 := by
    rw [List.countP_eq_zero]
    intro char member
    rw [(noBracket char member).2]
    exact Bool.false_ne_true
  rw [depth, depth, List.countP_append, List.countP_append, noOpener, noCloser, Nat.add_zero,
    Nat.add_zero]

theorem isNameChar_of_mem_operator {keyword : String} (isOperator : keyword ∈ operatorKeywords) :
    ∀ char ∈ keyword.toList, isNameChar char = true := by
  have names : operatorKeywords.all (·.toList.all isNameChar) = true := by decide
  exact List.all_eq_true.mp (List.all_eq_true.mp names keyword isOperator)

theorem ne_nil_of_mem_operator {keyword : String} (isOperator : keyword ∈ operatorKeywords) :
    keyword.toList ≠ [] := by
  have filled : operatorKeywords.all (·.toList ≠ []) = true := by decide
  simpa using List.all_eq_true.mp filled keyword isOperator

/-- The keyword and the white space after it are pieces of their own, with any white space. -/
theorem OperatorAt.pieces_eq {before gap after wider : List Char} {keyword : String} {first : Char}
    (operator : OperatorAt before keyword gap after first)
    (blank : ∀ char ∈ wider, Text.isBlank char = true) :
    pieces (before ++ (keyword.toList ++ (wider ++ after))) =
      pieces before ++ keyword.toList.map .code ++ (wider.map .blank ++ pieces after) := by
  have isName := isNameChar_of_mem_operator operator.isOperator
  have lexed := lexes_pieces (before ++ (keyword.toList ++ (gap ++ after)))
  rw [operator.cut] at lexed
  have replacement : Lexes (textOf (pieces (keyword.toList ++ (wider ++ after))))
      (pieces (keyword.toList ++ (wider ++ after))) := by
    rw [textOf_pieces]
    exact lexes_pieces _
  have sameHead : (textOf (pieces (keyword.toList ++ (wider ++ after)))).head? =
      (textOf (pieces (keyword.toList ++ (gap ++ after)))).head? := by
    obtain ⟨letter, name, same⟩ :=
      List.exists_cons_of_ne_nil (ne_nil_of_mem_operator operator.isOperator)
    rw [textOf_pieces, textOf_pieces, same]
    rfl
  have whole := (lexed.replace_tail replacement sameHead).pieces_eq
  rw [textOf_append, textOf_pieces, textOf_pieces] at whole
  rw [whole, pieces_name_append isName, pieces_blank_append blank, List.append_assoc]

theorem mayContinue_iff_startsWord {last first : Char} (ends : endsOperand last = true)
    (text : List Char) :
    MayContinue last first (leadingWord (pieces text)) ↔
      (∀ statement ∈ statementKeywords, ¬ StartsWord statement text) ∧
        (startsOperand first = true → ∃ joining ∈ binaryKeywords, StartsWord joining text) := by
  have lexed := lexes_pieces text
  have word {keyword : String}
      (isKeyword : keyword ∈ statementKeywords ∨ keyword ∈ binaryKeywords) :
      keyword.toList = leadingWord (pieces text) ↔ StartsWord keyword text := by
    rw [lexed.leadingWord_eq, startsWord_iff (isWord_of_mem_keyword isKeyword)]
  rw [MayContinue, ends]
  constructor
  · intro allowed
    refine ⟨fun statement member starts => ?_, fun startsHere => ?_⟩
    · exact allowed.1 statement member ((word (.inl member)).mpr starts)
    · obtain ⟨joining, member, same⟩ := allowed.2 rfl startsHere
      exact ⟨joining, member, (word (.inr member)).mp same⟩
  · intro allowed
    refine ⟨fun statement member same => ?_, fun _ startsHere => ?_⟩
    · exact allowed.1 statement member ((word (.inl member)).mp same)
    · obtain ⟨joining, member, starts⟩ := allowed.2 startsHere
      exact ⟨joining, member, (word (.inr member)).mpr starts⟩

theorem OperatorAt.exists_next {before gap after : List Char} {keyword : String} {first : Char}
    (operator : OperatorAt before keyword gap after first) :
    ∃ next rest, pieces after = next :: rest ∧ next.mark? = some first := by
  have token := operator.token
  cases split : pieces after with
  | nil =>
      rw [split] at token
      cases token
  | cons next rest =>
      rw [split] at token
      exact ⟨next, rest, rfl, token⟩

/-- The keyword ends with a character of names, outside brackets. -/
theorem OperatorAt.exists_last {before gap after : List Char} {keyword : String} {first : Char}
    (operator : OperatorAt before keyword gap after first) :
    ∃ start letter, pieces before ++ keyword.toList.map .code = start ++ [.code letter] ∧
      isNameChar letter = true ∧ depth (codeOf (start ++ [.code letter])) = 0 := by
  have isName := isNameChar_of_mem_operator operator.isOperator
  obtain ⟨name, letter, spelled⟩ :=
    (List.eq_nil_or_concat' keyword.toList).resolve_left
      (ne_nil_of_mem_operator operator.isOperator)
  have split : pieces before ++ keyword.toList.map .code =
      pieces before ++ name.map .code ++ [.code letter] := by
    rw [spelled, List.map_append, ← List.append_assoc]
    rfl
  refine ⟨_, letter, split, isName letter (by simp [spelled]), ?_⟩
  rw [← split, codeOf_append, codeOf_name, depth_append_name isName]
  exact operator.outside

/-- What is trimmed at the end of a script may follow any line: it is a semicolon. -/
theorem mayContinue_of_trails {piece : Piece} {first : Char} (trails : piece.trails = true)
    (mark : piece.mark? = some first) (last : Char) (rest : List Piece) :
    MayContinue last first (leadingWord (piece :: rest)) := by
  cases piece with
  | code char =>
      obtain rfl : char = ';' := of_decide_eq_true trails
      obtain rfl := Option.some.inj mark
      have noWord : leadingWord (.code ';' :: rest) = [] := by rw [leadingWord, if_neg (by decide)]
      have noKeyword : ∀ keyword ∈ statementKeywords, keyword.toList ≠ [] := by decide
      rw [noWord]
      exact ⟨noKeyword, fun _ starts => absurd starts (by decide)⟩
  | blank _ | lineComment _ | blockComment _ | openComment _ => cases mark
  | string _ _ | openString _ _ => cases trails

/-- Blanks are trimmed with what follows them, or stay with it. -/
theorem trimmed_blanks_append (gap : List Char) (tokens : List Piece) :
    trimmed (gap.map .blank ++ tokens) =
      if trimmed tokens = [] then [] else gap.map .blank ++ trimmed tokens := by
  have trails : ∀ piece ∈ gap.map Piece.blank, piece.trails = true := by
    simp only [List.forall_mem_map]
    exact fun _ _ => rfl
  rw [trimmed_append, trimmed_eq_nil_iff.mpr trails]

/-- **A line break after an operator keyword.** With a line break in the white space after the
keyword, an accepted script is accepted exactly when the next token begins with no statement
keyword, and begins an operand only if it is the keyword of a binary operator. So the check takes
the keyword for an operand of its own. -/
theorem break_after_operator_iff {before gap wider after : List Char} {keyword : String}
    {first : Char} (accepted : refusal? (before ++ (keyword.toList ++ (gap ++ after))) = none)
    (operator : OperatorAt before keyword gap after first)
    (blank : ∀ char ∈ wider, Text.isBlank char = true) (breaks : '\n' ∈ wider) :
    refusal? (before ++ (keyword.toList ++ (wider ++ after))) = none ↔
      (∀ statement ∈ statementKeywords, ¬ StartsWord statement after) ∧
        (startsOperand first = true → ∃ joining ∈ binaryKeywords, StartsWord joining after) := by
  obtain ⟨start, letter, word, isLetter, outside⟩ := operator.exists_last
  obtain ⟨next, rest, afterSplit, isFirst⟩ := operator.exists_next
  have ends : endsOperand letter = true := by
    rw [endsOperand, startsOperand_of_isNameChar isLetter, Bool.true_or]
  have keeps {white : List Char} (blank : ∀ char ∈ white, Text.isBlank char = true) :
      trimmed (pieces (before ++ (keyword.toList ++ (white ++ after)))) =
        start ++ [.code letter] ++ trimmed (white.map .blank ++ pieces after) := by
    rw [operator.pieces_eq blank, word, trimmed_concat_append (trails_of_isNameChar isLetter)]
  rw [refusal?_eq_none_iff_trimmed, keeps operator.blank, trimmed_blanks_append] at accepted
  rw [refusal?_eq_none_iff_trimmed, keeps blank, trimmed_blanks_append,
    ← mayContinue_iff_startsWord ends]
  -- When only semicolons follow, they are trimmed with the white space, and nothing is compared.
  by_cases atEnd : trimmed (pieces after) = []
  · rw [if_pos atEnd] at accepted ⊢
    have trails := trimmed_eq_nil_iff.mp atEnd next (by simp [afterSplit])
    rw [afterSplit]
    exact iff_of_true accepted (mayContinue_of_trails trails isFirst letter rest)
  · rw [if_neg atEnd] at accepted ⊢
    have begins : trimmed (pieces after) <+: next :: rest := by
      rw [← afterSplit]
      exact List.rdropWhile_prefix Piece.trails (pieces after)
    obtain ⟨kept, same, _⟩ := (List.prefix_cons_iff.mp begins).resolve_left atEnd
    rw [same] at accepted
    rw [← leadingWord_trimmed (pieces after), same, and_iff_right (by simp)]
    have spaced : gap.map Piece.blank ≠ [] := List.map_eq_nil_iff.not.mpr operator.spaced
    have closed : ∀ piece ∈ wider.map Piece.blank, piece.IsClosed := by
      simp only [List.forall_mem_map]
      exact fun _ _ => trivial
    exact Scan.refusal?_widen accepted.2 outside rfl (isGap_blanks gap) spaced (isGap_blanks wider)
      closed ⟨_, List.mem_map_of_mem breaks, rfl⟩ isFirst

theorem break_after_typeof :
    refusal? "typeof (x)".toList = none ∧
      OperatorAt [] "typeof" [' '] "(x)".toList '(' ∧
      (refusal? "typeof\n(x)".toList = none ↔
        (∀ statement ∈ statementKeywords, ¬ StartsWord statement "(x)".toList) ∧
          (startsOperand '(' = true →
            ∃ joining ∈ binaryKeywords, StartsWord joining "(x)".toList)) := by
  have accepted : refusal? "typeof (x)".toList = none := by decide +kernel
  have operator : OperatorAt [] "typeof" [' '] "(x)".toList '(' := by
    refine ⟨by decide, ?_, ?_, by decide, List.forall_mem_singleton.mpr (by decide), ?_⟩
    all_goals decide +kernel
  have blank : ∀ char ∈ ['\n'], Text.isBlank char = true :=
    List.forall_mem_singleton.mpr (by decide)
  exact ⟨accepted, operator, break_after_operator_iff accepted operator blank (by decide)⟩

theorem typeof_needs_its_line :
    OperatorAt [] "typeof" [' '] "a".toList 'a' ∧ refusal? "typeof a".toList = none ∧
      refusal? "typeof\na".toList = some .multipleStatements := by
  refine ⟨⟨by decide, ?_, ?_, by decide, List.forall_mem_singleton.mpr (by decide), ?_⟩, ?_⟩
  all_goals decide +kernel

end ScriptGate.Expression
