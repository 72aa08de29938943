import ScriptGate.Proofs.Expression.Lexing
import ScriptGate.Proofs.Expression.Nesting

/-! # Runs of the expression check

One step of the check reads one piece: `Scan.read_eq_ok_iff` says when it succeeds and what it
leaves. A run over some pieces is a chain of such steps (`Scan.Reads`), made with the pieces that
follow in view. Inside brackets a run only minds the brackets (`Scan.reads_within`). -/

namespace ScriptGate.Expression

/-- The character by which a piece counts at the start or the end of a line. White space and
comments have none. -/
def Piece.mark? : Piece → Option Char
  | .code char => some char
  | .string quote _ => some quote
  | .openString quote _ => some quote
  | _ => none

/-- Whether a piece of white space or a comment has a line feed. A line comment ends before its. -/
def Piece.breaksLine : Piece → Bool
  | .blank char => char = '\n'
  | .blockComment text => text.contains '\n'
  | _ => false

namespace Scan

/-- What is known after a piece that leaves the given closing brackets due. -/
def after (scan : Scan) (piece : Piece) (due : List Char) : Scan where
  due := due
  last := piece.mark?.or scan.last
  lineStart := piece.mark?.isNone && (scan.lineStart || (scan.due.isEmpty && piece.breaksLine))
  offset := scan.offset + piece.text.length

/-- A character and the word it begins may stand next: at the start of a line the word is no
statement keyword, and after an operand no operand follows unless its word joins the two. -/
def AllowsLine (scan : Scan) (first : Char) (word : List Char) : Prop :=
  scan.lineStart = true →
    (∀ keyword ∈ statementKeywords, keyword.toList ≠ word) ∧
    ∀ last ∈ scan.last, endsOperand last = true → startsOperand first = true →
      ∃ keyword ∈ binaryKeywords, keyword.toList = word

/-- The check goes over some pieces, with others after them, and refuses none. -/
inductive Reads : Scan → List Piece → List Piece → Scan → Prop where
  | nil {scan : Scan} {rest : List Piece} : Reads scan [] rest scan
  | cons {scan next final : Scan} {piece : Piece} {tail rest : List Piece}
      (step : scan.read piece (tail ++ rest) = .ok next) (later : Reads next tail rest final) :
      Reads scan (piece :: tail) rest final

/-! ### One step -/

theorem lineRefusal?_eq_none_iff {scan : Scan} {first : Char} {line : List Piece} :
    scan.lineRefusal? first line = none ↔ scan.AllowsLine first (leadingWord line) := by
  unfold lineRefusal? AllowsLine
  by_cases lineStart : scan.lineStart = true
  · simp only [lineStart, Bool.not_true, Bool.false_eq_true, ↓reduceIte, forall_const]
    cases found : statementKeywords.find? (·.toList = leadingWord line) with
    | some keyword =>
        have same := List.find?_some found
        have member := List.mem_of_find?_eq_some found
        rw [decide_eq_true_eq] at same
        refine iff_of_false ?_ fun allowed => allowed.1 keyword member same
        cases scan.last <;> exact Option.some_ne_none _
    | none =>
        have noKeyword : ∀ keyword ∈ statementKeywords, keyword.toList ≠ leadingWord line := by
          intro keyword member
          simpa using List.find?_eq_none.mp found keyword member
        rw [and_iff_right noKeyword]
        cases scan.last with
        | none => simp
        | some last =>
            have joins : binaryKeywords.any (·.toList = leadingWord line) = true ↔
                ∃ keyword ∈ binaryKeywords, keyword.toList = leadingWord line := by
              simp only [List.any_eq_true, decide_eq_true_eq]
            simp only [Option.mem_def, Option.some.injEq, forall_eq', ← joins, ite_eq_right_iff,
              Bool.and_eq_true, Bool.not_eq_true', reduceCtorEq, imp_false, not_and,
              Bool.not_eq_false]
            exact ⟨fun given ends starts => given ⟨ends, starts⟩,
              fun given both => given both.1 both.2⟩
  · rw [Bool.not_eq_true] at lineStart
    simp only [lineStart, Bool.not_false, ↓reduceIte, Bool.false_eq_true, IsEmpty.forall_iff]

theorem readCode_eq_ok_iff {scan next : Scan} {char : Char} :
    scan.readCode char = .ok next ↔
      (char = ';' → scan.due ≠ []) ∧
        ∃ due, dueAfterChar? scan.due char = some due ∧ next = scan.after (.code char) due := by
  unfold readCode dueAfterChar? after
  cases kind : closerOf? char with
  | some closer =>
      have notSemicolon : char ≠ ';' := by
        rintro rfl
        exact absurd kind nofun
      simp [notSemicolon, Piece.mark?, Piece.text, eq_comm]
  | none =>
      by_cases closes : isCloser char = true
      · have notSemicolon : char ≠ ';' := by
          rintro rfl
          exact absurd closes (by decide)
        cases scan.due with
        | nil => simp [closes]
        | cons first outer =>
            by_cases same : first = char
            · simp [closes, same, notSemicolon, Piece.mark?, Piece.text, eq_comm]
            · simp [closes, same]
      · rw [Bool.not_eq_true] at closes
        by_cases separates : char = ';' ∧ scan.due = []
        · simp [separates, show isCloser ';' = false from rfl]
        · have goesOn : (decide (char = ';') && scan.due.isEmpty) = false := by
            simpa only [Bool.and_eq_false_iff, decide_eq_false_iff_not, List.isEmpty_eq_false_iff,
              not_and_or] using separates
          rw [and_iff_right (not_and.mp separates)]
          simp only [closes, goesOn, Bool.false_eq_true, ↓reduceIte, Except.ok.injEq,
            Option.some.injEq, exists_eq_left']
          exact eq_comm

theorem dueAfter?_unmarked {piece : Piece} (unmarked : piece.mark? = none) (due : List Char) :
    dueAfter? due (codeOf [piece]) = some due := by
  cases piece <;> first | rfl | cases unmarked

/-- **One step of the check.** A piece is read when it ends, may stand at the start of its line, is
no semicolon outside brackets, and closes no bracket that is not open. -/
theorem read_eq_ok_iff {scan next : Scan} {piece : Piece} {rest : List Piece} :
    scan.read piece rest = .ok next ↔
      piece.IsClosed ∧
      (∀ first ∈ piece.mark?, scan.AllowsLine first (leadingWord (piece :: rest))) ∧
      (piece = .code ';' → scan.due ≠ []) ∧
      ∃ due, dueAfter? scan.due (codeOf [piece]) = some due ∧ next = scan.after piece due := by
  have skips (unmarked : piece.mark? = none) (closed : piece.IsClosed)
      (read : scan.read piece rest = .ok (scan.skip piece piece.breaksLine)) :
      scan.read piece rest = .ok next ↔
        piece.IsClosed ∧
        (∀ first ∈ piece.mark?, scan.AllowsLine first (leadingWord (piece :: rest))) ∧
        (piece = .code ';' → scan.due ≠ []) ∧
        ∃ due, dueAfter? scan.due (codeOf [piece]) = some due ∧ next = scan.after piece due := by
    have noCode : piece ≠ .code ';' := by
      rintro rfl
      cases unmarked
    simp [read, unmarked, closed, noCode, dueAfter?_unmarked, skip, after, eq_comm]
  cases piece with
  | blank char => exact skips rfl trivial rfl
  | lineComment text => exact skips rfl trivial rfl
  | blockComment text => exact skips rfl trivial rfl
  | openComment text => simp [read, Piece.IsClosed]
  | openString quote text => simp [read, Piece.IsClosed]
  | string quote text =>
      simp only [read, ← lineRefusal?_eq_none_iff]
      cases refused : scan.lineRefusal? quote (.string quote text :: rest) with
      | none => simp [refused, Piece.IsClosed, Piece.mark?, codeOf, dueAfter?, after, eq_comm]
      | some refusal => simp [refused, Piece.mark?]
  | code char =>
      simp only [read, ← lineRefusal?_eq_none_iff]
      cases refused : scan.lineRefusal? char (.code char :: rest) with
      | none =>
          have code : codeOf [Piece.code char] = [char] := rfl
          simp only [readCode_eq_ok_iff, code, dueAfter?_singleton]
          simp [refused, Piece.IsClosed, Piece.mark?]
      | some refusal => simp [refused, Piece.mark?]

/-- Within a line only the brackets matter, and semicolons outside them. -/
theorem read_inLine (scan : Scan) {piece : Piece} (rest : List Piece) {due : List Char}
    (inLine : scan.lineStart = false) (closed : piece.IsClosed)
    (enclosed : piece = .code ';' → scan.due ≠ [])
    (read : dueAfter? scan.due (codeOf [piece]) = some due) :
    scan.read piece rest = .ok (scan.after piece due) := by
  refine read_eq_ok_iff.mpr ⟨closed, ?_, enclosed, due, read, rfl⟩
  intro first _ lineStart
  exact absurd (inLine.symm.trans lineStart) Bool.false_ne_true

/-- Of what follows a piece, a step sees the word it begins with. -/
theorem read_congr (scan : Scan) (piece : Piece) {rest others : List Piece}
    (same : leadingWord rest = leadingWord others) :
    scan.read piece rest = scan.read piece others := by
  cases piece with
  | code char =>
      have sameWord : leadingWord (.code char :: rest) = leadingWord (.code char :: others) := by
        simp only [leadingWord, same]
      simp only [read, lineRefusal?, sameWord]
  | _ => rfl

theorem refusal?_cons_of_ok {scan next : Scan} {piece : Piece} {rest : List Piece}
    (step : scan.read piece rest = .ok next) :
    scan.refusal? (piece :: rest) = next.refusal? rest := by
  simp only [refusal?, readAll, step]

theorem refusal?_cons_of_error {scan : Scan} {refusal : Refusal} {piece : Piece}
    {rest : List Piece} (step : scan.read piece rest = .error refusal) :
    scan.refusal? (piece :: rest) = some refusal := by
  simp only [refusal?, readAll, step]

/-! ### Runs -/

theorem readAll_eq_ok_iff {scan final : Scan} {pieces : List Piece} :
    scan.readAll pieces = .ok final ↔ scan.Reads pieces [] final := by
  induction pieces generalizing scan with
  | nil =>
      rw [readAll, Except.ok.injEq]
      constructor
      · rintro rfl
        exact .nil
      · rintro ⟨⟩
        rfl
  | cons piece tail ih =>
      rw [readAll]
      constructor
      · intro read
        split at read
        next next step => exact .cons (by rwa [List.append_nil]) (ih.mp read)
        next => cases read
      · rintro ⟨⟩
        next next step later =>
          rw [List.append_nil] at step
          rw [step]
          exact ih.mpr later

/-- The check accepts the pieces that a run goes over to the end, with no bracket left open. -/
theorem refusal?_eq_none_iff {scan : Scan} {pieces : List Piece} :
    scan.refusal? pieces = none ↔ ∃ final, scan.Reads pieces [] final ∧ final.due = [] := by
  unfold refusal?
  cases read : scan.readAll pieces with
  | ok final =>
      have run := readAll_eq_ok_iff.mp read
      by_cases complete : final.due = []
      · simp only [complete, List.isEmpty_nil, ↓reduceIte, true_iff]
        exact ⟨final, run, complete⟩
      · refine iff_of_false ?_ ?_
        · simp only [List.isEmpty_eq_false_iff.mpr complete, Bool.false_eq_true, ↓reduceIte,
            reduceCtorEq, not_false_eq_true]
        · rintro ⟨other, otherRun, otherComplete⟩
          rw [readAll_eq_ok_iff.mpr otherRun, Except.ok.injEq] at read
          exact complete (read ▸ otherComplete)
  | error refusal =>
      refine iff_of_false (Option.some_ne_none _) ?_
      rintro ⟨final, run, _⟩
      rw [readAll_eq_ok_iff.mpr run] at read
      cases read

theorem Reads.append {scan middle final : Scan} {first second rest : List Piece}
    (start : scan.Reads first (second ++ rest) middle) (later : middle.Reads second rest final) :
    scan.Reads (first ++ second) rest final := by
  induction first generalizing scan with
  | nil =>
      cases start
      exact later
  | cons piece tail ih =>
      cases start with
      | cons step following =>
          rw [← List.append_assoc] at step
          exact .cons step (ih following)

theorem Reads.complete {scan middle final : Scan} {first second : List Piece}
    (start : scan.Reads first second middle) (later : middle.Reads second [] final) :
    scan.Reads (first ++ second) [] final := by
  rw [← List.append_nil second] at start
  exact start.append later

theorem Reads.split {scan final : Scan} {first second rest : List Piece}
    (run : scan.Reads (first ++ second) rest final) :
    ∃ middle, scan.Reads first (second ++ rest) middle ∧ middle.Reads second rest final := by
  induction first generalizing scan with
  | nil => exact ⟨scan, .nil, run⟩
  | cons piece tail ih =>
      rw [List.cons_append] at run
      cases run with
      | cons step following =>
          obtain ⟨middle, start, later⟩ := ih following
          rw [List.append_assoc] at step
          exact ⟨middle, .cons step start, later⟩

theorem leadingWord_append_congr {rest others : List Piece}
    (same : leadingWord rest = leadingWord others) (tail : List Piece) :
    leadingWord (tail ++ rest) = leadingWord (tail ++ others) := by
  induction tail with
  | nil => exact same
  | cons piece tail ih =>
      cases piece with
      | code char => simp only [List.cons_append, leadingWord, ih]
      | _ => rfl

theorem leadingWord_eq_nil {tokens : List Piece}
    (noWord : ∀ char rest, tokens = .code char :: rest → Text.isWord char = false) :
    leadingWord tokens = [] := by
  cases tokens with
  | nil => rfl
  | cons piece rest =>
      cases piece with
      | code char => rw [leadingWord, if_neg (by rw [noWord char rest rfl]; decide)]
      | _ => rfl

theorem Reads.last_eq {scan final : Scan} {start rest : List Piece} {previous : Piece}
    {last : Char} (run : scan.Reads (start ++ [previous]) rest final)
    (mark : previous.mark? = some last) : final.last = some last := by
  obtain ⟨_, _, later⟩ := run.split
  cases later with
  | cons step done =>
      cases done
      obtain ⟨_, _, _, due, _, rfl⟩ := read_eq_ok_iff.mp step
      rw [after, mark, Option.some_or]

/-- A run goes on alike before pieces that begin with the same word. -/
theorem Reads.congr_rest {scan final : Scan} {pieces rest others : List Piece}
    (run : scan.Reads pieces rest final) (same : leadingWord rest = leadingWord others) :
    scan.Reads pieces others final := by
  induction run with
  | nil => exact .nil
  | @cons _ _ _ piece tail _ step _ ih =>
      rw [read_congr _ piece (leadingWord_append_congr same tail)] at step
      exact .cons step (ih same)

/-- What a run leaves decides about the pieces after it. -/
theorem Reads.refusal?_append {scan middle : Scan} {first second : List Piece}
    (run : scan.Reads first second middle) :
    scan.refusal? (first ++ second) = middle.refusal? second := by
  induction first generalizing scan with
  | nil =>
      cases run
      rfl
  | cons piece tail ih =>
      cases run with
      | cons step following =>
          rw [List.cons_append, refusal?_cons_of_ok step]
          exact ih following

/-- Pieces are refused for one of them, which a run reaches, or for the brackets they leave open. -/
theorem exists_reads_of_refusal? {scan : Scan} {pieces : List Piece} {refusal : Refusal}
    (refused : scan.refusal? pieces = some refusal) :
    (∃ before piece after reached, pieces = before ++ piece :: after ∧
      scan.Reads before (piece :: after) reached ∧ reached.read piece after = .error refusal) ∨
    refusal = .unbalancedBrackets := by
  induction pieces generalizing scan with
  | nil =>
      simp only [refusal?, readAll] at refused
      split at refused
      · cases refused
      · exact .inr (Option.some.inj refused).symm
  | cons piece tail ih =>
      cases step : scan.read piece tail with
      | ok next =>
          rw [refusal?_cons_of_ok step] at refused
          rcases ih refused with ⟨before, found, after, reached, rfl, run, stops⟩ | atEnd
          · exact .inl ⟨piece :: before, found, after, reached, rfl, .cons step run, stops⟩
          · exact .inr atEnd
      | error reason =>
          rw [refusal?_cons_of_error step, Option.some.injEq] at refused
          exact .inl ⟨[], piece, tail, scan, rfl, .nil, refused ▸ step⟩

/-- Runs over white space and comments go through, and only mind the line feeds. -/
theorem reads_gap (scan : Scan) {gap : List Piece} (rest : List Piece)
    (unmarked : ∀ piece ∈ gap, piece.mark? = none) (closed : ∀ piece ∈ gap, piece.IsClosed) :
    ∃ final, scan.Reads gap rest final ∧ final.due = scan.due ∧ final.last = scan.last ∧
      final.lineStart = (scan.lineStart || (scan.due.isEmpty && gap.any Piece.breaksLine)) := by
  induction gap generalizing scan with
  | nil => exact ⟨scan, .nil, rfl, rfl, by simp⟩
  | cons piece gap ih =>
      obtain ⟨unmarkedHere, unmarkedLater⟩ := List.forall_mem_cons.mp unmarked
      obtain ⟨closedHere, closedLater⟩ := List.forall_mem_cons.mp closed
      have step : scan.read piece (gap ++ rest) = .ok (scan.after piece scan.due) := by
        refine read_eq_ok_iff.mpr ⟨closedHere, ?_, ?_, scan.due, dueAfter?_unmarked unmarkedHere _,
          rfl⟩
        · simp [unmarkedHere]
        · rintro rfl
          cases unmarkedHere
      obtain ⟨final, run, due, last, lineStart⟩ := ih (scan.after piece scan.due) unmarkedLater
        closedLater
      refine ⟨final, .cons step run, due, ?_, ?_⟩
      · rw [last, after, unmarkedHere, Option.none_or]
      · rw [lineStart, List.any_cons, Bool.and_or_distrib_left, ← Bool.or_assoc]
        simp [after, unmarkedHere]

/-- A run goes over pieces that end. -/
theorem Reads.isClosed {scan final : Scan} {pieces rest : List Piece}
    (run : scan.Reads pieces rest final) : ∀ piece ∈ pieces, piece.IsClosed := by
  induction run with
  | nil => exact fun _ member => absurd member List.not_mem_nil
  | cons step _ ih => exact List.forall_mem_cons.mpr ⟨(read_eq_ok_iff.mp step).1, ih⟩

/-- A run keeps count of the brackets. -/
theorem Reads.dueAfter?_eq {scan final : Scan} {pieces rest : List Piece}
    (run : scan.Reads pieces rest final) :
    dueAfter? scan.due (codeOf pieces) = some final.due := by
  induction run with
  | nil => rfl
  | cons step _ ih =>
      obtain ⟨_, _, _, due, read, rfl⟩ := read_eq_ok_iff.mp step
      rw [codeOf_cons, dueAfter?_append_of_eq_some read]
      exact ih

/-- **Runs inside brackets.** While some brackets stay open around them, pieces that end are read
without regard to lines and semicolons. -/
theorem reads_within (scan : Scan) {pieces : List Piece} (rest : List Piece)
    {inner next outer : List Char} (enclosed : outer ≠ []) (due : scan.due = inner ++ outer)
    (inLine : scan.lineStart = false) (closed : ∀ piece ∈ pieces, piece.IsClosed)
    (read : dueAfter? inner (codeOf pieces) = some next) :
    ∃ final, scan.Reads pieces rest final ∧ final.due = next ++ outer ∧
      final.lineStart = false := by
  induction pieces generalizing scan inner with
  | nil =>
      rw [codeOf, List.filterMap_nil, dueAfter?, Option.some.injEq] at read
      exact ⟨scan, .nil, read ▸ due, inLine⟩
  | cons piece tail ih =>
      rw [codeOf_cons, dueAfter?_append, Option.bind_eq_some_iff] at read
      obtain ⟨middle, here, later⟩ := read
      have stillEnclosed : scan.due ≠ [] := by
        rw [due]
        exact List.append_ne_nil_of_right_ne_nil inner enclosed
      have step : scan.read piece (tail ++ rest) = .ok (scan.after piece (middle ++ outer)) :=
        read_inLine scan _ inLine (closed piece List.mem_cons_self) (fun _ => stillEnclosed)
          (due ▸ dueAfter?_outer here outer)
      have stillInLine : (scan.after piece (middle ++ outer)).lineStart = false := by
        simp only [after, inLine, List.isEmpty_eq_false_iff.mpr stillEnclosed, Bool.false_and,
          Bool.or_self, Bool.and_false]
      obtain ⟨final, run, finalDue, finalInLine⟩ :=
        ih _ rfl stillInLine (List.forall_mem_cons.mp closed).2 later
      exact ⟨final, .cons step run, finalDue, finalInLine⟩

end Scan
end ScriptGate.Expression
