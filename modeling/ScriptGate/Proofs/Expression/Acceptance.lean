import ScriptGate.Proofs.Expression.Reading

/-! # The language of the expression check

A script is a single expression when its pieces are one (`IsExpression`): every piece ends, the
brackets are nested, no semicolon stands outside them, and no line outside them begins a statement.
Each piece is judged by the pieces around it. The check keeps only a few facts about what it has
read; that they suffice for the judgement is the invariant `Scan.Describes`. -/

namespace ScriptGate.Expression

/-- A keyword stands at the start of a text, and no word character follows it. -/
def StartsWord (keyword : String) (text : List Char) : Prop :=
  ∃ rest, text = keyword.toList ++ rest ∧ ∀ char ∈ rest.head?, Text.isWord char = false

/-- Nothing but white space and comments. -/
def IsGap (pieces : List Piece) : Prop := ∀ piece ∈ pieces, piece.mark? = none

instance (pieces : List Piece) : Decidable (IsGap pieces) :=
  inferInstanceAs (Decidable (∀ piece ∈ pieces, piece.mark? = none))

/-- After some pieces comes the first code character or string literal of a line outside brackets;
the mark of the one before it is given, unless it is the first of all. -/
inductive FirstOfLine : List Piece → Option Char → Prop where
  | start {gap : List Piece} (isGap : IsGap gap) : FirstOfLine gap none
  | next {earlier gap : List Piece} {previous : Piece} {last : Char}
      (mark : previous.mark? = some last) (isGap : IsGap gap)
      (outside : depth (codeOf (earlier ++ [previous])) = 0)
      (feed : ∃ piece ∈ gap, piece.breaksLine = true) :
      FirstOfLine (earlier ++ previous :: gap) (some last)

/-- A piece may stand between the pieces before it and those after it. A comment or string literal
ends, a semicolon stands inside brackets, no line outside brackets begins with a statement keyword,
and no line feed outside brackets separates two operands that no keyword joins. -/
structure MayStand (before : List Piece) (piece : Piece) (after : List Piece) : Prop where
  closed : piece.IsClosed
  noSeparator : piece = .code ';' → depth (codeOf before) ≠ 0
  noStatement : ∀ first last, piece.mark? = some first → FirstOfLine before last →
    ∀ keyword ∈ statementKeywords, ¬ StartsWord keyword (textOf (piece :: after))
  noSplit : ∀ first last, piece.mark? = some first → FirstOfLine before (some last) →
    endsOperand last = true → startsOperand first = true →
      ∃ keyword ∈ binaryKeywords, StartsWord keyword (textOf (piece :: after))

/-- The pieces of a single expression: the brackets outside comments and string literals are nested,
and every piece may stand at its place. -/
structure IsExpression (tokens : List Piece) : Prop where
  nested : Nested (codeOf tokens)
  mayStand : ∀ before piece after, tokens = before ++ piece :: after → MayStand before piece after

/-! ### Words -/

theorem startsWord_iff {keyword : String} {text : List Char}
    (isWord : ∀ char ∈ keyword.toList, Text.isWord char = true) :
    StartsWord keyword text ↔ keyword.toList = text.takeWhile Text.isWord := by
  constructor
  · rintro ⟨rest, rfl, boundary⟩
    rw [List.takeWhile_append_of_pos isWord]
    cases rest with
    | nil => rw [List.takeWhile_nil, List.append_nil]
    | cons char rest =>
        rw [List.takeWhile_cons_of_neg, List.append_nil]
        rw [boundary char rfl]
        exact Bool.false_ne_true
  · intro same
    refine ⟨text.dropWhile Text.isWord, ?_, ?_⟩
    · rw [same, List.takeWhile_append_dropWhile]
    · intro char first
      have stopped := List.head?_dropWhile_not Text.isWord text
      rw [Option.mem_def.mp first] at stopped
      simpa using stopped

theorem isWord_of_mem_keyword {keyword : String}
    (isKeyword : keyword ∈ statementKeywords ∨ keyword ∈ binaryKeywords) :
    ∀ char ∈ keyword.toList, Text.isWord char = true := by
  have words : (statementKeywords ++ binaryKeywords).all (·.toList.all Text.isWord) = true := by
    decide
  have listed := List.mem_append.mpr isKeyword
  exact List.all_eq_true.mp (List.all_eq_true.mp words keyword listed)

theorem Lexes.startsWord_iff {line : List Piece} (lexed : Lexes (textOf line) line)
    {keyword : String} (isKeyword : keyword ∈ statementKeywords ∨ keyword ∈ binaryKeywords) :
    StartsWord keyword (textOf line) ↔ keyword.toList = leadingWord line := by
  rw [lexed.leadingWord_eq, Expression.startsWord_iff (isWord_of_mem_keyword isKeyword)]

/-! ### Lines -/

theorem isGap_blanks (gap : List Char) : IsGap (gap.map .blank) := by
  intro piece member
  obtain ⟨char, _, rfl⟩ := List.mem_map.mp member
  rfl

theorem codeOf_of_isGap {gap : List Piece} (isGap : IsGap gap) : codeOf gap = [] := by
  rw [codeOf, List.filterMap_eq_nil_iff]
  intro piece member
  have unmarked := isGap piece member
  cases piece <;> first | rfl | cases unmarked

/-- The last code character or string literal of some pieces is determined by them. -/
theorem lastMarked_unique {earlier others gap otherGap : List Piece} {previous other : Piece}
    (mark : previous.mark? ≠ none) (otherMark : other.mark? ≠ none)
    (isGap : IsGap gap) (otherIsGap : IsGap otherGap)
    (same : earlier ++ previous :: gap = others ++ other :: otherGap) :
    earlier = others ∧ previous = other ∧ gap = otherGap := by
  rcases List.append_eq_append_iff.mp same with
    ⟨between, laterOther, rest⟩ | ⟨between, laterPrevious, rest⟩
  · cases between with
    | nil =>
        obtain ⟨rfl, rfl⟩ := List.cons.inj rest
        exact ⟨(laterOther.trans (List.append_nil _)).symm, rfl, rfl⟩
    | cons _ between =>
        obtain ⟨rfl, rfl⟩ := List.cons.inj rest
        exact (otherMark (isGap other (by simp))).elim
  · cases between with
    | nil =>
        obtain ⟨rfl, rfl⟩ := List.cons.inj rest
        exact ⟨laterPrevious.trans (List.append_nil _), rfl, rfl⟩
    | cons _ between =>
        obtain ⟨rfl, rfl⟩ := List.cons.inj rest
        exact (mark (otherIsGap previous (by simp))).elim

/-- What the check knows about the line after some pieces. -/
inductive Scan.Lines (scan : Scan) : List Piece → Prop where
  | start {gap : List Piece} (isGap : IsGap gap) (last : scan.last = none)
      (lineStart : scan.lineStart = true) : Scan.Lines scan gap
  | next {earlier gap : List Piece} {previous : Piece} {char : Char}
      (mark : previous.mark? = some char) (isGap : IsGap gap) (last : scan.last = some char)
      (lineStart : scan.lineStart = true ↔
        depth (codeOf (earlier ++ [previous])) = 0 ∧ ∃ piece ∈ gap, piece.breaksLine = true) :
      Scan.Lines scan (earlier ++ previous :: gap)

theorem Scan.Lines.firstOfLine_iff {scan : Scan} {before : List Piece} (lines : scan.Lines before)
    (last : Option Char) :
    FirstOfLine before last ↔ scan.lineStart = true ∧ scan.last = last := by
  cases lines with
  | start isGap noLast lineStart =>
      constructor
      · intro first
        generalize same : before = pieces at first
        cases first with
        | start _ => exact ⟨lineStart, noLast⟩
        | @next earlier gap previous char mark _ _ _ =>
            have unmarked := isGap previous (by simp [same])
            exact (Option.some_ne_none _ (mark.symm.trans unmarked)).elim
      · rintro ⟨_, rfl⟩
        rw [noLast]
        exact .start isGap
  | @next earlier gap previous char mark isGap isLast lineStart =>
      constructor
      · intro first
        generalize same : earlier ++ previous :: gap = pieces at first
        cases first with
        | start otherIsGap =>
            have unmarked := otherIsGap previous (by simp [← same])
            exact (Option.some_ne_none _ (mark.symm.trans unmarked)).elim
        | @next others otherGap other otherChar otherMark otherIsGap outside feed =>
            obtain ⟨rfl, rfl, rfl⟩ := lastMarked_unique (by simp [mark]) (by simp [otherMark])
              isGap otherIsGap same
            exact ⟨lineStart.mpr ⟨outside, feed⟩, isLast.trans (mark.symm.trans otherMark)⟩
      · rintro ⟨atStart, rfl⟩
        obtain ⟨outside, feed⟩ := lineStart.mp atStart
        rw [isLast]
        exact .next mark isGap outside feed

/-! ### The invariant of the check -/

/-- What the check knows after some pieces: the closing brackets that they leave due, their last
mark, and whether a new line begins. -/
structure Scan.Describes (scan : Scan) (before : List Piece) : Prop where
  due : dueAfter? [] (codeOf before) = some scan.due
  lines : scan.Lines before

theorem Scan.describes_initial : Scan.initial.Describes [] where
  due := rfl
  lines := .start nofun rfl rfl

theorem Scan.Describes.depth_eq_zero_iff {scan : Scan} {before : List Piece}
    (describes : scan.Describes before) : depth (codeOf before) = 0 ↔ scan.due = [] := by
  have counted := length_of_dueAfter? describes.due
  rw [← List.length_eq_zero_iff]
  simp only [List.length_nil] at counted
  omega

/-- Reading a piece keeps the invariant. -/
theorem Scan.Describes.after {scan : Scan} {before : List Piece} {piece : Piece}
    {due : List Char} (describes : scan.Describes before)
    (read : dueAfter? scan.due (codeOf [piece]) = some due) :
    (scan.after piece due).Describes (before ++ [piece]) where
  due := by rw [codeOf_append, dueAfter?_append_of_eq_some describes.due, read]; rfl
  lines := by
    cases mark : piece.mark? with
    | some char =>
        refine .next mark nofun (by simp [Scan.after, mark]) ?_
        simp [Scan.after, mark]
    | none =>
        have gapAfter {gap : List Piece} (isGap : IsGap gap) : IsGap (gap ++ [piece]) :=
          List.forall_mem_append.mpr ⟨isGap, List.forall_mem_singleton.mpr mark⟩
        have outside := describes.depth_eq_zero_iff
        cases describes.lines with
        | start isGap last lineStart =>
            refine .start (gapAfter isGap) ?_ ?_
            · simp [Scan.after, mark, last]
            · simp [Scan.after, mark, lineStart]
        | @next earlier gap previous char previousMark isGap last lineStart =>
            rw [List.append_assoc, List.cons_append]
            refine .next previousMark (gapAfter isGap) (by simp [Scan.after, mark, last]) ?_
            have sameDepth : codeOf (earlier ++ previous :: gap) =
                codeOf (earlier ++ [previous]) := by
              rw [List.append_cons, codeOf_append _ gap, codeOf_of_isGap isGap, List.append_nil]
            rw [sameDepth] at outside
            simp only [Scan.after, mark, Option.isNone_none, Bool.true_and, Bool.or_eq_true,
              lineStart, Bool.and_eq_true, List.isEmpty_iff, ← outside, List.mem_append,
              List.mem_singleton, or_and_right, exists_or, exists_eq_left, and_or_left]

/-- A run keeps the invariant. -/
theorem Scan.Reads.describes {scan final : Scan} {before tokens rest : List Piece}
    (run : scan.Reads tokens rest final) (describes : scan.Describes before) :
    final.Describes (before ++ tokens) := by
  induction run generalizing before with
  | nil => rwa [List.append_nil]
  | cons step _ ih =>
      obtain ⟨_, _, _, due, read, rfl⟩ := Scan.read_eq_ok_iff.mp step
      have later := ih (describes.after read)
      rwa [← List.append_cons] at later

/-- The check reads a piece exactly when the piece may stand at its place and closes no bracket that
is not open. -/
theorem Scan.Describes.read_eq_ok_iff {scan next : Scan} {before after : List Piece}
    {piece : Piece} (describes : scan.Describes before)
    (lexed : Lexes (textOf (piece :: after)) (piece :: after)) :
    scan.read piece after = .ok next ↔
      MayStand before piece after ∧
        ∃ due, dueAfter? scan.due (codeOf [piece]) = some due ∧ next = scan.after piece due := by
  have word {keyword : String}
      (isKeyword : keyword ∈ statementKeywords ∨ keyword ∈ binaryKeywords) :
      keyword.toList = leadingWord (piece :: after) ↔
        StartsWord keyword (textOf (piece :: after)) := (lexed.startsWord_iff isKeyword).symm
  have outside := describes.depth_eq_zero_iff
  have line := describes.lines.firstOfLine_iff
  rw [Scan.read_eq_ok_iff]
  constructor
  · rintro ⟨closed, allows, enclosed, leaves⟩
    refine ⟨⟨closed, fun separator => outside.not.mpr (enclosed separator), ?_, ?_⟩, leaves⟩
    · intro first last mark isFirst keyword member starts
      have allowed := allows first mark ((line last).mp isFirst).1
      exact allowed.1 keyword member ((word (.inl member)).mpr starts)
    · intro first last mark isFirst ends starts
      obtain ⟨lineStart, isLast⟩ := (line (some last)).mp isFirst
      obtain ⟨keyword, member, same⟩ := (allows first mark lineStart).2 last isLast ends starts
      exact ⟨keyword, member, (word (.inr member)).mp same⟩
  · rintro ⟨mayStand, leaves⟩
    refine ⟨mayStand.closed, ?_, fun separator => outside.not.mp (mayStand.noSeparator separator),
      leaves⟩
    intro first mark lineStart
    constructor
    · intro keyword member same
      have isFirst := (line scan.last).mpr ⟨lineStart, rfl⟩
      exact mayStand.noStatement first scan.last mark isFirst keyword member
        ((word (.inl member)).mp same)
    · intro last isLast ends starts
      have isFirst := (line (some last)).mpr ⟨lineStart, isLast⟩
      obtain ⟨keyword, member, starts⟩ := mayStand.noSplit first last mark isFirst ends starts
      exact ⟨keyword, member, (word (.inr member)).mpr starts⟩

/-- A run of the check goes to the end exactly when every piece may stand at its place and the
brackets are closed. The induction is on the pieces that are left. -/
theorem Scan.Describes.reads_iff {scan : Scan} {before pieces : List Piece}
    (describes : scan.Describes before) (lexed : Lexes (textOf pieces) pieces) :
    (∃ final, scan.Reads pieces [] final ∧ final.due = []) ↔
      dueAfter? scan.due (codeOf pieces) = some [] ∧
        ∀ earlier piece after, pieces = earlier ++ piece :: after →
          MayStand (before ++ earlier) piece after := by
  induction pieces generalizing scan before with
  | nil =>
      constructor
      · rintro ⟨final, ⟨⟩, complete⟩
        exact ⟨congrArg some complete, by simp⟩
      · rintro ⟨complete, _⟩
        exact ⟨scan, .nil, Option.some.inj complete⟩
  | cons piece tail ih =>
      constructor
      · rintro ⟨final, run, complete⟩
        cases run with
        | cons step later =>
            rw [List.append_nil] at step
            obtain ⟨mayStand, due, read, rfl⟩ := (describes.read_eq_ok_iff lexed).mp step
            obtain ⟨closes, others⟩ :=
              (ih (describes.after read) lexed.tail).mp ⟨final, later, complete⟩
            refine ⟨?_, ?_⟩
            · rw [codeOf_cons, dueAfter?_append_of_eq_some read]
              exact closes
            · intro earlier other after split
              cases earlier with
              | nil =>
                  obtain ⟨rfl, rfl⟩ := List.cons.inj split
                  rwa [List.append_nil]
              | cons _ earlier =>
                  obtain ⟨rfl, later⟩ := List.cons.inj split
                  rw [List.append_cons]
                  exact others earlier other after later
      · rintro ⟨closes, mayStand⟩
        rw [codeOf_cons, dueAfter?_append, Option.bind_eq_some_iff] at closes
        obtain ⟨due, read, closes⟩ := closes
        have here : MayStand before piece tail := by
          have stands := mayStand [] piece tail rfl
          rwa [List.append_nil] at stands
        have step := (describes.read_eq_ok_iff lexed).mpr ⟨here, due, read, rfl⟩
        have others : ∀ earlier other after, tail = earlier ++ other :: after →
            MayStand (before ++ [piece] ++ earlier) other after := by
          intro earlier other after split
          have stands := mayStand (piece :: earlier) other after (by rw [split, List.cons_append])
          rwa [List.append_cons] at stands
        obtain ⟨final, later, complete⟩ :=
          (ih (describes.after read) lexed.tail).mpr ⟨closes, others⟩
        exact ⟨final, .cons (by rwa [List.append_nil]) later, complete⟩

/-- **The language of the expression check.** The body of a script has one lexing, and the script is
accepted exactly when something is left of it and its lexing is an expression. -/
theorem refusal?_eq_none_iff_isExpression (script : List Char) :
    ∃ tokens, (∀ others, Lexes (body script) others ↔ others = tokens) ∧
      (refusal? script = none ↔ body script ≠ [] ∧ IsExpression tokens) := by
  refine ⟨pieces (body script), fun others => lexes_iff_pieces_eq.trans eq_comm, ?_⟩
  have lexed : Lexes (textOf (pieces (body script))) (pieces (body script)) := by
    rw [textOf_pieces]
    exact lexes_pieces _
  unfold refusal?
  by_cases blank : body script = []
  · simp [blank]
  · rw [if_neg (by rwa [List.isEmpty_iff]), and_iff_right blank, Scan.refusal?_eq_none_iff,
      Scan.describes_initial.reads_iff lexed]
    constructor
    · rintro ⟨closes, mayStand⟩
      exact ⟨nested_iff_dueAfter?.mpr closes, mayStand⟩
    · rintro ⟨nested, mayStand⟩
      exact ⟨nested_iff_dueAfter?.mp nested, mayStand⟩

end ScriptGate.Expression
