import ScriptGate.Expression.Shape
import ScriptGate.Proofs.Text.Classes

/-! # What the pieces of a script are

The pieces of a text are described by a relation between texts and lists of pieces (`Lexes`), with
one rule for each kind of piece. It holds of every text for exactly one list
(`lexes_iff_pieces_eq`). The texts of the pieces together are the text again (`textOf_pieces`), and
a line feed after a text whose comments and string literals end is a cut: what stands before it and
what follows it are lexed on their own (`pieces_append_newline`). -/

namespace ScriptGate.Expression

/-- The text of some pieces. -/
def textOf (pieces : List Piece) : List Char := pieces.flatMap Piece.text

/-- Every piece but a comment or string literal that does not end. -/
def Piece.IsClosed : Piece → Prop
  | .openComment _ => False
  | .openString _ _ => False
  | _ => True

/-- Texts without a given quote, unless a backslash hides it. A backslash hides any character. -/
inductive Unquoted (quote : Char) : List Char → Prop where
  | nil : Unquoted quote []
  | hidden (char : Char) {text : List Char} (tail : Unquoted quote text) :
      Unquoted quote ('\\' :: char :: text)
  | plain {char : Char} {text : List Char} (notBackslash : char ≠ '\\') (notQuote : char ≠ quote)
      (tail : Unquoted quote text) : Unquoted quote (char :: text)

/-- The pieces of a text, from left to right. A line comment stops before a line feed, and the
closer of a block comment is the first one after the opener. -/
inductive Lexes : List Char → List Piece → Prop where
  | nil : Lexes [] []
  | blank {char : Char} {text : List Char} {tail : List Piece} (blank : Text.isBlank char = true)
      (rest : Lexes text tail) : Lexes (char :: text) (.blank char :: tail)
  | lineComment {comment text : List Char} {tail : List Piece} (oneLine : '\n' ∉ comment)
      (stop : ∀ char ∈ text.head?, char = '\n') (rest : Lexes text tail) :
      Lexes ('/' :: '/' :: (comment ++ text)) (.lineComment comment :: tail)
  | blockComment {comment text : List Char} {tail : List Piece}
      (first : ¬ ['*', '/'] <:+: comment ++ ['*']) (rest : Lexes text tail) :
      Lexes ('/' :: '*' :: (comment ++ '*' :: '/' :: text)) (.blockComment comment :: tail)
  | openComment {text : List Char} (endless : ¬ ['*', '/'] <:+: text) :
      Lexes ('/' :: '*' :: text) [.openComment text]
  | string {quote : Char} {string text : List Char} {tail : List Piece}
      (quoted : Text.isQuote quote = true) (inner : Unquoted quote string)
      (rest : Lexes text tail) :
      Lexes (quote :: (string ++ quote :: text)) (.string quote string :: tail)
  | openString {quote : Char} {text : List Char} (quoted : Text.isQuote quote = true)
      (endless : ∀ string rest, text = string ++ quote :: rest → ¬ Unquoted quote string) :
      Lexes (quote :: text) [.openString quote text]
  | code {char : Char} {text : List Char} {tail : List Piece}
      (notBlank : Text.isBlank char = false) (notQuote : Text.isQuote char = false)
      (noLineComment : ¬ ['/', '/'] <+: char :: text)
      (noBlockComment : ¬ ['/', '*'] <+: char :: text) (rest : Lexes text tail) :
      Lexes (char :: text) (.code char :: tail)

theorem textOf_cons (piece : Piece) (tail : List Piece) :
    textOf (piece :: tail) = piece.text ++ textOf tail := rfl

theorem textOf_append (first second : List Piece) :
    textOf (first ++ second) = textOf first ++ textOf second :=
  List.flatMap_append

/-- Nothing of a text is lost in its pieces. -/
theorem Lexes.textOf_eq {text : List Char} {tokens : List Piece} (lexed : Lexes text tokens) :
    textOf tokens = text := by
  induction lexed with
  | nil => rfl
  | blank _ _ ih => rw [textOf_cons, ih]; rfl
  | lineComment _ _ _ ih => rw [textOf_cons, ih]; rfl
  | blockComment _ _ ih =>
      rw [textOf_cons, ih]
      simp only [Piece.text, List.cons_append, List.append_assoc, List.nil_append]
  | openComment _ => exact List.append_nil _
  | string _ _ _ ih =>
      rw [textOf_cons, ih]
      simp only [Piece.text, List.cons_append, List.append_assoc, List.nil_append]
  | openString _ _ => exact List.append_nil _
  | code _ _ _ _ _ ih => rw [textOf_cons, ih]; rfl

/-- What is left of a text after its first piece is lexed into the other pieces. -/
theorem Lexes.tail {text : List Char} {piece : Piece} {tail : List Piece}
    (lexed : Lexes text (piece :: tail)) : Lexes (textOf tail) tail := by
  cases lexed with
  | blank _ rest => exact rest.textOf_eq.symm ▸ rest
  | lineComment _ _ rest => exact rest.textOf_eq.symm ▸ rest
  | blockComment _ rest => exact rest.textOf_eq.symm ▸ rest
  | openComment _ => exact .nil
  | string _ _ rest => exact rest.textOf_eq.symm ▸ rest
  | openString _ _ => exact .nil
  | code _ _ _ _ rest => exact rest.textOf_eq.symm ▸ rest

theorem Lexes.drop {text : List Char} {first second : List Piece}
    (lexed : Lexes text (first ++ second)) : Lexes (textOf second) second := by
  induction first generalizing text with
  | nil => exact lexed.textOf_eq.symm ▸ lexed
  | cons piece tail ih => exact ih lexed.tail

/-- Only the last piece of a text can be without an end. -/
theorem Lexes.isClosed_of_mem {text : List Char} {before after : List Piece} {piece : Piece}
    (lexed : Lexes text (before ++ piece :: after)) : ∀ piece ∈ before, piece.IsClosed := by
  induction before generalizing text with
  | nil => exact List.forall_mem_nil _
  | cons first before ih =>
      refine List.forall_mem_cons.mpr ⟨?_, ih lexed.tail⟩
      rw [List.cons_append] at lexed
      generalize same : before ++ piece :: after = tail at lexed
      cases lexed with
      | openComment _ | openString _ _ =>
          exact absurd same (List.append_ne_nil_of_right_ne_nil _ (List.cons_ne_nil _ _))
      | _ => trivial

/-- White space and quotes among the pieces are such characters, and no code character is one. -/
def Piece.Fits : Piece → Prop
  | .blank char => Text.isBlank char = true
  | .string quote _ | .openString quote _ => Text.isQuote quote = true
  | .code char => Text.isBlank char = false ∧ Text.isQuote char = false
  | _ => True

theorem Lexes.fits {text : List Char} {tokens : List Piece} (lexed : Lexes text tokens) :
    ∀ piece ∈ tokens, piece.Fits := by
  induction lexed with
  | nil => exact List.forall_mem_nil _
  | blank blank _ ih => exact List.forall_mem_cons.mpr ⟨blank, ih⟩
  | lineComment _ _ _ ih => exact List.forall_mem_cons.mpr ⟨trivial, ih⟩
  | blockComment _ _ ih => exact List.forall_mem_cons.mpr ⟨trivial, ih⟩
  | openComment _ => exact List.forall_mem_singleton.mpr trivial
  | string quoted _ _ ih => exact List.forall_mem_cons.mpr ⟨quoted, ih⟩
  | openString quoted _ => exact List.forall_mem_singleton.mpr quoted
  | code notBlank notQuote _ _ _ ih => exact List.forall_mem_cons.mpr ⟨⟨notBlank, notQuote⟩, ih⟩

/-! ### Comments -/

theorem no_closer_at_start {char : Char} {after : List Char}
    (noCloser : ∀ text, char = '*' → after = '/' :: text → False) :
    ¬ ['*', '/'] <+: char :: after := by
  rintro ⟨text, same⟩
  simp only [List.cons_append, List.nil_append, List.cons.injEq] at same
  exact noCloser text same.1.symm same.2.symm

theorem splitComment?_eq_some_iff {text comment rest : List Char} :
    splitComment? text = some (comment, rest) ↔
      text = comment ++ '*' :: '/' :: rest ∧ ¬ ['*', '/'] <:+: comment ++ ['*'] := by
  fun_induction splitComment? text generalizing comment with
  | case1 => simp
  | case2 after =>
      constructor
      · intro split
        simp only [Option.some.injEq, Prod.mk.injEq] at split
        obtain ⟨rfl, rfl⟩ := split
        exact ⟨rfl, by decide⟩
      · rintro ⟨same, first⟩
        cases comment with
        | nil => simpa using same
        | cons _ inner =>
            cases inner with
            | nil => simp at same
            | cons _ inner =>
                simp only [List.cons_append, List.cons.injEq] at same
                obtain ⟨rfl, rfl, rfl⟩ := same
                exact (first ⟨[], inner ++ ['*'], rfl⟩).elim
  | case3 char after noCloser ih =>
      rw [Option.map_eq_some_iff]
      constructor
      · rintro ⟨⟨inner, tail⟩, found, same⟩
        simp only [Prod.mk.injEq] at same
        obtain ⟨rfl, rfl⟩ := same
        obtain ⟨rfl, first⟩ := ih.mp found
        refine ⟨rfl, fun closes => ?_⟩
        rcases List.infix_cons_iff.mp closes with start | later
        · have longer : char :: (inner ++ ['*']) <+: char :: (inner ++ '*' :: '/' :: tail) :=
            ⟨'/' :: tail, by simp⟩
          exact no_closer_at_start noCloser (start.trans longer)
        · exact first later
      · rintro ⟨same, first⟩
        cases comment with
        | nil =>
            simp only [List.nil_append, List.cons.injEq] at same
            exact (noCloser _ same.1 same.2).elim
        | cons head inner =>
            simp only [List.cons_append, List.cons.injEq] at same
            obtain ⟨rfl, rfl⟩ := same
            exact ⟨(inner, rest), ih.mpr ⟨rfl, fun later => first
              (List.infix_cons_iff.mpr (.inr later))⟩, rfl⟩

theorem splitComment?_eq_none_iff {text : List Char} :
    splitComment? text = none ↔ ¬ ['*', '/'] <:+: text := by
  fun_induction splitComment? text with
  | case1 => decide
  | case2 after =>
      refine iff_of_false (Option.some_ne_none _) (not_not_intro ?_)
      exact ⟨[], after, rfl⟩
  | case3 char after noCloser ih =>
      rw [Option.map_eq_none_iff, ih, List.infix_cons_iff, not_or]
      exact (and_iff_right (no_closer_at_start noCloser)).symm

/-! ### String literals -/

theorem splitString?_eq_some_iff {quote : Char} (notBackslash : quote ≠ '\\')
    {text string rest : List Char} :
    splitString? quote text = some (string, rest) ↔
      text = string ++ quote :: rest ∧ Unquoted quote string := by
  fun_induction splitString? quote text generalizing string with
  | case1 => simp
  | case2 =>
      refine iff_of_false (Option.some_ne_none _).symm ?_
      rintro ⟨same, _⟩
      cases string with
      | nil =>
          simp only [List.nil_append, List.cons.injEq] at same
          exact notBackslash same.1.symm
      | cons _ _ => simp at same
  | case3 hidden after ih =>
      rw [Option.map_eq_some_iff]
      constructor
      · rintro ⟨⟨inner, tail⟩, found, same⟩
        simp only [Prod.mk.injEq] at same
        obtain ⟨rfl, rfl⟩ := same
        obtain ⟨rfl, unquoted⟩ := ih.mp found
        exact ⟨rfl, .hidden hidden unquoted⟩
      · rintro ⟨same, unquoted⟩
        cases unquoted with
        | nil =>
            simp only [List.nil_append, List.cons.injEq] at same
            exact (notBackslash same.1.symm).elim
        | @hidden char inner tail =>
            simp only [List.cons_append, List.cons.injEq, true_and] at same
            obtain ⟨rfl, rfl⟩ := same
            exact ⟨(inner, rest), ih.mpr ⟨rfl, tail⟩, rfl⟩
        | plain escapes _ _ =>
            simp only [List.cons_append, List.cons.injEq] at same
            exact (escapes same.1.symm).elim
  | case4 after =>
      constructor
      · intro split
        simp only [Option.some.injEq, Prod.mk.injEq] at split
        obtain ⟨rfl, rfl⟩ := split
        exact ⟨rfl, .nil⟩
      · rintro ⟨same, unquoted⟩
        cases unquoted with
        | nil => simpa using same
        | hidden _ _ =>
            simp only [List.cons_append, List.cons.injEq] at same
            exact (notBackslash same.1).elim
        | plain _ differs _ =>
            simp only [List.cons_append, List.cons.injEq] at same
            exact (differs same.1.symm).elim
  | case5 char after notLast notHidden differs ih =>
      have escapes : char ≠ '\\' := by
        intro same
        cases after with
        | nil => exact notLast same rfl
        | cons next after => exact notHidden next after same rfl
      rw [Option.map_eq_some_iff]
      constructor
      · rintro ⟨⟨inner, tail⟩, found, same⟩
        simp only [Prod.mk.injEq] at same
        obtain ⟨rfl, rfl⟩ := same
        obtain ⟨rfl, unquoted⟩ := ih.mp found
        exact ⟨rfl, .plain escapes differs unquoted⟩
      · rintro ⟨same, unquoted⟩
        cases unquoted with
        | nil =>
            simp only [List.nil_append, List.cons.injEq] at same
            exact (differs same.1).elim
        | hidden _ _ =>
            simp only [List.cons_append, List.cons.injEq] at same
            exact (escapes same.1).elim
        | @plain _ inner _ _ tail =>
            simp only [List.cons_append, List.cons.injEq] at same
            obtain ⟨rfl, rfl⟩ := same
            exact ⟨(inner, rest), ih.mpr ⟨rfl, tail⟩, rfl⟩

theorem splitString?_eq_none_iff {quote : Char} (notBackslash : quote ≠ '\\')
    {text : List Char} :
    splitString? quote text = none ↔
      ∀ string rest, text = string ++ quote :: rest → ¬ Unquoted quote string := by
  constructor
  · intro none string rest same unquoted
    have found := (splitString?_eq_some_iff notBackslash).mpr ⟨same, unquoted⟩
    exact Option.some_ne_none _ (found.symm.trans none)
  · intro endless
    by_contra some
    obtain ⟨⟨string, rest⟩, found⟩ := Option.ne_none_iff_exists'.mp some
    obtain ⟨same, unquoted⟩ := (splitString?_eq_some_iff notBackslash).mp found
    exact endless string rest same unquoted

theorem ne_backslash_of_isQuote {quote : Char} (quoted : Text.isQuote quote = true) :
    quote ≠ '\\' := by
  rintro rfl
  exact absurd quoted (by decide)

/-! ### The pieces of a text -/

theorem pieces_nil : pieces [] = [] := by rw [pieces]

theorem pieces_lineComment (text : List Char) :
    pieces ('/' :: '/' :: text) =
      .lineComment (text.takeWhile (· ≠ '\n')) :: pieces (text.dropWhile (· ≠ '\n')) := by
  rw [pieces]

theorem pieces_blockComment {text comment rest : List Char}
    (split : splitComment? text = some (comment, rest)) :
    pieces ('/' :: '*' :: text) = .blockComment comment :: pieces rest := by
  rw [pieces]
  split
  next found =>
    rw [split, Option.some.injEq, Prod.mk.injEq] at found
    rw [found.1, found.2]
  next found => exact (Option.some_ne_none _ (split.symm.trans found)).elim

theorem pieces_openComment {text : List Char} (endless : splitComment? text = none) :
    pieces ('/' :: '*' :: text) = [.openComment text] := by
  rw [pieces]
  split
  next found => exact (Option.some_ne_none _ (found.symm.trans endless)).elim
  next => rfl

theorem pieces_blank {char : Char} (blank : Text.isBlank char = true) (text : List Char) :
    pieces (char :: text) = .blank char :: pieces text := by
  have noComment : char ≠ '/' := by
    rintro rfl
    exact absurd blank (by decide)
  rw [pieces]
  · rw [if_pos blank]
  · exact fun _ same => (noComment same).elim
  · exact fun _ same => (noComment same).elim

theorem ne_slash_of_isQuote {quote : Char} (quoted : Text.isQuote quote = true) :
    quote ≠ '/' := by
  rintro rfl
  exact absurd quoted (by decide)

theorem pieces_string {quote : Char} (quoted : Text.isQuote quote = true)
    {text string rest : List Char} (split : splitString? quote text = some (string, rest)) :
    pieces (quote :: text) = .string quote string :: pieces rest := by
  have noComment := ne_slash_of_isQuote quoted
  rw [pieces]
  · simp only [Text.isBlank_eq_false_of_isQuote quoted, Bool.false_eq_true, ↓reduceIte, quoted]
    split
    next found =>
      rw [split, Option.some.injEq, Prod.mk.injEq] at found
      rw [found.1, found.2]
    next found => exact (Option.some_ne_none _ (split.symm.trans found)).elim
  · exact fun _ same => (noComment same).elim
  · exact fun _ same => (noComment same).elim

theorem pieces_openString {quote : Char} (quoted : Text.isQuote quote = true)
    {text : List Char} (endless : splitString? quote text = none) :
    pieces (quote :: text) = [.openString quote text] := by
  have noComment := ne_slash_of_isQuote quoted
  rw [pieces]
  · simp only [Text.isBlank_eq_false_of_isQuote quoted, Bool.false_eq_true, ↓reduceIte, quoted]
    split
    next found => exact (Option.some_ne_none _ (found.symm.trans endless)).elim
    next => rfl
  · exact fun _ same => (noComment same).elim
  · exact fun _ same => (noComment same).elim

theorem pieces_code {char : Char} (notBlank : Text.isBlank char = false)
    (notQuote : Text.isQuote char = false) {text : List Char}
    (noLineComment : ¬ ['/', '/'] <+: char :: text)
    (noBlockComment : ¬ ['/', '*'] <+: char :: text) :
    pieces (char :: text) = .code char :: pieces text := by
  rw [pieces]
  · simp only [notBlank, Bool.false_eq_true, ↓reduceIte, notQuote]
  · rintro after rfl rfl
    exact noLineComment ⟨after, rfl⟩
  · rintro after rfl rfl
    exact noBlockComment ⟨after, rfl⟩

theorem no_opener_at_start {char second : Char} {text : List Char}
    (noOpener : ∀ after, char = '/' → text = second :: after → False) :
    ¬ ['/', second] <+: char :: text := by
  rintro ⟨after, same⟩
  simp only [List.cons_append, List.nil_append, List.cons.injEq] at same
  exact noOpener after same.1.symm same.2.symm

/-- Every text is lexed into its pieces. -/
theorem lexes_pieces (text : List Char) : Lexes text (pieces text) := by
  fun_induction pieces text with
  | case1 => exact .nil
  | case2 text ih =>
      have oneLine : '\n' ∉ text.takeWhile (· ≠ '\n') := fun member => by
        simpa using List.mem_takeWhile_imp member
      have stop : ∀ char ∈ (text.dropWhile (· ≠ '\n')).head?, char = '\n' := by
        intro char first
        have stopped := List.head?_dropWhile_not (· ≠ '\n') text
        rw [Option.mem_def.mp first] at stopped
        simpa using stopped
      have lexed := Lexes.lineComment oneLine stop ih
      rwa [List.takeWhile_append_dropWhile] at lexed
  | case3 text comment rest found _ ih =>
      obtain ⟨rfl, first⟩ := splitComment?_eq_some_iff.mp found
      exact .blockComment first ih
  | case4 text found => exact .openComment (splitComment?_eq_none_iff.mp found)
  | case5 char text _ _ blank ih => exact .blank blank ih
  | case6 quote text _ _ _ quoted string rest found _ ih =>
      obtain ⟨rfl, unquoted⟩ :=
        (splitString?_eq_some_iff (ne_backslash_of_isQuote quoted)).mp found
      exact .string quoted unquoted ih
  | case7 quote text _ _ _ quoted found =>
      exact .openString quoted
        ((splitString?_eq_none_iff (ne_backslash_of_isQuote quoted)).mp found)
  | case8 char text noLineComment noBlockComment notBlank notQuote ih =>
      exact .code (Bool.of_not_eq_true notBlank) (Bool.of_not_eq_true notQuote)
        (no_opener_at_start noLineComment) (no_opener_at_start noBlockComment) ih

/-- A text is lexed in one way only. -/
theorem Lexes.pieces_eq {text : List Char} {tokens : List Piece} (lexed : Lexes text tokens) :
    pieces text = tokens := by
  induction lexed with
  | nil => exact pieces_nil
  | blank blank _ ih => rw [pieces_blank blank, ih]
  | @lineComment comment text tail oneLine stop _ ih =>
      have inLine : ∀ char ∈ comment, decide (char ≠ '\n') = true := by
        intro char member
        rw [decide_eq_true_eq]
        rintro rfl
        exact oneLine member
      rw [pieces_lineComment, List.takeWhile_append_of_pos inLine,
        List.dropWhile_append_of_pos inLine]
      cases text with
      | nil => rw [List.takeWhile_nil, List.dropWhile_nil, List.append_nil, ih]
      | cons char after =>
          obtain rfl := stop char rfl
          rw [List.takeWhile_cons_of_neg (by decide), List.dropWhile_cons_of_neg (by decide),
            List.append_nil, ih]
  | blockComment first _ ih =>
      rw [pieces_blockComment (splitComment?_eq_some_iff.mpr ⟨rfl, first⟩), ih]
  | openComment endless => exact pieces_openComment (splitComment?_eq_none_iff.mpr endless)
  | string quoted inner _ ih =>
      rw [pieces_string quoted ((splitString?_eq_some_iff
        (ne_backslash_of_isQuote quoted)).mpr ⟨rfl, inner⟩), ih]
  | openString quoted endless =>
      exact pieces_openString quoted ((splitString?_eq_none_iff
        (ne_backslash_of_isQuote quoted)).mpr endless)
  | code notBlank notQuote noLineComment noBlockComment _ ih =>
      rw [pieces_code notBlank notQuote noLineComment noBlockComment, ih]

/-- **The pieces of a text are its only lexing.** -/
theorem lexes_iff_pieces_eq {text : List Char} {tokens : List Piece} :
    Lexes text tokens ↔ pieces text = tokens :=
  ⟨Lexes.pieces_eq, fun same => same ▸ lexes_pieces text⟩

theorem textOf_pieces (text : List Char) : textOf (pieces text) = text :=
  (lexes_pieces text).textOf_eq

/-! ### Cuts -/

theorem no_opener_at_start_append {char second : Char} {text : List Char}
    (noOpener : ¬ ['/', second] <+: char :: text) (other : '\n' ≠ second) (rest : List Char) :
    ¬ ['/', second] <+: char :: (text ++ '\n' :: rest) := by
  rintro ⟨after, same⟩
  simp only [List.cons_append, List.nil_append, List.cons.injEq] at same
  obtain ⟨rfl, same⟩ := same
  cases text with
  | nil =>
      simp only [List.nil_append, List.cons.injEq] at same
      exact other same.1.symm
  | cons next text =>
      simp only [List.cons_append, List.cons.injEq] at same
      exact noOpener ⟨text, by rw [same.1]; rfl⟩

/-- A line feed is a cut: it ends a line comment, and it is no part of a comment's opener. -/
theorem Lexes.append_newline {text rest : List Char} {first second : List Piece}
    (lexed : Lexes text first) (closed : ∀ piece ∈ first, piece.IsClosed)
    (after : Lexes rest second) :
    Lexes (text ++ '\n' :: rest) (first ++ .blank '\n' :: second) := by
  induction lexed with
  | nil => exact .blank (by decide) after
  | blank blank _ ih => exact .blank blank (ih (List.forall_mem_cons.mp closed).2)
  | @lineComment comment text tail oneLine stop _ ih =>
      have stopped : ∀ char ∈ (text ++ '\n' :: rest).head?, char = '\n' := by
        cases text with
        | nil => intro char first; exact (Option.some.inj first).symm
        | cons char text => exact stop
      have lexed := Lexes.lineComment oneLine stopped (ih (List.forall_mem_cons.mp closed).2)
      rwa [← List.append_assoc] at lexed
  | blockComment firstCloser _ ih =>
      have lexed := Lexes.blockComment firstCloser (ih (List.forall_mem_cons.mp closed).2)
      simpa only [List.cons_append, List.append_assoc] using lexed
  | openComment _ => exact (closed _ (List.mem_singleton_self _)).elim
  | string quoted inner _ ih =>
      have lexed := Lexes.string quoted inner (ih (List.forall_mem_cons.mp closed).2)
      simpa only [List.cons_append, List.append_assoc] using lexed
  | openString _ _ => exact (closed _ (List.mem_singleton_self _)).elim
  | code notBlank notQuote noLineComment noBlockComment _ ih =>
      exact .code notBlank notQuote (no_opener_at_start_append noLineComment (by decide) rest)
        (no_opener_at_start_append noBlockComment (by decide) rest)
        (ih (List.forall_mem_cons.mp closed).2)

theorem pieces_append_newline {text : List Char}
    (closed : ∀ piece ∈ pieces text, piece.IsClosed) (rest : List Char) :
    pieces (text ++ '\n' :: rest) = pieces text ++ .blank '\n' :: pieces rest :=
  ((lexes_pieces text).append_newline closed (lexes_pieces rest)).pieces_eq

theorem head?_textOf_append {second other : List Piece}
    (same : (textOf other).head? = (textOf second).head?) (tail : List Piece) :
    (textOf (tail ++ other)).head? = (textOf (tail ++ second)).head? := by
  cases tail with
  | nil => exact same
  | cons piece tail => cases piece <;> rfl

theorem no_opener_of_head? {char second : Char} {text other : List Char}
    (noOpener : ¬ ['/', second] <+: char :: text) (same : other.head? = text.head?) :
    ¬ ['/', second] <+: char :: other := by
  intro opens
  obtain ⟨slash, starts⟩ := List.cons_prefix_cons.mp opens
  rw [List.singleton_prefix_iff_head?_eq_some, same] at starts
  apply noOpener
  rw [List.cons_prefix_cons, List.singleton_prefix_iff_head?_eq_some]
  exact ⟨slash, starts⟩

/-- The last pieces of a text can be replaced by others that begin with the same character. -/
theorem Lexes.replace_tail {text : List Char} {first second other : List Piece}
    (lexed : Lexes text (first ++ second)) (replacement : Lexes (textOf other) other)
    (same : (textOf other).head? = (textOf second).head?) :
    Lexes (textOf (first ++ other)) (first ++ other) := by
  induction first generalizing text with
  | nil => exact replacement
  | cons piece tail ih =>
      have later := ih lexed.tail
      have sameHead := head?_textOf_append same tail
      rw [List.cons_append] at lexed ⊢
      generalize within : tail ++ second = rest at lexed sameHead
      have unended (endless : rest = []) : tail ++ other = [] := by
        obtain ⟨rfl, rfl⟩ := List.append_eq_nil_iff.mp (within.trans endless)
        have empty : textOf other = [] := List.head?_eq_none_iff.mp same
        rw [empty] at replacement
        cases replacement
        rfl
      cases lexed with
      | blank blank _ => exact .blank blank later
      | lineComment oneLine stop rest =>
          rw [rest.textOf_eq] at sameHead
          have whole := Lexes.lineComment oneLine (by rwa [sameHead]) later
          exact whole
      | blockComment closes _ =>
          have whole := Lexes.blockComment closes later
          rwa [← whole.textOf_eq] at whole
      | openComment endless =>
          rw [unended rfl]
          have whole := Lexes.openComment endless
          rwa [← whole.textOf_eq] at whole
      | string quoted inner _ =>
          have whole := Lexes.string quoted inner later
          rwa [← whole.textOf_eq] at whole
      | openString quoted endless =>
          rw [unended rfl]
          have whole := Lexes.openString quoted endless
          rwa [← whole.textOf_eq] at whole
      | code notBlank notQuote noLineComment noBlockComment rest =>
          rw [rest.textOf_eq] at sameHead
          exact .code notBlank notQuote (no_opener_of_head? noLineComment sameHead)
            (no_opener_of_head? noBlockComment sameHead) later

/-- Characters that are pieces of their own, whatever follows them. -/
def isPlain (char : Char) : Bool := !Text.isQuote char && char ≠ '/'

/-- The piece of a plain character. -/
def plainPiece (char : Char) : Piece := if Text.isBlank char then .blank char else .code char

theorem Lexes.plain_append {plain rest : List Char} {tail : List Piece}
    (allPlain : ∀ char ∈ plain, isPlain char = true) (lexed : Lexes rest tail) :
    Lexes (plain ++ rest) (plain.map plainPiece ++ tail) := by
  induction plain with
  | nil => exact lexed
  | cons char plain ih =>
      obtain ⟨isPlain, others⟩ := List.forall_mem_cons.mp allPlain
      simp only [Expression.isPlain, Bool.and_eq_true, Bool.not_eq_true', decide_eq_true_eq]
        at isPlain
      rw [List.map_cons, plainPiece]
      by_cases blank : Text.isBlank char = true
      · rw [if_pos blank]
        exact .blank blank (ih others)
      · rw [if_neg blank]
        refine .code (Bool.of_not_eq_true blank) isPlain.1 ?_ ?_ (ih others)
        · exact no_opener_at_start fun _ slash _ => isPlain.2 slash
        · exact no_opener_at_start fun _ slash _ => isPlain.2 slash

theorem pieces_plain_append {plain : List Char}
    (allPlain : ∀ char ∈ plain, isPlain char = true) (rest : List Char) :
    pieces (plain ++ rest) = plain.map plainPiece ++ pieces rest :=
  (Lexes.plain_append allPlain (lexes_pieces rest)).pieces_eq

/-! ### Words -/

/-- The word at the start of a text does not go on over its pieces. -/
theorem Lexes.leadingWord_eq {text : List Char} {tokens : List Piece}
    (lexed : Lexes text tokens) : leadingWord tokens = text.takeWhile Text.isWord := by
  induction lexed with
  | nil => rfl
  | blank blank _ _ =>
      rw [leadingWord.eq_def, List.takeWhile_cons_of_neg]
      rw [Text.isWord_eq_false_of_isBlank blank]
      exact Bool.false_ne_true
  | lineComment _ _ _ _ => rw [leadingWord.eq_def, List.takeWhile_cons_of_neg (by decide)]
  | blockComment _ _ _ => rw [leadingWord.eq_def, List.takeWhile_cons_of_neg (by decide)]
  | openComment _ => rw [leadingWord.eq_def, List.takeWhile_cons_of_neg (by decide)]
  | string quoted _ _ _ =>
      rw [leadingWord.eq_def, List.takeWhile_cons_of_neg]
      rw [Text.isWord_eq_false_of_isQuote quoted]
      exact Bool.false_ne_true
  | openString quoted _ =>
      rw [leadingWord.eq_def, List.takeWhile_cons_of_neg]
      rw [Text.isWord_eq_false_of_isQuote quoted]
      exact Bool.false_ne_true
  | @code char text tail _ _ _ _ _ ih =>
      rw [leadingWord]
      by_cases word : Text.isWord char = true
      · rw [if_pos word, List.takeWhile_cons_of_pos word, ih]
      · rw [if_neg word, List.takeWhile_cons_of_neg word]

end ScriptGate.Expression
