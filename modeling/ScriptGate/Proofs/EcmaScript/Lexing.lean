import Mathlib.Logic.Relation
import ScriptGate.Proofs.Expression.Lexing
import ScriptGate.Proofs.Expression.Nesting

/-! # How the interpreter cuts a text

The interpreter cuts a text by the lexical grammar of ECMAScript, which knows more than the check of
expressions: a line comment ends at each of four line terminators, a regular expression is one
token, and a template goes on after the code of a substitution. A token is a step from one state to
another (`Step`), and a run of tokens leads to the states it `Reaches`. Only the syntactic grammar
tells whether a slash divides or begins a regular expression. Here it may do both, so that there is
a run for each reading.

Where the two cut a piece alike (`EndsAlike`), every step over it ends where the piece ends and
minds its brackets (`Step.follows_piece`), so a run over such pieces stays with them
(`Reaches.through`). -/

namespace ScriptGate.EcmaScript

open Expression

/-- The characters that end a line. -/
def lineTerminators : List Char := ['\n', '\r', '\u2028', '\u2029']

/-- The texts between the quotes of a string literal. A backslash hides the character after it, or a
carriage return with its line feed. -/
inductive StringText (quote : Char) : List Char → Prop where
  | nil : StringText quote []
  | hidden (char : Char) {text : List Char} (tail : StringText quote text) :
      StringText quote ('\\' :: char :: text)
  | hiddenBreak {text : List Char} (tail : StringText quote text) :
      StringText quote ('\\' :: '\r' :: '\n' :: text)
  | plain {char : Char} {text : List Char} (special : char ∉ [quote, '\\', '\n', '\r'])
      (tail : StringText quote text) : StringText quote (char :: text)

/-- The texts of a template without substitutions. -/
inductive TemplateText : List Char → Prop where
  | nil : TemplateText []
  | hidden (char : Char) {text : List Char} (tail : TemplateText text) :
      TemplateText ('\\' :: char :: text)
  | plain {char : Char} {text : List Char} (special : char ∉ ['\x60', '\\'])
      (noSubstitution : ¬ ['$', '\x7b'] <+: char :: text) (tail : TemplateText text) :
      TemplateText (char :: text)

/-- The texts between the brackets of a class in a regular expression. -/
inductive ClassText : List Char → Prop where
  | nil : ClassText []
  | hidden {char : Char} {text : List Char} (inLine : char ∉ lineTerminators)
      (tail : ClassText text) : ClassText ('\\' :: char :: text)
  | plain {char : Char} {text : List Char} (special : char ∉ [']', '\\'])
      (inLine : char ∉ lineTerminators) (tail : ClassText text) : ClassText (char :: text)

/-- The texts between the slashes of a regular expression. -/
inductive RegexText : List Char → Prop where
  | nil : RegexText []
  | hidden {char : Char} {text : List Char} (inLine : char ∉ lineTerminators)
      (tail : RegexText text) : RegexText ('\\' :: char :: text)
  | charClass {members text : List Char} (inside : ClassText members) (tail : RegexText text) :
      RegexText ('[' :: (members ++ ']' :: text))
  | plain {char : Char} {text : List Char} (special : char ∉ ['/', '[', '\\'])
      (inLine : char ∉ lineTerminators) (tail : RegexText text) : RegexText (char :: text)

/-- A regular expression with the given text between its slashes stands before the rest of a text.
With no text the slashes begin a comment, and so do a slash and a star. -/
structure IsRegex (regex rest text : List Char) : Prop where
  slashes : text = '/' :: (regex ++ '/' :: rest)
  inside : RegexText regex
  notEmpty : regex ≠ []
  noComment : regex.head? ≠ some '*'

/-- Where the interpreter stands in a text. -/
structure State where
  /-- The closing brackets that are due, the innermost first. A back quote stands for the brace that
  ends a substitution of a template. -/
  due : List Char
  /-- The text from there on. -/
  rest : List Char

/-- One token. A character that begins no longer token is taken by itself, and so is each character
of a name or a number. -/
inductive Step : State → State → Prop where
  | lineComment {due comment rest : List Char}
      (inLine : ∀ char ∈ comment, char ∉ lineTerminators)
      (stop : ∀ char ∈ rest.head?, char ∈ lineTerminators) :
      Step ⟨due, '/' :: '/' :: (comment ++ rest)⟩ ⟨due, rest⟩
  | blockComment {due comment rest : List Char} (first : ¬ ['*', '/'] <:+: comment ++ ['*']) :
      Step ⟨due, '/' :: '*' :: (comment ++ '*' :: '/' :: rest)⟩ ⟨due, rest⟩
  | string {due : List Char} {quote : Char} {string rest : List Char}
      (quoted : quote ∈ ['\x27', '\x22']) (inside : StringText quote string) :
      Step ⟨due, quote :: (string ++ quote :: rest)⟩ ⟨due, rest⟩
  | template {due template rest : List Char} (inside : TemplateText template) :
      Step ⟨due, '\x60' :: (template ++ '\x60' :: rest)⟩ ⟨due, rest⟩
  | templateHead {due template rest : List Char} (inside : TemplateText template) :
      Step ⟨due, '\x60' :: (template ++ '$' :: '\x7b' :: rest)⟩ ⟨'\x60' :: due, rest⟩
  | templateMiddle {due template rest : List Char} (inside : TemplateText template) :
      Step ⟨'\x60' :: due, '\x7d' :: (template ++ '$' :: '\x7b' :: rest)⟩ ⟨'\x60' :: due, rest⟩
  | templateTail {due template rest : List Char} (inside : TemplateText template) :
      Step ⟨'\x60' :: due, '\x7d' :: (template ++ '\x60' :: rest)⟩ ⟨due, rest⟩
  | regex {due regex rest text : List Char} (isRegex : IsRegex regex rest text) :
      Step ⟨due, text⟩ ⟨due, rest⟩
  | char {due next : List Char} {char : Char} {rest : List Char}
      (notQuote : Text.isQuote char = false) (noLineComment : ¬ ['/', '/'] <+: char :: rest)
      (noBlockComment : ¬ ['/', '*'] <+: char :: rest)
      (bracket : dueAfterChar? due char = some next) : Step ⟨due, char :: rest⟩ ⟨next, rest⟩

/-- A run of tokens leads from one state to another. -/
abbrev Reaches : State → State → Prop := Relation.ReflTransGen Step

/-- The interpreter ends a piece of the check where the check ends it, given the text after the
piece: no line terminator stands in a line comment, no substitution in a template, and a slash that
is code begins no regular expression. -/
def EndsAlike (piece : Piece) (after : List Char) : Prop :=
  match piece with
  | .lineComment text => ∀ char ∈ text, char ∉ lineTerminators
  | .string quote text => quote = '\x60' → TemplateText text
  | .code char => ∀ regex rest, ¬ IsRegex regex rest (char :: after)
  | _ => True

/-- The interpreter ends each of some pieces where the check ends it, given the text after them. -/
def CutAlike (after : List Char) : List Piece → Prop
  | [] => True
  | piece :: pieces => EndsAlike piece (textOf pieces ++ after) ∧ CutAlike after pieces

/-! ### Tokens -/

theorem StringText.unquoted {quote : Char} (quoted : Text.isQuote quote = true)
    {text : List Char} (inside : StringText quote text) : Unquoted quote text := by
  induction inside with
  | nil => exact .nil
  | hidden char _ ih => exact .hidden char ih
  | hiddenBreak _ ih =>
      refine .hidden _ (.plain (by decide) ?_ ih)
      rintro rfl
      exact absurd quoted (by decide)
  | plain special _ ih =>
      simp only [List.mem_cons, List.not_mem_nil, or_false, not_or] at special
      exact .plain special.2.1 special.1 ih

theorem TemplateText.unquoted {text : List Char} (inside : TemplateText text) :
    Unquoted '\x60' text := by
  induction inside with
  | nil => exact .nil
  | hidden char _ ih => exact .hidden char ih
  | plain special _ _ ih =>
      simp only [List.mem_cons, List.not_mem_nil, or_false, not_or] at special
      exact .plain special.2 special.1 ih

/-- A template without substitutions is not the start of one with a substitution. -/
theorem TemplateText.noSubstitution {first second rest others : List Char}
    (inside : TemplateText first) (other : TemplateText second)
    (same : first ++ '\x60' :: rest = second ++ '$' :: '\x7b' :: others) : False := by
  induction inside generalizing second with
  | nil =>
      cases other with
      | nil => simp at same
      | hidden _ _ => simp at same
      | plain special _ _ =>
          simp only [List.nil_append, List.cons_append, List.cons.injEq] at same
          simp [← same.1] at special
  | hidden char tail ih =>
      cases other with
      | nil => simp at same
      | hidden _ otherTail =>
          simp only [List.cons_append, List.cons.injEq, true_and] at same
          exact ih otherTail same.2
      | plain special _ _ =>
          simp only [List.cons_append, List.cons.injEq] at same
          simp [← same.1] at special
  | @plain char text special noSubstitution tail ih =>
      cases other with
      | nil =>
          simp only [List.cons_append, List.nil_append, List.cons.injEq] at same
          obtain ⟨rfl, same⟩ := same
          cases text with
          | nil => simp at same
          | cons second text =>
              simp only [List.cons_append, List.cons.injEq] at same
              exact noSubstitution ⟨text, by rw [← same.1]; rfl⟩
      | hidden _ _ =>
          simp only [List.cons_append, List.cons.injEq] at same
          simp [same.1] at special
      | plain _ _ otherTail =>
          simp only [List.cons_append, List.cons.injEq] at same
          exact ih otherTail same.2

theorem ClassText.inLine {text : List Char} (inside : ClassText text) :
    ∀ char ∈ text, char ∉ lineTerminators := by
  induction inside with
  | nil => exact nofun
  | hidden inLine _ ih =>
      exact List.forall_mem_cons.mpr ⟨by decide, List.forall_mem_cons.mpr ⟨inLine, ih⟩⟩
  | plain _ inLine _ ih => exact List.forall_mem_cons.mpr ⟨inLine, ih⟩

/-- A regular expression does not go over the end of a line. -/
theorem RegexText.inLine {text : List Char} (inside : RegexText text) :
    ∀ char ∈ text, char ∉ lineTerminators := by
  induction inside with
  | nil => exact nofun
  | hidden inLine _ ih =>
      exact List.forall_mem_cons.mpr ⟨by decide, List.forall_mem_cons.mpr ⟨inLine, ih⟩⟩
  | charClass members _ ih =>
      refine List.forall_mem_cons.mpr ⟨by decide, List.forall_mem_append.mpr ⟨members.inLine, ?_⟩⟩
      exact List.forall_mem_cons.mpr ⟨by decide, ih⟩
  | plain _ inLine _ ih => exact List.forall_mem_cons.mpr ⟨inLine, ih⟩

/-- A regular expression begins with a slash that begins no comment. -/
theorem IsRegex.pieces_eq {regex rest text : List Char} (isRegex : IsRegex regex rest text) :
    pieces text = .code '/' :: pieces (regex ++ '/' :: rest) := by
  obtain ⟨rfl, inside, notEmpty, noComment⟩ := isRegex
  have noStar : ¬ ['/', '*'] <+: '/' :: (regex ++ '/' :: rest) := by
    cases regex with
    | nil => exact absurd rfl notEmpty
    | cons first regex => simpa [List.cons_prefix_cons, eq_comm] using noComment
  have noSlash : ¬ ['/', '/'] <+: '/' :: (regex ++ '/' :: rest) := by
    cases inside with
    | nil => exact absurd rfl notEmpty
    | hidden _ _ => simp [List.cons_prefix_cons]
    | charClass _ _ => simp [List.cons_prefix_cons]
    | plain special _ _ =>
        simp only [List.mem_cons, List.not_mem_nil, or_false, not_or] at special
        simpa [List.cons_prefix_cons, eq_comm] using special.1
  exact pieces_code (by decide) (by decide) noSlash noStar

/-- Every token takes some text. -/
theorem Step.length_lt {state next : State} (step : Step state next) :
    next.rest.length < state.rest.length := by
  cases step with
  | regex isRegex =>
      simp only [isRegex.slashes, List.length_cons, List.length_append]
      omega
  | _ =>
      simp only [List.length_cons, List.length_append]
      omega

theorem Reaches.length_le {state next : State} (reaches : Reaches state next) :
    next.rest.length ≤ state.rest.length := by
  induction reaches with
  | refl => exact Nat.le_refl _
  | tail _ step ih => exact (Nat.le_of_lt step.length_lt).trans ih

/-! ### Pieces -/

/-- The pieces that follow the first one are those of the text after it. -/
theorem tail_of_pieces_eq {text : List Char} {piece : Piece} {tail : List Piece}
    (cut : pieces text = piece :: tail) : pieces (textOf tail) = tail :=
  (cut ▸ lexes_pieces text).tail.pieces_eq

/-- A piece that ends and begins with a quote is a string literal. -/
theorem string_of_pieces_eq {quote : Char} {text : List Char} {piece : Piece} {tail : List Piece}
    (quoted : Text.isQuote quote = true) (cut : pieces (quote :: text) = piece :: tail)
    (closed : piece.IsClosed) :
    ∃ string, piece = .string quote string ∧ text = string ++ quote :: textOf tail := by
  cases split : splitString? quote text with
  | none =>
      rw [pieces_openString quoted split, List.cons.injEq] at cut
      exact (cut.1 ▸ closed : (Piece.openString quote text).IsClosed).elim
  | some found =>
      obtain ⟨string, rest⟩ := found
      rw [pieces_string quoted split, List.cons.injEq] at cut
      obtain ⟨rfl, rfl⟩ := cut
      rw [textOf_pieces]
      exact ⟨string, rfl, ((splitString?_eq_some_iff (ne_backslash_of_isQuote quoted)).mp split).1⟩

/-- **A step over a piece.** Where no substitution is open, the interpreter goes over a piece that
it ends where the check ends it, and does with the brackets what the check does. -/
theorem Step.follows_piece {state next : State} {piece : Piece} {tail : List Piece}
    (step : Step state next) (cut : pieces state.rest = piece :: tail) (closed : piece.IsClosed)
    (alike : EndsAlike piece (textOf tail)) (noSubstitution : '\x60' ∉ state.due) :
    next.rest = textOf tail ∧ dueAfter? state.due (codeOf [piece]) = some next.due := by
  cases step with
  | @lineComment due comment rest inLine stop =>
      have feedless : ∀ char ∈ comment, decide (char ≠ '\n') = true := by
        intro char member
        rw [decide_eq_true_eq]
        rintro rfl
        exact inLine _ member (by decide)
      simp only [pieces_lineComment, List.takeWhile_append_of_pos feedless,
        List.dropWhile_append_of_pos feedless, List.cons.injEq] at cut
      obtain ⟨rfl, rfl⟩ := cut
      refine ⟨?_, rfl⟩
      cases rest with
      | nil => rw [List.dropWhile_nil, textOf_pieces]
      | cons char rest =>
          by_cases feed : char = '\n'
          · rw [List.dropWhile_cons_of_neg (by simp [feed]), textOf_pieces]
          · rw [List.takeWhile_cons_of_pos (by simp [feed])] at alike
            exact (alike char (by simp) (stop char rfl)).elim
  | blockComment first =>
      rw [pieces_blockComment (splitComment?_eq_some_iff.mpr ⟨rfl, first⟩), List.cons.injEq] at cut
      obtain ⟨rfl, rfl⟩ := cut
      exact ⟨(textOf_pieces _).symm, rfl⟩
  | @string due quote string rest quoted inside =>
      have isQuote : Text.isQuote quote = true := by
        rw [Text.isQuote_iff]
        simp only [List.mem_cons, List.not_mem_nil, or_false] at quoted
        exact quoted.elim .inl fun double => .inr (.inl double)
      rw [pieces_string isQuote ((splitString?_eq_some_iff (ne_backslash_of_isQuote isQuote)).mpr
        ⟨rfl, inside.unquoted isQuote⟩), List.cons.injEq] at cut
      obtain ⟨rfl, rfl⟩ := cut
      exact ⟨(textOf_pieces _).symm, rfl⟩
  | template inside =>
      rw [pieces_string (by decide) ((splitString?_eq_some_iff (by decide)).mpr
        ⟨rfl, inside.unquoted⟩), List.cons.injEq] at cut
      obtain ⟨rfl, rfl⟩ := cut
      exact ⟨(textOf_pieces _).symm, rfl⟩
  | @templateHead due template rest inside =>
      obtain ⟨string, rfl, same⟩ := string_of_pieces_eq (by decide) cut closed
      exact ((alike rfl).noSubstitution inside same.symm).elim
  | templateMiddle _ => exact (noSubstitution List.mem_cons_self).elim
  | templateTail _ => exact (noSubstitution List.mem_cons_self).elim
  | @regex due regex rest text isRegex =>
      rw [isRegex.pieces_eq, List.cons.injEq] at cut
      obtain ⟨rfl, rfl⟩ := cut
      rw [textOf_pieces] at alike
      exact (alike regex rest (isRegex.slashes ▸ isRegex)).elim
  | @char due next char rest notQuote noLineComment noBlockComment bracket =>
      by_cases blank : Text.isBlank char = true
      · rw [pieces_blank blank, List.cons.injEq] at cut
        obtain ⟨rfl, rfl⟩ := cut
        obtain ⟨noOpener, noCloser⟩ := noBracket_of_class (by decide) blank
        rw [dueAfterChar?_other noOpener noCloser] at bracket
        exact ⟨(textOf_pieces _).symm, bracket⟩
      · rw [pieces_code (Bool.of_not_eq_true blank) notQuote noLineComment noBlockComment,
          List.cons.injEq] at cut
        obtain ⟨rfl, rfl⟩ := cut
        exact ⟨(textOf_pieces _).symm, (dueAfter?_singleton due char).trans bracket⟩

/-- A piece that the interpreter ends where the check ends it is a token. A string literal must be
one for the interpreter as well, which lets no line break stand in it. -/
theorem Step.of_piece {due next text : List Char} {piece : Piece} {tail : List Piece}
    (lexed : Lexes text (piece :: tail)) (closed : piece.IsClosed)
    (alike : EndsAlike piece (textOf tail))
    (literal : ∀ quote string, piece = .string quote string → quote ≠ '\x60' →
      StringText quote string)
    (bracket : dueAfter? due (codeOf [piece]) = some next) :
    Step ⟨due, text⟩ ⟨next, textOf tail⟩ := by
  cases lexed with
  | @blank char rest _ blank lexed =>
      obtain rfl := Option.some.inj bracket
      obtain ⟨noOpener, noCloser⟩ := noBracket_of_class (by decide) blank
      have noSlash : char ≠ '/' := by
        rintro rfl
        exact absurd blank (by decide)
      rw [lexed.textOf_eq]
      refine .char ?_ (no_opener_at_start fun _ slash => absurd slash noSlash)
        (no_opener_at_start fun _ slash => absurd slash noSlash)
        (dueAfterChar?_other noOpener noCloser due)
      by_contra quoted
      have notBlank := Text.isBlank_eq_false_of_isQuote (Bool.of_not_eq_false quoted)
      exact Bool.false_ne_true (notBlank.symm.trans blank)
  | lineComment oneLine stop lexed =>
      obtain rfl := Option.some.inj bracket
      rw [lexed.textOf_eq]
      refine .lineComment alike fun char first => ?_
      rw [stop char first]
      decide
  | blockComment first lexed =>
      obtain rfl := Option.some.inj bracket
      rw [lexed.textOf_eq]
      exact .blockComment first
  | openComment _ => exact closed.elim
  | @string quote string rest _ quoted inner lexed =>
      obtain rfl := Option.some.inj bracket
      rw [lexed.textOf_eq]
      by_cases template : quote = '\x60'
      · subst template
        exact .template (alike rfl)
      · refine .string ?_ (literal quote string rfl template)
        rcases Text.isQuote_iff.mp quoted with rfl | rfl | rfl
        · decide
        · decide
        · exact absurd rfl template
  | openString _ _ => exact closed.elim
  | @code char rest _ notBlank notQuote noLineComment noBlockComment lexed =>
      rw [lexed.textOf_eq]
      exact .char notQuote noLineComment noBlockComment
        ((dueAfter?_singleton due char).symm.trans bracket)

/-! ### Runs -/

/-- Only closing brackets become due. -/
theorem isCloser_of_dueAfter? {due next text : List Char} (read : dueAfter? due text = some next)
    (closers : ∀ char ∈ due, isCloser char = true) : ∀ char ∈ next, isCloser char = true := by
  induction text generalizing due with
  | nil =>
      rw [dueAfter?, Option.some.injEq] at read
      exact read ▸ closers
  | cons char text ih =>
      rw [dueAfter?, Option.bind_eq_some_iff] at read
      obtain ⟨middle, step, read⟩ := read
      refine ih read ?_
      rcases dueAfterChar?_cases step with ⟨closer, kind, rfl⟩ | ⟨_, rfl⟩ | ⟨_, _, rfl⟩
      · exact List.forall_mem_cons.mpr ⟨isCloser_of_closerOf? kind, closers⟩
      · exact (List.forall_mem_cons.mp closers).2
      · exact closers

/-- **A run over pieces.** A run that starts before pieces that the interpreter cuts as the check
does stays at their boundaries, and passes on to the pieces after them with the brackets that the
check finds open there. The induction is on the pieces, one step of the run for each. -/
theorem Reaches.through {first second : List Piece} {due : List Char} {state : State}
    (reaches : Reaches ⟨due, textOf (first ++ second)⟩ state)
    (cut : pieces (textOf (first ++ second)) = first ++ second)
    (closed : ∀ piece ∈ first, piece.IsClosed) (alike : CutAlike (textOf second) first)
    (closers : ∀ char ∈ due, isCloser char = true) :
    (∃ before after, first = before ++ after ∧ after ≠ [] ∧
      state.rest = textOf (after ++ second) ∧ dueAfter? due (codeOf before) = some state.due) ∨
    ∃ middle, dueAfter? due (codeOf first) = some middle ∧
      Reaches ⟨middle, textOf second⟩ state := by
  induction first generalizing due with
  | nil => exact .inr ⟨due, rfl, reaches⟩
  | cons piece tail ih =>
      rcases reaches.cases_head with rfl | ⟨next, step, reaches⟩
      · exact .inl ⟨[], piece :: tail, rfl, List.cons_ne_nil _ _, rfl, rfl⟩
      · obtain ⟨closedPiece, closedTail⟩ := List.forall_mem_cons.mp closed
        have noSubstitution : '\x60' ∉ due := fun member =>
          absurd (closers _ member) (by decide)
        obtain ⟨rest, bracket⟩ := step.follows_piece cut closedPiece
          (textOf_append tail second ▸ alike.1) noSubstitution
        obtain ⟨nextDue, nextRest⟩ := next
        obtain rfl : nextRest = textOf (tail ++ second) := rest
        rcases ih reaches (tail_of_pieces_eq cut) closedTail alike.2
          (isCloser_of_dueAfter? bracket closers) with
          ⟨before, after, rfl, remains, text, read⟩ | ⟨middle, read, passed⟩
        · refine .inl ⟨piece :: before, after, rfl, remains, text, ?_⟩
          rw [codeOf_cons, dueAfter?_append_of_eq_some bracket, read]
        · refine .inr ⟨middle, ?_, passed⟩
          rw [codeOf_cons, dueAfter?_append_of_eq_some bracket, read]

/-- Pieces that the interpreter cuts as the check does are a run of tokens. -/
theorem reaches_of_pieces {first second : List Piece} {due next : List Char}
    (lexed : Lexes (textOf (first ++ second)) (first ++ second))
    (closed : ∀ piece ∈ first, piece.IsClosed) (alike : CutAlike (textOf second) first)
    (literal : ∀ quote string, .string quote string ∈ first → quote ≠ '\x60' →
      StringText quote string)
    (read : dueAfter? due (codeOf first) = some next) :
    Reaches ⟨due, textOf (first ++ second)⟩ ⟨next, textOf second⟩ := by
  induction first generalizing due with
  | nil =>
      obtain rfl := Option.some.inj read
      exact .refl
  | cons piece tail ih =>
      rw [codeOf_cons, dueAfter?_append, Option.bind_eq_some_iff] at read
      obtain ⟨middle, bracket, read⟩ := read
      obtain ⟨closedPiece, closedTail⟩ := List.forall_mem_cons.mp closed
      have step :
          Step ⟨due, textOf (piece :: (tail ++ second))⟩ ⟨middle, textOf (tail ++ second)⟩ :=
        .of_piece lexed closedPiece (textOf_append tail second ▸ alike.1)
          (fun quote string same => literal quote string (same ▸ List.mem_cons_self)) bracket
      exact .head step (ih lexed.tail closedTail alike.2
        (fun quote string member => literal quote string (List.mem_cons_of_mem piece member)) read)

/-- Characters that neither the check nor the interpreter combines with others are a run of
tokens. -/
theorem reaches_of_plain (plain rest : List Char) {due next : List Char}
    (allPlain : ∀ char ∈ plain, isPlain char = true) (read : dueAfter? due plain = some next) :
    Reaches ⟨due, plain ++ rest⟩ ⟨next, rest⟩ := by
  induction plain generalizing due with
  | nil =>
      obtain rfl := Option.some.inj read
      exact .refl
  | cons char plain ih =>
      rw [dueAfter?, Option.bind_eq_some_iff] at read
      obtain ⟨middle, bracket, read⟩ := read
      obtain ⟨isPlain, others⟩ := List.forall_mem_cons.mp allPlain
      simp only [Expression.isPlain, Bool.and_eq_true, Bool.not_eq_true', decide_eq_true_eq]
        at isPlain
      have step : Step ⟨due, char :: (plain ++ rest)⟩ ⟨middle, plain ++ rest⟩ :=
        .char isPlain.1 (no_opener_at_start fun _ slash _ => isPlain.2 slash)
          (no_opener_at_start fun _ slash _ => isPlain.2 slash) bracket
      exact .head step (ih others read)

/-! ### Texts that are cut alike -/

/-- Only a slash begins a regular expression. -/
theorem endsAlike_code {char : Char} (noSlash : char ≠ '/') (after : List Char) :
    EndsAlike (.code char) after :=
  fun _ _ isRegex => noSlash (List.cons.inj isRegex.slashes).1

theorem cutAlike_plain {plain : List Char} (allPlain : ∀ char ∈ plain, isPlain char = true)
    (after : List Char) : CutAlike after (plain.map plainPiece) := by
  induction plain with
  | nil => trivial
  | cons char plain ih =>
      obtain ⟨isPlain, others⟩ := List.forall_mem_cons.mp allPlain
      simp only [Expression.isPlain, Bool.and_eq_true, decide_eq_true_eq] at isPlain
      refine ⟨?_, ih others⟩
      unfold plainPiece
      split
      next => trivial
      next => exact endsAlike_code isPlain.2 _

/-- A regular expression that is followed by more lines ends in its own. -/
theorem IsRegex.of_append_newline {regex rest text after : List Char}
    (isRegex : IsRegex regex rest (text ++ '\n' :: after)) :
    ∃ before, IsRegex regex before text := by
  obtain ⟨slashes, inside, notEmpty, noComment⟩ := isRegex
  have noFeed : '\n' ∉ '/' :: (regex ++ ['/']) := by
    simp only [List.mem_cons, List.mem_append, List.not_mem_nil, or_false, not_or]
    exact ⟨by decide, fun member => inside.inLine _ member (by decide), by decide⟩
  have same : text ++ '\n' :: after = '/' :: (regex ++ ['/']) ++ rest := by
    rw [slashes, List.cons_append, List.append_assoc]
    rfl
  rcases List.append_eq_append_iff.mp same with ⟨between, longer, feed⟩ | ⟨between, shorter, _⟩
  · cases between with
    | nil =>
        refine ⟨[], ?_, inside, notEmpty, noComment⟩
        rw [← List.append_nil text, ← longer]
    | cons char between =>
        obtain ⟨rfl, _⟩ := List.cons.inj feed
        exact (noFeed (by rw [longer]; simp)).elim
  · exact ⟨between, by rw [shorter]; simp, inside, notEmpty, noComment⟩

/-- The only slash of a line begins no regular expression. -/
theorem endsAlike_slash {line : List Char} (noSlash : '/' ∉ line) (after : List Char) :
    EndsAlike (.code '/') (line ++ '\n' :: after) := by
  intro regex rest isRegex
  rw [← List.cons_append] at isRegex
  obtain ⟨before, shorter⟩ := isRegex.of_append_newline
  have same := (List.cons.inj shorter.slashes).2
  exact noSlash (by rw [same]; simp)

/-- What follows in other lines does not change how a text is cut. -/
theorem CutAlike.append_newline {pieces : List Piece} (alike : CutAlike [] pieces)
    (after : List Char) : CutAlike ('\n' :: after) pieces := by
  induction pieces with
  | nil => trivial
  | cons piece pieces ih =>
      refine ⟨?_, ih alike.2⟩
      have here := alike.1
      rw [List.append_nil] at here
      cases piece with
      | code char =>
          intro regex rest isRegex
          obtain ⟨before, shorter⟩ := IsRegex.of_append_newline
            (show IsRegex regex rest ((char :: textOf pieces) ++ '\n' :: after) from isRegex)
          exact here regex before shorter
      | _ => exact here

end ScriptGate.EcmaScript
