import ScriptGate.Proofs.EcmaScript.Lexing
import ScriptGate.Proofs.Expression.Containment

/-! # When a wrapped script stays inside its wrapper for the interpreter

The interpreter runs a wrapped script inside the brackets of the wrapper when it cuts the script as
the check does (`wrap_staysInside`). Where it cuts the script in another way, an accepted script can
close these brackets: a carriage return ends a line comment (`carriageReturn_leaves_wrapper`), a
quote in a regular expression begins no string literal (`regex_leaves_wrapper`), and a back quote in
the code of a substitution does not end the template (`substitution_leaves_wrapper`). -/

namespace ScriptGate.EcmaScript

open Expression

/-- Where a run over an embedded text can stand: in the opening before it, in the text with the
brackets of the opening around it, or past it, when the run has come to the closing with these
brackets open and no others. -/
inductive Place (opening inside closing brackets : List Char) (state : State) : Prop where
  | opening {rest : List Char} (suffix : rest <:+ opening) (notEmpty : rest ≠ [])
      (text : state.rest = rest ++ (inside ++ closing))
  | inside {rest : List Char} (suffix : rest <:+ inside) (notEmpty : rest ≠ [])
      (text : state.rest = rest ++ closing) (around : brackets <:+ state.due)
  | closing (passed : Reaches ⟨brackets, closing⟩ state)

/-- However the interpreter cuts a wrapped text, only the closing of the wrapper closes the three
brackets of its opening. -/
def StaysInside (cap : Int) (inside : List Char) : Prop :=
  ∀ state, Reaches ⟨[], embed cap inside⟩ state →
    Place (wrapperHead cap).toList inside wrapperTail.toList [')', '\x7d', ')'] state

/-- The string literals among some pieces are ones for the interpreter, which lets no line break
stand in them. -/
def AreLiterals (pieces : List Piece) : Prop :=
  ∀ quote string, .string quote string ∈ pieces → quote ≠ '\x60' → StringText quote string

theorem textOf_ne_nil {pieces : List Piece} (notEmpty : pieces ≠ []) : textOf pieces ≠ [] := by
  cases pieces with
  | nil => exact absurd rfl notEmpty
  | cons piece pieces =>
      rw [textOf_cons]
      cases piece <;> exact List.cons_ne_nil _ _

theorem textOf_suffix (before after : List Piece) : textOf after <:+ textOf (before ++ after) :=
  ⟨textOf before, (textOf_append before after).symm⟩

/-- The opening leaves three brackets open. -/
theorem dueAfter?_wrapperHead {cap : Int} (positive : 1 ≤ cap) :
    dueAfter? [] (wrapperHead cap).toList = some wrapperDue := by
  obtain ⟨before, run, due, _⟩ := opening_reads positive []
  rw [← dueAfter?_codeOf_plain, ← due]
  exact run.dueAfter?_eq

/-- The closing begins a new line, which is a cut. -/
theorem pieces_append_closing {inside : List Char}
    (closed : ∀ piece ∈ pieces inside, piece.IsClosed) :
    pieces (inside ++ wrapperTail.toList) = pieces inside ++ pieces wrapperTail.toList := by
  obtain ⟨closing, tail, _⟩ := wrapperTail_toList
  rw [tail, pieces_append_newline closed, pieces_blank (by decide)]

/-- The pieces of an embedded text are those of the opening, its own, and those of the closing. -/
theorem pieces_embed {cap : Int} (positive : 1 ≤ cap) {inside : List Char}
    (closed : ∀ piece ∈ pieces inside, piece.IsClosed) :
    pieces (embed cap inside) =
      (wrapperHead cap).toList.map plainPiece ++ (pieces inside ++ pieces wrapperTail.toList) := by
  rw [embed, List.append_assoc, pieces_plain_append (isPlain_of_mem_wrapperHead positive),
    pieces_append_closing closed]

/-- The closing does not change how the text before it is cut. -/
theorem CutAlike.before_closing {pieces : List Piece} (alike : CutAlike [] pieces) :
    CutAlike wrapperTail.toList pieces := by
  obtain ⟨closing, tail, _⟩ := wrapperTail_toList
  rw [tail]
  exact alike.append_newline _

/-- Every run over an embedded text that is cut alike stays inside. -/
theorem staysInside_of_cutAlike {cap : Int} (positive : 1 ≤ cap) {inside : List Char}
    (closed : ∀ piece ∈ pieces inside, piece.IsClosed)
    (nested : dueAfter? [] (codeOf (pieces inside)) = some [])
    (alike : CutAlike [] (pieces inside)) : StaysInside cap inside := by
  intro state reaches
  have cut := pieces_embed positive closed
  have whole : embed cap inside = textOf ((wrapperHead cap).toList.map plainPiece ++
      (pieces inside ++ pieces wrapperTail.toList)) := by
    rw [← cut, textOf_pieces]
  rw [whole] at reaches cut
  rcases reaches.through cut (by simp only [List.forall_mem_map, isClosed_plainPiece, implies_true])
      (cutAlike_plain (isPlain_of_mem_wrapperHead positive) _) nofun with
    ⟨before, after, split, remains, text, _⟩ | ⟨middle, read, reaches⟩
  · refine .opening ?_ (textOf_ne_nil remains) ?_
    · rw [← textOf_map_plainPiece (wrapperHead cap).toList, split]
      exact textOf_suffix before after
    · rw [text, textOf_append, textOf_append, textOf_pieces, textOf_pieces]
  · rw [dueAfter?_codeOf_plain, dueAfter?_wrapperHead positive, Option.some.injEq] at read
    subst read
    have cutInside : pieces (textOf (pieces inside ++ pieces wrapperTail.toList)) =
        pieces inside ++ pieces wrapperTail.toList := by
      rw [textOf_append, textOf_pieces, textOf_pieces, pieces_append_closing closed]
    rcases reaches.through cutInside closed ((textOf_pieces _).symm ▸ alike.before_closing)
        (List.all_eq_true.mp rfl) with
      ⟨before, after, split, remains, text, read⟩ | ⟨middle, read, passed⟩
    · refine .inside ?_ (textOf_ne_nil remains) ?_ ?_
      · rw [← textOf_pieces inside, split]
        exact textOf_suffix before after
      · rw [text, textOf_append, textOf_pieces]
      · rw [split, codeOf_append, dueAfter?_append, Option.bind_eq_some_iff] at nested
        obtain ⟨added, readBefore, _⟩ := nested
        have around := dueAfter?_outer readBefore wrapperDue
        rw [List.nil_append, read, Option.some.injEq] at around
        exact ⟨added, around.symm⟩
    · have around := dueAfter?_outer nested wrapperDue
      rw [List.nil_append, read, Option.some.injEq] at around
      rw [around, textOf_pieces] at passed
      exact .closing passed

/-- There is a run over the opening. -/
theorem reaches_inside {cap : Int} (positive : 1 ≤ cap) (inside : List Char) :
    Reaches ⟨[], embed cap inside⟩ ⟨[')', '\x7d', ')'], inside ++ wrapperTail.toList⟩ := by
  rw [embed, List.append_assoc]
  exact reaches_of_plain _ _ (isPlain_of_mem_wrapperHead positive) (dueAfter?_wrapperHead positive)

/-- Some run over an embedded text that is cut alike comes to the closing. -/
theorem reaches_closing {cap : Int} (positive : 1 ≤ cap) {inside : List Char}
    (closed : ∀ piece ∈ pieces inside, piece.IsClosed)
    (nested : dueAfter? [] (codeOf (pieces inside)) = some [])
    (alike : CutAlike [] (pieces inside)) (literals : AreLiterals (pieces inside)) :
    Reaches ⟨[], embed cap inside⟩ ⟨[')', '\x7d', ')'], wrapperTail.toList⟩ := by
  have lexed : Lexes (textOf (pieces inside ++ pieces wrapperTail.toList))
      (pieces inside ++ pieces wrapperTail.toList) := by
    rw [textOf_append, textOf_pieces, textOf_pieces, ← pieces_append_closing closed]
    exact lexes_pieces _
  have crossed := reaches_of_pieces lexed closed ((textOf_pieces _).symm ▸ alike.before_closing)
    literals (dueAfter?_outer nested wrapperDue)
  rw [textOf_append, textOf_pieces, textOf_pieces] at crossed
  exact (reaches_inside positive inside).trans crossed

/-- **An accepted script that the interpreter cuts as the check does stays inside its wrapper.** Its
line comments end with their lines for the interpreter as well, its templates have no
substitutions, and none of its slashes can begin a regular expression. Then on every run of the
interpreter the brackets of the opening are open throughout the script and no others are when it
ends. If the string literals are ones for the interpreter, there is a run to that place. -/
theorem wrap_staysInside {script : List Char} {cap : Int} (accepted : refusal? script = none)
    (positive : 1 ≤ cap) (alike : CutAlike [] (pieces (body script))) :
    wrap script cap = .ok (embed cap (body script)) ∧ StaysInside cap (body script) ∧
    (AreLiterals (pieces (body script)) →
      Reaches ⟨[], embed cap (body script)⟩ ⟨[')', '\x7d', ')'], wrapperTail.toList⟩) := by
  obtain ⟨closed, nested⟩ := nested_of_accepted accepted
  exact ⟨wrap_eq_ok accepted positive, staysInside_of_cutAlike positive closed nested alike,
    reaches_closing positive closed nested alike⟩

theorem wrap_staysInside_division :
    refusal? "a('(') / 2\n// )".toList = none ∧ (1 : Int) ≤ 5 ∧
    CutAlike [] (pieces (body "a('(') / 2\n// )".toList)) ∧
    StaysInside 5 (body "a('(') / 2\n// )".toList) := by
  have accepted : refusal? "a('(') / 2\n// )".toList = none := by decide +kernel
  have cut : pieces (body "a('(') / 2\n// )".toList) =
      [.code 'a', .code '(', .string '\x27' ['('], .code ')', .blank ' ', .code '/', .blank ' ',
        .code '2', .blank '\n', .lineComment [' ', ')']] := by decide +kernel
  have alike : CutAlike [] (pieces (body "a('(') / 2\n// )".toList)) := by
    rw [cut]
    exact ⟨endsAlike_code (by decide) _, endsAlike_code (by decide) _, nofun,
      endsAlike_code (by decide) _, trivial, endsAlike_slash (show '/' ∉ [' ', '2'] by decide) _,
      trivial, endsAlike_code (by decide) _, trivial, by simp [EndsAlike, lineTerminators], trivial⟩
  exact ⟨accepted, by decide, alike, (wrap_staysInside accepted (by decide) alike).2.1⟩

/-! ### Scripts that leave the wrapper -/

/-- A run that stands in a text with too few brackets around it shows that the text leaves the
wrapper. -/
theorem not_staysInside {cap : Int} (positive : 1 ≤ cap) {due rest inside : List Char}
    (suffix : rest <:+ inside) (notEmpty : rest ≠ []) (few : due.length < 3)
    (reaches : Reaches ⟨[')', '\x7d', ')'], inside ++ wrapperTail.toList⟩
      ⟨due, rest ++ wrapperTail.toList⟩) : ¬ StaysInside cap inside := by
  intro stays
  have shorter := suffix.length_le
  cases stays _ ((reaches_inside positive inside).trans reaches) with
  | opening otherSuffix otherNotEmpty text =>
      have longer := congrArg List.length text
      have remains := List.length_pos_of_ne_nil otherNotEmpty
      simp only [List.length_append] at longer
      omega
  | inside _ _ _ around =>
      have enough := around.length_le
      simp only [List.length_cons, List.length_nil] at enough
      omega
  | closing passed =>
      have later := passed.length_le
      have remains := List.length_pos_of_ne_nil notEmpty
      simp only [List.length_append] at later
      omega

/-- A carriage return ends a line comment for the interpreter, not for the check. What looks like
the rest of the comment closes a bracket of the wrapper. -/
theorem carriageReturn_leaves_wrapper :
    refusal? "a//\r);b(".toList = none ∧ ¬ StaysInside 1 (body "a//\r);b(".toList) := by
  have unchanged : body "a//\r);b(".toList = ['a', '/', '/', '\r', ')', ';', 'b', '('] := by
    decide +kernel
  have leaves (after : List Char) :
      Reaches ⟨wrapperDue, 'a' :: '/' :: '/' :: '\r' :: ')' :: after⟩ ⟨['\x7d', ')'], after⟩ := by
    have comment : Step ⟨wrapperDue, '/' :: '/' :: ([] ++ '\r' :: ')' :: after)⟩
        ⟨wrapperDue, '\r' :: ')' :: after⟩ :=
      .lineComment nofun (by simp [lineTerminators])
    have bracket : Reaches ⟨wrapperDue, ['\r', ')'] ++ after⟩ ⟨['\x7d', ')'], after⟩ :=
      reaches_of_plain _ _ (List.all_eq_true.mp rfl) rfl
    have letter := reaches_of_plain ['a'] ('/' :: '/' :: '\r' :: ')' :: after)
      (List.all_eq_true.mp rfl) (show dueAfter? wrapperDue ['a'] = some wrapperDue from rfl)
    exact letter.trans (.head comment bracket)
  refine ⟨by decide +kernel, ?_⟩
  rw [unchanged]
  exact not_staysInside (by decide) (show [';', 'b', '('] <:+ _ by decide) (List.cons_ne_nil _ _)
    (by decide) (leaves _)

/-- The interpreter takes the quote in a regular expression for a part of it. For the check a string
literal begins there. -/
theorem regex_leaves_wrapper :
    refusal? "/\"/);b(/\"/".toList = none ∧ ¬ StaysInside 1 (body "/\"/);b(/\"/".toList) := by
  have unchanged : body "/\"/);b(/\"/".toList =
      ['/', '\x22', '/', ')', ';', 'b', '(', '/', '\x22', '/'] := by decide +kernel
  have leaves (after : List Char) :
      Reaches ⟨wrapperDue, '/' :: '\x22' :: '/' :: ')' :: after⟩ ⟨['\x7d', ')'], after⟩ := by
    have quote : IsRegex ['\x22'] (')' :: after) ('/' :: '\x22' :: '/' :: ')' :: after) :=
      ⟨rfl, .plain (by decide) (by decide) .nil, by decide, by decide⟩
    exact .head (.regex quote) (reaches_of_plain [')'] _ (List.all_eq_true.mp rfl) rfl)
  refine ⟨by decide +kernel, ?_⟩
  rw [unchanged]
  exact not_staysInside (by decide) (show [';', 'b', '(', '/', '\x22', '/'] <:+ _ by decide)
    (List.cons_ne_nil _ _) (by decide) (leaves _)

/-- The interpreter reads the code of a substitution, in which a back quote can stand in a string
literal. For the check the template ends there. -/
theorem substitution_leaves_wrapper :
    refusal? "`$\x7b\"`\"\x7d`);b(`$\x7b\"`\"\x7d`".toList = none ∧
      ¬ StaysInside 1 (body "`$\x7b\"`\"\x7d`);b(`$\x7b\"`\"\x7d`".toList) := by
  have unchanged : body "`$\x7b\"`\"\x7d`);b(`$\x7b\"`\"\x7d`".toList =
      ['\x60', '$', '\x7b', '\x22', '\x60', '\x22', '\x7d', '\x60', ')', ';', 'b', '(',
        '\x60', '$', '\x7b', '\x22', '\x60', '\x22', '\x7d', '\x60'] := by decide +kernel
  have leaves (after : List Char) :
      Reaches ⟨wrapperDue,
          '\x60' :: '$' :: '\x7b' :: '\x22' :: '\x60' :: '\x22' :: '\x7d' :: '\x60' :: ')' :: after⟩
        ⟨['\x7d', ')'], after⟩ := by
    have head : Step
        ⟨wrapperDue, '\x60' :: ([] ++ '$' :: '\x7b' ::
          '\x22' :: '\x60' :: '\x22' :: '\x7d' :: '\x60' :: ')' :: after)⟩
        ⟨'\x60' :: wrapperDue, '\x22' :: '\x60' :: '\x22' :: '\x7d' :: '\x60' :: ')' :: after⟩ :=
      .templateHead .nil
    have literal : Step
        ⟨'\x60' :: wrapperDue, '\x22' :: (['\x60'] ++ '\x22' :: '\x7d' :: '\x60' :: ')' :: after)⟩
        ⟨'\x60' :: wrapperDue, '\x7d' :: '\x60' :: ')' :: after⟩ :=
      .string (by decide) (.plain (by decide) .nil)
    have tail : Step ⟨'\x60' :: wrapperDue, '\x7d' :: ([] ++ '\x60' :: ')' :: after)⟩
        ⟨wrapperDue, ')' :: after⟩ := .templateTail .nil
    have bracket := reaches_of_plain [')'] after (List.all_eq_true.mp rfl)
      (show dueAfter? wrapperDue [')'] = some ['\x7d', ')'] from rfl)
    exact .head head (.head literal (.head tail bracket))
  refine ⟨by decide +kernel, ?_⟩
  rw [unchanged]
  exact not_staysInside (by decide)
    (show [';', 'b', '(', '\x60', '$', '\x7b', '\x22', '\x60', '\x22', '\x7d', '\x60'] <:+ _
      by decide) (List.cons_ne_nil _ _) (by decide) (leaves _)

end ScriptGate.EcmaScript
