import ScriptGate.Proofs.Expression.Template

/-! # A wrapped script stays inside its wrapper

The wrapper opens three brackets before the script it embeds. The check of the wrapped text reads
the script with these brackets open all the way, and finds exactly them open after the line feed
that follows the script (`wrap_encloses_body`). A wrapped script is a single expression again, so it
can be wrapped once more. -/

namespace ScriptGate.Expression

/-- Some pieces and a line feed are read inside the brackets that are open before them: these stay
open at every place among the pieces, and after the line feed they are open and no others. No
comment and no string literal runs on over the line feed. -/
structure Scan.Encloses (before : Scan) (inside closing : List Piece) : Prop where
  closed : ∀ piece ∈ inside, piece.IsClosed
  kept : ∀ read rest, inside = read ++ rest →
    ∃ scan added, before.Reads read (rest ++ .blank '\n' :: closing) scan ∧
      scan.due = added ++ before.due
  restored : ∃ scan, before.Reads (inside ++ [.blank '\n']) closing scan ∧ scan.due = before.due

/-- The pieces of an accepted script end, and close the brackets they open. -/
theorem nested_of_accepted {script : List Char} (accepted : refusal? script = none) :
    (∀ piece ∈ pieces (body script), piece.IsClosed) ∧
      dueAfter? [] (codeOf (pieces (body script))) = some [] := by
  unfold refusal? at accepted
  by_cases blank : (body script).isEmpty = true
  · rw [if_pos blank] at accepted
    cases accepted
  · rw [if_neg blank] at accepted
    obtain ⟨final, run, complete⟩ := Scan.refusal?_eq_none_iff.mp accepted
    exact ⟨run.isClosed, run.dueAfter?_eq.trans (congrArg some complete)⟩

/-- The pieces of a text between an opening and a line feed are those of the text on its own. -/
theorem pieces_enclosed {cap : Int} (positive : 1 ≤ cap) {text : List Char}
    (closed : ∀ piece ∈ pieces text, piece.IsClosed) (rest : List Char) :
    pieces ((wrapperHead cap).toList ++ (text ++ '\n' :: rest)) =
      (wrapperHead cap).toList.map plainPiece ++ (pieces text ++ .blank '\n' :: pieces rest) := by
  rw [pieces_plain_append (isPlain_of_mem_wrapperHead positive), pieces_append_newline closed]

/-- A line feed after some pieces changes nothing about their brackets. -/
theorem nested_concat_newline {inside : List Piece}
    (closed : ∀ piece ∈ inside, piece.IsClosed)
    (nested : dueAfter? [] (codeOf inside) = some []) :
    (∀ piece ∈ inside ++ [.blank '\n'], piece.IsClosed) ∧
      dueAfter? [] (codeOf (inside ++ [.blank '\n'])) = some [] := by
  constructor
  · intro piece member
    rcases List.mem_append.mp member with inner | feed
    · exact closed piece inner
    · rw [List.mem_singleton.mp feed]
      trivial
  · rw [codeOf_append, dueAfter?_append_of_eq_some nested]
    rfl

/-- Inside open brackets, pieces that end and close what they open are enclosed. -/
theorem encloses_of_nested {before : Scan} (enclosed : before.due ≠ [])
    (inLine : before.lineStart = false) {inside : List Piece}
    (closed : ∀ piece ∈ inside, piece.IsClosed)
    (nested : dueAfter? [] (codeOf inside) = some []) (closing : List Piece) :
    before.Encloses inside closing where
  closed := closed
  kept := by
    rintro read rest rfl
    rw [codeOf_append, dueAfter?_append, Option.bind_eq_some_iff] at nested
    obtain ⟨added, readDue, _⟩ := nested
    have closedRead : ∀ piece ∈ read, piece.IsClosed := fun piece member =>
      closed piece (List.mem_append_left rest member)
    obtain ⟨scan, run, due, _⟩ := before.reads_within (rest ++ .blank '\n' :: closing) enclosed
      (List.nil_append _).symm inLine closedRead readDue
    exact ⟨scan, added, run, due⟩
  restored := by
    obtain ⟨closedLine, nestedLine⟩ := nested_concat_newline closed nested
    obtain ⟨scan, run, due, _⟩ := before.reads_within closing enclosed (List.nil_append _).symm
      inLine closedLine nestedLine
    exact ⟨scan, run, due⟩

/-- The body of a wrapped text is the text without its last semicolon. -/
theorem body_embed (cap : Int) {closing : List Char}
    (tail : wrapperTail.toList = '\n' :: (closing ++ [';'])) (isClosing : IsClosing closing)
    (text : List Char) :
    body (embed cap text) = (wrapperHead cap).toList ++ (text ++ '\n' :: closing) := by
  obtain ⟨start, closingEnd⟩ : ∃ start, closing = start ++ [')'] := by
    refine ⟨textOf ((pieces closing).take ((pieces closing).length - 3)) ++ [')', '('], ?_⟩
    calc closing
        = textOf (pieces closing) := (textOf_pieces closing).symm
      _ = textOf ((pieces closing).take ((pieces closing).length - 3)) ++ [')', '(', ')'] := by
          rw [isClosing.call, textOf_append, ← isClosing.call]
          rfl
      _ = _ := by rw [List.append_assoc]; rfl
  have first : beforeCap.toList = '(' :: beforeCap.toList.tail := by decide
  have whole : embed cap text =
      ((wrapperHead cap).toList ++ (text ++ '\n' :: closing)) ++ [';'] := by
    simp only [embed, tail, List.append_assoc, List.cons_append]
  have untrimmed : Text.trimStart (embed cap text) = embed cap text := by
    rw [embed, wrapperHead_toList, first]
    rfl
  have shorter : (wrapperHead cap).toList ++ (text ++ '\n' :: closing) =
      ((wrapperHead cap).toList ++ (text ++ '\n' :: start)) ++ [')'] := by
    simp only [closingEnd, List.append_assoc, List.cons_append]
  rw [body, untrimmed, whole, Text.dropEndWhile_concat_of_holds (by decide), shorter,
    Text.dropEndWhile_concat_of_fails (by decide)]

/-- The run of the check over a wrapped text: the opening, then the embedded text inside its
brackets, then the closing. -/
theorem embed_reads {cap : Int} (positive : 1 ≤ cap) {text : List Char}
    (closed : ∀ piece ∈ pieces text, piece.IsClosed)
    (nested : dueAfter? [] (codeOf (pieces text)) = some []) :
    ∃ opening closing before final,
      textOf opening = (wrapperHead cap).toList ∧
      textOf (.blank '\n' :: closing) ++ [';'] = wrapperTail.toList ∧
      pieces (body (embed cap text)) = opening ++ (pieces text ++ .blank '\n' :: closing) ∧
      Scan.initial.Reads opening (pieces text ++ .blank '\n' :: closing) before ∧
      before.due = wrapperDue ∧ before.Encloses (pieces text) closing ∧
      Scan.initial.Reads (pieces (body (embed cap text))) [] final ∧ final.due = [] := by
  obtain ⟨closing, tail, isClosing⟩ := wrapperTail_toList
  obtain ⟨before, opening, due, inLine⟩ :=
    opening_reads positive (pieces text ++ .blank '\n' :: pieces closing)
  have enclosed : before.due ≠ [] := by
    rw [due]
    exact List.cons_ne_nil _ _
  obtain ⟨closedLine, nestedLine⟩ := nested_concat_newline closed nested
  obtain ⟨after, inside, afterDue, afterInLine⟩ := before.reads_within (pieces closing) enclosed
    (List.nil_append _).symm inLine closedLine nestedLine
  obtain ⟨final, outside, complete⟩ :=
    closing_reads isClosing (afterDue.trans due) afterInLine
  have inPieces : pieces (body (embed cap text)) =
      (wrapperHead cap).toList.map plainPiece ++
        (pieces text ++ .blank '\n' :: pieces closing) := by
    rw [body_embed cap tail isClosing, pieces_enclosed positive closed]
  refine ⟨_, pieces closing, before, final, textOf_map_plainPiece _, ?_, inPieces, opening, due,
    encloses_of_nested enclosed inLine closed nested _, ?_, complete⟩
  · rw [tail, textOf_cons, textOf_pieces]
    rfl
  · have line := inside.complete outside
    rw [List.append_assoc, List.singleton_append] at line
    rw [inPieces]
    exact opening.complete line

/-- A text that ends its comments and string literals and closes its brackets can be wrapped. -/
theorem refusal?_embed {cap : Int} (positive : 1 ≤ cap) {text : List Char}
    (closed : ∀ piece ∈ pieces text, piece.IsClosed)
    (nested : dueAfter? [] (codeOf (pieces text)) = some []) :
    refusal? (embed cap text) = none := by
  obtain ⟨closing, tail, isClosing⟩ := wrapperTail_toList
  obtain ⟨_, _, _, final, _, _, _, _, _, _, run, complete⟩ := embed_reads positive closed nested
  have notEmpty : ¬ (body (embed cap text)).isEmpty = true := by
    rw [body_embed cap tail isClosing, List.isEmpty_iff]
    simp
  rw [refusal?, if_neg notEmpty]
  exact Scan.refusal?_eq_none_iff.mpr ⟨final, run, complete⟩

theorem wrap_eq_ok {script : List Char} {cap : Int} (accepted : refusal? script = none)
    (positive : 1 ≤ cap) : wrap script cap = .ok (embed cap (body script)) := by
  rw [wrap, if_neg (by omega), accepted]

/-- An accepted script can be wrapped again and again. -/
theorem foldlM_wrap {script : List Char} (accepted : refusal? script = none) {caps : List Int}
    (positive : ∀ cap ∈ caps, 1 ≤ cap) :
    ∃ wrapped, caps.foldlM wrap script = .ok wrapped ∧ refusal? wrapped = none := by
  induction caps generalizing script with
  | nil => exact ⟨script, rfl, accepted⟩
  | cons cap caps ih =>
      obtain ⟨capPositive, laterPositive⟩ := List.forall_mem_cons.mp positive
      obtain ⟨closed, nested⟩ := nested_of_accepted accepted
      obtain ⟨wrapped, later, still⟩ :=
        ih (refusal?_embed capPositive closed nested) laterPositive
      refine ⟨wrapped, ?_, still⟩
      rw [List.foldlM_cons, wrap_eq_ok accepted capPositive]
      exact later

/-- **A wrapped script stays inside its wrapper.** What the check reads of the wrapped text of an
accepted script consists of the wrapper's opening, the script and the wrapper's closing, also in its
pieces. The check stands inside three brackets of the opening throughout the script, and after the
line feed that begins the closing no other brackets are open. The wrapped text is accepted, and so
is every text that further wrapping makes of it. -/
theorem wrap_encloses_body {script : List Char} {cap : Int} (accepted : refusal? script = none)
    (positive : 1 ≤ cap) :
    wrap script cap = .ok (embed cap (body script)) ∧
    (∃ opening closing before,
      textOf opening = (wrapperHead cap).toList ∧
      textOf (.blank '\n' :: closing) ++ [';'] = wrapperTail.toList ∧
      pieces (body (embed cap (body script))) =
        opening ++ (pieces (body script) ++ .blank '\n' :: closing) ∧
      Scan.initial.Reads opening (pieces (body script) ++ .blank '\n' :: closing) before ∧
      before.due = [')', '\x7d', ')'] ∧
      before.Encloses (pieces (body script)) closing) ∧
    refusal? (embed cap (body script)) = none ∧
    ∀ caps : List Int, (∀ later ∈ caps, 1 ≤ later) →
      ∃ wrapped, caps.foldlM wrap script = .ok wrapped ∧ refusal? wrapped = none := by
  obtain ⟨closed, nested⟩ := nested_of_accepted accepted
  obtain ⟨opening, closing, before, _, head, tail, inPieces, run, due, encloses, _⟩ :=
    embed_reads positive closed nested
  exact ⟨wrap_eq_ok accepted positive,
    ⟨opening, closing, before, head, tail, inPieces, run, due, encloses⟩,
    refusal?_embed positive closed nested, fun caps => foldlM_wrap accepted⟩

theorem wrap_encloses_commented_body :
    refusal? "a.b('(;') // )".toList = none ∧ (1 : Int) ≤ 5 ∧
    wrap "a.b('(;') // )".toList 5 = .ok (embed 5 (body "a.b('(;') // )".toList)) ∧
    refusal? (embed 5 (body "a.b('(;') // )".toList)) = none :=
  have accepted : refusal? "a.b('(;') // )".toList = none := by decide +kernel
  have ⟨wrapped, _, again, _⟩ := wrap_encloses_body accepted (show (1 : Int) ≤ 5 by decide)
  ⟨accepted, by decide, wrapped, again⟩

end ScriptGate.Expression
