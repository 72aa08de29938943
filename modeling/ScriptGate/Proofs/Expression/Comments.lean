import ScriptGate.Proofs.Expression.Acceptance
import ScriptGate.Proofs.Expression.Body

/-! # Comments in scripts

Without its comments a script is read as before, for white space and comments count alike: what the
check sees of the pieces stays the same (`Lexes.outline_uncommented`). Only at the end of a script
it makes a difference what is white space and what is a comment, since the check drops white space
and semicolons there and no comment. A semicolon before a comment at the end is therefore taken for
the end of a statement, and a script of nothing but comments for an expression
(`refusal?_eq_none_iff_uncommented`). -/

namespace ScriptGate.Expression

/-- What stands for a piece in a script without comments: nothing for a line comment, and for a
block comment a space, or a line feed when it has one. -/
def Piece.uncommented : Piece → List Piece
  | .lineComment _ => []
  | .blockComment text => [.blank (if text.contains '\n' then '\n' else ' ')]
  | piece => [piece]

/-- A script without its comments. -/
def uncommented (script : List Char) : List Char :=
  textOf ((pieces script).flatMap Piece.uncommented)

def Piece.isComment : Piece → Bool
  | .lineComment _ | .blockComment _ => true
  | _ => false

/-- White space, semicolons and comments. -/
def Piece.pauses (piece : Piece) : Bool := piece.trails || piece.isComment

/-- Comments, with nothing but white space and semicolons beside them. -/
structure IsRemark (tokens : List Piece) : Prop where
  pauses : ∀ piece ∈ tokens, piece.pauses = true
  comment : ∃ piece ∈ tokens, piece.isComment = true

/-! ### Pieces without comments -/

theorem Lexes.head?_uncommented {text : List Char} {tokens : List Piece} (lexed : Lexes text tokens)
    (noComment : text.head? ≠ some '/') :
    (textOf (tokens.flatMap Piece.uncommented)).head? = text.head? := by
  cases lexed with
  | nil | blank _ _ | string _ _ _ | openString _ _ | code _ _ _ _ _ => rfl
  | lineComment _ _ _ | blockComment _ _ | openComment _ => exact absurd rfl noComment

/-- The pieces of a script without its comments are those of the script, without the comments. -/
theorem Lexes.uncommented {text : List Char} {tokens : List Piece} (lexed : Lexes text tokens) :
    Lexes (textOf (tokens.flatMap Piece.uncommented)) (tokens.flatMap Piece.uncommented) := by
  induction lexed with
  | nil => exact .nil
  | blank blank _ ih => exact .blank blank ih
  | lineComment _ _ _ ih => exact ih
  | @blockComment comment text tail first _ ih =>
      refine .blank ?_ ih
      split <;> decide
  | openComment endless =>
      have lexed := Lexes.openComment endless
      rwa [← lexed.textOf_eq] at lexed
  | string quoted inner _ ih =>
      have lexed := Lexes.string quoted inner ih
      rwa [← lexed.textOf_eq] at lexed
  | openString quoted endless =>
      have lexed := Lexes.openString quoted endless
      rwa [← lexed.textOf_eq] at lexed
  | @code char text tail notBlank notQuote noLineComment noBlockComment rest ih =>
      by_cases slash : char = '/'
      · have noComment : text.head? ≠ some '/' := by
          intro first
          apply noLineComment
          rw [List.cons_prefix_cons, List.singleton_prefix_iff_head?_eq_some]
          exact ⟨slash.symm, first⟩
        have same := rest.head?_uncommented noComment
        exact .code notBlank notQuote (no_opener_of_head? noLineComment same)
          (no_opener_of_head? noBlockComment same) ih
      · have noOpener (second : Char) (following : List Char) :
            ¬ ['/', second] <+: char :: following := fun opens =>
          slash (List.cons_prefix_cons.mp opens).1.symm
        exact .code notBlank notQuote (noOpener _ _) (noOpener _ _) ih

theorem pieces_uncommented (script : List Char) :
    pieces (uncommented script) = (pieces script).flatMap Piece.uncommented :=
  (lexes_pieces script).uncommented.pieces_eq

theorem eq_blank_of_stop {text : List Char} {piece : Piece} {rest : List Piece}
    (lexed : Lexes text (piece :: rest)) (stop : ∀ char ∈ text.head?, char = '\n') :
    piece = .blank '\n' := by
  cases lexed with
  | blank _ _ => rw [stop _ rfl]
  | lineComment _ _ _ | blockComment _ _ | openComment _ => exact absurd (stop '/' rfl) (by decide)
  | string quoted _ _ | openString quoted _ =>
      rw [stop _ rfl] at quoted
      exact absurd quoted (by decide)
  | code notBlank _ _ _ _ =>
      rw [stop _ rfl] at notBlank
      exact absurd notBlank (by decide)

/-- **Comments leave no trace in the outline** beyond that of the white space in their place. -/
theorem Lexes.outline_uncommented {text : List Char} {first second : List Piece}
    (lexed : Lexes text (first ++ second)) :
    outline (first.flatMap Piece.uncommented) = outline first := by
  induction first generalizing text with
  | nil => rfl
  | cons piece tail ih =>
      have same := ih lexed.tail
      rw [List.flatMap_cons]
      cases piece with
      | lineComment comment =>
          rw [Piece.uncommented, List.nil_append, same, outline]
          rw [List.cons_append] at lexed
          cases lexed with
          | lineComment _ stop lexed =>
              cases tail with
              | nil => rfl
              | cons next tail =>
                  rw [eq_blank_of_stop lexed stop, outline]
                  exact (joinGap_joinGap false true _).symm
      | blockComment comment =>
          rw [Piece.uncommented, List.singleton_append, outline, outline, same]
          cases comment.contains '\n' <;> rfl
      | blank _ | openComment _ | string _ _ | openString _ _ | code _ =>
          simp only [Piece.uncommented, List.singleton_append, outline, same]

/-! ### The end of a script -/

theorem trails_of_mem_uncommented {piece part : Piece} (pauses : piece.pauses = true)
    (member : part ∈ piece.uncommented) : part.trails = true := by
  cases piece with
  | lineComment _ => cases member
  | blockComment _ =>
      cases List.mem_singleton.mp member
      rfl
  | blank _ | code _ | openComment _ | string _ _ | openString _ _ =>
      cases List.mem_singleton.mp member
      exact (Bool.or_false _).symm.trans pauses

theorem uncommented_of_not_pauses {piece : Piece} (goesOn : piece.pauses = false) :
    piece.uncommented = [piece] := by
  cases piece with
  | lineComment _ | blockComment _ => cases goesOn
  | _ => rfl

theorem trails_of_not_pauses {piece : Piece} (goesOn : piece.pauses = false) :
    piece.trails = false := (Bool.or_eq_false_iff.mp goesOn).1

/-- Some pieces are cut before the white space, semicolons and comments at their end. -/
structure Pauses (tokens core tail : List Piece) : Prop where
  split : tokens = core ++ tail
  pauses : ∀ piece ∈ tail, piece.pauses = true
  goesOn : ∀ last ∈ core.getLast?, last.pauses = false

theorem exists_pauses (tokens : List Piece) : ∃ core tail, Pauses tokens core tail := by
  refine ⟨tokens.rdropWhile Piece.pauses, tokens.rtakeWhile Piece.pauses,
    List.rdropWhile_append_rtakeWhile.symm, fun _ => List.mem_rtakeWhile_imp, ?_⟩
  intro last isLast
  obtain ⟨filled, rfl⟩ := List.mem_getLast?_eq_getLast isLast
  exact Bool.of_not_eq_true (List.rdropWhile_last_not Piece.pauses tokens filled)

theorem Pauses.trimmed_uncommented {tokens core tail : List Piece}
    (paused : Pauses tokens core tail) :
    trimmed (tokens.flatMap Piece.uncommented) = core.flatMap Piece.uncommented := by
  have trails : ∀ part ∈ tail.flatMap Piece.uncommented, part.trails = true := by
    intro part member
    obtain ⟨piece, inTail, inPiece⟩ := List.mem_flatMap.mp member
    exact trails_of_mem_uncommented (paused.pauses piece inTail) inPiece
  have stays : ∀ last ∈ (core.flatMap Piece.uncommented).getLast?, last.trails = false := by
    intro last isLast
    rcases List.eq_nil_or_concat' core with rfl | ⟨start, piece, rfl⟩
    · cases isLast
    · have goesOn := paused.goesOn piece List.getLast?_concat
      rw [List.flatMap_append, List.flatMap_singleton, uncommented_of_not_pauses goesOn,
        List.getLast?_concat] at isLast
      cases isLast
      exact trails_of_not_pauses goesOn
  rw [paused.split, List.flatMap_append, trimmed_append_of_stays stays,
    trimmed_eq_nil_iff.mpr trails, List.append_nil]

theorem Pauses.uncommented_eq_nil_iff {tokens core tail : List Piece}
    (paused : Pauses tokens core tail) : core.flatMap Piece.uncommented = [] ↔ core = [] := by
  rcases List.eq_nil_or_concat' core with rfl | ⟨start, piece, rfl⟩
  · exact iff_of_true rfl rfl
  · rw [List.flatMap_append, List.flatMap_singleton,
      uncommented_of_not_pauses (paused.goesOn piece List.getLast?_concat)]
    simp

theorem trimmed_eq_nil_iff_no_comment {tail : List Piece}
    (pauses : ∀ piece ∈ tail, piece.pauses = true) :
    trimmed tail = [] ↔ ∀ piece ∈ tail, piece.isComment = false := by
  rw [trimmed_eq_nil_iff]
  apply forall₂_congr
  intro piece member
  have here := pauses piece member
  cases piece with
  | lineComment _ | blockComment _ => exact iff_of_false nofun nofun
  | _ => exact iff_of_true ((Bool.or_false _).symm.trans here) rfl

/-- A script consists of remarks when nothing but a comment is left at its end. -/
theorem Pauses.isRemark_iff {tokens core tail : List Piece} (paused : Pauses tokens core tail) :
    IsRemark tokens ↔ core = [] ∧ trimmed tail ≠ [] := by
  rw [Ne, trimmed_eq_nil_iff_no_comment paused.pauses]
  constructor
  · rintro ⟨pauses, piece, member, comment⟩
    have empty : core = [] := by
      rcases List.eq_nil_or_concat' core with rfl | ⟨start, last, rfl⟩
      · rfl
      · have stays := paused.goesOn last List.getLast?_concat
        rw [pauses last (by simp [paused.split])] at stays
        cases stays
    refine ⟨empty, fun none => ?_⟩
    rw [paused.split, empty, List.nil_append] at member
    rw [none piece member] at comment
    cases comment
  · rintro ⟨rfl, some⟩
    rw [paused.split, List.nil_append]
    simp only [not_forall, Bool.not_eq_false] at some
    obtain ⟨piece, member, comment⟩ := some
    exact ⟨paused.pauses, piece, member, comment⟩

/-- A remark is part of what stands after the cut. -/
theorem Pauses.exists_tail_eq {tokens core tail before rest : List Piece}
    (paused : Pauses tokens core tail) (split : tokens = before ++ rest)
    (pauses : ∀ piece ∈ rest, piece.pauses = true) : ∃ between, tail = between ++ rest := by
  have cuts := paused.split.symm.trans split
  rcases List.append_eq_append_iff.mp cuts with ⟨between, _, same⟩ | ⟨more, same, restSame⟩
  · exact ⟨between, same⟩
  · rcases List.eq_nil_or_concat' more with rfl | ⟨start, last, rfl⟩
    · exact ⟨[], restSame.symm⟩
    · have stays := paused.goesOn last (by simp [same])
      rw [pauses last (by simp [restSame])] at stays
      cases stays

/-- A semicolon is left at the end of a script exactly when a remark follows it. -/
theorem Pauses.semicolon_mem_trimmed_iff {tokens core tail : List Piece}
    (paused : Pauses tokens core tail) :
    .code ';' ∈ trimmed tail ↔
      ∃ before remark, tokens = before ++ .code ';' :: remark ∧ IsRemark remark := by
  constructor
  · intro member
    obtain ⟨before, after, left⟩ := List.append_of_mem member
    obtain ⟨rest, tailSplit, restTrails⟩ := exists_eq_trimmed_append tail
    rw [left, List.append_assoc, List.cons_append] at tailSplit
    have pauses : ∀ piece ∈ after ++ rest, piece.pauses = true := fun piece inside =>
      paused.pauses piece (by rw [tailSplit]; exact List.mem_append_right _ (.tail _ inside))
    refine ⟨core ++ before, after ++ rest, ?_, pauses, ?_⟩
    · rw [paused.split, tailSplit, List.append_assoc]
    · by_contra noComment
      have trails := trimmed_eq_nil_iff.mp ((trimmed_eq_nil_iff_no_comment pauses).mpr
        fun piece inside => Bool.of_not_eq_true fun comment => noComment ⟨piece, inside, comment⟩)
      have shorter : trimmed tail = trimmed before := by
        rw [tailSplit]
        exact trimmed_append_of_trails (List.forall_mem_cons.mpr ⟨rfl, trails⟩) before
      have atMost : (trimmed before).length ≤ before.length :=
        (List.rdropWhile_prefix Piece.trails before).length_le
      rw [← shorter, left, List.length_append, List.length_cons] at atMost
      omega
  · rintro ⟨before, remark, split, remarks⟩
    have pauses : ∀ piece ∈ Piece.code ';' :: remark, piece.pauses = true :=
      List.forall_mem_cons.mpr ⟨rfl, remarks.pauses⟩
    obtain ⟨between, rfl⟩ := paused.exists_tail_eq split pauses
    have left : trimmed remark ≠ [] := by
      obtain ⟨piece, member, comment⟩ := remarks.comment
      intro empty
      have none := (trimmed_eq_nil_iff_no_comment remarks.pauses).mp empty piece member
      exact Bool.false_ne_true (none.symm.trans comment)
    rw [List.append_cons, trimmed_append, if_neg left]
    simp

/-! ### Reading the end of a script -/

theorem codeOf_of_pauses {piece : Piece} (pauses : piece.pauses = true) :
    piece = .code ';' ∨ piece.mark? = none ∧ piece.IsClosed := by
  cases piece with
  | code char => exact .inl (congrArg _ (of_decide_eq_true ((Bool.or_false _).symm.trans pauses)))
  | blank _ | lineComment _ | blockComment _ => exact .inr ⟨rfl, trivial⟩
  | openComment _ | string _ _ | openString _ _ => cases pauses

/-- Pauses leave the brackets as they are, and with a semicolon among them some bracket is open. -/
theorem Scan.Reads.due_of_pauses {scan final : Scan} {tail rest : List Piece}
    (run : scan.Reads tail rest final) (pauses : ∀ piece ∈ tail, piece.pauses = true) :
    final.due = scan.due ∧ (.code ';' ∈ tail → scan.due ≠ []) := by
  induction run with
  | nil => exact ⟨rfl, nofun⟩
  | @cons scan next final piece tail rest step _ ih =>
      obtain ⟨pausesHere, pausesLater⟩ := List.forall_mem_cons.mp pauses
      obtain ⟨_, _, separates, due, read, rfl⟩ := Scan.read_eq_ok_iff.mp step
      have same : due = scan.due := by
        rcases codeOf_of_pauses pausesHere with rfl | ⟨unmarked, _⟩
        · exact (Option.some.inj read).symm
        · rw [Scan.dueAfter?_unmarked unmarked] at read
          exact (Option.some.inj read).symm
      obtain ⟨sameLater, separatesLater⟩ := ih pausesLater
      refine ⟨sameLater.trans same, fun member => ?_⟩
      rcases List.mem_cons.mp member with here | later
      · exact separates here.symm
      · exact same ▸ separatesLater later

/-- At the end of a script pauses are read if there is no semicolon among them. -/
theorem refusal?_append_pauses (core : List Piece) {tail : List Piece}
    (pauses : ∀ piece ∈ tail, piece.pauses = true) :
    Scan.initial.refusal? (core ++ tail) = none ↔
      Scan.initial.refusal? core = none ∧ .code ';' ∉ tail := by
  have noWord : leadingWord tail = [] := by
    apply Scan.leadingWord_eq_nil
    intro char rest begins
    rcases codeOf_of_pauses (pauses (.code char) (by simp [begins])) with same | ⟨unmarked, _⟩
    · cases same
      decide
    · cases unmarked
  simp only [Scan.refusal?_eq_none_iff]
  constructor
  · rintro ⟨final, run, complete⟩
    obtain ⟨middle, start, later⟩ := run.split
    rw [List.append_nil] at start
    obtain ⟨same, separates⟩ := later.due_of_pauses pauses
    refine ⟨⟨middle, start.congr_rest noWord, same ▸ complete⟩, fun member => ?_⟩
    exact separates member (same ▸ complete)
  · rintro ⟨⟨middle, run, complete⟩, noSeparator⟩
    have gap : ∀ piece ∈ tail, piece.mark? = none ∧ piece.IsClosed := by
      intro piece member
      refine (codeOf_of_pauses (pauses piece member)).resolve_left ?_
      rintro rfl
      exact noSeparator member
    obtain ⟨final, later, due, _⟩ := middle.reads_gap [] (fun piece member => (gap piece member).1)
      fun piece member => (gap piece member).2
    exact ⟨final, (run.congr_rest noWord.symm).complete later, due.trans complete⟩

/-- **Comments in scripts.** A script is accepted exactly when no semicolon stands before a remark
at its end, and it is accepted without its comments or is a remark as a whole. So the check is blind
to comments up to the last statement, but not behind it. -/
theorem refusal?_eq_none_iff_uncommented (script : List Char) :
    refusal? script = none ↔
      (∀ before remark, pieces script = before ++ .code ';' :: remark → ¬ IsRemark remark) ∧
        (refusal? (uncommented script) = none ∨ IsRemark (pieces script)) := by
  -- The two sides agree on what stands before the pauses at the end: only there trimming counts.
  obtain ⟨core, tail, paused⟩ := exists_pauses (pieces script)
  have lexed := lexes_pieces script
  rw [paused.split] at lexed
  have sameOutline : Scan.initial.refusal? (core.flatMap Piece.uncommented) = none ↔
      Scan.initial.refusal? core = none := by
    rw [← Scan.verdict_eq_none_iff, ← Scan.verdict_outline, lexed.outline_uncommented,
      Scan.verdict_outline, Scan.verdict_eq_none_iff]
  have withComments : refusal? script = none ↔ core ++ trimmed tail ≠ [] ∧
      Scan.initial.refusal? core = none ∧ .code ';' ∉ trimmed tail := by
    have left : ∀ piece ∈ trimmed tail, piece.pauses = true := fun piece member =>
      paused.pauses piece ((List.rdropWhile_prefix Piece.trails tail).subset member)
    have stays : ∀ last ∈ core.getLast?, last.trails = false := fun last isLast =>
      trails_of_not_pauses (paused.goesOn last isLast)
    rw [refusal?_eq_none_iff_trimmed, paused.split, trimmed_append_of_stays stays,
      refusal?_append_pauses core left]
  have without : refusal? (uncommented script) = none ↔
      core ≠ [] ∧ Scan.initial.refusal? core = none := by
    rw [refusal?_eq_none_iff_trimmed, pieces_uncommented, paused.trimmed_uncommented, sameOutline,
      Ne, paused.uncommented_eq_nil_iff]
  have noSemicolon : .code ';' ∉ trimmed tail ↔
      ∀ before remark, pieces script = before ++ .code ';' :: remark → ¬ IsRemark remark := by
    rw [paused.semicolon_mem_trimmed_iff]
    simp only [not_exists, not_and]
  rw [withComments, without, paused.isRemark_iff, ← noSemicolon]
  by_cases empty : core = []
  · simp [empty, show Scan.initial.refusal? [] = none from rfl, and_comm]
  · simp [empty, and_comm]

theorem note_changes_answer :
    (refusal? "a; // note".toList = some .multipleStatements ∧
      refusal? (uncommented "a; // note".toList) = none) ∧
    refusal? "// note".toList = none ∧
      refusal? (uncommented "// note".toList) = some .empty := by
  decide +kernel

end ScriptGate.Expression
