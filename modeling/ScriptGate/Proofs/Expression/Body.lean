import ScriptGate.Proofs.Expression.Outline
import ScriptGate.Proofs.Text.Parts
import ScriptGate.Proofs.Text.Trimming

/-! # The body of a script in pieces

The check cuts the body out of the text of a script before it reads pieces. To the pieces of the
script this does little: it drops the white space and semicolons at their end (`trimmed`), and takes
from the text of a line comment or an unclosed literal that comes last. So the check gives its
verdict on the trimmed pieces of the whole script (`kind_refusal?`). -/

namespace ScriptGate.Expression

/-- White space and semicolons. -/
def isTrailing (char : Char) : Bool := Text.isBlank char || char = ';'

/-- White space and semicolons among the pieces. -/
def Piece.trails : Piece → Bool
  | .blank _ => true
  | .code char => char = ';'
  | _ => false

/-- Some pieces without the white space and semicolons at their end. -/
def trimmed (tokens : List Piece) : List Piece := tokens.rdropWhile Piece.trails

/-! ### Trailing characters -/

theorem isTrailing_iff {char : Char} :
    isTrailing char = true ↔ Text.isBlank char = true ∨ char = ';' := by
  simp only [isTrailing, Bool.or_eq_true, decide_eq_true_eq]

theorem not_mem_of_isTrailing {trail : List Char} (char : Char) (other : isTrailing char = false)
    (trailing : ∀ char ∈ trail, isTrailing char = true) : char ∉ trail := by
  intro member
  have trails := trailing char member
  rw [other] at trails
  cases trails

theorem isPlain_of_isTrailing {char : Char} (trails : isTrailing char = true) :
    isPlain char = true := by
  have notQuote : Text.isQuote char = false := by
    by_contra quoted
    have quoted := Bool.of_not_eq_false quoted
    rcases isTrailing_iff.mp trails with blank | rfl
    · exact absurd blank (by rw [Text.isBlank_eq_false_of_isQuote quoted]; decide)
    · exact absurd quoted (by decide)
  have notSlash : char ≠ '/' := by
    intro same
    subst same
    exact absurd trails (by decide)
  simp only [isPlain, notQuote, Bool.not_false, Bool.true_and, decide_eq_true_eq]
  exact notSlash

theorem trails_plainPiece {char : Char} (trails : isTrailing char = true) :
    (plainPiece char).trails = true := by
  rw [plainPiece]
  rcases isTrailing_iff.mp trails with blank | rfl
  · rw [if_pos blank]
    rfl
  · rfl

theorem pieces_blank_append {gap : List Char} (blank : ∀ char ∈ gap, Text.isBlank char = true)
    (rest : List Char) : pieces (gap ++ rest) = gap.map .blank ++ pieces rest := by
  have plain : ∀ char ∈ gap, isPlain char = true := fun char member =>
    isPlain_of_isTrailing (isTrailing_iff.mpr (.inl (blank char member)))
  rw [pieces_plain_append plain]
  congr 1
  apply List.map_congr_left
  intro char member
  rw [plainPiece, if_pos (blank char member)]

/-! ### A text with trailing characters after it -/

/-- No piece, or one that has no end of its own, and the same with another text. -/
inductive Prolonged : List Piece → List Piece → Prop where
  | none : Prolonged [] []
  | lineComment (text longer : List Char) :
      Prolonged [.lineComment text] [.lineComment longer]
  | openComment (text longer : List Char) :
      Prolonged [.openComment text] [.openComment longer]
  | openString (quote : Char) (text longer : List Char) :
      Prolonged [.openString quote text] [.openString quote longer]

theorem no_opener_before_trail {char second : Char} {text trail : List Char}
    (noOpener : ¬ ['/', second] <+: char :: text) (absent : second ∉ trail) :
    ¬ ['/', second] <+: char :: (text ++ trail) := by
  intro opens
  obtain ⟨slash, starts⟩ := List.cons_prefix_cons.mp opens
  cases text with
  | nil => exact absent (starts.subset List.mem_cons_self)
  | cons next text =>
      obtain ⟨same, _⟩ := List.cons_prefix_cons.mp starts
      exact noOpener ⟨text, by rw [slash, same]; rfl⟩

/-- A text has the given pieces, the last of them perhaps with more text, and then nothing but
white space and semicolons. -/
def TrailsOff (tokens : List Piece) (text : List Char) : Prop :=
  ∃ start last longer rest, tokens = start ++ last ∧ Prolonged last longer ∧
    (∀ char ∈ rest, isTrailing char = true) ∧
    Lexes text (start ++ (longer ++ List.map plainPiece rest))

theorem TrailsOff.cons {piece : Piece} {tail : List Piece} {text whole : List Char}
    (trailsOff : TrailsOff tail text)
    (lexes : ∀ {tokens}, Lexes text tokens → Lexes whole (piece :: tokens)) :
    TrailsOff (piece :: tail) whole := by
  obtain ⟨start, last, longer, rest, same, prolonged, trailing, lexed⟩ := trailsOff
  refine ⟨piece :: start, last, longer, rest, ?_, prolonged, trailing, lexes lexed⟩
  rw [same, List.cons_append]

theorem lexes_trail {trail : List Char} (trailing : ∀ char ∈ trail, isTrailing char = true) :
    Lexes trail (trail.map plainPiece) := by
  have lexed := Lexes.plain_append (fun char member => isPlain_of_isTrailing
    (trailing char member)) Lexes.nil
  rwa [List.append_nil, List.append_nil] at lexed

/-- Trailing characters are pieces of their own, but for those that a piece without an end takes. -/
theorem Lexes.trailsOff {text trail : List Char} {tokens : List Piece}
    (lexed : Lexes text tokens) (trailing : ∀ char ∈ trail, isTrailing char = true) :
    TrailsOff tokens (text ++ trail) := by
  have noSlash := not_mem_of_isTrailing '/' (by decide) trailing
  have noStar := not_mem_of_isTrailing '*' (by decide) trailing
  induction lexed with
  | nil => exact ⟨[], [], [], trail, rfl, .none, trailing, lexes_trail trailing⟩
  | blank blank _ ih => exact ih.cons fun whole => .blank blank whole
  | @lineComment comment text tail oneLine stop lexed ih =>
      cases text with
      | nil =>
          cases lexed
          let inLine := trail.takeWhile (· ≠ '\n')
          let rest := trail.dropWhile (· ≠ '\n')
          have restTrails : ∀ char ∈ rest, isTrailing char = true := fun char member =>
            trailing char ((List.dropWhile_suffix _).subset member)
          have lineEnds : '\n' ∉ comment ++ inLine := by
            intro member
            rcases List.mem_append.mp member with inComment | inTrail
            · exact oneLine inComment
            · simpa using List.mem_takeWhile_imp inTrail
          have stops : ∀ char ∈ rest.head?, char = '\n' := by
            intro char first
            have stopped := List.head?_dropWhile_not (· ≠ '\n') trail
            rw [Option.mem_def.mp first] at stopped
            simpa using stopped
          refine ⟨[], _, _, rest, rfl, .lineComment comment (comment ++ inLine), restTrails, ?_⟩
          have whole := Lexes.lineComment lineEnds stops (lexes_trail restTrails)
          rw [List.append_assoc, List.takeWhile_append_dropWhile] at whole
          rw [List.append_nil]
          exact whole
      | cons char text =>
          refine ih.cons fun whole => ?_
          rw [List.cons_append, List.cons_append, List.append_assoc]
          exact .lineComment oneLine stop whole
  | blockComment first _ ih =>
      refine ih.cons fun whole => ?_
      have lexed := Lexes.blockComment first whole
      simpa only [List.cons_append, List.append_assoc] using lexed
  | @openComment text endless =>
      refine ⟨[], _, _, [], rfl, .openComment text (text ++ trail), List.forall_mem_nil _, ?_⟩
      refine .openComment fun closes => endless ?_
      have closesLate : ['*'] ++ ['/'] <:+: text ++ trail := closes
      exact Text.part_of_before noSlash closesLate
  | string quoted inner _ ih =>
      refine ih.cons fun whole => ?_
      have lexed := Lexes.string quoted inner whole
      simpa only [List.cons_append, List.append_assoc] using lexed
  | @openString quote text quoted endless =>
      have noQuote : quote ∉ trail := by
        intro member
        have plain := isPlain_of_isTrailing (trailing quote member)
        simp only [isPlain, quoted, Bool.not_true, Bool.false_and, Bool.false_eq_true] at plain
      refine ⟨[], _, _, [], rfl, .openString quote text (text ++ trail), List.forall_mem_nil _, ?_⟩
      refine .openString quoted fun string rest split => ?_
      rcases List.append_eq_append_iff.mp split with ⟨more, _, later⟩ | ⟨more, earlier, later⟩
      · refine absurd ?_ noQuote
        rw [later]
        exact List.mem_append_right more List.mem_cons_self
      · cases more with
        | nil => exact absurd (by rw [List.nil_append] at later; simp [← later]) noQuote
        | cons char more =>
            obtain ⟨rfl, _⟩ := List.cons.inj later
            exact endless string more earlier
  | code notBlank notQuote noLineComment noBlockComment _ ih =>
      exact ih.cons fun whole => .code notBlank notQuote
        (no_opener_before_trail noLineComment noSlash)
        (no_opener_before_trail noBlockComment noStar) whole

/-! ### Trimmed pieces -/

theorem trimmed_append (first second : List Piece) :
    trimmed (first ++ second) =
      if trimmed second = [] then trimmed first else first ++ trimmed second := by
  simp only [trimmed, List.rdropWhile, List.reverse_append, List.dropWhile_append,
    List.isEmpty_iff, List.reverse_eq_nil_iff]
  split
  · rfl
  · rw [List.reverse_append, List.reverse_reverse]

theorem trimmed_eq_nil_iff {tokens : List Piece} :
    trimmed tokens = [] ↔ ∀ piece ∈ tokens, piece.trails = true := List.rdropWhile_eq_nil_iff

theorem trimmed_append_of_trails {rest : List Piece}
    (trails : ∀ piece ∈ rest, piece.trails = true) (tokens : List Piece) :
    trimmed (tokens ++ rest) = trimmed tokens := by
  rw [trimmed_append, if_pos (trimmed_eq_nil_iff.mpr trails)]

theorem trimmed_concat {piece : Piece} (stays : piece.trails = false) (start : List Piece) :
    trimmed (start ++ [piece]) = start ++ [piece] :=
  List.rdropWhile_concat_neg _ _ _ (by rw [stays]; decide)

/-- What follows a piece that stays is trimmed without regard to what stands before. -/
theorem trimmed_concat_append {piece : Piece} (stays : piece.trails = false)
    (start tail : List Piece) :
    trimmed (start ++ [piece] ++ tail) = start ++ [piece] ++ trimmed tail := by
  rw [trimmed_append, trimmed_concat stays]
  by_cases empty : trimmed tail = []
  · rw [if_pos empty, empty, List.append_nil]
  · rw [if_neg empty]

theorem trimmed_cons {piece : Piece} (stays : piece.trails = false) (rest : List Piece) :
    trimmed (piece :: rest) = piece :: trimmed rest := trimmed_concat_append stays [] rest

theorem trimmed_append_of_stays {core : List Piece}
    (stays : ∀ last ∈ core.getLast?, last.trails = false) (tail : List Piece) :
    trimmed (core ++ tail) = core ++ trimmed tail := by
  rcases List.eq_nil_or_concat' core with rfl | ⟨start, last, rfl⟩
  · rfl
  · exact trimmed_concat_append (stays last List.getLast?_concat) start tail

/-- What is trimmed from some pieces are white space and semicolons. -/
theorem exists_eq_trimmed_append (tokens : List Piece) :
    ∃ rest, tokens = trimmed tokens ++ rest ∧ ∀ piece ∈ rest, piece.trails = true :=
  ⟨tokens.rtakeWhile Piece.trails, List.rdropWhile_append_rtakeWhile.symm,
    fun _ => List.mem_rtakeWhile_imp⟩

theorem leadingWord_trimmed (tokens : List Piece) :
    leadingWord (trimmed tokens) = leadingWord tokens := by
  obtain ⟨rest, split, trails⟩ := exists_eq_trimmed_append tokens
  have noWord : leadingWord rest = leadingWord [] := by
    apply Scan.leadingWord_eq_nil
    intro char after begins
    have trailsHere := trails (.code char) (by simp [begins])
    obtain rfl : char = ';' := of_decide_eq_true trailsHere
    decide
  have same := Scan.leadingWord_append_congr noWord (trimmed tokens)
  rw [← split, List.append_nil] at same
  exact same.symm

/-! ### The body of a script -/

/-- A script is the white space it starts with, its body, and what is trimmed after the body. -/
theorem exists_eq_lead_append_body (script : List Char) :
    ∃ trail, script = script.takeWhile Text.isBlank ++ (body script ++ trail) ∧
      ∀ char ∈ trail, isTrailing char = true :=
  Text.exists_eq_lead_append_trimmed Text.isBlank isTrailing script

theorem exists_split_body (script : List Char) :
    ∃ lead trail, script = lead ++ (body script ++ trail) ∧
      (∀ char ∈ lead, Text.isBlank char = true) ∧
      ∀ char ∈ trail, isTrailing char = true := by
  obtain ⟨trail, split, trailing⟩ := exists_eq_lead_append_body script
  exact ⟨_, trail, split, fun _ => List.mem_takeWhile_imp, trailing⟩

theorem isTrailing_of_body_eq {script start : List Char} {last : Char}
    (ends : body script = start ++ [last]) : isTrailing last = false := by
  have stops := List.rdropWhile_last_not isTrailing (Text.trimStart script)
  have same : (Text.trimStart script).rdropWhile isTrailing = start ++ [last] := ends
  simp only [same] at stops
  simpa using stops

/-- The pieces of a body need no trimming. -/
theorem trimmed_pieces_body (script : List Char) :
    trimmed (pieces (body script)) = pieces (body script) := by
  rcases List.eq_nil_or_concat' (pieces (body script)) with empty | ⟨start, last, same⟩
  · rw [empty]
    rfl
  · rw [same]
    apply trimmed_concat
    by_contra trails
    have trails := Bool.of_not_eq_false trails
    have text : body script = textOf start ++ last.text := by
      rw [← textOf_pieces (body script), same, textOf_append, textOf_cons]
      exact congrArg _ (List.append_nil _)
    cases last with
    | blank char =>
        have member : .blank char ∈ pieces (body script) := by simp [same]
        have blank : Text.isBlank char = true := (lexes_pieces (body script)).fits _ member
        have stays := isTrailing_of_body_eq text
        rw [isTrailing_iff.mpr (.inl blank)] at stays
        cases stays
    | code char =>
        obtain rfl : char = ';' := of_decide_eq_true trails
        exact absurd (isTrailing_of_body_eq text) (by decide)
    | lineComment _ | blockComment _ | openComment _ | string _ _ | openString _ _ => cases trails

/-- Blanks before a script change nothing. -/
theorem Scan.verdict_initial_blanks (lead : List Char) (tokens : List Piece) :
    Scan.initial.verdict (lead.map .blank ++ tokens) = Scan.initial.verdict tokens := by
  induction lead with
  | nil => rfl
  | cons char lead ih =>
      rw [List.map_cons, List.cons_append, Scan.initial.verdict_gap (.blank char) rfl trivial]
      exact ih

theorem Prolonged.outline_eq {last longer : List Piece} (prolonged : Prolonged last longer) :
    outline longer = outline last := by
  cases prolonged <;> rfl

theorem Prolonged.eq_nil_iff {last longer : List Piece} (prolonged : Prolonged last longer) :
    longer = [] ↔ last = [] := by
  cases prolonged <;> simp

/-- The pieces of a script are those of its body, the last of them perhaps with more text, between
the white space before the body and trailing characters. -/
theorem exists_pieces_eq (script : List Char) :
    ∃ start last longer, ∃ rest : List Char,
      pieces (body script) = start ++ last ∧ Prolonged last longer ∧
      (∀ char ∈ rest, isTrailing char = true) ∧
      pieces script = (script.takeWhile Text.isBlank).map .blank ++ (start ++ longer) ++
        rest.map plainPiece := by
  obtain ⟨trail, split, trailing⟩ := exists_eq_lead_append_body script
  obtain ⟨start, last, longer, rest, same, prolonged, restTrails, lexed⟩ :=
    (lexes_pieces (body script)).trailsOff trailing
  refine ⟨start, last, longer, rest, same, prolonged, restTrails, ?_⟩
  conv_lhs => rw [split]
  rw [pieces_blank_append fun _ => List.mem_takeWhile_imp, lexed.pieces_eq]
  simp only [List.append_assoc]

/-- What is trimmed from the pieces of a script is trimmed from its text: the pieces that are left
are those of the body, up to blanks at the start and the text of the last. -/
theorem trimmed_pieces (script : List Char) :
    (trimmed (pieces script) = [] ↔ body script = []) ∧
      Scan.initial.verdict (trimmed (pieces script)) =
        Scan.initial.verdict (pieces (body script)) := by
  obtain ⟨start, last, longer, rest, same, prolonged, restTrails, whole⟩ := exists_pieces_eq script
  have blankTrails : ∀ piece ∈ (script.takeWhile Text.isBlank).map .blank,
      Piece.trails piece = true := by
    simp only [List.forall_mem_map]
    exact fun _ _ => rfl
  have plainTrails : ∀ piece ∈ rest.map plainPiece, piece.trails = true := by
    simp only [List.forall_mem_map]
    exact fun char member => trails_plainPiece (restTrails char member)
  have kept : trimmed (start ++ longer) = start ++ longer := by
    have own := trimmed_pieces_body script
    rw [same] at own
    cases prolonged with
    | none => exact own
    | lineComment _ _ | openComment _ _ | openString _ _ _ => exact trimmed_concat rfl start
  have trimmedWhole : trimmed (pieces script) =
      if start ++ longer = [] then []
      else (script.takeWhile Text.isBlank).map .blank ++ (start ++ longer) := by
    rw [whole, trimmed_append_of_trails plainTrails, trimmed_append, kept,
      trimmed_eq_nil_iff.mpr blankTrails]
  have emptyIff : start ++ longer = [] ↔ body script = [] := by
    rw [List.append_eq_nil_iff, prolonged.eq_nil_iff, ← List.append_eq_nil_iff, ← same]
    constructor
    · intro empty
      rw [← textOf_pieces (body script), empty]
      rfl
    · intro empty
      rw [empty, pieces_nil]
  have sameVerdict : Scan.initial.verdict (start ++ longer) =
      Scan.initial.verdict (pieces (body script)) := by
    rw [same, ← Scan.verdict_outline _ (start ++ longer), ← Scan.verdict_outline _ (start ++ last),
      outline_append_congr prolonged.outline_eq]
  rw [trimmedWhole]
  by_cases empty : start ++ longer = []
  · rw [if_pos empty]
    exact ⟨iff_of_true rfl (emptyIff.mp empty), empty ▸ sameVerdict⟩
  · rw [if_neg empty, Scan.verdict_initial_blanks, ← emptyIff]
    exact ⟨iff_of_false (List.append_ne_nil_of_right_ne_nil _ empty) empty, sameVerdict⟩

/-- **The check of a script in its pieces.** Up to the offset it may name, the answer is the verdict
on the pieces of the whole script without the white space and semicolons at their end. -/
theorem kind_refusal? (script : List Char) :
    (refusal? script).map Refusal.kind =
      if trimmed (pieces script) = [] then some .empty
      else Scan.initial.verdict (trimmed (pieces script)) := by
  obtain ⟨emptyIff, sameVerdict⟩ := trimmed_pieces script
  by_cases empty : body script = []
  · rw [refusal?, if_pos (List.isEmpty_iff.mpr empty), if_pos (emptyIff.mpr empty)]
    rfl
  · rw [refusal?, if_neg (by rwa [List.isEmpty_iff]), if_neg (emptyIff.not.mpr empty), sameVerdict]
    rfl

theorem refusal?_eq_none_iff_trimmed {script : List Char} :
    refusal? script = none ↔ trimmed (pieces script) ≠ [] ∧
      Scan.initial.refusal? (trimmed (pieces script)) = none := by
  rw [← Option.map_eq_none_iff (f := Refusal.kind), kind_refusal?]
  by_cases empty : trimmed (pieces script) = []
  · simp [empty]
  · rw [if_neg empty, and_iff_right empty, Scan.verdict_eq_none_iff]

/-- In an accepted script every comment and every string literal ends. -/
theorem isClosed_of_accepted {script : List Char} (accepted : refusal? script = none) :
    ∀ piece ∈ pieces script, piece.IsClosed := by
  obtain ⟨_, accepted⟩ := refusal?_eq_none_iff_trimmed.mp accepted
  obtain ⟨final, run, _⟩ := Scan.refusal?_eq_none_iff.mp accepted
  obtain ⟨rest, split, trails⟩ := exists_eq_trimmed_append (pieces script)
  rw [split]
  refine List.forall_mem_append.mpr ⟨run.isClosed, fun piece member => ?_⟩
  have trailsHere := trails piece member
  cases piece with
  | openComment _ | openString _ _ => cases trailsHere
  | _ => trivial

end ScriptGate.Expression
