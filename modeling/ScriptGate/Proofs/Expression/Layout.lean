import ScriptGate.Expression.Wrapper
import ScriptGate.Proofs.Expression.Body

/-! # The layout of a script

White space before a script, and white space and semicolons after it, are cut off before the check
reads anything, so they change neither its answer nor the wrapped text (`body_surround`). A carriage
return before a line feed is white space in the code and text in a comment or a string literal,
where it takes the place of a line feed that a backslash hides. The check sees it in none of these
places, so its answer stays the same up to an offset (`outline_pieces_withReturns`). -/

namespace ScriptGate

/-- A text with a carriage return before every line feed. -/
def Text.withReturns (text : List Char) : List Char :=
  text.flatMap fun char => if char = '\n' then ['\r', '\n'] else [char]

namespace Expression

open Text (withReturns)

variable {text : List Char} {char : Char}

/-! ### Carriage returns in a text -/

theorem withReturns_newline (text : List Char) :
    withReturns ('\n' :: text) = '\r' :: '\n' :: withReturns text := rfl

theorem withReturns_other (other : char ≠ '\n') (text : List Char) :
    withReturns (char :: text) = char :: withReturns text := by
  rw [withReturns, List.flatMap_cons, if_neg other]
  rfl

theorem withReturns_append (first second : List Char) :
    withReturns (first ++ second) = withReturns first ++ withReturns second :=
  List.flatMap_append

theorem withReturns_eq_nil_iff : withReturns text = [] ↔ text = [] := by
  cases text with
  | nil => exact iff_of_true rfl rfl
  | cons char text =>
      by_cases newline : char = '\n'
      · subst newline
        exact iff_of_false nofun nofun
      · rw [withReturns_other newline]
        exact iff_of_false nofun nofun

theorem mem_withReturns (member : char ∈ withReturns text) : char ∈ text ∨ char = '\r' := by
  obtain ⟨origin, inText, here⟩ := List.mem_flatMap.mp member
  split at here
  next newline =>
    subst newline
    rcases List.mem_cons.mp here with return' | here
    · exact .inr return'
    · exact .inl (List.mem_singleton.mp here ▸ inText)
  next => exact .inl (List.mem_singleton.mp here ▸ inText)

theorem contains_newline_withReturns (text : List Char) :
    (withReturns text).contains '\n' = text.contains '\n' := by
  rw [Bool.eq_iff_iff, List.contains_iff_mem, List.contains_iff_mem]
  constructor
  · intro member
    exact (mem_withReturns member).resolve_right (by decide)
  · intro member
    exact List.mem_flatMap.mpr ⟨'\n', member, by decide⟩

/-- No two characters come to stand side by side, but for the carriage return and its neighbours. -/
theorem no_pair_withReturns {first second : Char} (apart : ¬ [first, second] <+: char :: text)
    (visible : second ≠ '\r') : ¬ [first, second] <+: char :: withReturns text := by
  cases text with
  | nil => exact apart
  | cons next text =>
      intro pair
      obtain ⟨isFirst, pair⟩ := List.cons_prefix_cons.mp pair
      by_cases newline : next = '\n'
      · subst newline
        exact visible (List.cons_prefix_cons.mp pair).1
      · rw [withReturns_other newline] at pair
        obtain ⟨isSecond, _⟩ := List.cons_prefix_cons.mp pair
        exact apart ⟨text, by rw [isFirst, isSecond]; rfl⟩

/-- The line feed that ends a line has its carriage return on the line. -/
theorem withReturns_dropWhile (text : List Char) :
    text.dropWhile (· ≠ '\n') = [] ∧ (withReturns text).dropWhile (· ≠ '\n') = [] ∨
      ∃ rest, text.dropWhile (· ≠ '\n') = '\n' :: rest ∧
        (withReturns text).dropWhile (· ≠ '\n') = '\n' :: withReturns rest := by
  induction text with
  | nil => exact .inl ⟨rfl, rfl⟩
  | cons char text ih =>
      by_cases newline : char = '\n'
      · subst newline
        exact .inr ⟨text, rfl, rfl⟩
      · rw [withReturns_other newline, List.dropWhile_cons, List.dropWhile_cons,
          if_pos (decide_eq_true newline), if_pos (decide_eq_true newline)]
        exact ih

/-! ### Carriage returns in comments and string literals -/

theorem splitComment?_cons (goesOn : ¬ ['*', '/'] <+: char :: text) :
    splitComment? (char :: text) =
      (splitComment? text).map fun (comment, rest) => (char :: comment, rest) := by
  rw [splitComment?]
  rintro after rfl rfl
  exact goesOn ⟨after, rfl⟩

/-- What is put before a split text can be put there before or after the carriage returns. -/
theorem map_withReturns_comm {start longer : List Char} (same : withReturns start = longer)
    (found : Option (List Char × List Char)) :
    (found.map (Prod.map withReturns withReturns)).map (Prod.map (longer ++ ·) id) =
      (found.map (Prod.map (start ++ ·) id)).map (Prod.map withReturns withReturns) := by
  have prepended : (longer ++ ·) ∘ withReturns = withReturns ∘ (start ++ ·) := by
    funext text
    rw [Function.comp_apply, Function.comp_apply, withReturns_append, same]
  rw [Option.map_map, Option.map_map, Prod.map_comp_map, Prod.map_comp_map, prepended]
  rfl

theorem splitComment?_withReturns (text : List Char) :
    splitComment? (withReturns text) =
      (splitComment? text).map (Prod.map withReturns withReturns) := by
  fun_induction splitComment? text with
  | case1 => rfl
  | case2 after =>
      rw [withReturns_other (by decide), withReturns_other (by decide), splitComment?]
      rfl
  | case3 char after noCloser ih =>
      have goesOn := no_closer_at_start noCloser
      by_cases newline : char = '\n'
      · subst newline
        have onReturn : ¬ ['*', '/'] <+: '\r' :: '\n' :: withReturns after := fun pair =>
          absurd (List.cons_prefix_cons.mp pair).1 (by decide)
        have onNewline : ¬ ['*', '/'] <+: '\n' :: withReturns after := fun pair =>
          absurd (List.cons_prefix_cons.mp pair).1 (by decide)
        rw [withReturns_newline, splitComment?_cons onReturn, splitComment?_cons onNewline, ih,
          Option.map_map]
        exact map_withReturns_comm (withReturns_newline []) (splitComment? after)
      · rw [withReturns_other newline, splitComment?_cons (no_pair_withReturns goesOn (by decide)),
          ih]
        exact map_withReturns_comm (withReturns_other newline []) (splitComment? after)

theorem splitString?_hidden (quote hidden : Char) (text : List Char) :
    splitString? quote ('\\' :: hidden :: text) =
      (splitString? quote text).map fun (string, rest) => ('\\' :: hidden :: string, rest) := by
  rw [splitString?]

theorem splitString?_plain {quote : Char} (notBackslash : char ≠ '\\') (text : List Char) :
    splitString? quote (char :: text) =
      if char = quote then some ([], text)
      else (splitString? quote text).map fun (string, rest) => (char :: string, rest) := by
  rw [splitString?]
  · exact fun same _ => notBackslash same
  · exact fun _ _ same => (notBackslash same).elim

theorem splitString?_withReturns {quote : Char} (quoted : Text.isQuote quote = true)
    (text : List Char) :
    splitString? quote (withReturns text) =
      (splitString? quote text).map (Prod.map withReturns withReturns) := by
  have notBackslash := ne_backslash_of_isQuote quoted
  have noBreak : '\n' ≠ quote ∧ '\r' ≠ quote := by
    constructor <;> rintro rfl <;> exact absurd quoted (by decide)
  fun_induction splitString? quote text with
  | case1 => rfl
  | case2 => rfl
  | case3 hidden after ih =>
      have onBackslash (text : List Char) : withReturns ('\\' :: text) = '\\' :: withReturns text :=
        withReturns_other (by decide) text
      rw [onBackslash]
      by_cases newline : hidden = '\n'
      · subst newline
        rw [withReturns_newline, splitString?_hidden, splitString?_plain (by decide),
          if_neg noBreak.1, ih, Option.map_map]
        exact map_withReturns_comm (onBackslash ['\n']) (splitString? quote after)
      · rw [withReturns_other newline, splitString?_hidden, ih]
        have kept : withReturns ['\\', hidden] = ['\\', hidden] :=
          (onBackslash [hidden]).trans (congrArg _ (withReturns_other newline []))
        exact map_withReturns_comm kept (splitString? quote after)
  | case4 after =>
      rw [withReturns_other noBreak.1.symm, splitString?_plain notBackslash, if_pos rfl]
      rfl
  | case5 char after notLast notHidden differs ih =>
      have plain : char ≠ '\\' := by
        intro same
        cases after with
        | nil => exact notLast same rfl
        | cons next after => exact notHidden next after same rfl
      by_cases newline : char = '\n'
      · subst newline
        rw [withReturns_newline, splitString?_plain (by decide), if_neg noBreak.2,
          splitString?_plain (by decide), if_neg noBreak.1, ih, Option.map_map]
        exact map_withReturns_comm (withReturns_newline []) (splitString? quote after)
      · rw [withReturns_other newline, splitString?_plain plain, if_neg differs, ih]
        exact map_withReturns_comm (withReturns_other newline []) (splitString? quote after)

/-! ### Carriage returns in a script -/

/-- **Carriage returns before line feeds leave no trace in the outline.** The induction follows the
cutting of the text into pieces. -/
theorem outline_pieces_withReturns (text : List Char) :
    outline (pieces (withReturns text)) = outline (pieces text) := by
  fun_induction pieces text with
  | case1 => rw [show withReturns [] = [] from rfl, pieces_nil]
  | case2 text ih =>
      rw [withReturns_other (by decide), withReturns_other (by decide), pieces_lineComment, outline,
        outline]
      rcases withReturns_dropWhile text with ⟨atEnd, stillAtEnd⟩ | ⟨rest, atFeed, stillAtFeed⟩
      · rw [atEnd, stillAtEnd]
      · rw [atFeed, withReturns_newline, pieces_blank (by decide), outline] at ih
        rw [stillAtFeed, atFeed, ← ih, joinGap_joinGap]
        rfl
  | case3 text comment rest found _ ih =>
      have split := (splitComment?_withReturns text).trans (congrArg _ found)
      rw [withReturns_other (by decide), withReturns_other (by decide), pieces_blockComment split,
        outline, outline, contains_newline_withReturns, ih]
  | case4 text found =>
      have split := (splitComment?_withReturns text).trans (congrArg _ found)
      rw [withReturns_other (by decide), withReturns_other (by decide), pieces_openComment split]
      rfl
  | case5 char text _ _ blank ih =>
      by_cases newline : char = '\n'
      · subst newline
        rw [withReturns_newline, pieces_blank (by decide), pieces_blank (by decide), outline,
          outline, joinGap_joinGap, ih]
        rfl
      · rw [withReturns_other newline, pieces_blank blank, outline, outline, ih]
  | case6 quote text _ _ _ quoted string rest found _ ih =>
      have visible : quote ≠ '\n' := by
        rintro rfl
        exact absurd quoted (by decide)
      have split := (splitString?_withReturns quoted text).trans (congrArg _ found)
      rw [withReturns_other visible, pieces_string quoted split, outline, outline, ih]
  | case7 quote text _ _ _ quoted found =>
      have visible : quote ≠ '\n' := by
        rintro rfl
        exact absurd quoted (by decide)
      have split := (splitString?_withReturns quoted text).trans (congrArg _ found)
      rw [withReturns_other visible, pieces_openString quoted split]
      rfl
  | case8 char text noLineComment noBlockComment notBlank notQuote ih =>
      have visible : char ≠ '\n' := by
        rintro rfl
        exact absurd rfl notBlank
      rw [withReturns_other visible,
        pieces_code (Bool.of_not_eq_true notBlank) (Bool.of_not_eq_true notQuote)
          (no_pair_withReturns (no_opener_at_start noLineComment) (by decide))
          (no_pair_withReturns (no_opener_at_start noBlockComment) (by decide)),
        outline, outline, ih]

/-! ### What stands around a script -/

/-- A body neither begins with white space nor ends with white space or a semicolon. -/
theorem body_bounds (script : List Char) :
    (∀ char ∈ (body script).head?, Text.isBlank char = false) ∧
      ∀ char ∈ (body script).getLast?, isTrailing char = false := by
  constructor
  · intro char first
    have starts : body script <+: Text.trimStart script := List.rdropWhile_prefix isTrailing _
    have stopped := List.head?_dropWhile_not Text.isBlank script
    obtain ⟨rest, whole⟩ := List.head?_eq_some_iff.mp first
    obtain ⟨more, split⟩ := starts
    have trimmedHead : (script.dropWhile Text.isBlank).head? = some char := by
      have same : Text.trimStart script = char :: (rest ++ more) := by rw [← split, whole]; rfl
      exact congrArg List.head? same
    rw [trimmedHead] at stopped
    simpa using stopped
  · intro char isLast
    obtain ⟨start, ends⟩ := List.getLast?_eq_some_iff.mp isLast
    exact isTrailing_of_body_eq ends

/-- A text is the body of a script when it is so bounded and only what is trimmed stands around
it. -/
theorem body_eq_of_bounds {lead core trail : List Char}
    (blank : ∀ char ∈ lead, Text.isBlank char = true)
    (trailing : ∀ char ∈ trail, isTrailing char = true)
    (starts : ∀ char ∈ core.head?, Text.isBlank char = false)
    (ends : ∀ char ∈ core.getLast?, isTrailing char = false) :
    body (lead ++ (core ++ trail)) = core :=
  Text.trimmed_between blank trailing starts ends

theorem body_surround (script : List Char) {lead trail : List Char}
    (blank : ∀ char ∈ lead, Text.isBlank char = true)
    (trailing : ∀ char ∈ trail, isTrailing char = true) :
    body (lead ++ script ++ trail) = body script := by
  obtain ⟨innerLead, innerTrail, split, innerBlank, innerTrailing⟩ := exists_split_body script
  obtain ⟨starts, ends⟩ := body_bounds script
  have whole : lead ++ script ++ trail =
      (lead ++ innerLead) ++ (body script ++ (innerTrail ++ trail)) := by
    conv_lhs => rw [split]
    simp only [List.append_assoc]
  rw [whole]
  exact body_eq_of_bounds (List.forall_mem_append.mpr ⟨blank, innerBlank⟩)
    (List.forall_mem_append.mpr ⟨innerTrailing, trailing⟩) starts ends

/-- The body of a script with carriage returns is that of the script, with carriage returns. -/
theorem body_withReturns (script : List Char) :
    body (withReturns script) = withReturns (body script) := by
  obtain ⟨lead, trail, split, blank, trailing⟩ := exists_split_body script
  obtain ⟨starts, ends⟩ := body_bounds script
  have whole : withReturns script =
      withReturns lead ++ (withReturns (body script) ++ withReturns trail) := by
    conv_lhs => rw [split]
    rw [withReturns_append, withReturns_append]
  rw [whole]
  apply body_eq_of_bounds
  · intro char member
    rcases mem_withReturns member with inLead | rfl
    · exact blank char inLead
    · decide
  · intro char member
    rcases mem_withReturns member with inTrail | rfl
    · exact trailing char inTrail
    · decide
  · cases same : body script with
    | nil => nofun
    | cons first rest =>
        rw [same] at starts
        have visible : first ≠ '\n' := by
          rintro rfl
          exact absurd (starts '\n' rfl) (by decide)
        rw [withReturns_other visible]
        exact starts
  · rcases List.eq_nil_or_concat' (body script) with empty | ⟨start, last, same⟩
    · rw [empty]
      nofun
    · have stays : isTrailing last = false := isTrailing_of_body_eq same
      have visible : last ≠ '\n' := by
        rintro rfl
        exact absurd stays (by decide)
      rw [same, withReturns_append, withReturns_other visible]
      intro char isLast
      rw [show withReturns [] = [] from rfl, List.getLast?_concat] at isLast
      exact Option.some.inj isLast ▸ stays

/-- **The layout of a script does not matter.** White space before it and white space and semicolons
after it change neither the answer of the check nor the wrapped text, whatever the cap. Carriage
returns before the line feeds change the answer in the offset it names, and in nothing else. -/
theorem layout_keeps_answer (script : List Char) {lead trail : List Char}
    (blank : ∀ char ∈ lead, Text.isBlank char = true)
    (trailing : ∀ char ∈ trail, Text.isBlank char = true ∨ char = ';') :
    refusal? (lead ++ script ++ trail) = refusal? script ∧
      (∀ cap, wrap (lead ++ script ++ trail) cap = wrap script cap) ∧
      (refusal? (withReturns script)).map Refusal.kind = (refusal? script).map Refusal.kind := by
  have sameBody : body (lead ++ script ++ trail) = body script :=
    body_surround script blank fun char member => isTrailing_iff.mpr (trailing char member)
  have sameAnswer : refusal? (lead ++ script ++ trail) = refusal? script := by
    rw [refusal?, refusal?, sameBody]
  refine ⟨sameAnswer, fun cap => ?_, ?_⟩
  · rw [wrap, wrap, sameAnswer, sameBody]
  · rw [refusal?, refusal?, body_withReturns]
    by_cases empty : body script = []
    · rw [empty]
      rfl
    · rw [if_neg (by rwa [List.isEmpty_iff, withReturns_eq_nil_iff]),
        if_neg (by rwa [List.isEmpty_iff])]
      calc Scan.initial.verdict (pieces (withReturns (body script)))
          = Scan.initial.verdict (outline (pieces (withReturns (body script)))) :=
            (Scan.initial.verdict_outline _).symm
        _ = Scan.initial.verdict (outline (pieces (body script))) := by
            rw [outline_pieces_withReturns]
        _ = Scan.initial.verdict (pieces (body script)) := Scan.initial.verdict_outline _

theorem layout_keeps_answer_escaped_break :
    (∀ char ∈ " \n".toList, Text.isBlank char = true) ∧
    (∀ char ∈ " ;\t;".toList, Text.isBlank char = true ∨ char = ';') ∧
    refusal? (" \n".toList ++ "f('\\\n')\n)".toList ++ " ;\t;".toList) =
      refusal? "f('\\\n')\n)".toList ∧
    (∀ cap, wrap (" \n".toList ++ "f('\\\n')\n)".toList ++ " ;\t;".toList) cap =
      wrap "f('\\\n')\n)".toList cap) ∧
    (refusal? (withReturns "f('\\\n')\n)".toList)).map Refusal.kind =
      (refusal? "f('\\\n')\n)".toList).map Refusal.kind :=
  have blank : ∀ char ∈ " \n".toList, Text.isBlank char = true :=
    Text.isBlankText_iff.mp (by decide)
  have trailing : ∀ char ∈ " ;\t;".toList, Text.isBlank char = true ∨ char = ';' :=
    have all : " ;\t;".toList.all isTrailing = true := by decide
    fun char member => isTrailing_iff.mp (List.all_eq_true.mp all char member)
  ⟨blank, trailing, layout_keeps_answer _ blank trailing⟩

end Expression
end ScriptGate
