import ScriptGate.Lint.Rule
import ScriptGate.Proofs.Lint.CallSites
import ScriptGate.Proofs.Lint.Conditions
import ScriptGate.Proofs.Lint.FieldFlags
import ScriptGate.Proofs.Lint.Parentheses
import ScriptGate.Proofs.Lint.Statements
import ScriptGate.Proofs.Scan.Surrounding
import ScriptGate.Proofs.Validation

/-! # White space around a script

Nothing that a rule looks for begins or ends with white space. So white space around a script only
moves what the rules find, by the line feeds before the script (`check_surrounded`), also where a
line is named in a message. The report on the script moves with it
(`Validator.validate_surrounded`). -/

namespace ScriptGate.Lint

open Scan

/-- What was found, when the script stands some lines further down. -/
def Cause.shiftLines (count : Nat) : Cause → Cause
  | .missingParentheses method line => .missingParentheses method (count + line)
  | .unknownFlag flag line => .unknownFlag flag (count + line)
  | cause => cause

/-- The same finding when the script stands some lines further down. -/
def Finding.shiftLines (count : Nat) (finding : Finding) : Finding :=
  ⟨finding.cause.shiftLines count, finding.line.map (count + ·)⟩

variable {before script after text blanks rest : List Char} {name method : String}
  {names : List String}

/-! ### The scans of the rules -/

section Scans

theorem beq_eq_false_of_word (isName : IsWordName name) :
    ∀ expected ∈ name.toList, ∀ char, Text.isBlank char = true → (expected == char) = false := by
  intro expected inName char blank
  rw [beq_eq_false_iff_ne]
  rintro rfl
  have word := isName.isWord expected inName
  rw [Text.isWord_eq_false_of_isBlank blank] at word
  cases word

theorem isAsciiWord_eq_false_of_isBlank {char : Char} (blank : Text.isBlank char = true) :
    Text.isAsciiWord char = false := by
  have notWord := Text.isWord_eq_false_of_isBlank blank
  rw [Bool.eq_false_iff] at notWord ⊢
  exact fun word => notWord (Text.isWord_of_isAsciiWord word)

theorem isWordName_of_mem_validMethods (isMethod : method ∈ validMethods) : IsWordName method :=
  List.all_eq_true.mpr fun char inMethod =>
    Text.isWord_of_isAsciiWord (isAsciiWord_of_mem_validMethods method isMethod char inMethod)

variable (blank : ∀ char ∈ blanks, Text.isBlank char = true)

include blank in
theorem afterExactCall?_append_blanks (isName : IsWordName name) (text : List Char) :
    afterExactCall? name (text ++ blanks) = (afterExactCall? name text).map (· ++ blanks) :=
  afterCall?_append_blanks blank (beq_eq_false_of_word isName) text

include blank in
theorem scanCallAmong_append_blanks (words : ∀ name ∈ names, IsWordName name) (text : List Char) :
    scanCallAmong names (text ++ blanks) =
      (scanCallAmong names text).map fun (name, rest) => (name, rest ++ blanks) := by
  induction names with
  | nil => rfl
  | cons name names ih =>
      obtain ⟨isName, words⟩ := List.forall_mem_cons.mp words
      rw [scanCallAmong] at ih
      rw [scanCallAmong, scanCallAmong, List.findSome?_cons, List.findSome?_cons, scanCall,
        scanCall, afterExactCall?_append_blanks blank isName]
      cases afterExactCall? name text with
      | none => exact ih words
      | some rest => rfl

include blank in
theorem scanQuoted_append_blanks (text : List Char) :
    scanQuoted (text ++ blanks) =
      (scanQuoted text).map fun (content, rest) => (content, rest ++ blanks) := by
  have unquoted : ∀ char ∈ blanks, (!Text.isQuote char) = true := by
    intro char member
    rw [Bool.not_eq_true', ← Bool.not_eq_true]
    intro quote
    have visible := Text.isBlank_eq_false_of_isQuote quote
    rw [blank char member] at visible
    cases visible
  rw [scanQuoted, scanQuoted, trimStart_append_blanks blank]
  cases Text.trimStart text with
  | nil => rfl
  | cons opening rest =>
      simp only [List.isEmpty_cons, Bool.false_eq_true, ↓reduceIte, List.cons_append]
      split
      · cases closing : rest.dropWhile (!Text.isQuote ·) with
        | nil =>
            have nothing : (rest ++ blanks).dropWhile (!Text.isQuote ·) = [] := by
              rw [List.dropWhile_eq_nil_iff] at closing ⊢
              exact List.forall_mem_append.mpr ⟨closing, unquoted⟩
            rw [nothing]
            cases (rest ++ blanks).takeWhile (!Text.isQuote ·) <;>
              cases rest.takeWhile (!Text.isQuote ·) <;> rfl
        | cons quote after =>
            -- The text is closed before the white space.
            have inside : ∀ char ∈ rest.takeWhile (!Text.isQuote ·), (!Text.isQuote char) = true :=
              List.all_eq_true.mp List.all_takeWhile
            obtain ⟨split, closes⟩ :=
              (Text.takeWhile_eq_and_dropWhile_eq_iff inside).mp ⟨rfl, closing⟩
            have longer : rest ++ blanks =
                rest.takeWhile (!Text.isQuote ·) ++ quote :: (after ++ blanks) := by
              rw [← List.cons_append, ← List.append_assoc, ← split]
            obtain ⟨content, follows⟩ :=
              (Text.takeWhile_eq_and_dropWhile_eq_iff inside).mpr ⟨longer, closes⟩
            rw [content, follows]
            cases rest.takeWhile (!Text.isQuote ·) <;> rfl
      · rfl

include blank in
theorem scanWhere_append_blanks (text : List Char) :
    scanWhere (text ++ blanks) =
      (scanWhere text).map fun (operator, rest) => (operator, rest ++ blanks) := by
  rw [scanWhere, scanWhere, scanCallAmong_append_blanks blank isWordName_of_mem_conditions]
  simp only [Option.bind_eq_bind, Option.bind_map, Option.map_bind, Function.comp_def,
    Option.pure_def, scanQuoted_append_blanks blank, afterMark?_append_blanks blank,
    Option.map_some]

include blank in
theorem scanHaving_append_blanks (text : List Char) :
    scanHaving (text ++ blanks) =
      (scanHaving text).map fun (operator, rest) => (operator, rest ++ blanks) := by
  rw [scanHaving, scanHaving, afterExactCall?_append_blanks blank (by decide)]
  simp only [Option.bind_eq_bind, Option.bind_map, Option.map_bind, Function.comp_def,
    Option.pure_def, scanQuoted_append_blanks blank, afterMark?_append_blanks blank,
    Option.map_some]

include blank in
theorem scanUncalled_append_blanks (isMethod : method ∈ validMethods) (text : List Char) :
    scanUncalled method (text ++ blanks) =
      (scanUncalled method text).map fun (name, rest) => (name, rest ++ blanks) := by
  have visible : ∀ expected ∈ method.toList, ∀ char, Text.isBlank char = true →
      (expected == char) = false :=
    beq_eq_false_of_word (isWordName_of_mem_validMethods isMethod)
  refine append_blanks_of_stop blank rfl scanUncalled_eq_none_of_no_stop (fun text => ?_) text
  rw [scanUncalled, scanUncalled, afterName?_append_blanks blank visible]
  cases afterName? (· == ·) method.toList text with
  | none => rfl
  | some rest =>
      have sameHead :
          (rest ++ blanks).head?.any Text.isAsciiWord = rest.head?.any Text.isAsciiWord := by
        cases rest with
        | cons char rest => rfl
        | nil =>
            cases blanks with
            | nil => rfl
            | cons char blanks =>
                exact isAsciiWord_eq_false_of_isBlank (blank char List.mem_cons_self)
      simp only [Option.map_some, sameHead, afterMark?_append_blanks blank, Option.isSome_map]
      split <;> rfl

include blank in
theorem scanFlag_append_blanks (text : List Char) :
    scanFlag (text ++ blanks) =
      (scanFlag text).map fun (flag, rest) => (flag, rest ++ blanks) := by
  apply Option.ext
  rintro ⟨value, left⟩
  rw [scanFlag_eq_some_iff, Option.map_eq_some_iff]
  constructor
  · rintro ⟨opening, closing, field, opens, closes, rfl, split⟩
    rw [← List.cons_append] at split
    obtain ⟨rest, rfl, rfl⟩ :=
      exists_rest_of_append_blanks blank (Text.isBlank_eq_false_of_isQuote closes) split
    exact ⟨(field.value, rest), scanFlag_flagged opens closes field rest, rfl⟩
  · rintro ⟨⟨value, rest⟩, found, same⟩
    cases same
    obtain ⟨opening, closing, field, opens, closes, rfl, rfl⟩ := scanFlag_eq_some_iff.mp found
    refine ⟨opening, closing, field, opens, closes, rfl, ?_⟩
    simp only [List.cons_append, List.append_assoc]

end Scans

/-! ### What the scans take -/

theorem suffix_of_scanQuoted {content : List Char}
    (found : scanQuoted text = some (content, rest)) : rest <:+ text := by
  rw [scanQuoted] at found
  split at found
  case h_1 => cases found
  case h_2 opening after split =>
  split at found
  case isFalse => cases found
  case isTrue =>
  split at found
  case h_1 => cases found
  case h_2 => cases found
  case h_3 closing following isFollowing _ =>
  cases found
  have within : Text.trimStart text <:+ text := List.dropWhile_suffix _
  have closes : after.dropWhile (!Text.isQuote ·) <:+ after := List.dropWhile_suffix _
  rw [split] at within
  rw [isFollowing] at closes
  have ends : rest <:+ after := (List.suffix_cons closing rest).trans closes
  exact (ends.trans (List.suffix_cons opening after)).trans within

/-- What is left behind a first part is left behind a longer one. -/
theorem exists_part_of_suffix {part arguments : List Char} (visible : part ≠ [])
    (split : text = part ++ arguments) (ends : rest <:+ arguments) :
    ∃ part, part ≠ [] ∧ text = part ++ rest := by
  obtain ⟨between, rfl⟩ := ends
  exact ⟨part ++ between, List.append_ne_nil_of_left_ne_nil visible between,
    split.trans (List.append_assoc _ _ _).symm⟩

theorem passesBlanks_scanCallAmong (words : ∀ name ∈ names, IsWordName name) :
    PassesBlanks (scanCallAmong names) where
  consumes := consumes_scanCallAmong words
  nothing blank := scanCallAmong_eq_none_of_no_stop words (ne_stop_of_isBlank blank)
  ignores blank text := scanCallAmong_append_blanks blank words text

theorem passesBlanks_scanCall (isName : IsWordName name) : PassesBlanks (scanCall name) := by
  rw [scanCall_eq_scanCallAmong]
  exact passesBlanks_scanCallAmong (List.forall_mem_singleton.mpr isName)

theorem passesBlanks_scanUncalled (isMethod : method ∈ validMethods) :
    PassesBlanks (scanUncalled method) where
  consumes := (findsAtStop_scanUncalled isMethod).consumes
  nothing blank := scanUncalled_eq_none_of_no_stop (ne_stop_of_isBlank blank)
  ignores blank text := scanUncalled_append_blanks blank isMethod text

theorem passesBlanks_scanFlag : PassesBlanks scanFlag where
  consumes found := by
    obtain ⟨opening, closing, field, _, _, _, rfl⟩ := scanFlag_eq_some_iff.mp found
    refine ⟨opening :: (field.text ++ [closing]), List.cons_ne_nil _ _, ?_⟩
    simp only [List.cons_append, List.append_assoc, List.nil_append]
  nothing blank := by
    refine scanFlag_eq_none_of_head ?_
    rw [Bool.eq_false_iff]
    intro quote
    rw [Text.isBlank_eq_false_of_isQuote quote] at blank
    cases blank
  ignores blank text := scanFlag_append_blanks blank text

theorem passesBlanks_scanWhere : PassesBlanks scanWhere where
  consumes found := by
    simp only [scanWhere, Option.bind_eq_bind, Option.bind_eq_some_iff, Option.pure_def,
      Option.some.injEq, Prod.mk.injEq, Prod.exists] at found
    obtain ⟨name, arguments, called, _, _, field, _, comma, _, _, operator, _, comma', _, rfl⟩ :=
      found
    obtain ⟨part, visible, split⟩ := consumes_scanCallAmong isWordName_of_mem_conditions called
    refine exists_part_of_suffix visible split ?_
    exact (suffix_of_afterMark? comma').trans ((suffix_of_scanQuoted operator).trans
      ((suffix_of_afterMark? comma).trans (suffix_of_scanQuoted field)))
  nothing blank := needsCall_scanWhere
    (scanCallAmong_eq_none_of_no_stop isWordName_of_mem_conditions (ne_stop_of_isBlank blank))
  ignores blank text := scanWhere_append_blanks blank text

theorem passesBlanks_scanHaving : PassesBlanks scanHaving where
  consumes found := by
    simp only [scanHaving, Option.bind_eq_bind, Option.bind_eq_some_iff, Option.pure_def,
      Option.some.injEq, Prod.mk.injEq, Prod.exists] at found
    obtain ⟨arguments, called, _, _, function, _, comma, _, _, field, _, comma', _, _, operator,
      _, comma'', _, rfl⟩ := found
    obtain ⟨gap, _, split⟩ := afterExactCall?_eq_some_iff.mp called
    have regrouped : _ = ('.' :: ("having".toList ++ (gap ++ ['(']))) ++ arguments :=
      split.trans (by simp only [List.cons_append, List.append_assoc, List.nil_append])
    refine exists_part_of_suffix (List.cons_ne_nil _ _) regrouped ?_
    exact (suffix_of_afterMark? comma'').trans ((suffix_of_scanQuoted operator).trans
      ((suffix_of_afterMark? comma').trans ((suffix_of_scanQuoted field).trans
        ((suffix_of_afterMark? comma).trans (suffix_of_scanQuoted function)))))
  nothing blank := needsCall_scanHaving
    (scanCallAmong_eq_none_of_no_stop isWordName_of_mem_having (ne_stop_of_isBlank blank))
  ignores blank text := scanHaving_append_blanks blank text

/-! ### What the rules find -/

section Rules

variable (blankBefore : ∀ char ∈ before, Text.isBlank char = true)
  (blankAfter : ∀ char ∈ after, Text.isBlank char = true)

theorem lineAt_surrounded {offset : Nat} (within : offset ≤ script.length) :
    Text.lineAt (before ++ (script ++ after)) (before.length + offset) =
      Text.lineFeeds before + Text.lineAt script offset := by
  rw [Text.lineAt_length_add, Text.lineAt_append within]

/-- The causes that name no line, or name the line of their finding. -/
def MovesWithLine (cause : Nat → Cause) : Prop :=
  ∀ count line, (cause line).shiftLines count = cause (count + line)

theorem findingAt_surrounded {α : Type} {scan : List Char → Option (α × List Char)}
    (consumes : Consumes scan) {found : Occurrence α} (member : found ∈ occurrences scan script)
    {cause : Nat → Cause} (moves : MovesWithLine cause) :
    findingAt (before ++ (script ++ after)) (found.shift before.length).start
        (cause (Text.lineAt (before ++ (script ++ after)) (found.shift before.length).start)) =
      (findingAt script found.start (cause (Text.lineAt script found.start))).shiftLines
        (Text.lineFeeds before) := by
  obtain ⟨early, part, late, split, _, _, start, _⟩ :=
    exists_place_of_mem_occurrences consumes member
  have within : found.start ≤ script.length := by
    rw [start, split, List.length_append]
    exact Nat.le_add_right _ _
  simp only [findingAt, Occurrence.shift, lineAt_surrounded within, Finding.shiftLines,
    Option.map_some, moves (Text.lineFeeds before) (Text.lineAt script found.start)]

include blankBefore blankAfter

/-- What a scan finds is reported with the lines moved. -/
theorem map_findingAt_surrounded {α : Type} {scan : List Char → Option (α × List Char)}
    (passes : PassesBlanks scan) (cause : α → Nat → Cause)
    (moves : ∀ value, MovesWithLine (cause value)) (test : α → Bool) (script : List Char) :
    ((occurrences scan (before ++ (script ++ after))).filter fun found => test found.value).map
        (fun found => findingAt (before ++ (script ++ after)) found.start
          (cause found.value (Text.lineAt (before ++ (script ++ after)) found.start))) =
      (((occurrences scan script).filter fun found => test found.value).map fun found =>
        findingAt script found.start
          (cause found.value (Text.lineAt script found.start))).map
            (·.shiftLines (Text.lineFeeds before)) := by
  rw [occurrences_surrounded passes blankBefore blankAfter, List.filter_map, List.map_map,
    List.map_map]
  refine List.map_congr_left fun found member => ?_
  exact findingAt_surrounded passes.consumes (List.mem_filter.mp member).1 (moves found.value)

theorem undefinedMethodFindings_surrounded (script : List Char) :
    undefinedMethodFindings (before ++ (script ++ after)) =
      (undefinedMethodFindings script).map (·.shiftLines (Text.lineFeeds before)) := by
  rw [undefinedMethodFindings, undefinedMethodFindings, List.map_flatMap]
  refine List.flatMap_congr fun (name, suggestion) member => ?_
  have isName : IsWordName name :=
    isWordName_of_mem_undefinedMethods name (List.mem_map_of_mem member)
  have moved := map_findingAt_surrounded blankBefore blankAfter (passesBlanks_scanCall isName)
    (fun _ _ => .undefinedMethod name suggestion) (fun _ _ _ => rfl) (fun _ => true) script
  simpa only [List.filter_true] using moved

theorem parenthesesFindings_surrounded (script : List Char) :
    parenthesesFindings (before ++ (script ++ after)) =
      (parenthesesFindings script).map (·.shiftLines (Text.lineFeeds before)) := by
  rw [parenthesesFindings, parenthesesFindings, List.map_flatMap]
  refine List.flatMap_congr fun method isMethod => ?_
  have moved := map_findingAt_surrounded blankBefore blankAfter
    (passesBlanks_scanUncalled isMethod) (fun _ => .missingParentheses method)
    (fun _ _ _ => rfl) (fun _ => true) script
  simpa only [List.filter_true] using moved

theorem operatorFindings_surrounded {scan : List Char → Option (String × List Char)}
    (passes : PassesBlanks scan) {cause : String → Cause}
    (moves : ∀ operator, MovesWithLine fun _ => cause operator) (script : List Char) :
    operatorFindings scan cause (before ++ (script ++ after)) =
      (operatorFindings scan cause script).map (·.shiftLines (Text.lineFeeds before)) :=
  map_findingAt_surrounded blankBefore blankAfter passes (fun operator _ => cause operator) moves
    (fun operator => !validOperators.contains operator) script

theorem flagFindings_surrounded (script : List Char) :
    flagFindings (before ++ (script ++ after)) =
      (flagFindings script).map (·.shiftLines (Text.lineFeeds before)) :=
  map_findingAt_surrounded blankBefore blankAfter passesBlanks_scanFlag .unknownFlag
    (fun _ _ _ => rfl) (fun flag => !validFieldFlags.contains flag) script

theorem chainFindings_surrounded (script : List Char) :
    chainFindings (before ++ (script ++ after)) =
      (chainFindings script).map (·.shiftLines (Text.lineFeeds before)) := by
  have calls : terminalCalls (before ++ (script ++ after)) =
      (terminalCalls script).map (·.shift before.length) :=
    occurrences_surrounded (passesBlanks_scanCallAmong isWordName_of_mem_terminalOperations)
      blankBefore blankAfter script
  have pairs : chainedPairs (before ++ (script ++ after)) = (chainedPairs script).map
      (Prod.map (·.shift before.length) (·.shift before.length)) := by
    rw [chainedPairs, calls, neighbours_map, List.filter_map, chainedPairs]
    refine congrArg _ (List.filter_congr fun pair member => ?_)
    exact (continuesChain_shift before (script ++ after) pair.1 pair.2).trans
      (continuesChain_append (start_le_of_mem_neighbours member))
  rw [chainFindings_eq_map, chainFindings_eq_map, pairs, List.map_map, List.map_map]
  refine List.map_congr_left fun pair member => ?_
  have within : pair.2.start ≤ script.length :=
    start_le_of_mem_neighbours (List.mem_filter.mp member).1
  simp only [Function.comp_apply, pairFinding, Prod.map_fst, Prod.map_snd, findingAt,
    Occurrence.shift, lineAt_surrounded within]
  rfl

theorem callsWithoutArguments_surrounded (isName : IsWordName name) (script : List Char) :
    callsWithoutArguments (before ++ (script ++ after)) name =
      callsWithoutArguments script name := by
  refine holdsSomewhere_surrounded (fun blank => ?_) (fun text => ?_) blankBefore blankAfter script
  · rw [afterExactCall?, afterCall?_eq_none_of_no_stop (ne_stop_of_isBlank blank), Option.bind_none,
      Option.isSome_none]
  · rw [afterExactCall?_append_blanks blankAfter isName]
    cases afterExactCall? name text with
    | none => rfl
    | some rest => simp only [Option.map_some, Option.bind_some,
        afterMark?_append_blanks blankAfter, Option.isSome_map]

theorem callsExactly_surrounded (isName : IsWordName name) (script : List Char) :
    callsExactly (before ++ (script ++ after)) name = callsExactly script name := by
  refine holdsSomewhere_surrounded (fun blank => ?_) (fun text => ?_) blankBefore blankAfter script
  · rw [afterExactCall?, afterCall?_eq_none_of_no_stop (ne_stop_of_isBlank blank),
      Option.isSome_none]
  · rw [afterExactCall?_append_blanks blankAfter isName, Option.isSome_map]

theorem unguardedFindings_surrounded (script : List Char) :
    unguardedFindings (before ++ (script ++ after)) =
      (unguardedFindings script).map (·.shiftLines (Text.lineFeeds before)) := by
  have isGet : IsWordName "get" := by decide
  have isPresent : IsWordName "isPresent" := by decide
  have orElse : IsWordName "orElse" := by decide
  rw [unguardedFindings, unguardedFindings,
    callsWithoutArguments_surrounded blankBefore blankAfter isGet,
    callsWithoutArguments_surrounded blankBefore blankAfter isPresent,
    callsExactly_surrounded blankBefore blankAfter orElse]
  split <;> rfl

theorem legacyFindings_surrounded (script : List Char) :
    legacyFindings (before ++ (script ++ after)) =
      (legacyFindings script).map (·.shiftLines (Text.lineFeeds before)) := by
  have visible : ∀ expected ∈ legacyName.toList, ∀ char, Text.isBlank char = true →
      Text.sameLetter expected char = false := by
    have letters : ∀ expected ∈ legacyName.toList, (!Text.isBlank expected) = true :=
      List.all_eq_true.mp (by decide)
    intro expected inName char
    have letter : Text.isBlank expected = false := by
      rw [← Bool.not_eq_true']
      exact letters expected inName
    exact Text.sameLetter_eq_false_of_isBlank letter
  have legacy : holdsSomewhere startsLegacyCall (before ++ (script ++ after)) =
      holdsSomewhere startsLegacyCall script := by
    refine holdsSomewhere_surrounded (fun blank => ?_) (fun text => ?_) blankBefore blankAfter
      script
    · rw [startsLegacyCall, afterName?_eq_none_of_isBlank (by decide) visible blank,
        Option.bind_none, Option.isSome_none]
    · rw [startsLegacyCall, startsLegacyCall, afterName?_append_blanks blankAfter visible]
      cases afterName? Text.sameLetter legacyName.toList text with
      | none => rfl
      | some rest => simp only [Option.map_some, Option.bind_some,
          afterMark?_append_blanks blankAfter, Option.isSome_map]
  rw [legacyFindings, legacyFindings, legacy]
  split <;> rfl

/-- **White space around a script only moves what a rule finds.** -/
theorem check_surrounded {rule : Rule} (member : rule ∈ rules) (script : List Char) :
    rule.check (before ++ (script ++ after)) =
      (rule.check script).map (·.shiftLines (Text.lineFeeds before)) := by
  simp only [rules, List.mem_cons, List.not_mem_nil, or_false] at member
  rcases member with rfl | rfl | rfl | rfl | rfl | rfl | rfl | rfl
  · exact undefinedMethodFindings_surrounded blankBefore blankAfter script
  · exact chainFindings_surrounded blankBefore blankAfter script
  · exact operatorFindings_surrounded blankBefore blankAfter passesBlanks_scanWhere
      (fun _ _ _ => rfl) script
  · exact operatorFindings_surrounded blankBefore blankAfter passesBlanks_scanHaving
      (fun _ _ _ => rfl) script
  · exact parenthesesFindings_surrounded blankBefore blankAfter script
  · exact flagFindings_surrounded blankBefore blankAfter script
  · exact legacyFindings_surrounded blankBefore blankAfter script
  · exact unguardedFindings_surrounded blankBefore blankAfter script

end Rules

/-! ### What makes a script invalid -/

/-- The finding of an error stands on a line and says nothing about lines. -/
def IsErrorFinding (finding : Finding) : Prop :=
  ∃ line, finding.line = some line ∧ ∀ count, finding.cause.shiftLines count = finding.cause

theorem isErrorFinding_findingAt {cause : Cause}
    (keeps : ∀ count, cause.shiftLines count = cause) (offset : Nat) :
    IsErrorFinding (findingAt script offset cause) :=
  ⟨_, rfl, keeps⟩

theorem isErrorFinding_of_mem {rule : Rule} (member : rule ∈ rules)
    (isError : rule.severity = .error) {finding : Finding} (isFound : finding ∈ rule.check script) :
    IsErrorFinding finding := by
  simp only [rules, List.mem_cons, List.not_mem_nil, or_false] at member
  rcases member with rfl | rfl | rfl | rfl | rfl | rfl | rfl | rfl
  · obtain ⟨_, _, isFound⟩ := List.mem_flatMap.mp isFound
    obtain ⟨_, _, rfl⟩ := List.mem_map.mp isFound
    exact isErrorFinding_findingAt (fun _ => rfl) _
  · have isFound : finding ∈ chainFindings script := isFound
    rw [chainFindings_eq_map] at isFound
    obtain ⟨_, _, rfl⟩ := List.mem_map.mp isFound
    exact isErrorFinding_findingAt (fun _ => rfl) _
  · obtain ⟨_, _, rfl⟩ := List.mem_map.mp isFound
    exact isErrorFinding_findingAt (fun _ => rfl) _
  · obtain ⟨_, _, rfl⟩ := List.mem_map.mp isFound
    exact isErrorFinding_findingAt (fun _ => rfl) _
  all_goals cases isError

end ScriptGate.Lint

namespace ScriptGate.Validator

open Lint (Finding)

variable {before script after : List Char}

/-- White space around a script only moves the findings of each severity. -/
theorem findings_surrounded (blankBefore : ∀ char ∈ before, Text.isBlank char = true)
    (blankAfter : ∀ char ∈ after, Text.isBlank char = true) (limit : Int)
    (severity : Lint.Severity) (script : List Char) :
    (Validator.mk limit Lint.rules).findings severity (before ++ (script ++ after)) =
      ((Validator.mk limit Lint.rules).findings severity script).map
        (·.shiftLines (Text.lineFeeds before)) := by
  rw [findings, findings, List.map_flatMap]
  refine List.flatMap_congr fun rule member => ?_
  exact Lint.check_surrounded blankBefore blankAfter (List.mem_of_mem_filter member) script

theorem isErrorFinding_of_mem_findings {limit : Int} {finding : Finding}
    (member : finding ∈ (Validator.mk limit Lint.rules).findings .error script) :
    Lint.IsErrorFinding finding := by
  obtain ⟨rule, isRule, isError, isFound⟩ := mem_findings_iff.mp member
  exact Lint.isErrorFinding_of_mem isRule isError isFound

/-- The report on a script that is visible and not too long. -/
theorem validate_of_fits (validator : Validator) (visible : Text.isBlankText script = false)
    (fits : (script.length : Int) ≤ validator.maxLength) :
    validator.validate (some script) =
      ⟨(validator.findings .error script).map .found,
        (validator.findings .warning script).map (·.message)⟩ := by
  rw [validate_of_visible visible, lengthIssue, if_neg (Int.not_lt.mpr fits), List.nil_append]

/-- **White space around a script only moves the report.** The errors are the same, in the same
order, each as many lines further down as there are line feeds before the script. The warnings are
the same with the lines that they name moved in the same way, and those about the whole script as
they are. -/
theorem validate_surrounded {limit : Int}
    (blankBefore : ∀ char ∈ before, Text.isBlank char = true)
    (blankAfter : ∀ char ∈ after, Text.isBlank char = true)
    (visible : Text.isBlankText script = false)
    (fits : ((before ++ (script ++ after)).length : Int) ≤ limit) :
    let validator : Validator := ⟨limit, Lint.rules⟩
    let report := validator.validate (some script)
    let surrounded := validator.validate (some (before ++ (script ++ after)))
    surrounded.valid = report.valid ∧
    surrounded.errors.map (fun issue => (issue.message, issue.line)) =
      report.errors.map (fun issue => (issue.message, Text.lineFeeds before + issue.line)) ∧
    report.warnings = (validator.findings .warning script).map Finding.message ∧
    surrounded.warnings = (validator.findings .warning script).map fun finding =>
      (finding.shiftLines (Text.lineFeeds before)).message := by
  intro validator report surrounded
  have scriptFits : (script.length : Int) ≤ limit := by
    simp only [List.length_append] at fits
    omega
  have surroundedVisible : Text.isBlankText (before ++ (script ++ after)) = false := by
    obtain ⟨char, inScript, isVisible⟩ := Text.isBlankText_eq_false_iff.mp visible
    refine Text.isBlankText_eq_false_iff.mpr ⟨char, ?_, isVisible⟩
    exact List.mem_append_right before (List.mem_append_left after inScript)
  have moved (severity : Lint.Severity) :
      validator.findings severity (before ++ (script ++ after)) =
        (validator.findings severity script).map (·.shiftLines (Text.lineFeeds before)) :=
    findings_surrounded blankBefore blankAfter limit severity script
  have reported : report = ⟨(validator.findings .error script).map .found,
      (validator.findings .warning script).map (·.message)⟩ :=
    validate_of_fits validator visible scriptFits
  have reportedMoved : surrounded =
      ⟨((validator.findings .error script).map
          (·.shiftLines (Text.lineFeeds before))).map .found,
        ((validator.findings .warning script).map
          (·.shiftLines (Text.lineFeeds before))).map (·.message)⟩ := by
    rw [← moved .error, ← moved .warning]
    exact validate_of_fits validator surroundedVisible fits
  rw [reported, reportedMoved]
  refine ⟨?_, ?_, rfl, ?_⟩
  · simp only [Report.valid, List.isEmpty_map]
  · simp only [List.map_map]
    refine List.map_congr_left fun finding member => ?_
    obtain ⟨line, isLine, keeps⟩ := isErrorFinding_of_mem_findings member
    simp only [Function.comp_apply, ScriptIssue.message, ScriptIssue.line, Finding.message,
      Finding.shiftLines, keeps, isLine, Option.map_some, Option.getD_some]
  · exact List.map_map

/-- The error moves from the second line to the fourth, the line in the first warning from the first
to the third, and the warning about the whole script stays. -/
theorem validate_surrounded_two_lines :
    let report := (Validator.mk 60 Lint.rules).validate (some
      "\n \nGlideRecord(t).select\n.find(1) \n".toList)
    report.valid = false ∧
    report.errors.map (fun issue => (issue.message, issue.line)) =
      [("Undefined method '.find()' - Use .select() instead", 4)] ∧
    report.warnings =
      ["Method '.select' may be missing parentheses at line 3",
        Lint.Cause.legacyRecord.message] := by
  have blankBefore : ∀ char ∈ "\n \n".toList, Text.isBlank char = true :=
    List.all_eq_true.mp (by decide)
  have blankAfter : ∀ char ∈ " \n".toList, Text.isBlank char = true :=
    List.all_eq_true.mp (by decide)
  have visible : Text.isBlankText "GlideRecord(t).select\n.find(1)".toList = false := by decide
  have fits : (("\n \n".toList ++ ("GlideRecord(t).select\n.find(1)".toList ++
      " \n".toList)).length : Int) ≤ 60 := by decide
  have split : "\n \nGlideRecord(t).select\n.find(1) \n".toList =
      "\n \n".toList ++ ("GlideRecord(t).select\n.find(1)".toList ++ " \n".toList) := by
    decide +kernel
  obtain ⟨valid, errors, _, warnings⟩ :=
    validate_surrounded blankBefore blankAfter visible fits
  rw [split]
  exact ⟨valid.trans (by decide +kernel), errors.trans (by decide +kernel),
    warnings.trans (by decide +kernel)⟩

end ScriptGate.Validator
