import ScriptGate.Proofs.Pattern.Spelling
import ScriptGate.Proofs.Screening.Verdict
import ScriptGate.Proofs.Text.Parts

/-! # White space before a parenthesis

Most default patterns for calls allow white space between the name and the opening parenthesis, and
the other default patterns do not reach over a parenthesis. The four patterns for access to files
allow none. So white space before a parenthesis turns an unsafe script into a safe one exactly when
one of these four names stands before it (`unsafe_without_gap_iff`). -/

namespace ScriptGate

variable {flags : PatternFlags} {callee gap rest part : List Char}

/-- The calls whose opening parenthesis must follow at once. -/
def tightCalls : List String := [".readLine", ".write", ".getFile", ".setFile"]

/-- A text that ends with the name of such a call, in any case. -/
def EndsInTightCall (text : List Char) : Prop :=
  ∃ name ∈ tightCalls, ∃ spelled, spelled <:+ text ∧
    List.Forall₂ (fun expected char => Text.sameLetter expected char = true) name.toList spelled

namespace Pattern

/-- The opening parenthesis of a call. -/
def paren : Pattern := .one (.only false '(')

/-- What a pattern says about the place before a parenthesis. -/
inductive BeforeParen (flags : PatternFlags) : Pattern → Prop where
  /-- It reads no parenthesis. -/
  | none {pattern : Pattern} (avoids : pattern.avoids flags '(' = true) : BeforeParen flags pattern
  /-- It allows white space before the parenthesis that ends it. -/
  | spaced {name : Pattern} (avoids : name.avoids flags '(' = true) :
      BeforeParen flags (.seq (.seq name blanks) paren)
  /-- It allows none. -/
  | tight {name : String} (member : name ∈ tightCalls) :
      BeforeParen flags (.seq (spelling name.toList) paren)

/-- The pattern before white space and a parenthesis. -/
def spacedName? : Pattern → Option Pattern
  | .seq (.seq name spaces) last => if spaces = blanks ∧ last = paren then some name else none
  | _ => none

theorem beforeParen_of_spacedName? {pattern name : Pattern}
    (found : pattern.spacedName? = some name) (avoids : name.avoids flags '(' = true) :
    BeforeParen flags pattern := by
  unfold spacedName? at found
  split at found
  · split at found
    · next parts =>
        obtain ⟨rfl, rfl⟩ := parts
        cases found
        exact .spaced avoids
    · cases found
  · cases found

end Pattern

/-- Every default pattern is of one of these kinds. -/
theorem beforeParen_of_mem_standard {entry : BlacklistEntry}
    (member : entry ∈ Catalog.standard.blacklist) :
    Pattern.BeforeParen entry.flags entry.pattern := by
  have kinds : ∀ entry ∈ Catalog.standard.blacklist,
      entry.pattern.avoids entry.flags '(' = true ∨
      (entry.pattern.spacedName?).any (·.avoids entry.flags '(') = true ∨
      ∃ name ∈ tightCalls, entry.pattern = .seq (.spelling name.toList) .paren := by
    decide +kernel
  rcases kinds entry member with avoids | spaced | ⟨name, isTight, same⟩
  · exact .none avoids
  · obtain ⟨name, found, avoids⟩ := (Option.any_eq_true _ _).mp spaced
    exact Pattern.beforeParen_of_spacedName? found avoids
  · rw [same]
    exact .tight isTight

/-- What lies on one side of a parenthesis stays when white space is put before it. -/
theorem part_with_gap (sides : part <:+: callee ∨ part <:+: rest) :
    part <:+: callee ++ gap ++ '(' :: rest := by
  rw [List.append_assoc]
  rcases sides with before | after
  · exact before.trans (List.prefix_append _ _).isInfix
  · have ending : rest <:+ '(' :: rest := List.suffix_cons '(' rest
    exact after.trans ((ending.trans (List.suffix_append _ _)).trans
      (List.suffix_append _ _)).isInfix

/-- A pattern that reads a part of a script reads a part of the script with white space before some
parenthesis as well, unless it allows none there. -/
theorem Pattern.BeforeParen.exists_with_gap {pattern : Pattern}
    (kind : BeforeParen flags pattern) (ignoreCase : flags.ignoreCase = true)
    (blank : ∀ char ∈ gap, Text.isBlank char = true) (member : part ∈ pattern.language flags)
    (within : part <:+: callee ++ '(' :: rest) :
    (∃ other ∈ pattern.language flags, other <:+: callee ++ gap ++ '(' :: rest) ∨
      EndsInTightCall callee := by
  have isParen {text : List Char} (member : text ∈ paren.language flags) : text = ['('] :=
    (mem_language_only ignoreCase (by decide)).mp member
  cases kind with
  | none avoids =>
      have absent := not_mem_of_avoids avoids member
      exact .inl ⟨part, member, part_with_gap (Text.part_of_around absent within)⟩
  | @spaced name avoids =>
      obtain ⟨core, isCore, last, isLast, rfl⟩ := Language.mem_mul.mp member
      cases isParen isLast
      have avoidsCore : (Pattern.seq name blanks).avoids flags '(' = true :=
        Bool.and_eq_true_iff.mpr ⟨avoids, rfl⟩
      have absent := not_mem_of_avoids avoidsCore isCore
      rcases Text.part_of_around_last absent within with ends | sides
      · obtain ⟨named, isName, spaces, areSpaces, rfl⟩ := Language.mem_mul.mp isCore
        have moreSpaces : spaces ++ gap ∈ blanks.language flags := by
          refine mem_language_blanks.mpr fun char inside => ?_
          rcases List.mem_append.mp inside with early | late
          · exact mem_language_blanks.mp areSpaces char early
          · exact blank char late
        refine .inl ⟨(named ++ (spaces ++ gap)) ++ ['('], Language.append_mem_mul
          (Language.append_mem_mul isName moreSpaces) isLast, ?_⟩
        obtain ⟨before, rfl⟩ := ends
        exact ⟨before, rest, by simp only [List.append_assoc, List.cons_append, List.nil_append]⟩
      · exact .inl ⟨_, member, part_with_gap sides⟩
  | @tight name isTight =>
      obtain ⟨spelled, isSpelled, last, isLast, rfl⟩ := Language.mem_mul.mp member
      cases isParen isLast
      have spells := (mem_language_spelling ignoreCase).mp isSpelled
      have noParen : ∀ name ∈ tightCalls, '(' ∉ name.toList := by decide
      have absent := Text.not_mem_of_sameLetters (by decide) (noParen name isTight) spells
      rcases Text.part_of_around_last absent within with ends | sides
      · exact .inr ⟨name, isTight, spelled, ends, spells⟩
      · exact .inl ⟨_, member, part_with_gap sides⟩

namespace Catalog

/-- A default pattern that occurs in a script still occurs with white space before some parenthesis,
unless a call that allows none ends there. -/
theorem occursIn_with_gap {entry : BlacklistEntry} (member : entry ∈ standard.blacklist)
    (blank : ∀ char ∈ gap, Text.isBlank char = true)
    (occurs : entry.occursIn (callee ++ '(' :: rest) = true) :
    entry.occursIn (callee ++ gap ++ '(' :: rest) = true ∨ EndsInTightCall callee := by
  have floating := isFloating_of_mem_standard entry member
  obtain ⟨part, inLanguage, within⟩ := (Pattern.occursIn_iff floating).mp occurs
  rcases (beforeParen_of_mem_standard member).exists_with_gap rfl blank inLanguage within with
    found | tight
  · exact .inl ((Pattern.occursIn_iff floating).mpr found)
  · exact .inr tight

/-- A call that allows no white space before its parenthesis is unsafe without any. -/
theorem unsafe_of_endsInTightCall (tight : EndsInTightCall callee) :
    (standard.screen (callee ++ '(' :: rest)).safe = false := by
  obtain ⟨name, isTight, spelled, ⟨before, rfl⟩, spells⟩ := tight
  have listed : ∀ name ∈ tightCalls, "\\" ++ name ++ "\\(" ∈ defaultBlacklist ∧
      Pattern.read ("\\" ++ name ++ "\\(").toList = .ok (.seq (.spelling name.toList) .paren) := by
    decide
  obtain ⟨inList, isRead⟩ := listed name isTight
  rw [← sources_standard] at inList
  obtain ⟨entry, member, written⟩ := List.mem_map.mp inList
  have same : entry.pattern = .seq (.spelling name.toList) .paren :=
    Except.ok.inj (entry.isRead.symm.trans (written ▸ isRead))
  have inLanguage : spelled ++ ['('] ∈ entry.pattern.language entry.flags := by
    rw [same]
    exact Language.append_mem_mul ((Pattern.mem_language_spelling rfl).mpr spells)
      ((Pattern.mem_language_only rfl (by decide)).mpr rfl)
  have occurs : entry.occursIn (before ++ spelled ++ '(' :: rest) = true := by
    refine (Pattern.occursIn_iff (isFloating_of_mem_standard entry member)).mpr
      ⟨_, inLanguage, before, rest, ?_⟩
    simp only [List.append_assoc, List.cons_append, List.nil_append]
  refine Bool.eq_false_iff.mpr fun accepted => ?_
  exact Bool.eq_false_iff.mp ((safe_screen_iff_fits.mp accepted).2 entry member) occurs

/-- **White space before a parenthesis hides a violation only after a call for access to files.**
When a script with white space before a parenthesis is safe, the script without it is unsafe exactly
when the name of one of the calls that allow none stands there. -/
theorem unsafe_without_gap_iff (blank : Text.isBlankText gap = true)
    (safe : (standard.screen (callee ++ gap ++ '(' :: rest)).safe = true) :
    (standard.screen (callee ++ '(' :: rest)).safe = false ↔ EndsInTightCall callee := by
  refine ⟨fun rejected => ?_, unsafe_of_endsInTightCall⟩
  obtain ⟨fits, unlisted⟩ := safe_screen_iff_fits.mp safe
  by_contra other
  have accepted : (standard.screen (callee ++ '(' :: rest)).safe = true := by
    refine safe_screen_iff_fits.mpr ⟨?_, fun entry member => ?_⟩
    · simp only [List.length_append] at fits ⊢
      omega
    · refine Bool.eq_false_iff.mpr fun occurs => ?_
      rcases occursIn_with_gap member (List.all_eq_true.mp blank) occurs with found | tight
      · exact Bool.eq_false_iff.mp (unlisted entry member) found
      · exact other tight
  exact Bool.eq_false_iff.mp rejected accepted

theorem unsafe_without_gap_write :
    Text.isBlankText " ".toList = true ∧
    (standard.screen ("f.write".toList ++ " ".toList ++ '(' :: "x)".toList)).safe = true ∧
    EndsInTightCall "f.write".toList :=
  have blank : Text.isBlankText " ".toList = true := by decide
  have safe :
      (standard.screen ("f.write".toList ++ " ".toList ++ '(' :: "x)".toList)).safe = true := by
    decide +kernel
  have rejected : (standard.screen ("f.write".toList ++ '(' :: "x)".toList)).safe = false := by
    decide +kernel
  ⟨blank, safe, (unsafe_without_gap_iff blank safe).mp rejected⟩

/-- A space hides a call that writes a file. -/
theorem gap_hides_write :
    Text.isBlankText " ".toList = true ∧
    (standard.screen ("f.write".toList ++ '(' :: "x)".toList)).safe = false ∧
    (standard.screen ("f.write".toList ++ " ".toList ++ '(' :: "x)".toList)).safe = true := by
  decide +kernel

end Catalog

end ScriptGate
