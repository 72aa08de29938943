import ScriptGate.Proofs.Lint.Segments
import ScriptGate.Proofs.Text.Classes
import ScriptGate.Proofs.Text.Parts

/-! # Flags in a list of fields

The scan for flags finds a field with a flag between two quotes (`scanFlag_eq_some_iff`). It cannot
tell an opening quote from a closing one, but the closing quote of an argument is followed by white
space, a comma, another quote or a parenthesis, and no field starts with these. So in a list of
quoted arguments it reads one argument after the other (`flagFindings_select`). -/

namespace ScriptGate.Lint

open Scan

/-- A field name with a flag. -/
structure FlaggedField where
  first : Char
  /-- The characters of the name after the first one. -/
  others : List Char
  /-- What stands after the dollar sign. -/
  flag : List Char
  first_starts : startsField first = true
  others_word : ∀ char ∈ others, Text.isAsciiWord char = true
  flag_visible : flag ≠ []
  flag_capital : ∀ char ∈ flag, isFlagChar char = true

namespace FlaggedField

def text (field : FlaggedField) : List Char := field.first :: (field.others ++ '$' :: field.flag)

/-- The flag with its dollar sign. -/
def value (field : FlaggedField) : String := String.ofList ('$' :: field.flag)

end FlaggedField

/-- A text of word characters and full stops. -/
def IsPath (text : List Char) : Prop := ∀ char ∈ text, Text.isWord char = true ∨ char = '.'

/-- What an argument names: a field, perhaps through others, or a field with a flag. -/
inductive FieldName where
  | plain (name : List Char) (isPath : IsPath name)
  | flagged (field : FlaggedField)

namespace FieldName

def text : FieldName → List Char
  | plain name _ => name
  | flagged field => field.text

def flag? : FieldName → Option String
  | plain _ _ => none
  | flagged field => some field.value

end FieldName

/-- A text of commas and white space. -/
def Separates (text : List Char) : Prop := ∀ char ∈ text, char = ',' ∨ Text.isBlank char = true

instance (text : List Char) : Decidable (IsPath text) := List.decidableBAll _ text

instance (text : List Char) : Decidable (Separates text) := List.decidableBAll _ text

/-- A quoted argument of a list of fields. -/
structure FieldArgument where
  /-- What separates it from the argument before. -/
  lead : List Char
  opening : Char
  name : FieldName
  closing : Char
  lead_separates : Separates lead
  opens : Text.isQuote opening = true
  closes : Text.isQuote closing = true

namespace FieldArgument

/-- The argument with its quotes. -/
def quoted (argument : FieldArgument) : List Char :=
  argument.opening :: (argument.name.text ++ [argument.closing])

def text (argument : FieldArgument) : List Char := argument.lead ++ argument.quoted

def segment (argument : FieldArgument) : Segment String :=
  ⟨argument.lead, argument.quoted, argument.name.flag?⟩

end FieldArgument

variable {text rest : List Char} {value : String} {opening closing : Char}

/-! ### The scan for flags -/

/-- Quotes stand neither in names nor in flags. -/
theorem classes_of_isQuote {char : Char} (quote : Text.isQuote char = true) :
    startsField char = false ∧ Text.isAsciiWord char = false ∧ isFlagChar char = false := by
  rcases Text.isQuote_iff.mp quote with rfl | rfl | rfl <;> decide

theorem exists_of_scanFlag (found : scanFlag text = some (value, rest)) :
    ∃ opening closing, ∃ field : FlaggedField, Text.isQuote opening = true ∧
      Text.isQuote closing = true ∧ value = field.value ∧
      text = opening :: (field.text ++ closing :: rest) := by
  unfold scanFlag at found
  split at found
  case h_2 => cases found
  case h_1 opening first text =>
  split at found
  case isFalse => cases found
  case isTrue starts =>
  split at found
  case h_2 => cases found
  case h_1 afterDollar isDollar =>
  split at found
  case h_1 => cases found
  case h_2 => cases found
  case h_3 closing after isAfter visible =>
  split at found
  case isFalse => cases found
  case isTrue closes =>
  cases found
  rw [Bool.and_eq_true] at starts
  refine ⟨opening, closing, ⟨first, text.takeWhile Text.isAsciiWord,
    afterDollar.takeWhile isFlagChar, starts.2, List.all_eq_true.mp List.all_takeWhile, visible,
    List.all_eq_true.mp List.all_takeWhile⟩, starts.1, closes, rfl, ?_⟩
  simp only [FlaggedField.text, List.cons_append, List.append_assoc]
  rw [← isAfter, List.takeWhile_append_dropWhile, ← isDollar, List.takeWhile_append_dropWhile]

theorem scanFlag_flagged (opens : Text.isQuote opening = true)
    (closes : Text.isQuote closing = true) (field : FlaggedField) (rest : List Char) :
    scanFlag (opening :: (field.text ++ closing :: rest)) = some (field.value, rest) := by
  obtain ⟨first, others, flag, starts, word, visible, capital⟩ := field
  have afterName : (others ++ '$' :: (flag ++ closing :: rest)).dropWhile Text.isAsciiWord =
      '$' :: (flag ++ closing :: rest) := by
    rw [List.dropWhile_append_of_pos word, List.dropWhile_cons_of_neg (by decide)]
  have noFlag : ¬ isFlagChar closing = true := by
    rw [(classes_of_isQuote closes).2.2]
    exact Bool.false_ne_true
  have isFlag : (flag ++ closing :: rest).takeWhile isFlagChar = flag := by
    rw [List.takeWhile_append_of_pos capital, List.takeWhile_cons_of_neg noFlag, List.append_nil]
  have afterFlag : (flag ++ closing :: rest).dropWhile isFlagChar = closing :: rest := by
    rw [List.dropWhile_append_of_pos capital, List.dropWhile_cons_of_neg noFlag]
  obtain ⟨char, flag, rfl⟩ := List.exists_cons_of_ne_nil visible
  simp only [FlaggedField.text, FlaggedField.value, List.cons_append, List.append_assoc] at *
  simp only [scanFlag, opens, starts, Bool.and_self, ↓reduceIte, afterName, isFlag, afterFlag,
    closes]

/-- **What the scan for flags finds**: a field with a flag between two quotes. -/
theorem scanFlag_eq_some_iff :
    scanFlag text = some (value, rest) ↔ ∃ opening closing, ∃ field : FlaggedField,
      Text.isQuote opening = true ∧ Text.isQuote closing = true ∧ value = field.value ∧
      text = opening :: (field.text ++ closing :: rest) := by
  constructor
  · exact exists_of_scanFlag
  · rintro ⟨opening, closing, field, opens, closes, rfl, rfl⟩
    exact scanFlag_flagged opens closes field rest

theorem scanFlag_eq_none_of_head {char : Char} (unquoted : Text.isQuote char = false) :
    scanFlag (char :: text) = none := by
  rw [Option.eq_none_iff_forall_ne_some]
  rintro ⟨value, rest⟩ found
  obtain ⟨opening, closing, field, opens, _, _, split⟩ := scanFlag_eq_some_iff.mp found
  rw [(List.cons_eq_cons.mp split).1, opens] at unquoted
  cases unquoted

theorem occurrencesFrom_of_no_quote {offset : Nat}
    (unquoted : Text.Unquoted text) (rest : List Char) :
    occurrencesFrom scanFlag offset 0 (text ++ rest) =
      occurrencesFrom scanFlag (offset + text.length) 0 rest := by
  refine occurrencesFrom_skip fun place visible ends => ?_
  obtain ⟨char, place, rfl⟩ := List.exists_cons_of_ne_nil visible
  exact scanFlag_eq_none_of_head (unquoted char (ends.subset List.mem_cons_self))

/-! ### Arguments that name fields -/

theorem unquoted_of_separates (separates : Separates text) : Text.Unquoted text := by
  intro char member
  apply Bool.eq_false_iff.mpr
  intro quote
  rcases separates char member with rfl | blank
  · cases quote
  · rw [Text.isBlank_eq_false_of_isQuote quote] at blank
    cases blank

theorem unquoted_of_isPath (isPath : IsPath text) : Text.Unquoted text := by
  intro char member
  apply Bool.eq_false_iff.mpr
  intro quote
  rcases isPath char member with word | rfl
  · rw [Text.isWord_eq_false_of_isQuote quote] at word
    cases word
  · cases quote

/-- A name without a flag is not taken for one with a flag, whatever follows it. -/
theorem scanFlag_plain {name : List Char} (isPath : IsPath name)
    (closes : Text.isQuote closing = true) (rest : List Char) :
    scanFlag (opening :: (name ++ closing :: rest)) = none := by
  rw [Option.eq_none_iff_forall_ne_some]
  rintro ⟨value, after⟩ found
  obtain ⟨_, end', field, _, _, _, split⟩ := scanFlag_eq_some_iff.mp found
  have noDollar : '$' ∉ name := by
    intro member
    rcases isPath _ member with word | same
    · exact absurd word (by decide)
    · cases same
  have noQuote : closing ∉ field.first :: field.others := by
    obtain ⟨notFirst, notOther, _⟩ := classes_of_isQuote closes
    intro member
    rcases List.mem_cons.mp member with rfl | member
    · rw [field.first_starts] at notFirst
      cases notFirst
    · rw [field.others_word closing member] at notOther
      cases notOther
  -- The name and the field both end before the first dollar sign, which is then the closing quote.
  have atDollar : name ++ closing :: rest =
      (field.first :: field.others) ++ '$' :: (field.flag ++ end' :: after) := by
    rw [(List.cons_eq_cons.mp split).2, FlaggedField.text]
    simp only [List.cons_append, List.append_assoc]
  obtain ⟨_, rfl, _⟩ := Text.split_unique noDollar noQuote atDollar
  cases closes

/-- A text with which no field starts. -/
def StartsNoField (text : List Char) : Prop := ∀ char ∈ text.head?, startsField char = false

theorem scanFlag_closing (startsNoField : StartsNoField rest) :
    scanFlag (closing :: rest) = none := by
  rw [Option.eq_none_iff_forall_ne_some]
  rintro ⟨value, after⟩ found
  obtain ⟨_, _, field, _, _, _, split⟩ := scanFlag_eq_some_iff.mp found
  have starts := startsNoField field.first (by rw [(List.cons_eq_cons.mp split).2]; rfl)
  rw [field.first_starts] at starts
  cases starts

theorem isWord_of_startsField {char : Char} (starts : startsField char = true) :
    Text.isWord char = true := by
  rcases Bool.or_eq_true_iff.mp starts with letter | underscore
  · have narrow : char.toNat < 0x80 := by
      rcases Text.isAsciiLetter_iff.mp letter with lower | upper <;> omega
    simp only [Text.isWord, Text.isAlphanumeric, narrow, ↓reduceIte, letter, Bool.true_or]
  · simp only [Text.isWord, underscore, Bool.or_true]

theorem startsNoField_of_separates {char : Char} (separates : Separates text)
    (notStart : startsField char = false) (rest : List Char) :
    StartsNoField (text ++ char :: rest) := by
  cases text with
  | nil =>
      rintro first ⟨⟩
      exact notStart
  | cons head text =>
      rintro first ⟨⟩
      apply Bool.eq_false_iff.mpr
      intro starts
      rcases separates head List.mem_cons_self with rfl | blank
      · cases starts
      · have word := isWord_of_startsField starts
        rw [Text.isWord_eq_false_of_isBlank blank] at word
        cases word

/-- In an argument nothing is found but its flag. -/
theorem isReadBy_scanFlag (argument : FieldArgument) :
    argument.segment.IsReadBy scanFlag StartsNoField := by
  intro offset rest startsNoField
  obtain ⟨lead, opening, name, closing, separates, opens, closes⟩ := argument
  simp only [FieldArgument.segment, Segment.text, FieldArgument.quoted, List.append_assoc]
  rw [occurrencesFrom_of_no_quote (unquoted_of_separates separates), List.length_append,
    ← Nat.add_assoc]
  cases name with
  | plain name isPath =>
      rw [occurrencesFrom_skip]
      · rfl
      -- A place in the argument is at its opening quote, at its closing quote or in its name.
      intro place visible ends
      rcases List.suffix_cons_iff.mp ends with rfl | ends
      · rw [List.cons_append, List.append_assoc, List.singleton_append]
        exact scanFlag_plain isPath closes rest
      obtain rfl | ⟨inside, rfl, inName⟩ := List.suffix_concat_iff.mp ends
      · exact absurd rfl visible
      cases inside with
      | nil => exact scanFlag_closing startsNoField
      | cons char inside =>
          exact scanFlag_eq_none_of_head
            (unquoted_of_isPath isPath char (inName.subset List.mem_cons_self))
  | flagged field =>
      have scanned : scanFlag (opening :: (field.text ++ [closing]) ++ rest) =
          some (field.value, rest) := by
        rw [List.cons_append, List.append_assoc, List.singleton_append]
        exact scanFlag_flagged opens closes field rest
      exact congrArg _ (occurrencesFrom_found (List.cons_ne_nil _ _) scanned)

/-- **Flags in a list of fields are judged one by one.** The receiver has no quotes, and the
arguments stand between quotes of any kind, with commas and white space between them. -/
theorem flagFindings_select {receiver trail : List Char} (unquoted : Text.Unquoted receiver)
    (arguments : List FieldArgument) (separates : Separates trail) :
    flagFindings (receiver ++ ".select(".toList ++
        (arguments.flatMap FieldArgument.text ++ (trail ++ [')']))) =
      unknownFindings validFieldFlags .unknownFlag (receiver ++ ".select(".toList)
        (arguments.map FieldArgument.segment) := by
  have receiverUnquoted : Text.Unquoted (receiver ++ ".select(".toList) :=
    List.forall_mem_append.mpr ⟨unquoted, (by decide : Text.Unquoted ".select(".toList)⟩
  have endUnquoted : Text.Unquoted (trail ++ [')']) :=
    List.forall_mem_append.mpr
      ⟨unquoted_of_separates separates, List.forall_mem_singleton.mpr rfl⟩
  have silent (offset : Nat) : occurrencesFrom scanFlag offset 0 (trail ++ [')']) = [] := by
    rw [← List.append_nil (trail ++ [')']), occurrencesFrom_of_no_quote endUnquoted]
    rfl
  have starts (argument : FieldArgument) (rest : List Char) :
      StartsNoField (argument.segment.text ++ rest) := by
    simp only [FieldArgument.segment, Segment.text, FieldArgument.quoted, List.append_assoc,
      List.cons_append]
    exact startsNoField_of_separates argument.lead_separates (classes_of_isQuote argument.opens).1 _
  rw [flagFindings_eq_siteFindings, occurrences, occurrencesFrom_of_no_quote receiverUnquoted,
    Nat.zero_add]
  exact siteFindings_segments isReadBy_scanFlag starts
    (startsNoField_of_separates separates rfl []) silent arguments _ rfl

/-- The quotes are mixed, and the unknown flag stands on the third line. -/
theorem flagFindings_select_three :
    Text.Unquoted "q\n".toList ∧ Separates " ".toList ∧
      flagFindings "q\n.select('a.b', `c$DISPLAY`,\n \"d$EURO' )".toList =
        [⟨.unknownFlag "$EURO" 3, some 3⟩] := by
  have unquoted : Text.Unquoted "q\n".toList := by decide
  have separates : Separates " ".toList := by decide
  let plain : FieldName := .plain "a.b".toList (by decide +kernel)
  let known : FlaggedField := ⟨'c', [], "DISPLAY".toList, rfl, List.forall_mem_nil _,
    List.cons_ne_nil _ _, List.all_eq_true.mp (by decide)⟩
  let unknown : FlaggedField := ⟨'d', [], "EURO".toList, rfl, List.forall_mem_nil _,
    List.cons_ne_nil _ _, List.all_eq_true.mp (by decide)⟩
  let arguments : List FieldArgument :=
    [⟨[], '\x27', plain, '\x27', List.forall_mem_nil _, rfl, rfl⟩,
      ⟨", ".toList, '\x60', .flagged known, '\x60', by decide +kernel, rfl, rfl⟩,
      ⟨",\n ".toList, '\x22', .flagged unknown, '\x27', by decide +kernel, rfl, rfl⟩]
  have split : "q\n.select('a.b', `c$DISPLAY`,\n \"d$EURO' )".toList =
      "q\n".toList ++ ".select(".toList ++
        (arguments.flatMap FieldArgument.text ++ (" ".toList ++ [')'])) := by decide +kernel
  refine ⟨unquoted, separates, ?_⟩
  rw [split, flagFindings_select unquoted arguments separates]
  decide +kernel

end ScriptGate.Lint
