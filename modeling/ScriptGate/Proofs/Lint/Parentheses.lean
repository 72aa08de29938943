import Mathlib.Data.List.ProdSigma
import ScriptGate.Lint.Check
import ScriptGate.Proofs.Expression.Keywords
import ScriptGate.Proofs.Scan.Site

/-! # Methods without parentheses

A method is named without a call where the longest run of name characters after a full stop is the
method and no parenthesis is opened behind it. The check for missing parentheses counts letters and
digits of ASCII and the underscore as name characters, and reports every such place once. The
dollar sign, and letters and digits beyond ASCII, are characters of identifiers as well: a longer
identifier that goes on with one of them after a method is reported, and nothing else is
(`parenthesesFindings_eq_iff`). -/

namespace ScriptGate.Lint

open Expression (isNameChar isNameChar_of_isWord)

/-- A method is named and not called at the start of a text, for some notion of the characters of
names. -/
def NamesUncalled (isName : Char → Bool) (method : String) (text : List Char) : Prop :=
  text.head? = some '.' ∧ text.tail.takeWhile isName = method.toList ∧
    (Text.trimStart (text.tail.dropWhile isName)).head? ≠ some '('

instance (isName : Char → Bool) (method : String) (text : List Char) :
    Decidable (NamesUncalled isName method text) :=
  inferInstanceAs (Decidable (_ ∧ _))

/-- The methods that a script names without a call, with the offsets of the full stops before them,
method after method. -/
def uncalledSites (isName : Char → Bool) (script : List Char) : List (String × Nat) :=
  (validMethods ×ˢ List.range script.length).filter fun site =>
    NamesUncalled isName site.1 (script.drop site.2)

/-- The finding about a method that is named at an offset without a call. -/
def uncalledFinding (script : List Char) (site : String × Nat) : Finding :=
  findingAt script site.2 (.missingParentheses site.1 (Text.lineAt script site.2))

/-- A text starts with a full stop and an identifier that goes on after a method with a character
that is no word character of ASCII. -/
def GoesOn (method : String) (text : List Char) : Prop :=
  ∃ char rest, text = '.' :: (method.toList ++ char :: rest) ∧ isNameChar char = true ∧
    Text.isAsciiWord char = false

variable {isName : Char → Bool} {method : String} {text rest name script : List Char}

/-! ### Names and what follows them -/

theorem namesUncalled_iff (inside : ∀ char ∈ method.toList, isName char = true) :
    NamesUncalled isName method text ↔
      ∃ rest, text = '.' :: (method.toList ++ rest) ∧ (∀ char ∈ rest.head?, isName char = false) ∧
        (Text.trimStart rest).head? ≠ some '(' := by
  constructor
  · rintro ⟨stop, run, noCall⟩
    obtain ⟨split, ends⟩ := (Text.takeWhile_eq_and_dropWhile_eq_iff inside).mp ⟨run, rfl⟩
    refine ⟨_, ?_, ends, noCall⟩
    rw [← split]
    exact List.eq_cons_of_mem_head? stop
  · rintro ⟨rest, rfl, ends, noCall⟩
    obtain ⟨run, after⟩ := (Text.takeWhile_eq_and_dropWhile_eq_iff inside).mpr ⟨rfl, ends⟩
    refine ⟨rfl, run, ?_⟩
    rw [List.tail_cons, after]
    exact noCall

theorem isNameChar_of_isAsciiWord {char : Char} (word : Text.isAsciiWord char = true) :
    isNameChar char = true :=
  isNameChar_of_isWord (Text.isWord_of_isAsciiWord word)

theorem isAsciiWord_of_mem_validMethods :
    ∀ method ∈ validMethods, ∀ char ∈ method.toList, Text.isAsciiWord char = true := by
  have words : ∀ method ∈ validMethods, method.toList.all Text.isAsciiWord = true := by decide
  exact fun method isMethod => List.all_eq_true.mp (words method isMethod)

/-- The two notions of name characters differ at identifiers that go on after the method. -/
theorem namesUncalled_isAsciiWord_iff (isMethod : method ∈ validMethods) :
    NamesUncalled Text.isAsciiWord method text ↔
      NamesUncalled isNameChar method text ∨ GoesOn method text := by
  have word := isAsciiWord_of_mem_validMethods method isMethod
  rw [namesUncalled_iff word,
    namesUncalled_iff fun char inMethod => isNameChar_of_isAsciiWord (word char inMethod)]
  constructor
  · rintro ⟨rest, rfl, ends, noCall⟩
    by_cases goesOn : ∃ char ∈ rest.head?, isNameChar char = true
    · obtain ⟨char, first, isName⟩ := goesOn
      rw [List.eq_cons_of_mem_head? first]
      exact .inr ⟨char, rest.tail, rfl, isName, ends char first⟩
    · refine .inl ⟨rest, rfl, fun char first => ?_, noCall⟩
      rw [Bool.eq_false_iff]
      exact fun isName => goesOn ⟨char, first, isName⟩
  · rintro (⟨rest, rfl, ends, noCall⟩ | ⟨char, rest, rfl, isName, notAscii⟩)
    · refine ⟨rest, rfl, fun char first => ?_, noCall⟩
      have notName := ends char first
      rw [Bool.eq_false_iff] at notName ⊢
      exact fun ascii => notName (isNameChar_of_isAsciiWord ascii)
    · -- A character of names is neither white space nor a parenthesis.
      have visible : ¬ Text.isBlank char = true := by
        intro blank
        rw [isNameChar, Text.isWord_eq_false_of_isBlank blank, Bool.false_or,
          decide_eq_true_eq] at isName
        rw [isName] at blank
        exact absurd blank (by decide)
      refine ⟨char :: rest, rfl, fun first isFirst => ?_, ?_⟩
      · obtain rfl := Option.some.inj isFirst
        exact notAscii
      · rw [Text.trimStart, List.dropWhile_cons_of_neg visible, List.head?_cons]
        rintro ⟨rfl⟩
        exact absurd isName (by decide)

theorem GoesOn.not_namesUncalled (isMethod : method ∈ validMethods) (goesOn : GoesOn method text) :
    ¬ NamesUncalled isNameChar method text := by
  have word := isAsciiWord_of_mem_validMethods method isMethod
  rw [namesUncalled_iff fun char inMethod => isNameChar_of_isAsciiWord (word char inMethod)]
  rintro ⟨rest, split, ends, _⟩
  obtain ⟨char, after, rfl, isName, _⟩ := goesOn
  obtain rfl := List.append_cancel_left (List.cons_eq_cons.mp split).2
  rw [ends char rfl] at isName
  cases isName

/-! ### What the check finds -/

theorem scanUncalled_eq_none_of_no_stop {char : Char} (plain : char ≠ '.') :
    scanUncalled method (char :: text) = none := by
  unfold scanUncalled
  split
  · next split =>
      cases split
      exact absurd rfl plain
  · rfl

/-- **What the scan finds**: a full stop and the method, where no word character of ASCII and no
call follow. -/
theorem scanUncalled_eq_some_iff {found : String} :
    scanUncalled method text = some (found, rest) ↔
      found = method ∧ text = '.' :: (method.toList ++ rest) ∧
        (∀ char ∈ rest.head?, Text.isAsciiWord char = false) ∧
        (Text.trimStart rest).head? ≠ some '(' := by
  have refused_iff (after : List Char) :
      (after.head?.any Text.isAsciiWord || (Scan.afterMark? '(' after).isSome) = false ↔
        (∀ char ∈ after.head?, Text.isAsciiWord char = false) ∧
          (Text.trimStart after).head? ≠ some '(' := by
    rw [Bool.or_eq_false_iff, ← Bool.not_eq_true, ← Bool.not_eq_true, Scan.isSome_afterMark?_iff]
    simp only [Option.any_eq_true, not_exists, not_and, Bool.not_eq_true, Option.mem_def]
  constructor
  · intro scanned
    unfold scanUncalled at scanned
    split at scanned
    case h_2 => cases scanned
    case h_1 text =>
    split at scanned
    case h_2 => cases scanned
    case h_1 after named =>
    split at scanned
    case isTrue => cases scanned
    case isFalse accepted =>
    cases scanned
    rw [Scan.afterName?_beq_eq_some_iff] at named
    exact ⟨rfl, congrArg ('.' :: ·) named, (refused_iff rest).mp (Bool.eq_false_iff.mpr accepted)⟩
  · rintro ⟨rfl, rfl, accepted⟩
    have named := Scan.afterName?_beq_eq_some_iff.mpr (rfl : found.toList ++ rest = _)
    simp only [scanUncalled, named, (refused_iff rest).mpr accepted, Bool.false_eq_true, ↓reduceIte]

theorem isSome_scanUncalled_iff (isMethod : method ∈ validMethods) :
    (scanUncalled method text).isSome = true ↔ NamesUncalled Text.isAsciiWord method text := by
  rw [namesUncalled_iff (isAsciiWord_of_mem_validMethods method isMethod),
    Option.isSome_iff_exists]
  constructor
  · rintro ⟨⟨found, rest⟩, scanned⟩
    exact ⟨rest, (scanUncalled_eq_some_iff.mp scanned).2⟩
  · rintro ⟨rest, named⟩
    exact ⟨(method, rest), scanUncalled_eq_some_iff.mpr ⟨rfl, named⟩⟩

theorem findsAtStop_scanUncalled (isMethod : method ∈ validMethods) :
    Scan.FindsAtStop (scanUncalled method) where
  nothing plain := scanUncalled_eq_none_of_no_stop plain
  found scanned := by
    obtain ⟨_, split, _⟩ := scanUncalled_eq_some_iff.mp scanned
    refine ⟨method.toList, split, fun inMethod => ?_⟩
    exact absurd (isAsciiWord_of_mem_validMethods method isMethod _ inMethod) (by decide)

/-- **The check reports every method that it sees named without a call**, and nothing else. -/
theorem parenthesesFindings_eq (script : List Char) :
    parenthesesFindings script =
      (uncalledSites Text.isAsciiWord script).map (uncalledFinding script) := by
  have product (isName : Char → Bool) : uncalledSites isName script =
      validMethods.flatMap fun method =>
        ((List.range script.length).filter fun offset =>
          NamesUncalled isName method (script.drop offset)).map (method, ·) := by
    simp only [uncalledSites, SProd.sprod, List.product, List.filter_flatMap, List.filter_map,
      Function.comp_def]
  rw [product, List.map_flatMap]
  refine List.flatMap_congr fun method isMethod => ?_
  have starts : (Scan.occurrences (scanUncalled method) script).map Scan.Occurrence.start =
      (List.range script.length).filter fun offset =>
        NamesUncalled Text.isAsciiWord method (script.drop offset) := by
    rw [Scan.map_start_occurrences (findsAtStop_scanUncalled isMethod)]
    refine List.filter_congr fun offset _ => ?_
    rw [Bool.eq_iff_iff, isSome_scanUncalled_iff isMethod, decide_eq_true_eq]
  rw [← starts, List.map_map, List.map_map]
  rfl

/-! ### What is reported besides -/

theorem mem_uncalledSites_iff {offset : Nat} :
    (method, offset) ∈ uncalledSites isName script ↔
      method ∈ validMethods ∧ NamesUncalled isName method (script.drop offset) := by
  rw [uncalledSites, List.mem_filter, decide_eq_true_eq, List.mem_product, List.mem_range,
    and_assoc]
  refine and_congr_right fun _ => and_iff_right_of_imp fun named => ?_
  by_contra beyond
  rw [List.drop_of_length_le (Nat.le_of_not_lt beyond)] at named
  cases named.1

/-- A full stop is followed by one longest run only. -/
theorem nodup_offsets_uncalledSites (isName : Char → Bool) (script : List Char) :
    ((uncalledSites isName script).map Prod.snd).Nodup := by
  have methods : validMethods.Nodup := by decide
  refine List.Nodup.map_on ?_ ((methods.product List.nodup_range).filter _)
  rintro ⟨method, offset⟩ isFirst ⟨other, _⟩ isSecond rfl
  obtain ⟨_, _, run, _⟩ := mem_uncalledSites_iff.mp isFirst
  obtain ⟨_, _, otherRun, _⟩ := mem_uncalledSites_iff.mp isSecond
  rw [String.toList_inj.mp (run.symm.trans otherRun)]

/-- Identifiers end where the run of word characters ends, or go on. -/
theorem uncalledSites_isNameChar (script : List Char) :
    uncalledSites isNameChar script = (uncalledSites Text.isAsciiWord script).filter fun site =>
      NamesUncalled isNameChar site.1 (script.drop site.2) := by
  rw [uncalledSites, uncalledSites, List.filter_filter]
  refine List.filter_congr fun (method, offset) member => ?_
  rw [Bool.eq_iff_iff, Bool.and_eq_true, decide_eq_true_eq, decide_eq_true_eq]
  refine (and_iff_left_of_imp fun named => ?_).symm
  exact (namesUncalled_isAsciiWord_iff (List.mem_product.mp member).1).mpr (.inl named)

/-- **Which warnings about missing parentheses there are.** The check reports every method that is
named without a call in terms of ASCII word characters, each full stop at most once. These are the
methods that are named without a call as whole identifiers, and those at the start of an identifier
that goes on with a dollar sign, or with a letter or digit beyond ASCII. So the warnings are exact
when no identifier in the script goes on in that way. -/
theorem parenthesesFindings_eq_iff (script : List Char) :
    parenthesesFindings script =
      (uncalledSites Text.isAsciiWord script).map (uncalledFinding script) ∧
    ((uncalledSites Text.isAsciiWord script).map Prod.snd).Nodup ∧
    (∀ method offset, (method, offset) ∈ uncalledSites Text.isAsciiWord script ↔
      (method, offset) ∈ uncalledSites isNameChar script ∨
        method ∈ validMethods ∧ GoesOn method (script.drop offset)) ∧
    (parenthesesFindings script = (uncalledSites isNameChar script).map (uncalledFinding script) ↔
      ∀ method ∈ validMethods, ∀ offset, ¬ GoesOn method (script.drop offset)) := by
  have sites (method : String) (offset : Nat) :
      (method, offset) ∈ uncalledSites Text.isAsciiWord script ↔
        (method, offset) ∈ uncalledSites isNameChar script ∨
          method ∈ validMethods ∧ GoesOn method (script.drop offset) := by
    rw [mem_uncalledSites_iff, mem_uncalledSites_iff, ← and_or_left]
    exact and_congr_right namesUncalled_isAsciiWord_iff
  refine ⟨parenthesesFindings_eq script, nodup_offsets_uncalledSites _ script, sites, ?_⟩
  rw [parenthesesFindings_eq]
  constructor
  · intro same method isMethod offset goesOn
    -- As many methods are named without a call in either sense, so none is left out.
    have lengths := congrArg List.length same
    rw [List.length_map, List.length_map, uncalledSites_isNameChar, eq_comm,
      List.length_filter_eq_length_iff] at lengths
    have named := lengths _ ((sites method offset).mpr (.inr ⟨isMethod, goesOn⟩))
    exact goesOn.not_namesUncalled isMethod (of_decide_eq_true named)
  · intro none
    rw [uncalledSites_isNameChar, List.filter_eq_self.mpr]
    rintro ⟨method, offset⟩ member
    rcases (sites method offset).mp member with named | ⟨isMethod, goesOn⟩
    · exact decide_eq_true (mem_uncalledSites_iff.mp named).2
    · exact absurd goesOn (none method isMethod offset)

/-- The identifier `select$` is taken for the method at its start. -/
theorem dollar_name_is_flagged :
    let script := "record.select$('a')".toList
    uncalledSites isNameChar script = [] ∧
      parenthesesFindings script = [⟨.missingParentheses "select" 1, some 1⟩] := by
  decide +kernel

end ScriptGate.Lint
