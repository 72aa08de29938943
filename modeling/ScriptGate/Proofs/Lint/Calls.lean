import ScriptGate.Lint.Check
import ScriptGate.Proofs.Scan.Call
import ScriptGate.Proofs.Scan.Occurrence
import ScriptGate.Proofs.Text.Classes
import ScriptGate.Proofs.Text.Parts

/-! # Calls of named methods

The names that the checks look for are words, so white space and parentheses end them. Then a text
starts with a call of at most one of the names, although some are the start of others: the scan for
calls finds that name and ends after the opening parenthesis (`scanCallAmong_eq_some_iff`). Another
full stop, a quote, a semicolon or a closing parenthesis is not part of a call, so no call reaches
over one of them (`scanCallAmong_append`). -/

namespace ScriptGate.Lint

variable {text rest : List Char} {name other : String} {names : List String}

/-- A name of word characters. -/
def IsWordName (name : String) : Prop := name.toList.all Text.isWord = true

instance (name : String) : Decidable (IsWordName name) := inferInstanceAs (Decidable (_ = _))

theorem IsWordName.isWord (isWordName : IsWordName name) :
    ∀ char ∈ name.toList, Text.isWord char = true :=
  List.all_eq_true.mp isWordName

/-- The name is the longest start of a call's text, after the full stop, that is a word. -/
theorem IsWordName.takeWhile_isWord (isWordName : IsWordName name) {gap : List Char}
    (blank : ∀ char ∈ gap, Text.isBlank char = true) (rest : List Char) :
    (name.toList ++ (gap ++ '(' :: rest)).takeWhile Text.isWord = name.toList := by
  rw [List.takeWhile_append_of_pos isWordName.isWord]
  cases gap with
  | nil => rw [List.nil_append, List.takeWhile_cons_of_neg (by decide), List.append_nil]
  | cons char gap =>
      have notWord : ¬ Text.isWord char = true := by
        rw [Text.isWord_eq_false_of_isBlank (blank char List.mem_cons_self)]
        exact Bool.false_ne_true
      rw [List.cons_append, List.takeWhile_cons_of_neg notWord, List.append_nil]

/-- A text starts with a call of one method only. -/
theorem afterExactCall?_unique {otherRest : List Char} (isName : IsWordName name)
    (isOther : IsWordName other) (found : Scan.afterExactCall? name text = some rest)
    (otherFound : Scan.afterExactCall? other text = some otherRest) :
    name = other ∧ rest = otherRest := by
  obtain ⟨gap, blank, rfl⟩ := Scan.afterExactCall?_eq_some_iff.mp found
  obtain ⟨otherGap, otherBlank, same⟩ := Scan.afterExactCall?_eq_some_iff.mp otherFound
  have same := List.tail_eq_of_cons_eq same
  have sameName : name = other := by
    have starts := congrArg (List.takeWhile Text.isWord) same
    rw [isName.takeWhile_isWord blank, isOther.takeWhile_isWord otherBlank] at starts
    exact String.toList_inj.mp starts
  subst sameName
  have noParen {gap : List Char} (blank : ∀ char ∈ gap, Text.isBlank char = true) : '(' ∉ gap :=
    fun member => absurd (blank _ member) (by decide)
  obtain ⟨_, _, sameRest⟩ :=
    Text.split_unique (noParen blank) (noParen otherBlank) (List.append_cancel_left same)
  exact ⟨rfl, sameRest⟩

/-- **The scan for calls finds the name that is called**, whatever the order of the names. -/
theorem scanCallAmong_eq_some_iff (words : ∀ name ∈ names, IsWordName name) :
    scanCallAmong names text = some (name, rest) ↔
      name ∈ names ∧ ∃ gap, (∀ char ∈ gap, Text.isBlank char = true) ∧
        text = '.' :: (name.toList ++ (gap ++ '(' :: rest)) := by
  rw [← Scan.afterExactCall?_eq_some_iff]
  constructor
  · intro found
    obtain ⟨called, member, call⟩ := List.exists_of_findSome?_eq_some found
    obtain ⟨rest, after, same⟩ := Option.map_eq_some_iff.mp call
    cases same
    exact ⟨member, after⟩
  · rintro ⟨member, after⟩
    have isSome : (scanCallAmong names text).isSome = true := by
      rw [scanCallAmong, List.findSome?_isSome_iff]
      exact ⟨name, member, by rw [scanCall, after]; rfl⟩
    obtain ⟨found, first⟩ := Option.isSome_iff_exists.mp isSome
    obtain ⟨called, memberCalled, call⟩ := List.exists_of_findSome?_eq_some first
    obtain ⟨calledRest, calledAfter, rfl⟩ := Option.map_eq_some_iff.mp call
    obtain ⟨rfl, rfl⟩ :=
      afterExactCall?_unique (words name member) (words called memberCalled) after calledAfter
    exact first

/-! ### What stands in a call -/

/-- A character that no call has after its full stop. -/
def BreaksCalls (mark : Char) : Prop :=
  Text.isWord mark = false ∧ Text.isBlank mark = false ∧ mark ≠ '('

instance (mark : Char) : Decidable (BreaksCalls mark) := inferInstanceAs (Decidable (_ ∧ _))

variable {call : List Char} {mark : Char}

theorem exists_tail_of_isCall (isName : IsWordName name)
    (isCall : Scan.IsCall (· == ·) name.toList call) :
    ∃ tail, call = '.' :: tail ∧ '(' ∈ tail ∧ ∀ mark, BreaksCalls mark → mark ∉ tail := by
  obtain ⟨gap, blank, rfl⟩ := Scan.isCall_beq_iff.mp isCall
  refine ⟨_, rfl, ?_, ?_⟩
  · rw [← List.append_assoc]
    exact List.mem_append_right _ List.mem_cons_self
  · rintro mark ⟨notWord, notBlank, notParen⟩ member
    rcases List.mem_append.mp member with inName | member
    · rw [isName.isWord mark inName] at notWord
      cases notWord
    rcases List.mem_append.mp member with inGap | isParen
    · rw [blank mark inGap] at notBlank
      cases notBlank
    · exact notParen (List.mem_singleton.mp isParen)

variable (words : ∀ name ∈ names, IsWordName name)

include words in
theorem scanCallAmong_eq_some_iff_isCall :
    scanCallAmong names text = some (name, rest) ↔
      name ∈ names ∧ ∃ call, Scan.IsCall (· == ·) name.toList call ∧ text = call ++ rest := by
  rw [scanCallAmong_eq_some_iff words]
  refine and_congr_right fun _ => ?_
  rw [← Scan.afterExactCall?_eq_some_iff, Scan.afterExactCall?, Scan.afterCall?_eq_some_iff]

include words in
theorem consumes_scanCallAmong : Scan.Consumes (scanCallAmong names) := by
  intro text name rest found
  obtain ⟨member, call, isCall, split⟩ := (scanCallAmong_eq_some_iff_isCall words).mp found
  obtain ⟨tail, rfl, _⟩ := exists_tail_of_isCall (words name member) isCall
  exact ⟨_, List.cons_ne_nil _ _, split⟩

include words in
/-- What follows a character that breaks calls does not matter for a call before it. -/
theorem scanCallAmong_append (breaks : BreaksCalls mark) (visible : text ≠ []) :
    scanCallAmong names (text ++ mark :: rest) =
      (scanCallAmong names text).map fun (name, left) => (name, left ++ mark :: rest) := by
  apply Option.ext
  rintro ⟨name, left⟩
  rw [scanCallAmong_eq_some_iff_isCall words, Option.map_eq_some_iff]
  constructor
  · rintro ⟨member, call, isCall, split⟩
    rcases List.append_eq_append_iff.mp split with ⟨beyond, rfl, fromMark⟩ | ⟨left, rfl, rfl⟩
    · cases beyond with
      | nil =>
          rw [List.append_nil] at isCall
          exact ⟨(name, []), (scanCallAmong_eq_some_iff_isCall words).mpr
            ⟨member, text, isCall, (List.append_nil text).symm⟩, congrArg (name, ·) fromMark⟩
      | cons char beyond =>
          -- The call would have the mark after its full stop.
          cases (List.cons_eq_cons.mp fromMark).1
          obtain ⟨first, text, rfl⟩ := List.exists_cons_of_ne_nil visible
          obtain ⟨tail, same, _, absent⟩ := exists_tail_of_isCall (words name member) isCall
          rw [List.cons_append] at same
          obtain ⟨_, rfl⟩ := List.cons.inj same
          exact absurd (List.mem_append_right text List.mem_cons_self) (absent mark breaks)
    · exact ⟨(name, left),
        (scanCallAmong_eq_some_iff_isCall words).mpr ⟨member, call, isCall, rfl⟩, rfl⟩
  · rintro ⟨⟨called, left⟩, found, same⟩
    cases same
    obtain ⟨member, call, isCall, rfl⟩ := (scanCallAmong_eq_some_iff_isCall words).mp found
    exact ⟨member, call, isCall, List.append_assoc _ _ _⟩

include words in
theorem scanCallAmong_eq_none_of_no_paren (opensNothing : '(' ∉ text) :
    scanCallAmong names text = none := by
  rw [Option.eq_none_iff_forall_ne_some]
  rintro ⟨name, rest⟩ found
  obtain ⟨member, call, isCall, rfl⟩ := (scanCallAmong_eq_some_iff_isCall words).mp found
  obtain ⟨tail, rfl, inTail, _⟩ := exists_tail_of_isCall (words name member) isCall
  exact opensNothing (List.mem_append_left rest (List.mem_cons_of_mem _ inTail))

include words in
theorem scanCallAmong_eq_none_of_no_stop {char : Char} (plain : char ≠ '.') :
    scanCallAmong names (char :: text) = none := by
  rw [Option.eq_none_iff_forall_ne_some]
  rintro ⟨name, rest⟩ found
  obtain ⟨_, gap, _, split⟩ := (scanCallAmong_eq_some_iff words).mp found
  exact plain (List.cons_eq_cons.mp split).1

include words in
/-- No call starts in arguments: the closing parenthesis comes before any opening one. -/
theorem scanCallAmong_eq_none_of_arguments (opensNothing : '(' ∉ text) :
    scanCallAmong names (text ++ ')' :: rest) = none := by
  cases text with
  | nil => exact scanCallAmong_eq_none_of_no_stop words (by decide)
  | cons char text =>
      rw [scanCallAmong_append words (by decide) (List.cons_ne_nil _ _),
        scanCallAmong_eq_none_of_no_paren words opensNothing, Option.map_none]

/-! ### Texts in which nothing is found -/

/-- A scan that finds something only where one of the named methods is called. -/
def NeedsCall {α : Type} (names : List String) (scan : List Char → Option (α × List Char)) : Prop :=
  ∀ {text}, scanCallAmong names text = none → scan text = none

section Skipping

variable {α : Type} {scan : List Char → Option (α × List Char)} {offset : Nat}

include words in
theorem occurrencesFrom_of_no_stop (needs : NeedsCall names scan) (plain : '.' ∉ text) :
    Scan.occurrencesFrom scan offset 0 (text ++ rest) =
      Scan.occurrencesFrom scan (offset + text.length) 0 rest := by
  refine Scan.occurrencesFrom_skip fun place visible ends => needs ?_
  obtain ⟨char, place, rfl⟩ := List.exists_cons_of_ne_nil visible
  refine scanCallAmong_eq_none_of_no_stop words ?_
  rintro rfl
  exact plain (ends.subset List.mem_cons_self)

include words in
theorem occurrencesFrom_of_arguments (needs : NeedsCall names scan) (opensNothing : '(' ∉ text) :
    Scan.occurrencesFrom scan offset 0 (text ++ [')'] ++ rest) =
      Scan.occurrencesFrom scan (offset + (text ++ [')']).length) 0 rest := by
  refine Scan.occurrencesFrom_skip fun place visible ends => needs ?_
  obtain rfl | ⟨inside, rfl, inArguments⟩ := List.suffix_concat_iff.mp ends
  · exact absurd rfl visible
  rw [List.append_assoc, List.singleton_append]
  exact scanCallAmong_eq_none_of_arguments words fun member =>
    opensNothing (inArguments.subset member)

end Skipping

theorem isWordName_of_mem_terminalOperations : ∀ name ∈ terminalOperations, IsWordName name := by
  decide

end ScriptGate.Lint
