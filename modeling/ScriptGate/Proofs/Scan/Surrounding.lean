import ScriptGate.Proofs.Scan.Call
import ScriptGate.Proofs.Scan.Occurrence

/-! # White space around a text

A scan that finds nothing at white space, and the same thing whether or not white space follows the
text, finds in a text with white space around it what it finds in the text, only later
(`occurrences_surrounded`). The readers of names, marks and calls do not notice white space after
the text (`afterName?_append_blanks`, `afterMark?_append_blanks`, `afterCall?_append_blanks`). -/

namespace ScriptGate.Scan

variable {α : Type} {scan : List Char → Option (α × List Char)} {test : List Char → Bool}
  {before text after blanks rest name : List Char} {same : Char → Char → Bool} {mark : Char}

/-! ### Scans and tests -/

/-- A scan that white space around a text does not affect. -/
structure PassesBlanks (scan : List Char → Option (α × List Char)) : Prop where
  consumes : Consumes scan
  nothing : ∀ {char text}, Text.isBlank char = true → scan (char :: text) = none
  ignores : ∀ {blanks}, (∀ char ∈ blanks, Text.isBlank char = true) → ∀ text,
    scan (text ++ blanks) = (scan text).map fun (value, rest) => (value, rest ++ blanks)

/-- Nothing is found at a place in white space. -/
theorem PassesBlanks.eq_none_of_suffix (passes : PassesBlanks scan)
    (blank : ∀ char ∈ blanks, Text.isBlank char = true) (visible : text ≠ [])
    (ends : text <:+ blanks) : scan (text ++ rest) = none := by
  obtain ⟨char, text, rfl⟩ := List.exists_cons_of_ne_nil visible
  exact passes.nothing (blank char (ends.subset List.mem_cons_self))

theorem PassesBlanks.occurrencesFrom_blanks (passes : PassesBlanks scan) {offset : Nat}
    (blank : ∀ char ∈ blanks, Text.isBlank char = true) (rest : List Char) :
    occurrencesFrom scan offset 0 (blanks ++ rest) =
      occurrencesFrom scan (offset + blanks.length) 0 rest :=
  occurrencesFrom_skip fun _ visible ends => passes.eq_none_of_suffix blank visible ends

/-- **White space around a text only moves what occurs in it.** -/
theorem occurrences_surrounded (passes : PassesBlanks scan)
    (blankBefore : ∀ char ∈ before, Text.isBlank char = true)
    (blankAfter : ∀ char ∈ after, Text.isBlank char = true) (text : List Char) :
    occurrences scan (before ++ (text ++ after)) =
      (occurrences scan text).map (·.shift before.length) := by
  have silent (offset : Nat) : occurrencesFrom scan offset 0 after = [] := by
    rw [← List.append_nil after, passes.occurrencesFrom_blanks blankAfter, occurrencesFrom]
  rw [occurrences, passes.occurrencesFrom_blanks blankBefore, Nat.zero_add,
    ← Nat.add_zero before.length, occurrencesFrom_add,
    occurrencesFrom_append passes.consumes (Nat.zero_le _) fun place _ _ =>
      passes.ignores blankAfter place, silent, List.append_nil]
  rfl

/-- **White space around a text does not matter for what holds somewhere in it.** -/
theorem holdsSomewhere_surrounded
    (noneAtBlank : ∀ {char text}, Text.isBlank char = true → test (char :: text) = false)
    (ignores : ∀ text, test (text ++ after) = test text)
    (blankBefore : ∀ char ∈ before, Text.isBlank char = true)
    (blankAfter : ∀ char ∈ after, Text.isBlank char = true) (text : List Char) :
    holdsSomewhere test (before ++ (text ++ after)) = holdsSomewhere test text := by
  have skips {blanks : List Char} (blank : ∀ char ∈ blanks, Text.isBlank char = true)
      (rest : List Char) : holdsSomewhere test (blanks ++ rest) = holdsSomewhere test rest := by
    induction blanks with
    | nil => rfl
    | cons char blanks ih =>
        obtain ⟨first, blank⟩ := List.forall_mem_cons.mp blank
        rw [List.cons_append, holdsSomewhere, noneAtBlank first, Bool.false_or, ih blank]
  rw [skips blankBefore]
  induction text with
  | nil =>
      have nothing := skips blankAfter []
      rw [List.append_nil] at nothing
      rw [List.nil_append, nothing]
  | cons char text ih =>
      rw [List.cons_append, holdsSomewhere, holdsSomewhere, ih, ← ignores (char :: text),
        List.cons_append]

/-! ### Readers -/

/-- What ends with a visible character ends before white space that follows. -/
theorem exists_rest_of_append_blanks {start left : List Char} {last : Char}
    (blank : ∀ char ∈ blanks, Text.isBlank char = true) (visible : Text.isBlank last = false)
    (split : text ++ blanks = start ++ last :: left) :
    ∃ rest, text = start ++ last :: rest ∧ left = rest ++ blanks := by
  rcases List.append_eq_append_iff.mp split with ⟨beyond, rfl, fromLast⟩ | ⟨rest, rfl, fromLast⟩
  · have inBlanks : last ∈ blanks := by
      rw [fromLast]
      exact List.mem_append_right beyond List.mem_cons_self
    rw [blank last inBlanks] at visible
    cases visible
  · cases rest with
    | nil =>
        have inBlanks : last ∈ blanks := by
          rw [← List.nil_append blanks, ← fromLast]
          exact List.mem_cons_self
        rw [blank last inBlanks] at visible
        cases visible
    | cons char rest =>
        obtain ⟨rfl, rfl⟩ := List.cons_eq_cons.mp fromLast
        exact ⟨rest, rfl, rfl⟩

section Readers

variable (blank : ∀ char ∈ blanks, Text.isBlank char = true)

include blank in
theorem trimStart_append_blanks (text : List Char) :
    Text.trimStart (text ++ blanks) =
      if (Text.trimStart text).isEmpty then [] else Text.trimStart text ++ blanks := by
  have nothing : blanks.dropWhile Text.isBlank = [] := List.dropWhile_eq_nil_iff.mpr blank
  rw [Text.trimStart, List.dropWhile_append, nothing, Text.trimStart]

include blank in
/-- White space after a text completes no name. -/
theorem afterName?_append_blanks
    (visible : ∀ expected ∈ name, ∀ char, Text.isBlank char = true → same expected char = false)
    (text : List Char) :
    afterName? same name (text ++ blanks) = (afterName? same name text).map (· ++ blanks) := by
  induction name generalizing text with
  | nil => rfl
  | cons expected name ih =>
      obtain ⟨visibleFirst, visible⟩ := List.forall_mem_cons.mp visible
      cases text with
      | nil =>
          cases blanks with
          | nil => rfl
          | cons char blanks =>
              have unlike := visibleFirst char (blank char List.mem_cons_self)
              simp only [List.nil_append, afterName?, unlike, Bool.false_eq_true, ↓reduceIte,
                Option.map_none]
      | cons char text =>
          rw [List.cons_append, afterName?, afterName?]
          split
          · exact ih visible text
          · rfl

/-- No name starts with white space. -/
theorem afterName?_eq_none_of_isBlank {char : Char} (notEmpty : name ≠ [])
    (visible : ∀ expected ∈ name, ∀ char, Text.isBlank char = true → same expected char = false)
    (blank : Text.isBlank char = true) (text : List Char) :
    afterName? same name (char :: text) = none := by
  obtain ⟨expected, name, rfl⟩ := List.exists_cons_of_ne_nil notEmpty
  have unlike := visible expected List.mem_cons_self char blank
  simp only [afterName?, unlike, Bool.false_eq_true, ↓reduceIte]

include blank in
theorem afterMark?_append_blanks (text : List Char) :
    afterMark? mark (text ++ blanks) = (afterMark? mark text).map (· ++ blanks) := by
  rw [afterMark?, afterMark?, trimStart_append_blanks blank]
  cases Text.trimStart text with
  | nil => rfl
  | cons char rest =>
      simp only [List.isEmpty_cons, Bool.false_eq_true, ↓reduceIte, List.cons_append]
      split <;> rfl

theorem afterCall?_eq_none_of_no_stop {char : Char} {text : List Char} (plain : char ≠ '.') :
    afterCall? same name (char :: text) = none := by
  unfold afterCall?
  split
  · next split =>
      cases split
      exact absurd rfl plain
  · rfl

theorem ne_stop_of_isBlank {char : Char} (blank : Text.isBlank char = true) : char ≠ '.' := by
  rintro rfl
  exact absurd blank (by decide)

include blank in
/-- White space after a text completes nothing that begins with a full stop, when the reader that
looks for it does not notice white space after a text with a full stop at its start. -/
theorem append_blanks_of_stop {β : Type} {read : List Char → Option β} {extend : β → β}
    (empty : read [] = none)
    (nothing : ∀ {char text}, char ≠ '.' → read (char :: text) = none)
    (atStop : ∀ text, read ('.' :: (text ++ blanks)) = (read ('.' :: text)).map extend)
    (text : List Char) : read (text ++ blanks) = (read text).map extend := by
  cases text with
  | nil =>
      rw [List.nil_append, empty, Option.map_none]
      cases blanks with
      | nil => exact empty
      | cons char blanks => exact nothing (ne_stop_of_isBlank (blank char List.mem_cons_self))
  | cons char text =>
      by_cases isStop : char = '.'
      · rw [isStop, List.cons_append, atStop]
      · rw [List.cons_append, nothing isStop, nothing isStop, Option.map_none]

include blank in
/-- White space after a text completes no call. -/
theorem afterCall?_append_blanks
    (visible : ∀ expected ∈ name, ∀ char, Text.isBlank char = true → same expected char = false)
    (text : List Char) :
    afterCall? same name (text ++ blanks) = (afterCall? same name text).map (· ++ blanks) := by
  refine append_blanks_of_stop blank rfl afterCall?_eq_none_of_no_stop (fun text => ?_) text
  rw [afterCall?, afterCall?, afterName?_append_blanks blank visible]
  simp only [Option.bind_map, Option.map_bind, Function.comp_def, afterMark?_append_blanks blank]

end Readers

theorem suffix_of_afterMark? (found : afterMark? mark text = some rest) : rest <:+ text := by
  rw [afterMark?] at found
  split at found
  · cases found
  · next split =>
      have within : Text.trimStart text <:+ text := List.dropWhile_suffix _
      rw [split] at within
      split at found
      · cases found
        exact (List.suffix_cons _ rest).trans within
      · cases found

end ScriptGate.Scan
