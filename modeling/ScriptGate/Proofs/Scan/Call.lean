import Mathlib.Data.List.Forall2
import Mathlib.Data.List.Sublists
import ScriptGate.Proofs.Text.Case
import ScriptGate.Scan.Call

/-! # What counts as a call

A text calls a method when some part of it is a call: a full stop, the name, white space and an
opening parenthesis (`calls_iff`). Which operations are detected depends on the script only through
the methods that it calls, so it stays the same in another ASCII case
(`detectOperations_lowercaseAscii`). Names that differ in lower case do not hide one another
(`detectOperations_eq_filter`). -/

namespace ScriptGate.Scan

/-- A call of a method whose name is compared by an equality of characters. -/
inductive IsCall (same : Char → Char → Bool) (name : List Char) : List Char → Prop where
  | intro {spelled gap : List Char}
      (spells : List.Forall₂ (fun expected char => same expected char = true) name spelled)
      (blank : ∀ char ∈ gap, Text.isBlank char = true) :
      IsCall same name ('.' :: (spelled ++ (gap ++ ['('])))

variable {same : Char → Char → Bool} {name text rest call script : List Char} {mark : Char}

/-! ### The parts of a call -/

theorem afterName?_eq_some_iff :
    afterName? same name text = some rest ↔
      ∃ spelled, text = spelled ++ rest ∧
        List.Forall₂ (fun expected char => same expected char = true) name spelled := by
  induction name generalizing text with
  | nil =>
      constructor
      · rintro ⟨⟩
        exact ⟨[], rfl, .nil⟩
      · rintro ⟨_, rfl, ⟨⟩⟩
        rfl
  | cons expected name ih =>
      cases text with
      | nil =>
          refine iff_of_false nofun ?_
          rintro ⟨spelled, split, spells⟩
          cases spells
          cases split
      | cons char text =>
          rw [afterName?]
          constructor
          · intro found
            split at found
            · next equal =>
                obtain ⟨spelled, rfl, spells⟩ := ih.mp found
                exact ⟨char :: spelled, rfl, .cons equal spells⟩
            · cases found
          · rintro ⟨spelled, split, spells⟩
            cases spells with
            | cons equal spells =>
                cases split
                rw [if_pos equal]
                exact ih.mpr ⟨_, rfl, spells⟩

theorem afterName?_beq_eq_some_iff :
    afterName? (· == ·) name text = some rest ↔ text = name ++ rest := by
  simp only [afterName?_eq_some_iff, beq_iff_eq, List.forall₂_eq_eq_eq]
  constructor
  · rintro ⟨_, rfl, rfl⟩
    rfl
  · rintro rfl
    exact ⟨name, rfl, rfl⟩

theorem afterMark?_eq_some_iff (visible : Text.isBlank mark = false) :
    afterMark? mark text = some rest ↔
      ∃ gap, (∀ char ∈ gap, Text.isBlank char = true) ∧ text = gap ++ mark :: rest := by
  induction text with
  | nil =>
      refine iff_of_false nofun ?_
      rintro ⟨gap, _, split⟩
      exact absurd split.symm (List.append_ne_nil_of_right_ne_nil gap (List.cons_ne_nil _ _))
  | cons char text ih =>
      by_cases blank : Text.isBlank char = true
      · have skipped : afterMark? mark (char :: text) = afterMark? mark text := by
          rw [afterMark?, afterMark?, Text.trimStart, List.dropWhile_cons_of_pos blank,
            Text.trimStart]
        rw [skipped, ih]
        constructor
        · rintro ⟨gap, blanks, rfl⟩
          exact ⟨char :: gap, List.forall_mem_cons.mpr ⟨blank, blanks⟩, rfl⟩
        · rintro ⟨gap, blanks, split⟩
          cases gap with
          | nil =>
              cases split
              rw [visible] at blank
              cases blank
          | cons first gap =>
              cases split
              exact ⟨gap, (List.forall_mem_cons.mp blanks).2, rfl⟩
      · have here : afterMark? mark (char :: text) = if char = mark then some text else none := by
          rw [afterMark?, Text.trimStart, List.dropWhile_cons_of_neg blank]
        rw [here]
        constructor
        · intro found
          split at found
          · next equal =>
              cases found
              exact ⟨[], nofun, equal ▸ rfl⟩
          · cases found
        · rintro ⟨gap, blanks, split⟩
          cases gap with
          | nil =>
              cases split
              exact if_pos rfl
          | cons first gap =>
              cases split
              exact absurd (blanks _ List.mem_cons_self) blank

theorem isSome_afterMark?_iff :
    (afterMark? mark text).isSome = true ↔ (Text.trimStart text).head? = some mark := by
  rw [afterMark?]
  cases Text.trimStart text with
  | nil => exact iff_of_false nofun nofun
  | cons char rest =>
      rw [List.head?_cons, Option.some.injEq]
      by_cases same : char = mark
      · simp only [same, ↓reduceIte, Option.isSome_some]
      · simp only [same, ↓reduceIte, Option.isSome_none, Bool.false_eq_true]

/-- A call is read from the start of a text exactly when the text starts with one. -/
theorem afterCall?_eq_some_iff :
    afterCall? same name text = some rest ↔
      ∃ call, IsCall same name call ∧ text = call ++ rest := by
  constructor
  · intro found
    unfold afterCall? at found
    split at found
    · obtain ⟨middle, named, marked⟩ := Option.bind_eq_some_iff.mp found
      obtain ⟨spelled, rfl, spells⟩ := afterName?_eq_some_iff.mp named
      obtain ⟨gap, blank, rfl⟩ := (afterMark?_eq_some_iff (by decide)).mp marked
      refine ⟨_, .intro spells blank, ?_⟩
      simp only [List.cons_append, List.append_assoc, List.nil_append]
    · cases found
  · rintro ⟨_, ⟨spells, blank⟩, rfl⟩
    rename_i spelled gap
    have named : afterName? same name (spelled ++ (gap ++ '(' :: rest)) =
        some (gap ++ '(' :: rest) := afterName?_eq_some_iff.mpr ⟨spelled, rfl, spells⟩
    have marked : afterMark? '(' (gap ++ '(' :: rest) = some rest :=
      (afterMark?_eq_some_iff (by decide)).mpr ⟨gap, blank, rfl⟩
    simp only [List.cons_append, List.append_assoc, List.nil_append, afterCall?, named, marked,
      Option.bind_some]

theorem isSome_afterCall?_iff :
    (afterCall? same name text).isSome = true ↔ ∃ call, IsCall same name call ∧ call <+: text := by
  rw [Option.isSome_iff_exists]
  constructor
  · rintro ⟨rest, found⟩
    obtain ⟨call, isCall, rfl⟩ := afterCall?_eq_some_iff.mp found
    exact ⟨call, isCall, rest, rfl⟩
  · rintro ⟨call, isCall, rest, rfl⟩
    exact ⟨rest, afterCall?_eq_some_iff.mpr ⟨call, isCall, rfl⟩⟩

theorem isCall_beq_iff :
    IsCall (· == ·) name call ↔
      ∃ gap, (∀ char ∈ gap, Text.isBlank char = true) ∧ call = '.' :: (name ++ (gap ++ ['('])) := by
  constructor
  · rintro ⟨spells, blank⟩
    simp only [beq_iff_eq, List.forall₂_eq_eq_eq] at spells
    exact ⟨_, blank, by rw [spells]⟩
  · rintro ⟨gap, blank, rfl⟩
    exact .intro (List.forall₂_same.mpr fun char _ => beq_self_eq_true char) blank

theorem afterExactCall?_eq_some_iff {name : String} :
    afterExactCall? name text = some rest ↔
      ∃ gap, (∀ char ∈ gap, Text.isBlank char = true) ∧
        text = '.' :: (name.toList ++ (gap ++ '(' :: rest)) := by
  rw [afterExactCall?, afterCall?_eq_some_iff]
  constructor
  · rintro ⟨call, isCall, rfl⟩
    obtain ⟨gap, blank, rfl⟩ := isCall_beq_iff.mp isCall
    refine ⟨gap, blank, ?_⟩
    simp only [List.cons_append, List.append_assoc, List.nil_append]
  · rintro ⟨gap, blank, rfl⟩
    refine ⟨_, isCall_beq_iff.mpr ⟨gap, blank, rfl⟩, ?_⟩
    simp only [List.cons_append, List.append_assoc, List.nil_append]

theorem holdsSomewhere_eq_true_iff {test : List Char → Bool} :
    holdsSomewhere test text = true ↔ ∃ rest, rest <:+ text ∧ test rest = true := by
  induction text with
  | nil => simp only [holdsSomewhere, List.suffix_nil, exists_eq_left]
  | cons char text ih =>
      simp only [holdsSomewhere, Bool.or_eq_true, ih, List.suffix_cons_iff, or_and_right, exists_or,
        exists_eq_left]

theorem holdsSomewhere_afterCall?_iff :
    holdsSomewhere (fun text => (afterCall? same name text).isSome) script = true ↔
      ∃ call, IsCall same name call ∧ call <:+: script := by
  rw [holdsSomewhere_eq_true_iff]
  constructor
  · rintro ⟨rest, ends, found⟩
    obtain ⟨call, isCall, starts⟩ := isSome_afterCall?_iff.mp found
    exact ⟨call, isCall, starts.isInfix.trans ends.isInfix⟩
  · rintro ⟨call, isCall, before, after, rfl⟩
    refine ⟨call ++ after, ⟨before, (List.append_assoc _ _ _).symm⟩, ?_⟩
    exact isSome_afterCall?_iff.mpr ⟨call, isCall, after, rfl⟩

/-- **A text calls a method exactly when some part of it is a call of the method.** -/
theorem calls_iff {name : String} :
    calls script name = true ↔
      ∃ call, IsCall Text.sameLetter name.toList call ∧ call <:+: script :=
  holdsSomewhere_afterCall?_iff

theorem callsExactly_iff {name : String} :
    callsExactly script name = true ↔
      ∃ call, IsCall (· == ·) name.toList call ∧ call <:+: script :=
  holdsSomewhere_afterCall?_iff

/-- What a part of a script calls, the script calls. -/
theorem calls_of_part {part : List Char} {name : String} (within : part <:+: script)
    (found : calls part name = true) : calls script name = true := by
  obtain ⟨call, isCall, inPart⟩ := calls_iff.mp found
  exact calls_iff.mpr ⟨call, isCall, inPart.trans within⟩

/-! ### Calls in another case -/

theorem isCall_lowercaseAscii_iff :
    IsCall Text.sameLetter name (Text.lowercaseAscii call) ↔ IsCall Text.sameLetter name call := by
  constructor
  · intro isCall
    generalize lowered : Text.lowercaseAscii call = text at isCall
    obtain ⟨spells, blank⟩ := isCall
    obtain ⟨dot, afterDot, rfl, isDot, fromName⟩ := List.map_eq_cons_iff.mp lowered
    obtain ⟨spelled, afterName, rfl, rfl, fromGap⟩ := List.map_eq_append_iff.mp fromName
    obtain ⟨gap, ending, rfl, rfl, fromParen⟩ := List.map_eq_append_iff.mp fromGap
    obtain ⟨paren, nothing, rfl, isParen, atEnd⟩ := List.map_eq_cons_iff.mp fromParen
    cases List.map_eq_nil_iff.mp atEnd
    cases (Text.toLower_eq_iff (by decide)).mp isDot
    cases (Text.toLower_eq_iff (by decide)).mp isParen
    refine .intro ?_ ?_
    · simpa only [List.forall₂_map_right_iff, Text.sameLetter_toLower] using spells
    · simpa only [List.forall_mem_map, Text.isBlank_toLower] using blank
  · rintro ⟨spells, blank⟩
    rename_i spelled gap
    have lowered : Text.lowercaseAscii ('.' :: (spelled ++ (gap ++ ['(']))) =
        '.' :: (spelled.map Char.toLower ++ (gap.map Char.toLower ++ ['('])) := by
      simp only [Text.lowercaseAscii, List.map_cons, List.map_append, List.map_nil]
      rfl
    rw [lowered]
    refine .intro ?_ ?_
    · simpa only [List.forall₂_map_right_iff, Text.sameLetter_toLower] using spells
    · simpa only [List.forall_mem_map, Text.isBlank_toLower] using blank

theorem calls_lowercaseAscii (script : List Char) (name : String) :
    calls (Text.lowercaseAscii script) name = calls script name := by
  rw [Bool.eq_iff_iff, calls_iff, calls_iff]
  constructor
  · rintro ⟨call, isCall, before, after, split⟩
    obtain ⟨early, ending, rfl, early', rfl⟩ := List.map_eq_append_iff.mp split.symm
    obtain ⟨start, call, rfl, rfl, rfl⟩ := List.map_eq_append_iff.mp early'
    exact ⟨call, isCall_lowercaseAscii_iff.mp isCall, start, ending, rfl⟩
  · rintro ⟨call, isCall, within⟩
    exact ⟨Text.lowercaseAscii call, isCall_lowercaseAscii_iff.mpr isCall, within.map _⟩

/-! ### Detected operations -/

theorem calledAmong_congr {other : List Char} {reported : List (List Char)} {names : List String}
    (agree : ∀ name ∈ names, calls other name = calls script name) :
    calledAmong other reported names = calledAmong script reported names := by
  induction names generalizing reported with
  | nil => rfl
  | cons name names ih =>
      obtain ⟨agreeOne, agree⟩ := List.forall_mem_cons.mp agree
      simp only [calledAmong, agreeOne, ih agree]

/-- Which operations are detected depends on the calls of the named methods only. -/
theorem detectOperations_congr {other : List Char} {names : List String}
    (agree : ∀ name ∈ names, calls other name = calls script name) :
    detectOperations other names = detectOperations script names :=
  calledAmong_congr agree

theorem detectOperations_lowercaseAscii (script : List Char) (names : List String) :
    detectOperations (Text.lowercaseAscii script) names = detectOperations script names :=
  detectOperations_congr fun name _ => calls_lowercaseAscii script name

theorem calledAmong_eq_filter {reported : List (List Char)} {names : List String}
    (distinct : (names.map fun name => Text.lowercase name.toList).Nodup)
    (fresh : ∀ name ∈ names, Text.lowercase name.toList ∉ reported) :
    calledAmong script reported names = names.filter (calls script) := by
  induction names generalizing reported with
  | nil => rfl
  | cons name names ih =>
      obtain ⟨freshOne, fresh⟩ := List.forall_mem_cons.mp fresh
      rw [List.map_cons, List.nodup_cons] at distinct
      obtain ⟨unlike, distinct⟩ := distinct
      have notReported : reported.contains (Text.lowercase name.toList) = false := by
        simpa only [List.contains_eq_mem, decide_eq_false_iff_not] using freshOne
      simp only [calledAmong, notReported, Bool.not_false, Bool.true_and]
      by_cases called : calls script name = true
      · rw [if_pos called, List.filter_cons_of_pos called, ih distinct]
        intro other member same
        rcases List.mem_cons.mp same with same | already
        · exact unlike (List.mem_map.mpr ⟨other, member, same⟩)
        · exact fresh other member already
      · rw [if_neg called, List.filter_cons_of_neg called, ih distinct fresh]

/-- Every called operation is detected when the names differ in lower case. -/
theorem detectOperations_eq_filter {names : List String}
    (distinct : (names.map fun name => Text.lowercase name.toList).Nodup) :
    detectOperations script names = names.filter (calls script) :=
  calledAmong_eq_filter distinct fun _ _ => List.not_mem_nil

end ScriptGate.Scan
