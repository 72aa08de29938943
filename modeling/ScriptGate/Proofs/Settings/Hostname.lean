import ScriptGate.Proofs.Pattern.Spelling
import ScriptGate.Proofs.Pattern.Whole
import ScriptGate.Settings.InstanceUrl

/-! # Host names

A host name consists of labels with a point between them (`IsHostname`). The check of host names
splits a text at its points (`isHostname_iff`), and it says the same as a pattern that reads the
labels one after the other (`matchesHostname_iff`). -/

namespace ScriptGate.Settings

/-- A label of a host name: up to 63 ASCII letters, digits and hyphens, with no hyphen at either
end. -/
structure IsHostLabel (label : List Char) : Prop where
  nonempty : label ≠ []
  short : label.length ≤ 63
  chars : ∀ char ∈ label, isLabelChar char = true
  start : label.head? ≠ some '-'
  stop : label.getLast? ≠ some '-'

/-- A host name: one or more labels with a point between them. -/
def IsHostname (name : List Char) : Prop :=
  ∃ labels, labels ≠ [] ∧ (∀ label ∈ labels, IsHostLabel label) ∧ name = ['.'].intercalate labels

/-- The pattern for host names as it is written. -/
def hostnameSource : String :=
  "^[a-zA-Z0-9]([a-zA-Z0-9-]\x7b0,61\x7d[a-zA-Z0-9])?" ++
    "(\\.[a-zA-Z0-9]([a-zA-Z0-9-]\x7b0,61\x7d[a-zA-Z0-9])?)*$"

/-- The pattern does not fold case, and its anchors are those of the text. -/
def plainFlags : PatternFlags := ⟨false, false, false⟩

/-- Whether the pattern for host names matches a text. -/
def MatchesHostname (name : List Char) : Prop :=
  ∃ pattern, Pattern.read hostnameSource.toList = .ok pattern ∧
    pattern.occursIn plainFlags name = true

/-! ### Splitting at the points -/

theorem isLabel_iff {label : List Char} : isLabel label = true ↔ IsHostLabel label := by
  simp only [isLabel, Bool.and_eq_true, Bool.not_eq_true', List.isEmpty_eq_false_iff,
    decide_eq_true_eq, List.all_eq_true, bne_iff_ne]
  constructor
  · rintro ⟨⟨⟨⟨nonempty, short⟩, chars⟩, start⟩, stop⟩
    exact ⟨nonempty, short, chars, start, stop⟩
  · rintro ⟨nonempty, short, chars, start, stop⟩
    exact ⟨⟨⟨⟨nonempty, short⟩, chars⟩, start⟩, stop⟩

theorem splitAt_eq_splitOn (separator : Char) (text : List Char) :
    Text.splitAt separator text = text.splitOn separator := by
  induction text with
  | nil => rfl
  | cons char text ih =>
      rw [Text.splitAt, ih, List.splitOn_cons_eq_if_modifyHead]
      cases split : text.splitOn separator with
      | nil => exact absurd split (List.splitOn_ne_nil separator text)
      | cons first others => simp only [beq_iff_eq, List.modifyHead_cons]

theorem IsHostLabel.no_point {label : List Char} (isLabel : IsHostLabel label) : '.' ∉ label := by
  intro point
  have := isLabel.chars '.' point
  revert this
  decide

theorem isHostname_iff {name : List Char} : isHostname name = true ↔ IsHostname name := by
  simp only [isHostname, splitAt_eq_splitOn, List.all_eq_true, isLabel_iff]
  constructor
  · intro labels
    exact ⟨name.splitOn '.', List.splitOn_ne_nil '.' name, labels,
      (List.intercalate_splitOn '.').symm⟩
  · rintro ⟨labels, nonempty, areLabels, rfl⟩
    rw [List.splitOn_intercalate '.' (fun label inLabels => (areLabels label inLabels).no_point)
      nonempty]
    exact areLabels

/-! ### The pattern -/

/-- The letters and digits. -/
def alphanumerics : List SetMember := [.range 'a' 'z', .range 'A' 'Z', .range '0' '9']

def labelEnd : Pattern := .one (.members false alphanumerics)

def labelInner : Pattern := .one (.members false (alphanumerics ++ [.char '-']))

/-- What may follow the first character of a label. -/
def labelRest : Pattern :=
  .rounds (.seq (.rounds labelInner 0 (some 61) .greedy) labelEnd) 0 (some 1) .greedy

/-- A label after a point. -/
def pointedLabel : Pattern := .seq (.seq (.one (.only false '.')) labelEnd) labelRest

def hostnamePattern : Pattern :=
  .whole [labelEnd, labelRest, .rounds pointedLabel 0 none .greedy]

theorem read_hostnameSource : Pattern.read hostnameSource.toList = .ok hostnamePattern := by
  decide +kernel

theorem has_alphanumerics_iff {char : Char} :
    (CharSet.members false alphanumerics).has plainFlags char = true ↔
      isLabelChar char = true ∧ char ≠ '-' := by
  have noHyphen : Text.isAsciiLetter '-' = false ∧ Text.isAsciiDigit '-' = false := by decide
  by_cases hyphen : char = '-'
  · cases hyphen
    decide
  · simp [CharSet.has, alphanumerics, SetMember.has, plainFlags, isLabelChar, Text.isAsciiLetter,
      Text.isAsciiDigit, or_assoc, hyphen]

theorem has_labelInner {char : Char} :
    (CharSet.members false (alphanumerics ++ [.char '-'])).has plainFlags char =
      isLabelChar char := by
  by_cases hyphen : char = '-'
  · cases hyphen
    decide
  · simp [CharSet.has, alphanumerics, SetMember.has, plainFlags, isLabelChar, Text.isAsciiLetter,
      Text.isAsciiDigit, Bool.or_assoc, hyphen, Ne.symm hyphen]

/-- After its first character a label ends, or goes on with at most 61 characters and one that is no
hyphen. -/
theorem mem_language_labelRest {text : List Char} :
    text ∈ labelRest.language plainFlags ↔
      text = [] ∨ ∃ middle last, text = middle ++ [last] ∧ middle.length ≤ 61 ∧
        (∀ char ∈ middle, isLabelChar char = true) ∧ isLabelChar last = true ∧ last ≠ '-' := by
  rw [labelRest, Pattern.mem_language_optional, Pattern.language, Language.mem_mul]
  refine or_congr_right ?_
  constructor
  · rintro ⟨middle, isMiddle, _, ⟨last, isLast, rfl⟩, rfl⟩
    obtain ⟨short, chars⟩ := Pattern.mem_language_atMost.mp isMiddle
    refine ⟨middle, last, rfl, short, ?_, has_alphanumerics_iff.mp isLast⟩
    exact fun char inMiddle => has_labelInner.symm.trans (chars char inMiddle)
  · rintro ⟨middle, last, rfl, short, chars, isLast⟩
    refine ⟨middle, Pattern.mem_language_atMost.mpr ⟨short, ?_⟩, [last],
      ⟨last, has_alphanumerics_iff.mpr isLast, rfl⟩, rfl⟩
    exact fun char inMiddle => has_labelInner.trans (chars char inMiddle)

theorem mem_language_label {text : List Char} :
    text ∈ labelEnd.language plainFlags * labelRest.language plainFlags ↔ IsHostLabel text := by
  rw [Language.mem_mul]
  constructor
  · rintro ⟨_, ⟨first, isFirst, rfl⟩, rest, isRest, rfl⟩
    obtain ⟨isChar, noHyphen⟩ := has_alphanumerics_iff.mp isFirst
    have start : ([first] ++ rest).head? ≠ some '-' := fun same => noHyphen (Option.some.inj same)
    rcases mem_language_labelRest.mp isRest with rfl | ⟨middle, last, rfl, short, chars, isLast⟩
    · exact ⟨List.cons_ne_nil _ _, Nat.succ_le_succ (Nat.zero_le 62),
        List.forall_mem_singleton.mpr isChar, start, start⟩
    · refine ⟨List.cons_ne_nil _ _, ?_, ?_, start, ?_⟩
      · simp only [List.length_append, List.length_singleton]
        omega
      · intro char inLabel
        simp only [List.mem_append, List.mem_singleton] at inLabel
        rcases inLabel with rfl | inMiddle | rfl
        · exact isChar
        · exact chars char inMiddle
        · exact isLast.1
      · rw [← List.append_assoc, List.getLast?_concat]
        exact fun same => isLast.2 (Option.some.inj same)
  · intro isLabel
    cases text with
    | nil => exact absurd rfl isLabel.nonempty
    | cons first rest =>
        obtain ⟨isFirst, isRest⟩ := List.forall_mem_cons.mp isLabel.chars
        have noHyphen : first ≠ '-' := fun same => isLabel.start (congrArg some same)
        refine ⟨[first], ⟨first, has_alphanumerics_iff.mpr ⟨isFirst, noHyphen⟩, rfl⟩, rest,
          mem_language_labelRest.mpr ?_, rfl⟩
        rcases List.eq_nil_or_concat' rest with rfl | ⟨middle, last, rfl⟩
        · exact .inl rfl
        · obtain ⟨chars, isLast⟩ := List.forall_mem_append.mp isRest
          have stop := isLabel.stop
          rw [← List.cons_append, List.getLast?_concat] at stop
          have length := isLabel.short
          simp only [List.length_cons, List.length_append, List.length_nil] at length
          exact .inr ⟨middle, last, rfl, by omega, chars,
            isLast last (List.mem_singleton_self last), fun same => stop (congrArg some same)⟩

/-- Labels with a point between them are the first one and the others with a point before each. -/
theorem intercalate_cons (separator : Char) (first : List Char) (others : List (List Char)) :
    [separator].intercalate (first :: others) = first ++ (others.map (separator :: ·)).flatten := by
  induction others generalizing first with
  | nil => rw [List.intercalate_singleton, List.map_nil, List.flatten_nil, List.append_nil]
  | cons second others ih =>
      rw [List.intercalate_cons_cons, ih, List.map_cons, List.flatten_cons, List.append_assoc]
      rfl

theorem mem_language_pointedLabel {text : List Char} :
    text ∈ pointedLabel.language plainFlags ↔ ∃ label, IsHostLabel label ∧ text = '.' :: label := by
  have has (char : Char) : (CharSet.only false '.').has plainFlags char = true ↔ '.' = char := by
    simp [CharSet.has, plainFlags]
  rw [pointedLabel, Pattern.language, Pattern.language, mul_assoc, Language.mem_mul]
  constructor
  · rintro ⟨_, ⟨char, isPoint, rfl⟩, label, isLabel, rfl⟩
    cases (has char).mp isPoint
    exact ⟨label, mem_language_label.mp isLabel, rfl⟩
  · rintro ⟨label, isLabel, rfl⟩
    exact ⟨['.'], ⟨'.', (has '.').mpr rfl, rfl⟩, label, mem_language_label.mpr isLabel, rfl⟩

theorem mem_language_pointedLabels {text : List Char} :
    text ∈ (Pattern.rounds pointedLabel 0 none .greedy).language plainFlags ↔
      ∃ labels : List (List Char), (∀ label ∈ labels, IsHostLabel label) ∧
        text = (labels.map ('.' :: ·)).flatten := by
  constructor
  · rintro ⟨count, member, _⟩
    obtain ⟨texts, rfl, _, members⟩ := Language.mem_pow.mp member
    refine ⟨texts.map List.tail, ?_, ?_⟩
    · intro label inLabels
      obtain ⟨pointed, inTexts, rfl⟩ := List.mem_map.mp inLabels
      obtain ⟨label, isLabel, rfl⟩ := mem_language_pointedLabel.mp (members pointed inTexts)
      exact isLabel
    · have kept : ∀ pointed ∈ texts, '.' :: pointed.tail = id pointed := by
        intro pointed inTexts
        obtain ⟨label, _, rfl⟩ := mem_language_pointedLabel.mp (members pointed inTexts)
        rfl
      have same := (List.map_congr_left kept).trans (List.map_id texts)
      rw [List.map_map]
      exact congrArg List.flatten same.symm
  · rintro ⟨labels, areLabels, rfl⟩
    refine ⟨labels.length, Language.mem_pow.mpr ⟨_, rfl, List.length_map _, ?_⟩, Nat.zero_le _,
      nofun⟩
    intro pointed inTexts
    obtain ⟨label, inLabels, rfl⟩ := List.mem_map.mp inTexts
    exact mem_language_pointedLabel.mpr ⟨label, areLabels label inLabels, rfl⟩

theorem mem_language_hostname {text : List Char} :
    text ∈ (Pattern.sequence [labelEnd, labelRest, .rounds pointedLabel 0 none .greedy]).language
      plainFlags ↔ IsHostname text := by
  change text ∈ labelEnd.language plainFlags * (labelRest.language plainFlags *
    ((Pattern.rounds pointedLabel 0 none .greedy).language plainFlags * 1)) ↔ _
  rw [mul_one, ← mul_assoc, Language.mem_mul]
  constructor
  · rintro ⟨first, isFirst, rest, isRest, rfl⟩
    obtain ⟨others, areLabels, rfl⟩ := mem_language_pointedLabels.mp isRest
    refine ⟨first :: others, List.cons_ne_nil _ _, ?_, (intercalate_cons '.' first others).symm⟩
    exact List.forall_mem_cons.mpr ⟨mem_language_label.mp isFirst, areLabels⟩
  · rintro ⟨labels, nonempty, areLabels, rfl⟩
    obtain ⟨first, others, rfl⟩ := List.exists_cons_of_ne_nil nonempty
    obtain ⟨isFirst, areOthers⟩ := List.forall_mem_cons.mp areLabels
    exact ⟨first, mem_language_label.mpr isFirst, _,
      mem_language_pointedLabels.mpr ⟨others, areOthers, rfl⟩,
      (intercalate_cons '.' first others).symm⟩

/-- A text without line feeds is a host name exactly when the pattern matches it. -/
theorem matchesHostname_iff {name : List Char} (noFeed : '\n' ∉ name) :
    MatchesHostname name ↔ IsHostname name := by
  have floating : ∀ part ∈ [labelEnd, labelRest, .rounds pointedLabel 0 none .greedy],
      part.isFloating = true := by
    decide
  have occurs : MatchesHostname name ↔ hostnamePattern.occursIn plainFlags name = true := by
    constructor
    · rintro ⟨pattern, read, occurs⟩
      cases read_hostnameSource.symm.trans read
      exact occurs
    · exact fun occurs => ⟨hostnamePattern, read_hostnameSource, occurs⟩
  rw [occurs, hostnamePattern, Pattern.occursIn_whole_iff rfl floating]
  constructor
  · rintro ⟨body, member, rfl | rfl⟩
    · exact mem_language_hostname.mp member
    · exact absurd (List.mem_append_right body (List.mem_singleton_self _)) noFeed
  · exact fun isHostname => ⟨name, mem_language_hostname.mpr isHostname, .inl rfl⟩

end ScriptGate.Settings
