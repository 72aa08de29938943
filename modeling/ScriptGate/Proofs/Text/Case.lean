import Mathlib.Data.List.Forall2
import ScriptGate.Proofs.Text.Classes
import ScriptGate.Text.Case
import ScriptGate.Text.Digit

/-! # Characters up to ASCII case

Which letter a character is, and to which of the classes of characters it belongs, does not depend
on the case of ASCII letters. The characters before the ASCII letters, and all white space, are the
same letter as no other character. -/

namespace ScriptGate.Text

/-- Only capitals have another character in lower case. -/
theorem toLower_cases (char : Char) :
    char.toLower = char ∨
      char.toNat ∈ List.range' 0x41 26 ∧ char.toLower = Char.ofNat (char.toNat + 0x20) := by
  by_cases capital : char.val ≥ 'A'.val ∧ char.val ≤ 'Z'.val
  · have range := capital
    simp only [ge_iff_le, UInt32.le_iff_toNat_le] at range
    refine .inr ⟨List.mem_range'_1.mpr ⟨range.1, Nat.lt_succ_of_le range.2⟩, ?_⟩
    have atMost : char.toNat ≤ 0x5A := range.2
    have lowered : char.toLower.toNat = (char.toNat + 0x20) % 2 ^ 32 := by
      have shifted := congrArg Char.toNat (dif_pos capital : char.toLower = _)
      exact shifted.trans (UInt32.toNat_add _ _)
    rw [Nat.mod_eq_of_lt (by omega)] at lowered
    rw [← lowered, Char.ofNat_toNat]
  · exact .inl (dif_neg capital)

/-- What is the same for the ASCII letters of either case does not see that case. -/
theorem eq_toLower_of_agree {α : Type} (feature : Char → α)
    (agree : ∀ code ∈ List.range' 0x41 26,
      feature (Char.ofNat (code + 0x20)) = feature (Char.ofNat code)) (char : Char) :
    feature char.toLower = feature char := by
  rcases toLower_cases char with same | ⟨capital, lowered⟩
  · rw [same]
  · rw [lowered, agree _ capital, Char.ofNat_toNat]

theorem caseKey_toLower (char : Char) : caseKey char.toLower = caseKey char :=
  eq_toLower_of_agree caseKey (by decide) char

theorem lowerCode_toLower (char : Char) : lowerCode char.toLower.toNat = lowerCode char.toNat :=
  eq_toLower_of_agree (fun char => lowerCode char.toNat) (by decide) char

theorem isDigit_toLower (char : Char) : isDigit char.toLower = isDigit char :=
  eq_toLower_of_agree isDigit (by decide) char

theorem isBlank_toLower (char : Char) : isBlank char.toLower = isBlank char :=
  eq_toLower_of_agree isBlank (by decide) char

theorem isWord_toLower (char : Char) : isWord char.toLower = isWord char :=
  eq_toLower_of_agree isWord (by decide) char

theorem sameLetter_toLower (letter char : Char) :
    sameLetter letter char.toLower = sameLetter letter char := by
  rw [sameLetter, sameLetter, caseKey_toLower]

theorem rangeHasLetter_toLower (first last char : Char) :
    rangeHasLetter first last char.toLower = rangeHasLetter first last char := by
  rw [rangeHasLetter, rangeHasLetter, caseKey_toLower]

/-- A character that is no ASCII letter has no other case. -/
theorem toLower_eq_iff {char mark : Char} (noLetter : isAsciiLetter mark = false) :
    char.toLower = mark ↔ char = mark := by
  rcases toLower_cases char with same | ⟨capital, lowered⟩
  · rw [same]
  · have letters : ∀ code ∈ List.range' 0x41 26,
        isAsciiLetter (Char.ofNat (code + 0x20)) = true ∧
          isAsciiLetter (Char.ofNat code) = true := by
      decide
    obtain ⟨lower, upper⟩ := letters _ capital
    rw [Char.ofNat_toNat] at upper
    refine iff_of_false ?_ ?_
    · rintro rfl
      rw [lowered, lower] at noLetter
      cases noLetter
    · rintro rfl
      rw [upper] at noLetter
      cases noLetter

/-! ### Characters before the letters -/

theorem le_lowerCode_of_wide {code : Nat} (wide : 0x80 ≤ code) : 0x61 ≤ lowerCode code := by
  rw [lowerCode, if_neg (Nat.not_lt.mpr wide)]
  split
  · next run found =>
      have letters : ∀ run ∈ wideCaseRuns, 0x61 ≤ run.lower := by decide +kernel
      have := letters run (List.mem_of_find?_eq_some found)
      omega
  · omega

/-- The keys of characters beyond ASCII come after the ASCII capitals. -/
theorem le_caseKey_of_wide {char : Char} (wide : 0x80 ≤ char.toNat) : 0x61 ≤ caseKey char := by
  have lower := le_lowerCode_of_wide wide
  rw [caseKey]
  split
  · exact lower
  · cases found : caseSiblings.lookup (lowerCode char.toNat) with
    | none => exact lower
    | some key =>
        have letters : ∀ pair ∈ caseSiblings, 0x61 ≤ pair.2 := by decide
        obtain ⟨before, after, split, _⟩ := List.lookup_eq_some_iff.mp found
        exact letters (_, key) (split ▸ List.mem_append_right before List.mem_cons_self)

/-- A character before the ASCII letters is the same letter as no other. -/
theorem sameLetter_iff_of_lt {mark char : Char} (early : mark.toNat < 0x41) :
    sameLetter mark char = true ↔ char = mark := by
  have ascii {char : Char} (narrow : char.toNat < 0x80) :
      caseKey char = if 0x41 ≤ char.toNat ∧ char.toNat ≤ 0x5A then char.toNat + 0x20
        else char.toNat := by
    by_cases capital : 0x41 ≤ char.toNat ∧ char.toNat ≤ 0x5A
    · have lower : char.toNat + 0x20 < 0x80 := by omega
      simp only [caseKey, lowerCode, if_pos narrow, if_pos capital, if_pos lower]
    · simp only [caseKey, lowerCode, if_pos narrow, if_neg capital]
  rw [sameLetter, beq_iff_eq, ascii (by omega : mark.toNat < 0x80), if_neg (by omega)]
  constructor
  · intro same
    by_cases narrow : char.toNat < 0x80
    · rw [ascii narrow] at same
      split at same
      · omega
      · rw [← Char.ofNat_toNat char, ← same, Char.ofNat_toNat]
    · have := le_caseKey_of_wide (Nat.le_of_not_lt narrow)
      omega
  · rintro rfl
    rw [ascii (by omega), if_neg (by omega)]

/-- A text that agrees with a name letter by letter lacks what the name lacks, of the characters
that are the same letter as no other. -/
theorem not_mem_of_alone {mark : Char} {name text : List Char}
    (alone : ∀ char, sameLetter mark char = true → char = mark) (absent : mark ∉ name)
    (spells : List.Forall₂ (fun expected char => sameLetter expected char = true) name text) :
    mark ∉ text := by
  induction spells with
  | nil => exact List.not_mem_nil
  | @cons expected char name text same _ ih =>
      rw [List.mem_cons, not_or] at absent ⊢
      refine ⟨?_, ih absent.2⟩
      rintro rfl
      have swapped : sameLetter mark expected = true := by
        rw [sameLetter, beq_iff_eq] at same ⊢
        exact same.symm
      exact absent.1 (alone expected swapped).symm

theorem not_mem_of_sameLetters {mark : Char} {name text : List Char} (early : mark.toNat < 0x41)
    (absent : mark ∉ name)
    (spells : List.Forall₂ (fun expected char => sameLetter expected char = true) name text) :
    mark ∉ text :=
  not_mem_of_alone (fun _ => (sameLetter_iff_of_lt early).mp) absent spells

/-! ### White space -/

/-- No run of the case table meets white space, on either of its sides. -/
theorem blankRanges_apart_wideCaseRuns :
    ∀ run ∈ wideCaseRuns, ∀ range ∈ blankRanges,
      (run.last < range.1 ∨ range.2 < run.first) ∧
        (run.lower + (run.last - run.first) < range.1 ∨ range.2 < run.lower) := by
  decide +kernel

theorem not_blank_of_mem_caseSiblings :
    ∀ pair ∈ caseSiblings, inRanges blankRanges pair.1 = false ∧
      inRanges blankRanges pair.2 = false := by
  decide +kernel

/-- White space is the lower-case counterpart of itself only. -/
theorem lowerCode_eq_iff_of_blank {mark code : Nat} (blank : inRanges blankRanges mark = true) :
    lowerCode code = mark ↔ code = mark := by
  obtain ⟨range, isRange, above, below⟩ := inRanges_eq_true_iff.mp blank
  have noLetter : ∀ range ∈ blankRanges, (range.2 < 0x41 ∨ 0x5A < range.1) ∧
      (range.2 < 0x61 ∨ 0x7A < range.1) := by
    decide
  have := noLetter range isRange
  by_cases narrow : code < 0x80
  · rw [lowerCode, if_pos narrow]
    split <;> omega
  · rw [lowerCode, if_neg narrow]
    split
    · next run found =>
        have inRun := List.find?_some found
        simp only [CaseRun.has, Bool.and_eq_true, decide_eq_true_eq] at inRun
        have := blankRanges_apart_wideCaseRuns run (List.mem_of_find?_eq_some found) range isRange
        omega
    · rfl

/-- White space is the same letter as no other character. -/
theorem sameLetter_iff_of_isBlank {mark char : Char} (blank : isBlank mark = true) :
    sameLetter mark char = true ↔ char = mark := by
  have key_iff (char : Char) : caseKey char = mark.toNat ↔ char = mark := by
    refine Iff.trans ?_ ((lowerCode_eq_iff_of_blank blank).trans Char.toNat_inj)
    rw [caseKey]
    split
    · rfl
    · cases found : caseSiblings.lookup (lowerCode char.toNat) with
      | none => rfl
      | some key =>
          obtain ⟨before, after, split, _⟩ := List.lookup_eq_some_iff.mp found
          have sibling : (lowerCode char.toNat, key) ∈ caseSiblings :=
            split ▸ List.mem_append_right before List.mem_cons_self
          obtain ⟨notLower, notKey⟩ := not_blank_of_mem_caseSiblings _ sibling
          refine iff_of_false ?_ ?_
          · rintro rfl
            exact Bool.false_ne_true (notKey.symm.trans blank)
          · intro same
            rw [same] at notLower
            exact Bool.false_ne_true (notLower.symm.trans blank)
  rw [sameLetter, beq_iff_eq, (key_iff mark).mpr rfl, eq_comm, key_iff]

theorem sameLetter_eq_false_of_isBlank {expected char : Char} (visible : isBlank expected = false)
    (blank : isBlank char = true) : sameLetter expected char = false := by
  rw [← Bool.not_eq_true, sameLetter, beq_iff_eq, eq_comm, ← beq_iff_eq, ← sameLetter,
    sameLetter_iff_of_isBlank blank]
  rintro rfl
  rw [visible] at blank
  cases blank

theorem visible_of_sameLetters {name text : List Char}
    (visible : ∀ char ∈ name, isBlank char = false)
    (spells : List.Forall₂ (fun expected char => sameLetter expected char = true) name text) :
    ∀ char ∈ text, isBlank char = false := by
  intro char inText
  rw [← Bool.not_eq_true]
  intro blank
  have absent : char ∉ name := fun inName => by
    rw [visible char inName] at blank
    cases blank
  exact not_mem_of_alone (fun _ => (sameLetter_iff_of_isBlank blank).mp) absent spells inText

/-- Texts agree letter by letter when they have the same case keys. -/
theorem sameLetters_iff {first second : List Char} :
    List.Forall₂ (fun expected char => sameLetter expected char = true) first second ↔
      first.map caseKey = second.map caseKey := by
  simp only [sameLetter, beq_iff_eq, ← List.forall₂_eq_eq_eq, List.forall₂_map_left_iff,
    List.forall₂_map_right_iff]

end ScriptGate.Text
