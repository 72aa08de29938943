import Mathlib.Data.List.TakeWhile
import Mathlib.Tactic.ByContra
import ScriptGate.Text.Quote
import ScriptGate.Text.Word

/-! # Classes of characters

White space, quotes and word characters are told apart: no character belongs to two of these
classes. Texts that are trimmed at their end are described by their last character. -/

namespace ScriptGate.Text

theorem inRanges_eq_true_iff {ranges : List (Nat × Nat)} {code : Nat} :
    inRanges ranges code = true ↔ ∃ range ∈ ranges, range.1 ≤ code ∧ code ≤ range.2 := by
  simp only [inRanges, List.any_eq_true, Bool.and_eq_true, decide_eq_true_eq]

/-- Two tables share no code point when each range of one is apart from each range of the other. -/
theorem inRanges_eq_false_of_apart {first second : List (Nat × Nat)} {code : Nat}
    (apart : ∀ left ∈ first, ∀ right ∈ second, left.2 < right.1 ∨ right.2 < left.1)
    (member : inRanges first code = true) : inRanges second code = false := by
  by_contra other
  obtain ⟨left, inFirst, above, below⟩ := inRanges_eq_true_iff.mp member
  obtain ⟨right, inSecond, low, high⟩ :=
    inRanges_eq_true_iff.mp (Bool.of_not_eq_false other)
  rcases apart left inFirst right inSecond with before | after
  · omega
  · omega

theorem blankRanges_apart_wideWordRanges :
    ∀ left ∈ blankRanges, ∀ right ∈ wideWordRanges, left.2 < right.1 ∨ right.2 < left.1 := by
  decide +kernel

theorem isAsciiLetter_iff {char : Char} :
    isAsciiLetter char = true ↔
      (0x61 ≤ char.toNat ∧ char.toNat ≤ 0x7A) ∨ (0x41 ≤ char.toNat ∧ char.toNat ≤ 0x5A) := by
  simp only [isAsciiLetter, Bool.or_eq_true, Bool.and_eq_true, decide_eq_true_eq, Char.le_def,
    UInt32.le_iff_toNat_le]
  rfl

theorem isAsciiDigit_iff {char : Char} :
    isAsciiDigit char = true ↔ 0x30 ≤ char.toNat ∧ char.toNat ≤ 0x39 := by
  simp only [isAsciiDigit, Bool.and_eq_true, decide_eq_true_eq, Char.le_def,
    UInt32.le_iff_toNat_le]
  rfl

theorem isWord_of_isAsciiWord {char : Char} (word : isAsciiWord char = true) :
    isWord char = true := by
  rw [isAsciiWord, Bool.or_eq_true] at word
  rcases word with alphanumeric | underscore
  · have narrow : char.toNat < 0x80 := by
      rw [Bool.or_eq_true, isAsciiLetter_iff, isAsciiDigit_iff] at alphanumeric
      omega
    rw [isWord, isAlphanumeric, if_pos narrow, alphanumeric, Bool.true_or]
  · rw [isWord, underscore, Bool.or_true]

/-- White space is no part of a word. -/
theorem isWord_eq_false_of_isBlank {char : Char} (blank : isBlank char = true) :
    isWord char = false := by
  have notUnderscore : char ≠ '_' := by
    rintro rfl
    exact absurd blank (by decide)
  have notAlphanumeric : isAlphanumeric char = false := by
    by_cases narrow : char.toNat < 0x80
    · obtain ⟨range, member, above, below⟩ := inRanges_eq_true_iff.mp blank
      by_contra alphanumeric
      have alphanumeric := Bool.of_not_eq_false alphanumeric
      simp only [isAlphanumeric, narrow, ↓reduceIte, Bool.or_eq_true, isAsciiLetter_iff,
        isAsciiDigit_iff] at alphanumeric
      simp only [blankRanges, List.mem_cons, List.not_mem_nil, or_false] at member
      rcases member with rfl | rfl | rfl | rfl | rfl | rfl | rfl | rfl | rfl | rfl <;>
        simp only at above below <;> omega
    · simp only [isAlphanumeric, narrow, ↓reduceIte]
      exact inRanges_eq_false_of_apart blankRanges_apart_wideWordRanges blank
  simp only [isWord, notAlphanumeric, Bool.false_or, decide_eq_false_iff_not]
  exact notUnderscore

theorem isQuote_iff {char : Char} :
    isQuote char = true ↔ char = '\x27' ∨ char = '\x22' ∨ char = '\x60' := by
  simp only [isQuote, Bool.or_eq_true, decide_eq_true_eq, or_assoc]

/-- A quote is no part of a word. -/
theorem isWord_eq_false_of_isQuote {char : Char} (quote : isQuote char = true) :
    isWord char = false := by
  rcases isQuote_iff.mp quote with rfl | rfl | rfl <;> decide

/-- A quote is no white space. -/
theorem isBlank_eq_false_of_isQuote {char : Char} (quote : isQuote char = true) :
    isBlank char = false := by
  rcases isQuote_iff.mp quote with rfl | rfl | rfl <;> decide

/-- A text without quotes. -/
def Unquoted (text : List Char) : Prop := ∀ char ∈ text, isQuote char = false

instance (text : List Char) : Decidable (Unquoted text) := List.decidableBAll _ text

theorem isBlankText_iff {text : List Char} :
    isBlankText text = true ↔ ∀ char ∈ text, isBlank char = true := by
  rw [isBlankText, List.all_eq_true]

theorem isBlankText_eq_false_iff {text : List Char} :
    isBlankText text = false ↔ ∃ char ∈ text, isBlank char = false := by
  simp only [isBlankText, List.all_eq_false, Bool.not_eq_true]

/-- A text is split in one way into a start of characters of a class and what follows them. -/
theorem takeWhile_eq_and_dropWhile_eq_iff {test : Char → Bool} {text start rest : List Char}
    (inside : ∀ char ∈ start, test char = true) :
    text.takeWhile test = start ∧ text.dropWhile test = rest ↔
      text = start ++ rest ∧ ∀ char ∈ rest.head?, test char = false := by
  constructor
  · rintro ⟨rfl, rfl⟩
    refine ⟨List.takeWhile_append_dropWhile.symm, fun char first => ?_⟩
    have stopped := List.head?_dropWhile_not test text
    rw [Option.mem_def.mp first] at stopped
    simpa using stopped
  · rintro ⟨rfl, ends⟩
    rw [List.takeWhile_append_of_pos inside, List.dropWhile_append_of_pos inside]
    cases rest with
    | nil => exact ⟨List.append_nil start, rfl⟩
    | cons char rest =>
        have outside : ¬ test char = true := by
          rw [ends char rfl]
          exact Bool.false_ne_true
        rw [List.takeWhile_cons_of_neg outside, List.dropWhile_cons_of_neg outside]
        exact ⟨List.append_nil start, rfl⟩

/-- The longest start of characters of a class is the one that no further such character follows. -/
theorem takeWhile_eq_iff {test : Char → Bool} {text start : List Char} :
    text.takeWhile test = start ↔
      (∀ char ∈ start, test char = true) ∧
        ∃ rest, text = start ++ rest ∧ ∀ char ∈ rest.head?, test char = false := by
  constructor
  · rintro rfl
    have inside : ∀ char ∈ text.takeWhile test, test char = true :=
      fun _ inStart => List.mem_takeWhile_imp inStart
    exact ⟨inside, text.dropWhile test, (takeWhile_eq_and_dropWhile_eq_iff inside).mp ⟨rfl, rfl⟩⟩
  · rintro ⟨inside, rest, parts⟩
    exact ((takeWhile_eq_and_dropWhile_eq_iff inside).mpr parts).1

theorem forall_ne_iff {mark : Char} {text : List Char} :
    (∀ char ∈ text, decide (char ≠ mark) = true) ↔ mark ∉ text := by
  simp only [decide_eq_true_eq]
  exact ⟨fun others member => others mark member rfl,
    fun absent char member same => absent (same ▸ member)⟩

/-- What stands before the first occurrence of a character. -/
theorem takeWhile_ne_eq_iff {mark : Char} {text start : List Char} :
    text.takeWhile (· ≠ mark) = start ↔
      mark ∉ start ∧ (text = start ∨ ∃ rest, text = start ++ mark :: rest) := by
  rw [takeWhile_eq_iff, forall_ne_iff]
  refine and_congr_right fun _ => ?_
  constructor
  · rintro ⟨_ | ⟨char, rest⟩, rfl, stops⟩
    · exact .inl (List.append_nil start)
    · have isMark := stops char rfl
      rw [decide_eq_false_iff_not, not_not] at isMark
      exact .inr ⟨rest, isMark ▸ rfl⟩
  · rintro (rfl | ⟨rest, rfl⟩)
    · exact ⟨[], (List.append_nil text).symm, nofun⟩
    · exact ⟨mark :: rest, rfl, fun char first => Option.some.inj first ▸ by simp⟩

theorem dropWhile_ne_of_absent {mark : Char} {text : List Char} (absent : mark ∉ text) :
    text.dropWhile (· ≠ mark) = [] :=
  List.dropWhile_eq_nil_iff.mpr (forall_ne_iff.mpr absent)

theorem dropWhile_ne_append {mark : Char} {start : List Char} (absent : mark ∉ start)
    (rest : List Char) : (start ++ mark :: rest).dropWhile (· ≠ mark) = mark :: rest := by
  rw [List.dropWhile_append_of_pos (forall_ne_iff.mpr absent), List.dropWhile_cons_of_neg]
  exact fun other => of_decide_eq_true other rfl

theorem dropStart?_eq_some_iff {start text rest : List Char} :
    dropStart? start text = some rest ↔ text = start ++ rest := by
  induction start generalizing text with
  | nil => exact Option.some_inj
  | cons expected start ih =>
      cases text with
      | nil => exact iff_of_false nofun nofun
      | cons char text =>
          rw [dropStart?, List.cons_append, List.cons_eq_cons]
          split
          · next same => rw [ih, eq_comm, and_iff_right same.symm]
          · next other => exact iff_of_false nofun fun both => other both.1.symm

theorem dropEndWhile_concat_of_holds {test : Char → Bool} {text : List Char} {last : Char}
    (holds : test last = true) : dropEndWhile test (text ++ [last]) = dropEndWhile test text := by
  simp only [dropEndWhile, List.reverse_append, List.reverse_cons, List.reverse_nil,
    List.nil_append, List.singleton_append, List.dropWhile_cons, holds, ↓reduceIte]

theorem dropEndWhile_concat_of_fails {test : Char → Bool} {text : List Char} {last : Char}
    (fails : test last = false) : dropEndWhile test (text ++ [last]) = text ++ [last] := by
  simp only [dropEndWhile, List.reverse_append, List.reverse_cons, List.reverse_nil,
    List.nil_append, List.singleton_append, List.dropWhile_cons, fails, Bool.false_eq_true,
    ↓reduceIte, List.reverse_reverse]

end ScriptGate.Text
