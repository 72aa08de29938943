import ScriptGate.Number.Literal
import ScriptGate.Proofs.Text.Trimming

/-! # How whole numbers are written

A whole number in the liberal spelling is a sign and a run of digits, with white space around them.
The digits may be of any script, a single underscore may stand between two of them, and there are at
most `maxDigits` (`WritesWhole`). The reader finds a number in exactly the texts that are put
together so, and it finds the number that they write (`readWhole?_eq_some_iff`). -/

namespace ScriptGate.Number

open Text

variable {text sign run : List Char} {char : Char} {digit : Nat} {digits : List Nat} {negative : Bool}

/-- Digits and their values. A single underscore may stand between two digits. -/
inductive DigitRun : List Char → List Nat → Prop where
  | last {char : Char} {digit : Nat} (isDigit : digitValue? char = some digit) :
      DigitRun [char] [digit]
  | next {char : Char} {digit : Nat} {text : List Char} {digits : List Nat}
      (isDigit : digitValue? char = some digit) (others : DigitRun text digits) :
      DigitRun (char :: text) (digit :: digits)
  | spaced {char : Char} {digit : Nat} {text : List Char} {digits : List Nat}
      (isDigit : digitValue? char = some digit) (others : DigitRun text digits) :
      DigitRun (char :: '_' :: text) (digit :: digits)

/-- A sign or nothing, and whether it is a minus sign. -/
inductive IsSign : List Char → Bool → Prop where
  | absent : IsSign [] false
  | plus : IsSign ['+'] false
  | minus : IsSign ['-'] true

/-- A text writes a whole number in the liberal spelling. -/
structure WritesWhole (text : List Char) (number : Int) : Prop where
  parts : ∃ lead sign run trail negative digits,
    text = lead ++ (sign ++ run ++ trail) ∧
    (∀ char ∈ lead, isOuterSpace char = true) ∧ (∀ char ∈ trail, isOuterSpace char = true) ∧
    IsSign sign negative ∧ DigitRun run digits ∧ digits.length ≤ maxDigits ∧
    number = signed negative (ofDigits digits)

/-! ### Digits -/

/-- The runs of ten code points of the decimal digits. -/
def digitRanges : List (Nat × Nat) := zeroDigits.map fun start => (start, start + 9)

theorem inRanges_of_digitValue? (isDigit : digitValue? char = some digit) :
    inRanges digitRanges char.toNat = true := by
  obtain ⟨start, found, _⟩ := Option.map_eq_some_iff.mp isDigit
  have bounds := List.find?_some found
  rw [Bool.and_eq_true, decide_eq_true_eq, decide_eq_true_eq] at bounds
  refine inRanges_eq_true_iff.mpr
    ⟨(start, start + 9), List.mem_map_of_mem (List.mem_of_find?_eq_some found), bounds.1, ?_⟩
  exact Nat.le_of_lt_succ bounds.2

theorem digitRanges_apart_blankRanges :
    ∀ left ∈ digitRanges, ∀ right ∈ blankRanges, left.2 < right.1 ∨ right.2 < left.1 := by
  decide +kernel

/-- A digit is no white space. -/
theorem isOuterSpace_of_digitValue? (isDigit : digitValue? char = some digit) :
    isOuterSpace char = false := by
  have notBlank : isBlank char = false :=
    inRanges_eq_false_of_apart digitRanges_apart_blankRanges (inRanges_of_digitValue? isDigit)
  rw [isOuterSpace, notBlank, Bool.false_and]

theorem digitValue?_underscore : digitValue? '_' = none := by decide

theorem digitValue?_plus : digitValue? '+' = none := by decide

theorem digitValue?_minus : digitValue? '-' = none := by decide

namespace DigitRun

theorem exists_head (isRun : DigitRun text digits) :
    ∃ char rest digit, text = char :: rest ∧ digitValue? char = some digit := by
  cases isRun with
  | last isDigit => exact ⟨_, _, _, rfl, isDigit⟩
  | next isDigit _ => exact ⟨_, _, _, rfl, isDigit⟩
  | spaced isDigit _ => exact ⟨_, _, _, rfl, isDigit⟩

theorem ne_nil (isRun : DigitRun text digits) : text ≠ [] := by
  obtain ⟨_, _, _, rfl, _⟩ := isRun.exists_head
  exact List.cons_ne_nil _ _

/-- A run of digits ends with a digit. -/
theorem exists_last (isRun : DigitRun text digits) :
    ∃ start char digit, text = start ++ [char] ∧ digitValue? char = some digit := by
  induction isRun with
  | last isDigit => exact ⟨[], _, _, rfl, isDigit⟩
  | @next first _ _ _ _ _ ih =>
      obtain ⟨start, char, digit, rfl, isDigit⟩ := ih
      exact ⟨first :: start, char, digit, rfl, isDigit⟩
  | @spaced first _ _ _ _ _ ih =>
      obtain ⟨start, char, digit, rfl, isDigit⟩ := ih
      exact ⟨first :: '_' :: start, char, digit, rfl, isDigit⟩

end DigitRun

theorem not_digitRun_cons (noDigit : digitValue? char = none) :
    ¬ DigitRun (char :: text) digits := by
  intro isRun
  obtain ⟨_, _, _, same, isDigit⟩ := isRun.exists_head
  cases same
  cases noDigit.symm.trans isDigit

/-- What may stand after a digit: nothing, more digits, or more digits after an underscore. -/
inductive AfterDigit : List Char → List Nat → Prop where
  | stop : AfterDigit [] []
  | digits {text : List Char} {digits : List Nat} (isRun : DigitRun text digits) :
      AfterDigit text digits
  | underscore {text : List Char} {digits : List Nat} (isRun : DigitRun text digits) :
      AfterDigit ('_' :: text) digits

theorem digitRun_cons_iff :
    DigitRun (char :: text) digits ↔
      ∃ digit others, digitValue? char = some digit ∧ AfterDigit text others ∧
        digit :: others = digits := by
  constructor
  · intro isRun
    cases isRun with
    | last isDigit => exact ⟨_, _, isDigit, .stop, rfl⟩
    | next isDigit others => exact ⟨_, _, isDigit, .digits others, rfl⟩
    | spaced isDigit others => exact ⟨_, _, isDigit, .underscore others, rfl⟩
  · intro parts
    obtain ⟨digit, _, isDigit, after, rfl⟩ := parts
    cases after with
    | stop => exact .last isDigit
    | digits others => exact .next isDigit others
    | underscore others => exact .spaced isDigit others

theorem afterDigit_cons_iff (notUnderscore : char ≠ '_') :
    AfterDigit (char :: text) digits ↔ DigitRun (char :: text) digits := by
  constructor
  · intro after
    cases after with
    | digits isRun => exact isRun
    | underscore _ => exact absurd rfl notUnderscore
  · exact .digits

theorem afterDigit_underscore_iff :
    AfterDigit ('_' :: text) digits ↔ DigitRun text digits := by
  constructor
  · intro after
    cases after with
    | digits isRun => exact absurd isRun (not_digitRun_cons digitValue?_underscore)
    | underscore isRun => exact isRun
  · exact .underscore

/-- A character that is no underscore is read as a digit. -/
theorem digitRun?_cons_eq_some_iff (notUnderscore : char ≠ '_') (afterDigit : Bool) :
    digitRun? digitValue? afterDigit (char :: text) = some digits ↔
      ∃ digit others, digitValue? char = some digit ∧
        digitRun? digitValue? true text = some others ∧ digit :: others = digits := by
  rw [digitRun?]
  · cases digitValue? char with
    | none => simp
    | some digit =>
        cases digitRun? digitValue? true text with
        | none => simp
        | some others => simp
  · exact notUnderscore

/-- A run of digits is read where a digit is due, and what may follow a digit is read after one. The
induction follows the reader. -/
theorem digitRun?_eq_some_iff :
    (digitRun? digitValue? false text = some digits ↔ DigitRun text digits) ∧
      (digitRun? digitValue? true text = some digits ↔ AfterDigit text digits) := by
  induction text generalizing digits with
  | nil =>
      constructor
      · exact ⟨nofun, nofun⟩
      · constructor
        · intro read
          cases read
          exact .stop
        · intro after
          cases after with
          | stop => rfl
          | digits isRun => exact absurd rfl isRun.ne_nil
  | cons char text ih =>
      by_cases underscore : char = '_'
      · subst underscore
        constructor
        · exact iff_of_false nofun (not_digitRun_cons digitValue?_underscore)
        · -- after the underscore a digit is due again, in the text and for the reader
          rw [afterDigit_underscore_iff, ← ih.1]
          rfl
      · rw [digitRun?_cons_eq_some_iff underscore, digitRun?_cons_eq_some_iff underscore,
          afterDigit_cons_iff underscore, digitRun_cons_iff]
        simp only [ih.2, and_self]

/-! ### Signs and white space -/

theorem splitSign_digits (isSign : IsSign sign negative) (isRun : DigitRun run digits) :
    splitSign (sign ++ run) = (negative, run) := by
  obtain ⟨char, rest, _, rfl, _⟩ := isRun.exists_head
  cases isSign with
  | plus => rfl
  | minus => rfl
  | absent =>
      have noMinus : char ≠ '-' := by
        intro same
        exact not_digitRun_cons digitValue?_minus (same ▸ isRun)
      have noPlus : char ≠ '+' := by
        intro same
        exact not_digitRun_cons digitValue?_plus (same ▸ isRun)
      rw [List.nil_append, splitSign]
      · exact fun _ same => noMinus (List.cons.inj same).1
      · exact fun _ same => noPlus (List.cons.inj same).1

theorem exists_sign_of_splitSign (split : splitSign text = (negative, run)) :
    ∃ sign, IsSign sign negative ∧ text = sign ++ run := by
  rw [splitSign.eq_def] at split
  split at split
  · cases split
    exact ⟨['-'], .minus, rfl⟩
  · cases split
    exact ⟨['+'], .plus, rfl⟩
  · cases split
    exact ⟨[], .absent, rfl⟩

/-- A sign is no white space. -/
theorem isOuterSpace_of_isSign (isSign : IsSign sign negative) :
    ∀ char ∈ sign.head?, isOuterSpace char = false := by
  intro char first
  cases isSign with
  | absent => cases first
  | plus =>
      cases first
      decide
  | minus =>
      cases first
      decide

/-- A number neither starts nor ends with white space. -/
theorem trimSpace_signed {lead trail : List Char}
    (leads : ∀ char ∈ lead, isOuterSpace char = true)
    (trails : ∀ char ∈ trail, isOuterSpace char = true) (isSign : IsSign sign negative)
    (isRun : DigitRun run digits) : trimSpace (lead ++ (sign ++ run ++ trail)) = sign ++ run := by
  apply trimmed_between leads trails
  · obtain ⟨char, rest, _, rfl, isDigit⟩ := isRun.exists_head
    cases sign with
    | nil =>
        intro first same
        cases same
        exact isOuterSpace_of_digitValue? isDigit
    | cons first others =>
        intro char same
        exact isOuterSpace_of_isSign isSign char same
  · obtain ⟨start, char, _, rfl, isDigit⟩ := isRun.exists_last
    intro last same
    rw [← List.append_assoc, List.getLast?_concat] at same
    cases same
    exact isOuterSpace_of_digitValue? isDigit

/-! ### Whole numbers -/

/-- **Reading a whole number.** The reader finds exactly the numbers that texts write. -/
theorem readWhole?_eq_some_iff {number : Int} :
    readWhole? text = some number ↔ WritesWhole text number := by
  constructor
  · intro read
    rcases split : splitSign (trimSpace text) with ⟨negative, run⟩
    simp only [readWhole?, split] at read
    split at read
    · next digits found =>
        split at read
        · next short =>
            obtain ⟨trail, parts, trails⟩ :=
              exists_eq_lead_append_trimmed isOuterSpace isOuterSpace text
            obtain ⟨sign, isSign, kept⟩ := exists_sign_of_splitSign split
            rw [trimSpace] at kept
            rw [kept] at parts
            exact ⟨_, sign, run, trail, negative, digits, parts,
              fun _ => List.mem_takeWhile_imp, trails, isSign, digitRun?_eq_some_iff.1.mp found,
              short, (Option.some.inj read).symm⟩
        · cases read
    · cases read
  · intro writes
    obtain ⟨lead, sign, run, trail, negative, digits, rfl, leads, trails, isSign, isRun, short,
      rfl⟩ := writes.parts
    simp only [readWhole?, trimSpace_signed leads trails isSign isRun,
      splitSign_digits isSign isRun, digitRun?_eq_some_iff.1.mpr isRun, short, ↓reduceIte]

end ScriptGate.Number
