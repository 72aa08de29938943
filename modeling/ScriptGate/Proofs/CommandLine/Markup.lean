import ScriptGate.CommandLine.Markup

/-! # Styled lines

A text without an opening bracket has no tags, so nothing keeps it from being shown. Neither does a
label before it whose style is closed again. -/

namespace ScriptGate.CommandLine

variable {opened : List (List Char)} {parts : List MarkupPart} {text : List Char}

/-- Parts that can be shown while tags are open. -/
def Showable (opened : List (List Char)) (parts : List MarkupPart) : Prop :=
  ∃ shown, shownOfParts opened parts = .ok shown

theorem Showable.prepend (showable : Showable opened parts) (chars : List Char) :
    Showable opened (shownChars chars ++ parts) := by
  induction chars with
  | nil => exact showable
  | cons char chars ih =>
      obtain ⟨shown, same⟩ := ih
      refine ⟨char :: shown, ?_⟩
      change (shownOfParts opened (shownChars chars ++ parts)).map (char :: ·) = _
      rw [same]
      rfl

theorem Showable.afterTag {others : List (List Char)} {offset : Nat} {tag : Tag}
    (closed : closeTag opened offset tag = .ok others) (showable : Showable others parts) :
    Showable opened (.tag offset tag :: parts) := by
  obtain ⟨shown, same⟩ := showable
  refine ⟨shown, ?_⟩
  simp only [shownOfParts, closed]
  exact same

/-! ### Plain text -/

/-- A text without an opening bracket consists of shown characters. -/
theorem markupParts_of_plain (plain : '[' ∉ text) (offset slashes : Nat) :
    ∃ chars, markupParts offset slashes 0 text = shownChars chars := by
  induction text generalizing offset slashes with
  | nil => exact ⟨List.replicate slashes '\\', rfl⟩
  | cons char text ih =>
      rw [List.mem_cons, not_or] at plain
      obtain ⟨notBracket, plain⟩ := plain
      by_cases isSlash : char = '\\'
      · subst isSlash
        exact ih plain (offset + 1) (slashes + 1)
      · obtain ⟨chars, same⟩ := ih plain (offset + 1) 0
        refine ⟨List.replicate slashes '\\' ++ [char] ++ chars, ?_⟩
        rw [markupParts, same]
        · simp only [shownChars, List.map_append]
        · exact isSlash
        · exact fun isBracket => notBracket isBracket.symm

theorem showable_of_plain (plain : '[' ∉ text) (offset : Nat) :
    Showable opened (markupParts offset 0 0 text) := by
  obtain ⟨chars, same⟩ := markupParts_of_plain plain offset 0
  rw [same, ← List.append_nil (shownChars chars)]
  exact Showable.prepend ⟨[], rfl⟩ chars

/-! ### Labels -/

/-- A text in which no character has a meaning for markup. -/
def IsLabel (text : List Char) : Prop := ∀ char ∈ text, char ≠ '[' ∧ char ≠ '\\'

instance (text : List Char) : Decidable (IsLabel text) := List.decidableBAll _ text

theorem markupParts_label {label : List Char} (isLabel : IsLabel label) (offset : Nat)
    (rest : List Char) : markupParts offset 0 0 (label ++ rest) =
      shownChars label ++ markupParts (offset + label.length) 0 0 rest := by
  induction label generalizing offset with
  | nil => rfl
  | cons char label ih =>
      obtain ⟨notBracket, notSlash⟩ := isLabel char List.mem_cons_self
      rw [List.cons_append, markupParts, ih fun char member => isLabel char (.tail _ member)]
      · rw [List.length_cons, Nat.add_right_comm, Nat.add_assoc]
        rfl
      · exact notSlash
      · exact notBracket

/-- The characters of a part before an offset are passed over. -/
theorem markupParts_claimed (claimed rest : List Char) (offset : Nat) :
    markupParts offset 0 claimed.length (claimed ++ rest) =
      markupParts (offset + claimed.length) 0 0 rest := by
  induction claimed generalizing offset with
  | nil => rfl
  | cons char claimed ih =>
      rw [List.length_cons, List.cons_append, markupParts, ih, Nat.add_right_comm, Nat.add_assoc]

/-! ### Tags -/

/-- The name of a style: small ASCII letters. -/
structure IsStyle (style : List Char) : Prop where
  letters : ∀ char ∈ style, 'a' ≤ char ∧ char ≤ 'z'
  notBlank : Text.isBlankText style = false

instance (style : List Char) : Decidable (IsStyle style) :=
  haveI : Decidable (∀ char ∈ style, 'a' ≤ char ∧ char ≤ 'z') := List.decidableBAll _ style
  decidable_of_iff ((∀ char ∈ style, 'a' ≤ char ∧ char ≤ 'z') ∧ Text.isBlankText style = false)
    ⟨fun ⟨letters, notBlank⟩ => ⟨letters, notBlank⟩,
      fun isStyle => ⟨isStyle.letters, isStyle.notBlank⟩⟩

variable {style : List Char} {char : Char}

theorem tagText?_append {first : Char} {more : List Char} (starts : isTagStart first = true)
    (inside : ∀ char ∈ more, char ≠ '[' ∧ char ≠ ']') (rest : List Char) :
    tagText? (first :: (more ++ ']' :: rest)) = some (first :: more) := by
  have taken : (more ++ ']' :: rest).takeWhile (fun char => char != '[' && char != ']') = more := by
    rw [List.takeWhile_append_of_pos, List.takeWhile_cons_of_neg (by decide), List.append_nil]
    intro char member
    simpa using inside char member
  simp only [tagText?, taken, starts, List.drop_left, List.head?_cons, Bool.true_and,
    decide_true, ↓reduceIte]

/-- A tag is one part. -/
theorem markupParts_tag {first : Char} {more : List Char} (starts : isTagStart first = true)
    (inside : ∀ char ∈ more, char ≠ '[' ∧ char ≠ ']') (offset : Nat) (rest : List Char) :
    markupParts offset 0 0 ('[' :: first :: (more ++ ']' :: rest)) =
      .tag offset (.ofText (first :: more)) ::
        markupParts (offset + (more.length + 3)) 0 0 rest := by
  have claimed := markupParts_claimed (first :: (more ++ [']'])) rest (offset + 1)
  have length : offset + 1 + (first :: (more ++ [']'])).length = offset + (more.length + 3) := by
    simp only [List.length_cons, List.length_append, List.length_nil]
    omega
  rw [length, List.cons_append, List.append_assoc, List.singleton_append] at claimed
  rw [← claimed, markupParts, tagText?_append starts inside]
  simp only [List.length_cons, List.length_append, List.length_nil, Nat.zero_add]
  rfl

theorem Tag.ofText_of_noEquals (plain : '=' ∉ text) : Tag.ofText text = ⟨text, none⟩ := by
  have differs : ∀ char ∈ text, decide (char ≠ '=') = true := by
    intro char member
    apply decide_eq_true
    rintro rfl
    exact plain member
  have taken : text.takeWhile (· ≠ '=') = text := by
    rw [← List.append_nil text, List.takeWhile_append_of_pos differs, List.takeWhile_nil]
  have dropped : text.dropWhile (· ≠ '=') = [] := by
    rw [← List.append_nil text, List.dropWhile_append_of_pos differs, List.dropWhile_nil]
  rw [Tag.ofText, taken, dropped]

theorem closeTag_style (isStyle : IsStyle style) (offset : Nat) :
    closeTag opened offset ⟨style, none⟩ = .ok (styleName style :: opened) := by
  unfold closeTag
  split
  · exact absurd (isStyle.letters '/' (by simp_all)) (by decide)
  · rfl

theorem closeTag_closing (isStyle : IsStyle style) (offset : Nat) :
    closeTag (styleName style :: opened) offset ⟨'/' :: style, none⟩ = .ok opened := by
  have known : (styleName style :: opened).contains (styleName style) = true := by
    rw [List.contains_cons, BEq.rfl, Bool.true_or]
  simp only [closeTag, isStyle.notBlank, Bool.false_eq_true, ↓reduceIte, known,
    List.erase_cons_head]

theorem IsStyle.notMem (isStyle : IsStyle style) (outside : ¬ ('a' ≤ char ∧ char ≤ 'z')) :
    char ∉ style :=
  fun member => outside (isStyle.letters char member)

/-- No character of a style has a meaning for tags. -/
theorem IsStyle.inside (isStyle : IsStyle style) : ∀ char ∈ style, char ≠ '[' ∧ char ≠ ']' := by
  intro char member
  constructor
  · rintro rfl
    exact isStyle.notMem (by decide) member
  · rintro rfl
    exact isStyle.notMem (by decide) member

theorem IsStyle.exists_cons (isStyle : IsStyle style) :
    ∃ first more, style = first :: more ∧ isTagStart first = true := by
  cases style with
  | nil => cases isStyle.notBlank
  | cons first more =>
      have letter := isStyle.letters first List.mem_cons_self
      refine ⟨first, more, rfl, ?_⟩
      simp only [isTagStart, letter, decide_true, Bool.true_and, Bool.true_or]

/-- The mark that opens a style is one tag. -/
theorem markupParts_style (isStyle : IsStyle style) (offset : Nat) (rest : List Char) :
    ∃ next, markupParts offset 0 0 ('[' :: (style ++ ']' :: rest)) =
      .tag offset ⟨style, none⟩ :: markupParts next 0 0 rest := by
  have noEquals := Tag.ofText_of_noEquals (isStyle.notMem (by decide : ¬ ('a' ≤ '=' ∧ '=' ≤ 'z')))
  obtain ⟨first, more, rfl, starts⟩ := isStyle.exists_cons
  refine ⟨offset + (more.length + 3), ?_⟩
  rw [List.cons_append, markupParts_tag starts fun char member =>
    isStyle.inside char (List.mem_cons_of_mem first member), noEquals]

/-- The mark that closes a style is one tag. -/
theorem markupParts_closing (isStyle : IsStyle style) (offset : Nat) (rest : List Char) :
    ∃ next, markupParts offset 0 0 ('[' :: '/' :: (style ++ ']' :: rest)) =
      .tag offset ⟨'/' :: style, none⟩ :: markupParts next 0 0 rest := by
  have noEquals : '=' ∉ '/' :: style := by
    rw [List.mem_cons, not_or]
    exact ⟨by decide, isStyle.notMem (by decide)⟩
  refine ⟨offset + (style.length + 3), ?_⟩
  rw [markupParts_tag (by decide) isStyle.inside, Tag.ofText_of_noEquals noEquals]

/-- A line with a styled label. -/
def styledLine (style label text : List Char) : List Char :=
  '[' :: (style ++ ']' :: (label ++ '[' :: '/' :: (style ++ ']' :: text)))

theorem showable_styledLine (isStyle : IsStyle style) {label : List Char} (isLabel : IsLabel label)
    (plain : '[' ∉ text) : Showable [] (markupParts 0 0 0 (styledLine style label text)) := by
  obtain ⟨afterStyle, opens⟩ := markupParts_style isStyle 0
    (label ++ '[' :: '/' :: (style ++ ']' :: text))
  obtain ⟨afterLabel, closes⟩ := markupParts_closing isStyle (afterStyle + label.length) text
  rw [styledLine, opens, markupParts_label isLabel, closes]
  apply Showable.afterTag (closeTag_style isStyle 0)
  apply Showable.prepend
  apply Showable.afterTag (closeTag_closing isStyle _)
  exact showable_of_plain plain afterLabel

/-- A line with a styled label and plain text after it can be shown. -/
theorem exists_shownText {line : String} (style label text : List Char) (isStyle : IsStyle style)
    (isLabel : IsLabel label) (plain : '[' ∉ text)
    (isLine : line.toList = styledLine style label text) : ∃ shown, shownText line = .ok shown := by
  obtain ⟨shown, same⟩ := showable_styledLine isStyle isLabel plain
  refine ⟨String.ofList (shown.filter (!unshownCodes.contains ·.toNat)), ?_⟩
  rw [shownText, isLine, same]
  rfl

end ScriptGate.CommandLine
