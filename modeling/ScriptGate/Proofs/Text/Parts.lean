import Mathlib.Data.List.Infix
import ScriptGate.Text.Lines

/-! # Parts of a text

Where a part of a text that is put together from two texts can stand, given a character that the
part or one of the two texts does not have, and on which line a place of each text is then. A part
without line feed stands on one line of the text (`standsOnLine`). -/

namespace ScriptGate.Text

variable {part core left right : List Char} {mark first last : Char}

/-- A text is split in one place only by two marks when neither stands before the other. -/
theorem split_unique {before after : List Char} (noLast : last ∉ left) (noFirst : first ∉ before)
    (same : left ++ first :: right = before ++ last :: after) :
    left = before ∧ first = last ∧ right = after := by
  rcases List.append_eq_append_iff.mp same with ⟨between, rfl, split⟩ | ⟨between, rfl, split⟩
  · cases between with
    | nil => exact ⟨(List.append_nil left).symm, List.cons_eq_cons.mp split⟩
    | cons char between =>
        cases (List.cons_eq_cons.mp split).1
        exact absurd (List.mem_append_right left List.mem_cons_self) noFirst
  · cases between with
    | nil =>
        obtain ⟨sameMark, sameRest⟩ := List.cons_eq_cons.mp split
        exact ⟨List.append_nil before, sameMark.symm, sameRest.symm⟩
    | cons char between =>
        cases (List.cons_eq_cons.mp split).1
        exact absurd (List.mem_append_right before List.mem_cons_self) noLast

/-- A part without a character does not reach over it. -/
theorem part_of_around (absent : mark ∉ part) (within : part <:+: left ++ mark :: right) :
    part <:+: left ∨ part <:+: right := by
  rcases List.infix_append_iff.mp within with inLeft | inRight | ⟨start, stop, rfl, ends, starts⟩
  · exact .inl inLeft
  · rcases List.infix_cons_iff.mp inRight with starts | inRight
    · cases part with
      | nil => exact .inl List.nil_infix
      | cons char part =>
          cases (List.cons_prefix_cons.mp starts).1
          exact absurd List.mem_cons_self absent
    · exact .inr inRight
  · cases stop with
    | nil =>
        rw [List.append_nil]
        exact .inl ends.isInfix
    | cons char stop =>
        cases (List.cons_prefix_cons.mp starts).1
        exact absurd (List.mem_append_right start List.mem_cons_self) absent

/-- A part that ends with a character, and does not have it before, ends at a given place with that
character or lies on one side of the place. -/
theorem part_of_around_last (absent : mark ∉ core)
    (within : core ++ [mark] <:+: left ++ mark :: right) :
    core <:+ left ∨ core ++ [mark] <:+: left ∨ core ++ [mark] <:+: right := by
  rcases List.infix_append_iff.mp within with inLeft | inRight | ⟨start, stop, split, ends, starts⟩
  · exact .inr (.inl inLeft)
  · rcases List.infix_cons_iff.mp inRight with starts | inRight
    · cases core with
      | nil => exact .inl List.nil_suffix
      | cons char core =>
          cases (List.cons_prefix_cons.mp starts).1
          exact absurd List.mem_cons_self absent
    · exact .inr (.inr inRight)
  · cases stop with
    | nil =>
        rw [split, List.append_nil]
        exact .inr (.inl ends.isInfix)
    | cons char stop =>
        cases (List.cons_prefix_cons.mp starts).1
        obtain ⟨rfl, _, _⟩ := (List.append_cons_inj_of_notMem absent List.not_mem_nil).mp split
        exact .inl ends

/-- A part that starts with a character lies after a text without it. -/
theorem part_of_after (absent : first ∉ left) (within : first :: part <:+: left ++ right) :
    first :: part <:+: right := by
  rcases List.infix_append_iff.mp within with inLeft | inRight | ⟨start, stop, split, ends, starts⟩
  · exact absurd (inLeft.subset List.mem_cons_self) absent
  · exact inRight
  · cases start with
    | nil => exact split ▸ starts.isInfix
    | cons char start =>
        cases (List.cons_eq_cons.mp split).1
        exact absurd (ends.subset List.mem_cons_self) absent

/-- A part that ends with a character lies before a text without it. -/
theorem part_of_before (absent : last ∉ right) (within : part ++ [last] <:+: left ++ right) :
    part ++ [last] <:+: left := by
  have reversed := List.reverse_infix.mpr within
  rw [List.reverse_append, List.reverse_append] at reversed
  have found := part_of_after (fun member => absent (List.mem_reverse.mp member)) reversed
  rw [← List.reverse_infix, List.reverse_append]
  exact found

/-! ### Lines -/

theorem lineAt_append {offset : Nat} (within : offset ≤ left.length) :
    lineAt (left ++ right) offset = lineAt left offset := by
  rw [lineAt, lineAt, List.take_append_of_le_length within]

theorem lineAt_length_add (left right : List Char) (offset : Nat) :
    lineAt (left ++ right) (left.length + offset) = lineFeeds left + lineAt right offset := by
  rw [lineAt, List.take_length_add_append, lineFeeds, List.count_append, Nat.add_assoc]
  rfl

theorem lineAt_length (left right : List Char) :
    lineAt (left ++ right) left.length = 1 + lineFeeds left := by
  rw [lineAt, List.take_left, Nat.add_comm]

/-- The line on which a part starts holds the whole part, when no line feed is in it. The induction
follows the text before the part: a line feed opens a line, any other character lengthens the first
one. -/
theorem exists_line_of_part (before after : List Char) (whole : '\n' ∉ part) :
    ∃ line, ((before ++ (part ++ after)).splitOn '\n')[lineFeeds before]? = some line ∧
      part <:+: line := by
  induction before with
  | nil =>
      rw [List.nil_append, lineFeeds, List.count_nil, ← List.head?_eq_getElem?]
      by_cases feed : '\n' ∈ after
      · obtain ⟨rest, later, rfl, plain⟩ := List.eq_append_cons_of_mem feed
        have outside : '\n' ∉ part ++ rest := by
          rw [List.mem_append, not_or]
          exact ⟨whole, plain⟩
        rw [← List.append_assoc, List.splitOn_append_cons_self_of_not_mem outside]
        exact ⟨part ++ rest, rfl, (List.prefix_append part rest).isInfix⟩
      · have outside : '\n' ∉ part ++ after := by
          rw [List.mem_append, not_or]
          exact ⟨whole, feed⟩
        rw [List.splitOn_eq_singleton outside]
        exact ⟨part ++ after, rfl, (List.prefix_append part after).isInfix⟩
  | cons char before ih =>
      obtain ⟨line, isLine, within⟩ := ih
      rw [List.cons_append, List.splitOn_cons_eq_if_modifyHead]
      by_cases feed : char = '\n'
      · rw [if_pos (beq_iff_eq.mpr feed), feed, lineFeeds, List.count_cons_self,
          List.getElem?_cons_succ]
        exact ⟨line, isLine, within⟩
      · rw [if_neg (mt beq_iff_eq.mp feed), lineFeeds, List.count_cons_of_ne feed,
          List.getElem?_modifyHead, ← lineFeeds, isLine]
        split
        · exact ⟨char :: line, rfl, within.trans (List.suffix_cons char line).isInfix⟩
        · exact ⟨line, rfl, within⟩

/-- A part of a text stands on the line of the given number, counted from one. -/
structure StandsOnLine (text : List Char) (number : Nat) (part : List Char) : Prop where
  first : 1 ≤ number
  last : number ≤ 1 + lineFeeds text
  within : ∃ line, (text.splitOn '\n')[number - 1]? = some line ∧ part <:+: line

theorem standsOnLine (before after : List Char) (whole : '\n' ∉ part) :
    StandsOnLine (before ++ (part ++ after)) (lineAt (before ++ (part ++ after)) before.length)
      part where
  first := by
    rw [lineAt_length]
    exact Nat.le_add_right 1 _
  last := by
    rw [lineAt_length, lineFeeds, lineFeeds, List.count_append]
    exact Nat.add_le_add_left (Nat.le_add_right _ _) 1
  within := by
    rw [lineAt_length, Nat.add_sub_cancel_left]
    exact exists_line_of_part before after whole

end ScriptGate.Text
