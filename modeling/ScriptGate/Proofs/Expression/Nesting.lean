import ScriptGate.Expression.Shape
import Mathlib.Data.List.Basic

/-! # Nested brackets

A text is nested when every bracket in it is matched by one of its kind (`Nested`). Reading a text
with the closing brackets that are due decides this (`nested_iff_dueAfter?`). The number of closing
brackets that are due is the difference between the opening and the closing brackets read so far
(`length_of_dueAfter?`), and the first of them closes the innermost bracket that is open
(`awaits_iff_head?`). -/

namespace ScriptGate.Expression

/-- The characters of some pieces that stand outside comments and string literals. -/
def codeOf (pieces : List Piece) : List Char :=
  pieces.filterMap fun
    | .code char => some char
    | _ => none

theorem codeOf_append (first second : List Piece) :
    codeOf (first ++ second) = codeOf first ++ codeOf second :=
  List.filterMap_append

theorem codeOf_cons (piece : Piece) (tail : List Piece) :
    codeOf (piece :: tail) = codeOf [piece] ++ codeOf tail :=
  codeOf_append [piece] tail

/-- Texts whose brackets match in kind, each pair inside the pairs around it. -/
inductive Nested : List Char → Prop where
  | nil : Nested []
  | other {char : Char} {text : List Char} (noOpener : closerOf? char = none)
      (noCloser : isCloser char = false) (tail : Nested text) : Nested (char :: text)
  | pair {opener closer : Char} {inner text : List Char} (kind : closerOf? opener = some closer)
      (inside : Nested inner) (tail : Nested text) : Nested (opener :: (inner ++ closer :: text))

/-- How many brackets a text opens beyond those it closes. -/
def depth (text : List Char) : Int :=
  text.countP (fun char => (closerOf? char).isSome) - text.countP isCloser

/-- The closing brackets that are due after one more character, unless it closes a bracket that is
not open. -/
def dueAfterChar? (due : List Char) (char : Char) : Option (List Char) :=
  match closerOf? char with
  | some closer => some (closer :: due)
  | none =>
    if isCloser char then
      match due with
      | [] => none
      | first :: outer => if first = char then some outer else none
    else some due

/-- The closing brackets that are due after a text, the innermost first. -/
def dueAfter? (due : List Char) : List Char → Option (List Char)
  | [] => some due
  | char :: text => (dueAfterChar? due char).bind fun next => dueAfter? next text

/-! ### Brackets -/

theorem isCloser_iff {char : Char} :
    isCloser char = true ↔ char = ')' ∨ char = ']' ∨ char = '\x7d' := by
  simp only [isCloser, Bool.or_eq_true, decide_eq_true_eq, or_assoc]

/-- What closes a bracket is a closing bracket. -/
theorem isCloser_of_closerOf? {opener closer : Char} (kind : closerOf? opener = some closer) :
    isCloser closer = true := by
  unfold closerOf? at kind
  split at kind <;> cases kind <;> rfl

/-- A closing bracket opens nothing. -/
theorem closerOf?_of_isCloser {char : Char} (closes : isCloser char = true) :
    closerOf? char = none := by
  rcases isCloser_iff.mp closes with rfl | rfl | rfl <;> rfl

/-- A class of characters that contains no bracket. -/
theorem noBracket_of_class {test : Char → Bool}
    (apart : ['(', '[', '\x7b', ')', ']', '\x7d'].all (!test ·) = true) {char : Char}
    (holds : test char = true) : closerOf? char = none ∧ isCloser char = false := by
  have other : ∀ bracket ∈ ['(', '[', '\x7b', ')', ']', '\x7d'], char ≠ bracket := by
    rintro bracket member rfl
    have fails := List.all_eq_true.mp apart char member
    rw [holds] at fails
    cases fails
  constructor
  · unfold closerOf?
    split <;> first | rfl | exact absurd rfl (other _ (by decide))
  · by_contra closes
    rcases isCloser_iff.mp (Bool.of_not_eq_false closes) with rfl | rfl | rfl <;>
      exact absurd rfl (other _ (by decide))

theorem dueAfterChar?_opener {opener closer : Char} (kind : closerOf? opener = some closer)
    (due : List Char) : dueAfterChar? due opener = some (closer :: due) := by
  simp only [dueAfterChar?, kind]

theorem dueAfterChar?_closer {closer : Char} (closes : isCloser closer = true)
    (outer : List Char) : dueAfterChar? (closer :: outer) closer = some outer := by
  simp only [dueAfterChar?, closerOf?_of_isCloser closes, closes, ↓reduceIte]

theorem dueAfterChar?_other {char : Char} (noOpener : closerOf? char = none)
    (noCloser : isCloser char = false) (due : List Char) :
    dueAfterChar? due char = some due := by
  simp only [dueAfterChar?, noOpener, noCloser, Bool.false_eq_true, ↓reduceIte]

/-- What one character can do to the closing brackets that are due. -/
theorem dueAfterChar?_cases {due next : List Char} {char : Char}
    (step : dueAfterChar? due char = some next) :
    (∃ closer, closerOf? char = some closer ∧ next = closer :: due) ∨
      (isCloser char = true ∧ due = char :: next) ∨
      (closerOf? char = none ∧ isCloser char = false ∧ next = due) := by
  cases kind : closerOf? char with
  | some closer =>
      rw [dueAfterChar?_opener kind, Option.some.injEq] at step
      exact .inl ⟨closer, rfl, step.symm⟩
  | none =>
      by_cases closes : isCloser char = true
      · simp only [dueAfterChar?, kind, closes, ↓reduceIte] at step
        cases due with
        | nil => cases step
        | cons first outer =>
            simp only at step
            by_cases same : first = char
            · rw [if_pos same, Option.some.injEq] at step
              exact .inr (.inl ⟨closes, by rw [same, step]⟩)
            · rw [if_neg same] at step
              cases step
      · have noCloser := Bool.of_not_eq_true closes
        rw [dueAfterChar?_other kind noCloser, Option.some.injEq] at step
        exact .inr (.inr ⟨rfl, noCloser, step.symm⟩)

/-! ### Reading a text -/

theorem dueAfter?_append (due first second : List Char) :
    dueAfter? due (first ++ second) =
      (dueAfter? due first).bind fun next => dueAfter? next second := by
  induction first generalizing due with
  | nil => rfl
  | cons char first ih =>
      rw [List.cons_append, dueAfter?, dueAfter?, Option.bind_assoc]
      exact congrArg _ (funext fun next => ih next)

theorem dueAfter?_append_of_eq_some {due middle first : List Char}
    (read : dueAfter? due first = some middle) (second : List Char) :
    dueAfter? due (first ++ second) = dueAfter? middle second := by
  rw [dueAfter?_append, read, Option.bind_some]

theorem dueAfter?_singleton (due : List Char) (char : Char) :
    dueAfter? due [char] = dueAfterChar? due char := by
  rw [dueAfter?]
  cases dueAfterChar? due char <;> rfl

/-- Brackets around a text do not matter for the brackets in it. -/
theorem dueAfter?_outer {due next text : List Char} (read : dueAfter? due text = some next)
    (outer : List Char) : dueAfter? (due ++ outer) text = some (next ++ outer) := by
  induction text generalizing due with
  | nil =>
      rw [dueAfter?, Option.some.injEq] at read
      rw [dueAfter?, read]
  | cons char text ih =>
      rw [dueAfter?, Option.bind_eq_some_iff] at read
      obtain ⟨middle, step, read⟩ := read
      have outerStep : dueAfterChar? (due ++ outer) char = some (middle ++ outer) := by
        rcases dueAfterChar?_cases step with
          ⟨closer, kind, rfl⟩ | ⟨closes, rfl⟩ | ⟨noOpener, noCloser, rfl⟩
        · exact dueAfterChar?_opener kind _
        · exact dueAfterChar?_closer closes _
        · exact dueAfterChar?_other noOpener noCloser _
      rw [dueAfter?, outerStep, Option.bind_some]
      exact ih read

/-- The brackets that are due count how deep a text ends. -/
theorem length_of_dueAfter? {due next text : List Char} (read : dueAfter? due text = some next) :
    (next.length : Int) = due.length + depth text := by
  induction text generalizing due with
  | nil =>
      rw [dueAfter?, Option.some.injEq] at read
      simp [read, depth]
  | cons char text ih =>
      rw [dueAfter?, Option.bind_eq_some_iff] at read
      obtain ⟨middle, step, read⟩ := read
      have deeper := ih read
      simp only [depth, List.countP_cons] at deeper ⊢
      rcases dueAfterChar?_cases step with
        ⟨closer, kind, rfl⟩ | ⟨closes, rfl⟩ | ⟨noOpener, noCloser, rfl⟩
      · have noCloser : isCloser char = false := by
          by_contra closes
          have := closerOf?_of_isCloser (Bool.of_not_eq_false closes)
          exact Option.some_ne_none _ (kind.symm.trans this)
        simp only [kind, noCloser, Option.isSome_some, Bool.false_eq_true, ↓reduceIte,
          List.length_cons] at deeper ⊢
        omega
      · simp only [closerOf?_of_isCloser closes, closes, Option.isSome_none, Bool.false_eq_true,
          ↓reduceIte, List.length_cons]
        omega
      · simp only [noOpener, noCloser, Option.isSome_none, Bool.false_eq_true, ↓reduceIte]
        omega

/-! ### Reading decides nesting -/

theorem Nested.dueAfter? {text : List Char} (nested : Nested text) (due : List Char) :
    dueAfter? due text = some due := by
  induction nested generalizing due with
  | nil => rfl
  | other noOpener noCloser _ ih =>
      rw [Expression.dueAfter?, dueAfterChar?_other noOpener noCloser, Option.bind_some, ih]
  | @pair opener closer inner text kind _ _ inside tail =>
      rw [Expression.dueAfter?, dueAfterChar?_opener kind, Option.bind_some,
        dueAfter?_append_of_eq_some (inside (closer :: due)), Expression.dueAfter?,
        dueAfterChar?_closer (isCloser_of_closerOf? kind), Option.bind_some, tail]

/-- Texts that close some brackets in order, with nested texts around their closers. -/
inductive Closes : List Char → List Char → Prop where
  | done {text : List Char} (nested : Nested text) : Closes [] text
  | close {first : Char} {outer inner text : List Char} (inside : Nested inner)
      (rest : Closes outer text) : Closes (first :: outer) (inner ++ first :: text)

/-- What may stand before every nested text may stand before a text that closes brackets. -/
theorem Closes.prepend {due text : List Char} (closes : Closes due text) (start : List Char)
    (harmless : ∀ inner, Nested inner → Nested (start ++ inner)) : Closes due (start ++ text) := by
  cases closes with
  | done nested => exact .done (harmless _ nested)
  | close inside rest =>
      rw [← List.append_assoc]
      exact .close (harmless _ inside) rest

/-- The innermost bracket that a text leaves open is one that the given bracket closes. -/
def Awaits (text : List Char) (closer : Char) : Prop :=
  ∃ outer opener inner, text = outer ++ opener :: inner ∧ closerOf? opener = some closer ∧
    Nested inner

/-- Of the closing brackets that are due after a text, the text itself makes the first one due, or
it closes brackets that were open before it and leaves the others due. The induction is on the text;
an opening bracket adds the nested text up to its closer to the text that follows. -/
theorem awaits_or_closes {due left text : List Char} (read : dueAfter? due text = some left) :
    (∃ closer ∈ left.head?, Awaits text closer) ∨
      ∃ closed, due = closed ++ left ∧ Closes closed text := by
  induction text generalizing due with
  | nil =>
      rw [dueAfter?, Option.some.injEq] at read
      exact .inr ⟨[], read, .done .nil⟩
  | cons char text ih =>
      rw [dueAfter?, Option.bind_eq_some_iff] at read
      obtain ⟨middle, step, read⟩ := read
      rcases ih read with
        ⟨closer, first, outer, opener, inner, rfl, kind, nested⟩ | ⟨closed, rfl, tail⟩
      · exact .inl ⟨closer, first, char :: outer, opener, inner, rfl, kind, nested⟩
      · rcases dueAfterChar?_cases step with
          ⟨closer, kind, opens⟩ | ⟨closes, rfl⟩ | ⟨noOpener, noCloser, rfl⟩
        · cases tail with
          | done nested =>
              rw [List.nil_append] at opens
              exact .inl ⟨closer, by rw [opens]; rfl, [], char, text, rfl, kind, nested⟩
          | @close _ outer inner rest inside tail =>
              obtain ⟨rfl, rfl⟩ := List.cons.inj opens
              have opened := tail.prepend (char :: (inner ++ [_])) fun after nested => by
                simpa using Nested.pair kind inside nested
              exact .inr ⟨outer, rfl, by simpa using opened⟩
        · exact .inr ⟨char :: closed, rfl, .close .nil tail⟩
        · exact .inr ⟨closed, rfl,
            tail.prepend [char] fun _ nested => .other noOpener noCloser nested⟩

/-- A text that leaves nothing due closes what was due before it. -/
theorem closes_of_dueAfter? {due text : List Char} (read : dueAfter? due text = some []) :
    Closes due text := by
  rcases awaits_or_closes read with ⟨_, first, _⟩ | ⟨closed, rfl, closes⟩
  · cases first
  · rwa [List.append_nil]

/-- A text awaits the closing bracket that is due first after it. -/
theorem awaits_iff_head? {text due : List Char} (read : dueAfter? [] text = some due)
    (closer : Char) : Awaits text closer ↔ due.head? = some closer := by
  constructor
  · rintro ⟨outer, opener, inner, rfl, kind, nested⟩
    rw [dueAfter?_append, Option.bind_eq_some_iff] at read
    obtain ⟨middle, _, read⟩ := read
    rw [dueAfter?, dueAfterChar?_opener kind, Option.bind_some, nested.dueAfter?,
      Option.some.injEq] at read
    rw [← read]
    rfl
  · intro isFirst
    rcases awaits_or_closes read with ⟨other, first, awaits⟩ | ⟨closed, same, _⟩
    · rw [isFirst] at first
      exact Option.some.inj first ▸ awaits
    · obtain ⟨_, rfl⟩ := List.append_eq_nil_iff.mp same.symm
      cases isFirst

/-- A text is read over a closing bracket only where the bracket is awaited. -/
theorem awaits_of_dueAfter? {before after due : List Char} {closer : Char}
    (read : dueAfter? [] (before ++ closer :: after) = some due)
    (closes : isCloser closer = true) : Awaits before closer := by
  rw [dueAfter?_append, Option.bind_eq_some_iff] at read
  obtain ⟨middle, start, read⟩ := read
  rw [dueAfter?, Option.bind_eq_some_iff] at read
  obtain ⟨next, step, _⟩ := read
  rw [awaits_iff_head? start]
  rcases dueAfterChar?_cases step with ⟨_, kind, _⟩ | ⟨_, rfl⟩ | ⟨_, noCloser, _⟩
  · rw [closerOf?_of_isCloser closes] at kind
    cases kind
  · rfl
  · rw [closes] at noCloser
    cases noCloser

theorem nested_iff_dueAfter? {text : List Char} : Nested text ↔ dueAfter? [] text = some [] := by
  constructor
  · intro nested
    exact nested.dueAfter? []
  · intro read
    cases closes_of_dueAfter? read with
    | done nested => exact nested

end ScriptGate.Expression
