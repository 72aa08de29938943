import ScriptGate.Pattern.Matcher
import ScriptGate.Proofs.Text.Case

/-! # Patterns that ignore case

Under the flag for case no part of a pattern sees the case of an ASCII letter: sets, anchors and
boundaries read a text and its lower-case form alike. So the matcher goes through both in step,
whatever it prefers and wherever it goes back (`matchThen_lowercase`), and a pattern occurs in a
text exactly when it occurs in the lower-case form (`occursIn_lowercaseAscii`). -/

namespace ScriptGate

/-! ### Sets -/

variable {flags : PatternFlags}

theorem SetMember.has_toLower (ignoreCase : flags.ignoreCase = true) (char : Char)
    (member : SetMember) : member.has flags char.toLower = member.has flags char := by
  cases member with
  | char member =>
      simp only [has, ignoreCase, Bool.not_true, Bool.false_eq_true, ↓reduceIte,
        Text.sameLetter_toLower, Text.lowerCode_toLower]
  | range first last => simp only [has, ignoreCase, ↓reduceIte, Text.rangeHasLetter_toLower]
  | digit negated => simp only [has, Text.isDigit_toLower]
  | blank negated => simp only [has, Text.isBlank_toLower]
  | word negated => simp only [has, Text.isWord_toLower]

theorem CharSet.has_toLower (ignoreCase : flags.ignoreCase = true) (char : Char) (set : CharSet) :
    set.has flags char.toLower = set.has flags char := by
  cases set with
  | any =>
      have same : (char.toLower != '\n') = (char != '\n') :=
        Text.eq_toLower_of_agree ((· != '\n')) (by decide) char
      simp only [has, same]
  | only negated wanted => simp only [has, ignoreCase, ↓reduceIte, Text.sameLetter_toLower]
  | members negated list =>
      have same : (fun member : SetMember => member.has flags char.toLower) =
          fun member => member.has flags char :=
        funext fun member => member.has_toLower ignoreCase char
      simp only [has, same]

/-! ### Places -/

namespace Place

/-- The same place in the lower-case form of the text. -/
def lowercase (place : Place) : Place where
  before := place.before.map Char.toLower
  after := Text.lowercaseAscii place.after
  left := place.left
  left_eq := by rw [place.left_eq, Text.lowercaseAscii, List.length_map]

theorem lowercase_between (before : Option Char) (text : List Char) :
    (between before text).lowercase =
      between (before.map Char.toLower) (Text.lowercaseAscii text) := by
  simp only [lowercase, between, Text.lowercaseAscii, List.length_map]

theorem step?_lowercase (place : Place) :
    place.lowercase.step? =
      place.step?.map fun (char, next) => (char.toLower, next.lowercase) := by
  obtain ⟨before, after, left, rfl⟩ := place
  cases after with
  | nil => rfl
  | cons char after => rfl

theorem startsLine_lowercase (place : Place) :
    place.lowercase.startsLine flags = place.startsLine flags := by
  cases before : place.before with
  | none => simp only [startsLine, lowercase, before, Option.map_none]
  | some char =>
      have same : (some char.toLower == some '\n') = (some char == some '\n') :=
        Text.eq_toLower_of_agree ((some · == some '\n')) (by decide) char
      simp only [startsLine, lowercase, before, Option.map_some, Option.isNone_some, same]

theorem endsLine_lowercase (place : Place) :
    place.lowercase.endsLine flags = place.endsLine flags := by
  cases after : place.after with
  | nil => simp only [endsLine, lowercase, after, Text.lowercaseAscii, List.map_nil]
  | cons char text =>
      have same : (char.toLower == '\n') = (char == '\n') :=
        Text.eq_toLower_of_agree ((· == '\n')) (by decide) char
      simp only [endsLine, lowercase, after, Text.lowercaseAscii, List.map_cons,
        List.isEmpty_cons, List.cons_beq_cons, List.head?_cons, Option.some_beq_some, same]
      cases text <;> rfl

theorem isBoundary_lowercase (place : Place) : place.lowercase.isBoundary = place.isBoundary := by
  have same (side : Option Char) : (side.map Char.toLower).any Text.isWord =
      side.any Text.isWord := by
    cases side with
    | none => rfl
    | some char => exact Text.isWord_toLower char
  simp only [isBoundary, lowercase, Text.lowercaseAscii, List.head?_map, same]

end Place

/-! ### The matcher -/

namespace Pattern

/-- A rest that goes on in the lower-case form as another rest does in the text. -/
def InStep (lowered rest : Place → Option Place) : Prop :=
  ∀ place, lowered place.lowercase = (rest place).map Place.lowercase

section
variable {step lowered : Place → (Place → Option Place) → Option Place} {manner : Manner}

/-- Choices that are made in step. -/
theorem orElse_inStep {first second : Option Place} {firstLowered secondLowered : Option Place}
    (sameFirst : firstLowered = first.map Place.lowercase)
    (sameSecond : secondLowered = second.map Place.lowercase) :
    (match firstLowered with | some last => some last | none => secondLowered) =
      (match first with | some last => some last | none => second).map Place.lowercase := by
  subst sameFirst
  cases first with
  | none => exact sameSecond
  | some last => rfl

/-- An anchor that holds at the same places. -/
theorem anchor_inStep {holds : Place → Bool} (same : ∀ place, holds place.lowercase = holds place)
    {after before : Place → Option Place} (rests : InStep after before) :
    InStep (fun place => if holds place then after place else none)
      (fun place => if holds place then before place else none) := by
  intro place
  simp only [same]
  split
  · exact rests place
  · rfl

theorem moreRounds_lowercase
    (inStep : ∀ {after before : Place → Option Place}, InStep after before →
      InStep (lowered · after) (step · before))
    {fuel : Nat} {most : Option Nat} {after before : Place → Option Place}
    (rests : InStep after before) :
    InStep (moreRounds lowered manner fuel most · after)
      (moreRounds step manner fuel most · before) := by
  induction fuel generalizing most with
  | zero => exact rests
  | succ fuel ih =>
      intro place
      -- One more round in step is followed by the rounds of the induction, or by the rests.
      have goesOn : InStep
          (fun next => if next.left < place.lowercase.left then
            moreRounds lowered manner fuel (most.map (· - 1)) next after else after next)
          (fun next => if next.left < place.left then
            moreRounds step manner fuel (most.map (· - 1)) next before else before next) := by
        intro next
        by_cases closer : next.left < place.left
        · simp only [Place.lowercase, closer, ↓reduceIte]
          exact ih next
        · simp only [Place.lowercase, closer, ↓reduceIte]
          exact rests next
      simp only [moreRounds]
      by_cases full : most = some 0
      · simp only [full, ↓reduceIte]
        exact rests place
      simp only [full, ↓reduceIte]
      cases manner with
      | greedy => exact orElse_inStep (inStep goesOn place) (rests place)
      | lazy => exact orElse_inStep (rests place) (inStep goesOn place)
      | possessive =>
          have round : lowered place.lowercase some = (step place some).map Place.lowercase :=
            inStep (fun _ => rfl) place
          simp only [round]
          cases step place some with
          | none => exact rests place
          | some next => exact goesOn next

theorem allRounds_lowercase
    (inStep : ∀ {after before : Place → Option Place}, InStep after before →
      InStep (lowered · after) (step · before))
    {least : Nat} {most : Option Nat} {after before : Place → Option Place}
    (rests : InStep after before) :
    InStep (allRounds lowered manner least most · after)
      (allRounds step manner least most · before) := by
  induction least generalizing most with
  | zero =>
      intro place
      exact moreRounds_lowercase inStep rests place
  | succ least ih =>
      intro place
      have goesOn : InStep (allRounds lowered manner least (most.map (· - 1)) · after)
          (allRounds step manner least (most.map (· - 1)) · before) := ih
      simp only [allRounds]
      cases manner with
      | greedy => exact inStep goesOn place
      | lazy => exact inStep goesOn place
      | possessive =>
          have round : lowered place.lowercase some = (step place some).map Place.lowercase :=
            inStep (fun _ => rfl) place
          simp only [round]
          cases step place some with
          | none => rfl
          | some next => exact goesOn next

end

/-- **The matcher goes through a text and its lower-case form in step.** -/
theorem matchThen_lowercase (ignoreCase : flags.ignoreCase = true) (pattern : Pattern)
    {after before : Place → Option Place} (rests : InStep after before) :
    InStep (pattern.matchThen flags · after) (pattern.matchThen flags · before) := by
  induction pattern generalizing after before with
  | empty => exact rests
  | one set =>
      intro place
      simp only [matchThen, place.step?_lowercase]
      cases place.step? with
      | none => rfl
      | some found =>
          obtain ⟨char, next⟩ := found
          simp only [Option.map_some, set.has_toLower ignoreCase]
          split
          · exact rests next
          · rfl
  | start => exact anchor_inStep Place.startsLine_lowercase rests
  | stop => exact anchor_inStep Place.endsLine_lowercase rests
  | boundary => exact anchor_inStep Place.isBoundary_lowercase rests
  | seq first second ihFirst ihSecond => exact ihFirst (ihSecond rests)
  | alt first second ihFirst ihSecond =>
      intro place
      exact orElse_inStep (ihFirst rests place) (ihSecond rests place)
  | rounds body least most manner ih =>
      exact allRounds_lowercase (fun inStep => ih inStep) rests

theorem matchesAt_lowercase (ignoreCase : flags.ignoreCase = true) (pattern : Pattern)
    (place : Place) :
    pattern.matchesAt flags place.lowercase = pattern.matchesAt flags place := by
  have inStep : pattern.matchThen flags place.lowercase some =
      (pattern.matchThen flags place some).map Place.lowercase :=
    matchThen_lowercase ignoreCase pattern (fun _ => rfl) place
  simp only [matchesAt, inStep, Option.isSome_map]

theorem occursFrom_lowercase (ignoreCase : flags.ignoreCase = true) (pattern : Pattern)
    (fuel : Nat) (place : Place) :
    pattern.occursFrom flags fuel place.lowercase = pattern.occursFrom flags fuel place := by
  induction fuel generalizing place with
  | zero => exact matchesAt_lowercase ignoreCase pattern place
  | succ fuel ih =>
      simp only [occursFrom, matchesAt_lowercase ignoreCase, place.step?_lowercase]
      cases place.step? with
      | none => rfl
      | some found => simp only [Option.map_some, Option.any_some, ih]

/-- **A pattern that ignores case does not see the case of ASCII letters.** -/
theorem occursIn_lowercaseAscii (ignoreCase : flags.ignoreCase = true) (pattern : Pattern)
    (text : List Char) :
    pattern.occursIn flags (Text.lowercaseAscii text) = pattern.occursIn flags text := by
  have same := occursFrom_lowercase ignoreCase pattern text.length (.between none text)
  rw [Place.lowercase_between] at same
  rw [occursIn, Text.lowercaseAscii, List.length_map]
  exact same

end Pattern

end ScriptGate
