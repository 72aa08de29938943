import ScriptGate.Proofs.Pattern.Language

/-! # Patterns for whole texts

Between the anchors for the start and the end of a text, a pattern without anchors reads a text from
its first character to its last one, except that a line feed may follow (`occursIn_whole_iff`). -/

namespace ScriptGate

namespace Place

variable {place next : Place} {text : List Char}

theorem before_of_step? {char : Char} (step : place.step? = some (char, next)) :
    next.before = some char := by
  have following := after_of_step? step
  rw [eq_between place, following, step?_between_cons] at step
  exact congrArg Place.before (Prod.mk.inj (Option.some.inj step)).2.symm

/-- A place that is reached by reading something has a character before it. -/
theorem Reads.isSome_before (reads : place.Reads text next) (nonempty : text ≠ []) :
    next.before.isSome := by
  induction reads with
  | here => exact absurd rfl nonempty
  | step step rest ih =>
      cases rest with
      | here => rw [before_of_step? step, Option.isSome_some]
      | step => exact ih (List.cons_ne_nil _ _)

end Place

namespace Pattern

variable {flags : PatternFlags} {parts : List Pattern} {text : List Char}

/-- Patterns one after the other. -/
def sequence : List Pattern → Pattern
  | [] => .empty
  | part :: parts => .seq part (sequence parts)

/-- The pattern for a whole text that consists of the given parts. -/
def whole (parts : List Pattern) : Pattern := .seq (parts.foldl .seq .start) .stop

theorem isFloating_sequence (floating : ∀ part ∈ parts, part.isFloating = true) :
    (sequence parts).isFloating = true := by
  induction parts with
  | nil => rfl
  | cons part parts ih =>
      obtain ⟨isFloating, others⟩ := List.forall_mem_cons.mp floating
      exact Bool.and_eq_true_iff.mpr ⟨isFloating, ih others⟩

theorem matchThen_foldl_seq (first : Pattern) (others : List Pattern) (place : Place)
    (rest : Place → Option Place) :
    (others.foldl .seq first).matchThen flags place rest =
      first.matchThen flags place fun middle => (sequence others).matchThen flags middle rest := by
  induction others generalizing first with
  | nil => rfl
  | cons second others ih => exact ih (.seq first second)

/-- The place itself, if the text ends there or before a last line feed. -/
def atEnd (flags : PatternFlags) (place : Place) : Option Place :=
  if place.endsLine flags then some place else none

theorem matchesAt_whole (place : Place) :
    (whole parts).matchesAt flags place =
      (place.startsLine flags &&
        ((sequence parts).matchThen flags place (atEnd flags)).isSome) := by
  have unfolded : (whole parts).matchThen flags place some =
      (parts.foldl Pattern.seq .start).matchThen flags place (atEnd flags) := rfl
  rw [matchesAt, unfolded, matchThen_foldl_seq, matchThen]
  cases place.startsLine flags <;> rfl

theorem isSome_matchThen_iff {pattern : Pattern} (floating : pattern.isFloating = true)
    {place : Place} {rest : Place → Option Place} :
    (pattern.matchThen flags place rest).isSome ↔
      ∃ text next, place.Reads text next ∧ text ∈ pattern.language flags ∧ (rest next).isSome := by
  constructor
  · intro isSome
    obtain ⟨last, found⟩ := Option.isSome_iff_exists.mp isSome
    obtain ⟨text, next, reads, member, done⟩ := endsAfter_of_matchThen found
    exact ⟨text, next, reads, member, done ▸ rfl⟩
  · rintro ⟨text, next, reads, member, done⟩
    exact isSome_matchThen floating reads member done

theorem isSome_atEnd_iff (singleLine : flags.multiline = false) (place : Place) :
    (atEnd flags place).isSome ↔ place.after = [] ∨ place.after = ['\n'] := by
  simp [atEnd, Place.endsLine, singleLine]

/-- A pattern for a whole text occurs in the texts of its parts, and in those that a line feed
follows. -/
theorem occursIn_whole_iff (singleLine : flags.multiline = false)
    (floating : ∀ part ∈ parts, part.isFloating = true) :
    (whole parts).occursIn flags text = true ↔
      ∃ body ∈ (sequence parts).language flags, text = body ∨ text = body ++ ['\n'] := by
  have enough : (Place.between none text).left ≤ text.length := le_rfl
  rw [occursIn, occursFrom_eq_true_iff enough]
  constructor
  · rintro ⟨skipped, place, reads, found⟩
    rw [matchesAt_whole, Bool.and_eq_true, isSome_matchThen_iff (isFloating_sequence floating)]
      at found
    obtain ⟨starts, body, next, readsBody, member, done⟩ := found
    have atStart : skipped = [] := by
      by_contra nonempty
      have before := reads.isSome_before nonempty
      simp only [Place.startsLine, singleLine, Bool.false_and, Bool.or_false,
        Option.isNone_iff_eq_none] at starts
      rw [starts] at before
      cases before
    cases atStart
    cases reads
    have same : text = body ++ next.after := readsBody.after_eq
    refine ⟨body, member, ?_⟩
    rcases (isSome_atEnd_iff singleLine next).mp done with after | after
    · exact .inl (by rw [same, after, List.append_nil])
    · exact .inr (by rw [same, after])
  · rintro ⟨body, member, ends⟩
    obtain ⟨rest, same, isEnd⟩ : ∃ rest, text = body ++ rest ∧ (rest = [] ∨ rest = ['\n']) := by
      rcases ends with rfl | rfl
      · exact ⟨[], (List.append_nil _).symm, .inl rfl⟩
      · exact ⟨_, rfl, .inr rfl⟩
    have following : (Place.between none text).after = body ++ rest := same
    obtain ⟨next, reads, after⟩ := Place.exists_reads following
    refine ⟨[], .between none text, .here _, ?_⟩
    rw [matchesAt_whole, Bool.and_eq_true, isSome_matchThen_iff (isFloating_sequence floating)]
    refine ⟨rfl, body, next, reads, member, (isSome_atEnd_iff singleLine next).mpr ?_⟩
    rw [after]
    exact isEnd

end Pattern

end ScriptGate
