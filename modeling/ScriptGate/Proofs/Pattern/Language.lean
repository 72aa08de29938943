import Mathlib.Computability.Language
import ScriptGate.Pattern.Matcher

/-! # The language of a pattern

A pattern reads the texts of a language (`exists_reads_of_matchThen`). A floating pattern has no
anchors and no possessive repetitions; it reads every text of its language wherever the text stands
(`isSome_matchThen`). So a floating pattern occurs in a text exactly when some part of the text is
in its language (`occursIn_iff`), and the text around that part does not matter. -/

namespace ScriptGate

/-! ### Places -/

namespace Place

/-- The place that is reached from a place by reading a text. -/
inductive Reads : Place → List Char → Place → Prop where
  | here (place : Place) : Reads place [] place
  | step {place next last : Place} {char : Char} {text : List Char}
      (step : place.step? = some (char, next)) (rest : Reads next text last) :
      Reads place (char :: text) last

variable {place middle next : Place} {char : Char} {text more : List Char}

theorem step?_between_cons (before : Option Char) (char : Char) (text : List Char) :
    (between before (char :: text)).step? = some (char, between (some char) text) := rfl

theorem eq_between (place : Place) : place = between place.before place.after := by
  obtain ⟨before, after, left, rfl⟩ := place
  rfl

theorem after_of_step? (step : place.step? = some (char, next)) :
    place.after = char :: next.after := by
  rw [eq_between place] at step ⊢
  cases following : place.after with
  | nil =>
      rw [following] at step
      cases step
  | cons first after =>
      rw [following, step?_between_cons] at step
      cases step
      rfl

theorem exists_step? (following : place.after = char :: text) :
    ∃ next, place.step? = some (char, next) ∧ next.after = text := by
  rw [eq_between place, following]
  exact ⟨_, step?_between_cons _ _ _, rfl⟩

theorem Reads.after_eq (reads : place.Reads text next) : place.after = text ++ next.after := by
  induction reads with
  | here => rfl
  | step step _ ih => rw [after_of_step? step, ih, List.cons_append]

theorem Reads.left_eq (reads : place.Reads text next) : place.left = text.length + next.left := by
  rw [place.left_eq, next.left_eq, reads.after_eq, List.length_append]

theorem Reads.append (reads : place.Reads text middle) (others : middle.Reads more next) :
    place.Reads (text ++ more) next := by
  induction reads with
  | here => exact others
  | step step _ ih => exact .step step (ih others)

theorem Reads.split (reads : place.Reads (text ++ more) next) :
    ∃ middle, place.Reads text middle ∧ middle.Reads more next := by
  induction text generalizing place with
  | nil => exact ⟨place, .here place, reads⟩
  | cons char text ih =>
      cases reads with
      | step step rest =>
          obtain ⟨middle, reads, others⟩ := ih rest
          exact ⟨middle, .step step reads, others⟩

theorem exists_reads (following : place.after = text ++ more) :
    ∃ next, place.Reads text next ∧ next.after = more := by
  induction text generalizing place with
  | nil => exact ⟨place, .here place, following⟩
  | cons char text ih =>
      obtain ⟨middle, step, after⟩ := exists_step? following
      obtain ⟨next, reads, same⟩ := ih after
      exact ⟨next, .step step reads, same⟩

end Place

namespace Pattern

/-! ### Languages -/

/-- The texts that a pattern can read. An anchor reads nothing. -/
def language (flags : PatternFlags) : Pattern → Language Char
  | .empty | .start | .stop | .boundary => 1
  | .one set => {text | ∃ char, set.has flags char = true ∧ text = [char]}
  | .seq first second => first.language flags * second.language flags
  | .alt first second => first.language flags + second.language flags
  | .rounds body least most _ =>
    {text | ∃ count, text ∈ body.language flags ^ count ∧ least ≤ count ∧
      ∀ bound ∈ most, count ≤ max least bound}

/-- Whether a pattern has no anchors and no possessive repetitions. -/
def isFloating : Pattern → Bool
  | .empty | .one _ => true
  | .start | .stop | .boundary => false
  | .seq first second | .alt first second => first.isFloating && second.isFloating
  | .rounds body _ _ manner => manner != .possessive && body.isFloating

variable {flags : PatternFlags} {text : List Char}

/-! ### What a pattern reads is in its language -/

section
variable {step : Place → (Place → Option Place) → Option Place} {language : Language Char}
  {place next last : Place} {rest : Place → Option Place} {most : Option Nat}

/-- The rest ends at a place when it goes on after some text of a language. -/
def EndsAfter (language : Language Char) (place : Place) (rest : Place → Option Place)
    (last : Place) : Prop :=
  ∃ text next, place.Reads text next ∧ text ∈ language ∧ rest next = some last

theorem EndsAfter.here (done : rest place = some last) : EndsAfter 1 place rest last :=
  ⟨[], place, .here place, (Language.mem_one []).mpr rfl, done⟩

theorem EndsAfter.prepend {others : Language Char} (reads : place.Reads text next)
    (member : text ∈ language) (ends : EndsAfter others next rest last) :
    EndsAfter (language * others) place rest last := by
  obtain ⟨more, final, readsMore, members, done⟩ := ends
  exact ⟨text ++ more, final, reads.append readsMore, Language.append_mem_mul member members, done⟩

/-- The rest ends after some number of texts of a language, which the greatest number allows. -/
def EndsAfterRounds (language : Language Char) (most : Option Nat) (place : Place)
    (rest : Place → Option Place) (last : Place) : Prop :=
  ∃ count, (∀ bound ∈ most, count ≤ bound) ∧ EndsAfter (language ^ count) place rest last

theorem EndsAfterRounds.here (done : rest place = some last) :
    EndsAfterRounds language most place rest last :=
  ⟨0, fun _ _ => Nat.zero_le _, pow_zero language ▸ .here done⟩

/-- One more round comes before rounds that end. -/
theorem EndsAfterRounds.prepend (room : most ≠ some 0) (reads : place.Reads text next)
    (member : text ∈ language)
    (ends : EndsAfterRounds language (most.map (· - 1)) next rest last) :
    EndsAfterRounds language most place rest last := by
  obtain ⟨count, within, ends⟩ := ends
  refine ⟨count + 1, ?_, pow_succ' language count ▸ ends.prepend reads member⟩
  intro bound isBound
  have fits := within (bound - 1) (Option.mem_map_of_mem _ isBound)
  have positive : bound ≠ 0 := by
    rintro rfl
    exact room isBound
  omega

theorem endsAfterRounds_of_moreRounds
    (sound : ∀ place rest last, step place rest = some last → EndsAfter language place rest last)
    {manner : Manner} {fuel : Nat}
    (found : moreRounds step manner fuel most place rest = some last) :
    EndsAfterRounds language most place rest last := by
  induction fuel generalizing most place with
  | zero => exact .here found
  | succ fuel ih =>
      by_cases full : most = some 0
      · simp only [moreRounds, if_pos full] at found
        exact .here found
      -- What goes on after one more round: the rounds that the induction knows, or the rest.
      have again {next : Place} {text : List Char} (reads : place.Reads text next)
          (member : text ∈ language)
          (found : (if next.left < place.left then
            moreRounds step manner fuel (most.map (· - 1)) next rest
            else rest next) = some last) : EndsAfterRounds language most place rest last := by
        split at found
        · exact .prepend full reads member (ih found)
        · exact .prepend full reads member (.here found)
      simp only [moreRounds, if_neg full] at found
      cases manner with
      | greedy =>
          simp only at found
          split at found
          · next other round =>
              cases found
              obtain ⟨text, next, reads, member, done⟩ := sound _ _ _ round
              exact again reads member done
          · exact .here found
      | lazy =>
          simp only at found
          split at found
          · next other done =>
              cases found
              exact .here done
          · obtain ⟨text, next, reads, member, done⟩ := sound _ _ _ found
            exact again reads member done
      | possessive =>
          simp only at found
          split at found
          · next reached round =>
              obtain ⟨text, next, reads, member, same⟩ := sound _ _ _ round
              cases same
              exact again reads member found
          · exact .here found

theorem exists_endsAfter_of_allRounds
    (sound : ∀ place rest last, step place rest = some last → EndsAfter language place rest last)
    {manner : Manner} {least : Nat}
    (found : allRounds step manner least most place rest = some last) :
    ∃ count, least ≤ count ∧ (∀ bound ∈ most, count ≤ max least bound) ∧
      EndsAfter (language ^ count) place rest last := by
  induction least generalizing most place with
  | zero =>
      obtain ⟨count, within, ends⟩ := endsAfterRounds_of_moreRounds sound found
      exact ⟨count, Nat.zero_le _, fun bound isBound => le_max_of_le_right (within bound isBound),
        ends⟩
  | succ least ih =>
      have round : ∃ text next, place.Reads text next ∧ text ∈ language ∧
          allRounds step manner least (most.map (· - 1)) next rest = some last := by
        cases manner with
        | greedy => exact sound _ _ _ found
        | lazy => exact sound _ _ _ found
        | possessive =>
            obtain ⟨reached, round, goesOn⟩ := Option.bind_eq_some_iff.mp found
            obtain ⟨text, next, reads, member, same⟩ := sound _ _ _ round
            cases same
            exact ⟨text, _, reads, member, goesOn⟩
      obtain ⟨text, next, reads, member, found⟩ := round
      obtain ⟨count, enough, within, ends⟩ := ih found
      refine ⟨count + 1, Nat.succ_le_succ enough, ?_,
        pow_succ' language count ▸ ends.prepend reads member⟩
      intro bound isBound
      have fits := within (bound - 1) (Option.mem_map_of_mem _ isBound)
      omega

end

/-- **What a pattern reads is in its language**, whatever its anchors and repetitions are. -/
theorem endsAfter_of_matchThen {pattern : Pattern} {place last : Place}
    {rest : Place → Option Place} (found : pattern.matchThen flags place rest = some last) :
    EndsAfter (pattern.language flags) place rest last := by
  induction pattern generalizing place rest last with
  | empty => exact .here found
  | one set =>
      rw [matchThen] at found
      split at found
      · cases found
      · next char next step =>
          split at found
          · next has => exact ⟨[char], next, .step step (.here next), ⟨char, has, rfl⟩, found⟩
          · cases found
  | start | stop | boundary =>
      rw [matchThen] at found
      split at found
      · exact .here found
      · cases found
  | seq first second ihFirst ihSecond =>
      obtain ⟨text, middle, reads, member, found⟩ := ihFirst found
      exact (ihSecond found).prepend reads member
  | alt first second ihFirst ihSecond =>
      rw [matchThen] at found
      split at found
      · next inFirst =>
          cases found
          obtain ⟨text, next, reads, member, done⟩ := ihFirst inFirst
          exact ⟨text, next, reads, (Language.mem_add _ _ _).mpr (.inl member), done⟩
      · obtain ⟨text, next, reads, member, done⟩ := ihSecond found
        exact ⟨text, next, reads, (Language.mem_add _ _ _).mpr (.inr member), done⟩
  | rounds body least most manner ih =>
      obtain ⟨count, enough, within, text, next, reads, member, done⟩ :=
        exists_endsAfter_of_allRounds (fun _ _ _ found => ih found) found
      exact ⟨text, next, reads, ⟨count, member, enough, within⟩, done⟩

/-! ### A floating pattern reads every text of its language -/

section
variable {step : Place → (Place → Option Place) → Option Place} {language : Language Char}
  {place next : Place} {rest : Place → Option Place} {most : Option Nat} {manner : Manner}

/-- Further rounds need not be made. -/
theorem isSome_moreRounds_of_rest (gives : manner ≠ .possessive) (fuel : Nat)
    (done : (rest place).isSome) : (moreRounds step manner fuel most place rest).isSome := by
  cases fuel with
  | zero => exact done
  | succ fuel =>
      simp only [moreRounds]
      split
      · exact done
      · cases manner with
        | greedy =>
            simp only
            split
            · rfl
            · exact done
        | lazy =>
            obtain ⟨last, same⟩ := Option.isSome_iff_exists.mp done
            simp only [same, Option.isSome_some]
        | possessive => exact absurd rfl gives

/-- Rounds that read some characters each are found when the fuel is enough. -/
theorem isSome_moreRounds
    (complete : ∀ {place text next rest}, place.Reads text next → text ∈ language →
      (rest next).isSome → (step place rest).isSome)
    (gives : manner ≠ .possessive) {fuel : Nat} (enough : place.left ≤ fuel)
    {texts : List (List Char)} (within : ∀ bound ∈ most, texts.length ≤ bound)
    (members : ∀ text ∈ texts, text ∈ language) (nonempty : ∀ text ∈ texts, text ≠ [])
    (reads : place.Reads texts.flatten next) (done : (rest next).isSome) :
    (moreRounds step manner fuel most place rest).isSome := by
  induction texts generalizing place fuel most with
  | nil =>
      cases reads
      exact isSome_moreRounds_of_rest gives fuel done
  | cons text texts ih =>
      obtain ⟨middle, readsOne, readsOthers⟩ := Place.Reads.split reads
      obtain ⟨member, members⟩ := List.forall_mem_cons.mp members
      obtain ⟨isText, nonempty⟩ := List.forall_mem_cons.mp nonempty
      have closer : middle.left < place.left := by
        have := readsOne.left_eq
        have := List.length_pos_iff.mpr isText
        omega
      obtain ⟨fuel, rfl⟩ : ∃ less, fuel = less + 1 := ⟨fuel - 1, by omega⟩
      have room : most ≠ some 0 := by
        rintro rfl
        exact absurd (within 0 rfl) (by simp)
      have others : (moreRounds step manner fuel (most.map (· - 1)) middle rest).isSome := by
        refine ih (by omega) ?_ members nonempty readsOthers
        intro less isLess
        obtain ⟨bound, isBound, rfl⟩ := Option.mem_map.mp isLess
        have := within bound isBound
        simp only [List.length_cons] at this
        omega
      have round : (step place fun next =>
          if next.left < place.left then moreRounds step manner fuel (most.map (· - 1)) next rest
          else rest next).isSome := complete readsOne member (by rwa [if_pos closer])
      simp only [moreRounds, if_neg room]
      cases manner with
      | greedy =>
          obtain ⟨last, same⟩ := Option.isSome_iff_exists.mp round
          simp only [same, Option.isSome_some]
      | lazy =>
          simp only
          split
          · rfl
          · exact round
      | possessive => exact absurd rfl gives

theorem isSome_allRounds
    (complete : ∀ {place text next rest}, place.Reads text next → text ∈ language →
      (rest next).isSome → (step place rest).isSome)
    (gives : manner ≠ .possessive) {least count : Nat} (enough : least ≤ count)
    (within : ∀ bound ∈ most, count ≤ max least bound) (member : text ∈ language ^ count)
    (reads : place.Reads text next) (done : (rest next).isSome) :
    (allRounds step manner least most place rest).isSome := by
  induction least generalizing place count most text with
  | zero =>
      obtain ⟨texts, rfl, rfl, members⟩ := Language.mem_pow.mp member
      -- Rounds that read nothing can be left out.
      let kept := texts.filter (!·.isEmpty)
      have flat : kept.flatten = texts.flatten := List.flatten_filter_not_isEmpty
      have fewer : kept.length ≤ texts.length := List.length_filter_le _ _
      refine isSome_moreRounds complete gives le_rfl ?_ ?_ ?_ (flat ▸ reads) done
      · intro bound isBound
        have := within bound isBound
        omega
      · exact fun text member => members text (List.mem_of_mem_filter member)
      · intro text member
        simpa using List.of_mem_filter member
  | succ least ih =>
      obtain ⟨count, rfl⟩ : ∃ less, count = less + 1 := ⟨count - 1, by omega⟩
      rw [pow_succ', Language.mem_mul] at member
      obtain ⟨first, isFirst, more, areMore, rfl⟩ := member
      obtain ⟨middle, readsOne, readsOthers⟩ := reads.split
      have others : (allRounds step manner least (most.map (· - 1)) middle rest).isSome := by
        refine ih (by omega) ?_ areMore readsOthers
        intro less isLess
        obtain ⟨bound, isBound, rfl⟩ := Option.mem_map.mp isLess
        have := within bound isBound
        omega
      cases manner with
      | greedy => exact complete readsOne isFirst others
      | lazy => exact complete readsOne isFirst others
      | possessive => exact absurd rfl gives

end

/-- **A floating pattern reads every text of its language**, so a rest that can go on after the text
is reached. -/
theorem isSome_matchThen {pattern : Pattern} {place next : Place} {rest : Place → Option Place}
    (floating : pattern.isFloating = true) (reads : place.Reads text next)
    (member : text ∈ pattern.language flags) (done : (rest next).isSome) :
    (pattern.matchThen flags place rest).isSome := by
  induction pattern generalizing place next text rest with
  | empty =>
      cases (Language.mem_one text).mp member
      cases reads
      exact done
  | one set =>
      obtain ⟨char, has, rfl⟩ := member
      cases reads with
      | step step here =>
          cases here
          simp only [matchThen, step, has, ↓reduceIte]
          exact done
  | start | stop | boundary => cases floating
  | seq first second ihFirst ihSecond =>
      obtain ⟨floatingFirst, floatingSecond⟩ := Bool.and_eq_true_iff.mp floating
      obtain ⟨text, isFirst, more, isSecond, rfl⟩ := Language.mem_mul.mp member
      obtain ⟨middle, readsFirst, readsSecond⟩ := reads.split
      exact ihFirst floatingFirst readsFirst isFirst
        (ihSecond floatingSecond readsSecond isSecond done)
  | alt first second ihFirst ihSecond =>
      obtain ⟨floatingFirst, floatingSecond⟩ := Bool.and_eq_true_iff.mp floating
      rw [matchThen]
      split
      · rfl
      · next notFirst =>
          rcases (Language.mem_add _ _ _).mp member with isFirst | isSecond
          · have found := ihFirst floatingFirst reads isFirst done
            rw [notFirst] at found
            cases found
          · exact ihSecond floatingSecond reads isSecond done
  | rounds body least most manner ih =>
      obtain ⟨gives, floatingBody⟩ := Bool.and_eq_true_iff.mp floating
      obtain ⟨count, member, enough, within⟩ := member
      exact isSome_allRounds (fun reads member done => ih floatingBody reads member done)
        (by simpa using gives) enough within member reads done

/-! ### Occurrences -/

theorem occursFrom_eq_true_iff {pattern : Pattern} {place : Place} {fuel : Nat}
    (enough : place.left ≤ fuel) :
    pattern.occursFrom flags fuel place = true ↔
      ∃ skipped next, place.Reads skipped next ∧ pattern.matchesAt flags next = true := by
  constructor
  · intro occurs
    induction fuel generalizing place with
    | zero => exact ⟨[], place, .here place, occurs⟩
    | succ fuel ih =>
        rcases Bool.or_eq_true_iff.mp occurs with here | later
        · exact ⟨[], place, .here place, here⟩
        · obtain ⟨⟨char, next⟩, step, occurs⟩ := (Option.any_eq_true _ _).mp later
          have closer := (Place.Reads.step step (.here next)).left_eq
          obtain ⟨skipped, last, reads, found⟩ :=
            ih (by simp only [List.length_singleton] at closer; omega) occurs
          exact ⟨char :: skipped, last, .step step reads, found⟩
  · rintro ⟨skipped, last, reads, found⟩
    induction reads generalizing fuel with
    | here =>
        cases fuel with
        | zero => exact found
        | succ fuel => exact Bool.or_eq_true_iff.mpr (.inl found)
    | @step place next last char text step rest ih =>
        have closer := (Place.Reads.step step (.here next)).left_eq
        simp only [List.length_singleton] at closer
        obtain ⟨fuel, rfl⟩ : ∃ less, fuel = less + 1 := ⟨fuel - 1, by omega⟩
        have later : pattern.occursFrom flags fuel next = true := ih (by omega) found
        refine Bool.or_eq_true_iff.mpr (.inr ?_)
        simp only [step, Option.any_some, later]

/-- **A floating pattern occurs in a text exactly when some part of the text is in its
language.** -/
theorem occursIn_iff {pattern : Pattern} (floating : pattern.isFloating = true) :
    pattern.occursIn flags text = true ↔ ∃ part ∈ pattern.language flags, part <:+: text := by
  have enough : (Place.between none text).left ≤ text.length := le_rfl
  rw [occursIn, occursFrom_eq_true_iff enough]
  constructor
  · rintro ⟨before, place, reads, found⟩
    obtain ⟨last, found⟩ := Option.isSome_iff_exists.mp found
    obtain ⟨part, next, readsPart, member, _⟩ := endsAfter_of_matchThen found
    refine ⟨part, member, before, next.after, ?_⟩
    rw [List.append_assoc, ← readsPart.after_eq, ← reads.after_eq]
    rfl
  · rintro ⟨part, member, before, after, rfl⟩
    have text : (Place.between none (before ++ part ++ after)).after = before ++ (part ++ after) :=
      List.append_assoc before part after
    obtain ⟨place, reads, following⟩ := Place.exists_reads text
    obtain ⟨next, readsPart, _⟩ := Place.exists_reads following
    exact ⟨before, place, reads, isSome_matchThen floating readsPart member rfl⟩

end Pattern

end ScriptGate
