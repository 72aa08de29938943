import ScriptGate.Pattern.Reader
import ScriptGate.Proofs.Pattern.Language
import ScriptGate.Proofs.Text.Case

/-! # Patterns that spell a text

A sequence of single characters spells a text: under the flag for case its language has the texts
that agree with it letter by letter (`mem_language_spelling`). White space of any length and a
parenthesis are the other parts of the patterns for calls. -/

namespace ScriptGate.Pattern

variable {flags : PatternFlags} {set : CharSet} {mark : Char} {name text : List Char}

/-! ### Characters that a pattern does not read -/

/-- Whether no set of a pattern has a character. -/
def avoids (flags : PatternFlags) (mark : Char) : Pattern → Bool
  | .empty | .start | .stop | .boundary => true
  | .one set => !set.has flags mark
  | .seq first second | .alt first second => first.avoids flags mark && second.avoids flags mark
  | .rounds body _ _ _ => body.avoids flags mark

theorem not_mem_of_avoids {pattern : Pattern} (avoids : pattern.avoids flags mark = true)
    (member : text ∈ pattern.language flags) : mark ∉ text := by
  induction pattern generalizing text with
  | empty | start | stop | boundary =>
      cases (Language.mem_one text).mp member
      exact List.not_mem_nil
  | one set =>
      obtain ⟨char, has, rfl⟩ := member
      intro same
      cases List.mem_singleton.mp same
      simp only [Pattern.avoids, has, Bool.not_true, Bool.false_eq_true] at avoids
  | seq first second ihFirst ihSecond =>
      obtain ⟨avoidsFirst, avoidsSecond⟩ := Bool.and_eq_true_iff.mp avoids
      obtain ⟨start, isFirst, rest, isSecond, rfl⟩ := Language.mem_mul.mp member
      rw [List.mem_append]
      exact not_or.mpr ⟨ihFirst avoidsFirst isFirst, ihSecond avoidsSecond isSecond⟩
  | alt first second ihFirst ihSecond =>
      obtain ⟨avoidsFirst, avoidsSecond⟩ := Bool.and_eq_true_iff.mp avoids
      rcases (Language.mem_add _ _ _).mp member with isFirst | isSecond
      · exact ihFirst avoidsFirst isFirst
      · exact ihSecond avoidsSecond isSecond
  | rounds body least most manner ih =>
      obtain ⟨count, member, _⟩ := member
      obtain ⟨texts, rfl, _, members⟩ := Language.mem_pow.mp member
      rw [List.mem_flatten]
      rintro ⟨part, inTexts, inPart⟩
      exact ih avoids (members part inTexts) inPart

/-! ### Spelled texts -/

theorem language_foldl_seq (first : Pattern) (others : List Pattern) :
    (others.foldl .seq first).language flags =
      first.language flags * (others.map (·.language flags)).prod := by
  induction others generalizing first with
  | nil => simp only [List.foldl_nil, List.map_nil, List.prod_nil, mul_one]
  | cons second others ih =>
      rw [List.foldl_cons, ih, language, List.map_cons, List.prod_cons, mul_assoc]

/-- A sequence reads what its parts read one after the other. -/
theorem language_ofParts (parts : List Part) :
    (ofParts parts).language flags = (parts.map fun part => part.pattern.language flags).prod := by
  cases parts with
  | nil => rfl
  | cons first others =>
      rw [ofParts, List.map_cons, List.map_cons, List.prod_cons, language_foldl_seq, List.map_map]
      rfl

/-- The pattern that spells a text. -/
def spelling (text : List Char) : Pattern :=
  ofParts (text.map fun char => ofMember (.char char))

theorem mem_language_spelling (ignoreCase : flags.ignoreCase = true) :
    text ∈ (spelling name).language flags ↔
      List.Forall₂ (fun expected char => Text.sameLetter expected char = true) name text := by
  rw [spelling, language_ofParts, List.map_map]
  induction name generalizing text with
  | nil =>
      rw [List.map_nil, List.prod_nil, Language.mem_one, List.forall₂_nil_left_iff]
  | cons expected name ih =>
      rw [List.map_cons, List.prod_cons, Language.mem_mul, List.forall₂_cons_left_iff]
      constructor
      · rintro ⟨_, ⟨char, has, rfl⟩, rest, member, rfl⟩
        simp only [CharSet.has, ignoreCase, ↓reduceIte, Bool.bne_false] at has
        exact ⟨char, rest, has, ih.mp member, rfl⟩
      · rintro ⟨char, rest, equal, spells, rfl⟩
        refine ⟨[char], ⟨char, ?_, rfl⟩, rest, ih.mpr spells, rfl⟩
        simp only [CharSet.has, ignoreCase, ↓reduceIte, Bool.bne_false, equal]

/-! ### White space and single characters -/

/-- A number of rounds of one set reads the texts of that length whose characters are in the set. -/
theorem mem_language_one_pow {count : Nat} :
    text ∈ (Pattern.one set).language flags ^ count ↔
      text.length = count ∧ ∀ char ∈ text, set.has flags char = true := by
  induction count generalizing text with
  | zero =>
      rw [pow_zero, Language.mem_one]
      constructor
      · rintro rfl
        exact ⟨rfl, nofun⟩
      · rintro ⟨noChars, _⟩
        exact List.length_eq_zero_iff.mp noChars
  | succ count ih =>
      rw [pow_succ', Language.mem_mul]
      constructor
      · rintro ⟨_, ⟨char, has, rfl⟩, rest, member, rfl⟩
        obtain ⟨length, others⟩ := ih.mp member
        exact ⟨congrArg Nat.succ length, List.forall_mem_cons.mpr ⟨has, others⟩⟩
      · rintro ⟨length, has⟩
        cases text with
        | nil => cases length
        | cons char rest =>
            obtain ⟨first, others⟩ := List.forall_mem_cons.mp has
            exact ⟨[char], ⟨char, first, rfl⟩, rest, ih.mpr ⟨Nat.succ.inj length, others⟩, rfl⟩

theorem mem_language_atMost {bound : Nat} {manner : Manner} :
    text ∈ (Pattern.rounds (.one set) 0 (some bound) manner).language flags ↔
      text.length ≤ bound ∧ ∀ char ∈ text, set.has flags char = true := by
  constructor
  · rintro ⟨count, member, _, most⟩
    obtain ⟨rfl, has⟩ := mem_language_one_pow.mp member
    exact ⟨(most bound rfl).trans_eq (Nat.zero_max bound), has⟩
  · rintro ⟨short, has⟩
    refine ⟨text.length, mem_language_one_pow.mpr ⟨rfl, has⟩, Nat.zero_le _, ?_⟩
    rintro _ ⟨⟩
    exact short.trans_eq (Nat.zero_max bound).symm

theorem mem_language_optional {body : Pattern} {manner : Manner} :
    text ∈ (Pattern.rounds body 0 (some 1) manner).language flags ↔
      text = [] ∨ text ∈ body.language flags := by
  constructor
  · rintro ⟨count, member, _, most⟩
    rcases Nat.le_one_iff_eq_zero_or_eq_one.mp (most 1 rfl) with rfl | rfl
    · exact .inl ((Language.mem_one text).mp member)
    · exact .inr ((pow_one (body.language flags)) ▸ member)
  · rintro (rfl | member)
    · exact ⟨0, (Language.mem_one []).mpr rfl, le_rfl, fun _ _ => Nat.zero_le _⟩
    · refine ⟨1, (pow_one (body.language flags)).symm ▸ member, Nat.zero_le 1, ?_⟩
      rintro _ ⟨⟩
      exact le_rfl

/-- White space of any length. -/
def blanks : Pattern := .rounds (.one (.members false [.blank false])) 0 none .greedy

theorem mem_language_blanks :
    text ∈ blanks.language flags ↔ ∀ char ∈ text, Text.isBlank char = true := by
  have has (char : Char) :
      (CharSet.members false [.blank false]).has flags char = Text.isBlank char := by
    simp only [CharSet.has, List.any_cons, List.any_nil, SetMember.has, Bool.bne_false,
      Bool.or_false]
  constructor
  · rintro ⟨count, member, _⟩ char inText
    exact (has char).symm.trans ((mem_language_one_pow.mp member).2 char inText)
  · intro blank
    refine ⟨text.length, mem_language_one_pow.mpr ⟨rfl, ?_⟩, Nat.zero_le _, nofun⟩
    exact fun char inText => (has char).trans (blank char inText)

/-- A character before the ASCII letters has no other case. -/
theorem mem_language_only (ignoreCase : flags.ignoreCase = true) (early : mark.toNat < 0x41) :
    text ∈ (Pattern.one (.only false mark)).language flags ↔ text = [mark] := by
  have has (char : Char) : (CharSet.only false mark).has flags char = true ↔ char = mark := by
    simp only [CharSet.has, ignoreCase, ↓reduceIte, Bool.bne_false,
      Text.sameLetter_iff_of_lt early]
  constructor
  · rintro ⟨char, isMark, rfl⟩
    rw [(has char).mp isMark]
  · rintro rfl
    exact ⟨mark, (has mark).mpr rfl, rfl⟩

end ScriptGate.Pattern
