import ScriptGate.Proofs.Scan.Site

/-! # Which operations are detected

Names are looked for as they are, whatever characters they have, and compared in any case. The
detected names are those that are called somewhere, without the later ones that agree in lower case
with one before (`detectOperations_eq_eraseDupsBy`). A place at which a script calls a method names
that method, up to case, when names have no white space and no opening parenthesis. -/

namespace ScriptGate.Scan

/-- A script calls a method at some place, in any case. -/
def IsCalled (script : List Char) (name : String) : Prop :=
  ∃ offset, IsCallAt Text.sameLetter script name.toList offset

/-- Whether two names have one lower-case form. -/
def agreeInLowercase (first second : String) : Bool :=
  Text.lowercase first.toList == Text.lowercase second.toList

/-- A name without white space and opening parentheses. -/
def IsCompact (name : List Char) : Prop := ∀ char ∈ name, Text.isBlank char = false ∧ char ≠ '('

variable {script : List Char} {offset : Nat}

/-! ### Names that are called -/

theorem calls_iff_isCalled {name : String} : calls script name = true ↔ IsCalled script name := by
  rw [calls, holdsSomewhere_eq_true_iff]
  constructor
  · rintro ⟨rest, ends, found⟩
    rw [List.suffix_iff_eq_drop.mp ends] at found
    exact ⟨_, isSome_afterCall?_drop_iff.mp found⟩
  · rintro ⟨offset, isCall⟩
    exact ⟨_, List.drop_suffix offset script, isSome_afterCall?_drop_iff.mpr isCall⟩

instance (script : List Char) (name : String) : Decidable (IsCalled script name) :=
  decidable_of_iff _ calls_iff_isCalled

/-- The reported names are the called ones that do not agree with a name reported before, each
once. -/
theorem calledAmong_eq_eraseDupsBy (reported : List (List Char)) (names : List String) :
    calledAmong script reported names =
      ((names.filter (calls script)).filter fun name =>
        !reported.contains (Text.lowercase name.toList)).eraseDupsBy agreeInLowercase := by
  induction names generalizing reported with
  | nil => rfl
  | cons name names ih =>
      rw [calledAmong]
      by_cases called : calls script name = true
      · by_cases fresh : reported.contains (Text.lowercase name.toList) = true
        · simp only [fresh, Bool.not_true, Bool.false_and, Bool.false_eq_true, ↓reduceIte, ih,
            List.filter_cons, called]
        · rw [Bool.not_eq_true] at fresh
          have unlike (other : String) :
              (!(Text.lowercase name.toList :: reported).contains (Text.lowercase other.toList)) =
                (!agreeInLowercase other name &&
                  !reported.contains (Text.lowercase other.toList)) := by
            rw [List.contains_cons, Bool.not_or, agreeInLowercase]
          simp only [fresh, called, Bool.not_false, Bool.true_and, ↓reduceIte, ih,
            List.filter_cons, List.eraseDupsBy_cons, unlike, List.filter_filter,
            Bool.decide_eq_false, Bool.and_assoc]
      · rw [Bool.not_eq_true] at called
        simp only [called, Bool.and_false, Bool.false_eq_true, ↓reduceIte, ih, List.filter_cons]

theorem nodup_lowercase_calledAmong (reported : List (List Char)) (names : List String) :
    ((calledAmong script reported names).map fun name => Text.lowercase name.toList).Nodup ∧
      ∀ name ∈ calledAmong script reported names,
        Text.lowercase name.toList ∉ reported := by
  induction names generalizing reported with
  | nil => exact ⟨.nil, nofun⟩
  | cons name names ih =>
      rw [calledAmong]
      split
      · next isNew =>
          obtain ⟨distinct, fresh⟩ := ih (Text.lowercase name.toList :: reported)
          rw [Bool.and_eq_true, Bool.not_eq_true', ← Bool.not_eq_true,
            List.contains_iff_mem] at isNew
          refine ⟨?_, ?_⟩
          · rw [List.map_cons, List.nodup_cons]
            refine ⟨fun member => ?_, distinct⟩
            obtain ⟨other, isOther, same⟩ := List.mem_map.mp member
            exact fresh other isOther (same ▸ List.mem_cons_self)
          · intro other member
            rcases List.mem_cons.mp member with rfl | member
            · exact isNew.1
            · exact fun already => fresh other member (List.mem_cons_of_mem _ already)
      · exact ih reported

/-! ### Names at one place -/

/-- The name at a call is the longest start of it, after the full stop, without white space and
opening parentheses. -/
theorem IsCallAt.sameLetters {name : List Char} (compact : IsCompact name)
    (isCall : IsCallAt Text.sameLetter script name offset) :
    List.Forall₂ (fun expected char => Text.sameLetter expected char = true) name
      ((script.drop offset).tail.takeWhile fun char => !Text.isBlank char && char ≠ '(') := by
  obtain ⟨_, ⟨spells, blank⟩, rest, split⟩ := isCall
  rename_i spelled gap
  have visible : ∀ char ∈ spelled, Text.isBlank char = false :=
    Text.visible_of_sameLetters (fun char inName => (compact char inName).1) spells
  have noParen : '(' ∉ spelled :=
    Text.not_mem_of_sameLetters (by decide) (fun inName => (compact _ inName).2 rfl) spells
  have inside : ∀ char ∈ spelled, (!Text.isBlank char && char ≠ '(') = true := by
    intro char inSpelled
    rw [visible char inSpelled, Bool.not_false, Bool.true_and, decide_eq_true_eq]
    exact fun same => noParen (same ▸ inSpelled)
  rw [← split, List.cons_append, List.tail_cons, List.append_assoc,
    List.takeWhile_append_of_pos inside]
  cases gap with
  | nil =>
      rw [List.nil_append, List.singleton_append, List.takeWhile_cons_of_neg (by decide),
        List.append_nil]
      exact spells
  | cons char gap =>
      have first : Text.isBlank char = true := blank char List.mem_cons_self
      rw [List.cons_append, List.cons_append, List.takeWhile_cons_of_neg (by simp [first]),
        List.append_nil]
      exact spells

/-- **Which operations are detected.** The result lists the names that are called at some place of
the script, in the given order, without those that agree in lower case with one before in the
result. So no two of them agree in lower case. Of the names without white space and opening
parentheses, all that are called at one place are equal up to case. -/
theorem detectOperations_eq_eraseDupsBy (script : List Char) (names : List String) :
    detectOperations script names =
      (names.filter (IsCalled script ·)).eraseDupsBy agreeInLowercase ∧
    ((detectOperations script names).map fun name => Text.lowercase name.toList).Nodup ∧
    ∀ first second : String, ∀ offset, IsCompact first.toList → IsCompact second.toList →
      IsCallAt Text.sameLetter script first.toList offset →
      IsCallAt Text.sameLetter script second.toList offset →
      List.Forall₂ (fun expected char => Text.sameLetter expected char = true) first.toList
        second.toList := by
  refine ⟨?_, (nodup_lowercase_calledAmong [] names).1, ?_⟩
  · have called : names.filter (IsCalled script ·) = names.filter (calls script) :=
      List.filter_congr fun name _ => by
        rw [Bool.eq_iff_iff, decide_eq_true_eq, calls_iff_isCalled]
    rw [called, detectOperations, calledAmong_eq_eraseDupsBy]
    simp only [List.contains_nil, Bool.not_false, List.filter_true]
  · intro first second offset isFirst isSecond firstCall secondCall
    rw [Text.sameLetters_iff,
      Text.sameLetters_iff.mp (firstCall.sameLetters isFirst),
      Text.sameLetters_iff.mp (secondCall.sameLetters isSecond)]

/-- A name with white space is found as it is, and a later name that agrees with it is left out. -/
example : detectOperations "q.Get It (1).DELETE(2)".toList ["delete", "get it", "GET IT", "del"] =
    ["delete", "get it"] := by
  decide +kernel

end ScriptGate.Scan
