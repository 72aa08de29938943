import Mathlib.Data.List.Infix
import ScriptGate.Scan.Occurrence

/-! # Occurrences in texts put together

Every occurrence was found by the scan at some place (`exists_place_of_mem_occurrences`), and later
ones start later (`pairwise_start_occurrences`). A part in which the scan finds nothing only moves
the occurrences after it (`occurrencesFrom_skip`), and after an occurrence the search goes on at its
end (`occurrencesFrom_found`). So the occurrences in a text that is put together from such parts are
read off part by part. Where no find reaches over a seam, the occurrences are those on its two sides
(`occurrences_append`). -/

namespace ScriptGate.Scan

variable {α : Type} {scan : List Char → Option (α × List Char)} {offset : Nat}
  {text part rest : List Char} {value : α}

/-- A scan that takes what it finds from the start of the text. -/
def Consumes (scan : List Char → Option (α × List Char)) : Prop :=
  ∀ {text value rest}, scan text = some (value, rest) → ∃ part, part ≠ [] ∧ text = part ++ rest

/-- What was found, and where. -/
def Occurrence.site (found : Occurrence α) : α × Nat := (found.value, found.start)

/-- The same thing found after more characters. -/
def Occurrence.shift (count : Nat) (found : Occurrence α) : Occurrence α :=
  ⟨found.value, count + found.start, count + found.stop⟩

/-! ### Where occurrences are found -/

theorem exists_place_of_mem_occurrencesFrom {taken : Nat} {found : Occurrence α}
    (member : found ∈ occurrencesFrom scan offset taken text) :
    ∃ before place rest, text = before ++ place ∧ scan place = some (found.value, rest) ∧
      found.start = offset + before.length ∧
      found.stop = found.start + (place.length - rest.length) := by
  induction text generalizing offset taken with
  | nil =>
      rw [occurrencesFrom] at member
      exact absurd member List.not_mem_nil
  | cons char text ih =>
      have prepend {taken : Nat} (later : found ∈ occurrencesFrom scan (offset + 1) taken text) :
          ∃ before place rest, char :: text = before ++ place ∧
            scan place = some (found.value, rest) ∧ found.start = offset + before.length ∧
            found.stop = found.start + (place.length - rest.length) := by
        obtain ⟨before, place, rest, rfl, scanned, start, stop⟩ := ih later
        refine ⟨char :: before, place, rest, rfl, scanned, ?_, stop⟩
        rw [start, List.length_cons]
        omega
      cases taken with
      | succ taken =>
          rw [occurrencesFrom] at member
          exact prepend member
      | zero =>
          rw [occurrencesFrom] at member
          cases scanned : scan (char :: text) with
          | none =>
              rw [scanned] at member
              exact prepend member
          | some pair =>
              obtain ⟨value, rest⟩ := pair
              rw [scanned] at member
              rcases List.mem_cons.mp member with rfl | later
              · exact ⟨[], char :: text, rest, rfl, scanned, rfl, rfl⟩
              · exact prepend later

/-- Whatever occurs in a text was found by the scan at the place where it starts. -/
theorem exists_place_of_mem_occurrences (consumes : Consumes scan) {found : Occurrence α}
    (member : found ∈ occurrences scan text) :
    ∃ before part rest, text = before ++ (part ++ rest) ∧
      scan (part ++ rest) = some (found.value, rest) ∧ part ≠ [] ∧
      found.start = before.length ∧ found.stop = before.length + part.length := by
  obtain ⟨before, place, rest, rfl, scanned, start, stop⟩ :=
    exists_place_of_mem_occurrencesFrom member
  obtain ⟨part, visible, rfl⟩ := consumes scanned
  rw [Nat.zero_add] at start
  rw [start, List.length_append, Nat.add_sub_cancel] at stop
  exact ⟨before, part, rest, rfl, scanned, visible, start, stop⟩

theorem le_start_of_mem_occurrencesFrom {taken : Nat} {found : Occurrence α}
    (member : found ∈ occurrencesFrom scan offset taken text) : offset ≤ found.start := by
  obtain ⟨before, _, _, _, _, start, _⟩ := exists_place_of_mem_occurrencesFrom member
  exact start ▸ Nat.le_add_right offset before.length

theorem pairwise_start_occurrencesFrom {taken : Nat} :
    (occurrencesFrom scan offset taken text).Pairwise fun first second =>
      first.start < second.start := by
  induction text generalizing offset taken with
  | nil => exact .nil
  | cons char text ih =>
      cases taken with
      | succ taken => exact ih
      | zero =>
          rw [occurrencesFrom]
          split
          · refine .cons ?_ ih
            intro found later
            exact le_start_of_mem_occurrencesFrom later
          · exact ih

/-- Occurrences are listed from left to right. -/
theorem pairwise_start_occurrences (scan : List Char → Option (α × List Char)) (text : List Char) :
    (occurrences scan text).Pairwise fun first second => first.start < second.start :=
  pairwise_start_occurrencesFrom

/-! ### Texts put together -/

theorem occurrencesFrom_cons_of_none {char : Char} (nothing : scan (char :: text) = none) :
    occurrencesFrom scan offset 0 (char :: text) = occurrencesFrom scan (offset + 1) 0 text := by
  rw [occurrencesFrom, nothing]

/-- Characters that belong to the occurrence before are passed over. -/
theorem occurrencesFrom_taken (part rest : List Char) :
    occurrencesFrom scan offset part.length (part ++ rest) =
      occurrencesFrom scan (offset + part.length) 0 rest := by
  induction part generalizing offset with
  | nil => rfl
  | cons char part ih =>
      rw [List.length_cons, List.cons_append, occurrencesFrom, ih]
      congr 1
      omega

/-- A part in which the scan finds nothing, given what follows, only moves the occurrences. -/
theorem occurrencesFrom_skip
    (nothing : ∀ place, place ≠ [] → place <:+ part → scan (place ++ rest) = none) :
    occurrencesFrom scan offset 0 (part ++ rest) =
      occurrencesFrom scan (offset + part.length) 0 rest := by
  induction part generalizing offset with
  | nil => rfl
  | cons char part ih =>
      have here : scan (char :: (part ++ rest)) = none :=
        nothing (char :: part) (List.cons_ne_nil _ _) List.suffix_rfl
      have later : occurrencesFrom scan (offset + 1) 0 (part ++ rest) =
          occurrencesFrom scan (offset + 1 + part.length) 0 rest :=
        ih fun place visible ends =>
          nothing place visible (ends.trans (List.suffix_cons char part))
      simp only [List.cons_append, occurrencesFrom, here, later, List.length_cons]
      congr 1
      omega

/-- After an occurrence the search goes on at its end. -/
theorem occurrencesFrom_found (visible : part ≠ [])
    (found : scan (part ++ rest) = some (value, rest)) :
    occurrencesFrom scan offset 0 (part ++ rest) =
      ⟨value, offset, offset + part.length⟩ ::
        occurrencesFrom scan (offset + part.length) 0 rest := by
  obtain ⟨char, part, rfl⟩ := List.exists_cons_of_ne_nil visible
  have length : (part ++ rest).length + 1 - rest.length = part.length + 1 := by
    rw [List.length_append]
    omega
  rw [List.cons_append] at found ⊢
  rw [occurrencesFrom, found]
  simp only [length, Nat.add_sub_cancel, occurrencesFrom_taken, List.length_cons]
  congr 2
  omega

theorem occurrencesFrom_add (count : Nat) {taken : Nat} :
    occurrencesFrom scan (count + offset) taken text =
      (occurrencesFrom scan offset taken text).map (·.shift count) := by
  induction text generalizing offset taken with
  | nil => rfl
  | cons char text ih =>
      cases taken with
      | succ taken =>
          rw [occurrencesFrom, occurrencesFrom, Nat.add_assoc]
          exact ih
      | zero =>
          simp only [occurrencesFrom, Nat.add_assoc, ih]
          split <;> rfl

/-- Where no find reaches over a seam, the occurrences are those on its two sides. The induction
keeps the number of characters that an occurrence has taken, which stays within the first part. -/
theorem occurrencesFrom_append (consumes : Consumes scan) {taken : Nat}
    (within : taken ≤ part.length)
    (sees : ∀ place, place ≠ [] → place <:+ part →
      scan (place ++ rest) = (scan place).map fun (value, left) => (value, left ++ rest)) :
    occurrencesFrom scan offset taken (part ++ rest) =
      occurrencesFrom scan offset taken part ++
        occurrencesFrom scan (offset + part.length) 0 rest := by
  induction part generalizing offset taken with
  | nil =>
      cases Nat.le_zero.mp within
      rfl
  | cons char part ih =>
      have later {taken : Nat} (within : taken ≤ part.length) :
          occurrencesFrom scan (offset + 1) taken (part ++ rest) =
            occurrencesFrom scan (offset + 1) taken part ++
              occurrencesFrom scan (offset + (char :: part).length) 0 rest := by
        rw [ih within fun place visible ends =>
          sees place visible (ends.trans (List.suffix_cons char part)), List.length_cons,
          Nat.add_assoc, Nat.add_comm 1]
      cases taken with
      | succ taken => exact later (Nat.le_of_succ_le_succ within)
      | zero =>
          have here := sees (char :: part) (List.cons_ne_nil _ _) List.suffix_rfl
          rw [List.cons_append] at here
          cases scanned : scan (char :: part) with
          | none =>
              rw [scanned, Option.map_none] at here
              simp only [List.cons_append, occurrencesFrom, here, scanned]
              exact later (Nat.zero_le _)
          | some pair =>
              obtain ⟨value, left⟩ := pair
              rw [scanned, Option.map_some] at here
              obtain ⟨taken, visible, split⟩ := consumes scanned
              have lengths := congrArg List.length split
              rw [List.length_cons, List.length_append] at lengths
              have same : (part ++ rest).length + 1 - (left ++ rest).length =
                  part.length + 1 - left.length := by
                rw [List.length_append, List.length_append]
                omega
              simp only [List.cons_append, occurrencesFrom, here, scanned, same]
              rw [later (by omega)]

theorem occurrences_append (consumes : Consumes scan)
    (sees : ∀ place, place ≠ [] → place <:+ part →
      scan (place ++ rest) = (scan place).map fun (value, left) => (value, left ++ rest)) :
    occurrences scan (part ++ rest) =
      occurrences scan part ++ (occurrences scan rest).map (·.shift part.length) := by
  rw [occurrences, occurrencesFrom_append consumes (Nat.zero_le _) sees, Nat.zero_add,
    ← Nat.add_zero part.length, occurrencesFrom_add]
  rfl

end ScriptGate.Scan
