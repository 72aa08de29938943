import ScriptGate.Proofs.Scan.Call
import ScriptGate.Proofs.Scan.Occurrence

/-! # Finds at every place of a text

The search for occurrences goes on behind what it found, so it could miss a find that begins inside
another one. A find that begins with a full stop and has no other one hides nothing, and then the
occurrences are the finds at all places of the text, in order (`map_site_occurrences`). -/

namespace ScriptGate.Scan

variable {α : Type} {scan : List Char → Option (α × List Char)} {offset : Nat}
  {text rest script name : List Char} {value : α} {same : Char → Char → Bool}

/-! ### The place of a call -/

/-- A call of a method begins at an offset of a script. -/
def IsCallAt (same : Char → Char → Bool) (script name : List Char) (offset : Nat) : Prop :=
  ∃ call, IsCall same name call ∧ call <+: script.drop offset

theorem isSome_afterCall?_drop_iff :
    (afterCall? same name (script.drop offset)).isSome = true ↔
      IsCallAt same script name offset :=
  isSome_afterCall?_iff

instance (same : Char → Char → Bool) (script name : List Char) (offset : Nat) :
    Decidable (IsCallAt same script name offset) :=
  decidable_of_iff _ isSome_afterCall?_drop_iff

/-! ### Finds that hide no other -/

/-- A scan whose finds begin with a full stop and have no other one. -/
structure FindsAtStop (scan : List Char → Option (α × List Char)) : Prop where
  nothing : ∀ {char text}, char ≠ '.' → scan (char :: text) = none
  found : ∀ {text value rest}, scan text = some (value, rest) →
    ∃ part, text = '.' :: (part ++ rest) ∧ '.' ∉ part

theorem FindsAtStop.consumes (atStop : FindsAtStop scan) : Consumes scan := by
  intro text value rest found
  obtain ⟨part, rfl, _⟩ := atStop.found found
  exact ⟨'.' :: part, List.cons_ne_nil _ _, rfl⟩

/-- Nothing is found at a place before which no full stop was passed. -/
theorem FindsAtStop.eq_none_of_drop (atStop : FindsAtStop scan) {part : List Char} {count : Nat}
    (plain : '.' ∉ part) (within : count < part.length) :
    scan ((part ++ rest).drop count) = none := by
  rw [List.drop_append_of_le_length within.le, List.drop_eq_getElem_cons within, List.cons_append]
  apply atStop.nothing
  intro isStop
  exact plain (isStop ▸ List.getElem_mem within)

/-- The induction keeps that nothing is found at the characters that an occurrence has taken. -/
theorem map_site_occurrencesFrom (atStop : FindsAtStop scan) {taken : Nat}
    (hidden : ∀ count < taken, scan (text.drop count) = none) :
    (occurrencesFrom scan offset taken text).map Occurrence.site =
      (List.range text.length).filterMap fun count =>
        (scan (text.drop count)).map fun found => (found.1, offset + count) := by
  induction text generalizing offset taken with
  | nil => rfl
  | cons char text ih =>
      have later {taken : Nat} (hidden : ∀ count < taken, scan (text.drop count) = none) :
          (occurrencesFrom scan (offset + 1) taken text).map Occurrence.site =
            (List.range text.length).filterMap fun count =>
              (scan ((char :: text).drop (count + 1))).map fun found =>
                (found.1, offset + (count + 1)) := by
        rw [ih hidden]
        simp only [List.drop_succ_cons, Nat.add_assoc, Nat.add_comm 1]
      rw [List.length_cons, List.range_succ_eq_map, List.filterMap_cons, List.filterMap_map]
      cases taken with
      | succ taken =>
          have here : scan (char :: text) = none := hidden 0 taken.succ_pos
          rw [occurrencesFrom, later fun count below => hidden (count + 1) (by omega)]
          simp only [List.drop_zero, here, Option.map_none]
          rfl
      | zero =>
          cases scanned : scan (char :: text) with
          | none =>
              rw [occurrencesFrom, scanned, later fun _ below => absurd below (Nat.not_lt_zero _)]
              simp only [List.drop_zero, scanned, Option.map_none]
              rfl
          | some found =>
              obtain ⟨value, rest⟩ := found
              obtain ⟨part, split, plain⟩ := atStop.found scanned
              obtain ⟨rfl, rfl⟩ := List.cons_eq_cons.mp split
              have length : (part ++ rest).length + 1 - rest.length - 1 = part.length := by
                rw [List.length_append]
                omega
              simp only [occurrencesFrom, scanned, List.map_cons, length,
                later fun count below => atStop.eq_none_of_drop plain below, List.drop_zero,
                Option.map_some, Occurrence.site, Nat.add_zero]
              rfl

/-- **The occurrences are the finds at all places**, in order. -/
theorem map_site_occurrences (atStop : FindsAtStop scan) (text : List Char) :
    (occurrences scan text).map Occurrence.site =
      (List.range text.length).filterMap fun offset =>
        (scan (text.drop offset)).map fun found => (found.1, offset) := by
  rw [occurrences, map_site_occurrencesFrom atStop fun _ below => absurd below (Nat.not_lt_zero _)]
  simp only [Nat.zero_add]

theorem map_start_occurrences (atStop : FindsAtStop scan) (text : List Char) :
    (occurrences scan text).map Occurrence.start =
      (List.range text.length).filter fun offset => (scan (text.drop offset)).isSome := by
  have sites := congrArg (List.map Prod.snd) (map_site_occurrences atStop text)
  rw [List.map_map, List.map_filterMap] at sites
  rw [← List.filterMap_eq_filter]
  refine sites.trans (List.filterMap_congr fun offset _ => ?_)
  cases scanned : scan (text.drop offset) with
  | none => simp only [Option.guard, scanned, Option.map_none, Option.isSome_none,
      Bool.false_eq_true, ↓reduceIte]
  | some found => simp only [Option.guard, scanned, Option.map_some, Option.isSome_some, ↓reduceIte]

end ScriptGate.Scan
