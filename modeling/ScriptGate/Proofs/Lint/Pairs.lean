import ScriptGate.Proofs.Lint.Calls

/-! # Pairs of neighbouring calls

The chain check reports pairs of neighbouring terminal calls, one finding for each
(`chainFindings_eq_map`). A pair is reported because of the text between its two calls alone: the
text has a closing parenthesis, and no semicolon after the first one (`continuesChain_iff`). -/

namespace ScriptGate.Lint

open Scan

/-- The pairs of neighbours in a list. -/
def neighbours {α : Type} (items : List α) : List (α × α) := items.zip items.tail

def terminalCalls (script : List Char) : List (Occurrence String) :=
  occurrences (scanCallAmong terminalOperations) script

/-- The neighbouring terminal calls of a script that belong to one chain. -/
def chainedPairs (script : List Char) : List (Occurrence String × Occurrence String) :=
  (neighbours (terminalCalls script)).filter fun pair => continuesChain script pair.1 pair.2

/-- The finding for a pair of calls, at the line of the second one. -/
def pairFinding (script : List Char) (pair : Occurrence String × Occurrence String) : Finding :=
  findingAt script pair.2.start (.chainedTerminal pair.1.value pair.2.value)

theorem chainFindings_eq_map (script : List Char) :
    chainFindings script = (chainedPairs script).map (pairFinding script) := by
  rw [chainedPairs, ← List.filterMap_eq_map, List.filterMap_filter]
  rfl

/-! ### Neighbours -/

section Neighbours

variable {α β : Type} {items earlier later : List α} {first second : α}

theorem neighbours_append (earlier later : List α) (first second : α) :
    neighbours (earlier ++ first :: second :: later) =
      neighbours (earlier ++ [first]) ++ (first, second) :: neighbours (second :: later) := by
  induction earlier with
  | nil => rfl
  | cons item earlier ih =>
      cases earlier with
      | nil => rfl
      | cons next earlier => exact congrArg ((item, next) :: ·) ih

theorem exists_eq_append_of_mem_neighbours (member : (first, second) ∈ neighbours items) :
    ∃ earlier later, items = earlier ++ first :: second :: later := by
  induction items with
  | nil => cases member
  | cons item items ih =>
      cases items with
      | nil => cases member
      | cons next items =>
          rcases List.mem_cons.mp member with same | member
          · cases same
            exact ⟨[], items, rfl⟩
          · obtain ⟨earlier, later, split⟩ := ih member
            exact ⟨item :: earlier, later, congrArg (item :: ·) split⟩

theorem neighbours_map (image : α → β) (items : List α) :
    neighbours (items.map image) = (neighbours items).map (Prod.map image image) := by
  rw [neighbours, ← List.map_tail, List.zip_map]
  rfl

/-- When no item of a first list is paired with one of a second list, the pairs are those within
the two lists. -/
theorem filter_neighbours_append {test : α × α → Bool}
    (apart : ∀ first ∈ earlier, ∀ second ∈ later, test (first, second) = false) :
    (neighbours (earlier ++ later)).filter test =
      (neighbours earlier).filter test ++ (neighbours later).filter test := by
  rcases List.eq_nil_or_concat earlier with rfl | ⟨start, last, rfl⟩
  · rfl
  rw [List.concat_eq_append] at apart ⊢
  cases later with
  | nil => rw [List.append_nil]; exact (List.append_nil _).symm
  | cons head later =>
      have unpaired : test (last, head) = false :=
        apart last (List.mem_append_right start List.mem_cons_self) head List.mem_cons_self
      rw [List.append_assoc, List.singleton_append, neighbours_append, List.filter_append,
        List.filter_cons_of_neg (by rw [unpaired]; exact Bool.false_ne_true)]

end Neighbours

/-! ### The terminal calls of a script -/

variable {script : List Char} {first second : Occurrence String}

theorem exists_split_of_mem_terminalCalls (member : first ∈ terminalCalls script) :
    ∃ before call after, script = before ++ (call ++ after) ∧ first.value ∈ terminalOperations ∧
      IsCall (· == ·) first.value.toList call ∧ first.start = before.length ∧
      first.stop = before.length + call.length := by
  obtain ⟨before, part, after, split, scanned, _, start, stop⟩ :=
    exists_place_of_mem_occurrences (consumes_scanCallAmong isWordName_of_mem_terminalOperations)
      member
  obtain ⟨terminal, call, isCall, same⟩ :=
    (scanCallAmong_eq_some_iff_isCall isWordName_of_mem_terminalOperations).mp scanned
  cases List.append_cancel_right same
  exact ⟨before, part, after, split, terminal, isCall, start, stop⟩

/-- No call reaches over a character that breaks calls. -/
theorem terminalCalls_append {mark : Char} (breaks : BreaksCalls mark) (part rest : List Char) :
    terminalCalls (part ++ mark :: rest) =
      terminalCalls part ++ (terminalCalls (mark :: rest)).map (·.shift part.length) :=
  occurrences_append (consumes_scanCallAmong isWordName_of_mem_terminalOperations)
    fun _ visible _ => scanCallAmong_append isWordName_of_mem_terminalOperations breaks visible

theorem terminalCalls_cons {char : Char} (plain : char ≠ '.') (rest : List Char) :
    terminalCalls (char :: rest) = (terminalCalls rest).map (·.shift 1) := by
  have nothing : scanCallAmong terminalOperations (char :: rest) = none :=
    scanCallAmong_eq_none_of_no_stop isWordName_of_mem_terminalOperations plain
  rw [terminalCalls, occurrences, occurrencesFrom_cons_of_none nothing, Nat.add_comm,
    occurrencesFrom_add]
  rfl

/-- A call at the start of a text comes first, and no other one starts before it ends. -/
theorem terminalCalls_call {name : String} {call : List Char} (terminal : name ∈ terminalOperations)
    (isCall : IsCall (· == ·) name.toList call) (rest : List Char) :
    terminalCalls (call ++ rest) =
      ⟨name, 0, call.length⟩ :: (terminalCalls rest).map (·.shift call.length) := by
  have scanned : scanCallAmong terminalOperations (call ++ rest) = some (name, rest) :=
    (scanCallAmong_eq_some_iff_isCall isWordName_of_mem_terminalOperations).mpr
      ⟨terminal, call, isCall, rfl⟩
  obtain ⟨tail, split, _⟩ :=
    exists_tail_of_isCall (isWordName_of_mem_terminalOperations name terminal) isCall
  have visible : call ≠ [] := by
    rw [split]
    exact List.cons_ne_nil _ _
  rw [terminalCalls, occurrences, occurrencesFrom_found visible scanned, Nat.zero_add,
    ← Nat.add_zero call.length, occurrencesFrom_add]
  rfl

/-- A call in a script divides its calls into those before, the call itself and those after. -/
theorem terminalCalls_around {name : String} {call : List Char}
    (terminal : name ∈ terminalOperations) (isCall : IsCall (· == ·) name.toList call)
    (before after : List Char) :
    terminalCalls (before ++ (call ++ after)) =
      terminalCalls before ++ ⟨name, before.length, before.length + call.length⟩ ::
        (terminalCalls after).map (·.shift (before.length + call.length)) := by
  have shifted := terminalCalls_call terminal isCall after
  obtain ⟨tail, rfl, _⟩ :=
    exists_tail_of_isCall (isWordName_of_mem_terminalOperations name terminal) isCall
  rw [List.cons_append] at shifted ⊢
  rw [terminalCalls_append (by decide), shifted, List.map_cons, List.map_map]
  simp only [Occurrence.shift, Nat.add_zero, Function.comp_def, Nat.add_assoc]

/-- The terminal calls of a script are found, and nothing else is. -/
theorem mem_terminalCalls_iff {found : Occurrence String} :
    found ∈ terminalCalls script ↔
      ∃ before call after, script = before ++ (call ++ after) ∧ found.value ∈ terminalOperations ∧
        IsCall (· == ·) found.value.toList call ∧ found.start = before.length ∧
        found.stop = before.length + call.length := by
  constructor
  · exact exists_split_of_mem_terminalCalls
  · obtain ⟨name, start, stop⟩ := found
    rintro ⟨before, call, after, rfl, terminal, isCall, rfl, rfl⟩
    rw [terminalCalls_around terminal isCall]
    exact List.mem_append_right _ List.mem_cons_self

/-! ### Pairs of one chain -/

theorem continuesChain_iff :
    continuesChain script first second = true ↔
      ∃ early late, (script.take second.start).drop first.stop = early ++ ')' :: late ∧
        ')' ∉ early ∧ ';' ∉ late := by
  rw [continuesChain]
  generalize (script.take second.start).drop first.stop = between
  by_cases closes : ')' ∈ between
  · obtain ⟨early, late, rfl, plain⟩ := List.eq_append_cons_of_mem closes
    have fromClosing : (early ++ ')' :: late).dropWhile (· ≠ ')') = ')' :: late := by
      rw [List.dropWhile_append_of_pos, List.dropWhile_cons_of_neg (by simp)]
      intro char member
      exact decide_eq_true fun same => plain (same ▸ member)
    rw [fromClosing]
    simp only [Bool.not_eq_true', List.contains_eq_mem, decide_eq_false_iff_not]
    constructor
    · intro noSemicolon
      exact ⟨early, late, rfl, plain, fun member => noSemicolon (List.mem_cons_of_mem _ member)⟩
    · rintro ⟨other, tail, split, otherPlain, noSemicolon⟩ member
      obtain ⟨_, _, rfl⟩ := Text.split_unique plain otherPlain split
      rcases List.mem_cons.mp member with same | member
      · cases same
      · exact noSemicolon member
  · have nothing : between.dropWhile (· ≠ ')') = [] := by
      rw [List.dropWhile_eq_nil_iff]
      intro char member
      exact decide_eq_true fun same => closes (same ▸ member)
    rw [nothing]
    refine iff_of_false nofun ?_
    rintro ⟨early, late, rfl, _, _⟩
    exact closes (List.mem_append_right early List.mem_cons_self)

end ScriptGate.Lint
