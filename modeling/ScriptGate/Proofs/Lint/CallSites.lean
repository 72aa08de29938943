import ScriptGate.Proofs.Lint.Pairs
import ScriptGate.Proofs.Scan.Site

/-! # The calls that the checks see

The checks for terminal calls and for undefined methods look for calls of the names in a table.
Some names are the start of others, and the search goes on behind each call that it found. Still
every place at which a name of a table is called is found once, with that name, and nothing else is
found (`findings_at_callSites`). -/

namespace ScriptGate.Lint

open Scan

/-- A named method is called, in the given spelling, at an offset of a script. -/
def IsCallSite (script : List Char) (name : String) (offset : Nat) : Prop :=
  IsCallAt (· == ·) script name.toList offset

instance (script : List Char) (name : String) (offset : Nat) :
    Decidable (IsCallSite script name offset) :=
  inferInstanceAs (Decidable (IsCallAt _ _ _ _))

/-- The offsets at which a script calls a method, in order. -/
def callSites (script : List Char) (name : String) : List Nat :=
  (List.range script.length).filter (IsCallSite script name ·)

/-- The name of a table that a script calls at an offset. -/
def calledAt? (names : List String) (script : List Char) (offset : Nat) : Option String :=
  names.find? (IsCallSite script · offset)

variable {script : List Char} {name : String} {names : List String} {offset : Nat}

theorem isSome_afterExactCall?_drop_iff :
    (afterExactCall? name (script.drop offset)).isSome = true ↔ IsCallSite script name offset :=
  isSome_afterCall?_drop_iff

/-- A place belongs to one name only. -/
theorem IsCallSite.unique {other : String} (isName : IsWordName name) (isOther : IsWordName other)
    (site : IsCallSite script name offset) (otherSite : IsCallSite script other offset) :
    name = other := by
  obtain ⟨rest, found⟩ := Option.isSome_iff_exists.mp (isSome_afterExactCall?_drop_iff.mpr site)
  obtain ⟨otherRest, otherFound⟩ :=
    Option.isSome_iff_exists.mp (isSome_afterExactCall?_drop_iff.mpr otherSite)
  exact (afterExactCall?_unique isName isOther found otherFound).1

theorem existsUnique_of_isCallSite (words : ∀ name ∈ names, IsWordName name) (isIn : name ∈ names)
    (site : IsCallSite script name offset) :
    ∃! called, called ∈ names ∧ IsCallSite script called offset :=
  ⟨name, ⟨isIn, site⟩, fun other ⟨otherIn, otherSite⟩ =>
    otherSite.unique (words other otherIn) (words name isIn) site⟩

/-! ### What the scans for calls find -/

theorem findsAtStop_scanCallAmong (words : ∀ name ∈ names, IsWordName name) :
    FindsAtStop (scanCallAmong names) where
  nothing plain := scanCallAmong_eq_none_of_no_stop words plain
  found scanned := by
    obtain ⟨isIn, call, isCall, rfl⟩ := (scanCallAmong_eq_some_iff_isCall words).mp scanned
    obtain ⟨tail, rfl, _, absent⟩ := exists_tail_of_isCall (words _ isIn) isCall
    exact ⟨tail, rfl, absent '.' (by decide)⟩

theorem scanCall_eq_scanCallAmong (name : String) : scanCall name = scanCallAmong [name] := by
  funext text
  rw [scanCallAmong, List.findSome?_singleton]

/-- The scan for a table finds the name that is called at a place. -/
theorem map_fst_scanCallAmong (names : List String) (script : List Char) (offset : Nat) :
    (scanCallAmong names (script.drop offset)).map Prod.fst = calledAt? names script offset := by
  induction names with
  | nil => rfl
  | cons name names ih =>
      rw [scanCallAmong] at ih
      rw [scanCallAmong, List.findSome?_cons, scanCall, calledAt?, List.find?_cons]
      cases after : afterExactCall? name (script.drop offset) with
      | none =>
          have noSite : ¬ IsCallSite script name offset := by
            rw [← isSome_afterExactCall?_drop_iff, after]
            exact Bool.false_ne_true
          simp only [decide_eq_false noSite]
          exact ih
      | some rest =>
          have site : IsCallSite script name offset :=
            isSome_afterExactCall?_drop_iff.mp (by rw [after, Option.isSome_some])
          simp only [decide_eq_true site, Option.map_some]

theorem map_site_terminalCalls (script : List Char) :
    (terminalCalls script).map Occurrence.site =
      (List.range script.length).filterMap fun offset =>
        (calledAt? terminalOperations script offset).map (·, offset) := by
  rw [terminalCalls, map_site_occurrences
    (findsAtStop_scanCallAmong isWordName_of_mem_terminalOperations)]
  refine List.filterMap_congr fun offset _ => ?_
  rw [← map_fst_scanCallAmong, Option.map_map]
  rfl

theorem map_start_occurrences_scanCall (isName : IsWordName name) (script : List Char) :
    (occurrences (scanCall name) script).map Occurrence.start = callSites script name := by
  have atStop : FindsAtStop (scanCall name) := by
    rw [scanCall_eq_scanCallAmong]
    exact findsAtStop_scanCallAmong (List.forall_mem_singleton.mpr isName)
  rw [map_start_occurrences atStop, callSites]
  refine List.filter_congr fun offset _ => ?_
  rw [Bool.eq_iff_iff, scanCall, Option.isSome_map, isSome_afterExactCall?_drop_iff,
    decide_eq_true_eq]

theorem isWordName_of_mem_undefinedMethods :
    ∀ name ∈ undefinedMethods.map Prod.fst, IsWordName name := by
  decide

theorem undefinedMethodFindings_eq (script : List Char) :
    undefinedMethodFindings script = undefinedMethods.flatMap fun (name, suggestion) =>
      (callSites script name).map fun offset =>
        findingAt script offset (.undefinedMethod name suggestion) := by
  refine List.flatMap_congr fun (name, suggestion) member => ?_
  have isName : IsWordName name :=
    isWordName_of_mem_undefinedMethods name (List.mem_map_of_mem member)
  simp only [← map_start_occurrences_scanCall isName, List.map_map, Function.comp_def]

/-- **The calls of the names in a table are found exactly.** A place at which a name of one of the
two tables is called belongs to one name of the table. The terminal calls are those places with
their names, from left to right, and the check for undefined methods reports every such place once,
on its line, method after method. -/
theorem findings_at_callSites (script : List Char) :
    (∀ names ∈ [terminalOperations, undefinedMethods.map Prod.fst],
      ∀ name ∈ names, ∀ offset, IsCallSite script name offset →
        ∃! called, called ∈ names ∧ IsCallSite script called offset) ∧
    (terminalCalls script).map Occurrence.site =
      (List.range script.length).filterMap (fun offset =>
        (calledAt? terminalOperations script offset).map (·, offset)) ∧
    undefinedMethodFindings script = undefinedMethods.flatMap fun (name, suggestion) =>
      (callSites script name).map fun offset =>
        ⟨.undefinedMethod name suggestion, some (Text.lineFeeds (script.take offset) + 1)⟩ := by
  refine ⟨?_, map_site_terminalCalls script, undefinedMethodFindings_eq script⟩
  have words : ∀ names ∈ [terminalOperations, undefinedMethods.map Prod.fst],
      ∀ name ∈ names, IsWordName name :=
    List.forall_mem_cons.mpr ⟨isWordName_of_mem_terminalOperations,
      List.forall_mem_singleton.mpr isWordName_of_mem_undefinedMethods⟩
  intro names isTable name isIn offset site
  exact existsUnique_of_isCallSite (words names isTable) isIn site

/-- Overlapping names, white space and a line break between names and parentheses. -/
example : (terminalCalls "q.getBy (.get\n(.select)".toList).map Occurrence.site =
    [("getBy", 1), ("get", 9)] := by
  decide +kernel

end ScriptGate.Lint
