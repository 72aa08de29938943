import ScriptGate.Proofs.Lint.Pairs

/-! # Statements in a row

A semicolon ends a chain when the calls before it are closed: then the calls of the statements on
its two sides are never paired (`chainedPairs_semicolon`). So the chain check reports statement by
statement, and only the lines move (`chainFindings_statements`). -/

namespace ScriptGate.Lint

open Scan

/-- The same finding some lines further down. -/
def Finding.movedDown (finding : Finding) (lines : Nat) : Finding :=
  ⟨finding.cause, finding.line.map (lines + ·)⟩

/-- A text in which every terminal call is followed by a closing parenthesis somewhere. -/
def ClosesCalls (text : List Char) : Prop :=
  ∀ name ∈ terminalOperations, ∀ before call after, IsCall (· == ·) name.toList call →
    text = before ++ (call ++ after) → ')' ∈ after

/-- The findings of the chain check in each of some texts, which stand after one another. -/
def statementFindings : (before : List Char) → List (List Char) → List Finding
  | _, [] => []
  | before, text :: texts =>
    (chainFindings text).map (·.movedDown (Text.lineFeeds before)) ++
      statementFindings (before ++ text) texts

variable {text part rest : List Char} {first second : Occurrence String}

theorem closesCalls_iff :
    ClosesCalls text ↔ ∀ found ∈ terminalCalls text, ')' ∈ text.drop found.stop := by
  constructor
  · intro closes found member
    obtain ⟨before, call, after, rfl, terminal, isCall, _, stop⟩ := mem_terminalCalls_iff.mp member
    rw [stop, ← List.append_assoc, List.drop_left' List.length_append]
    exact closes _ terminal before call after isCall rfl
  · rintro closes name terminal before call after isCall rfl
    have after_eq := closes ⟨name, before.length, before.length + call.length⟩
      (mem_terminalCalls_iff.mpr ⟨before, call, after, rfl, terminal, isCall, rfl, rfl⟩)
    rwa [← List.append_assoc, List.drop_left' List.length_append] at after_eq

instance (text : List Char) : Decidable (ClosesCalls text) :=
  decidable_of_iff _ closesCalls_iff.symm

/-! ### A pair before, after and across a semicolon -/

theorem continuesChain_append (within : second.start ≤ part.length) :
    continuesChain (part ++ rest) first second = continuesChain part first second := by
  rw [continuesChain, continuesChain, List.take_append_of_le_length within]

theorem continuesChain_shift (part rest : List Char) (first second : Occurrence String) :
    continuesChain (part ++ rest) (first.shift part.length) (second.shift part.length) =
      continuesChain rest first second := by
  simp only [continuesChain, Occurrence.shift, List.take_length_add_append,
    List.drop_length_add_append]

/-- The calls of two statements are not paired: the first closing parenthesis after a call stands in
its own statement, so the semicolon comes after it. -/
theorem continuesChain_across (closes : ClosesCalls part) (isFirst : first ∈ terminalCalls part)
    (later : part.length < second.start) :
    continuesChain (part ++ ';' :: rest) first second = false := by
  obtain ⟨before, call, after, rfl, terminal, isCall, _, stop⟩ := mem_terminalCalls_iff.mp isFirst
  obtain ⟨early, late, rfl, plain⟩ :=
    List.eq_append_cons_of_mem (closes _ terminal before call after isCall rfl)
  obtain ⟨count, start⟩ := Nat.exists_eq_add_of_lt later
  have between : ((before ++ (call ++ (early ++ ')' :: late)) ++ ';' :: rest).take
      second.start).drop first.stop = early ++ ')' :: (late ++ ';' :: rest.take count) := by
    rw [start, Nat.add_assoc, List.take_length_add_append, List.take_succ_cons, stop,
      ← List.append_assoc before, List.append_assoc (before ++ call),
      List.drop_left' List.length_append, List.append_assoc, List.cons_append]
  apply Bool.eq_false_iff.mpr
  intro continues
  obtain ⟨other, tail, split, otherPlain, noSemicolon⟩ := continuesChain_iff.mp continues
  -- Both splits are at the first closing parenthesis.
  rw [between] at split
  obtain ⟨_, _, rfl⟩ := Text.split_unique plain otherPlain split
  exact noSemicolon (List.mem_append_right late List.mem_cons_self)

/-! ### Findings before and after a text -/

theorem findingAt_append {offset : Nat} (within : offset ≤ part.length) (cause : Cause) :
    findingAt (part ++ rest) offset cause = findingAt part offset cause := by
  rw [findingAt, findingAt, Text.lineAt_append within]

theorem findingAt_length_add (part rest : List Char) (offset : Nat) (cause : Cause) :
    findingAt (part ++ rest) (part.length + offset) cause =
      (findingAt rest offset cause).movedDown (Text.lineFeeds part) := by
  rw [findingAt, findingAt, Text.lineAt_length_add, Finding.movedDown, Option.map_some]

/-! ### Statements one after the other -/

/-- The second call of a pair starts within the text. -/
theorem start_le_of_mem_neighbours {pair : Occurrence String × Occurrence String}
    (member : pair ∈ neighbours (terminalCalls text)) : pair.2.start ≤ text.length := by
  obtain ⟨earlier, later, calls⟩ := exists_eq_append_of_mem_neighbours member
  have isCall : pair.2 ∈ terminalCalls text := by
    rw [calls]
    exact List.mem_append_right _ (List.mem_cons_of_mem _ List.mem_cons_self)
  obtain ⟨before, call, after, rfl, _, _, start, _⟩ := mem_terminalCalls_iff.mp isCall
  rw [start, List.length_append]
  exact Nat.le_add_right _ _

theorem terminalCalls_semicolon (part rest : List Char) :
    terminalCalls (part ++ ';' :: rest) =
      terminalCalls part ++ (terminalCalls rest).map (·.shift (part ++ [';']).length) := by
  rw [terminalCalls_append (by decide), terminalCalls_cons (by decide), List.map_map]
  simp only [Occurrence.shift, Function.comp_def, List.length_append, List.length_singleton,
    Nat.add_assoc]

/-- **The pairs of two statements are those of each.** -/
theorem chainedPairs_semicolon (closes : ClosesCalls part) (rest : List Char) :
    chainedPairs (part ++ ';' :: rest) =
      chainedPairs part ++ (chainedPairs rest).map
        (Prod.map (·.shift (part ++ [';']).length) (·.shift (part ++ [';']).length)) := by
  have regrouped : part ++ ';' :: rest = (part ++ [';']) ++ rest :=
    (List.append_assoc part [';'] rest).symm
  rw [chainedPairs, terminalCalls_semicolon, filter_neighbours_append, neighbours_map,
    List.filter_map]
  · congr 1
    · refine List.filter_congr fun pair member => ?_
      exact continuesChain_append (start_le_of_mem_neighbours member)
    · refine congrArg _ (List.filter_congr fun pair _ => ?_)
      rw [regrouped]
      exact continuesChain_shift _ rest pair.1 pair.2
  · intro first isFirst second isSecond
    obtain ⟨found, _, rfl⟩ := List.mem_map.mp isSecond
    refine continuesChain_across closes isFirst ?_
    simp only [Occurrence.shift, List.length_append, List.length_singleton]
    omega

theorem chainFindings_semicolon (closes : ClosesCalls part) (rest : List Char) :
    chainFindings (part ++ ';' :: rest) =
      chainFindings part ++ (chainFindings rest).map (·.movedDown (Text.lineFeeds part)) := by
  have regrouped : part ++ ';' :: rest = (part ++ [';']) ++ rest :=
    (List.append_assoc part [';'] rest).symm
  have sameLines : Text.lineFeeds (part ++ [';']) = Text.lineFeeds part := by
    rw [Text.lineFeeds, List.count_append, List.count_singleton]
    rfl
  simp only [chainFindings_eq_map, chainedPairs_semicolon closes, List.map_append, List.map_map]
  congr 1
  · refine List.map_congr_left fun pair member => ?_
    exact findingAt_append (start_le_of_mem_neighbours (List.mem_filter.mp member).1) _
  · refine List.map_congr_left fun pair _ => ?_
    rw [regrouped, ← sameLines]
    exact findingAt_length_add _ rest _ _

theorem movedDown_movedDown (finding : Finding) (first second : Nat) :
    (finding.movedDown first).movedDown second = finding.movedDown (second + first) := by
  simp only [Finding.movedDown, Option.map_map, Function.comp_def, Nat.add_assoc]

theorem movedDown_zero (finding : Finding) : finding.movedDown 0 = finding := by
  simp only [Finding.movedDown, Nat.zero_add, Option.map_id']

/-- The induction is on the statements; what stands before them only moves the lines. -/
theorem map_movedDown_statements {texts : List (List Char)}
    (closes : ∀ text ∈ texts, ClosesCalls text) (before : List Char) :
    (chainFindings ([';'].intercalate texts)).map (·.movedDown (Text.lineFeeds before)) =
      statementFindings before texts := by
  induction texts generalizing before with
  | nil => rfl
  | cons text texts ih =>
      obtain ⟨closesFirst, closes⟩ := List.forall_mem_cons.mp closes
      cases texts with
      | nil =>
          rw [List.intercalate_singleton, statementFindings, statementFindings, List.append_nil]
      | cons next texts =>
          have feeds : Text.lineFeeds before + Text.lineFeeds text =
              Text.lineFeeds (before ++ text) := List.count_append.symm
          rw [List.intercalate_cons_cons, List.append_assoc, List.singleton_append,
            chainFindings_semicolon closesFirst, List.map_append, List.map_map,
            statementFindings, ← ih closes]
          simp only [Function.comp_def, movedDown_movedDown, feeds]

/-- **Statements are checked one by one.** When every terminal call is closed in its own statement,
the chain check of the statements, joined by semicolons, finds in order what it finds in each of
them, the same causes on lines that count those of the statements before. -/
theorem chainFindings_statements {texts : List (List Char)}
    (closes : ∀ text ∈ texts, ClosesCalls text) :
    chainFindings ([';'].intercalate texts) = statementFindings [] texts := by
  rw [← map_movedDown_statements closes]
  simp only [Text.lineFeeds, List.count_nil, movedDown_zero, List.map_id']

/-- The second statement has a semicolon in a string, and a pair on either side of it. -/
theorem chainFindings_statements_three :
    let texts := ["q.select('x')
.count()".toList, "
r.get(';').max ('a') .min()".toList,
      "s
.sum('b')
.avg('c')".toList]
    (∀ text ∈ texts, ClosesCalls text) ∧
      chainFindings ([';'].intercalate texts) =
        [⟨.chainedTerminal "select" "count", some 2⟩, ⟨.chainedTerminal "get" "max", some 3⟩,
          ⟨.chainedTerminal "max" "min", some 3⟩, ⟨.chainedTerminal "sum" "avg", some 5⟩] := by
  intro texts
  have closes : ∀ text ∈ texts, ClosesCalls text := by decide +kernel
  refine ⟨closes, ?_⟩
  rw [chainFindings_statements closes]
  decide +kernel

end ScriptGate.Lint
