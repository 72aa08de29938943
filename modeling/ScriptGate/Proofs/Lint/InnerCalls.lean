import ScriptGate.Proofs.Expression.Nesting
import ScriptGate.Proofs.Lint.Pairs

/-! # Calls in arguments

A terminal call can stand in the arguments of another one. The chain check looks for the first
closing parenthesis after the outer call, which closes a group in its arguments when there is one
before the inner call. So the two calls are reported as a chain exactly when such a group stands
between them, without another terminal call and without a semicolon after the group
(`innerCall_chained_iff`). -/

namespace ScriptGate.Lint

open Expression Scan

/-- A script with a terminal call in the arguments of another one. -/
structure InnerCall where
  before : List Char
  outer : String
  /-- The outer call up to its opening parenthesis. -/
  outerCall : List Char
  /-- The arguments of the outer call that stand before the inner call. -/
  lead : List Char
  inner : String
  /-- The inner call up to its opening parenthesis. -/
  innerCall : List Char
  /-- The rest of the arguments of the outer call. -/
  tail : List Char
  /-- What follows the closing parenthesis of the outer call. -/
  after : List Char
  outer_terminal : outer ∈ terminalOperations
  inner_terminal : inner ∈ terminalOperations
  outer_isCall : IsCall (· == ·) outer.toList outerCall
  inner_isCall : IsCall (· == ·) inner.toList innerCall
  /-- Every bracket in the arguments is matched there, so the parenthesis after them is the one that
  closes the outer call. -/
  arguments_nested : Nested (lead ++ (innerCall ++ tail))

namespace InnerCall

variable (call : InnerCall)

def script : List Char :=
  call.before ++ (call.outerCall ++
    (call.lead ++ (call.innerCall ++ call.tail) ++ ')' :: call.after))

/-- The outer call as it is found. -/
def outerFound : Occurrence String :=
  ⟨call.outer, call.before.length, call.before.length + call.outerCall.length⟩

/-- The inner call as it is found. -/
def innerFound : Occurrence String :=
  let start := call.before.length + call.outerCall.length + call.lead.length
  ⟨call.inner, start, start + call.innerCall.length⟩

theorem script_eq : call.script = call.before ++ (call.outerCall ++ (call.lead ++
    (call.innerCall ++ (call.tail ++ ')' :: call.after)))) := by
  simp only [script, List.append_assoc]

/-- The calls in the arguments before the inner call are found between the two calls. -/
theorem terminalCalls_script :
    ∃ earlier later, terminalCalls call.script = earlier ++ call.outerFound ::
      ((terminalCalls call.lead).map (·.shift (call.before.length + call.outerCall.length)) ++
        call.innerFound :: later) := by
  rw [script_eq, terminalCalls_around call.outer_terminal call.outer_isCall,
    terminalCalls_around call.inner_terminal call.inner_isCall, List.map_append, List.map_cons]
  simp only [Occurrence.shift, ← Nat.add_assoc]
  exact ⟨_, _, rfl⟩

theorem between_eq :
    (call.script.take call.innerFound.start).drop call.outerFound.stop = call.lead := by
  rw [script_eq, ← List.append_assoc, ← List.append_assoc, innerFound, outerFound,
    List.take_left' (by simp only [List.length_append]), List.drop_left' List.length_append]

end InnerCall

variable {script lead : List Char}

/-! ### Neighbours among sorted calls -/

/-- What stands before and after a call in a list of calls sorted by their starts. -/
theorem sides_of_sorted {earlier later : List (Occurrence String)} {call : Occurrence String}
    (sorted : (earlier ++ call :: later).Pairwise fun first second => first.start < second.start) :
    (∀ other ∈ earlier, other.start < call.start) ∧ ∀ other ∈ later, call.start < other.start := by
  obtain ⟨_, sortedLater, across⟩ := List.pairwise_append.mp sorted
  exact ⟨fun other member => across other member call List.mem_cons_self,
    (List.pairwise_cons.mp sortedLater).1⟩

/-- Two calls of a sorted list are neighbours exactly when nothing stands between them. -/
theorem mem_neighbours_iff_of_sorted {earlier between later : List (Occurrence String)}
    {first second : Occurrence String}
    (sorted : (earlier ++ first :: (between ++ second :: later)).Pairwise fun first second =>
      first.start < second.start) :
    (first, second) ∈ neighbours (earlier ++ first :: (between ++ second :: later)) ↔
      between = [] := by
  constructor
  · intro member
    obtain ⟨before, after, split⟩ := exists_eq_append_of_mem_neighbours member
    rw [List.eq_nil_iff_forall_not_mem]
    intro call inBetween
    have inWhole : call ∈ earlier ++ first :: (between ++ second :: later) :=
      List.mem_append_right _ (List.mem_cons_of_mem _ (List.mem_append_left _ inBetween))
    have afterFirst : first.start < call.start :=
      (sides_of_sorted sorted).2 call (List.mem_append_left _ inBetween)
    have beforeSecond : call.start < second.start := by
      rw [← List.cons_append, ← List.append_assoc] at sorted
      exact (sides_of_sorted sorted).1 call
        (List.mem_append_right _ (List.mem_cons_of_mem _ inBetween))
    -- The call would have to stand somewhere in a list in which the two are neighbours.
    rw [split] at inWhole sorted
    rcases List.mem_append.mp inWhole with inBefore | inWhole
    · have := (sides_of_sorted sorted).1 call inBefore
      omega
    rcases List.mem_cons.mp inWhole with rfl | inWhole
    · omega
    rcases List.mem_cons.mp inWhole with rfl | inAfter
    · omega
    · have sortedAfter := (List.pairwise_cons.mp (List.pairwise_append.mp sorted).2.1).2
      have := (List.pairwise_cons.mp sortedAfter).1 call inAfter
      omega
  · rintro rfl
    rw [List.nil_append, neighbours_append]
    exact List.mem_append_right _ List.mem_cons_self

theorem terminalCalls_eq_nil_iff :
    terminalCalls script = [] ↔ ∀ name ∈ terminalOperations, callsExactly script name = false := by
  rw [List.eq_nil_iff_forall_not_mem]
  constructor
  · intro nothing name terminal
    rw [Bool.eq_false_iff, Ne, callsExactly_iff]
    rintro ⟨call, isCall, before, after, rfl⟩
    refine nothing ⟨name, before.length, before.length + call.length⟩
      (mem_terminalCalls_iff.mpr ⟨before, call, after, ?_, terminal, isCall, rfl, rfl⟩)
    rw [List.append_assoc]
  · intro silent found member
    obtain ⟨before, call, after, rfl, terminal, isCall, _⟩ := mem_terminalCalls_iff.mp member
    refine Bool.eq_false_iff.mp (silent found.value terminal) (callsExactly_iff.mpr ?_)
    exact ⟨call, isCall, List.infix_append' before call after⟩

/-! ### The first closing parenthesis in arguments -/

theorem eq_paren_of_closerOf? {opener : Char} (kind : closerOf? opener = some ')') :
    opener = '(' := by
  unfold closerOf? at kind
  split at kind
  · rfl
  all_goals cases kind

/-- The first closing parenthesis of a nested text closes a group. -/
theorem exists_group {early late : List Char} (nested : Nested (early ++ ')' :: late)) :
    ∃ outside group, early = outside ++ '(' :: group ∧ Nested group := by
  obtain ⟨outside, opener, group, rfl, kind, inside⟩ :=
    awaits_of_dueAfter? (nested_iff_dueAfter?.mp nested) (by decide)
  exact ⟨outside, group, by rw [eq_paren_of_closerOf? kind], inside⟩

theorem innerCall_chained_iff (call : InnerCall) :
    chainFindings call.script = (chainedPairs call.script).map (pairFinding call.script) ∧
    ((call.outerFound, call.innerFound) ∈ chainedPairs call.script ↔
      (∀ name ∈ terminalOperations, callsExactly call.lead name = false) ∧
      ∃ early group late, call.lead = early ++ '(' :: (group ++ ')' :: late) ∧ Nested group ∧
        ')' ∉ early ∧ ')' ∉ group ∧ ';' ∉ late) := by
  refine ⟨chainFindings_eq_map call.script, ?_⟩
  rw [chainedPairs, List.mem_filter]
  refine and_congr ?_ ?_
  · obtain ⟨earlier, later, calls⟩ := call.terminalCalls_script
    have sorted : (terminalCalls call.script).Pairwise fun first second =>
        first.start < second.start := pairwise_start_occurrences _ call.script
    rw [calls] at sorted ⊢
    rw [mem_neighbours_iff_of_sorted sorted, List.map_eq_nil_iff, terminalCalls_eq_nil_iff]
  · rw [continuesChain_iff, call.between_eq]
    constructor
    · rintro ⟨early, late, split, plain, noSemicolon⟩
      have nested := call.arguments_nested
      rw [split, List.append_assoc, List.cons_append] at nested
      obtain ⟨outside, group, rfl, inside⟩ := exists_group nested
      refine ⟨outside, group, late, ?_, inside, ?_, ?_, noSemicolon⟩
      · rw [split, List.append_assoc, List.cons_append]
      · exact fun member => plain (List.mem_append_left _ member)
      · exact fun member => plain (List.mem_append_right _ (List.mem_cons_of_mem _ member))
    · rintro ⟨early, group, late, split, _, noCloser, noCloserInside, noSemicolon⟩
      refine ⟨early ++ '(' :: group, late, ?_, ?_, noSemicolon⟩
      · rw [split, List.append_assoc, List.cons_append]
      · rw [List.mem_append, List.mem_cons]
        rintro (member | same | member)
        · exact noCloser member
        · cases same
        · exact noCloserInside member

/-- No group stands before a call with which the first argument ends. -/
theorem first_argument_not_chained :
    ∃ call : InnerCall, call.script = "q.select(other.count())".toList ∧
      call.outer = "select" ∧ call.inner = "count" ∧
      (call.outerFound, call.innerFound) ∉ chainedPairs call.script := by
  let call : InnerCall :=
    { before := "q".toList, outer := "select", outerCall := ".select(".toList,
      lead := "other".toList, inner := "count", innerCall := ".count(".toList,
      tail := ")".toList, after := [],
      outer_terminal := by decide
      inner_terminal := by decide
      outer_isCall := isCall_beq_iff.mpr ⟨[], List.forall_mem_nil _, by decide⟩
      inner_isCall := isCall_beq_iff.mpr ⟨[], List.forall_mem_nil _, by decide⟩
      arguments_nested := nested_iff_dueAfter?.mpr (by decide) }
  refine ⟨call, by decide, rfl, rfl, ?_⟩
  rw [(innerCall_chained_iff call).2]
  rintro ⟨_, early, group, late, split, _⟩
  have opensNothing : '(' ∉ call.lead := by decide
  rw [split] at opensNothing
  exact opensNothing (List.mem_append_right early List.mem_cons_self)

/-- The group `(x)` hides that the call of `count` stands in the arguments of `select`. -/
theorem closed_group_chains_inner_call :
    let script := "q.select(".toList ++ "f(x), y.count()".toList ++ ")".toList
    Nested script ∧ Nested "f(x), y.count()".toList ∧ Text.Unquoted script ∧ '/' ∉ script ∧
      chainFindings script = [⟨.chainedTerminal "select" "count", some 1⟩] := by
  intro script
  rw [nested_iff_dueAfter?, nested_iff_dueAfter?]
  decide +kernel

end ScriptGate.Lint
