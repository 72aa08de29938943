import ScriptGate.Proofs.Lint.Pairs

/-! # Chains of terminal calls

A chain is a receiver and any number of terminal calls, one after the other. Its calls are found at
the full stops that start them, and nowhere else: neither the receiver nor an argument has a call,
even when it has the names of terminal operations (`occurrencesFrom_links`). Each call continues the
chain of the one before, whatever the arguments between them (`continuesChain_links`). So every call
but the first is reported once, on its own line (`chainFindings_links`). -/

namespace ScriptGate.Lint

open Scan

/-- A terminal call of a chain, with the white space before it. -/
structure TerminalLink where
  /-- What stands before the full stop. -/
  lead : List Char
  name : String
  /-- What stands between the name and the opening parenthesis. -/
  gap : List Char
  /-- What stands between the parentheses. -/
  arguments : List Char
  lead_blank : ∀ char ∈ lead, Text.isBlank char = true
  name_terminal : name ∈ terminalOperations
  gap_blank : ∀ char ∈ gap, Text.isBlank char = true
  opens_nothing : '(' ∉ arguments
  closes_nothing : ')' ∉ arguments

namespace TerminalLink

/-- The call up to its opening parenthesis. -/
def opening (link : TerminalLink) : List Char := '.' :: (link.name.toList ++ (link.gap ++ ['(']))

/-- The arguments with the closing parenthesis. -/
def closing (link : TerminalLink) : List Char := link.arguments ++ [')']

def text (link : TerminalLink) : List Char := link.lead ++ (link.opening ++ link.closing)

/-- The call as it is found when the white space before it starts at an offset. -/
def call (link : TerminalLink) (offset : Nat) : Occurrence String :=
  ⟨link.name, offset + link.lead.length, offset + link.lead.length + link.opening.length⟩

theorem opening_ne_nil (link : TerminalLink) : link.opening ≠ [] := List.cons_ne_nil _ _

theorem length_text (link : TerminalLink) :
    link.text.length = link.lead.length + link.opening.length + link.closing.length := by
  simp only [text, List.length_append, Nat.add_assoc]

end TerminalLink

/-- The calls of a chain whose first white space starts at an offset. -/
def chainCalls : (offset : Nat) → List TerminalLink → List (Occurrence String)
  | _, [] => []
  | offset, link :: links => link.call offset :: chainCalls (offset + link.text.length) links

variable {offset : Nat}

/-! ### Where calls are found -/

theorem scanCallAmong_opening (link : TerminalLink) (rest : List Char) :
    scanCallAmong terminalOperations (link.opening ++ rest) = some (link.name, rest) := by
  refine (scanCallAmong_eq_some_iff isWordName_of_mem_terminalOperations).mpr
    ⟨link.name_terminal, link.gap, link.gap_blank, ?_⟩
  simp only [TerminalLink.opening, List.cons_append, List.append_assoc, List.nil_append]

/-- One link is one call, and the search goes on after it. -/
theorem occurrencesFrom_link (link : TerminalLink) (rest : List Char) :
    occurrencesFrom (scanCallAmong terminalOperations) offset 0 (link.text ++ rest) =
      link.call offset ::
        occurrencesFrom (scanCallAmong terminalOperations) (offset + link.text.length) 0 rest := by
  have leadPlain : '.' ∉ link.lead := fun member => absurd (link.lead_blank _ member) (by decide)
  rw [TerminalLink.text, List.append_assoc, List.append_assoc, occurrencesFrom_of_no_stop
    isWordName_of_mem_terminalOperations id leadPlain,
    occurrencesFrom_found link.opening_ne_nil (scanCallAmong_opening link _), TerminalLink.closing,
    occurrencesFrom_of_arguments isWordName_of_mem_terminalOperations id link.opens_nothing]
  simp only [TerminalLink.call, List.length_append, Nat.add_assoc]

/-- **The calls of a chain are its links.** -/
theorem occurrencesFrom_links (links : List TerminalLink) :
    occurrencesFrom (scanCallAmong terminalOperations) offset 0 (links.flatMap TerminalLink.text) =
      chainCalls offset links := by
  induction links generalizing offset with
  | nil => rfl
  | cons link links ih => rw [List.flatMap_cons, occurrencesFrom_link, ih, chainCalls]

/-! ### What is found in a chain -/

theorem continuesChain_links (before : List Char) (first second : TerminalLink) (rest : List Char) :
    continuesChain (before ++ (first.text ++ (second.text ++ rest))) (first.call before.length)
      (second.call (before.length + first.text.length)) = true := by
  have between : ((before ++ (first.text ++ (second.text ++ rest))).take
      (second.call (before.length + first.text.length)).start).drop
        (first.call before.length).stop = first.closing ++ second.lead := by
    have script : before ++ (first.text ++ (second.text ++ rest)) =
        (before ++ first.lead ++ first.opening) ++ (first.closing ++ second.lead) ++
          (second.opening ++ second.closing ++ rest) := by
      simp only [TerminalLink.text, List.append_assoc]
    rw [script, List.take_left', List.drop_left']
    · simp only [TerminalLink.call, List.length_append]
    · simp only [TerminalLink.call, TerminalLink.length_text, List.length_append]
      omega
  rw [continuesChain_iff, between]
  refine ⟨first.arguments, second.lead, ?_, first.closes_nothing, ?_⟩
  · rw [TerminalLink.closing, List.append_assoc, List.singleton_append]
  · intro inLead
    exact absurd (second.lead_blank _ inLead) (by decide)

theorem findingAt_link (before : List Char) (link : TerminalLink) (rest : List Char)
    (cause : Cause) :
    findingAt (before ++ (link.text ++ rest)) (link.call before.length).start cause =
      ⟨cause, some (1 + Text.lineFeeds (before ++ link.lead))⟩ := by
  have script : before ++ (link.text ++ rest) =
      (before ++ link.lead) ++ (link.opening ++ link.closing ++ rest) := by
    simp only [TerminalLink.text, List.append_assoc]
  rw [findingAt, Text.lineAt, script, List.take_left', Nat.add_comm]
  simp only [TerminalLink.call, List.length_append]

/-- What is found at the links of a chain but the first, after a text. -/
def linkFindings : (before : List Char) → List TerminalLink → List Finding
  | _, [] | _, [_] => []
  | before, first :: second :: links =>
    ⟨.chainedTerminal first.name second.name,
      some (1 + Text.lineFeeds (before ++ first.text ++ second.lead))⟩ ::
      linkFindings (before ++ first.text) (second :: links)

/-- The neighbouring calls at the end of a chain are reported at their links. The induction follows
the chain, and the text before its end grows by one link. -/
theorem filterMap_chainCalls {script : List Char} (before : List Char) (links : List TerminalLink)
    (split : script = before ++ links.flatMap TerminalLink.text) :
    let calls := chainCalls before.length links
    ((calls.zip calls.tail).filterMap fun (first, second) =>
      if continuesChain script first second then
        some (findingAt script second.start (.chainedTerminal first.value second.value))
      else none) = linkFindings before links := by
  induction links generalizing before with
  | nil => rfl
  | cons first links ih =>
      cases links with
      | nil => rfl
      | cons second links =>
          have script_eq : script = before ++ (first.text ++
              (second.text ++ links.flatMap TerminalLink.text)) := by
            rw [split, List.flatMap_cons, List.flatMap_cons]
          have regrouped : script = (before ++ first.text) ++
              (second :: links).flatMap TerminalLink.text := by
            rw [split, List.flatMap_cons, List.append_assoc]
          have continues : continuesChain script (first.call before.length)
              (second.call (before.length + first.text.length)) = true := by
            rw [script_eq, continuesChain_links]
          have reported (cause : Cause) :
              findingAt script (second.call (before.length + first.text.length)).start cause =
                ⟨cause, some (1 + Text.lineFeeds (before ++ first.text ++ second.lead))⟩ := by
            rw [script_eq, ← List.append_assoc, ← List.length_append, findingAt_link]
          have later := ih (before ++ first.text) regrouped
          rw [List.length_append] at later
          simp only [chainCalls, List.tail_cons, List.zip_cons_cons, List.filterMap_cons, continues,
            ↓reduceIte, reported, linkFindings] at later ⊢
          rw [later]
          rfl

theorem chainFindings_eq_linkFindings {receiver : List Char} (plain : '.' ∉ receiver)
    (links : List TerminalLink) :
    chainFindings (receiver ++ links.flatMap TerminalLink.text) = linkFindings receiver links := by
  have calls : occurrences (scanCallAmong terminalOperations)
      (receiver ++ links.flatMap TerminalLink.text) = chainCalls receiver.length links := by
    rw [occurrences, occurrencesFrom_of_no_stop isWordName_of_mem_terminalOperations id plain,
      occurrencesFrom_links, Nat.zero_add]
  rw [chainFindings, calls]
  exact filterMap_chainCalls receiver links rfl

theorem length_linkFindings (before : List Char) (links : List TerminalLink) :
    (linkFindings before links).length = links.length - 1 := by
  fun_induction linkFindings before links with
  | case1 => rfl
  | case2 => rfl
  | case3 before first second links ih =>
      rw [List.length_cons, ih]
      rfl

theorem linkFindings_getElem? (before : List Char) (earlier later : List TerminalLink)
    (first second : TerminalLink) :
    (linkFindings before (earlier ++ first :: second :: later))[earlier.length]? =
      some ⟨.chainedTerminal first.name second.name, some (1 + Text.lineFeeds
        (before ++ (earlier ++ [first]).flatMap TerminalLink.text ++ second.lead))⟩ := by
  induction earlier generalizing before with
  | nil =>
      simp only [List.nil_append, List.length_nil, linkFindings, List.getElem?_cons_zero,
        List.flatMap_cons, List.flatMap_nil, List.append_nil]
  | cons link earlier ih =>
      obtain ⟨next, others, chain⟩ :=
        List.exists_cons_of_ne_nil (List.append_ne_nil_of_right_ne_nil earlier
          (List.cons_ne_nil first (second :: later)))
      have rest := ih (before ++ link.text)
      rw [chain] at rest
      rw [List.cons_append, chain, linkFindings, List.length_cons, List.getElem?_cons_succ, rest]
      simp only [List.cons_append, List.flatMap_cons, List.append_assoc]

/-- **A chain of terminal calls is reported once for each call but the first.** The finding names
the call and the one before it, and stands on the line of the full stop that starts the call. -/
theorem chainFindings_links {receiver : List Char} (plain : '.' ∉ receiver)
    (links : List TerminalLink) :
    (chainFindings (receiver ++ links.flatMap TerminalLink.text)).length = links.length - 1 ∧
    ∀ earlier first second later, links = earlier ++ first :: second :: later →
      ∃ finding,
        (chainFindings (receiver ++ links.flatMap TerminalLink.text))[earlier.length]? =
          some finding ∧
        finding.message = "Cannot chain terminal operations: ." ++ first.name ++
          "() followed by ." ++ second.name ++ "()" ∧
        finding.line = some (1 + Text.lineFeeds (receiver ++
          (earlier ++ [first]).flatMap TerminalLink.text ++ second.lead)) := by
  rw [chainFindings_eq_linkFindings plain]
  refine ⟨length_linkFindings receiver links, ?_⟩
  rintro earlier first second later rfl
  exact ⟨_, linkFindings_getElem? receiver earlier later first second, rfl, rfl⟩

/-- The arguments have a semicolon, quotes and the names of terminal operations. -/
theorem chainFindings_links_lookalikes :
    '.' ∉ "q".toList ∧
    (chainFindings "q.select('.get ;')\n .selectOne (\"sum\")\n.get()".toList).length = 2 ∧
    ∃ finding,
      (chainFindings "q.select('.get ;')\n .selectOne (\"sum\")\n.get()".toList)[1]? =
        some finding ∧
      finding.message = "Cannot chain terminal operations: .selectOne() followed by .get()" ∧
      finding.line = some 3 := by
  have plain : '.' ∉ "q".toList := by decide
  let first : TerminalLink := ⟨[], "select", [], "'.get ;'".toList, List.forall_mem_nil _,
    by decide, List.forall_mem_nil _, by decide, by decide⟩
  let second : TerminalLink := ⟨"\n ".toList, "selectOne", " ".toList, "\"sum\"".toList,
    Text.isBlankText_iff.mp (by decide), by decide, Text.isBlankText_iff.mp (by decide), by decide,
    by decide⟩
  let third : TerminalLink := ⟨"\n".toList, "get", [], [], Text.isBlankText_iff.mp (by decide),
    by decide, List.forall_mem_nil _, by decide, by decide⟩
  have split : "q.select('.get ;')\n .selectOne (\"sum\")\n.get()".toList =
      "q".toList ++ [first, second, third].flatMap TerminalLink.text := by decide +kernel
  obtain ⟨count, reported⟩ := chainFindings_links plain [first, second, third]
  obtain ⟨finding, found, message, line⟩ := reported [first] second third [] rfl
  rw [← split] at count found
  exact ⟨plain, count, finding, found, message.trans (by decide +kernel),
    line.trans (by decide +kernel)⟩

end ScriptGate.Lint
