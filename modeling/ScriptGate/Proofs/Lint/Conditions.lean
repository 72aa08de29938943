import ScriptGate.Proofs.Lint.Calls
import ScriptGate.Proofs.Lint.Segments

/-! # Conditions along a chain

A chain of conditions is a receiver and any number of clauses, each a call whose arguments open no
parenthesis. So a scan for conditions can find something at the full stop of a clause only, and
what it finds there ends inside the arguments (`isReadBy_of_found`, `isReadBy_of_none`). The scans
for the two kinds of conditions find the operators of the clauses of their kind and nothing in the
others, so every unknown operator is reported once, on the line of its clause
(`conditionFindings_clauses`). -/

namespace ScriptGate.Lint

open Scan

/-- A quoted argument with the white space around it. The quotes need not be of one kind. -/
structure QuotedArgument where
  lead : List Char
  opening : Char
  content : List Char
  closing : Char
  trail : List Char
  lead_blank : ∀ char ∈ lead, Text.isBlank char = true
  opens : Text.isQuote opening = true
  content_visible : content ≠ []
  content_unquoted : Text.Unquoted content
  opens_nothing : '(' ∉ content
  closes : Text.isQuote closing = true
  trail_blank : ∀ char ∈ trail, Text.isBlank char = true

/-- The second argument of a condition with two arguments. -/
inductive SecondArgument where
  | quoted (argument : QuotedArgument)
  | unquoted (text : List Char) (noQuote : Text.Unquoted text)
    (opensNothing : '(' ∉ text)

/-- The method and the arguments of a clause. -/
inductive ClauseForm where
  /-- A condition with a field, an operator and a value; an alternative one widens the query. -/
  | comparison (alternative : Bool) (field operator : QuotedArgument) (value : List Char)
    (opensNothing : '(' ∉ value)
  /-- A condition with a field and a value. -/
  | equality (alternative : Bool) (field : QuotedArgument) (value : SecondArgument)
  /-- A condition on an aggregate, with a field, an operator and a value. -/
  | aggregate (function field operator : QuotedArgument) (value : List Char)
    (opensNothing : '(' ∉ value)

/-- A clause of a chain, with the white space before it. -/
structure Clause where
  lead : List Char
  /-- What stands between the name and the opening parenthesis. -/
  gap : List Char
  form : ClauseForm
  lead_blank : ∀ char ∈ lead, Text.isBlank char = true
  gap_blank : ∀ char ∈ gap, Text.isBlank char = true

def QuotedArgument.text (argument : QuotedArgument) : List Char :=
  argument.lead ++ argument.opening :: (argument.content ++ argument.closing :: argument.trail)

def SecondArgument.text : SecondArgument → List Char
  | .quoted argument => argument.text
  | .unquoted text _ _ => text

namespace ClauseForm

def name : ClauseForm → String
  | .comparison alternative .. | .equality alternative .. =>
    if alternative then "orWhere" else "where"
  | .aggregate .. => "having"

/-- What stands between the parentheses. -/
def arguments : ClauseForm → List Char
  | .comparison _ field operator value _ => field.text ++ ',' :: (operator.text ++ ',' :: value)
  | .equality _ field value => field.text ++ ',' :: value.text
  | .aggregate function field operator value _ =>
    function.text ++ ',' :: (field.text ++ ',' :: (operator.text ++ ',' :: value))

/-- The operator of a condition with three arguments. -/
def comparisonOperator? : ClauseForm → Option String
  | .comparison _ _ operator _ _ => some (String.ofList operator.content)
  | _ => none

/-- The operator of a condition on an aggregate. -/
def aggregateOperator? : ClauseForm → Option String
  | .aggregate _ _ operator _ _ => some (String.ofList operator.content)
  | _ => none

end ClauseForm

namespace Clause

/-- The clause up to its opening parenthesis. -/
def call (clause : Clause) : List Char := '.' :: (clause.form.name.toList ++ (clause.gap ++ ['(']))

/-- The clause from its full stop on. -/
def body (clause : Clause) : List Char := clause.call ++ (clause.form.arguments ++ [')'])

def text (clause : Clause) : List Char := clause.lead ++ clause.body

def segment (operator? : ClauseForm → Option String) (clause : Clause) : Segment String :=
  ⟨clause.lead, clause.body, operator? clause.form⟩

end Clause

variable {text rest : List Char}

/-! ### Arguments -/

theorem scanQuoted_text (argument : QuotedArgument) (rest : List Char) :
    scanQuoted (argument.text ++ rest) = some (argument.content, argument.trail ++ rest) := by
  obtain ⟨lead, opening, content, closing, trail, leadBlank, opens, visible, unquoted, _, closes,
    _⟩ := argument
  have openingVisible : ¬ Text.isBlank opening = true := by
    rw [Text.isBlank_eq_false_of_isQuote opens]
    exact Bool.false_ne_true
  have inside : ∀ char ∈ content, (!Text.isQuote char) = true := by
    intro char member
    rw [unquoted char member]
    rfl
  have isContent :
      (content ++ closing :: (trail ++ rest)).takeWhile (!Text.isQuote ·) = content := by
    simp only [List.takeWhile_append_of_pos inside, List.takeWhile_cons, closes, Bool.not_true,
      Bool.false_eq_true, ↓reduceIte, List.append_nil]
  have isAfter : (content ++ closing :: (trail ++ rest)).dropWhile (!Text.isQuote ·) =
      closing :: (trail ++ rest) := by
    simp only [List.dropWhile_append_of_pos inside, List.dropWhile_cons, closes, Bool.not_true,
      Bool.false_eq_true, ↓reduceIte]
  obtain ⟨char, content, rfl⟩ := List.exists_cons_of_ne_nil visible
  simp only [QuotedArgument.text, List.append_assoc, List.cons_append] at isContent isAfter ⊢
  rw [scanQuoted, Text.trimStart, List.dropWhile_append_of_pos leadBlank,
    List.dropWhile_cons_of_neg openingVisible]
  simp only [opens, ↓reduceIte, isContent, isAfter]

/-- No quoted text stands at the start of arguments that have no quote. -/
theorem scanQuoted_eq_none (unquoted : Text.Unquoted text) :
    scanQuoted (text ++ ')' :: rest) = none := by
  induction text with
  | nil => rfl
  | cons char text ih =>
      obtain ⟨noQuote, unquoted⟩ := List.forall_mem_cons.mp unquoted
      by_cases blank : Text.isBlank char = true
      · have skipped :
            scanQuoted (char :: (text ++ ')' :: rest)) = scanQuoted (text ++ ')' :: rest) := by
          rw [scanQuoted, scanQuoted, Text.trimStart, List.dropWhile_cons_of_pos blank,
            Text.trimStart]
        rw [List.cons_append, skipped, ih unquoted]
      · rw [List.cons_append, scanQuoted, Text.trimStart, List.dropWhile_cons_of_neg blank]
        simp only [noQuote, Bool.false_eq_true, ↓reduceIte]

theorem afterMark?_comma {gap : List Char} (blank : ∀ char ∈ gap, Text.isBlank char = true)
    (rest : List Char) : afterMark? ',' (gap ++ ',' :: rest) = some rest :=
  (afterMark?_eq_some_iff (by decide)).mpr ⟨gap, blank, rfl⟩

theorem afterMark?_closing {gap : List Char} (blank : ∀ char ∈ gap, Text.isBlank char = true)
    (rest : List Char) : afterMark? ',' (gap ++ ')' :: rest) = none := by
  rw [Option.eq_none_iff_forall_ne_some]
  intro after found
  obtain ⟨other, otherBlank, split⟩ := (afterMark?_eq_some_iff (by decide)).mp found
  have noComma : ',' ∉ gap := fun member => absurd (blank _ member) (by decide)
  have noClosing : ')' ∉ other := fun member => absurd (otherBlank _ member) (by decide)
  exact absurd (Text.split_unique noComma noClosing split).2.1 (by decide)

/-! ### What the two scans read -/

theorem isWordName_of_mem_conditions : ∀ name ∈ ["where", "orWhere"], IsWordName name := by decide

theorem isWordName_of_mem_having : ∀ name ∈ ["having"], IsWordName name := by decide

theorem needsCall_scanWhere : NeedsCall ["where", "orWhere"] scanWhere := by
  intro text nothing
  rw [scanWhere, nothing]
  rfl

theorem needsCall_scanHaving : NeedsCall ["having"] scanHaving := by
  intro text nothing
  have noCall : afterExactCall? "having" text = none := by
    cases found : afterExactCall? "having" text with
    | none => rfl
    | some rest =>
        rw [scanCallAmong, List.findSome?_cons, scanCall, found] at nothing
        cases nothing
  rw [scanHaving, noCall]
  rfl

/-- A comparison is read up to its value. -/
theorem scanWhere_comparison {name : String} (field operator : QuotedArgument)
    (found : scanCallAmong ["where", "orWhere"] text =
      some (name, field.text ++ ',' :: (operator.text ++ ',' :: rest))) :
    scanWhere text = some (String.ofList operator.content, rest) := by
  rw [scanWhere, found]
  simp only [Option.bind_eq_bind, Option.bind_some, scanQuoted_text,
    afterMark?_comma field.trail_blank, afterMark?_comma operator.trail_blank, Option.pure_def]

/-- Behind the second argument stands no comma, so nothing is read. -/
theorem scanWhere_equality {name : String} (field : QuotedArgument) (value : SecondArgument)
    (found : scanCallAmong ["where", "orWhere"] text =
      some (name, field.text ++ ',' :: (value.text ++ ')' :: rest))) :
    scanWhere text = none := by
  rw [scanWhere, found]
  cases value with
  | quoted argument =>
      simp only [Option.bind_eq_bind, Option.bind_some, scanQuoted_text, SecondArgument.text,
        afterMark?_comma field.trail_blank, afterMark?_closing argument.trail_blank,
        Option.bind_none]
  | unquoted text noQuote _ =>
      simp only [Option.bind_eq_bind, Option.bind_some, scanQuoted_text, SecondArgument.text,
        afterMark?_comma field.trail_blank, scanQuoted_eq_none noQuote, Option.bind_none]

/-- A condition on an aggregate is read up to its value. -/
theorem scanHaving_aggregate (function field operator : QuotedArgument)
    (found : afterExactCall? "having" text = some (function.text ++ ',' ::
      (field.text ++ ',' :: (operator.text ++ ',' :: rest)))) :
    scanHaving text = some (String.ofList operator.content, rest) := by
  rw [scanHaving, found]
  simp only [Option.bind_eq_bind, Option.bind_some, scanQuoted_text,
    afterMark?_comma function.trail_blank, afterMark?_comma field.trail_blank,
    afterMark?_comma operator.trail_blank, Option.pure_def]

/-! ### The calls of clauses -/

theorem ClauseForm.name_mem (form : ClauseForm) : form.name ∈ ["where", "orWhere", "having"] := by
  cases form with
  | comparison alternative => cases alternative <;> rw [name] <;> decide
  | equality alternative => cases alternative <;> rw [name] <;> decide
  | aggregate => rw [name]; decide

theorem isWordName_name (form : ClauseForm) : IsWordName form.name := by
  have words : ∀ name ∈ ["where", "orWhere", "having"], IsWordName name := by decide
  exact words form.name form.name_mem

theorem QuotedArgument.no_paren (argument : QuotedArgument) : '(' ∉ argument.text := by
  have noLead : '(' ∉ argument.lead := fun member =>
    absurd (argument.lead_blank _ member) (by decide)
  have noTrail : '(' ∉ argument.trail := fun member =>
    absurd (argument.trail_blank _ member) (by decide)
  have notQuote {quote : Char} (isQuote : Text.isQuote quote = true) : '(' ≠ quote := by
    rintro rfl
    cases isQuote
  simp only [text, List.mem_append, List.mem_cons, noLead, noTrail, notQuote argument.opens,
    notQuote argument.closes, argument.opens_nothing, or_self, not_false_eq_true]

theorem SecondArgument.no_paren (value : SecondArgument) : '(' ∉ value.text := by
  cases value with
  | quoted argument => exact argument.no_paren
  | unquoted text noQuote opensNothing => exact opensNothing

theorem ClauseForm.arguments_no_paren (form : ClauseForm) : '(' ∉ form.arguments := by
  have notComma : '(' ≠ ',' := by decide
  cases form with
  | comparison alternative field operator value opensNothing =>
      simp only [arguments, List.mem_append, List.mem_cons, field.no_paren, operator.no_paren,
        notComma, opensNothing, or_self, not_false_eq_true]
  | equality alternative field value =>
      simp only [arguments, List.mem_append, List.mem_cons, field.no_paren, value.no_paren,
        notComma, or_self, not_false_eq_true]
  | aggregate function field operator value opensNothing =>
      simp only [arguments, List.mem_append, List.mem_cons, function.no_paren, field.no_paren,
        operator.no_paren, notComma, opensNothing, or_self, not_false_eq_true]

namespace Clause

theorem afterExactCall?_body (clause : Clause) (rest : List Char) :
    afterExactCall? clause.form.name (clause.body ++ rest) =
      some (clause.form.arguments ++ ')' :: rest) := by
  refine afterExactCall?_eq_some_iff.mpr ⟨clause.gap, clause.gap_blank, ?_⟩
  simp only [body, call, List.cons_append, List.append_assoc, List.nil_append]

variable {names : List String} (words : ∀ name ∈ names, IsWordName name)

include words in
theorem scanCallAmong_body (clause : Clause) (member : clause.form.name ∈ names)
    (rest : List Char) :
    scanCallAmong names (clause.body ++ rest) =
      some (clause.form.name, clause.form.arguments ++ ')' :: rest) := by
  rw [scanCallAmong_eq_some_iff words, ← afterExactCall?_eq_some_iff]
  exact ⟨member, clause.afterExactCall?_body rest⟩

include words in
/-- A clause is a call of its own method only. -/
theorem scanCallAmong_body_eq_none (clause : Clause) (notMember : clause.form.name ∉ names)
    (rest : List Char) : scanCallAmong names (clause.body ++ rest) = none := by
  rw [Option.eq_none_iff_forall_ne_some]
  rintro ⟨name, after⟩ found
  rw [scanCallAmong_eq_some_iff words, ← afterExactCall?_eq_some_iff] at found
  obtain ⟨same, _⟩ := afterExactCall?_unique (words name found.1) (isWordName_name clause.form)
    found.2 (clause.afterExactCall?_body rest)
  exact notMember (same ▸ found.1)

end Clause

/-! ### Clause by clause -/

section Reading

variable {names : List String} {scan : List Char → Option (String × List Char)}
  {operator? : ClauseForm → Option String} {clause : Clause}

theorem stop_not_mem_lead (clause : Clause) : '.' ∉ clause.lead := fun member =>
  absurd (clause.lead_blank _ member) (by decide)

/-- A scan that finds the operator of a clause before the last of its arguments reads the clause. -/
theorem isReadBy_of_found {operator : String} {left : List Char}
    (words : ∀ name ∈ names, IsWordName name) (needs : NeedsCall names scan)
    (isOperator : operator? clause.form = some operator) (opensNothing : '(' ∉ left)
    (ends : left ++ [')'] <:+ clause.body)
    (found : ∀ rest, scan (clause.body ++ rest) = some (operator, left ++ ')' :: rest)) :
    (clause.segment operator?).IsReadBy scan fun _ => True := by
  intro offset rest _
  obtain ⟨part, split⟩ := ends
  have visible : part ≠ [] := by
    rintro rfl
    have inBody : '(' ∈ clause.body := by
      simp only [Clause.body, Clause.call, List.mem_append, List.mem_cons, true_or, or_true]
    rw [← split, List.nil_append, List.mem_append, List.mem_singleton] at inBody
    rcases inBody with inLeft | same
    · exact opensNothing inLeft
    · cases same
  -- The scan goes on behind the operator, and what is left of the arguments has no call.
  have foundHere :
      scan (part ++ (left ++ [')'] ++ rest)) = some (operator, left ++ [')'] ++ rest) := by
    rw [← List.append_assoc, split, found, List.append_assoc, List.singleton_append]
  simp only [Clause.segment, Segment.text, List.append_assoc, isOperator]
  rw [occurrencesFrom_of_no_stop words needs (stop_not_mem_lead clause), ← split, List.append_assoc,
    occurrencesFrom_found visible foundHere, occurrencesFrom_of_arguments words needs opensNothing]
  simp only [Option.map_some, Option.toList_some, List.map_cons, Occurrence.site,
    List.singleton_append, List.length_append, Nat.add_assoc]

/-- A scan that finds nothing at the full stop of a clause finds nothing in it. -/
theorem isReadBy_of_none (words : ∀ name ∈ names, IsWordName name) (needs : NeedsCall names scan)
    (noOperator : operator? clause.form = none)
    (nothing : ∀ rest, scan (clause.body ++ rest) = none) :
    (clause.segment operator?).IsReadBy scan fun _ => True := by
  intro offset rest _
  have inName : '.' ∉ clause.form.name.toList ++ (clause.gap ++ ['(']) := by
    simp only [List.mem_append, List.mem_singleton, not_or]
    refine ⟨fun member => ?_, fun member => ?_, by decide⟩
    · exact absurd ((isWordName_name clause.form).isWord _ member) (by decide)
    · exact absurd (clause.gap_blank _ member) (by decide)
  have split : clause.body ++ rest = '.' :: (clause.form.name.toList ++ (clause.gap ++ ['(']) ++
      (clause.form.arguments ++ [')'] ++ rest)) := by
    simp only [Clause.body, Clause.call, List.cons_append, List.append_assoc, List.nil_append]
  -- Behind the full stop come the name, without another full stop, and the arguments.
  have atStop := nothing rest
  rw [split] at atStop
  simp only [Clause.segment, Segment.text, List.append_assoc, noOperator]
  rw [occurrencesFrom_of_no_stop words needs (stop_not_mem_lead clause), split,
    occurrencesFrom_cons_of_none atStop, occurrencesFrom_of_no_stop words needs inName,
    occurrencesFrom_of_arguments words needs clause.form.arguments_no_paren]
  refine congrArg (fun offset => (occurrencesFrom scan offset 0 rest).map Occurrence.site) ?_
  simp only [Clause.body, Clause.call, List.length_append, List.length_cons]
  omega

end Reading

theorem isReadBy_scanWhere (clause : Clause) :
    (clause.segment ClauseForm.comparisonOperator?).IsReadBy scanWhere fun _ => True := by
  have isMethod (alternative : Bool) :
      (if alternative then "orWhere" else "where") ∈ ["where", "orWhere"] := by
    cases alternative <;> decide
  have isCall := clause.scanCallAmong_body isWordName_of_mem_conditions
  cases form : clause.form with
  | comparison alternative field operator value opensNothing =>
      rw [form] at isCall
      refine isReadBy_of_found isWordName_of_mem_conditions needsCall_scanWhere
        (congrArg ClauseForm.comparisonOperator? form) opensNothing ?_ fun rest => ?_
      · refine ⟨clause.call ++ (field.text ++ ',' :: (operator.text ++ [','])), ?_⟩
        simp only [Clause.body, form, ClauseForm.arguments, List.append_assoc, List.cons_append,
          List.nil_append]
      · have found := isCall (isMethod alternative) rest
        simp only [ClauseForm.arguments, List.append_assoc, List.cons_append] at found
        exact scanWhere_comparison field operator found
  | equality alternative field value =>
      rw [form] at isCall
      refine isReadBy_of_none isWordName_of_mem_conditions needsCall_scanWhere
        (congrArg ClauseForm.comparisonOperator? form) fun rest => ?_
      have found := isCall (isMethod alternative) rest
      simp only [ClauseForm.arguments, List.append_assoc, List.cons_append] at found
      exact scanWhere_equality field value found
  | aggregate =>
      refine isReadBy_of_none isWordName_of_mem_conditions needsCall_scanWhere
        (congrArg ClauseForm.comparisonOperator? form) fun rest => needsCall_scanWhere ?_
      refine clause.scanCallAmong_body_eq_none isWordName_of_mem_conditions ?_ rest
      rw [form, ClauseForm.name]
      decide

theorem isReadBy_scanHaving (clause : Clause) :
    (clause.segment ClauseForm.aggregateOperator?).IsReadBy scanHaving fun _ => True := by
  have other (notHaving : clause.form.name ∉ ["having"]) (rest : List Char) :
      scanHaving (clause.body ++ rest) = none :=
    needsCall_scanHaving (clause.scanCallAmong_body_eq_none isWordName_of_mem_having notHaving rest)
  have notHaving (alternative : Bool) :
      (if alternative then "orWhere" else "where") ∉ ["having"] := by
    cases alternative <;> decide
  have isCall := clause.afterExactCall?_body
  cases form : clause.form with
  | comparison alternative =>
      rw [form] at other
      exact isReadBy_of_none isWordName_of_mem_having needsCall_scanHaving
        (congrArg ClauseForm.aggregateOperator? form) (other (notHaving alternative))
  | equality alternative =>
      rw [form] at other
      exact isReadBy_of_none isWordName_of_mem_having needsCall_scanHaving
        (congrArg ClauseForm.aggregateOperator? form) (other (notHaving alternative))
  | aggregate function field operator value opensNothing =>
      rw [form] at isCall
      refine isReadBy_of_found isWordName_of_mem_having needsCall_scanHaving
        (congrArg ClauseForm.aggregateOperator? form) opensNothing ?_ fun rest => ?_
      · refine ⟨clause.call ++ (function.text ++ ',' :: (field.text ++ ',' ::
          (operator.text ++ [',']))), ?_⟩
        simp only [Clause.body, form, ClauseForm.arguments, List.append_assoc, List.cons_append,
          List.nil_append]
      · have found := isCall rest
        simp only [ClauseForm.arguments, List.append_assoc, List.cons_append] at found
        exact scanHaving_aggregate function field operator found

/-- A check of operators reports clause by clause when its scan reads every clause. -/
theorem operatorFindings_clauses {names : List String}
    {scan : List Char → Option (String × List Char)} {operator? : ClauseForm → Option String}
    (words : ∀ name ∈ names, IsWordName name) (needs : NeedsCall names scan)
    (reads : ∀ clause : Clause, (clause.segment operator?).IsReadBy scan fun _ => True)
    (cause : String → Cause) {receiver : List Char} (plain : '.' ∉ receiver)
    (clauses : List Clause) :
    operatorFindings scan cause (receiver ++ clauses.flatMap Clause.text) =
      unknownFindings validOperators (fun operator _ => cause operator) receiver
        (clauses.map (Clause.segment operator?)) := by
  have segments : clauses.flatMap Clause.text = clauses.flatMap Clause.text ++ [] :=
    (List.append_nil _).symm
  rw [operatorFindings_eq_siteFindings, occurrences,
    occurrencesFrom_of_no_stop words needs plain, Nat.zero_add, segments]
  exact siteFindings_segments reads (fun _ _ => trivial) trivial (fun _ => rfl) clauses receiver rfl

/-- **Conditions are judged clause by clause.** The receiver has no full stop. Every comparison with
an unknown operator is reported once, in order and on the line of its full stop, every condition on
an aggregate likewise by the check for those, and nothing else is. -/
theorem conditionFindings_clauses {receiver : List Char} (plain : '.' ∉ receiver)
    (clauses : List Clause) :
    whereFindings (receiver ++ clauses.flatMap Clause.text) =
        unknownFindings validOperators (fun operator _ => .invalidOperator operator) receiver
          (clauses.map (Clause.segment ClauseForm.comparisonOperator?)) ∧
      havingFindings (receiver ++ clauses.flatMap Clause.text) =
        unknownFindings validOperators (fun operator _ => .invalidHavingOperator operator) receiver
          (clauses.map (Clause.segment ClauseForm.aggregateOperator?)) :=
  ⟨operatorFindings_clauses isWordName_of_mem_conditions needsCall_scanWhere isReadBy_scanWhere
      .invalidOperator plain clauses,
    operatorFindings_clauses isWordName_of_mem_having needsCall_scanHaving isReadBy_scanHaving
      .invalidHavingOperator plain clauses⟩

/-- Quotes are mixed, an operator has a line feed, and a value has the name of a method. -/
theorem conditionFindings_clauses_three :
    let script := ("q\n.where('a',\"not\nIN`,'.where')" ++
      " .orWhere ( `b' ,'~').having('c','d','MORE',5)").toList
    '.' ∉ "q\n".toList ∧ whereFindings script = [⟨.invalidOperator "not\nIN", some 2⟩] ∧
      havingFindings script = [⟨.invalidHavingOperator "MORE", some 3⟩] := by
  intro script
  have plain : '.' ∉ "q\n".toList := by decide
  let quoted (content : List Char) (visible : content ≠ []) (unquoted : Text.Unquoted content)
      (opensNothing : '(' ∉ content) : QuotedArgument :=
    ⟨[], '\x27', content, '\x27', [], List.forall_mem_nil _, rfl, visible, unquoted, opensNothing,
      rfl, List.forall_mem_nil _⟩
  let mixed : QuotedArgument :=
    ⟨[], '\x22', "not\nIN".toList, '\x60', [], List.forall_mem_nil _, rfl, by decide, by decide,
      by decide, rfl, List.forall_mem_nil _⟩
  let spaced : QuotedArgument :=
    ⟨[' '], '\x60', ['b'], '\x27', [' '], Text.isBlankText_iff.mp rfl, rfl, by decide, by decide,
      by decide, rfl, Text.isBlankText_iff.mp rfl⟩
  let letter (char : Char) (unquoted : Text.Unquoted [char]) (opensNothing : '(' ∉ [char]) :=
    quoted [char] (List.cons_ne_nil _ _) unquoted opensNothing
  let clauses : List Clause :=
    [⟨[], [], .comparison false (letter 'a' (by decide) (by decide)) mixed "'.where'".toList
          (by decide), List.forall_mem_nil _, List.forall_mem_nil _⟩,
      ⟨[' '], [' '], .equality true spaced (.quoted (letter '~' (by decide) (by decide))),
        Text.isBlankText_iff.mp rfl, Text.isBlankText_iff.mp rfl⟩,
      ⟨[], [], .aggregate (letter 'c' (by decide) (by decide)) (letter 'd' (by decide) (by decide))
          (quoted "MORE".toList (by decide) (by decide) (by decide)) ['5'] (by decide),
        List.forall_mem_nil _, List.forall_mem_nil _⟩]
  have split : script = "q\n".toList ++ clauses.flatMap Clause.text := by decide +kernel
  obtain ⟨conditions, aggregates⟩ := conditionFindings_clauses plain clauses
  rw [← split] at conditions aggregates
  exact ⟨plain, conditions.trans (by decide +kernel), aggregates.trans (by decide +kernel)⟩

end ScriptGate.Lint
