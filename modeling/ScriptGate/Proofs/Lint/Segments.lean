import ScriptGate.Lint.Check
import ScriptGate.Proofs.Scan.Occurrence
import ScriptGate.Proofs.Text.Parts

/-! # Scripts made of segments

Some checks look for values that a table does not know. A script is often made of segments, each
with one place at which such a value can stand. When a scan reads every segment on its own, the
check reports segment by segment (`siteFindings_segments`). -/

namespace ScriptGate.Scan

variable {α : Type}

/-- A part of a text in which at most one thing is found, after a lead. -/
structure Segment (α : Type) where
  lead : List Char
  body : List Char
  value? : Option α

def Segment.text (segment : Segment α) : List Char := segment.lead ++ segment.body

/-- Before every rest of a kind, the scan finds in a segment its value after the lead, and nothing
else. -/
def Segment.IsReadBy (segment : Segment α) (scan : List Char → Option (α × List Char))
    (kind : List Char → Prop) : Prop :=
  ∀ offset rest, kind rest →
    (occurrencesFrom scan offset 0 (segment.text ++ rest)).map Occurrence.site =
      (segment.value?.map (·, offset + segment.lead.length)).toList ++
        (occurrencesFrom scan (offset + segment.text.length) 0 rest).map Occurrence.site

end ScriptGate.Scan

namespace ScriptGate.Lint

open Scan

/-- The finding about a value on a line, unless a table knows the value. -/
def unknownFinding? (known : List String) (cause : String → Nat → Cause) (value : String)
    (line : Nat) : Option Finding :=
  if value ∈ known then none else some ⟨cause value line, some line⟩

/-- The findings about values at some places of a script. -/
def siteFindings (known : List String) (cause : String → Nat → Cause) (script : List Char)
    (sites : List (String × Nat)) : List Finding :=
  sites.filterMap fun site => unknownFinding? known cause site.1 (Text.lineAt script site.2)

/-- The findings about the values of segments that stand after a text, each on the line on which the
lead of its segment ends. -/
def unknownFindings (known : List String) (cause : String → Nat → Cause) :
    (before : List Char) → List (Segment String) → List Finding
  | _, [] => []
  | before, segment :: segments =>
    (segment.value?.bind fun value =>
      unknownFinding? known cause value (1 + Text.lineFeeds (before ++ segment.lead))).toList ++
      unknownFindings known cause (before ++ segment.text) segments

variable {scan : List Char → Option (String × List Char)} {known : List String}
  {cause : String → Nat → Cause} {script : List Char}

theorem siteFindings_occurrences (known : List String) (cause : String → Nat → Cause)
    (script : List Char) (found : List (Occurrence String)) :
    siteFindings known cause script (found.map Occurrence.site) =
      (found.filter fun call => !known.contains call.value).map fun call =>
        findingAt script call.start (cause call.value (Text.lineAt script call.start)) := by
  rw [siteFindings, List.filterMap_map, ← List.filterMap_eq_map, List.filterMap_filter]
  refine List.filterMap_congr fun call _ => ?_
  by_cases isKnown : call.value ∈ known
  · simp only [Function.comp_apply, Occurrence.site, unknownFinding?, isKnown, ↓reduceIte,
      List.contains_eq_mem, decide_true, Bool.not_true, Bool.false_eq_true]
  · simp only [Function.comp_apply, Occurrence.site, unknownFinding?, isKnown, ↓reduceIte,
      List.contains_eq_mem, decide_false, Bool.not_false, findingAt]

theorem operatorFindings_eq_siteFindings (scan : List Char → Option (String × List Char))
    (cause : String → Cause) (script : List Char) :
    operatorFindings scan cause script =
      siteFindings validOperators (fun operator _ => cause operator) script
        ((occurrences scan script).map Occurrence.site) := by
  rw [siteFindings_occurrences]
  rfl

theorem flagFindings_eq_siteFindings (script : List Char) :
    flagFindings script = siteFindings validFieldFlags .unknownFlag script
      ((occurrences scanFlag script).map Occurrence.site) := by
  rw [siteFindings_occurrences]
  rfl

/-- **A check reports segment by segment.** The induction follows the segments, and the text before
them grows by one segment. -/
theorem siteFindings_segments {β : Type} {segment : β → Segment String}
    {kind : List Char → Prop} (reads : ∀ item, (segment item).IsReadBy scan kind)
    (starts : ∀ item rest, kind ((segment item).text ++ rest)) {rest : List Char} (ends : kind rest)
    (silent : ∀ offset, occurrencesFrom scan offset 0 rest = []) (items : List β)
    (before : List Char)
    (split : script = before ++ (items.flatMap (fun item => (segment item).text) ++ rest)) :
    siteFindings known cause script
      ((occurrencesFrom scan before.length 0
        (items.flatMap (fun item => (segment item).text) ++ rest)).map Occurrence.site) =
      unknownFindings known cause before (items.map segment) := by
  induction items generalizing before with
  | nil =>
      rw [List.flatMap_nil, List.nil_append, silent]
      rfl
  | cons item items ih =>
      have follows : kind (items.flatMap (fun item => (segment item).text) ++ rest) := by
        cases items with
        | nil => exact ends
        | cons next items =>
            rw [List.flatMap_cons, List.append_assoc]
            exact starts next _
      have later := ih (before ++ (segment item).text)
        (by rw [split, List.flatMap_cons, List.append_assoc, List.append_assoc])
      have line : Text.lineAt script (before.length + (segment item).lead.length) =
          1 + Text.lineFeeds (before ++ (segment item).lead) := by
        rw [split, List.flatMap_cons, Segment.text, List.append_assoc, List.append_assoc,
          ← List.append_assoc before, ← List.length_append, Text.lineAt_length]
      rw [List.length_append] at later
      rw [List.flatMap_cons, List.append_assoc, reads item _ _ follows, siteFindings,
        List.filterMap_append, List.map_cons, unknownFindings]
      refine congrArg₂ _ ?_ later
      cases (segment item).value? with
      | none => rfl
      | some value =>
          rw [← line]
          exact List.filterMap_cons

end ScriptGate.Lint
