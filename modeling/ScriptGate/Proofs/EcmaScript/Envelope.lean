import ScriptGate.Expression.Wrapper
import ScriptGate.Run.Normalized

/-! # The envelope that the wrapper builds

The closing of the wrapper ends with an object literal (`wrapperReturns`). Its expressions are few:
names, numbers, lengths, comparisons and slices. Their values are defined here (`Term.value?`), so
that the literal has a value for every array of records and every cap, which is the envelope that
normalizing opens again (`normalize_envelope`). -/

namespace ScriptGate.EcmaScript

open Expression

/-- The expressions of the members of the envelope. -/
inductive Term where
  | yes
  | named (name : String)
  | number (value : Nat)
  | length (array : Term)
  | greater (left right : Term)
  | slice (array start stop : Term)
deriving DecidableEq, Repr

/-- The text of an expression. -/
def Term.text : Term → String
  | .yes => "true"
  | .named name => name
  | .number value => toString value
  | .length array => array.text ++ ".length"
  | .greater left right => left.text ++ " > " ++ right.text
  | .slice array start stop => array.text ++ ".slice(" ++ start.text ++ ", " ++ stop.text ++ ")"

/-- The place in an array of the given length that an index means. A negative index counts from the
end, and no index leaves the array. -/
def placeOf (length : Nat) (index : Int) : Nat :=
  if index < 0 then (length + index).toNat else min index.toNat length

/-- The items from one index up to another. -/
def sliceOf (items : List Json) (start stop : Int) : List Json :=
  (items.take (placeOf items.length stop)).drop (placeOf items.length start)

/-- The value of an expression, given the values of the names. -/
def Term.value? (scope : List (String × Json)) : Term → Option Json
  | .yes => some (.bool true)
  | .named name => scope.lookup name
  | .number value => some (.int value)
  | .length array =>
    match array.value? scope with
    | some (.arr items) => some (.int items.length)
    | _ => none
  | .greater left right =>
    match left.value? scope, right.value? scope with
    | some (.int left), some (.int right) => some (.bool (decide (right < left)))
    | _, _ => none
  | .slice array start stop =>
    match array.value? scope, start.value? scope, stop.value? scope with
    | some (.arr items), some (.int start), some (.int stop) =>
      some (.arr (sliceOf items start stop))
    | _, _, _ => none

/-- The name of the cap in the wrapper. -/
def capName : String := "__testModeMaxResults"

/-- The name of the array of records in the wrapper. -/
def arrayName : String := "array"

/-- The members of the object literal at the end of the wrapper. -/
def envelopeTerms : List (String × Term) :=
  [(testModeTag, .yes),
   (truncatedTag, .greater (.length (.named arrayName)) (.named capName)),
   (originalCountTag, .length (.named arrayName)),
   (dataTag, .slice (.named arrayName) (.number 0) (.named capName))]

/-- The text of an object literal, a member on each line. -/
def literalText (members : List (String × Term)) : String :=
  "\x7b\n" ++ ",\n".intercalate (members.map fun member =>
    "    " ++ member.1 ++ ": " ++ member.2.text) ++ "\n  \x7d"

/-- The object of an object literal, when all its members have values. -/
def literalValue? (scope : List (String × Json)) (members : List (String × Term)) : Option Json :=
  (members.mapM fun member => (Term.value? scope member.2).map (member.1, ·)).map .obj

/-- The envelope that the wrapper builds from an array of records. -/
def builtEnvelope? (records : List Json) (cap : Int) : Option Json :=
  literalValue? [(capName, .int cap), (arrayName, .arr records)] envelopeTerms

/-- The envelope of an array of records: it tells whether more records are there than the cap lets
through and how many there are, and holds those up to the cap. -/
def envelopeOf (records : List Json) (cap : Nat) : Json :=
  .obj [("__testMode", .bool true),
    ("__truncated", .bool (decide (cap < records.length))),
    ("__originalCount", .int records.length),
    ("data", .arr (records.take cap))]

/-- The wrapper sets its name for the cap, and ends by returning an object literal. -/
structure WrapperReturns (cap : Int) (members : List (String × Term)) : Prop where
  head : ∃ before after,
    wrapperHead cap = before ++ "var " ++ capName ++ " = " ++ toString cap ++ ";" ++ after
  tail : ∃ before, wrapperTail = before ++ "return " ++ literalText members ++ ";\n\x7d)();"

theorem wrapperReturns (cap : Int) : WrapperReturns cap envelopeTerms where
  head := by
    refine ⟨"(function() \x7b\n  ", "\n  var result = (\n", ?_⟩
    unfold wrapperHead capName
    simp only [String.append_assoc]
    rfl
  tail := by
    refine ⟨"
  );
  var array = null;
  if (result && typeof result.toArray === 'function') \x7b
    array = result.toArray();
  \x7d else if (Array.isArray(result)) \x7b
    array = result;
  \x7d
  if (array === null) \x7b
    return result;
  \x7d
  ", ?_⟩
    have toString_eq (text : String) : toString text = text := rfl
    have number : toString (0 : Nat) = "0" := rfl
    unfold wrapperTail
    simp only [literalText, envelopeTerms, List.map_cons, List.map_nil, Term.text,
      String.intercalate_cons_cons, String.intercalate_singleton, toString_eq, number, arrayName,
      capName, testModeTag, truncatedTag, originalCountTag, dataTag]
    -- Both sides are the same text cut in other places, so their characters are compared.
    rw [← String.toList_inj]
    simp only [String.toList_append]
    repeat rw [String.toList_ofList]
    decide +kernel

theorem sliceOf_zero (items : List Json) (stop : Nat) : sliceOf items 0 stop = items.take stop := by
  have start : placeOf items.length 0 = 0 := by
    rw [placeOf, if_neg (by omega), Int.toNat_zero, Nat.zero_min]
  have place : placeOf items.length stop = min stop items.length := by
    rw [placeOf, if_neg (by omega), Int.toNat_natCast]
  rw [sliceOf, start, place, List.drop_zero, ← List.take_take, List.take_length]

theorem builtEnvelope?_eq (records : List Json) (cap : Nat) :
    builtEnvelope? records cap = some (envelopeOf records cap) := by
  simp [builtEnvelope?, literalValue?, envelopeTerms, Term.value?, List.lookup_cons, capName,
    arrayName, sliceOf_zero, testModeTag, truncatedTag, originalCountTag, dataTag, envelopeOf]

theorem truthy_natCast (number : Nat) : (Json.int number).truthy = decide (number ≠ 0) := by
  rw [Json.truthy, Bool.eq_iff_iff]
  simp

theorem truncationMessage_natCast (shown total : Nat) :
    truncationMessage shown (.int total) =
      s!"Results truncated: showing {shown} of {total} records" := by
  have display : (Json.int total).display = toString total := by
    rw [Json.display, Json.displayNested]
    · rfl
    · nofun
  have toString_eq (text : String) : toString text = text := rfl
  unfold truncationMessage
  rw [display, toString_eq (toString total)]

/-- An envelope with an array, a truth value and a count is opened into what they say. -/
theorem ofEnvelope_eq {envelope : Json} {records : List Json} {truncated : Bool} {total : Nat}
    (data : envelope.memberOrNull dataTag = .arr records)
    (cut : envelope.memberOrNull truncatedTag = .bool truncated)
    (count : envelope.memberOrNull originalCountTag = .int total) :
    Normalized.ofEnvelope envelope =
      { data := .arr records
        logs :=
          if truncated && decide (total ≠ 0) then [truncationMessage records.length (.int total)]
          else []
        truncated := some truncated
        recordCount := some records.length } := by
  unfold Normalized.ofEnvelope
  simp only [data, cut, count, truthy_natCast]
  rfl

/-- Below the limit an array of records is passed on with its length. -/
theorem ofRecords_eq {records : List Json} (few : records.length ≤ maxRecords) :
    Normalized.ofRecords records =
      { data := .arr records, logs := [], truncated := some false,
        recordCount := some records.length } := by
  rw [Normalized.ofRecords, if_neg (Nat.not_lt.mpr few)]

/-- In test mode the envelope is opened. -/
theorem normalize_envelopeOf (records : List Json) {cap : Nat} (positive : 1 ≤ cap) :
    normalize true (envelopeOf records cap) =
      { data := .arr (records.take cap)
        logs :=
          if cap < records.length then
            [s!"Results truncated: showing {cap} of {records.length} records"]
          else []
        truncated := some (decide (cap < records.length))
        recordCount := some (min records.length cap) } := by
  have tagged : ((envelopeOf records cap).memberOrNull testModeTag).truthy = true := rfl
  have opened : normalize true (envelopeOf records cap) =
      Normalized.ofEnvelope (envelopeOf records cap) := by
    rw [envelopeOf] at tagged ⊢
    rw [normalize, tagged, Bool.and_self, if_pos rfl]
  rw [opened, ofEnvelope_eq rfl rfl rfl, truncationMessage_natCast, List.length_take]
  by_cases cut : cap < records.length
  · have notEmpty : records.length ≠ 0 := by omega
    have shown : min cap records.length = cap := by omega
    have counted : min (records.length : Int) cap = cap := by omega
    simp only [cut, notEmpty, shown, counted, decide_true, Bool.and_self, ne_eq, not_false_eq_true,
      ↓reduceIte]
  · have counted : ((min cap records.length : Nat) : Int) = min (records.length : Int) cap := by
      omega
    simp only [cut, counted, decide_false, Bool.false_and, Bool.false_eq_true, ↓reduceIte]

/-- **Wrapper and normalizing agree on the envelope.** The wrapper returns an object literal, whose
value is the envelope for every array of records. In test mode the envelope is opened again: the
data are the records up to the cap, it is told whether records were cut and how many are left, and
one line announces a cut. Below both caps the result is that of the array itself outside test mode.
Outside test mode an envelope is passed on as it is. -/
theorem normalize_envelope (records : List Json) {cap : Nat} (positive : 1 ≤ cap) :
    WrapperReturns cap envelopeTerms ∧
    builtEnvelope? records cap = some (envelopeOf records cap) ∧
    normalize true (envelopeOf records cap) =
      { data := .arr (records.take cap)
        logs :=
          if cap < records.length then
            [s!"Results truncated: showing {cap} of {records.length} records"]
          else []
        truncated := some (decide (cap < records.length))
        recordCount := some (min records.length cap) } ∧
    (records.length ≤ min cap 1000 →
      normalize true (envelopeOf records cap) = normalize false (.arr records)) ∧
    normalize false (envelopeOf records cap) =
      { data := envelopeOf records cap, logs := [], truncated := none, recordCount := none } := by
  refine ⟨wrapperReturns cap, builtEnvelope?_eq records cap, normalize_envelopeOf records positive,
    ?_, rfl⟩
  intro few
  have notCut : ¬ cap < records.length := by omega
  have counted : min (records.length : Int) cap = records.length := by omega
  have below : records.length ≤ maxRecords := Nat.le_trans few (Nat.min_le_right cap 1000)
  rw [normalize_envelopeOf records positive, normalize, ofRecords_eq below,
    List.take_of_length_le (by omega), counted, if_neg notCut, decide_eq_false notCut]

theorem normalize_envelope_three :
    (1 : Nat) ≤ 2 ∧
    normalize true (envelopeOf [.int 1, .int 2, .int 3] 2) =
      { data := .arr [.int 1, .int 2]
        logs := ["Results truncated: showing 2 of 3 records"]
        truncated := some true
        recordCount := some 2 } :=
  ⟨by decide, (normalize_envelope [.int 1, .int 2, .int 3] (by decide)).2.2.1⟩

end ScriptGate.EcmaScript
