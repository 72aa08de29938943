import ScriptGate.Field

/-! # The values that fields take

A check gives a value exactly for the JSON values that stand for it, one lemma for each kind of
field; a record is made when every one of its fields has a value. -/

namespace ScriptGate

/-- Two checks give values when each of them gives its own. -/
theorem Checked.both_eq_ok_iff {α β : Type} {first : Checked α} {second : Checked β}
    {value : α} {other : β} :
    first.both second = .ok (value, other) ↔ first = .ok value ∧ second = .ok other := by
  cases first <;> cases second <;> simp [Checked.both]

theorem Checked.toRecord_eq_ok_iff {α β : Type} {kind : RecordKind} {make : α → β}
    {checked : Checked α} {record : β} :
    checked.toRecord kind make = .ok record ↔
      ∃ value, checked = .ok value ∧ make value = record := by
  cases checked <;> simp [Checked.toRecord]

theorem checkText_eq_ok_iff {name : String} {value : Json} {text : String} :
    checkText name value = .ok text ↔ value = .str text := by
  cases value <;> simp [checkText, Checked.refuse]

theorem checkText?_eq_ok_iff {name : String} {value : Json} {given : Option String} :
    checkText? name value = .ok given ↔ value = Json.ofOption .str given := by
  cases value <;> cases given <;> simp [checkText?, Checked.refuse, Json.ofOption]

/-- A field of whole numbers is left out by `null`, which itself stands for no whole number. -/
theorem checkWhole?_eq_ok_iff {α : Type} {name : String} {accept : Int → Except FieldProblem α}
    {value : Json} {given : Option α} :
    checkWhole? name accept value = .ok given ↔
      (value = .null ∧ given = none) ∨
        ∃ whole accepted, wholeOf value = .ok whole ∧ accept whole = .ok accepted ∧
          given = some accepted := by
  unfold checkWhole?
  split
  · simp [wholeOf, eq_comm]
  · next noNull =>
      have isNull : value ≠ .null := noNull
      cases wholeOf value with
      | error problem => simp [isNull, Except.bind, Checked.refuse]
      | ok whole =>
          cases accepts : accept whole <;>
            simp [isNull, accepts, Except.bind, Checked.refuse, eq_comm]

theorem checkTextItems_eq_ok_iff {name : String} {index : Nat} {items : List Json}
    {texts : List String} :
    checkTextItems name index items = .ok texts ↔ items = texts.map .str := by
  induction items generalizing index texts with
  | nil => simp [checkTextItems, eq_comm]
  | cons item items ih =>
      have split : checkTextItems name index (item :: items) = .ok texts ↔
          ∃ text rest, item = .str text ∧ checkTextItems name (index + 1) items = .ok rest ∧
            text :: rest = texts := by
        cases item <;> cases rest : checkTextItems name (index + 1) items <;>
          simp [checkTextItems, rest, Checked.both, Except.map]
      rw [split]
      cases texts with
      | nil => simp
      | cons text texts => simp [ih]

/-- A field of lists of texts takes the arrays of texts only. -/
theorem checkTexts_eq_ok_iff {name : String} {value : Json} {texts : List String} :
    checkTexts name value = .ok texts ↔ value = .ofStrings texts := by
  cases value <;> simp [checkTexts, Checked.refuse, Json.ofStrings, checkTextItems_eq_ok_iff]

end ScriptGate
