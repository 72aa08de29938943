import ScriptGate.Run.Normalized

/-! # The records of a normalized value

Outside test mode an array is cut after a thousand items, but an array that an object wraps as its
value is taken out whole (`data_normalize_eq_arr_iff`). So the cap on records holds for all values
but those that wrap too many (`normalize_caps_records`). -/

namespace ScriptGate

/-- The items that a raw value holds: those of an array, or of the array that an object wraps. -/
inductive HoldsItems (raw : Json) (items : List Json) : Prop where
  | bare (isArray : raw = .arr items)
  | wrapped (isValue : raw.member? "value" = some (.arr items))

/-- A raw value that is an object around an array of more than a thousand items. -/
def WrapsTooMany (raw : Json) : Prop :=
  ∃ items, raw.member? "value" = some (.arr items) ∧ 1000 < items.length

namespace Normalized

theorem data_ofRecords (records : List Json) :
    (ofRecords records).data = .arr (records.take maxRecords) := by
  unfold ofRecords
  by_cases tooMany : maxRecords < records.length
  · rw [if_pos tooMany]
  · rw [if_neg tooMany, List.take_of_length_le (Nat.le_of_not_lt tooMany)]

theorem data_ofObject (object : Json) :
    (ofObject object).data = (object.member? "value").getD object := by
  unfold ofObject
  split
  · next isValue =>
      rw [isValue]
      rfl
  · next noValue _ =>
      rw [noValue]
      rfl
  · next noValue _ =>
      rw [noValue]
      rfl

end Normalized

/-- Outside test mode only an array and an object around one are normalized to an array. -/
theorem data_normalize_eq_arr_iff {raw : Json} {shown : List Json} :
    (normalize false raw).data = .arr shown ↔
      (∃ items, raw = .arr items ∧ shown = items.take 1000) ∨
        raw.member? "value" = some (.arr shown) := by
  cases raw with
  | arr items =>
      rw [normalize, Normalized.data_ofRecords]
      simp [maxRecords, Json.member?, eq_comm]
  | obj members =>
      rw [normalize, Bool.false_and, if_neg Bool.false_ne_true, Normalized.data_ofObject]
      cases (Json.obj members).member? "value" <;> simp
  | _ => simp [normalize, Normalized.labelled, Normalized.plain, Json.member?]

/-- **The cap on records.** Outside test mode the normalized value is an array whenever the raw
value holds items, and then it shows a prefix of them: the first thousand if there are more, and all
of them otherwise. The one exception is an object around more than a thousand items, which is
shown with all of them. -/
theorem normalize_caps_records (raw : Json) :
    let data := (normalize false raw).data
    ((∃ shown, data = .arr shown ∧ 1000 < shown.length) ↔ WrapsTooMany raw) ∧
    (∀ shown, data = .arr shown → ∃ items, HoldsItems raw items ∧ shown <+: items ∧
      (shown.length = min 1000 items.length ∨ WrapsTooMany raw ∧ shown = items)) ∧
    (∀ items, HoldsItems raw items → ∃ shown, data = .arr shown) := by
  intro data
  refine ⟨⟨?_, ?_⟩, ?_, ?_⟩
  · rintro ⟨shown, isShown, tooMany⟩
    rcases data_normalize_eq_arr_iff.mp isShown with ⟨items, _, rfl⟩ | wrapped
    · exact absurd tooMany (Nat.not_lt.mpr (List.length_take_le 1000 items))
    · exact ⟨shown, wrapped, tooMany⟩
  · rintro ⟨items, wrapped, tooMany⟩
    exact ⟨items, data_normalize_eq_arr_iff.mpr (.inr wrapped), tooMany⟩
  · intro shown isShown
    rcases data_normalize_eq_arr_iff.mp isShown with ⟨items, bare, rfl⟩ | wrapped
    · exact ⟨items, .bare bare, List.take_prefix 1000 items, .inl List.length_take⟩
    · refine ⟨shown, .wrapped wrapped, List.prefix_refl shown, ?_⟩
      by_cases tooMany : 1000 < shown.length
      · exact .inr ⟨⟨shown, wrapped, tooMany⟩, rfl⟩
      · exact .inl (Nat.min_eq_right (Nat.le_of_not_lt tooMany)).symm
  · intro items holds
    cases holds with
    | bare bare =>
        exact ⟨items.take 1000, data_normalize_eq_arr_iff.mpr (.inl ⟨items, bare, rfl⟩)⟩
    | wrapped wrapped => exact ⟨items, data_normalize_eq_arr_iff.mpr (.inr wrapped)⟩

/-- An object around one item too many: it is shown with all of them. -/
theorem normalize_keeps_wrapped_records :
    let items := List.replicate 1001 (Json.int 0)
    (normalize false (.obj [("value", .arr items)])).data = .arr items ∧ 1000 < items.length := by
  intro items
  refine ⟨rfl, ?_⟩
  rw [List.length_replicate]
  decide

end ScriptGate
