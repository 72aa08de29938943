import ScriptGate.Proofs.Number.Binary
import ScriptGate.Proofs.Number.Literal
import ScriptGate.Settings.Bounds

/-! # Numbers that stay within bounds

A value stands for a whole number when it is a truth value, a whole number, a finite float or a text
that writes one (`StandsFor`). Bounds settle on the number within them that is nearest to it, and on
the fallback for every value that stands for none (`Bounds.SettlesOn`). The one exception is an
infinity: it stands for no number either, but it is refused (`Bounds.clamp_cases`). -/

namespace ScriptGate.Settings

variable {bounds : Bounds} {value : Json} {number whole : Int}

/-- The whole number that a value stands for. The fraction of a float is cut off. -/
inductive StandsFor : Json → Int → Prop where
  | yes : StandsFor (.bool true) 1
  | no : StandsFor (.bool false) 0
  | whole (number : Int) : StandsFor (.int number) number
  | float {given : Float} {number : ℚ} (finite : Number.exactValue? given = some number) :
      StandsFor (.float given) (Number.towardZero number)
  | text {given : String} {number : Int} (writes : Number.WritesWhole given.toList number) :
      StandsFor (.str given) number

/-- A value is one of the two infinities. -/
inductive IsInfinite : Json → Prop where
  | float {given : Float} (infinite : given.isInf = true) : IsInfinite (.float given)

/-! ### Reading a value -/

theorem standsFor_bool_iff {truth : Bool} :
    StandsFor (.bool truth) number ↔ (if truth then 1 else 0) = number := by
  constructor
  · intro stands
    cases stands with
    | yes => rfl
    | no => rfl
  · intro same
    cases same
    cases truth with
    | true => exact .yes
    | false => exact .no

theorem standsFor_float_iff {given : Float} :
    StandsFor (.float given) number ↔
      (Number.Binary.ofFloat? given).map Number.Binary.truncate = some number := by
  have cut : (Number.Binary.ofFloat? given).map Number.Binary.truncate =
      (Number.exactValue? given).map Number.towardZero := by
    rw [← Number.map_value_ofFloat?, Option.map_map]
    exact Option.map_congr fun binary _ => binary.truncate_eq_towardZero
  rw [cut, Option.map_eq_some_iff]
  constructor
  · intro stands
    cases stands with
    | float finite => exact ⟨_, finite, rfl⟩
  · intro parts
    obtain ⟨exact, finite, rfl⟩ := parts
    exact .float finite

theorem standsFor_str_iff {given : String} :
    StandsFor (.str given) number ↔ Number.readWhole? given.toList = some number := by
  rw [Number.readWhole?_eq_some_iff]
  constructor
  · intro stands
    cases stands with
    | text writes => exact writes
  · exact .text

theorem readWhole?_of_isInfinite (infinite : IsInfinite value) :
    readWhole? value = .error .infinite := by
  cases infinite with
  | float infinite =>
      have noNumber := Number.Binary.ofFloat?_eq_none_iff.mpr (.inr infinite)
      have notNaN := Number.isNaN_of_isInf infinite
      simp only [readWhole?, noNumber, notNaN, Bool.false_eq_true, ↓reduceIte]

/-- A value that is not infinite is read as the number that it stands for, if it stands for one. -/
theorem exists_readWhole? (finite : ¬ IsInfinite value) :
    ∃ read, readWhole? value = .ok read ∧
      ∀ number, StandsFor value number ↔ read = some number := by
  cases value with
  | null => exact ⟨none, rfl, fun _ => iff_of_false nofun nofun⟩
  | arr items => exact ⟨none, rfl, fun _ => iff_of_false nofun nofun⟩
  | obj members => exact ⟨none, rfl, fun _ => iff_of_false nofun nofun⟩
  | bool truth =>
      refine ⟨_, rfl, fun number => ?_⟩
      rw [standsFor_bool_iff, Option.some_inj]
  | int whole =>
      refine ⟨_, rfl, fun number => ?_⟩
      rw [Option.some_inj]
      constructor
      · intro stands
        cases stands
        rfl
      · intro same
        cases same
        exact .whole whole
  | str given => exact ⟨_, rfl, fun _ => standsFor_str_iff⟩
  | float given =>
      refine ⟨(Number.Binary.ofFloat? given).map Number.Binary.truncate, ?_,
        fun _ => standsFor_float_iff⟩
      cases found : Number.Binary.ofFloat? given with
      | some binary => simp only [readWhole?, found, Option.map_some]
      | none =>
          have isNaN : given.isNaN = true :=
            (Number.Binary.ofFloat?_eq_none_iff.mp found).resolve_right (finite <| .float ·)
          simp only [readWhole?, found, isNaN, Option.map_none, ↓reduceIte]

/-! ### Settling on a number -/

/-- A number is the one within the bounds that is nearest to a given one. -/
structure Bounds.IsNearest (bounds : Bounds) (whole number : Int) : Prop where
  within : bounds.Contains number
  nearest : ∀ other, bounds.Contains other → (number - whole).natAbs ≤ (other - whole).natAbs

/-- The number that bounds settle on for a setting: the fallback when no value is given or the given
one stands for no number, and otherwise the nearest number within them. -/
inductive Bounds.SettlesOn (bounds : Bounds) : Option Json → Int → Prop where
  | missing : bounds.SettlesOn none bounds.fallback
  | unreadable {value : Json} (unread : ∀ whole, ¬ StandsFor value whole) :
      bounds.SettlesOn (some value) bounds.fallback
  | nearest {value : Json} {whole number : Int} (stands : StandsFor value whole)
      (isNearest : bounds.IsNearest whole number) : bounds.SettlesOn (some value) number

theorem Bounds.isNearest_fit (ordered : bounds.Ordered) (whole : Int) :
    bounds.IsNearest whole (bounds.fit whole) where
  within := contains_fit ordered whole
  nearest other within := by
    obtain ⟨low, high⟩ := ordered
    obtain ⟨above, below⟩ := within
    unfold fit
    omega

/-- Every value but an infinity settles on a number within the bounds. -/
theorem Bounds.clamp_cases (ordered : bounds.Ordered) (value : Json) :
    (IsInfinite value ∧ bounds.clamp value = .error .infinite) ∨
      (¬ IsInfinite value ∧ ∃ number, bounds.clamp value = .ok number ∧ bounds.Contains number ∧
        bounds.SettlesOn (some value) number) := by
  by_cases infinite : IsInfinite value
  · refine .inl ⟨infinite, ?_⟩
    rw [clamp, readWhole?_of_isInfinite infinite]
    rfl
  · obtain ⟨read, isRead, stands⟩ := exists_readWhole? infinite
    right
    refine ⟨infinite, ?_⟩
    rw [clamp, isRead]
    cases read with
    | none =>
        have unread : ∀ whole, ¬ StandsFor value whole := fun whole isWhole => by
          cases (stands whole).mp isWhole
        exact ⟨bounds.fallback, rfl, ordered, .unreadable unread⟩
    | some whole =>
        have isWhole := (stands whole).mpr rfl
        exact ⟨bounds.fit whole, rfl, contains_fit ordered whole,
          .nearest isWhole (isNearest_fit ordered whole)⟩

theorem Bounds.read_of_clamp (ordered : bounds.Ordered) (clamped : bounds.clamp value = .ok number) :
    bounds.read ordered (some value) = .ok ⟨number, contains_clamp ordered clamped⟩ := by
  rw [read]
  split
  · next found isFound =>
      cases clamped.symm.trans isFound
      rfl
  · next error isError => cases clamped.symm.trans isError

theorem Bounds.read_of_refused {error : NumberError} (ordered : bounds.Ordered)
    (refused : bounds.clamp value = .error error) :
    bounds.read ordered (some value) = .error error := by
  rw [read]
  split
  · next found isFound => cases refused.symm.trans isFound
  · next other isError =>
      cases refused.symm.trans isError
      rfl

/-- A setting is read unless it is given as an infinity. -/
theorem Bounds.read_cases (ordered : bounds.Ordered) (given : Option Json) :
    ((∃ value ∈ given, IsInfinite value) ∧ bounds.read ordered given = .error .infinite) ∨
      ((∀ value ∈ given, ¬ IsInfinite value) ∧
        ∃ member, bounds.read ordered given = .ok member ∧ bounds.SettlesOn given member.val) := by
  cases given with
  | none => exact .inr ⟨nofun, _, rfl, .missing⟩
  | some value =>
      rcases clamp_cases ordered value with ⟨infinite, refused⟩ |
        ⟨finite, number, clamped, _, settles⟩
      · exact .inl ⟨⟨value, rfl, infinite⟩, read_of_refused ordered refused⟩
      · refine .inr ⟨fun other same => ?_, _, read_of_clamp ordered clamped, settles⟩
        cases same
        exact finite

end ScriptGate.Settings
