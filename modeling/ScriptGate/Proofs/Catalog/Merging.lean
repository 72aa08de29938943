import ScriptGate.Proofs.Catalog

/-! # Merging catalogs

New values are given as a map from parts to values, in which a part may be missing or stand without
a value. Merges one after the other are one merge of the map in which the later values come first
(`Catalog.merge_after_merge`), a map without values changes nothing, and neither does a map of what
the catalog holds already. -/

namespace ScriptGate

/-- A map from the parts of a catalog to new values. A part may be missing, or stand without a
value. -/
structure OverrideMap where
  blacklist : Option (Option (List PatternSource))
  confirmation : Option (Option (List String))
  maxLength : Option (Option Int)
deriving DecidableEq, Repr

namespace OverrideMap

/-- The map that names no part. -/
def empty : OverrideMap := ⟨none, none, none⟩

/-- The new values of a map. Parts without a value keep theirs. -/
def values (map : OverrideMap) : Overrides where
  blacklist := map.blacklist.join
  confirmation := map.confirmation.join
  maxLength := map.maxLength.join
  unknown := []

/-- An entry of a map, or that of a second map when it has a value there. -/
def overriddenEntry {α : Type} (entry later : Option (Option α)) : Option (Option α) :=
  if later.join.isSome then later else entry

/-- A map in which the entries of a second map that have values take the place of its own. -/
def overriddenBy (map later : OverrideMap) : OverrideMap where
  blacklist := overriddenEntry map.blacklist later.blacklist
  confirmation := overriddenEntry map.confirmation later.confirmation
  maxLength := overriddenEntry map.maxLength later.maxLength

/-- No part of a map has a value. -/
structure HasNoValue (map : OverrideMap) : Prop where
  blacklist : map.blacklist.join = none
  confirmation : map.confirmation.join = none
  maxLength : map.maxLength.join = none

theorem join_overriddenEntry {α : Type} (entry later : Option (Option α)) :
    (overriddenEntry entry later).join = later.join.or entry.join := by
  unfold overriddenEntry
  cases hasValue : later.join with
  | none => rw [Option.isSome_none, if_neg Bool.false_ne_true, Option.none_or]
  | some value => rw [Option.isSome_some, if_pos rfl, hasValue, Option.some_or]

theorem HasNoValue.values_eq {map : OverrideMap} (noValue : map.HasNoValue) :
    map.values = Overrides.none := by
  rw [values, noValue.blacklist, noValue.confirmation, noValue.maxLength]
  rfl

end OverrideMap

/-- The values that a catalog holds, for all its parts. -/
def Catalog.heldValues (catalog : Catalog) : OverrideMap where
  blacklist := some (some (catalog.blacklist.map (·.origin)))
  confirmation := some (some catalog.confirmation)
  maxLength := some (some catalog.maxLength)

/-! ### Patterns that ignore case already -/

theorem PatternSource.entry_ignoringCase (origin : PatternSource) :
    origin.ignoringCase.entry = origin.entry := rfl

theorem readEntries_ignoringCase (origins : List PatternSource) :
    readEntries (origins.map (·.ignoringCase)) = readEntries origins := by
  induction origins with
  | nil => rfl
  | cons origin origins ih =>
      rw [List.map_cons, readEntries, readEntries, ih, PatternSource.entry_ignoringCase]

namespace Catalog

theorem build_ignoringCase (blacklist : List PatternSource) (confirmation : List String)
    (maxLength : Int) :
    build (blacklist.map (·.ignoringCase)) confirmation maxLength =
      build blacklist confirmation maxLength := by
  rw [build, build, readEntries_ignoringCase]

/-- A catalog is made of the parts that it holds. -/
theorem isMadeOf_parts (catalog : Catalog) : catalog.IsMadeOf catalog.parts where
  patterns := by
    rw [parts, List.map_map]
    rfl
  ignoresCase _ _ := rfl
  confirmation := rfl
  maxLength := rfl
  positive := catalog.maxLength_pos

theorem merge_values (base : Catalog) (map : OverrideMap) :
    base.merge map.values = build (map.blacklist.join.getD base.parts.blacklist)
      (map.confirmation.join.getD base.parts.confirmation)
      (map.maxLength.join.getD base.parts.maxLength) := rfl

/-- A merge after a merge is one merge, of the map in which the later values come first. Where it
fails, it fails for the same reason. -/
theorem merge_after_merge {base merged : Catalog} {map : OverrideMap}
    (isMerged : base.merge map.values = .ok merged) (later : OverrideMap) :
    merged.merge later.values = base.merge (map.overriddenBy later).values := by
  have made := (merge_eq_ok_iff.mp isMerged).2
  have confirmation : merged.parts.confirmation =
      map.confirmation.join.getD base.parts.confirmation := made.confirmation
  have maxLength : merged.parts.maxLength = map.maxLength.join.getD base.parts.maxLength :=
    made.maxLength
  have blacklist : merged.parts.blacklist =
      (map.blacklist.join.getD base.parts.blacklist).map (·.ignoringCase) := made.patterns
  simp only [merge_values, OverrideMap.overriddenBy, OverrideMap.join_overriddenEntry,
    Option.getD_or, confirmation, maxLength, blacklist]
  cases later.blacklist.join with
  | none => exact build_ignoringCase _ _ _
  | some patterns => rfl

/-- A catalog that is merged with its own parts, given or not, is the same catalog. -/
theorem build_parts (catalog : Catalog) :
    build catalog.parts.blacklist catalog.parts.confirmation catalog.parts.maxLength =
      .ok catalog :=
  build_eq_ok_iff.mpr catalog.isMadeOf_parts

/-- **The laws of merging.** When a merge makes a catalog, a second merge of it gives what one merge
of the overridden map gives, the same catalog or the same failure. A map without values gives the
catalog itself, and so does a map of all the values that the catalog holds. -/
theorem merge_laws (catalog : Catalog) (map later : OverrideMap) :
    (∀ merged, catalog.merge map.values = .ok merged →
      merged.merge later.values = catalog.merge (map.overriddenBy later).values) ∧
    catalog.merge OverrideMap.empty.values = .ok catalog ∧
    (map.HasNoValue → catalog.merge map.values = .ok catalog) ∧
    catalog.merge catalog.heldValues.values = .ok catalog := by
  refine ⟨fun merged isMerged => merge_after_merge isMerged later, catalog.build_parts, ?_,
    catalog.build_parts⟩
  intro noValue
  rw [noValue.values_eq]
  exact catalog.build_parts

end Catalog

end ScriptGate
