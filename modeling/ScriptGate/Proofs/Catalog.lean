import Mathlib.Data.List.Basic
import ScriptGate.Proofs.Screening.Verdict

/-! # What catalogs are made of

A catalog is made of a blacklist of written patterns, operations that need a confirmation, and a
length limit. It keeps every pattern as it is written, in order and with its flags, except that all
of them ignore case; and it exists exactly when all the patterns can be read and the limit is
positive (`Catalog.build_eq_ok_iff`). -/

namespace ScriptGate

/-- The same written form, read without regard to case. -/
def PatternSource.ignoringCase (origin : PatternSource) : PatternSource :=
  { origin with flags := { origin.flags with ignoreCase := true } }

/-- What a catalog is made of. -/
structure Parts where
  blacklist : List PatternSource
  confirmation : List String
  maxLength : Int
deriving DecidableEq, Repr

/-- The parts with the new values that are given for some of them. -/
def Parts.withNew (parts : Parts) (overrides : Overrides) : Parts where
  blacklist := overrides.blacklist.getD parts.blacklist
  confirmation := overrides.confirmation.getD parts.confirmation
  maxLength := overrides.maxLength.getD parts.maxLength

/-- The default parts. -/
def Parts.standard : Parts :=
  ⟨defaultBlacklist.map .plain, confirmationOperations, defaultMaxLength⟩

/-- A catalog that holds the given parts: one pattern for each given one, in the same order and with
the same written form and flags, except that it ignores case; the operations as they are; and the
length limit, which is positive. -/
structure Catalog.IsMadeOf (catalog : Catalog) (parts : Parts) : Prop where
  patterns : catalog.blacklist.map (·.origin) = parts.blacklist.map (·.ignoringCase)
  ignoresCase : ∀ entry ∈ catalog.blacklist, entry.flags.ignoreCase = true
  confirmation : catalog.confirmation = parts.confirmation
  maxLength : (catalog.maxLength : Int) = parts.maxLength
  positive : 1 ≤ catalog.maxLength

/-- The parts that a catalog would be made of again. -/
def Catalog.parts (catalog : Catalog) : Parts :=
  ⟨catalog.blacklist.map (·.origin), catalog.confirmation, catalog.maxLength⟩

/-! ### Reading patterns -/

theorem BlacklistEntry.eq_of_origin_eq {first second : BlacklistEntry}
    (same : first.origin = second.origin) : first = second := by
  obtain ⟨source, multiline, dotAll, pattern, isRead⟩ := first
  obtain ⟨source', multiline', dotAll', pattern', isRead'⟩ := second
  simp only [origin, flags, PatternSource.mk.injEq, PatternFlags.mk.injEq, true_and] at same
  obtain ⟨rfl, rfl, rfl⟩ := same
  cases isRead.symm.trans isRead'
  rfl

/-- A written pattern becomes the one entry that was made from it. -/
theorem PatternSource.entry_eq_ok_iff {origin : PatternSource} {entry : BlacklistEntry} :
    origin.entry = .ok entry ↔ entry.origin = origin.ignoringCase := by
  constructor
  · intro made
    unfold PatternSource.entry at made
    split at made
    · cases made
      rfl
    · cases made
  · intro same
    have sameSource : entry.source = origin.source := congrArg PatternSource.source same
    unfold PatternSource.entry
    split
    · next isRead =>
        refine congrArg Except.ok (BlacklistEntry.eq_of_origin_eq ?_)
        exact same.symm
    · next isFaulty =>
        rw [← sameSource, entry.isRead] at isFaulty
        cases isFaulty

theorem readEntries_eq_ok_iff {origins : List PatternSource} {entries : List BlacklistEntry} :
    readEntries origins = .ok entries ↔
      entries.map (·.origin) = origins.map (·.ignoringCase) := by
  induction origins generalizing entries with
  | nil =>
      rw [List.map_nil, List.map_eq_nil_iff]
      exact ⟨fun made => (Except.ok.inj made).symm, fun none => none ▸ rfl⟩
  | cons origin origins ih =>
      have unfolded : readEntries (origin :: origins) = .ok entries ↔
          ∃ entry rest, origin.entry = .ok entry ∧ readEntries origins = .ok rest ∧
            entry :: rest = entries := by
        rw [readEntries]
        cases origin.entry with
        | error error => simp [bind, Except.bind]
        | ok entry =>
            cases readEntries origins <;> simp [bind, Except.bind, pure, Except.pure]
      rw [unfolded, List.map_cons]
      constructor
      · rintro ⟨entry, rest, made, others, rfl⟩
        rw [List.map_cons, PatternSource.entry_eq_ok_iff.mp made, ih.mp others]
      · intro same
        obtain ⟨entry, rest, rfl, made, others⟩ := List.map_eq_cons_iff.mp same
        exact ⟨entry, rest, PatternSource.entry_eq_ok_iff.mpr made, ih.mpr others, rfl⟩

/-! ### Making catalogs -/

namespace Catalog

/-- A catalog is determined by the parts that it is made of. -/
theorem IsMadeOf.unique {first second : Catalog} {parts : Parts} (isFirst : first.IsMadeOf parts)
    (isSecond : second.IsMadeOf parts) : first = second := by
  have entries : first.blacklist = second.blacklist :=
    Except.ok.inj ((readEntries_eq_ok_iff.mpr isFirst.patterns).symm.trans
      (readEntries_eq_ok_iff.mpr isSecond.patterns))
  have operations := isFirst.confirmation.trans isSecond.confirmation.symm
  have limit : first.maxLength = second.maxLength :=
    Int.ofNat.inj (isFirst.maxLength.trans isSecond.maxLength.symm)
  cases first
  cases second
  cases entries
  cases operations
  cases limit
  rfl

theorem isMadeOf_of_read {parts : Parts} {entries : List BlacklistEntry}
    (read : readEntries parts.blacklist = .ok entries) (positive : 0 < parts.maxLength) :
    IsMadeOf ⟨entries, parts.confirmation, parts.maxLength.toNat, by omega⟩ parts where
  patterns := readEntries_eq_ok_iff.mp read
  ignoresCase _ _ := rfl
  confirmation := rfl
  maxLength := Int.toNat_of_nonneg positive.le
  positive := show 1 ≤ parts.maxLength.toNat by omega

/-- A catalog is built exactly when it holds the parts. -/
theorem build_eq_ok_iff {catalog : Catalog} {parts : Parts} :
    build parts.blacklist parts.confirmation parts.maxLength = .ok catalog ↔
      catalog.IsMadeOf parts := by
  constructor
  · intro built
    unfold build at built
    split at built
    · cases built
    · next entries read =>
        split at built
        · next positive =>
            cases built
            exact isMadeOf_of_read read positive
        · cases built
  · intro made
    have read := readEntries_eq_ok_iff.mpr made.patterns
    have positive : 0 < parts.maxLength := by
      have limit := made.maxLength
      have least := made.positive
      omega
    unfold build
    simp only [read, dif_pos positive]
    exact congrArg Except.ok ((isMadeOf_of_read read positive).unique made)

/-- Every default pattern can be read, and the default catalog holds them all. -/
theorem standard_isMadeOf : standard.IsMadeOf Parts.standard where
  patterns := by decide +kernel
  ignoresCase _ _ := rfl
  confirmation := rfl
  maxLength := rfl
  positive := by decide

theorem replaced_eq_ok_iff {base catalog : Catalog} {overrides : Overrides} :
    base.replaced overrides = .ok catalog ↔ catalog.IsMadeOf (base.parts.withNew overrides) := by
  have built : base.replaced overrides = build (base.parts.withNew overrides).blacklist
      (base.parts.withNew overrides).confirmation (base.parts.withNew overrides).maxLength := rfl
  rw [built, build_eq_ok_iff]

/-- For a catalog with new values it does not matter whether its base is taken as it is or as it was
made: the patterns of the base ignore case already. -/
theorem isMadeOf_withNew_iff {base catalog : Catalog} {parts : Parts} {overrides : Overrides}
    (made : base.IsMadeOf parts) :
    catalog.IsMadeOf (base.parts.withNew overrides) ↔
      catalog.IsMadeOf (parts.withNew overrides) := by
  have patterns : (base.parts.withNew overrides).blacklist.map (·.ignoringCase) =
      (parts.withNew overrides).blacklist.map (·.ignoringCase) := by
    simp only [Parts.withNew, Catalog.parts]
    cases overrides.blacklist with
    | some given => rfl
    | none =>
        simp only [Option.getD_none]
        rw [made.patterns, List.map_map]
        rfl
  have confirmation : (base.parts.withNew overrides).confirmation =
      (parts.withNew overrides).confirmation := by
    simp only [Parts.withNew, Catalog.parts, made.confirmation]
  have maxLength : (base.parts.withNew overrides).maxLength =
      (parts.withNew overrides).maxLength := by
    simp only [Parts.withNew, Catalog.parts, made.maxLength]
  constructor
  · intro isMade
    exact ⟨isMade.patterns.trans patterns, isMade.ignoresCase,
      isMade.confirmation.trans confirmation, isMade.maxLength.trans maxLength, isMade.positive⟩
  · intro isMade
    exact ⟨isMade.patterns.trans patterns.symm, isMade.ignoresCase,
      isMade.confirmation.trans confirmation.symm, isMade.maxLength.trans maxLength.symm,
      isMade.positive⟩

/-- A catalog is created exactly when no unknown part is named and it holds the given parts, and
otherwise the default ones. -/
theorem create_eq_ok_iff {catalog : Catalog} {given : Overrides} :
    create given = .ok catalog ↔
      given.unknown = [] ∧ catalog.IsMadeOf (Parts.standard.withNew given) := by
  unfold create
  cases given.unknown with
  | nil => simp only [replaced_eq_ok_iff, isMadeOf_withNew_iff standard_isMadeOf, true_and]
  | cons name names => simp only [reduceCtorEq, false_and]

/-- A merge makes a catalog exactly when no unknown part is named and it holds the new values, and
otherwise the values of the base. -/
theorem merge_eq_ok_iff {base catalog : Catalog} {overrides : Overrides} :
    base.merge overrides = .ok catalog ↔
      overrides.unknown = [] ∧ catalog.IsMadeOf (base.parts.withNew overrides) := by
  unfold merge
  cases overrides.unknown with
  | nil => simp only [replaced_eq_ok_iff, true_and]
  | cons name names => simp only [reduceCtorEq, false_and]

end Catalog

/-- The overrides of a screener merge its catalog. -/
theorem Screener.withOverrides_catalog (screener : Screener) (overrides : Overrides) :
    (screener.withOverrides overrides).map (·.catalog) = screener.catalog.merge overrides := by
  unfold withOverrides
  cases screener.catalog.merge overrides <;> rfl

end ScriptGate
