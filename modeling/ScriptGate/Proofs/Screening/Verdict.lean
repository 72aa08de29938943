import ScriptGate.Proofs.Pattern.Case
import ScriptGate.Proofs.Pattern.Language
import ScriptGate.Proofs.Scan.Call
import ScriptGate.Screening

/-! # What a verdict depends on

What the default catalog reports about a script, it reports about every text that has the script as
a part: the default patterns are floating, and the operations that need a confirmation do not hide
one another (`screen_embed`). Under every catalog the verdict does not depend on the case of ASCII
letters (`screen_eq_of_lowercaseAscii_eq`). -/

namespace ScriptGate

variable {catalog : Catalog} {entry : BlacklistEntry} {part script : List Char}

/-- The pattern that a violation names. -/
def Violation.source? : Violation → Option String
  | .blacklisted source => some source
  | .tooLong _ _ => none

/-- The patterns that a verdict reports, in its order. -/
def Verdict.sources (verdict : Verdict) : List String := verdict.violations.filterMap (·.source?)

/-- A floating pattern that occurs in a part of a script occurs in the script. -/
theorem BlacklistEntry.occursIn_of_part (floating : entry.pattern.isFloating = true)
    (within : part <:+: script) (occurs : entry.occursIn part = true) :
    entry.occursIn script = true := by
  obtain ⟨found, member, inPart⟩ := (Pattern.occursIn_iff floating).mp occurs
  exact (Pattern.occursIn_iff floating).mpr ⟨found, member, inPart.trans within⟩

namespace Catalog

/-! ### The parts of a verdict -/

theorem sources_screen :
    (catalog.screen script).sources =
      (catalog.blacklist.filter (·.occursIn script)).map (·.source) := by
  have noSource : (catalog.lengthViolation script).filterMap (·.source?) = [] := by
    unfold lengthViolation
    split <;> rfl
  rw [Verdict.sources, screen, List.filterMap_append, noSource, List.nil_append,
    patternViolations, List.filterMap_map, ← List.filterMap_eq_map]
  rfl

theorem safe_screen_iff_fits :
    (catalog.screen script).safe = true ↔
      script.length ≤ catalog.maxLength ∧
        ∀ entry ∈ catalog.blacklist, entry.occursIn script = false := by
  rw [Verdict.safe, screen, List.isEmpty_iff, List.append_eq_nil_iff, lengthViolation,
    patternViolations, List.map_eq_nil_iff, List.filter_eq_nil_iff]
  refine and_congr ?_ (forall₂_congr fun _ _ => by rw [Bool.not_eq_true])
  split
  · next long => exact iff_of_false (List.cons_ne_nil _ _) (Nat.not_le.mpr long)
  · next short => exact iff_of_true rfl (Nat.le_of_not_lt short)

/-! ### Larger scripts -/

theorem sources_sublist_of_part
    (floating : ∀ entry ∈ catalog.blacklist, entry.pattern.isFloating = true)
    (within : part <:+: script) :
    (catalog.screen part).sources.Sublist (catalog.screen script).sources := by
  rw [sources_screen, sources_screen]
  have kept : catalog.blacklist.filter (·.occursIn part) =
      (catalog.blacklist.filter (·.occursIn script)).filter (·.occursIn part) := by
    rw [List.filter_filter]
    refine List.filter_congr fun entry member => ?_
    cases occurs : entry.occursIn part with
    | false => rfl
    | true => exact (entry.occursIn_of_part (floating entry member) within occurs).symm
  rw [kept]
  exact List.filter_sublist.map _

theorem safe_of_part
    (floating : ∀ entry ∈ catalog.blacklist, entry.pattern.isFloating = true)
    (within : part <:+: script) (safe : (catalog.screen script).safe = true) :
    (catalog.screen part).safe = true := by
  obtain ⟨fits, unlisted⟩ := safe_screen_iff_fits.mp safe
  refine safe_screen_iff_fits.mpr ⟨within.length_le.trans fits, fun entry member => ?_⟩
  refine Bool.eq_false_iff.mpr fun occurs => Bool.eq_false_iff.mp (unlisted entry member) ?_
  exact entry.occursIn_of_part (floating entry member) within occurs

theorem dangerous_sublist_of_part
    (distinct : (catalog.confirmation.map fun name => Text.lowercase name.toList).Nodup)
    (within : part <:+: script) :
    (catalog.screen part).dangerous.Sublist (catalog.screen script).dangerous := by
  rw [screen, screen, Scan.detectOperations_eq_filter distinct,
    Scan.detectOperations_eq_filter distinct]
  exact List.monotone_filter_right _ fun name => Scan.calls_of_part within

/-- Every default pattern can be read. -/
theorem sources_standard : standard.blacklist.map (·.source) = defaultBlacklist := by
  decide +kernel

theorem isFloating_of_mem_standard :
    ∀ entry ∈ standard.blacklist, entry.pattern.isFloating = true := by
  decide +kernel

theorem nodup_confirmation_standard :
    (standard.confirmation.map fun name => Text.lowercase name.toList).Nodup := by
  decide

/-- **No surrounding text hides what the default catalog reports.** Around a script, every reported
pattern and operation is still reported, in the same order, and an unsafe script stays unsafe. -/
theorem screen_embed (before script after : List Char) :
    (standard.screen script).sources.Sublist
      (standard.screen (before ++ script ++ after)).sources ∧
    (standard.screen script).dangerous.Sublist
      (standard.screen (before ++ script ++ after)).dangerous ∧
    ((standard.screen script).safe = false →
      (standard.screen (before ++ script ++ after)).safe = false) := by
  have within : script <:+: before ++ script ++ after := List.infix_append before script after
  refine ⟨sources_sublist_of_part isFloating_of_mem_standard within,
    dangerous_sublist_of_part nodup_confirmation_standard within, fun rejected => ?_⟩
  refine Bool.eq_false_iff.mpr fun accepted => Bool.eq_false_iff.mp rejected ?_
  exact safe_of_part isFloating_of_mem_standard within accepted

theorem screen_embed_in_comment :
    (standard.screen "gs.eval (x); q.deleteMultiple()".toList).safe = false ∧
    (standard.screen ("/* ".toList ++ "gs.eval (x); q.deleteMultiple()".toList ++
      " */".toList)).safe = false :=
  have rejected : (standard.screen "gs.eval (x); q.deleteMultiple()".toList).safe = false := by
    decide
  ⟨rejected, (screen_embed "/* ".toList _ " */".toList).2.2 rejected⟩

/-! ### Scripts in another case -/

theorem exists_eq_ok_of_isSome {outcome : Except CatalogError Catalog}
    (isSome : outcome.toOption.isSome = true) : ∃ catalog, outcome = .ok catalog := by
  cases outcome with
  | error error => cases isSome
  | ok catalog => exact ⟨catalog, rfl⟩

theorem screen_lowercaseAscii (catalog : Catalog) (script : List Char) :
    catalog.screen (Text.lowercaseAscii script) = catalog.screen script := by
  have sameLength : (Text.lowercaseAscii script).length = script.length := List.length_map _
  have sameOccurrences : (fun entry : BlacklistEntry =>
      entry.occursIn (Text.lowercaseAscii script)) = (·.occursIn script) :=
    funext fun entry => Pattern.occursIn_lowercaseAscii rfl entry.pattern script
  simp only [screen, lengthViolation, patternViolations, sameLength, sameOccurrences,
    Scan.detectOperations_lowercaseAscii]

/-- **A verdict does not depend on the case of ASCII letters**, whatever its catalog was made
from. -/
theorem screen_eq_of_lowercaseAscii_eq (catalog : Catalog) {first second : List Char}
    (same : Text.lowercaseAscii first = Text.lowercaseAscii second) :
    catalog.screen first = catalog.screen second := by
  calc catalog.screen first
      = catalog.screen (Text.lowercaseAscii first) := (catalog.screen_lowercaseAscii first).symm
    _ = catalog.screen (Text.lowercaseAscii second) := by rw [same]
    _ = catalog.screen second := catalog.screen_lowercaseAscii second

theorem screen_eq_of_merged_ranges :
    ∃ catalog,
      (create { Overrides.none with
        blacklist := some [⟨"^[b-k]+\\s|[^J-S]$", ⟨false, true, false⟩⟩] }).bind
          (·.merge { Overrides.none with confirmation := some ["Purge"] }) = .ok catalog ∧
      Text.lowercaseAscii "Kid q.PURGE ()".toList = Text.lowercaseAscii "kID Q.pUrge ()".toList ∧
      catalog.screen "Kid q.PURGE ()".toList = catalog.screen "kID Q.pUrge ()".toList := by
  have same : Text.lowercaseAscii "Kid q.PURGE ()".toList =
      Text.lowercaseAscii "kID Q.pUrge ()".toList := by decide
  refine Exists.imp (fun catalog built => ⟨built, same, ?_⟩) (exists_eq_ok_of_isSome ?_)
  · exact screen_eq_of_lowercaseAscii_eq catalog same
  · decide

end Catalog

end ScriptGate
