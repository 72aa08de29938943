import ScriptGate.Proofs.Text.Case

/-! # Lower case and ASCII

The lower-case form of a text of ASCII characters is that of its ASCII letters. Besides these texts
it is ASCII for those with Kelvin signs only, whose lower-case counterpart is `k`. White space
stands in a lower-case form only when it stands in the text. -/

namespace ScriptGate.Text

/-- A text of ASCII characters. -/
def IsAscii (text : List Char) : Prop := ∀ char ∈ text, char.toNat < 0x80

instance (text : List Char) : Decidable (IsAscii text) := List.decidableBAll _ text

/-- The one character beyond ASCII whose lower-case form is ASCII. -/
def kelvinSign : Char := Char.ofNat 0x212A

/-- Every run has its lower-case counterparts on one side of the surrogates. -/
theorem isValidChar_of_wideCaseRuns :
    ∀ run ∈ wideCaseRuns, run.lower + (run.last - run.first) < 0xD800 ∨
      0xDFFF < run.lower ∧ run.lower + (run.last - run.first) < 0x110000 := by
  decide +kernel

theorem toNat_ofNat_lowerCode (char : Char) :
    (Char.ofNat (lowerCode char.toNat)).toNat = lowerCode char.toNat := by
  have valid : (lowerCode char.toNat).isValidChar := by
    rw [lowerCode]
    split
    · split <;> exact .inl (by omega)
    · split
      · next run found =>
          have inRun := List.find?_some found
          simp only [CaseRun.has, Bool.and_eq_true, decide_eq_true_eq] at inRun
          rcases isValidChar_of_wideCaseRuns run (List.mem_of_find?_eq_some found) with low | high
          · exact .inl (by omega)
          · exact .inr (by omega)
      · exact char.valid
  rw [Char.ofNat, dif_pos valid]
  rfl

/-- A single ASCII character is the lower-case counterpart of ASCII characters, of the dotted
capital and of the Kelvin sign. -/
theorem narrow_of_lowerCode {code : Nat} (narrow : lowerCode code < 0x80) :
    code < 0x80 ∨ code = 0x130 ∨ code = 0x212A := by
  have wide : ∀ run ∈ wideCaseRuns, run.lower < 0x80 →
      run.first = run.last ∧ (run.first = 0x130 ∨ run.first = 0x212A) := by
    decide +kernel
  rw [lowerCode] at narrow
  split at narrow
  · next isNarrow => exact .inl isNarrow
  · split at narrow
    · next run found =>
        have inRun := List.find?_some found
        simp only [CaseRun.has, Bool.and_eq_true, decide_eq_true_eq] at inRun
        have := wide run (List.mem_of_find?_eq_some found) (by omega)
        omega
    · exact .inl narrow

theorem ofNat_lowerCode_of_narrow {char : Char} (narrow : char.toNat < 0x80) :
    Char.ofNat (lowerCode char.toNat) = char.toLower := by
  have ascii : ∀ code < 0x80, Char.ofNat (lowerCode code) = (Char.ofNat code).toLower := by decide
  have lowered := ascii char.toNat narrow
  rwa [Char.ofNat_toNat] at lowered

/-- The induction follows the characters of the text; what stands before them only decides the form
of a sigma, which is not ASCII in either form. -/
theorem narrow_of_lowercaseAfter {before text : List Char}
    (ascii : IsAscii (lowercaseAfter before text)) :
    ∀ char ∈ text, char.toNat < 0x80 ∨ char = kelvinSign := by
  induction text generalizing before with
  | nil => exact List.forall_mem_nil _
  | cons char text ih =>
      obtain ⟨lowered, rest⟩ := List.forall_mem_append.mp ascii
      refine List.forall_mem_cons.mpr ⟨?_, ih rest⟩
      split at lowered
      · exact absurd (lowered (Char.ofNat 0x307) (by decide)) (by decide)
      · next noDot =>
          split at lowered
          · have sigma := List.forall_mem_singleton.mp lowered
            split at sigma
            · exact absurd sigma (by decide)
            · exact absurd sigma (by decide)
          · have narrow := List.forall_mem_singleton.mp lowered
            rw [toNat_ofNat_lowerCode] at narrow
            rcases narrow_of_lowerCode narrow with isNarrow | dotted | kelvin
            · exact .inl isNarrow
            · exact absurd dotted noDot
            · exact .inr (Char.toNat_inj.mp kelvin)

theorem isAscii_of_lowercase {text : List Char} (ascii : IsAscii (lowercase text))
    (noKelvin : kelvinSign ∉ text) : IsAscii text := by
  intro char inText
  rcases narrow_of_lowercaseAfter ascii char inText with narrow | rfl
  · exact narrow
  · exact absurd inText noKelvin

theorem lowercaseAfter_of_isAscii {before text : List Char} (ascii : IsAscii text) :
    lowercaseAfter before text = lowercaseAscii text := by
  induction text generalizing before with
  | nil => rfl
  | cons char text ih =>
      obtain ⟨narrow, rest⟩ := List.forall_mem_cons.mp ascii
      rw [lowercaseAfter, if_neg (by omega), if_neg (by omega), ofNat_lowerCode_of_narrow narrow,
        ih rest]
      rfl

theorem lowercase_of_isAscii {text : List Char} (ascii : IsAscii text) :
    lowercase text = lowercaseAscii text :=
  lowercaseAfter_of_isAscii ascii

theorem mem_of_mem_lowercaseAfter {before text : List Char} {mark : Char}
    (blank : isBlank mark = true) (member : mark ∈ lowercaseAfter before text) : mark ∈ text := by
  induction text generalizing before with
  | nil => exact absurd member List.not_mem_nil
  | cons char text ih =>
      rcases List.mem_append.mp member with lowered | rest
      · split at lowered
        · have visible : ['i', Char.ofNat 0x307].all (!isBlank ·) = true := by decide
          have notBlank := List.all_eq_true.mp visible mark lowered
          rw [blank] at notBlank
          cases notBlank
        · split at lowered
          · have sigma := List.mem_singleton.mp lowered
            split at sigma <;> cases sigma <;> exact absurd blank (by decide)
          · have same := congrArg Char.toNat (List.mem_singleton.mp lowered)
            rw [toNat_ofNat_lowerCode, eq_comm, lowerCode_eq_iff_of_blank blank] at same
            exact Char.toNat_inj.mp same ▸ List.mem_cons_self
      · exact List.mem_cons_of_mem char (ih rest)

/-- White space stands in the lower-case form of a text only when it stands in the text. -/
theorem mem_of_mem_lowercase {text : List Char} {mark : Char} (blank : isBlank mark = true)
    (member : mark ∈ lowercase text) : mark ∈ text :=
  mem_of_mem_lowercaseAfter blank member

end ScriptGate.Text
