import Mathlib
import ScriptGate.Proofs.Number.Binary
import ScriptGate.Remote.Client

/-! # Seconds in binary

A number of milliseconds up to a minute has a number of seconds, which is positive and at most
sixty. The proof follows the model of floating-point numbers: the milliseconds are exact, the
significand of their quotient by a thousand is normal, and rounding adds one unit at most. -/

namespace ScriptGate.Number

open Float.Model (Format UnpackedFloat totalExponent)
open Float.Model.UnpackedFloat

/-- The significand of a normal number. -/
structure Significand where
  val : Nat
  low : 2 ^ 52 ≤ val
  high : val < 2 ^ 53

namespace Significand

variable {significand : Significand} {exponent : Int}

theorem pos (significand : Significand) : 0 < significand.val :=
  Nat.lt_of_lt_of_le (Nat.two_pow_pos 52) significand.low

theorem log2_val (significand : Significand) : significand.val.log2 = 52 :=
  (Nat.log2_eq_iff (Nat.ne_of_gt significand.pos)).mpr ⟨significand.low, significand.high⟩

/-- The positive number with the significand and an exponent. -/
def scaled (significand : Significand) (exponent : Int) : UnpackedFloat :=
  .finite .positive significand.val exponent significand.pos

/-- The exponent as it is packed. -/
def biased (exponent : Int) : Nat :=
  (exponent + Format.binary64.exponentBias + (52 : Nat)).toNat

theorem toNat_biased (low : -1074 ≤ exponent) (high : exponent ≤ 971) :
    0 < biased exponent ∧ biased exponent < 2047 ∧
      (biased exponent : Int) - (Format.binary64.exponentBias + (52 : Nat)) = exponent := by
  have bias : Format.binary64.exponentBias = 1023 := rfl
  rw [biased, bias]
  omega

theorem pack_scaled (low : -1074 ≤ exponent) (high : exponent ≤ 971) :
    pack Format.binary64 (significand.scaled exponent) =
      packComponents Format.binary64 .positive (BitVec.ofNat 11 (biased exponent))
        (BitVec.ofNat 52 significand.val) := by
  obtain ⟨_, inRange, _⟩ := toNat_biased low high
  have noInfinity : ¬ 2 ^ 11 ≤ biased exponent + 1 := by omega
  have isNormal : significand.val.log2 + 1 = Format.binary64.mantissaBits := by
    rw [significand.log2_val]
    rfl
  rw [scaled, pack]
  exact (if_neg noInfinity).trans (if_pos isNormal)

/-- The leading bit of a significand is not packed. -/
theorem leading_append_ofNat :
    (1#1 ++ BitVec.ofNat 52 significand.val).toNat = significand.val := by
  have low := significand.low
  have high := significand.high
  rw [toNat_leading_append, BitVec.toNat_ofNat]
  omega

/-- A normal number is what it is packed to. -/
theorem unpack_pack (low : -1074 ≤ exponent) (high : exponent ≤ 971) :
    (Float.Model.pack (significand.scaled exponent)).unpack = significand.scaled exponent := by
  change unpack Format.binary64 (pack Format.binary64 (significand.scaled exponent)) = _
  obtain ⟨positive, inRange, same⟩ := toNat_biased low high
  have isBiased : (BitVec.ofNat 11 (biased exponent)).toNat = biased exponent := by
    rw [BitVec.toNat_ofNat, Nat.mod_eq_of_lt (by omega)]
  have notFull : BitVec.ofNat 11 (biased exponent) ≠ -1#11 := by
    intro isFull
    have full := isBiased.symm.trans (congrArg BitVec.toNat isFull)
    change _ = 2047 at full
    omega
  have notZero : BitVec.ofNat 11 (biased exponent) ≠ 0#11 := by
    intro isZero
    have zero := isBiased.symm.trans (congrArg BitVec.toNat isZero)
    change _ = 0 at zero
    omega
  rw [pack_scaled low high]
  simp only [unpack, unpackMantissa_packComponents, unpackExponent_packComponents,
    unpackSign_packComponents, if_neg notFull, if_neg notZero, isBiased, same, leading_append_ofNat]
  rfl

end Significand

/-! ### Rounding -/

section
variable {mantissa places : Nat} {exponent : Int} {accuracy : Accuracy}

/-- A mantissa after it has lost its last places. -/
def shortened (mantissa places : Nat) (accuracy : Accuracy) : ExtendedMantissa :=
  ExtendedMantissa.ofMantissaAndAccuracy mantissa accuracy >>> places

theorem mantissa_shortened :
    (shortened mantissa places accuracy).mantissa = mantissa / 2 ^ places := by
  induction places with
  | zero =>
      rw [Nat.pow_zero, Nat.div_one]
      match accuracy with
      | .exact => rfl
      | .inexact .lt => rfl
      | .inexact .eq => rfl
      | .inexact .gt => rfl
  | succ places ih =>
      change (shortened mantissa places accuracy).mantissa / 2 = _
      rw [ih, Nat.div_div_eq_div_mul, Nat.pow_succ]

/-- Rounding adds one unit at most. -/
theorem roundedMantissa_bounds (extended : ExtendedMantissa) :
    extended.mantissa ≤ extended.roundedMantissa ∧
      extended.roundedMantissa ≤ extended.mantissa + 1 := by
  obtain ⟨mantissa, roundBit, stickyBit⟩ := extended
  cases roundBit <;> cases stickyBit <;>
    simp only [ExtendedMantissa.roundedMantissa, ExtendedMantissa.accuracy,
      Accuracy.roundToNearestEven] <;>
    omega

theorem shiftToTargetExponent_of_log2 (length : mantissa.log2 = 52 + places)
    (low : -1074 ≤ exponent + places) :
    shiftToTargetExponent Format.binary64 mantissa exponent accuracy =
      (shortened mantissa places accuracy, exponent + places) := by
  have target : Format.binary64.targetExponent (totalExponent mantissa exponent) =
      exponent + places := by
    simp only [Format.targetExponent, totalExponent, length, Format.mantissaBits,
      Format.minExponent]
    omega
  have shift : (exponent + places - exponent).toNat = places := by omega
  rw [shiftToTargetExponent, target, shiftToExponent, shift]
  rfl

/-- A mantissa that rounds to a normal significand. -/
theorem roundWithAccuracy_of_normal {significand : Significand}
    (length : mantissa.log2 = 52 + places) (low : -1074 ≤ exponent + places)
    (rounded : (shortened mantissa places accuracy).roundedMantissa = significand.val) :
    roundWithAccuracy Format.binary64 .positive mantissa exponent accuracy =
      significand.scaled (exponent + places) := by
  have normal : significand.val.log2 = 52 + 0 := significand.log2_val
  have unchanged : shiftToTargetExponent Format.binary64 significand.val (exponent + places)
      .exact = (⟨significand.val, false, false⟩, exponent + places) := by
    rw [shiftToTargetExponent_of_log2 normal (by omega), Int.natCast_zero, Int.add_zero]
    rfl
  rw [roundWithAccuracy, shiftToTargetExponent_of_log2 length low]
  simp only [rounded, unchanged]
  exact dif_neg (Nat.ne_of_gt significand.pos)

/-- The least significand. -/
def leastSignificand : Significand := ⟨2 ^ 52, Nat.le_refl _, by decide⟩

/-- A mantissa that rounds to one bit too many loses another place. -/
theorem roundWithAccuracy_of_carry (length : mantissa.log2 = 52 + places)
    (low : -1074 ≤ exponent + places)
    (rounded : (shortened mantissa places accuracy).roundedMantissa = 2 ^ 53) :
    roundWithAccuracy Format.binary64 .positive mantissa exponent accuracy =
      leastSignificand.scaled (exponent + places + 1) := by
  have shortenedAgain : shiftToTargetExponent Format.binary64 (2 ^ 53) (exponent + places)
      .exact = (⟨2 ^ 52, false, false⟩, exponent + places + 1) := by
    rw [shiftToTargetExponent_of_log2 (Nat.log2_two_pow : (2 ^ 53).log2 = 52 + 1) (by omega)]
    rfl
  rw [roundWithAccuracy, shiftToTargetExponent_of_log2 length low]
  simp only [rounded, shortenedAgain]
  exact dif_neg (by decide)

/-- What a mantissa with enough places is rounded to. -/
theorem exists_roundWithAccuracy (accuracy : Accuracy) (length : mantissa.log2 = 52 + places)
    (low : -1074 ≤ exponent + places) :
    ∃ (significand : Significand) (scale : Int),
      roundWithAccuracy Format.binary64 .positive mantissa exponent accuracy =
        significand.scaled scale ∧
      ((scale = exponent + places ∧ significand.val ≤ mantissa / 2 ^ places + 1) ∨
        (scale = exponent + places + 1 ∧ significand.val = 2 ^ 52 ∧
          2 ^ 53 ≤ mantissa / 2 ^ places + 1)) := by
  have notZero : mantissa ≠ 0 := by
    rintro rfl
    rw [Nat.log2_zero] at length
    omega
  obtain ⟨least, most⟩ := (Nat.log2_eq_iff notZero).mp length
  obtain ⟨notLess, notMore⟩ := roundedMantissa_bounds (shortened mantissa places accuracy)
  rw [mantissa_shortened] at notLess notMore
  have low' : 2 ^ 52 ≤ mantissa / 2 ^ places := by
    rw [Nat.le_div_iff_mul_le (Nat.two_pow_pos places), ← Nat.pow_add]
    exact least
  have high' : mantissa / 2 ^ places < 2 ^ 53 := by
    rw [Nat.div_lt_iff_lt_mul (Nat.two_pow_pos places), ← Nat.pow_add]
    rwa [Nat.add_right_comm] at most
  by_cases fits : (shortened mantissa places accuracy).roundedMantissa < 2 ^ 53
  · refine ⟨⟨_, Nat.le_trans low' notLess, fits⟩, exponent + places,
      roundWithAccuracy_of_normal length low rfl, .inl ⟨rfl, notMore⟩⟩
  · have isFull : (shortened mantissa places accuracy).roundedMantissa = 2 ^ 53 := by omega
    refine ⟨leastSignificand, exponent + places + 1,
      roundWithAccuracy_of_carry length low isFull, .inr ⟨rfl, rfl, ?_⟩⟩
    omega

end

/-! ### Milliseconds -/

section
variable {number length : Nat}

theorem log2_le_of_lt (positive : 0 < number) (small : number < 2 ^ (length + 1)) :
    number.log2 ≤ length :=
  Nat.le_of_lt_succ ((Nat.log2_lt (Nat.ne_of_gt positive)).mpr small)

/-- A number with the places that it lacks for a length has that length. -/
theorem two_pow_le_widened (positive : 0 < number) (short : number.log2 ≤ length) :
    2 ^ length ≤ number * 2 ^ (length - number.log2) := by
  calc 2 ^ length = 2 ^ number.log2 * 2 ^ (length - number.log2) := by
        rw [← Nat.pow_add, Nat.add_sub_cancel' short]
    _ ≤ number * 2 ^ (length - number.log2) :=
        Nat.mul_le_mul_right _ (Nat.log2_self_le (Nat.ne_of_gt positive))

theorem widened_lt_two_pow (short : number.log2 ≤ length) :
    number * 2 ^ (length - number.log2) < 2 ^ (length + 1) := by
  calc number * 2 ^ (length - number.log2) <
        2 ^ (number.log2 + 1) * 2 ^ (length - number.log2) :=
        Nat.mul_lt_mul_of_pos_right Nat.lt_log2_self (Nat.two_pow_pos _)
    _ = 2 ^ (length + 1) := by
        rw [← Nat.pow_add]
        congr 1
        omega

end

/-- A whole number with the places that it lacks for a significand. -/
def significandOf (number : Nat) (positive : 0 < number) (small : number < 2 ^ 53) :
    Significand where
  val := number * 2 ^ (52 - number.log2)
  low := two_pow_le_widened positive (log2_le_of_lt positive small)
  high := widened_lt_two_pow (log2_le_of_lt positive small)

/-- A whole number that is not too large is exact. -/
theorem ofNat_eq_scaled {number : Nat} (positive : 0 < number) (small : number < 2 ^ 53) :
    UnpackedFloat.ofNat Format.binary64 number =
      (significandOf number positive small).scaled (number.log2 - 52) := by
  have short : number.log2 ≤ 52 := log2_le_of_lt positive small
  have isPositive : compare (number : Int) 0 = .gt := Int.compare_eq_gt.mpr (by omega)
  have target : Format.binary64.targetExponent (totalExponent number 0) = number.log2 - 52 := by
    simp only [Format.targetExponent, totalExponent, Format.mantissaBits, Format.minExponent]
    omega
  have shift : (0 - ((number.log2 : Int) - 52)).toNat = 52 - number.log2 := by omega
  have scale : 0 - ((52 - number.log2 : Nat) : Int) = number.log2 - 52 := by omega
  rw [UnpackedFloat.ofNat, UnpackedFloat.ofInt, UnpackedFloat.normalize, isPositive]
  simp only [Int.toNat_natCast, UnpackedFloat.round, target, decreaseExponent, shift, scale,
    Nat.shiftLeft_eq]
  have normal : (number * 2 ^ (52 - number.log2)).log2 = 52 + 0 :=
    (significandOf number positive small).log2_val
  have rounded : roundWithAccuracy Format.binary64 .positive (number * 2 ^ (52 - number.log2))
      (number.log2 - 52) .exact =
        (significandOf number positive small).scaled (number.log2 - 52 + (0 : Nat)) :=
    roundWithAccuracy_of_normal normal (by omega) rfl
  rw [rounded, Int.natCast_zero, Int.add_zero]

/-- The significand of a thousand. -/
def thousand : Significand := ⟨1000 * 2 ^ 43, by decide, by decide⟩

/-- The significand of sixty. -/
def sixty : Significand := ⟨60 * 2 ^ 47, by decide, by decide⟩

/-- A quotient by a thousand, before it is rounded. -/
theorem divCore_thousand {number : Nat} (positive : 0 < number) (small : number < 2 ^ 53) :
    let core := divCore Format.binary64 (significandOf number positive small).val
      (number.log2 - 52) thousand.val (-43)
    core.1 = number * 2 ^ (62 - number.log2) / 1000 ∧ core.2.1 = number.log2 - 62 := by
  have short : number.log2 ≤ 52 := log2_le_of_lt positive small
  have target : min ((number.log2 : Int) - 52 - -43) (Format.binary64.targetExponent
      (totalExponent (significandOf number positive small).val (number.log2 - 52) -
        totalExponent thousand.val (-43))) = number.log2 - 62 := by
    simp only [Format.targetExponent, totalExponent, Significand.log2_val, Format.mantissaBits,
      Format.minExponent]
    omega
  have shift : ((number.log2 : Int) - 52 - -43 - (number.log2 - 62)).toNat = 53 := by omega
  have quotient : (significandOf number positive small).val <<< 53 / thousand.val =
      number * 2 ^ (62 - number.log2) / 1000 := by
    have places : 2 ^ (52 - number.log2) * 2 ^ 53 = 2 ^ (62 - number.log2) * 2 ^ 43 := by
      rw [← Nat.pow_add, ← Nat.pow_add]
      congr 1
      omega
    rw [Nat.shiftLeft_eq, significandOf, thousand, Nat.mul_assoc, places, ← Nat.mul_assoc]
    exact Nat.mul_div_mul_right _ _ (Nat.two_pow_pos 43)
  simp only [divCore, target, shift, quotient, and_self]

theorem div_scaled (first second : Significand) (exponent other : Int) :
    let core := divCore Format.binary64 first.val exponent second.val other
    UnpackedFloat.div Format.binary64 (first.scaled exponent) (second.scaled other) =
      roundWithAccuracy Format.binary64 .positive core.1 core.2.1 core.2.2 := rfl

/-- The quotient of a scaled number by a thousand is rounded to sixty at most. -/
theorem exists_round_quotient {scaledUp length : Nat} (accuracy : Accuracy) (short : length ≤ 15)
    (low : 2 ^ 62 ≤ scaledUp) (high : scaledUp < 2 ^ 63)
    (highest : length = 15 → scaledUp ≤ 59999 * 2 ^ 47) :
    ∃ (significand : Significand) (scale : Int),
      roundWithAccuracy Format.binary64 .positive (scaledUp / 1000) (length - 62) accuracy =
        significand.scaled scale ∧ -1074 ≤ scale ∧
      (scale < -47 ∨ (scale = -47 ∧ significand.val ≤ 60 * 2 ^ 47)) := by
  by_cases fits : scaledUp / 1000 < 2 ^ 53
  · have places : (scaledUp / 1000).log2 = 52 + 0 :=
      (Nat.log2_eq_iff (by omega)).mpr ⟨by omega, by omega⟩
    have isNormal : -1074 ≤ (length : Int) - 62 + (0 : Nat) := by omega
    obtain ⟨significand, scale, rounded, bound⟩ := exists_roundWithAccuracy accuracy places isNormal
    rw [Nat.pow_zero, Nat.div_one] at bound
    refine ⟨significand, scale, rounded, ?_, ?_⟩ <;> omega
  · have places : (scaledUp / 1000).log2 = 52 + 1 :=
      (Nat.log2_eq_iff (by omega)).mpr ⟨by omega, by omega⟩
    have isNormal : -1074 ≤ (length : Int) - 62 + (1 : Nat) := by omega
    obtain ⟨significand, scale, rounded, bound⟩ := exists_roundWithAccuracy accuracy places isNormal
    rw [Nat.pow_one] at bound
    refine ⟨significand, scale, rounded, ?_, ?_⟩ <;> omega

/-- A number below sixty thousand over a thousand is sixty at most. -/
theorem exists_div_thousand {number : Nat} (positive : 0 < number) (least : number < 60000)
    (small : number < 2 ^ 53) :
    ∃ (significand : Significand) (scale : Int),
      UnpackedFloat.div Format.binary64
        ((significandOf number positive small).scaled (number.log2 - 52))
        (thousand.scaled (-43)) = significand.scaled scale ∧ -1074 ≤ scale ∧
      (scale < -47 ∨ (scale = -47 ∧ significand.val ≤ 60 * 2 ^ 47)) := by
  have short : number.log2 ≤ 15 := log2_le_of_lt positive (by omega)
  have low : 2 ^ 62 ≤ number * 2 ^ (62 - number.log2) :=
    two_pow_le_widened positive (by omega)
  have high : number * 2 ^ (62 - number.log2) < 2 ^ 63 := widened_lt_two_pow (by omega)
  have highest : number.log2 = 15 → number * 2 ^ (62 - number.log2) ≤ 59999 * 2 ^ 47 := by
    intro same
    rw [same]
    exact Nat.mul_le_mul_right _ (by omega)
  obtain ⟨mantissa, exponent⟩ := divCore_thousand positive small
  rw [div_scaled]
  simp only [mantissa, exponent]
  exact exists_round_quotient _ short low high highest

theorem lt_of_unpack_eq_scaled {number : Float} {significand : Significand} {scale : Int}
    (unpacked : number.toModel.unpack = significand.scaled scale) : 0 < number := by
  have zero : (0 : Float).toModel.unpack = .zero .positive := rfl
  apply decide_eq_true
  change (0 : Float).toModel.unpack.lt number.toModel.unpack = true
  rw [zero, unpacked]
  rfl

theorem le_of_unpack_eq_scaled {number : Float} {significand : Significand} {scale : Int}
    (unpacked : number.toModel.unpack = significand.scaled scale)
    (bound : scale < -47 ∨ (scale = -47 ∧ significand.val ≤ 60 * 2 ^ 47)) : number ≤ 60 := by
  have isSixty : (60 : Float).toModel.unpack = sixty.scaled (-47) := rfl
  apply decide_eq_true
  change number.toModel.unpack.le (60 : Float).toModel.unpack = true
  rw [isSixty, unpacked]
  change ((compare scale (-47)).then (compare significand.val (60 * 2 ^ 47))).isLE = true
  rcases bound with below | ⟨rfl, atMost⟩
  · rw [Int.compare_eq_lt.mpr below]
    rfl
  · rw [Int.compare_eq_eq.mpr rfl]
    exact Nat.isLE_compare.mpr atMost

/-- A number of milliseconds up to a minute, in seconds. -/
theorem bounds_ofScientific {number : Nat} (positive : 0 < number) (most : number ≤ 60000) :
    (Float.ofScientific number true 3).isInf = false ∧ 0 < Float.ofScientific number true 3 ∧
      Float.ofScientific number true 3 ≤ 60 := by
  by_cases isMost : number = 60000
  · subst isMost
    exact ⟨rfl, rfl, rfl⟩
  have small : number < 2 ^ 53 := by omega
  obtain ⟨significand, scale, divided, low, bound⟩ :=
    exists_div_thousand positive (by omega) small
  have isExact : number.toUInt64.toFloat.toModel.unpack =
      (significandOf number positive small).scaled (number.log2 - 52) := by
    have same : number.toUInt64.toNat = number := Nat.mod_eq_of_lt (by omega)
    change (Float.Model.pack
      (UnpackedFloat.ofNat Format.binary64 number.toUInt64.toNat)).unpack = _
    have short : number.log2 ≤ 52 := log2_le_of_lt positive small
    rw [same, ofNat_eq_scaled positive small, Significand.unpack_pack (by omega) (by omega)]
  have unpacked : (Float.ofScientific number true 3).toModel.unpack =
      significand.scaled scale := by
    rw [Float.ofScientific, dif_pos ⟨small, by decide⟩]
    have isThousand : Float.exactlyRepresentablePowersOfTen[3].toModel.unpack =
      thousand.scaled (-43) := rfl
    change (Float.Model.pack (UnpackedFloat.div Format.binary64
      number.toUInt64.toFloat.toModel.unpack
      Float.exactlyRepresentablePowersOfTen[3].toModel.unpack)).unpack = _
    rw [isExact, isThousand, divided, Significand.unpack_pack low (by omega)]
  refine ⟨?_, lt_of_unpack_eq_scaled unpacked, le_of_unpack_eq_scaled unpacked bound⟩
  change UnpackedFloat.isInf (Float.ofScientific number true 3).toModel.unpack = false
  rw [unpacked]
  rfl

end ScriptGate.Number
