import Mathlib
import ScriptGate.Number.Binary

/-! # The numbers that floats stand for

A finite float stands for a rational number, which its sign, mantissa and exponent give
(`exactValue?`). Taking the bits of a float apart finds that number, and finds none for infinities
and for what is no number (`map_value_ofFloat?`). The whole part of the number is what is left of it
when it is rounded toward zero (`truncate_eq_towardZero`). -/

namespace ScriptGate.Number

open Float.Model (Format UnpackedFloat)
open Float.Model.UnpackedFloat

/-- The value of a binary number. -/
def Binary.value (number : Binary) : ℚ :=
  (if number.negative then -1 else 1) * (number.mantissa * 2 ^ number.exponent)

def isNegative : Sign → Bool
  | .negative => true
  | .positive => false

/-- The number that the parts of a float give. -/
def valueOf? : UnpackedFloat → Option ℚ
  | .zero _ => some 0
  | .finite sign mantissa exponent _ => some (Binary.value ⟨isNegative sign, mantissa, exponent⟩)
  | .infinity _ | .notANumber => none

/-- The number that a float stands for, unless it is an infinity or no number. -/
def exactValue? (value : Float) : Option ℚ := valueOf? value.toModel.unpack

/-- The whole number next to a number on the side of zero. -/
def towardZero (number : ℚ) : ℤ := if 0 ≤ number then ⌊number⌋ else ⌈number⌉

/-! ### Bits -/

section
variable (bits : BitVec 64)

theorem toNat_unpackMantissa :
    (@unpackMantissa .binary64 bits).toNat = bits.toNat % 2 ^ 52 := by
  rw [unpackMantissa, BitVec.toNat_cast, BitVec.extractLsb_toNat]
  rfl

theorem toNat_unpackExponent :
    (@unpackExponent .binary64 bits).toNat = bits.toNat / 2 ^ 52 % 2 ^ 11 := by
  rw [unpackExponent, BitVec.toNat_cast, BitVec.extractLsb_toNat, Nat.shiftRight_eq_div_pow]
  rfl

/-- The first bit is the sign. -/
theorem isNegative_unpackSign :
    isNegative (Sign.ofBitVec (@unpackSign .binary64 bits)) =
      decide (2 ^ 63 ≤ bits.toNat) := by
  have short : bits.toNat < 2 ^ 64 := bits.isLt
  have first : (@unpackSign .binary64 bits).toNat = bits.toNat / 2 ^ 63 % 2 := by
    rw [unpackSign, BitVec.toNat_cast, BitVec.extractLsb_toNat, Nat.shiftRight_eq_div_pow]
    rfl
  by_cases negative : 2 ^ 63 ≤ bits.toNat
  · have notZero : @unpackSign .binary64 bits ≠ 0#1 := by
      intro isZero
      rw [isZero, BitVec.toNat_zero] at first
      omega
    rw [Sign.ofBitVec, if_neg notZero, decide_eq_true negative]
    rfl
  · have isZero : @unpackSign .binary64 bits = 0#1 := by
      apply BitVec.eq_of_toNat_eq
      rw [first, BitVec.toNat_zero]
      omega
    rw [Sign.ofBitVec, if_pos isZero, decide_eq_false negative]
    rfl

/-- The exponent of infinities and of what is no number. -/
theorem unpackExponent_eq_full_iff :
    @unpackExponent .binary64 bits = -1#11 ↔
      bits.toNat / 2 ^ 52 % 2 ^ 11 = 2 ^ 11 - 1 := by
  rw [← BitVec.toNat_inj, toNat_unpackExponent]
  rfl

theorem unpackExponent_eq_zero_iff :
    @unpackExponent .binary64 bits = 0#11 ↔ bits.toNat / 2 ^ 52 % 2 ^ 11 = 0 := by
  rw [← BitVec.toNat_inj, toNat_unpackExponent]
  rfl

theorem unpackMantissa_eq_zero_iff :
    @unpackMantissa .binary64 bits = 0#52 ↔ bits.toNat % 2 ^ 52 = 0 := by
  rw [← BitVec.toNat_inj, toNat_unpackMantissa]
  rfl

end

/-- The leading bit of a normal number, which is not packed, is put back before the others. -/
theorem toNat_leading_append (mantissa : BitVec 52) :
    (1#1 ++ mantissa).toNat = 2 ^ 52 + mantissa.toNat := by
  rw [BitVec.toNat_append, Nat.shiftLeft_eq]
  change 2 ^ 52 ||| mantissa.toNat = _
  rw [Nat.or_comm, Nat.or_two_pow_eq_add_of_lt mantissa.isLt, Nat.add_comm]

/-! ### Floats -/

theorem Binary.value_of_mantissa_zero {number : Binary} (zero : number.mantissa = 0) :
    number.value = 0 := by
  rw [value, zero, Nat.cast_zero, zero_mul, mul_zero]

/-- The bits of a float give the number that it stands for. -/
theorem map_value_ofFloat? (value : Float) :
    (Binary.ofFloat? value).map Binary.value = exactValue? value := by
  have unpacked : value.toModel.unpack = unpack Format.binary64 value.toBits.toBitVec := rfl
  have same : value.toBits.toNat = value.toBits.toBitVec.toNat := rfl
  have bias : Format.binary64.exponentBias = 1023 := rfl
  rw [exactValue?, unpacked, Binary.ofFloat?, same]
  generalize value.toBits.toBitVec = bits
  simp only [Nat.pow_eq]
  -- the packed exponent tells apart what is infinite or no number, what is subnormal, and the rest
  by_cases full : bits.toNat / 2 ^ 52 % 2 ^ 11 = 2 ^ 11 - 1
  · have isFull := (unpackExponent_eq_full_iff bits).mpr full
    simp only [unpack, if_pos isFull, if_pos full, Option.map_none]
    split
    · rfl
    · rfl
  · have notFull := mt (unpackExponent_eq_full_iff bits).mp full
    by_cases zero : bits.toNat / 2 ^ 52 % 2 ^ 11 = 0
    · have isZero := (unpackExponent_eq_zero_iff bits).mpr zero
      simp only [unpack, if_neg notFull, if_pos isZero, if_neg full, if_pos zero, Option.map_some]
      split
      · next empty =>
          have noMantissa := (unpackMantissa_eq_zero_iff bits).mp empty
          rw [Binary.value_of_mantissa_zero noMantissa]
          rfl
      · simp only [valueOf?, isNegative_unpackSign, toNat_unpackMantissa, toNat_unpackExponent,
          zero, bias]
        rfl
    · have notZero := mt (unpackExponent_eq_zero_iff bits).mp zero
      simp only [unpack, if_neg notFull, if_neg notZero, if_neg full, if_neg zero, Option.map_some,
        valueOf?, isNegative_unpackSign, toNat_leading_append, toNat_unpackMantissa,
        toNat_unpackExponent, bias]
      rfl

/-- Only infinities and what is no number stand for no number. -/
theorem Binary.ofFloat?_eq_none_iff {value : Float} :
    ofFloat? value = none ↔ value.isNaN = true ∨ value.isInf = true := by
  change ofFloat? value = none ↔
    value.toModel.unpack.isNaN = true ∨ value.toModel.unpack.isInf = true
  rw [← Option.map_eq_none_iff, map_value_ofFloat?, exactValue?]
  cases value.toModel.unpack with
  | notANumber => exact iff_of_true rfl (.inl rfl)
  | infinity sign => exact iff_of_true rfl (.inr rfl)
  | zero sign => exact iff_of_false nofun nofun
  | finite sign mantissa exponent positive => exact iff_of_false nofun nofun

theorem isNaN_of_isInf {value : Float} (infinite : value.isInf = true) : value.isNaN = false := by
  change value.toModel.unpack.isInf = true at infinite
  change value.toModel.unpack.isNaN = false
  cases unpacked : value.toModel.unpack with
  | notANumber =>
      rw [unpacked] at infinite
      cases infinite
  | infinity sign => rfl
  | zero sign => rfl
  | finite sign mantissa exponent positive => rfl

/-! ### Whole parts -/

theorem Binary.mantissa_mul_eq_div (number : Binary) :
    (number.mantissa * 2 ^ number.exponent : ℚ) = number.numerator / number.denominator := by
  rw [numerator, denominator]
  simp only [Nat.pow_eq]
  rcases Int.eq_nat_or_neg number.exponent with ⟨power, whole | fraction⟩
  · rw [whole, Int.toNat_natCast, Int.toNat_neg_natCast, zpow_natCast, pow_zero, Nat.cast_one,
      div_one, Nat.cast_mul, Nat.cast_pow, Nat.cast_ofNat]
  · rw [fraction, neg_neg, Int.toNat_natCast, Int.toNat_neg_natCast, zpow_neg, zpow_natCast,
      pow_zero, mul_one, Nat.cast_pow, Nat.cast_ofNat, div_eq_mul_inv]

theorem towardZero_neg {number : ℚ} (nonneg : 0 ≤ number) :
    towardZero (-number) = -⌊number⌋ := by
  by_cases zero : number = 0
  · rw [zero, neg_zero, Int.floor_zero]
    rfl
  · have negative : ¬ 0 ≤ -number := by
      intro atLeast
      exact zero (le_antisymm (neg_nonneg.mp atLeast) nonneg)
    rw [towardZero, if_neg negative, Int.ceil_neg]

/-- Cutting off a fraction rounds toward zero. -/
theorem Binary.truncate_eq_towardZero (number : Binary) :
    number.truncate = towardZero number.value := by
  have nonneg : (0 : ℚ) ≤ number.numerator / number.denominator := by positivity
  have whole : ⌊(number.numerator / number.denominator : ℚ)⌋ =
      ((number.numerator / number.denominator : ℕ) : ℤ) :=
    Rat.floor_natCast_div_natCast number.numerator number.denominator
  rw [truncate, value, mantissa_mul_eq_div]
  cases number.negative with
  | false =>
      rw [if_neg Bool.false_ne_true, if_neg Bool.false_ne_true, one_mul, towardZero,
        if_pos nonneg, whole]
  | true => rw [if_pos rfl, if_pos rfl, neg_one_mul, towardZero_neg nonneg, whole]

end ScriptGate.Number
