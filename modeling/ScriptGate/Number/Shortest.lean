import ScriptGate.Number.Binary

/-! # The shortest decimal text of a float

Of all decimals that round to a float, the text shows one with the fewest digits, and of those the
nearest to the float. It is positional for exponents from -4 up to 15, always has a decimal point
there, and otherwise is scientific with a signed exponent of two digits at least. -/

namespace ScriptGate.Number

/-- A positive decimal number: digits as one natural number, in units of `10 ^ exponent`. -/
structure Decimal where
  digits : Nat
  /-- The power of ten of the last digit. -/
  exponent : Int
deriving DecidableEq, Repr

/-- The least power of ten, counted from `tried`, that brings a quotient to one or more. -/
def powerReachingOne (numerator denominator : Nat) : (fuel tried : Nat) → Nat
  | 0, tried => tried
  | fuel + 1, tried =>
    if denominator ≤ numerator * Nat.pow 10 tried then tried
    else powerReachingOne numerator denominator fuel (tried + 1)

/-- The exponent of the first decimal digit of a positive quotient that is at least `10 ^ -400`. -/
def leadingExponent (numerator denominator : Nat) : Int :=
  if denominator ≤ numerator then
    ((Nat.toDigits 10 (numerator / denominator)).length : Int) - 1
  else -((powerReachingOne numerator denominator 400 1 : Nat) : Int)

/-- The factors that bring decimals in units of `10 ^ exponent` and quarters of the binary unit to
one scale. -/
def commonScale (number : Binary) (exponent : Int) : Nat × Nat :=
  let quarter := number.exponent - 2
  (Nat.pow 10 exponent.toNat * Nat.pow 2 (-quarter).toNat,
    Nat.pow 2 quarter.toNat * Nat.pow 10 (-exponent).toNat)

/-- The gap below the number is half as wide as the gap above it, at a power of two above the least
exponent. -/
def Binary.isBinade (number : Binary) : Bool :=
  number.mantissa == Nat.pow 2 52 && decide (-1074 < number.exponent)

/-- Whether a decimal rounds to the number: it lies between the middles of the gaps, and may be a
middle exactly when the mantissa is even. -/
def Binary.isReadFrom (number : Binary) (decimal : Decimal) : Bool :=
  let (decimalScale, quarterScale) := commonScale number decimal.exponent
  let point := decimal.digits * decimalScale
  let low := (4 * number.mantissa - (if number.isBinade then 1 else 2)) * quarterScale
  let high := (4 * number.mantissa + 2) * quarterScale
  if number.mantissa % 2 = 0 then decide (low ≤ point) && decide (point ≤ high)
  else decide (low < point) && decide (point < high)

/-- The best decimal with the given exponent, when one rounds to the number. -/
def Binary.decimalAt? (number : Binary) (exponent : Int) : Option Decimal :=
  let (decimalScale, quarterScale) := commonScale number exponent
  let point := 4 * number.mantissa * quarterScale
  let below : Decimal := ⟨point / decimalScale, exponent⟩
  let above : Decimal := ⟨point / decimalScale + 1, exponent⟩
  if number.isReadFrom below then
    if number.isReadFrom above then some ⟨roundHalfEven point decimalScale, exponent⟩
    else some below
  else if number.isReadFrom above then some above else none

/-- The shortest decimal that rounds to a positive number: exponents are tried from that of the
first digit downward, and seventeen digits always suffice. -/
def Binary.shortest (number : Binary) : Decimal :=
  let leading := leadingExponent number.numerator number.denominator
  ((List.range 17).findSome? fun (count : Nat) => number.decimalAt? (leading - (count : Int))).getD
    ⟨number.numerator / number.denominator, 0⟩

/-- The digits of a decimal without zeros at the end. -/
def Decimal.significant (decimal : Decimal) : List Char :=
  let digits := Nat.toDigits 10 decimal.digits
  match (digits.reverse.dropWhile (· = '0')).reverse with
  | [] => ['0']
  | kept => kept

/-- The exponent of the first digit. -/
def Decimal.leading (decimal : Decimal) : Int :=
  ((Nat.toDigits 10 decimal.digits).length : Int) - 1 + decimal.exponent

/-- A decimal with a point at its place; one digit at least stands on both sides of it. -/
def Decimal.positional (decimal : Decimal) : List Char :=
  let digits := decimal.significant
  let leading := decimal.leading
  if leading < 0 then '0' :: '.' :: (List.replicate (-leading - 1).toNat '0' ++ digits)
  else
    let wholeLength := leading.toNat + 1
    let whole := digits.take wholeLength ++ List.replicate (wholeLength - digits.length) '0'
    let fraction := digits.drop wholeLength
    whole ++ '.' :: (if fraction.isEmpty then ['0'] else fraction)

/-- A decimal with one digit before its point and the exponent of that digit. -/
def Decimal.scientific (decimal : Decimal) : List Char :=
  let mantissa :=
    match decimal.significant with
    | [] => []
    | [digit] => [digit]
    | digit :: others => digit :: '.' :: others
  let leading := decimal.leading
  let exponent := Nat.toDigits 10 leading.natAbs
  mantissa ++ 'e' :: (if leading < 0 then '-' else '+') ::
    (List.replicate (2 - exponent.length) '0' ++ exponent)

/-- The shortest text that reads back as the float. -/
def floatText (value : Float) : String :=
  match Binary.ofFloat? value with
  | some number =>
    let magnitude :=
      if number.mantissa = 0 then ['0', '.', '0']
      else
        let decimal := number.shortest
        if -4 ≤ decimal.leading ∧ decimal.leading < 16 then decimal.positional
        else decimal.scientific
    String.ofList (if number.negative then '-' :: magnitude else magnitude)
  | none => if value.isNaN then "nan" else if value < 0 then "-inf" else "inf"

end ScriptGate.Number
