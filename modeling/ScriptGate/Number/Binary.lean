/-! # Floating-point numbers as exact quotients

A finite floating-point number is a whole number of units, each a power of two. The unit turns it
into an exact quotient of natural numbers, from which its whole part and its rounded text are
computed. -/

namespace ScriptGate.Number

/-- A finite binary number: a sign, and a mantissa in units of `2 ^ exponent`. -/
structure Binary where
  /-- Whether the sign bit is set. -/
  negative : Bool
  mantissa : Nat
  /-- The power of two of one unit. -/
  exponent : Int
deriving DecidableEq, Repr

/-- The binary number of a float; nothing for an infinity or no number. -/
def Binary.ofFloat? (value : Float) : Option Binary :=
  let bits := value.toBits.toNat
  let negative := decide (Nat.pow 2 63 ≤ bits)
  let biased : Nat := bits / Nat.pow 2 52 % Nat.pow 2 11
  let fraction : Nat := bits % Nat.pow 2 52
  if biased = Nat.pow 2 11 - 1 then none
  else if biased = 0 then some ⟨negative, fraction, -1074⟩
  else some ⟨negative, Nat.pow 2 52 + fraction, Int.ofNat biased - 1075⟩

def Binary.numerator (number : Binary) : Nat := number.mantissa * Nat.pow 2 number.exponent.toNat

def Binary.denominator (number : Binary) : Nat := Nat.pow 2 (-number.exponent).toNat

/-- Whether the number has no fractional part. -/
def Binary.isWhole (number : Binary) : Bool := number.numerator % number.denominator == 0

/-- The whole part, rounded toward zero. -/
def Binary.truncate (number : Binary) : Int :=
  let magnitude : Int := ((number.numerator / number.denominator : Nat) : Int)
  if number.negative then -magnitude else magnitude

/-- The whole number nearest to a quotient; of two equally near ones, the even one. -/
def roundHalfEven (numerator denominator : Nat) : Nat :=
  let whole := numerator / denominator
  let twice := 2 * (numerator % denominator)
  if twice < denominator then whole
  else if denominator < twice then whole + 1
  else if whole % 2 = 0 then whole else whole + 1

/-- The text of a float without decimals. The sign of a negative number is kept when it rounds to
zero. -/
def wholeText (value : Float) : String :=
  match Binary.ofFloat? value with
  | some number =>
    (if number.negative then "-" else "") ++
      toString (roundHalfEven number.numerator number.denominator)
  | none => if value.isNaN then "nan" else if value < 0 then "-inf" else "inf"

end ScriptGate.Number
