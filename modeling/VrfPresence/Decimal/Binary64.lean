/-!
# Binary floating point from decimals

The finite values of 64-bit binary floating point without their sign, as a mantissa times a
power of two, and the rounding of a decimal to the nearest of them. All arithmetic is exact,
on natural numbers; ties go to the even mantissa.
-/

namespace VrfPresence.Decimal

/-- The value `mantissa * 2 ^ exponent`. The mantissa has at most 53 bits, and 53 of them
unless the exponent is least. -/
structure Binary64 where
  mantissa : Nat
  exponent : Int
  deriving DecidableEq, Repr

def leastExponent : Int := -1074

def greatestExponent : Int := 971

/-- The number of values of a full mantissa. -/
def fullMantissa : Nat := Nat.pow 2 52

/-- The quotient rounded to the nearest natural number, a tie to the even one. -/
def roundDiv (numerator denominator : Nat) : Nat :=
  let quotient := numerator / denominator
  let rest := 2 * (numerator % denominator)
  if denominator < rest ∨ (rest = denominator ∧ quotient % 2 = 1) then quotient + 1 else quotient

def scaleDown (numerator denominator : Nat) (exponent : Int) : Nat × Nat :=
  (numerator * Nat.pow 2 (-exponent).toNat, denominator * Nat.pow 2 exponent.toNat)

/-- The exponent that gives a fraction a full mantissa, or the least one. -/
def exponentOf (numerator denominator : Nat) : Int :=
  let guess : Int := (numerator.log2 : Int) - denominator.log2 - 52
  let (n, d) := scaleDown numerator denominator guess
  max (if n / d < fullMantissa then guess - 1 else guess) leastExponent

/-- The nearest value to a fraction; `none` where it lies beyond the greatest value. -/
def Binary64.ofFraction (numerator denominator : Nat) : Option Binary64 :=
  let exponent := exponentOf numerator denominator
  let (n, d) := scaleDown numerator denominator exponent
  let mantissa := roundDiv n d
  let rounded : Binary64 :=
    if mantissa = 2 * fullMantissa then ⟨fullMantissa, exponent + 1⟩ else ⟨mantissa, exponent⟩
  if greatestExponent < rounded.exponent then none else some rounded

def Binary64.zero : Binary64 := ⟨0, leastExponent⟩

/-- The nearest value to `digits * 10 ^ exponent`; `none` where it lies beyond the greatest
value. Decimals far outside the range are settled by their magnitude alone. -/
def Binary64.ofDecimal (digits : Nat) (exponent : Int) : Option Binary64 :=
  let magnitude : Int := exponent + (Nat.toDigits 10 digits).length
  if digits = 0 ∨ magnitude < -400 then some .zero
  else if 400 < magnitude then none
  else Binary64.ofFraction (digits * Nat.pow 10 exponent.toNat) (Nat.pow 10 (-exponent).toNat)

end VrfPresence.Decimal
