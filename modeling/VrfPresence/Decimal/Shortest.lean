import VrfPresence.Decimal.Binary64

/-!
# Shortest decimals

The decimal with the fewest digits that rounds to a given binary value, and of those with as
many digits the nearest one. The decimals of the grid of tens are tried before those of the
grid of ones, and so on down; on each grid only the two neighbours of the value can be
nearest. The written form is positional, without an exponent and always with a point.
-/

namespace VrfPresence.Decimal

/-- A value and the bounds of what rounds to it, as multiples of `1 / denominator`. -/
structure Rounding where
  value : Nat
  low : Nat
  high : Nat
  /-- The bounds themselves round to the value. -/
  closed : Bool
  denominator : Nat

/-- What rounds to a value: half a unit to either side, a quarter below the least of the full
mantissas. -/
def Binary64.rounding (x : Binary64) : Rounding :=
  let below := if x.mantissa = fullMantissa ∧ leastExponent < x.exponent then 1 else 2
  let unit := Nat.pow 2 (x.exponent - 2).toNat
  { value := 4 * x.mantissa * unit
    low := (4 * x.mantissa - below) * unit
    high := (4 * x.mantissa + 2) * unit
    closed := x.mantissa % 2 = 0
    denominator := Nat.pow 2 (2 - x.exponent).toNat }

/-- The nearest multiple of `10 ^ power` that rounds to the value, if there is one; of two
that are as near the greater. -/
def Rounding.onGrid? (r : Rounding) (power : Int) : Option Nat :=
  let scale := Nat.pow 10 (-power).toNat
  let step := r.denominator * Nat.pow 10 power.toNat
  let rounds (n : Nat) : Bool :=
    if r.closed then r.low * scale ≤ n * step && n * step ≤ r.high * scale
    else r.low * scale < n * step && n * step < r.high * scale
  let floor := r.value * scale / step
  let rest := r.value * scale % step
  if rest = 0 then some floor
  else if rounds (floor + 1) && (step ≤ 2 * rest || !rounds floor) then some (floor + 1)
  else if rounds floor then some floor
  else none

/-- Searches the grids from `power` down; `fuel` bounds their number. -/
def Rounding.search (r : Rounding) : (fuel : Nat) → Int → Nat × Int
  | 0, power => (r.value / r.denominator, power)
  | fuel + 1, power =>
    match r.onGrid? power with
    | some digits => if digits = 0 then r.search fuel (power - 1) else (digits, power)
    | none => r.search fuel (power - 1)

/-- The digits and the power of ten of the shortest decimal; zero has the digit zero. -/
def Binary64.shortest (x : Binary64) : Nat × Int :=
  if x.mantissa = 0 then (0, 0) else x.rounding.search 1400 310

/-- A decimal in positional form, with at least one digit on either side of the point. -/
def positional (digits : Nat) (power : Int) : String :=
  let text := Nat.toDigits 10 digits
  if 0 ≤ power then String.ofList (text ++ List.replicate power.toNat '0') ++ ".0"
  else
    let places := (-power).toNat
    let padded := List.replicate (places + 1 - text.length) '0' ++ text
    let whole := padded.length - places
    String.ofList (padded.take whole ++ '.' :: padded.drop whole)

def Binary64.text (x : Binary64) : String := positional x.shortest.1 x.shortest.2

end VrfPresence.Decimal
