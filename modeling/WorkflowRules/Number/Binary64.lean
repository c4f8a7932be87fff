/-! Finite binary64 numbers, and what is nearest to a fraction or a decimal. A magnitude
is the packed exponent and fraction, so magnitudes are ordered as the numbers they
stand for and rounding up may carry into the exponent. -/
namespace WorkflowRules

structure Binary64 where
  negative : Bool
  magnitude : Nat
  finite : magnitude < 0x7FF0000000000000
deriving DecidableEq

namespace Binary64

/-- The least magnitude that is no finite number. -/
def overflow : Nat := 0x7FF0000000000000

/-- How many fractions an exponent has: `2 ^ 52`. -/
def fractions : Nat := 0x10000000000000

/-- The integer that the magnitude counts, in units of `2 ^ scale` least subnormals. -/
def significand (magnitude : Nat) : Nat :=
  if magnitude < fractions then magnitude else fractions + magnitude % fractions

def scale (magnitude : Nat) : Nat :=
  magnitude / fractions - 1

/-- The value is `numerator magnitude / denominator`. -/
def numerator (magnitude : Nat) : Nat :=
  significand magnitude <<< scale magnitude

def denominator : Nat := 1 <<< 1074

/-- The quotient rounded to the nearest integer, halves to the even one. -/
def roundQuotient (num den : Nat) : Nat :=
  let floor := num / den
  let twice := 2 * (num % den)
  if twice < den then floor
  else if den < twice then floor + 1
  else floor + floor % 2

/-- The magnitude nearest to `num / den`, which may be no finite one. -/
def nearest (num den : Nat) : Nat :=
  let units := num * denominator
  let shift := (units / den).log2 - 52
  shift * fractions + roundQuotient units (den <<< shift)

/-- `digits * 10 ^ exponent` as a fraction. -/
def decimalFraction (digits : Nat) (exponent : Int) : Nat × Nat :=
  if 0 ≤ exponent then (digits * Nat.pow 10 exponent.toNat, 1)
  else (digits, Nat.pow 10 (-exponent).toNat)

/-- The magnitude nearest to `digits * 10 ^ exponent`. Beyond `10 ^ 400` all overflow
and below `10 ^ -400` all vanish, whatever the digits. -/
def nearestDecimal (digits : Nat) (exponent : Int) : Nat :=
  if digits = 0 then 0
  else
    let place : Int := (Nat.toDigits 10 digits).length + exponent
    if 400 < place then overflow
    else if place < -400 then 0
    else
      let fraction := decimalFraction digits exponent
      nearest fraction.1 fraction.2

end Binary64

end WorkflowRules
