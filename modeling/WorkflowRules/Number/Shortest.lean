import WorkflowRules.Number.Binary64

/-! The decimal with the fewest digits that rounds to a given number, of two such the
nearer, of two as near the one with an even last digit. -/
namespace WorkflowRules.Binary64

/-- A positive decimal, `digits * 10 ^ exponent`. -/
structure Decimal where
  digits : Nat
  exponent : Int
deriving DecidableEq

/-- The power of ten of the leading digit of a positive magnitude. -/
def leadingPlace (magnitude : Nat) : Int :=
  (Nat.toDigits 10 (numerator magnitude * Nat.pow 10 350 / denominator)).length - 351

/-- The two neighbours of the magnitude on the grid of multiples of `10 ^ exponent`,
the nearer first. -/
def neighbours (magnitude : Nat) (exponent : Int) : List Decimal :=
  let num := if 0 ≤ exponent then numerator magnitude
    else numerator magnitude * Nat.pow 10 (-exponent).toNat
  let den := if 0 ≤ exponent then denominator * Nat.pow 10 exponent.toNat else denominator
  let floor := num / den
  if roundQuotient num den = floor then [⟨floor, exponent⟩, ⟨floor + 1, exponent⟩]
  else [⟨floor + 1, exponent⟩, ⟨floor, exponent⟩]

def roundsTo (magnitude : Nat) (decimal : Decimal) : Bool :=
  nearestDecimal decimal.digits decimal.exponent == magnitude

def exactDecimal (magnitude : Nat) : Decimal :=
  if 1074 ≤ scale magnitude then
    ⟨significand magnitude <<< (scale magnitude - 1074), 0⟩
  else
    ⟨significand magnitude * Nat.pow 5 (1074 - scale magnitude), scale magnitude - 1074⟩

/-- The grids of one to seventeen digits are tried in turn, and the exact value stands
last, so that what is found always rounds to
the magnitude. -/
def shortestDecimal (magnitude : Nat) : Decimal :=
  let place := leadingPlace magnitude
  let found := (List.range 17).findSome? fun (more : Nat) =>
    (neighbours magnitude (place - more)).find? (roundsTo magnitude)
  found.getD (exactDecimal magnitude)

end WorkflowRules.Binary64
