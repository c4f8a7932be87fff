import WorkflowRules.Number.Binary64

/-! Decimals as they are read. Digits are taken up as long as they fit 64 bits. They are
rounded, and multiplied or divided by a power of ten that is rounded as well, and the
result is rounded again. So what is read need not be the nearest number. -/
namespace WorkflowRules

namespace Binary64

/-- The product of two magnitudes, rounded. -/
def product (magnitude other : Nat) : Nat :=
  nearest (numerator magnitude * numerator other) (denominator * denominator)

/-- The quotient of two magnitudes, rounded. -/
def quotient (magnitude other : Nat) : Nat :=
  nearest (numerator magnitude) (numerator other)

/-- The exponent of the greatest power of ten that is a finite number. -/
def lastPower : Nat := 308

def powerOfTen (exponent : Nat) : Nat :=
  nearest (Nat.pow 10 exponent) 1

/-- Divided again and again by the greatest power, unless nothing is left. -/
def lowered (magnitude : Nat) : Nat → Nat
  | 0 => magnitude
  | rounds + 1 =>
    if magnitude = 0 then 0 else lowered (quotient magnitude (powerOfTen lastPower)) rounds

/-- The magnitude read for `digits * 10 ^ exponent`, which may be no finite one. A power
that is no finite number is reached in several steps down, and none up. -/
def scaled (digits : Nat) : Int → Nat
  | .ofNat exponent =>
    if digits = 0 then 0
    else if exponent ≤ lastPower then product (nearest digits 1) (powerOfTen exponent)
    else overflow
  | .negSucc less =>
    let rounds := less / lastPower
    quotient (lowered (nearest digits 1) rounds) (powerOfTen (less + 1 - rounds * lastPower))

/-- The greatest number of 64 bits. -/
def wordLimit : Nat := 18446744073709551615

/-- Takes digits up as long as the number they make fits 64 bits. -/
def takeUp (number : Nat) : List Char → Nat × List Char
  | [] => (number, [])
  | c :: rest =>
    let next := number * 10 + (c.toNat - 48)
    if next ≤ wordLimit then takeUp next rest else (number, c :: rest)

end Binary64

/-- Digits before a point, digits behind it, and a power of ten. -/
structure Numeral where
  whole : List Char
  fraction : List Char
  exponent : Int
deriving DecidableEq

namespace Numeral

open Binary64

/-- The magnitude that is read. Digits that are not taken up count in the exponent if they
stand before the point. -/
def magnitude (numeral : Numeral) : Nat :=
  let (digits, more) := takeUp 0 numeral.whole
  let (digits, rest) := takeUp digits numeral.fraction
  scaled digits
    (numeral.exponent + more.length - (numeral.fraction.length - rest.length : Nat))

/-- The number that is read; none when it is out of range. -/
def double? (negative : Bool) (numeral : Numeral) : Option Binary64 :=
  if finite : numeral.magnitude < 0x7FF0000000000000 then
    some ⟨negative, numeral.magnitude, finite⟩
  else none

end Numeral

end WorkflowRules
