import WorkflowRules.Number.Reading
import WorkflowRules.Number.Shortest

/-! Numbers of JSON texts: integers that fit 64 bits, signed or not, and binary64
numbers for everything else. -/
namespace WorkflowRules

/-- The integers that are kept as integers. -/
abbrev FitsWord (i : Int) : Prop :=
  -9223372036854775808 ≤ i ∧ i ≤ 18446744073709551615

inductive Number where
  | integer (value : Int) (fits : FitsWord value)
  | double (value : Binary64)
deriving DecidableEq

namespace Number

/-- A number as written, with a sign; an integer has nothing but digits. -/
inductive Literal where
  | integer (negative : Bool) (digits : List Char)
  | decimal (negative : Bool) (numeral : Numeral)
deriving DecidableEq

/-- Minus zero is no integer. None when the literal is out of range. -/
def ofLiteral? : Literal → Option Number
  | .integer negative digits =>
    let size := Nat.ofDigitChars 10 digits 0
    let value : Int := if negative then -size else size
    if negative && size = 0 then some (.double ⟨true, 0, by decide⟩)
    else if fits : FitsWord value then some (.integer value fits)
    else (Numeral.double? negative ⟨digits, [], 0⟩).map .double
  | .decimal negative numeral => (numeral.double? negative).map .double

/-- The leading digits' places that are written without an exponent. -/
def plainPlaces (place : Int) : Bool :=
  -5 ≤ place && place ≤ 15

/-- Decimal digits with the point set after the digit of place zero. -/
def plainNumeral (digits : List Char) (place : Int) : Numeral :=
  if place < 0 then ⟨['0'], List.replicate (-place - 1).toNat '0' ++ digits, 0⟩
  else
    let size := place.toNat + 1
    let fraction := digits.drop size
    ⟨digits.take size ++ List.replicate (size - digits.length) '0',
      if fraction.isEmpty then ['0'] else fraction, 0⟩

/-- The shortest digits, without zeros at the end, and the place of the first. -/
def doubleDigits (magnitude : Nat) : List Char × Int :=
  if magnitude = 0 then (['0'], 0)
  else
    let decimal := Binary64.shortestDecimal magnitude
    let digits := Nat.toDigits 10 decimal.digits
    ((digits.reverse.dropWhile (· == '0')).reverse, digits.length - 1 + decimal.exponent)

/-- How a magnitude is written. -/
def numeralOf (magnitude : Nat) : Numeral :=
  let (digits, place) := doubleDigits magnitude
  if plainPlaces place then plainNumeral digits place
  else ⟨digits.take 1, digits.drop 1, place⟩

def doubleLiteral (value : Binary64) : Literal :=
  .decimal value.negative (numeralOf value.magnitude)

def integerLiteral (value : Int) : Literal :=
  .integer (value < 0) (Nat.toDigits 10 value.natAbs)

def literal : Number → Literal
  | .integer value _ => integerLiteral value
  | .double value => doubleLiteral value

def signChars (negative : Bool) : List Char :=
  if negative then ['-'] else []

/-- Neither a fraction without digits nor an exponent of zero is written. -/
def numeralChars (numeral : Numeral) : List Char :=
  numeral.whole ++ (if numeral.fraction.isEmpty then [] else '.' :: numeral.fraction) ++
    if numeral.exponent = 0 then []
    else 'e' :: (if numeral.exponent < 0 then '-' else '+') ::
      Nat.toDigits 10 numeral.exponent.natAbs

def Literal.chars : Literal → List Char
  | .integer negative digits => signChars negative ++ digits
  | .decimal negative numeral => signChars negative ++ numeralChars numeral

def chars (number : Number) : List Char :=
  number.literal.chars

end Number

end WorkflowRules
