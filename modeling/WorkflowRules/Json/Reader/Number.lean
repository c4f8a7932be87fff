import WorkflowRules.Json.Reader.Basic
import WorkflowRules.Number.Basic

/-! Reading numbers: digits, fraction and exponent as they are written, and then the
number that the literal stands for. -/
namespace WorkflowRules.Json.Reader

variable {ε : Type} [CoversFaults ε]

def digits (s : List Char) : List Char × List Char :=
  (s.takeWhile Char.isDigit, s.dropWhile Char.isDigit)

def digitsValue (digits : List Char) : Nat :=
  Nat.ofDigitChars 10 digits 0

/-- Written exponents are followed up to this size. -/
def exponentLimit : Nat := 2147483647

/-- What is left after the digit with which an exponent passes the limit. -/
def beyondLimit (exponent : Nat) : List Char → Option (List Char)
  | [] => none
  | c :: rest =>
    if c.isDigit then
      let exponent := exponent * 10 + (c.toNat - 48)
      if exponentLimit < exponent then some rest else beyondLimit exponent rest
    else none

/-- A signed exponent, after its letter. -/
def exponentPart (negative : Bool) (whole fraction : List Char) :
    Reader ε Number.Literal := fun s =>
  let down := s.head? == some '-'
  let s := if down || s.head? == some '+' then s.drop 1 else s
  match s with
  | [] => stopAt .endInValue []
  | c :: _ =>
    if !c.isDigit then stopAt .badNumber s
    else
      let nothing := digitsValue (whole ++ fraction) = 0
      match if down || nothing then none else beyondLimit 0 s with
      | some rest => stopBefore .numberOutOfRange rest
      | none =>
        let (exponentDigits, rest) := digits s
        let exponent : Int := digitsValue exponentDigits
        .ok (.decimal negative ⟨whole, fraction, if down then -exponent else exponent⟩, rest)

/-- Fraction and exponent, after the digits before the point. -/
def fractionPart (negative : Bool) (whole : List Char) : Reader ε Number.Literal
  | '.' :: s =>
    let (fraction, rest) := digits s
    if fraction.isEmpty then
      if rest.isEmpty then stopAt .endInValue [] else stopAt .badNumber rest
    else
      match rest with
      | 'e' :: rest | 'E' :: rest => exponentPart negative whole fraction rest
      | rest => .ok (.decimal negative ⟨whole, fraction, 0⟩, rest)
  | 'e' :: s | 'E' :: s => exponentPart negative whole [] s
  | s => .ok (.integer negative whole, s)

/-- A number less its sign; a leading zero stands alone. -/
def wholePart (negative : Bool) : Reader ε Number.Literal
  | [] => stopAt .endInValue []
  | c :: s =>
    if c = '0' then
      if s.head?.any Char.isDigit then stopAt .badNumber s else fractionPart negative ['0'] s
    else if c.isDigit then
      let (whole, rest) := digits (c :: s)
      fractionPart negative whole rest
    else stopAt .badNumber (c :: s)

def literal : Reader ε Number.Literal
  | '-' :: s => wholePart true s
  | s => wholePart false s

def number : Reader ε Number := fun s => do
  let (literal, rest) ← literal s
  match Number.ofLiteral? literal with
  | some number => .ok (number, rest)
  | none => stopBefore .numberOutOfRange rest

end WorkflowRules.Json.Reader
