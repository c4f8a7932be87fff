import WorkflowRules.Text.Hexadecimal

/-! Integers as TOML writes them, in four bases. -/
namespace WorkflowRules.Settings

def digitValue? (base : Nat) (c : Char) : Option Nat :=
  (Text.hexValue? c).filter (· < base)

/-- Digits with single underscores between them. -/
def digitsValue? (base : Nat) : (value : Nat) → (afterDigit : Bool) → List Char → Option Nat
  | value, afterDigit, [] => if afterDigit then some value else none
  | value, afterDigit, c :: rest =>
    if c = '_' then
      if afterDigit then digitsValue? base value false rest else none
    else do digitsValue? base (value * base + (← digitValue? base c)) true rest

/-- Decimal digits without a leading zero. -/
def decimal? : List Char → Option Nat
  | ['0'] => some 0
  | '0' :: _ => none
  | digits => digitsValue? 10 0 false digits

/-- An integer that is not negative and fits a signed word. -/
def natural? (written : List Char) : Option Nat :=
  let value := match written with
    | '0' :: 'x' :: digits => digitsValue? 16 0 false digits
    | '0' :: 'o' :: digits => digitsValue? 8 0 false digits
    | '0' :: 'b' :: digits => digitsValue? 2 0 false digits
    | '+' :: digits => decimal? digits
    | '-' :: digits => (decimal? digits).filter (· = 0)
    | digits => decimal? digits
  value.filter fun (value : Nat) => value ≤ Int64.maxValue.toInt

end WorkflowRules.Settings
