/-! Hexadecimal digits. -/
namespace WorkflowRules.Text

/-- Letters count in either case. -/
def hexValue? (c : Char) : Option Nat :=
  if c.isDigit then some (c.toNat - 48)
  else if 'a' ≤ c && c ≤ 'f' then some (c.toNat - 87)
  else if 'A' ≤ c && c ≤ 'F' then some (c.toNat - 55)
  else none

/-- Without zeros in front. -/
def hexDigits (n : Nat) : List Char :=
  Nat.toDigits 16 n

end WorkflowRules.Text
