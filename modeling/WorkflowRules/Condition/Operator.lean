import WorkflowRules.Text.Blank

/-! Comparison operators of condition leaves. -/
namespace WorkflowRules

inductive Operator where
  | eq
  | neq
  | isIn
  | contains
  | gt
  | gte
  | lt
  | lte
  | exists
deriving DecidableEq

namespace Operator

def all : List Operator :=
  [.eq, .neq, .isIn, .contains, .gt, .gte, .lt, .lte, .exists]

def name : Operator → String
  | .eq => "eq"
  | .neq => "neq"
  | .isIn => "in"
  | .contains => "contains"
  | .gt => "gt"
  | .gte => "gte"
  | .lt => "lt"
  | .lte => "lte"
  | .exists => "exists"

/-- How it stands between a path and an operand in a readable expression. -/
def symbol : Operator → String
  | .eq => "="
  | .neq => "!="
  | .isIn => "IN"
  | .contains => "CONTAINS"
  | .gt => ">"
  | .gte => ">="
  | .lt => "<"
  | .lte => "<="
  | .exists => "EXISTS"

def needsValue (operator : Operator) : Bool :=
  operator != .exists

def ofName? (name : String) : Option Operator :=
  all.find? (·.name == name)

/-- The operator named by a text, blanks around it aside. -/
def ofText? (text : String) : Option Operator :=
  ofName? (Text.trim text)

def parse (text : String) : Except String Operator :=
  match ofText? text with
  | some operator => .ok operator
  | none => .error ("unknown operator '" ++ text ++ "'")

end Operator

end WorkflowRules
