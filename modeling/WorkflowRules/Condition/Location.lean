import WorkflowRules.Condition.Basic
import WorkflowRules.Shape

/-! Locations within the JSON form of a condition, and the errors found there. -/
namespace WorkflowRules

def Connective.key : Connective → String
  | .all => "all"
  | .any => "any"

namespace Condition

/-- One step into the JSON form: to a member of a group or to what is negated. -/
inductive Turn where
  | member (connective : Connective) (index : Nat)
  | negated
deriving DecidableEq

abbrev Location := List Turn

def Turn.text : Turn → String
  | .member connective index => "." ++ connective.key ++ "[" ++ toString index ++ "]"
  | .negated => ".not"

def locationText (location : Location) : String :=
  location.foldl (fun text turn => text ++ turn.text) "$"

def shapeError (location : Location) (problem : ShapeProblem) : ShapeError :=
  ⟨locationText location, problem⟩

def notAnObject : ShapeProblem :=
  .expected "a condition object"

def notChildren (connective : Connective) : ShapeProblem :=
  .fieldType connective.key "an array of conditions"

/-- An operator goes by `op` or, without one, by `operator`. -/
def operatorField? (fields : Json.Fields) : Option Json :=
  (fields.lookup "op").or (fields.lookup "operator")

/-- The string a leaf must have for a field. -/
def requireString (location : Location) (name : String) :
    Option Json → Except ShapeError String
  | some (.string value) => .ok value
  | some _ => .error (shapeError location (.fieldType name "a string"))
  | none => .error (shapeError location (.missingField name))

end Condition

end WorkflowRules
