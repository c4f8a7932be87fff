/-! Structural mismatches between a JSON value and the shape of a condition or an
action, each at its location. -/
namespace WorkflowRules

inductive ShapeProblem where
  | expected (what : String)
  | missingField (field : String)
  | fieldType (field wanted : String)
  | unknownActionType (name : String)
  | tooDeep (limit : Nat)
deriving DecidableEq

structure ShapeError where
  location : String
  problem : ShapeProblem
deriving DecidableEq

def ShapeProblem.message : ShapeProblem → String
  | .expected what => "expected " ++ what
  | .missingField field => "missing required field '" ++ field ++ "'"
  | .fieldType field wanted => "field '" ++ field ++ "' must be " ++ wanted
  | .unknownActionType name => "unknown action type '" ++ name ++ "'"
  | .tooDeep limit => "nesting exceeds the maximum of " ++ toString limit ++ " group level(s)"

def ShapeError.message (error : ShapeError) : String :=
  error.location ++ ": " ++ error.problem.message

end WorkflowRules
