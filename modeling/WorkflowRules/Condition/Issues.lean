import WorkflowRules.Issue
import WorkflowRules.Text.Blank

/-! What a condition must satisfy beyond its shape: no empty group, and every leaf a
path and an operand that fits its operator. -/
namespace WorkflowRules

def Leaf.problem? (leaf : Leaf) : Option String :=
  if Text.onlyBlank leaf.path then some "field path is required"
  else if leaf.operator.needsValue && leaf.value.json.isNull then
    some ("operator '" ++ leaf.operator.name ++ "' requires a value")
  else if leaf.operator = .isIn && !leaf.value.json.listsStrings then
    some "operator 'in' requires a list of strings"
  else none

namespace Condition

mutual
/-- The issues of the node at `path` and of the nodes below it. -/
def issuesAt (path : Path) : Condition → List Issue
  | .group _ children =>
    (if children.isEmpty then
      [⟨.condition path, "group must contain at least one condition"⟩]
    else []) ++ issuesAmong path 0 children
  | .not child => issuesAt (path ++ [0]) child
  | .leaf comparison =>
    match comparison.problem? with
    | some message => [⟨.condition path, message⟩]
    | none => []
termination_by structural condition => condition
def issuesAmong (path : Path) (index : Nat) : List Condition → List Issue
  | [] => []
  | child :: rest => issuesAt (path ++ [index]) child ++ issuesAmong path (index + 1) rest
termination_by structural children => children
end

def issues (condition : Condition) : List Issue :=
  issuesAt [] condition

end Condition

end WorkflowRules
