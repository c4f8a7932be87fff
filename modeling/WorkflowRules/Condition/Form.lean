import WorkflowRules.Condition.Location

/-! The JSON form of conditions: written with the fields in a fixed order, and read
without any limit of depth. -/
namespace WorkflowRules

/-- A null value is left out. -/
def Leaf.toJson (leaf : Leaf) : Json :=
  .object ([("path", .string leaf.path), ("op", .string leaf.operator.name)] ++
    if leaf.value.json.isNull then [] else [("value", leaf.value.json)])

namespace Condition

mutual
def toJson : Condition → Json
  | .group connective children => .object [(connective.key, .array (toJsonAll children))]
  | .not child => .object [("not", toJson child)]
  | .leaf comparison => comparison.toJson
termination_by structural condition => condition
def toJsonAll : List Condition → List Json
  | [] => []
  | child :: rest => toJson child :: toJsonAll rest
termination_by structural children => children
end

def unknownOperator : ShapeProblem :=
  .fieldType "op" "one of eq, neq, in, contains, gt, gte, lt, lte, exists"

def readLeaf (location : Location) (fields : Json.Fields) : Except ShapeError Leaf := do
  let path ← requireString location "path" (fields.lookup "path")
  let name ← requireString location "op" (operatorField? fields)
  match Operator.ofText? name with
  | some operator => .ok ⟨path, operator, ((fields.lookup "value").getD .null).toValue⟩
  | none => .error (shapeError location unknownOperator)

mutual
def readNode (location : Location) : Json → Except ShapeError Condition
  | .object fields =>
    match readGroupField location .all fields with
    | some children => children.map (.group .all)
    | none =>
      match readGroupField location .any fields with
      | some children => children.map (.group .any)
      | none =>
        match readNotField location fields with
        | some child => child.map .not
        | none => (readLeaf location fields).map .leaf
  | _ => .error (shapeError location notAnObject)
termination_by structural json => json

def readGroupField (location : Location) (connective : Connective) :
    List (String × Json) → Option (Except ShapeError (List Condition))
  | [] => none
  | (key, value) :: rest =>
    if key = connective.key then some (readChildren location connective value)
    else readGroupField location connective rest
termination_by structural fields => fields

def readChildren (location : Location) (connective : Connective) :
    Json → Except ShapeError (List Condition)
  | .array items => readItems location connective 0 items
  | _ => .error (shapeError location (notChildren connective))
termination_by structural json => json

def readItems (location : Location) (connective : Connective) (index : Nat) :
    List Json → Except ShapeError (List Condition)
  | [] => .ok []
  | item :: rest =>
    match readNode (location ++ [.member connective index]) item with
    | .ok child => (readItems location connective (index + 1) rest).map (child :: ·)
    | .error error => .error error
termination_by structural items => items

def readNotField (location : Location) :
    List (String × Json) → Option (Except ShapeError Condition)
  | [] => none
  | (key, value) :: rest =>
    if key = "not" then some (readNode (location ++ [.negated]) value)
    else readNotField location rest
termination_by structural fields => fields
end

def ofJson (json : Json) : Except ShapeError Condition :=
  readNode [] json

end Condition

end WorkflowRules
