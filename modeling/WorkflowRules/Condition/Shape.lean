import WorkflowRules.Condition.Location
import WorkflowRules.Limits

/-! The structural check of foreign conditions. An object is a group if it has `all`,
else if it has `any`, a negation if it has `not`, and a leaf otherwise; nothing below
the allowed levels is looked at. -/
namespace WorkflowRules.Condition

def checkLeaf (location : Location) (fields : Json.Fields) : Except ShapeError Unit := do
  let _ ← requireString location "path" (fields.lookup "path")
  let _ ← requireString location "op" (operatorField? fields)
  return ()

mutual
/-- `left` of the `limit` levels remain for groups and negations. -/
def checkNode (limit left : Nat) (location : Location) : Json → Except ShapeError Unit
  | .object fields =>
    match checkGroupField limit left location .all fields with
    | some result => result
    | none =>
      match checkGroupField limit left location .any fields with
      | some result => result
      | none =>
        match checkNotField limit left location fields with
        | some result => result
        | none => checkLeaf location fields
  | _ => .error (shapeError location notAnObject)
termination_by structural json => json

def checkGroupField (limit left : Nat) (location : Location) (connective : Connective) :
    List (String × Json) → Option (Except ShapeError Unit)
  | [] => none
  | (key, value) :: rest =>
    if key = connective.key then some (checkGroup limit left location connective value)
    else checkGroupField limit left location connective rest
termination_by structural fields => fields

def checkGroup (limit left : Nat) (location : Location) (connective : Connective) :
    Json → Except ShapeError Unit
  | .array items =>
    if left = 0 then .error (shapeError location (.tooDeep limit))
    else checkItems limit (left - 1) location connective 0 items
  | _ => .error (shapeError location (notChildren connective))
termination_by structural json => json

def checkItems (limit left : Nat) (location : Location) (connective : Connective)
    (index : Nat) : List Json → Except ShapeError Unit
  | [] => .ok ()
  | item :: rest =>
    match checkNode limit left (location ++ [.member connective index]) item with
    | .ok _ => checkItems limit left location connective (index + 1) rest
    | .error error => .error error
termination_by structural items => items

def checkNotField (limit left : Nat) (location : Location) :
    List (String × Json) → Option (Except ShapeError Unit)
  | [] => none
  | (key, value) :: rest =>
    if key = "not" then
      some (if left = 0 then .error (shapeError location (.tooDeep limit))
        else checkNode limit (left - 1) (location ++ [.negated]) value)
    else checkNotField limit left location rest
termination_by structural fields => fields
end

/-- Checks that the value has the shape of a condition of at most `limit` levels. -/
def checkShape (limit : Nat) (json : Json) : Except ShapeError Unit :=
  checkNode limit limit [] json

def hasShapeWithin (limit : Nat) (json : Json) : Bool :=
  (checkShape limit json).isOk

def hasShape (json : Json) : Bool :=
  hasShapeWithin Limits.standard.acceptedDepth json

end WorkflowRules.Condition
