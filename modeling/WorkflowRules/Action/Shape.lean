import WorkflowRules.Action.Basic
import WorkflowRules.Shape

/-! The structural check of foreign actions. It reports the first mismatch, and does
not look at the entity of a task. -/
namespace WorkflowRules.Action

def requireField (location : String) (fields : Json.Fields) (name : String)
    (accepts : Json → Bool) (wanted : String) : Except ShapeError Unit :=
  match fields.lookup name with
  | some json =>
    if accepts json then .ok () else .error ⟨location, .fieldType name wanted⟩
  | none => .error ⟨location, .missingField name⟩

def isSignedWord : Json → Bool
  | .number (.integer value _) => value ≤ Int64.maxValue.toInt
  | _ => false

def isObject : Json → Bool
  | .object _ => true
  | _ => false

def checkFields (location : String) (fields : Json.Fields) :
    ActionKind → Except ShapeError Unit
  | .setField => do
    requireField location fields "path" Json.isString "a string"
    requireField location fields "value" (fun _ => true) "present"
  | .createTask => do
    requireField location fields "title" Json.isString "a string"
    requireField location fields "due_in_days" isSignedWord "an integer"
    requireField location fields "assigned_to_user_id" Json.isString "a string"
  | .notify => do
    requireField location fields "notification_type" Json.isString "a string"
    requireField location fields "payload" isObject "a JSON object"

def checkShape (location : String) : Json → Except ShapeError Unit
  | .object fields =>
    match fields.lookup "type" with
    | some (.string tag) =>
      match ActionKind.ofTag? tag with
      | some kind => checkFields location fields kind
      | none => .error ⟨location, .unknownActionType tag⟩
    | some _ => .error ⟨location, .fieldType "type" "a string"⟩
    | none => .error ⟨location, .missingField "type"⟩
  | _ => .error ⟨location, .expected "an action object"⟩

def hasShape (json : Json) : Bool :=
  (checkShape "$" json).isOk

def itemLocation (index : Nat) : String :=
  "$[" ++ toString index ++ "]"

def checkItems (index : Nat) : List Json → Except ShapeError Unit
  | [] => .ok ()
  | item :: rest => do
    checkShape (itemLocation index) item
    checkItems (index + 1) rest

def checkListShape : Json → Except ShapeError Unit
  | .array items => checkItems 0 items
  | _ => .error ⟨"$", .expected "an array of actions"⟩

end WorkflowRules.Action
