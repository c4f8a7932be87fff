import WorkflowRules.Action.List
import WorkflowRules.Action.Shape
import WorkflowRules.Condition.Form
import WorkflowRules.Condition.Shape
import WorkflowRules.Limits
import WorkflowRules.Rule.Payload

/-! Loading from JSON text that a user typed or a server sent. The text is read, checked
for shape and only then decoded; a failure anywhere yields nothing. -/
namespace WorkflowRules

/-- The parts of a rule that are checked for shape. -/
inductive RulePart where
  | condition
  | actions
deriving DecidableEq

def RulePart.field : RulePart → String
  | .condition => "condition_json"
  | .actions => "actions_json"

inductive LoadError where
  | notJson (fault : Json.Located Json.Fault)
  | shape (error : ShapeError)
  | partShape (part : RulePart) (error : ShapeError)
  | mismatch (cause : Json.Mismatch)

def LoadError.message : LoadError → String
  | .notJson fault => "Malformed input: invalid JSON: " ++ fault.faultMessage
  | .shape error => "Malformed input: " ++ error.message
  | .partShape part error => "Malformed input: " ++ part.field ++ ": " ++ error.message
  | .mismatch cause => "Malformed input: " ++ cause.message

def loadJson (text : String) : Except LoadError Json.Value :=
  (Json.parse text).mapError .notJson

/-- Checks, reads and normalizes. -/
def Condition.loadFrom (limits : Limits) (json : Json) : Except ShapeError Condition := do
  Condition.checkShape limits.acceptedDepth json
  return (← Condition.ofJson json).normalize

def Condition.load (limits : Limits) (text : String) : Except LoadError Condition := do
  (Condition.loadFrom limits (← loadJson text).json).mapError .shape

def Action.loadListFrom (json : Json) : Except LoadError (List Action) := do
  (Action.checkListShape json).mapError .shape
  (Action.decoder.listOf.ofJson json).mapError .mismatch

def Action.loadList (text : String) : Except LoadError (List Action) := do
  Action.loadListFrom (← loadJson text).json

def ActionList.load (text : String) : Except LoadError ActionList :=
  (Action.loadList text).map .ofActions

/-- The shape checks of the parts that an object names. -/
def RulePayload.checkParts (limits : Limits) : Json → Except LoadError Unit
  | .object fields => do
    match fields.lookup RulePart.condition.field with
    | some json =>
      (Condition.checkShape limits.acceptedDepth json).mapError (.partShape .condition)
    | none => .ok ()
    match fields.lookup RulePart.actions.field with
    | some json => (Action.checkListShape json).mapError (.partShape .actions)
    | none => .ok ()
  | _ => .ok ()

def RulePayload.loadFrom (limits : Limits) (json : Json) : Except LoadError RulePayload := do
  RulePayload.checkParts limits json
  let payload ← (RulePayload.decoder.ofJson json).mapError .mismatch
  return { payload with condition := payload.condition.normalize }

def RulePayload.load (limits : Limits) (text : String) : Except LoadError RulePayload := do
  RulePayload.loadFrom limits (← loadJson text).json

end WorkflowRules
