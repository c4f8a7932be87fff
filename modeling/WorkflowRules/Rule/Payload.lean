import WorkflowRules.Action.Form
import WorkflowRules.Condition.Form

/-! Rules as they are sent and received. -/
namespace WorkflowRules

open Json

structure RulePayload where
  name : String
  description : Option String
  isActive : Bool
  scope : Option String
  triggerEvent : String
  condition : Condition
  actions : List Action

namespace RulePayload

def optionalText (name : String) : Option String → Fields
  | some value => [(name, .string value)]
  | none => []

def toJson (payload : RulePayload) : Json :=
  .object ([("name", .string payload.name)] ++
    optionalText "description" payload.description ++
    [("is_active", .bool payload.isActive)] ++
    optionalText "scope_legal_entity_id" payload.scope ++
    [("trigger_event", .string payload.triggerEvent),
      ("condition_json", payload.condition.toJson),
      ("actions_json", Action.listToJson payload.actions)])

def conditionDecoder : Decoder Condition :=
  .ofShape Condition.ofJson

def record : Record where
  title := "struct RulePayload"
  fields := [Decoder.string.field "name",
    Decoder.string.optional.optionalField "description",
    Decoder.bool.optionalField "is_active",
    Decoder.string.optional.optionalField "scope_legal_entity_id",
    Decoder.string.field "trigger_event",
    conditionDecoder.field "condition_json",
    Action.decoder.listOf.field "actions_json"]
  inTagged := false

/-- A rule is active unless it says otherwise. -/
def ofFields (fields : Fields) : Except Mismatch RulePayload := do
  return {
    name := ← Decoder.string.fromField fields "name"
    description := ← Decoder.string.optional.fromFieldOr fields "description" none
    isActive := ← Decoder.bool.fromFieldOr fields "is_active" true
    scope := ← Decoder.string.optional.fromFieldOr fields "scope_legal_entity_id" none
    triggerEvent := ← Decoder.string.fromField fields "trigger_event"
    condition := ← conditionDecoder.fromField fields "condition_json"
    actions := ← Action.decoder.listOf.fromField fields "actions_json" }

def decoder : Decoder RulePayload where
  ofJson json := do ofFields (← record.read json)
  scan := record.scan

end RulePayload

end WorkflowRules
