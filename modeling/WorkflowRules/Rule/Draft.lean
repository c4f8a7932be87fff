import WorkflowRules.Action.List
import WorkflowRules.Condition.Expression
import WorkflowRules.Condition.Issues
import WorkflowRules.Rule.Payload

/-! Rules under construction: checked as a whole, previewed, and turned into the payload
that is sent once nothing blocks it. -/
namespace WorkflowRules

structure RuleDraft where
  name : String
  description : Option String
  isActive : Bool
  scope : Option String
  triggerEvent : String
  condition : Condition
  actions : ActionList

namespace RuleDraft

/-- An active rule with the initial condition and no actions yet. -/
def new (name triggerEvent : String) : RuleDraft :=
  ⟨name, none, true, none, triggerEvent, .initial, .empty⟩

def ofPayload (payload : RulePayload) : RuleDraft :=
  ⟨payload.name, payload.description, payload.isActive, payload.scope, payload.triggerEvent,
    payload.condition.normalize, .ofActions payload.actions⟩

def fieldIssues (draft : RuleDraft) : List Issue :=
  (if Text.onlyBlank draft.name then [⟨.rule "name", "rule name is required"⟩] else []) ++
  (if Text.onlyBlank draft.triggerEvent then
    [⟨.rule "trigger_event", "trigger event is required"⟩] else []) ++
  (if draft.scope.any Text.onlyBlank then
    [⟨.rule "scope_legal_entity_id",
      "legal entity scope must be omitted rather than left blank"⟩] else [])

def issues (draft : RuleDraft) : List Issue :=
  draft.fieldIssues ++ draft.condition.issues ++ draft.actions.issues

def report (draft : RuleDraft) : Report :=
  ⟨draft.issues⟩

/-- The payload to send; any issue blocks it. -/
def payload (draft : RuleDraft) : Except Report RulePayload := do
  draft.report.unlessBlocked ()
  let actions ← draft.actions.submit
  return {
    name := Text.trim draft.name
    description := draft.description
    isActive := draft.isActive
    scope := draft.scope
    triggerEvent := draft.triggerEvent
    condition := draft.condition.normalize
    actions := actions }

def actionLines (actions : List Action) : List String :=
  if actions.isEmpty then ["  (no actions)"]
  else actions.zipIdx.map fun (action, index) =>
    "  " ++ toString (index + 1) ++ ". " ++ action.text

/-- What the rule would do, in words. -/
def preview (draft : RuleDraft) : String :=
  "\n".intercalate (
    ["When '" ++ draft.triggerEvent ++ "' fires and " ++ draft.condition.expression, "then:"] ++
    actionLines draft.actions.actions ++
    if draft.isActive then [] else ["(rule is inactive)"])

end RuleDraft

end WorkflowRules
