import WorkflowRules.Json.Printer
import WorkflowRules.Json.Value
import WorkflowRules.Text.Blank
import WorkflowRules.Text.Case

/-! Actions: the side effects that a rule plans. -/
namespace WorkflowRules

/-- What a created task is attached to. -/
structure EntityRef where
  entityType : String
  entityId : String
deriving DecidableEq

inductive Action where
  | setField (path : String) (value : Json.Value)
  /-- Without an entity the task belongs to the one that triggered the rule. -/
  | createTask (title : String) (dueInDays : Int64) (assignee : String)
    (entity : Option EntityRef)
  | notify (notificationType : String) (payload : Json.Object)

inductive ActionKind where
  | setField
  | createTask
  | notify
deriving DecidableEq

namespace ActionKind

def all : List ActionKind := [.setField, .createTask, .notify]

def tag : ActionKind → String
  | .setField => "SET_FIELD"
  | .createTask => "CREATE_TASK"
  | .notify => "NOTIFY"

def ofTag? (tag : String) : Option ActionKind :=
  all.find? (·.tag == tag)

/-- The action that a builder starts with. -/
def initial : ActionKind → Action
  | .setField => .setField "status" (.string "New")
  | .createTask => .createTask "Follow up" 3 "" none
  | .notify => .notify "workflow" .empty

/-- Blanks around the tag and its case do not matter, and hyphens count as underscores. -/
def parse (text : String) : Except String ActionKind :=
  let upper := Text.upper (Text.trim text)
  match ofTag? (upper.map fun c => if c = '-' then '_' else c) with
  | some kind => .ok kind
  | none =>
    .error ("invalid action kind '" ++ text ++
      "'; supported values are set_field, create_task, notify")

end ActionKind

namespace Action

def kind : Action → ActionKind
  | .setField .. => .setField
  | .createTask .. => .createTask
  | .notify .. => .notify

def text : Action → String
  | .setField path value => "Set " ++ path ++ " to " ++ value.json.compact
  | .createTask title dueInDays assignee entity =>
    "Create task \"" ++ title ++ "\" due in " ++ toString dueInDays.toInt ++
      " day(s) for user " ++ assignee ++
      match entity with
      | some entity => " on " ++ entity.entityType ++ " " ++ entity.entityId
      | none => ""
  | .notify notificationType payload =>
    "Notify '" ++ notificationType ++ "' with " ++ toString payload.size ++
      " payload field(s)"

end Action

end WorkflowRules
