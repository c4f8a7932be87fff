import WorkflowRules.Action.Basic
import WorkflowRules.Issue

/-! What an action must satisfy beyond its shape. -/
namespace WorkflowRules.Action

/-- The fields that are amiss, in order, each with what is wrong about it. -/
def problems : Action → List (String × String)
  | .setField path _ =>
    if Text.onlyBlank path then [("path", "field path is required")] else []
  | .createTask title dueInDays assignee _ =>
    (if Text.onlyBlank title then [("title", "task title is required")] else []) ++
    (if dueInDays.toInt < 0 then [("due_in_days", "due date cannot be in the past")] else []) ++
    (if Text.onlyBlank assignee then [("assigned_to_user_id", "an assignee is required")] else [])
  | .notify notificationType _ =>
    if Text.onlyBlank notificationType then
      [("notification_type", "notification type is required")]
    else []

def issues (index : Nat) (action : Action) : List Issue :=
  action.problems.map fun (field, message) => ⟨.action index (some field), message⟩

end WorkflowRules.Action
