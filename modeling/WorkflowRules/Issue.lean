import WorkflowRules.Condition.Address

/-! Issues that block the submission of a rule, each attached to what it concerns. -/
namespace WorkflowRules

inductive IssueTarget where
  | rule (field : String)
  | condition (path : Path)
  | actionList
  | action (index : Nat) (field : Option String)
deriving DecidableEq

def IssueTarget.text : IssueTarget → String
  | .rule field => field
  | .condition path => "condition" ++ pathText path
  | .actionList => "actions"
  | .action index (some field) => "actions[" ++ toString index ++ "]." ++ field
  | .action index none => "actions[" ++ toString index ++ "]"

structure Issue where
  target : IssueTarget
  message : String
deriving DecidableEq

def Issue.text (issue : Issue) : String :=
  issue.target.text ++ ": " ++ issue.message

/-- All issues, in the order in which they are found; without any the rule is valid. -/
structure Report where
  issues : List Issue
deriving DecidableEq

namespace Report

def isValid (report : Report) : Bool :=
  report.issues.isEmpty

def message (report : Report) : String :=
  toString report.issues.length ++ " validation issue(s) block submission"

def forAction (report : Report) (index : Nat) : List Issue :=
  report.issues.filter fun issue =>
    match issue.target with
    | .action other _ => other = index
    | _ => false

def forCondition (report : Report) (path : Path) : List Issue :=
  report.issues.filter fun issue =>
    match issue.target with
    | .condition other => other = path
    | _ => false

/-- The value, unless there is an issue. -/
def unlessBlocked {α : Type} (report : Report) (value : α) : Except Report α :=
  if report.isValid then .ok value else .error report

theorem unlessBlocked_of_none {α : Type} {report : Report} (none : report.issues = []) (value : α) :
    report.unlessBlocked value = .ok value := by
  simp [unlessBlocked, isValid, none]

theorem unlessBlocked_of_some {α : Type} {report : Report} (some : report.issues ≠ []) (value : α) :
    report.unlessBlocked value = .error report := by
  simp [unlessBlocked, isValid, some]

end Report

end WorkflowRules
