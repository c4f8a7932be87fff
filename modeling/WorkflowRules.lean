import WorkflowRules.Condition.OperatorForm
import WorkflowRules.Main
import WorkflowRules.Proofs.Action.Agreement
import WorkflowRules.Proofs.ActionList.History
import WorkflowRules.Proofs.ActionList.Report
import WorkflowRules.Proofs.CommandLine.Formatting
import WorkflowRules.Proofs.Condition.FirstMismatch
import WorkflowRules.Proofs.Condition.Issues
import WorkflowRules.Proofs.Condition.Normalizing
import WorkflowRules.Proofs.Condition.Parentheses
import WorkflowRules.Proofs.Condition.Sessions
import WorkflowRules.Proofs.Condition.Traversal
import WorkflowRules.Proofs.Editor.Conditions
import WorkflowRules.Proofs.Editor.Toggling
import WorkflowRules.Proofs.Rule.DryRun
import WorkflowRules.Proofs.Suggestion
import WorkflowRules.Proofs.Number.Reading
import WorkflowRules.Proofs.Json.Reread
