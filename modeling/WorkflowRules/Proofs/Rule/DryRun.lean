import WorkflowRules.Proofs.Action.Agreement
import WorkflowRules.Proofs.Action.RoundTrip
import WorkflowRules.Proofs.Rule.Preview
import WorkflowRules.Rule.DryRun

/-!
What the answer to a dry run tells of the actions that it plans. The check of the shape in front of
the reader refuses nothing that the reader takes, so a planned action is told as an action whenever
it can be read as one. What is written of an action can be, so the answer numbers its actions as the
preview of a rule does.
-/
namespace WorkflowRules

/-- The JSON object of an action. -/
def Action.toObject (action : Action) : Json.Object :=
  .ofFields (("type", .string action.kind.tag) :: action.bodyFields)

theorem Action.json_toObject (action : Action) : action.toObject.json = action.toJson.canonical :=
  rfl

/-! ### Numbered lines -/

def Action.numberedLines (actions : List Action) : List String :=
  actions.zipIdx.map RuleDraft.actionLine

/-- What a preview has instead of numbered lines. -/
def RuleDraft.idleLines (draft : RuleDraft) : List String :=
  if draft.actions.actions.isEmpty then ["  (no actions)"] else []

theorem RuleDraft.preview_eq (draft : RuleDraft) :
    draft.preview = "\n".intercalate ([draft.openingLine, "then:"] ++ draft.idleLines ++
      Action.numberedLines draft.actions.actions ++ draft.closingLines) := by
  rw [preview_eq_intercalate, idleLines]
  by_cases idle : draft.actions.actions = []
  · rw [idle]
    rfl
  · rw [actionLines_of_some idle, if_neg (by simpa using idle)]
    rfl

/-! ### Answers -/

namespace DryRun

variable {planned : Json.Object} {action : Action}

/-- What can be read as an action has the shape of one, since it is an object. -/
theorem hasShape_of_reads (reads : Action.ofJson planned.json = .ok action) :
    Action.hasShape planned.json = true := by
  have acceptable : Action.Acceptable "$" planned.json :=
    (Action.acceptable_iff planned.ordered).2 ⟨⟨planned.fields, rfl⟩, action, reads⟩
  exact Action.hasShape_iff.2 (Action.checkShape_eq_ok_iff.1 acceptable.1)

theorem plannedActionText_of_reads (reads : Action.ofJson planned.json = .ok action) :
    plannedActionText planned = action.text := by
  simp only [plannedActionText, hasShape_of_reads reads, reads, if_true]

-- Here the check may pass, as it does for a task whose entity cannot be read.
theorem plannedActionText_of_fails {mismatch : Json.Mismatch}
    (fails : Action.ofJson planned.json = .error mismatch) :
    plannedActionText planned = planned.json.compact := by
  simp only [plannedActionText, fails, ite_self]

/-- The text of a planned action, without a look at its shape. -/
theorem plannedActionText_eq (planned : Json.Object) :
    plannedActionText planned = match Action.ofJson planned.json with
      | .ok action => action.text
      | .error _ => planned.json.compact := by
  cases read : Action.ofJson planned.json with
  | ok action => exact plannedActionText_of_reads read
  | error mismatch => exact plannedActionText_of_fails read

theorem plannedActionText_toObject (action : Action) :
    plannedActionText action.toObject = action.text := by
  have reads : Action.ofJson action.toObject.json = .ok action := by
    rw [action.json_toObject]
    exact action.ofJson_toJson
  exact plannedActionText_of_reads reads

def openingLines (dryRun : DryRun) : List String :=
  ["Matched: " ++ (if dryRun.matched then "yes" else "no"),
    "Planned actions (" ++ toString dryRun.plannedActions.length ++ "):"]

def plannedLines (dryRun : DryRun) : List String :=
  dryRun.plannedActions.zipIdx.map fun place =>
    "  " ++ toString (place.2 + 1) ++ ". " ++ plannedActionText place.1

def mutationLines (dryRun : DryRun) : List String :=
  ("Planned mutations (" ++ toString dryRun.plannedMutations.length ++ "):") ::
    dryRun.plannedMutations.map fun (path, mutation) =>
      "  " ++ path ++ ": " ++ mutation.before.json.compact ++ " -> " ++ mutation.after.json.compact

theorem lines_eq (dryRun : DryRun) :
    dryRun.lines = dryRun.openingLines ++ dryRun.plannedLines ++ dryRun.mutationLines := by
  rw [lines, List.append_assoc _ [_]]
  rfl

/-- An answer that plans these actions. -/
def planning (dryRun : DryRun) (actions : List Action) : DryRun :=
  { dryRun with plannedActions := actions.map Action.toObject }

theorem plannedLines_planning (dryRun : DryRun) (actions : List Action) :
    (dryRun.planning actions).plannedLines = Action.numberedLines actions := by
  rw [plannedLines, planning, List.zipIdx_map, List.map_map]
  refine List.map_congr_left fun place _ => ?_
  simp only [Function.comp, Prod.map, id, plannedActionText_toObject, RuleDraft.actionLine]

theorem text_planning (dryRun : DryRun) (actions : List Action) :
    (dryRun.planning actions).text = "\n".intercalate ((dryRun.planning actions).openingLines ++
      Action.numberedLines actions ++ dryRun.mutationLines) := by
  rw [text, lines_eq, plannedLines_planning]
  rfl

/-- Planned actions are told as actions are wherever they can be read, so that an answer and a
preview of the same actions have the same numbered lines. -/
theorem planned_actions_are_told :
    (∀ action : Action, plannedActionText action.toObject = action.text) ∧
    (∀ (dryRun : DryRun) (draft : RuleDraft),
      (dryRun.planning draft.actions.actions).text = "\n".intercalate
          ((dryRun.planning draft.actions.actions).openingLines ++
            Action.numberedLines draft.actions.actions ++ dryRun.mutationLines) ∧
        draft.preview = "\n".intercalate
          ([draft.openingLine, "then:"] ++ draft.idleLines ++
            Action.numberedLines draft.actions.actions ++ draft.closingLines)) ∧
    ∀ planned : Json.Object, plannedActionText planned =
      match Action.ofJson planned.json with
      | .ok action => action.text
      | .error _ => planned.json.compact :=
  ⟨plannedActionText_toObject, fun dryRun draft => ⟨dryRun.text_planning _, draft.preview_eq⟩,
    plannedActionText_eq⟩

/-- A task that has the shape of an action, but not an entity that can be read. -/
def strayTask : Json.Object :=
  .ofFields [("type", .string "CREATE_TASK"), ("title", .string "call"),
    ("due_in_days", signedWordJson 1), ("assigned_to_user_id", .string "u"),
    ("entity_ref", .string "account")]

example : Action.hasShape strayTask.json = true ∧
    plannedActionText strayTask = strayTask.json.compact := by decide +kernel

end DryRun

end WorkflowRules
