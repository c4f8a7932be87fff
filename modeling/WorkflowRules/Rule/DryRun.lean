import WorkflowRules.Action.Form
import WorkflowRules.Action.Shape

/-! Answers to a dry run: what a rule would do. -/
namespace WorkflowRules

open Json

/-- The values of a field before and after. -/
structure Mutation where
  before : Value
  after : Value

namespace Mutation

def toJson (mutation : Mutation) : Json :=
  .object [("before", mutation.before.json), ("after", mutation.after.json)]

def record : Record where
  title := "struct PlannedMutation"
  fields := [Decoder.any.optionalField "before", Decoder.any.optionalField "after"]
  inTagged := false

def decoder : Decoder Mutation where
  ofJson json := do
    let fields ← record.read json
    return ⟨← Decoder.any.fromFieldOr fields "before" .null,
      ← Decoder.any.fromFieldOr fields "after" .null⟩
  scan := record.scan

end Mutation

/-- Planned actions may be of kinds unknown here. Mutations go by the path of the field
and are in the order of the paths. -/
structure DryRun where
  matched : Bool
  plannedActions : List Object
  plannedMutations : List (String × Mutation)

namespace DryRun

def toJson (dryRun : DryRun) : Json :=
  .object [("matched", .bool dryRun.matched),
    ("planned_actions", .array (dryRun.plannedActions.map Object.json)),
    ("planned_mutations", .object (dryRun.plannedMutations.map fun (path, mutation) =>
      (path, mutation.toJson)))]

def record : Record where
  title := "struct DryRunResponse"
  fields := [Decoder.bool.field "matched",
    Decoder.object.listOf.optionalField "planned_actions",
    Mutation.decoder.fieldsOf.optionalField "planned_mutations"]
  inTagged := false

def decoder : Decoder DryRun where
  ofJson json := do
    let fields ← record.read json
    return ⟨← Decoder.bool.fromField fields "matched",
      ← Decoder.object.listOf.fromFieldOr fields "planned_actions" [],
      ← Mutation.decoder.fieldsOf.fromFieldOr fields "planned_mutations" []⟩
  scan := record.scan

/-- The text of an action of a known kind, else compact JSON. -/
def plannedActionText (planned : Object) : String :=
  let json := planned.json
  if Action.hasShape json then
    match Action.ofJson json with
    | .ok action => action.text
    | .error _ => json.compact
  else json.compact

def lines (dryRun : DryRun) : List String :=
  ["Matched: " ++ (if dryRun.matched then "yes" else "no"),
    "Planned actions (" ++ toString dryRun.plannedActions.length ++ "):"] ++
  (dryRun.plannedActions.zipIdx.map fun (planned, index) =>
    "  " ++ toString (index + 1) ++ ". " ++ plannedActionText planned) ++
  ["Planned mutations (" ++ toString dryRun.plannedMutations.length ++ "):"] ++
  (dryRun.plannedMutations.map fun (path, mutation) =>
    "  " ++ path ++ ": " ++ mutation.before.json.compact ++ " -> " ++ mutation.after.json.compact)

def text (dryRun : DryRun) : String :=
  "\n".intercalate dryRun.lines

end DryRun

end WorkflowRules
