import WorkflowRules.CommandLine.Files
import WorkflowRules.CommandLine.Invocation
import WorkflowRules.Editor
import WorkflowRules.Rule.Draft
import WorkflowRules.Rule.DryRun
import WorkflowRules.Settings
import WorkflowRules.Suggestion

/-! Carrying out an invocation over the texts of files. -/
namespace WorkflowRules.CommandLine

/-- What a run leaves: its exit code, its output, and the error it reports. -/
structure Outcome where
  code : Nat
  output : String
  error : Option String
deriving DecidableEq

def Outcome.success (output : String) : Outcome := ⟨0, output, none⟩

def Outcome.failure (output message : String) : Outcome := ⟨1, output, some (message ++ "\n")⟩

/-- The arguments are not in order. -/
def Outcome.misuse : Outcome := ⟨2, "", none⟩

def lines (texts : List String) : String :=
  String.join (texts.map (· ++ "\n"))

def issueLines (report : Report) : List String :=
  report.issues.map fun issue => "  - " ++ issue.text

def readFile (files : Files) (path : String) : Except String String :=
  (files path).mapError fun fault =>
    "Failed to read file '" ++ path ++ "': " ++ fault.message

def loadSettings (files : Files) : Option String → Except String Limits
  | none => .ok .standard
  | some path =>
    match files path with
    | .error fault =>
      .error ("Failed to load config: Could not read config file '" ++ path ++ "': " ++
        fault.message)
    | .ok text =>
      (Settings.read text).mapError fun error => "Failed to load config: " ++ error.message

def loadCondition (files : Files) (limits : Limits) (path : String) :
    Except String Condition := do
  (Condition.load limits (← readFile files path)).mapError fun error =>
    "Failed to load condition: " ++ error.message

def loadActions (files : Files) (path : String) : Except String ActionList := do
  (ActionList.load (← readFile files path)).mapError fun error =>
    "Failed to load actions: " ++ error.message

/-- The verdict on a file, after the lines already printed. -/
def verdict (path : String) (printed : List String) (report : Report) : Outcome :=
  if report.isValid then .success (lines (printed ++ ["OK: " ++ path ++ " is valid"]))
  else .failure (lines (printed ++ issueLines report)) report.message

def depthNote (limits : Limits) (condition : Condition) : List String :=
  if limits.maxDepth.toNat < condition.depth then
    ["Note: condition nests " ++ toString condition.depth ++
      " levels; the builder edits up to " ++ toString limits.maxDepth.toNat ++ "."]
  else []

/-- The outcome of a command; an error is a failure before anything is printed. -/
def perform (files : Files) (limits : Limits) : Command → Except String Outcome
  | .check path .condition => do
    let condition ← loadCondition files limits path
    return verdict path (depthNote limits condition) ⟨condition.issues⟩
  | .check path .actions => do
    return verdict path [] (← loadActions files path).report
  | .format path .condition => do
    return .success (lines [(← loadCondition files limits path).toJson.pretty])
  | .format path .actions => do
    return .success (lines [(← loadActions files path).toJson.pretty])
  | .describe path => do
    return .success (lines [(← loadCondition files limits path).expression])
  | .payload path => do
    let payload ← (RulePayload.load limits (← readFile files path)).mapError fun error =>
      "Failed to parse rule: " ++ error.message
    let draft := RuleDraft.ofPayload payload
    let printed := [draft.preview, ""]
    match draft.payload with
    | .ok payload => return .success (lines (printed ++ [payload.toJson.pretty]))
    | .error report => return .failure (lines (printed ++ issueLines report)) report.message
  | .suggest entity input customKeys => do
    let entity ← Entity.parse entity
    let suggester := (Suggester.new limits).setCustomKeys entity customKeys
    return .success (lines (suggester.suggest entity input))
  | .preview path => do
    let dryRun ← (DryRun.decoder.ofText (← readFile files path)).mapError fun refusal =>
      "Failed to parse dry-run response: " ++ refusal.refusalMessage
    return .success (lines [dryRun.text])

def run (files : Files) (arguments : List String) : Outcome :=
  match invocation? arguments with
  | none => .misuse
  | some invocation =>
    let result := do
      perform files (← loadSettings files invocation.settings) invocation.command
    match result with
    | .ok outcome => outcome
    | .error message => .failure "" message

end WorkflowRules.CommandLine
