import WorkflowRules.CommandLine.Options

/-! What a command line asks for. -/
namespace WorkflowRules.CommandLine

inductive InputKind where
  | condition
  | actions
deriving DecidableEq

inductive Command where
  | check (path : String) (kind : InputKind)
  | format (path : String) (kind : InputKind)
  | describe (path : String)
  | payload (path : String)
  | suggest (entity input : String) (customKeys : List String)
  | preview (path : String)

structure Invocation where
  settings : Option String
  command : Command

def settingsOption : OptionSpec := ⟨"config", some 'c', true, false⟩

/-- Concerns only the log. -/
def verboseOption : OptionSpec := ⟨"verbose", some 'v', false, false⟩

def kindOption : OptionSpec := ⟨"kind", some 'k', true, false⟩

def customKeyOption : OptionSpec := ⟨"custom-field", none, true, true⟩

def commonOptions : List OptionSpec := [settingsOption, verboseOption]

/-- The options of a command beside the common ones. -/
def optionsOf? : String → Option (List OptionSpec)
  | "check" => some [kindOption]
  | "fmt" => some [kindOption]
  | "describe" => some []
  | "payload" => some []
  | "suggest" => some [customKeyOption]
  | "preview" => some []
  | _ => none

/-- A file holds a condition unless it is said to hold actions. -/
def inputKind? (arguments : Arguments) : Option InputKind :=
  match arguments.value? kindOption.long with
  | none => some .condition
  | some "condition" => some .condition
  | some "actions" => some .actions
  | some _ => none

def command? (name : String) (arguments : Arguments) : Option Command :=
  match name, arguments.others with
  | "check", [path] => (inputKind? arguments).map (.check path)
  | "fmt", [path] => (inputKind? arguments).map (.format path)
  | "describe", [path] => some (.describe path)
  | "payload", [path] => some (.payload path)
  | "suggest", [entity] => some (.suggest entity "" (arguments.values customKeyOption.long))
  | "suggest", [entity, input] =>
    some (.suggest entity input (arguments.values customKeyOption.long))
  | "preview", [path] => some (.preview path)
  | _, _ => none

/-- The invocation that the arguments stand for, if they are in order. Common options
may come before or after the name of the command, where the latter count. -/
def invocation? (arguments : List String) : Option Invocation := do
  match ← sortFrom commonOptions true none .empty arguments with
  | (_, []) => none
  | (leading, name :: rest) =>
    let specs := commonOptions ++ (← optionsOf? name)
    let (own, _) ← sortFrom specs false none .empty rest
    if Arguments.repeatsNone commonOptions leading && Arguments.repeatsNone specs own then
      let settings := (own.value? settingsOption.long).or (leading.value? settingsOption.long)
      some ⟨settings, ← command? name own⟩
    else none

def Command.path? : Command → Option String
  | .check path _ => some path
  | .format path _ => some path
  | .describe path => some path
  | .payload path => some path
  | .suggest .. => none
  | .preview path => some path

def Invocation.paths (invocation : Invocation) : List String :=
  invocation.settings.toList ++ invocation.command.path?.toList

end WorkflowRules.CommandLine
