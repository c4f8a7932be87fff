import WorkflowRules.Loading

/-! Two views of one value: the value as a builder edits it, and its JSON as text. They
are kept apart, and only moving between them copies one to the other. -/
namespace WorkflowRules

/-- Values with a JSON form that can be loaded back under limits. -/
class Editable (α : Type) where
  toJson : α → Json
  load : Limits → String → Except LoadError α

instance : Editable Condition := ⟨Condition.toJson, Condition.load⟩

instance : Editable ActionList := ⟨ActionList.toJson, fun _ => ActionList.load⟩

inductive EditorView where
  | builder
  | text
deriving DecidableEq

structure Editor (α : Type) where
  value : α
  text : String
  view : EditorView
  limits : Limits

namespace Editor

def setText {α : Type} (editor : Editor α) (text : String) : Editor α :=
  { editor with text := text }

def setValue {α : Type} (editor : Editor α) (value : α) : Editor α :=
  { editor with value := value }

/-- Reading changes an editor in place: what it has changed before it fails stays changed. -/
abbrev Edit (α : Type) := EStateM LoadError (Editor α)

variable {α : Type} [Editable α]

def textOf (value : α) : String :=
  (Editable.toJson value).pretty

def new (value : α) (limits : Limits) : Editor α :=
  ⟨value, textOf value, .builder, limits⟩

/-- Overwrites the text by that of the value. This cannot fail: a value of these types has a JSON
form, and every JSON form can be printed. -/
def refreshText (editor : Editor α) : Editor α :=
  { editor with text := textOf editor.value }

/-- Replaces the value by what the text says. -/
def readText : Edit α Unit := do
  let editor ← get
  let value ← MonadExcept.ofExcept (Editable.load editor.limits editor.text)
  modify (·.setValue value)

/-- Goes over to the text, which starts as that of the value; printing it cannot fail. -/
def openText (editor : Editor α) : Editor α :=
  { editor.refreshText with view := .text }

/-- Goes back to the builder, unless the text does not load. -/
def returnToBuilder : Edit α Unit := do
  readText
  modify fun editor => { editor with view := .builder }

end Editor

end WorkflowRules
