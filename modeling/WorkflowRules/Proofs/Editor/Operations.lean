import Mathlib.Tactic.ByContra
import WorkflowRules.Editor

/-!
Operations on an editor, and runs of them. Reading the text is all that can fail, and it fails
before it has changed anything. Each of value, text and view has operations of its own that change
it, and the limits have none.
-/
namespace WorkflowRules.Editor

inductive Operation (α : Type) where
  | setValue (value : α)
  /-- Any change that is made to the value in place. -/
  | edit (change : α → α)
  | setText (text : String)
  | refreshText
  | readText
  | openText
  | returnToBuilder

variable {α : Type}

namespace Operation

def editsValue : Operation α → Bool
  | .setValue _ | .edit _ => true
  | _ => false

def writesText : Operation α → Bool
  | .setText _ | .refreshText | .openText => true
  | _ => false

/-- The operation overwrites the text by that of the value. -/
def writesValue : Operation α → Bool
  | .refreshText | .openText => true
  | _ => false

def readsText : Operation α → Bool
  | .readText | .returnToBuilder => true
  | _ => false

variable [Editable α]

def perform : Operation α → Edit α Unit
  | .setValue value => modify (·.setValue value)
  | .edit change => modify fun editor => editor.setValue (change editor.value)
  | .setText text => modify (·.setText text)
  | .refreshText => modify Editor.refreshText
  | .readText => Editor.readText
  | .openText => modify Editor.openText
  | .returnToBuilder => Editor.returnToBuilder

def succeeds (op : Operation α) (editor : Editor α) : Bool :=
  match op.perform editor with
  | .ok .. => true
  | .error .. => false

/-- The editor that the operation leaves, whether it succeeds or fails. -/
def after (op : Operation α) (editor : Editor α) : Editor α :=
  match op.perform editor with
  | .ok _ next => next
  | .error _ next => next

end Operation

variable [Editable α]

def run (editor : Editor α) (ops : List (Operation α)) : Editor α :=
  ops.foldl (fun editor op => op.after editor) editor

/-- What the text says. -/
def loaded (editor : Editor α) : Except LoadError α :=
  Editable.load editor.limits editor.text

variable {editor next : Editor α} {op : Operation α} {ops : List (Operation α)} {error : LoadError}
  {value : α}

theorem readText_eq (editor : Editor α) : readText editor =
    match editor.loaded with
    | .ok value => .ok () { editor with value := value }
    | .error error => .error error editor := by
  change (MonadExcept.ofExcept editor.loaded >>= fun value =>
    modify (·.setValue value) : Edit α Unit) editor = _
  cases editor.loaded <;> rfl

theorem readText_of_ok (loads : editor.loaded = .ok value) :
    readText editor = .ok () { editor with value := value } := by
  rw [readText_eq, loads]

theorem readText_of_error (fails : editor.loaded = .error error) :
    readText editor = .error error editor := by
  rw [readText_eq, fails]

theorem returnToBuilder_of_ok (loads : editor.loaded = .ok value) :
    returnToBuilder editor = .ok () { editor with value := value, view := .builder } := by
  simp only [returnToBuilder, bind, EStateM.bind, readText_of_ok loads]
  rfl

theorem returnToBuilder_of_error (fails : editor.loaded = .error error) :
    returnToBuilder editor = .error error editor := by
  simp only [returnToBuilder, bind, EStateM.bind, readText_of_error fails]

namespace Operation

/-- All that can come of an operation. -/
inductive Yields (op : Operation α) (editor : Editor α) :
    EStateM.Result LoadError (Editor α) Unit → Prop where
  | edited (value : α) (edits : op.editsValue) :
    Yields op editor (.ok () { editor with value := value })
  | written (text : String) (writes : op.writesText) :
    Yields op editor (.ok () { editor with text := text })
  | opened (text : String) (opens : op = .openText) :
    Yields op editor (.ok () { editor with text := text, view := .text })
  | refused (error : LoadError) (reads : op.readsText) (fails : editor.loaded = .error error) :
    Yields op editor (.error error editor)
  | read (value : α) (reads : op.readsText) (loads : editor.loaded = .ok value) :
    Yields op editor (.ok () { editor with value := value })
  | returned (value : α) (returns : op = .returnToBuilder) (loads : editor.loaded = .ok value) :
    Yields op editor (.ok () { editor with value := value, view := .builder })

theorem yields (op : Operation α) (editor : Editor α) : op.Yields editor (op.perform editor) := by
  cases op with
  | setValue value => exact .edited value rfl
  | edit change => exact .edited (change editor.value) rfl
  | setText text => exact .written text rfl
  | refreshText => exact .written (textOf editor.value) rfl
  | openText => exact .opened (textOf editor.value) rfl
  | readText =>
    rw [perform]
    cases loads : editor.loaded with
    | error error => exact readText_of_error loads ▸ .refused error rfl loads
    | ok value => exact readText_of_ok loads ▸ .read value rfl loads
  | returnToBuilder =>
    rw [perform]
    cases loads : editor.loaded with
    | error error => exact returnToBuilder_of_error loads ▸ .refused error rfl loads
    | ok value => exact returnToBuilder_of_ok loads ▸ .returned value rfl loads

theorem succeeds_of_writesValue (writes : op.writesValue) (editor : Editor α) :
    op.succeeds editor := by
  cases op with
  | refreshText | openText => rfl
  | _ => cases writes

theorem value_of_writesValue (writes : op.writesValue) (editor : Editor α) :
    (op.after editor).value = editor.value := by
  cases op with
  | refreshText | openText => rfl
  | _ => cases writes

theorem text_of_writesValue (writes : op.writesValue) (editor : Editor α) :
    (op.after editor).text = textOf editor.value := by
  cases op with
  | refreshText | openText => rfl
  | _ => cases writes

/-! ### What may change -/

theorem limits_after (op : Operation α) (editor : Editor α) :
    (op.after editor).limits = editor.limits := by
  have yields := op.yields editor
  rw [after]
  generalize op.perform editor = result at yields
  cases yields <;> rfl

/-- Only reading fails, and then nothing has changed. -/
theorem reads_of_error (failed : op.perform editor = .error error next) :
    op.readsText ∧ next = editor := by
  have yields := op.yields editor
  rw [failed] at yields
  cases yields with
  | refused _ reads => exact ⟨reads, rfl⟩

theorem writes_of_text_ne (changes : (op.after editor).text ≠ editor.text) : op.writesText := by
  have yields := op.yields editor
  rw [after] at changes
  generalize op.perform editor = result at yields changes
  cases yields with
  | written text writes => exact writes
  | opened text opens => exact opens ▸ rfl
  | _ => exact absurd rfl changes

theorem edits_or_reads_of_value_ne (changes : (op.after editor).value ≠ editor.value) :
    op.editsValue ∨ op.readsText ∧ op.succeeds editor := by
  have yields := op.yields editor
  rw [after] at changes
  rw [succeeds]
  generalize op.perform editor = result at yields changes ⊢
  cases yields with
  | edited value edits => exact .inl edits
  | read value reads => exact .inr ⟨reads, rfl⟩
  | returned value returns => exact .inr ⟨returns ▸ rfl, rfl⟩
  | _ => exact absurd rfl changes

theorem opens_or_returns_of_view_ne (changes : (op.after editor).view ≠ editor.view) :
    op = .openText ∨ op = .returnToBuilder ∧ op.succeeds editor := by
  have yields := op.yields editor
  rw [after] at changes
  rw [succeeds]
  generalize op.perform editor = result at yields changes ⊢
  cases yields with
  | opened text opens => exact .inl opens
  | returned value returns => exact .inr ⟨returns, rfl⟩
  | _ => exact absurd rfl changes

theorem view_of_openText (editor : Editor α) : (openText.after editor).view = .text :=
  rfl

theorem view_of_returned (returns : returnToBuilder.succeeds editor) :
    (returnToBuilder.after editor).view = .builder := by
  rw [succeeds, perform] at returns
  rw [after, perform]
  cases loads : editor.loaded with
  | error error => simp [returnToBuilder_of_error loads] at returns
  | ok value => rw [returnToBuilder_of_ok loads]

/-! ### Reading -/

/-- Where the text loads, reading succeeds, and the value becomes what the text says. -/
theorem succeeds_of_loaded (reads : op.readsText) (loads : editor.loaded = .ok value) :
    op.succeeds editor ∧ (op.after editor).value = value := by
  rw [succeeds, after]
  cases op with
  | readText => simp only [perform, readText_of_ok loads, and_self]
  | returnToBuilder => simp only [perform, returnToBuilder_of_ok loads, and_self]
  | _ => cases reads

theorem fails_of_unloaded (reads : op.readsText) (fails : editor.loaded = .error error) :
    op.succeeds editor = false := by
  rw [succeeds]
  cases op with
  | readText => simp only [perform, readText_of_error fails]
  | returnToBuilder => simp only [perform, returnToBuilder_of_error fails]
  | _ => cases reads

end Operation

/-! ### Runs -/

theorem limits_run (editor : Editor α) (ops : List (Operation α)) :
    (run editor ops).limits = editor.limits := by
  induction ops generalizing editor with
  | nil => rfl
  | cons op rest ih => exact (ih (op.after editor)).trans (op.limits_after editor)

theorem text_run (quiet : ∀ op ∈ ops, op.writesText = false) :
    (run editor ops).text = editor.text := by
  induction ops generalizing editor with
  | nil => rfl
  | cons op rest ih =>
    rcases List.forall_mem_cons.1 quiet with ⟨here, later⟩
    have same : (op.after editor).text = editor.text := by
      by_contra changes
      exact absurd (Operation.writes_of_text_ne changes) (by simp [here])
    exact (ih later).trans same

end WorkflowRules.Editor
