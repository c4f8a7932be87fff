import WorkflowRules.Proofs.Condition.RoundTrip
import WorkflowRules.Proofs.Editor.Operations

/-!
Editors of conditions. Whatever is done to an editor, its text once written keeps saying what the
value was then, and it can be read unless that value was beyond one of two limits. Values that are
edited are not checked, so such values do occur. And so do values with numbers that are not read as
they are written: these come back as other numbers, and nothing tells.
-/
namespace WorkflowRules

/-- The condition can be loaded from the text that is written of it. -/
def Condition.Fits (limits : Limits) (condition : Condition) : Prop :=
  condition.depth ≤ limits.acceptedDepth ∧ condition.toJson.nesting ≤ 127

instance (limits : Limits) (condition : Condition) : Decidable (condition.Fits limits) :=
  inferInstanceAs (Decidable (_ ∧ _))

namespace Editor

variable {editor : Editor Condition} {later : List (Operation Condition)}
  {writing reading : Operation Condition}

-- The text is all that counts, so the value may be edited in the meantime.
theorem loaded_run (editor : Editor Condition) (writes : writing.writesValue)
    (quiet : ∀ op ∈ later, op.writesText = false) :
    (run (writing.after editor) later).loaded =
      Condition.load editor.limits editor.value.toJson.pretty := by
  have text : (run (writing.after editor) later).text = textOf editor.value :=
    (text_run quiet).trans (writing.text_of_writesValue writes editor)
  have limits : (run (writing.after editor) later).limits = editor.limits :=
    (limits_run _ later).trans (writing.limits_after editor)
  rw [loaded, text, limits]
  rfl

theorem succeeds_run_iff (writes : writing.writesValue)
    (quiet : ∀ op ∈ later, op.writesText = false) (reads : reading.readsText) :
    reading.succeeds (run (writing.after editor) later) ↔ editor.value.Fits editor.limits := by
  have loaded := loaded_run editor writes quiet
  cases result : Condition.load editor.limits editor.value.toJson.pretty with
  | ok value =>
    have fits := (Condition.load_toJson_eq_ok_iff.1 result).1
    exact iff_of_true (Operation.succeeds_of_loaded reads (loaded.trans result)).1 fits
  | error error =>
    rw [Operation.fails_of_unloaded reads (loaded.trans result)]
    refine iff_of_false Bool.false_ne_true fun fits => ?_
    cases result.symm.trans (Condition.load_toJson_of_fits fits.1 fits.2)

theorem value_run (writes : writing.writesValue) (quiet : ∀ op ∈ later, op.writesText = false)
    (reads : reading.readsText) (fits : editor.value.Fits editor.limits) :
    (reading.after (run (writing.after editor) later)).value = editor.value.reread.normalize := by
  have loaded := loaded_run editor writes quiet
  rw [Condition.load_toJson_of_fits fits.1 fits.2] at loaded
  exact (Operation.succeeds_of_loaded reads loaded).2

/-- What holds of an editor of conditions. -/
structure Governed (limits : Limits) (editor : Editor Condition) : Prop where
  /-- An operation that fails is one that reads, and it leaves everything as it was. -/
  failure : ∀ (op : Operation Condition) error next,
    op.perform editor = .error error next → op.readsText ∧ next = editor
  text : ∀ op : Operation Condition, (op.after editor).text ≠ editor.text → op.writesText
  value : ∀ op : Operation Condition, (op.after editor).value ≠ editor.value →
    op.editsValue ∨ op.readsText ∧ op.succeeds editor
  view : ∀ op : Operation Condition, (op.after editor).view ≠ editor.view →
    op = .openText ∨ op = .returnToBuilder ∧ op.succeeds editor
  written : ∀ op : Operation Condition, op.writesValue →
    op.succeeds editor ∧ (op.after editor).value = editor.value ∧
      (op.after editor).text = textOf editor.value
  opened : (Operation.openText.after editor).view = .text
  returned : Operation.returnToBuilder.succeeds editor →
    (Operation.returnToBuilder.after editor).view = .builder
  /-- Once the text is written, and until it is written again, it is read exactly when the value
  it was written of fits, -/
  read : ∀ (writing reading : Operation Condition) later, writing.writesValue → reading.readsText →
    (∀ op ∈ later, op.writesText = false) →
      (reading.succeeds (run (writing.after editor) later) ↔ editor.value.Fits limits)
  /-- and then what is read of that value comes back without empty groups, -/
  normal : ∀ (writing reading : Operation Condition) later, writing.writesValue →
    reading.readsText → (∀ op ∈ later, op.writesText = false) → editor.value.Fits limits →
      (reading.after (run (writing.after editor) later)).value = editor.value.reread.normalize
  /-- which is the value itself without empty groups exactly when its numbers are read back. -/
  same : ∀ (writing reading : Operation Condition) later, writing.writesValue →
    reading.readsText → (∀ op ∈ later, op.writesText = false) → editor.value.Fits limits →
      ((reading.after (run (writing.after editor) later)).value = editor.value.normalize ↔
        editor.value.toJson.NumbersReadBack)

/-- Whatever is done to an editor from the start, it is kept in the view of an untouched text only
by the limits, and where it is not, the value comes back as it was but for its empty groups and for
those numbers that are not read back. -/
theorem governed_of_run (start : Condition) (limits : Limits) (ops : List (Operation Condition)) :
    Governed limits (run (new start limits) ops) := by
  have under : (run (new start limits) ops).limits = limits := limits_run _ ops
  generalize run (new start limits) ops = editor at under
  subst under
  constructor
  case failure => exact fun _ _ _ failed => Operation.reads_of_error failed
  case text => exact fun _ changes => Operation.writes_of_text_ne changes
  case value => exact fun _ changes => Operation.edits_or_reads_of_value_ne changes
  case view => exact fun _ changes => Operation.opens_or_returns_of_view_ne changes
  case written =>
    intro op writes
    exact ⟨op.succeeds_of_writesValue writes editor, op.value_of_writesValue writes editor,
      op.text_of_writesValue writes editor⟩
  case opened => exact Operation.view_of_openText editor
  case returned => exact Operation.view_of_returned
  case read => exact fun _ _ _ writes reads quiet => succeeds_run_iff writes quiet reads
  case normal => exact fun _ _ _ writes reads quiet fits => value_run writes quiet reads fits
  case same =>
    intro writing reading later writes reads quiet fits
    rw [value_run writes quiet reads fits]
    exact Condition.normalize_reread_eq_iff

theorem deepNegation_is_held :
    ¬Operation.returnToBuilder.succeeds
      (run (new Condition.initial .standard) [.setValue Condition.deepNegation, .openText]) ∧
    (Operation.returnToBuilder.after
      (run (new Condition.initial .standard)
        [.setValue Condition.sparse, .openText, .edit .not])).value =
          Condition.sparse.normalize ∧
    (Operation.returnToBuilder.after
      (run (new Condition.initial .standard) [.setValue Condition.sparse, .openText])).view =
        .builder := by
  have deep := governed_of_run .initial .standard [.setValue Condition.deepNegation]
  have shallow := governed_of_run .initial .standard [.setValue Condition.sparse]
  have held := deep.read .openText .returnToBuilder [] rfl rfl (by simp)
  have free := shallow.read .openText .returnToBuilder [] rfl rfl (by simp)
  have opened := governed_of_run .initial .standard [.setValue Condition.sparse, .openText]
  refine ⟨fun succeeds => absurd (held.1 succeeds) (by decide), ?_, ?_⟩
  · have quiet : ∀ op ∈ [Operation.edit Condition.not], op.writesText = false := by
      simp [Operation.writesText]
    exact (shallow.same .openText .returnToBuilder [.edit .not] rfl rfl quiet (by decide)).2
      (by decide)
  · exact opened.returned (free.2 (by decide))

/-- A comparison with the amount 51.248178375505404, which is read as 51.24817837550541. -/
def Condition.priced : Condition :=
  .leaf ⟨"amount", .gt, ⟨.number (.double ⟨false, 0x40499FC44F1B2F60, by decide⟩), rfl⟩⟩

/-- Going over to the text and straight back changes the amount. -/
theorem amount_is_changed : Condition.priced.Fits .standard ∧
    (Operation.returnToBuilder.after
      (run (new Condition.initial .standard) [.setValue Condition.priced, .openText])).value ≠
        Condition.priced.normalize := by
  have fits : Condition.priced.Fits .standard := by decide
  refine ⟨fits, fun same => ?_⟩
  have comes : (Operation.returnToBuilder.after
      (run (Operation.openText.after
        (run (new Condition.initial .standard) [.setValue Condition.priced])) [])).value =
          Condition.priced.reread.normalize := value_run rfl (by simp) rfl fits
  have readBack := Condition.normalize_reread_eq_iff.1 (comes.symm.trans same)
  exact absurd readBack (by decide +kernel)

end Editor

end WorkflowRules
