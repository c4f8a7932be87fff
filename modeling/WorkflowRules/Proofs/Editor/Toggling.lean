import WorkflowRules.Proofs.ActionList.RoundTrip
import WorkflowRules.Proofs.Editor.Operations

/-!
Going over to the text of a list of actions and straight back. The text says what the actions are
and nothing of their drafts, so it is the list without its drafts that is submitted afterwards, if
the numbers in it are read back as they are written.
-/
namespace WorkflowRules.Editor

variable {editor next : Editor ActionList}

/-- Over to the text and, with the text as it is, back to the builder. -/
def toggle : Edit ActionList Unit := do
  Operation.openText.perform
  Operation.returnToBuilder.perform

theorem toggle_eq (editor : Editor ActionList) :
    toggle editor = returnToBuilder editor.openText := by
  rw [toggle]
  rfl

theorem loaded_openText (editor : Editor ActionList) :
    editor.openText.loaded = ActionList.load (Action.listToJson editor.value.actions).pretty := by
  rw [loaded]
  rfl

theorem toggle_of_short
    (short : (Action.listToJson editor.value.actions).nesting ≤ Json.Reader.levelLimit) :
    toggle editor =
      .ok () { editor.openText with
        value := .ofActions (editor.value.actions.map .reread)
        view := .builder } := by
  have loads := (loaded_openText editor).trans (ActionList.load_listToJson _ short)
  exact (toggle_eq editor).trans (returnToBuilder_of_ok loads)

theorem toggle_of_long
    (long : Json.Reader.levelLimit < (Action.listToJson editor.value.actions).nesting) :
    ∃ error, toggle editor = .error error editor.openText := by
  rcases Action.loadList_listToJson_of_long long with ⟨place, stops⟩
  have fails : editor.openText.loaded = .error (.notJson ⟨.tooDeep, place⟩) := by
    rw [loaded_openText, ActionList.load, stops]
    rfl
  exact ⟨_, (toggle_eq editor).trans (returnToBuilder_of_error fails)⟩

theorem value_of_toggle (toggles : toggle editor = .ok () next) :
    next.value = .ofActions (editor.value.actions.map .reread) := by
  rcases Nat.lt_or_ge Json.Reader.levelLimit
    (Action.listToJson editor.value.actions).nesting with long | short
  · rcases toggle_of_long long with ⟨_, failed⟩
    cases failed.symm.trans toggles
  · cases (toggle_of_short short).symm.trans toggles
    rfl

theorem submit_ofActions (list : ActionList) :
    (ActionList.ofActions list.actions).submit = list.withoutDrafts.submit := by
  rw [ActionList.submit_withoutDrafts, ActionList.submit_ofActions]

/-- Toggling drops the drafts. What is submitted is the same exactly when they were idle. -/
theorem submit_of_toggle
    (readBack : (Action.listToJson editor.value.actions).NumbersReadBack)
    (toggles : toggle editor = .ok () next) :
    next.value.submit = editor.value.withoutDrafts.submit ∧
      (next.value.submit = editor.value.submit ↔ editor.value.DraftsIdle) := by
  have submits : next.value.submit = editor.value.withoutDrafts.submit := by
    rw [value_of_toggle toggles, Action.map_reread_eq_self_iff.2 readBack, submit_ofActions]
  refine ⟨submits, ?_⟩
  rw [submits, eq_comm]
  exact ActionList.submit_eq_withoutDrafts_iff

/-- An editor with an empty notification, whose payload is being typed. -/
def typingEditor (payload : Json.Object) : Editor ActionList :=
  run (new .empty .standard) [.edit (ActionList.Operation.add .notify).after,
    .edit (ActionList.Operation.setDraft 0 payload.json.pretty).after]

theorem value_typingEditor (payload : Json.Object) : (typingEditor payload).value =
    { entries := [⟨⟨0⟩, .notify "workflow" .empty⟩]
      drafts := Drafts.empty.insert ⟨0⟩ payload.json.pretty
      nextId := 1 } :=
  rfl

theorem toggle_typingEditor (payload : Json.Object) :
    ∃ next, toggle (typingEditor payload) = .ok () next := by
  have actions : (typingEditor payload).value.actions = [.notify "workflow" .empty] := rfl
  have short : (Action.listToJson (typingEditor payload).value.actions).nesting ≤
      Json.Reader.levelLimit := by
    rw [actions]
    decide
  exact ⟨_, toggle_of_short short⟩

/-- Typing the payload that is there anyway makes no difference. -/
theorem toggling_keeps_empty_payload : ∃ next, toggle (typingEditor .empty) = .ok () next ∧
    next.value.submit = (typingEditor .empty).value.submit := by
  have reads : readPayloadText Json.Object.empty.json.pretty = .ok .empty :=
    readPayloadText_pretty (by decide) (by decide)
  rcases toggle_typingEditor .empty with ⟨next, toggles⟩
  refine ⟨next, toggles, (submit_of_toggle (by decide) toggles).2.2 ⟨?_, ?_⟩⟩
  all_goals rw [value_typingEditor]
  · simp_all [ActionList.Readable]
  · simp_all

/-- A payload with a single field. -/
def otherPayload : Json.Object :=
  .ofFields [("a", .bool true)]

/-- Another payload that was typed, and would have been submitted, is lost without notice. -/
theorem toggling_loses_other_payload :
    ∃ next, toggle (typingEditor otherPayload) = .ok () next ∧
      next.value.submit ≠ (typingEditor otherPayload).value.submit := by
  have reads : readPayloadText otherPayload.json.pretty = .ok otherPayload :=
    readPayloadText_pretty (by decide) (by decide)
  rcases toggle_typingEditor otherPayload with ⟨next, toggles⟩
  refine ⟨next, toggles, ?_⟩
  have readBack :
      (Action.listToJson (typingEditor otherPayload).value.actions).NumbersReadBack := by
    decide
  rw [value_of_toggle toggles, Action.map_reread_eq_self_iff.2 readBack, submit_ofActions]
  intro same
  have idle := ActionList.submit_eq_withoutDrafts_iff.1 same.symm
  have none : (typingEditor otherPayload).value.issues = [] :=
    ActionList.issues_of_readable idle.readable
  have empty := idle.same none _ (List.mem_singleton_self _) _ _ _ rfl rfl
  have sizes := congrArg Json.Object.size (Except.ok.inj (reads.symm.trans empty))
  exact absurd sizes (by decide)

end WorkflowRules.Editor
