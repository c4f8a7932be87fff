import WorkflowRules.Proofs.Action.Shape
import WorkflowRules.Proofs.ActionList.Submission
import WorkflowRules.Proofs.Condition.Validity
import WorkflowRules.Rule.Draft

/-!
Submitting a rule under construction. It is submitted exactly when it has no issues, and then
what is sent is sound: nothing is lost on the way, and nothing is sent that would be refused.
-/
namespace WorkflowRules.RuleDraft

/-- What is sent of a rule, compared with the rule under construction. -/
structure Sound (draft : RuleDraft) (payload : RulePayload) : Prop where
  condition : payload.condition = draft.condition
  filled : payload.condition.Filled
  complete : ∀ leaf, payload.condition.Contains (.leaf leaf) → leaf.Complete
  acting : payload.actions ≠ []
  size : payload.actions.length = draft.actions.size
  faultless : ∀ action ∈ payload.actions, ∀ index, action.issues index = []
  shaped : Action.checkListShape (Action.listToJson payload.actions).toValue.json = .ok ()
  name : payload.name = Text.trim draft.name
  named : Text.onlyBlank payload.name = false
  description : payload.description = draft.description
  isActive : payload.isActive = draft.isActive
  scope : payload.scope = draft.scope
  triggerEvent : payload.triggerEvent = draft.triggerEvent

variable {draft : RuleDraft}

theorem issues_eq_nil_iff : draft.issues = [] ↔
    draft.fieldIssues = [] ∧ draft.condition.Valid ∧ draft.actions.issues = [] := by
  rw [issues, List.append_eq_nil_iff, List.append_eq_nil_iff, Condition.issues,
    Condition.issuesAt_eq_nil_iff, and_assoc]

theorem named_of_no_issues (none : draft.fieldIssues = []) : Text.onlyBlank draft.name = false := by
  by_contra blank
  simp [fieldIssues, blank] at none

theorem payload_of_issues (some : draft.issues ≠ []) : draft.payload = .error draft.report := by
  have blocked : draft.report.unlessBlocked () = .error draft.report :=
    Report.unlessBlocked_of_some some ()
  rw [payload, blocked]
  rfl

theorem payload_of_no_issues (none : draft.issues = []) {actions : List Action}
    (submits : draft.actions.submit = .ok actions) :
    draft.payload = .ok ⟨Text.trim draft.name, draft.description, draft.isActive, draft.scope,
      draft.triggerEvent, draft.condition.normalize, actions⟩ := by
  have free : draft.report.unlessBlocked () = .ok () := Report.unlessBlocked_of_none none ()
  rw [payload, free, submits]
  rfl

-- The list of actions is validated a second time on submission, where the first report has found
-- nothing. Normalizing comes last and finds no group to fill, since that would be an issue.
theorem sound_of_no_issues (none : draft.issues = []) :
    ∃ actions payload, draft.actions.submit = .ok actions ∧ draft.payload = .ok payload ∧
      draft.Sound payload := by
  obtain ⟨fields, valid, ofActions⟩ := issues_eq_nil_iff.1 none
  obtain ⟨actions, submits, size, faultless⟩ := ActionList.submit_of_no_issues ofActions
  obtain ⟨acting, _⟩ := ActionList.issues_eq_nil_iff.1 ofActions
  have same : draft.condition.normalize = draft.condition :=
    Condition.normalize_of_filled valid.filled
  refine ⟨actions, _, submits, payload_of_no_issues none submits, ?_⟩
  constructor
  case condition => exact same
  case filled => exact Condition.filled_normalize draft.condition
  case complete =>
    intro leaf inside
    exact valid.complete leaf (same ▸ inside)
  case acting =>
    rintro rfl
    exact acting (List.eq_nil_of_length_eq_zero size.symm)
  case size => exact size
  case faultless => exact fun action mem index => Action.issues_eq_nil_iff.2 (faultless action mem)
  case shaped => exact Action.checkListShape_listToJson actions
  case named => exact (Text.onlyBlank_trim draft.name).trans (named_of_no_issues fields)
  all_goals rfl

/-- A rule is submitted exactly when it has no issues, its issues are all that keeps it from
being submitted, and what is sent of it is sound. -/
theorem payload_exact (draft : RuleDraft) :
    ((∃ payload, draft.payload = .ok payload) ↔ draft.issues = []) ∧
      (∀ report, draft.payload = .error report → report = draft.report) ∧
      (draft.issues = [] → ∃ actions, draft.actions.submit = .ok actions) ∧
      ∀ payload, draft.payload = .ok payload → draft.Sound payload := by
  by_cases none : draft.issues = []
  · obtain ⟨actions, payload, submits, sent, sound⟩ := sound_of_no_issues none
    refine ⟨⟨fun _ => none, fun _ => ⟨payload, sent⟩⟩, ?_, fun _ => ⟨actions, submits⟩, ?_⟩
    · intro report failed
      cases sent.symm.trans failed
    · intro other alsoSent
      cases sent.symm.trans alsoSent
      exact sound
  · have failed := payload_of_issues none
    refine ⟨⟨?_, fun free => absurd free none⟩, ?_, fun free => absurd free none, ?_⟩
    · rintro ⟨payload, sent⟩
      cases failed.symm.trans sent
    · intro report failedWith
      cases failed.symm.trans failedWith
      rfl
    · intro payload sent
      cases failed.symm.trans sent

/-- A rule with blanks around its name and a notification whose payload is still a draft. -/
def sampleDraft : RuleDraft where
  name := " escalate "
  description := none
  isActive := true
  scope := none
  triggerEvent := "updated"
  condition := .group .any [.not (.leaf ⟨"owner", .exists, .null⟩), .freshLeaf]
  actions := {
    entries := [⟨⟨0⟩, .notify "mail" .empty⟩, ⟨⟨2⟩, .setField "status" .null⟩]
    drafts := Drafts.empty.insert ⟨0⟩ "\x7b\"to\":[1]\x7d"
    nextId := 3 }

theorem sampleDraft_sent : sampleDraft.issues = [] ∧
    ∃ payload, sampleDraft.payload = .ok payload ∧ sampleDraft.Sound payload := by
  have none : sampleDraft.issues = [] := by decide +kernel
  obtain ⟨exactly, _, _, sound⟩ := payload_exact sampleDraft
  obtain ⟨payload, sent⟩ := exactly.2 none
  exact ⟨none, payload, sent, sound payload sent⟩

end WorkflowRules.RuleDraft
