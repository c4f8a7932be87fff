import WorkflowRules.Action.List
import WorkflowRules.Proofs.Steps

/-!
Submitting a list of actions. A draft is read twice, for its issue and for its payload, and
both readings go wrong together, so a list without issues gives its actions. Without drafts nothing
but the actions themselves matters, and drafts that say what the actions say make no difference.
-/
namespace WorkflowRules

-- A report is given away whole or not at all.
theorem Report.eq_of_unlessBlocked {α : Type} {report other : Report} {value otherValue : α}
    (same : report.unlessBlocked value = other.unlessBlocked otherValue) : report = other := by
  rcases report with ⟨_ | ⟨_, _⟩⟩ <;> rcases other with ⟨_ | ⟨_, _⟩⟩ <;>
    simp_all [unlessBlocked, isValid]

theorem Action.field_ne_payload {action : Action} {problem : String × String}
    (mem : problem ∈ action.problems) : problem.1 ≠ "payload" := by
  rcases problem with ⟨field, message⟩
  rintro (rfl : field = "payload")
  cases action <;> simp [problems] at mem

theorem Action.issues_eq_nil_iff {index : Nat} {action : Action} :
    action.issues index = [] ↔ action.problems = [] :=
  List.map_eq_nil_iff

/-- What holds of every item does not depend on where it stands. -/
theorem forall_mem_zipIdx {α : Type} {items : List α} (holds : α → Prop) :
    (∀ place ∈ items.zipIdx, holds place.1) ↔ ∀ item ∈ items, holds item := by
  have items : items.zipIdx.map Prod.fst = items := List.zipIdx_map_fst 0 items
  rw [← List.forall_mem_map, items]

namespace ActionList

variable {list : ActionList} {index : Nat} {entry : Entry}

theorem issues_eq_nil_iff : list.issues = [] ↔
    list.entries ≠ [] ∧ ∀ place ∈ list.entries.zipIdx, list.entryIssues place.2 place.1 = [] := by
  rw [issues, List.append_eq_nil_iff, List.flatMap_eq_nil_iff]
  cases list.entries <;> simp

theorem draftIssues_eq_nil_iff {text : String} :
    draftIssues index text = [] ↔ ∃ payload, readPayloadText text = .ok payload := by
  unfold draftIssues
  cases readPayloadText text <;> simp

-- Only a notification takes its draft, and no issue of a notification is about its payload.
theorem submitted_of_no_issues (none : list.entryIssues index entry = []) :
    ∃ action, list.submitted index entry = .ok action ∧ action.problems = [] := by
  obtain ⟨own, ofDraft⟩ := List.append_eq_nil_iff.1 none
  rw [Action.issues_eq_nil_iff] at own
  unfold submitted
  -- A draft on any other kind of action would be passed over in silence.
  split
  · next notificationType payload text same drafted =>
    simp only [drafted] at ofDraft
    obtain ⟨typed, read⟩ := draftIssues_eq_nil_iff.1 ofDraft
    rw [read]
    rw [same] at own
    exact ⟨.notify notificationType typed, rfl, own⟩
  · exact ⟨entry.action, rfl, own⟩

theorem submit_eq_ok_iff (none : list.issues = []) {actions : List Action} :
    list.submit = .ok actions ↔
      List.Forall₂ (fun place action => list.submitted place.2 place.1 = .ok action)
        list.entries.zipIdx actions := by
  have valid : list.report.unlessBlocked () = .ok () := Report.unlessBlocked_of_none none ()
  rw [submit, check_bind_eq_ok, mapM_eq_ok]
  exact and_iff_right valid

theorem submit_of_no_issues (none : list.issues = []) :
    ∃ actions, list.submit = .ok actions ∧ actions.length = list.size ∧
      ∀ action ∈ actions, action.problems = [] := by
  obtain ⟨_, each⟩ := issues_eq_nil_iff.1 none
  obtain ⟨actions, submits, sound⟩ := exists_mapM_eq_ok
    (fun place => list.submitted place.2 place.1)
    fun place mem => submitted_of_no_issues (each place mem)
  have inTurn := mapM_eq_ok.1 submits
  refine ⟨actions, (submit_eq_ok_iff none).2 inTurn, ?_, sound⟩
  rw [← inTurn.length_eq, List.length_zipIdx, size]

/-! ### Lists without drafts -/

/-- The issues of actions that have no drafts. -/
def issuesOf (actions : List Action) : List Issue :=
  (if actions.isEmpty then [⟨.actionList, "at least one action is required"⟩] else []) ++
    actions.zipIdx.flatMap fun (action, index) => action.issues index

theorem issuesOf_eq_nil_iff {actions : List Action} :
    issuesOf actions = [] ↔ actions ≠ [] ∧ ∀ action ∈ actions, action.problems = [] := by
  have each : (actions.zipIdx.flatMap fun (action, index) => action.issues index) = [] ↔
      ∀ action ∈ actions, action.problems = [] := by
    rw [List.flatMap_eq_nil_iff]
    exact (forall₂_congr fun _ _ => Action.issues_eq_nil_iff).trans
      (forall_mem_zipIdx fun action : Action => action.problems = [])
  rw [issuesOf, List.append_eq_nil_iff, each]
  cases actions <;> simp

/-- The drafts are texts of payloads. -/
def Readable (list : ActionList) : Prop :=
  ∀ entry ∈ list.entries, ∀ text, list.drafts.get? entry.id = some text →
    ∃ payload, readPayloadText text = .ok payload

theorem issues_of_readable (readable : list.Readable) : list.issues = issuesOf list.actions := by
  have each : ∀ place ∈ list.entries.zipIdx,
      list.entryIssues place.2 place.1 = place.1.action.issues place.2 := by
    intro place mem
    have reads := readable place.1 (List.fst_mem_of_mem_zipIdx mem)
    cases drafted : list.drafts.get? place.1.id with
    | none => simp [entryIssues, drafted]
    | some text => simp [entryIssues, drafted, draftIssues_eq_nil_iff.2 (reads text drafted)]
  rw [issues, issuesOf, actions, List.isEmpty_map, List.zipIdx_map, List.flatMap_map]
  congr 1
  exact List.flatMap_congr each

/-- No action has a draft. -/
def Undrafted (list : ActionList) : Prop :=
  ∀ entry ∈ list.entries, list.drafts.get? entry.id = none

theorem issues_of_undrafted (undrafted : list.Undrafted) : list.issues = issuesOf list.actions := by
  apply issues_of_readable
  intro entry mem text drafted
  cases (undrafted entry mem).symm.trans drafted

theorem submitted_eq_action_iff : list.submitted index entry = .ok entry.action ↔
    ∀ notificationType payload text, entry.action = .notify notificationType payload →
      list.drafts.get? entry.id = some text → readPayloadText text = .ok payload := by
  unfold submitted
  split
  · next notificationType payload text same drafted =>
    rw [same]
    cases read : readPayloadText text <;> simp_all
  · next others =>
    refine iff_of_true rfl fun notificationType payload text same drafted => ?_
    exact (others notificationType payload text same drafted).elim

/-- Every action is submitted as it is. -/
def Committed (list : ActionList) : Prop :=
  ∀ place ∈ list.entries.zipIdx, list.submitted place.2 place.1 = .ok place.1.action

theorem committed_iff : list.Committed ↔
    ∀ entry ∈ list.entries, ∀ notificationType payload text,
      entry.action = .notify notificationType payload →
        list.drafts.get? entry.id = some text → readPayloadText text = .ok payload := by
  refine (forall₂_congr fun _ _ => submitted_eq_action_iff).trans ?_
  exact forall_mem_zipIdx fun entry : Entry => ∀ notificationType payload text,
    entry.action = .notify notificationType payload →
      list.drafts.get? entry.id = some text → readPayloadText text = .ok payload

theorem submit_of_issues (some : list.issues ≠ []) : list.submit = .error list.report := by
  have blocked : list.report.unlessBlocked () = .error list.report :=
    Report.unlessBlocked_of_some some ()
  rw [submit, blocked]
  rfl

theorem actions_eq_map_zipIdx (list : ActionList) :
    list.actions = list.entries.zipIdx.map fun place => place.1.action := by
  rw [actions, ← Function.comp_def, ← List.map_map, List.zipIdx_map_fst]

theorem submit_eq_actions_iff (none : list.issues = []) :
    list.submit = .ok list.actions ↔ list.Committed := by
  rw [submit_eq_ok_iff none, actions_eq_map_zipIdx, List.forall₂_map_right_iff, List.forall₂_same,
    Committed]

theorem submit_eq_unlessBlocked_iff : list.submit = list.report.unlessBlocked list.actions ↔
    (list.issues = [] → list.Committed) := by
  by_cases none : list.issues = []
  · have free : list.report.unlessBlocked list.actions = .ok list.actions :=
      Report.unlessBlocked_of_none none _
    rw [free, submit_eq_actions_iff none]
    exact ⟨fun each _ => each, fun each => each none⟩
  · have blocked : list.report.unlessBlocked list.actions = .error list.report :=
      Report.unlessBlocked_of_some none _
    rw [submit_of_issues none, blocked]
    exact iff_of_true rfl fun free => absurd free none

/-- Without drafts, all that matters to the submission are the actions. -/
theorem submit_of_undrafted (undrafted : list.Undrafted) :
    list.submit = Report.unlessBlocked ⟨issuesOf list.actions⟩ list.actions := by
  rw [← issues_of_undrafted undrafted]
  apply submit_eq_unlessBlocked_iff.2
  intro _
  apply committed_iff.2
  intro entry mem _ _ _ _ drafted
  cases (undrafted entry mem).symm.trans drafted

/-! ### Drafts that make no difference -/

def withoutDrafts (list : ActionList) : ActionList :=
  { list with drafts := .empty }

theorem submit_withoutDrafts (list : ActionList) :
    list.withoutDrafts.submit = Report.unlessBlocked ⟨issuesOf list.actions⟩ list.actions :=
  submit_of_undrafted fun _ _ => rfl

/-- The drafts can be read, and if nothing else is amiss they say what the payloads are anyway. -/
structure DraftsIdle (list : ActionList) : Prop where
  readable : list.Readable
  same : list.issues = [] → ∀ entry ∈ list.entries, ∀ notificationType payload text,
    entry.action = .notify notificationType payload →
    list.drafts.get? entry.id = some text → readPayloadText text = .ok payload

-- The issues of a draft cannot be mistaken for those of an action.
theorem payloadIssue_not_mem_issuesOf (error : PayloadTextError) (actions : List Action) :
    payloadIssue index error ∉ issuesOf actions := by
  intro mem
  rcases List.mem_append.1 mem with ofList | ofActions
  · split at ofList <;> simp [payloadIssue] at ofList
  · rcases List.mem_flatMap.1 ofActions with ⟨place, _, ofAction⟩
    rcases List.mem_map.1 ofAction with ⟨problem, isProblem, same⟩
    have field := Action.field_ne_payload isProblem
    simp_all [payloadIssue]

theorem readable_of_issues (same : list.issues = issuesOf list.actions) : list.Readable := by
  intro entry mem text drafted
  cases read : readPayloadText text with
  | ok payload => exact ⟨payload, rfl⟩
  | error error =>
    rcases List.getElem?_of_mem mem with ⟨index, there⟩
    have issue : payloadIssue index error ∈ list.issues := by
      apply List.mem_append_right
      apply List.mem_flatMap.2
      refine ⟨(entry, index), List.mem_zipIdx_iff_getElem?.2 there, ?_⟩
      simp [entryIssues, drafted, draftIssues, read]
    exact absurd (same ▸ issue) (payloadIssue_not_mem_issuesOf error list.actions)

theorem exists_submit_eq (list : ActionList) :
    ∃ actions, list.submit = list.report.unlessBlocked actions := by
  by_cases none : list.issues = []
  · rcases submit_of_no_issues none with ⟨actions, submits, _⟩
    exact ⟨actions, submits.trans (Report.unlessBlocked_of_none none actions).symm⟩
  · exact ⟨[], (submit_of_issues none).trans (Report.unlessBlocked_of_some none []).symm⟩

theorem issues_of_submit (same : list.submit = list.withoutDrafts.submit) :
    list.issues = issuesOf list.actions := by
  rcases exists_submit_eq list with ⟨_, submits⟩
  rw [submits, submit_withoutDrafts] at same
  exact congrArg Report.issues (Report.eq_of_unlessBlocked same)

/-- Dropping the drafts makes no difference to the submission exactly when they are idle. -/
theorem submit_eq_withoutDrafts_iff :
    list.submit = list.withoutDrafts.submit ↔ list.DraftsIdle := by
  have exactly (issues : list.issues = issuesOf list.actions) :
      list.submit = list.withoutDrafts.submit ↔ (list.issues = [] → list.Committed) := by
    rw [submit_withoutDrafts, ← issues]
    exact submit_eq_unlessBlocked_iff
  constructor
  · intro same
    have issues := issues_of_submit same
    constructor
    case readable => exact readable_of_issues issues
    case same =>
      intro none
      exact committed_iff.1 ((exactly issues).1 same none)
  · intro idle
    apply (exactly (issues_of_readable idle.readable)).2
    intro none
    exact committed_iff.2 (idle.same none)

end ActionList

end WorkflowRules
