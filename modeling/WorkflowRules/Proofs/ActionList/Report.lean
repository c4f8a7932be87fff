import WorkflowRules.Proofs.ActionList.RoundTrip

/-!
What the report of a list says of each entry, and what submitting makes of each. The issues of an
entry depend on nothing but its action and its draft, and so they move with it when an earlier one
is removed. A list without issues is submitted whole, with every draft in the place of the payload
that it is for.
-/
namespace WorkflowRules

/-- Whether the issue is about the action at this index. -/
def Issue.atAction (index : Nat) (issue : Issue) : Bool :=
  match issue.target with
  | .action other _ => other = index
  | _ => false

/-- The issue after the action at `gap` is gone: what is about a later one is about the index
before. -/
def Issue.closeGap (gap : Nat) (issue : Issue) : Issue :=
  match issue.target with
  | .action index field =>
    { issue with target := .action (if gap < index then index - 1 else index) field }
  | _ => issue

/-- The text is that of a JSON object, and this is the object. -/
def IsPayload (text : String) (payload : Json.Object) : Prop :=
  Json.parse text = .ok ⟨payload.json, payload.ordered⟩

theorem readPayloadText_eq_ok_iff {text : String} {payload : Json.Object} :
    readPayloadText text = .ok payload ↔ IsPayload text payload := by
  unfold readPayloadText IsPayload
  split
  · next fields ordered parsed =>
    rw [parsed]
    rcases payload with ⟨fields, ordered⟩
    simp [Json.Object.json]
  · next items ordered parsed => simp [parsed, Json.Object.json]
  · next value notObject _ parsed =>
    apply iff_of_false
    · intro same
      cases same
    · intro object
      exact notObject _ _ (Except.ok.inj (parsed.symm.trans object))
  · next fault parsed => simp [parsed]

section Places

variable {α β : Type} {items : List α}

theorem flatMap_zipIdx_at (f : α → Nat → List β) (index start : Nat) :
    ((items.zipIdx start).flatMap fun place =>
        if place.2 = start + index then f place.1 place.2 else []) =
      items[index]?.toList.flatMap fun item => f item (start + index) := by
  induction items generalizing index start with
  | nil => rfl
  | cons item rest ih =>
    rw [List.zipIdx_cons, List.flatMap_cons]
    cases index with
    | zero =>
      have later : ((rest.zipIdx (start + 1)).flatMap fun place =>
          if place.2 = start + 0 then f place.1 place.2 else []) = [] := by
        apply List.flatMap_eq_nil_iff.2
        intro place mem
        have above := List.le_snd_of_mem_zipIdx mem
        exact if_neg (by omega)
      rw [later]
      simp
    | succ index =>
      have same := ih index (start + 1)
      rw [show start + 1 + index = start + (index + 1) by omega] at same
      rw [same, if_neg (by simp), List.nil_append, List.getElem?_cons_succ]

/-- What is left after a removal comes from where it was, with the gap closed. -/
theorem flatMap_zipIdx_eraseIdx (f : α → Nat → List β) (gap start : Nat) :
    (((items.eraseIdx gap).zipIdx start).flatMap fun place => f place.1 place.2) =
      (items.zipIdx start).flatMap fun place =>
        if place.2 = start + gap then []
        else f place.1 (if start + gap < place.2 then place.2 - 1 else place.2) := by
  induction items generalizing gap start with
  | nil => rfl
  | cons item rest ih =>
    cases gap with
    | zero =>
      rw [List.eraseIdx_cons_zero, List.zipIdx_cons, List.flatMap_cons, Nat.add_zero, if_pos rfl,
        List.nil_append, List.zipIdx_succ, List.flatMap_map]
      apply List.flatMap_congr
      rintro ⟨later, place⟩ mem
      have above : start ≤ place := List.le_snd_of_mem_zipIdx mem
      simp only
      rw [if_neg (by omega), if_pos (by omega), Nat.add_sub_cancel]
    | succ gap =>
      have same := ih gap (start + 1)
      rw [show start + 1 + gap = start + (gap + 1) by omega] at same
      rw [List.eraseIdx_cons_succ, List.zipIdx_cons, List.zipIdx_cons, List.flatMap_cons,
        List.flatMap_cons, same, if_neg (by simp), if_neg (by simp)]

end Places

namespace ActionList

variable {list next : ActionList} {index : Nat} {entry : Entry}

/-- What is amiss with an entry, each with its field. Where the entry stands does not matter. -/
def complaints (list : ActionList) (entry : Entry) : List (String × String) :=
  entry.action.problems ++
    match list.drafts.get? entry.id with
    | some text =>
      match readPayloadText text with
      | .ok _ => []
      | .error error => [("payload", error.message)]
    | none => []

def issueAt (index : Nat) (complaint : String × String) : Issue :=
  ⟨.action index (some complaint.1), complaint.2⟩

theorem entryIssues_eq (list : ActionList) (index : Nat) (entry : Entry) :
    list.entryIssues index entry = (list.complaints entry).map (issueAt index) := by
  rw [entryIssues, complaints, List.map_append]
  congr 1
  cases drafted : list.drafts.get? entry.id with
  | none => rfl
  | some text =>
    simp only [draftIssues]
    cases readPayloadText text <;> rfl

@[simp]
theorem atAction_issueAt (index other : Nat) (complaint : String × String) :
    (issueAt other complaint).atAction index = decide (other = index) := rfl

theorem filter_atAction_issueAt (index other : Nat) (complaints : List (String × String)) :
    (complaints.map (issueAt other)).filter (Issue.atAction index) =
      if other = index then complaints.map (issueAt other) else [] := by
  rw [List.filter_map]
  by_cases same : other = index <;> simp [Function.comp_def, same]

theorem forAction_report (list : ActionList) (index : Nat) :
    list.report.forAction index =
      list.entries[index]?.toList.flatMap (list.entryIssues index) := by
  change list.issues.filter (Issue.atAction index) = _
  have ofList : (if list.entries.isEmpty then
      [⟨.actionList, "at least one action is required"⟩] else [] : List Issue).filter
        (Issue.atAction index) = [] := by
    split <;> rfl
  have each : ∀ place : Entry × Nat,
      (list.entryIssues place.2 place.1).filter (Issue.atAction index) =
        if place.2 = 0 + index then list.entryIssues place.2 place.1 else [] := by
    intro place
    rw [entryIssues_eq, filter_atAction_issueAt, Nat.zero_add]
  rw [issues, List.filter_append, ofList, List.nil_append, List.filter_flatMap]
  simp only [each]
  rw [flatMap_zipIdx_at fun entry index => list.entryIssues index entry, Nat.zero_add]

theorem forAction_of_some (found : list.entries[index]? = some entry) :
    list.report.forAction index = list.entryIssues index entry := by
  rw [forAction_report, found]
  exact List.append_nil _

theorem draft?_of_some (found : list.entries[index]? = some entry) :
    list.draft? index = list.drafts.get? entry.id := by
  rw [draft?, idAt?_of_some found, Option.bind_some]

theorem issues_eq_forAction (list : ActionList) : list.issues =
    (if list.size = 0 then [⟨.actionList, "at least one action is required"⟩] else []) ++
      (List.range list.size).flatMap list.report.forAction := by
  rw [issues]
  congr 1
  · cases entries : list.entries <;> simp [size, entries]
  · rw [size, List.range_eq_range', ← List.zipIdx_map_snd, List.flatMap_map]
    apply List.flatMap_congr
    intro place mem
    exact (forAction_of_some (List.mem_zipIdx_iff_getElem?.1 mem)).symm

/-! ### Removals -/

theorem issues_of_some (some : list.size ≠ 0) : list.issues =
    list.entries.zipIdx.flatMap fun place => (list.complaints place.1).map (issueAt place.2) := by
  have nonempty : list.entries.isEmpty = false := by
    cases entries : list.entries with
    | nil => simp [size, entries] at some
    | cons => rfl
  rw [issues, nonempty]
  apply List.flatMap_congr
  intro place _
  exact entryIssues_eq list place.2 place.1

theorem closeGap_rest (gap place : Nat) (complaints : List (String × String)) :
    ((complaints.map (issueAt place)).filter fun issue => !issue.atAction gap).map
        (Issue.closeGap gap) =
      if place = gap then []
      else complaints.map (issueAt (if gap < place then place - 1 else place)) := by
  have moved : Issue.closeGap gap ∘ issueAt place =
      issueAt (if gap < place then place - 1 else place) := rfl
  rw [List.filter_map, List.map_map, moved]
  by_cases same : place = gap <;> simp [Function.comp_def, same]

-- The drafts of the other entries are kept, since no two entries share an identity.
theorem issues_of_remove (unique : UniqueIds list.entries)
    (removed : (Operation.remove index).perform list = .ok () next) (some : next.size ≠ 0) :
    next.issues =
      (list.issues.filter fun issue => !issue.atAction index).map (Issue.closeGap index) := by
  cases found : list.entries[index]? with
  | none =>
    rw [perform_of_none rfl found] at removed
    cases removed
  | some entry =>
    rw [perform_remove found] at removed
    cases removed
    have someBefore : list.size ≠ 0 := by
      have inside := (List.getElem?_eq_some_iff.1 found).1
      exact Nat.ne_of_gt (Nat.zero_lt_of_lt inside)
    rw [issues_of_some some, issues_of_some someBefore, List.filter_flatMap, List.map_flatMap]
    simp only [closeGap_rest]
    rw [flatMap_zipIdx_eraseIdx fun other place => (complaints _ other).map (issueAt place)]
    apply List.flatMap_congr
    intro place mem
    rw [Nat.zero_add]
    by_cases gone : place.2 = index
    · rw [if_pos gone, if_pos gone]
    · have there := List.mem_zipIdx_iff_getElem?.1 mem
      have differs : place.1.id ≠ entry.id := mt (index_eq_of_unique unique found there) gone
      rw [if_neg gone, if_neg gone]
      simp [complaints, differs]

/-! ### Submissions -/

/-- What is sent of the action at an index: the action itself or, if a payload is being typed for
it, the notification with that payload. -/
inductive Sends (list : ActionList) (index : Nat) : Action → Prop where
  | committed {action : Action} (there : list.get? index = some action)
    (undrafted : list.draft? index = none) : Sends list index action
  | drafted {notificationType text : String} {payload typed : Json.Object}
    (there : list.get? index = some (.notify notificationType payload))
    (draft : list.draft? index = some text) (read : IsPayload text typed) :
    Sends list index (.notify notificationType typed)

theorem kind_of_drafted {text : String} (coherent : list.Coherent) (mem : entry ∈ list.entries)
    (drafted : list.drafts.get? entry.id = some text) : entry.action.kind = .notify := by
  rcases coherent.drafted entry.id text drafted with ⟨other, otherMem, same, notify⟩
  have identical : other = entry := List.inj_on_of_nodup_map coherent.unique otherMem mem same
  rwa [identical] at notify

-- A draft is the draft of a notification, so none is passed over.
theorem sends_of_submitted {action : Action} (coherent : list.Coherent)
    (found : list.entries[index]? = some entry)
    (submitted : list.submitted index entry = .ok action) : list.Sends index action := by
  have there : list.get? index = some entry.action := by simp [get?, found]
  have draft := draft?_of_some found
  unfold ActionList.submitted at submitted
  split at submitted
  · next notificationType payload text same drafted =>
    rw [same] at there
    cases read : readPayloadText text with
    | error error =>
      rw [read] at submitted
      cases submitted
    | ok typed =>
      rw [read] at submitted
      cases submitted
      exact .drafted there (draft.trans drafted) (readPayloadText_eq_ok_iff.1 read)
  · next others =>
    cases submitted
    cases drafted : list.drafts.get? entry.id with
    | none => exact .committed there (draft.trans drafted)
    | some text =>
      have notify := kind_of_drafted coherent (List.mem_of_getElem? found) drafted
      cases same : entry.action with
      | notify notificationType payload =>
        exact absurd drafted (others notificationType payload text same)
      | setField => rw [same] at notify; cases notify
      | createTask => rw [same] at notify; cases notify

theorem sends_of_submit {actions : List Action} (coherent : list.Coherent) (none : list.issues = [])
    (submits : list.submit = .ok actions) :
    actions.length = list.size ∧
      ∀ index < list.size, ∃ action, actions[index]? = some action ∧ list.Sends index action := by
  have inTurn := (submit_eq_ok_iff none).1 submits
  have length : actions.length = list.size := by
    rw [← inTurn.length_eq, List.length_zipIdx, size]
  apply And.intro length
  intro index inside
  have entryInside : index < list.entries.zipIdx.length := by rwa [List.length_zipIdx]
  have submitted := (List.forall₂_iff_get.1 inTurn).2 index entryInside (length ▸ inside)
  rw [List.get_eq_getElem, List.getElem_zipIdx, Nat.zero_add] at submitted
  have found : list.entries[index]? = some list.entries[index] := List.getElem?_eq_getElem inside
  exact ⟨_, List.getElem?_eq_getElem (length ▸ inside),
    sends_of_submitted coherent found submitted⟩

theorem submit_again {actions : List Action} (none : list.issues = [])
    (submits : list.submit = .ok actions) : (ofActions actions).submit = .ok actions := by
  rcases submit_of_no_issues none with ⟨others, same, length, sound⟩
  cases submits.symm.trans same
  have some : actions ≠ [] := by
    intro nil
    rw [nil] at length
    exact (issues_eq_nil_iff.1 none).1 (List.length_eq_zero_iff.1 length.symm)
  rw [submit_ofActions]
  exact Report.unlessBlocked_of_none (issuesOf_eq_nil_iff.2 ⟨some, sound⟩) actions

theorem issues_of_submit_ok {actions : List Action} (submits : list.submit = .ok actions) :
    list.issues = [] := by
  by_contra some
  cases (submit_of_issues some).symm.trans submits

/-! ### From the start on -/

/-- What is reported of a list, entry by entry. -/
structure ReportsEntries (list : ActionList) : Prop where
  inOrder : list.issues =
    (if list.size = 0 then [⟨.actionList, "at least one action is required"⟩] else []) ++
      (List.range list.size).flatMap list.report.forAction
  readable : ∀ index action, list.get? index = some action →
    (∀ text, list.draft? index = some text → ∃ payload, IsPayload text payload) →
    list.report.forAction index = action.issues index
  unreadable : ∀ index action text, list.get? index = some action →
    list.draft? index = some text → (∀ payload, ¬IsPayload text payload) →
    ∃ error, readPayloadText text = .error error ∧
      list.report.forAction index = action.issues index ++ [payloadIssue index error]
  /-- What is said of the others stays, at the places that they have moved to. -/
  removed : ∀ index next, (Operation.remove index).perform list = .ok () next → next.size ≠ 0 →
    next.issues =
      (list.issues.filter fun issue => !issue.atAction index).map (Issue.closeGap index)

/-- What becomes of a list that is submitted. -/
structure SubmitsEntries (list : ActionList) : Prop where
  succeeds : (∃ actions, list.submit = .ok actions) ↔ list.issues = []
  fails : ∀ report, list.submit = .error report ↔ report = list.report ∧ list.issues ≠ []
  sends : ∀ actions, list.submit = .ok actions → actions.length = list.size ∧
    ∀ index < list.size, ∃ action, actions[index]? = some action ∧ list.Sends index action
  again : ∀ actions, list.submit = .ok actions → (ofActions actions).submit = .ok actions

theorem reportsEntries (unique : UniqueIds list.entries) : ReportsEntries list := by
  constructor
  case inOrder => exact issues_eq_forAction list
  case readable =>
    intro index action there reads
    rcases Option.map_eq_some_iff.1 there with ⟨entry, found, rfl⟩
    rw [draft?_of_some found] at reads
    rw [forAction_of_some found, entryIssues]
    cases drafted : list.drafts.get? entry.id with
    | none => exact List.append_nil _
    | some text =>
      rcases reads text drafted with ⟨payload, isPayload⟩
      have free : draftIssues index text = [] :=
        draftIssues_eq_nil_iff.2 ⟨payload, readPayloadText_eq_ok_iff.2 isPayload⟩
      simp only [free, List.append_nil]
  case unreadable =>
    intro index action text there drafted noPayload
    rcases Option.map_eq_some_iff.1 there with ⟨entry, found, rfl⟩
    rw [draft?_of_some found] at drafted
    rw [forAction_of_some found, entryIssues, drafted]
    cases read : readPayloadText text with
    | ok payload => exact absurd (readPayloadText_eq_ok_iff.1 read) (noPayload payload)
    | error error =>
      apply Exists.intro error
      simp only [draftIssues, read, and_self]
  case removed =>
    intro index next removed some
    exact issues_of_remove unique removed some

theorem submitsEntries (coherent : list.Coherent) : SubmitsEntries list := by
  constructor
  case succeeds =>
    constructor
    · rintro ⟨actions, submits⟩
      exact issues_of_submit_ok submits
    · intro none
      rcases submit_of_no_issues none with ⟨actions, submits, _⟩
      exact ⟨actions, submits⟩
  case fails =>
    intro report
    by_cases none : list.issues = []
    · rcases submit_of_no_issues none with ⟨actions, submits, _⟩
      simp [submits, none]
    · simp [submit_of_issues none, none, eq_comm]
  case sends =>
    intro actions submits
    exact sends_of_submit coherent (issues_of_submit_ok submits) submits
  case again =>
    intro actions submits
    exact submit_again (issues_of_submit_ok submits) submits

/-- Of every list that operations lead to from a fresh one, each entry is reported on by itself,
and the list is either refused with its report or submitted whole with its drafts. -/
theorem entries_reported_and_sent {start : ActionList} (fresh : Fresh start)
    (ops : List Operation) (few : start.size + insertions ops < UInt64.size) :
    ReportsEntries (run start ops) ∧ SubmitsEntries (run start ops) := by
  rcases ofActions_of_fresh fresh with ⟨actions, rfl⟩
  rw [size_ofActions] at few
  have coherent := (coherent_run_ofActions actions ops few).1
  exact ⟨reportsEntries coherent.unique, submitsEntries coherent⟩

/-- The last notification gets a payload, the first an unfinished one, and then the first goes. -/
def typedEdits : List Operation :=
  [.setDraft 2 "\x7b\"at\":null\x7d", .setDraft 0 "[", .remove 0]

theorem typed_reported_and_sent :
    (∃ error, readPayloadText "[" = .error error ∧
      (run (ofActions sampleActions) (typedEdits.take 2)).report.forAction 0 =
        [payloadIssue 0 error]) ∧
    ∃ actions payload, (run (ofActions sampleActions) typedEdits).submit = .ok actions ∧
      actions[1]? = some (.notify "last" payload) ∧ IsPayload "\x7b\"at\":null\x7d" payload := by
  have fresh : Fresh (ofActions sampleActions) := .inr (.inl ⟨sampleActions, rfl⟩)
  have reports := (entries_reported_and_sent fresh (typedEdits.take 2) (by decide)).1
  have submits := (entries_reported_and_sent fresh typedEdits (by decide)).2
  constructor
  · have unfinished : ∀ payload, ¬IsPayload "[" payload := by
      intro payload isPayload
      have fails : (Json.parse "[").toBool = false := by decide +kernel
      rw [isPayload] at fails
      cases fails
    exact reports.unreadable 0 (.notify "first" .empty) "[" rfl rfl unfinished
  · rcases submits.succeeds.2 (by decide +kernel) with ⟨actions, sent⟩
    rcases (submits.sends actions sent).2 1 (by decide) with ⟨action, there, sends⟩
    cases sends with
    | committed _ undrafted => cases undrafted
    | drafted there' draft read =>
      cases there'
      cases draft
      exact ⟨actions, _, sent, there, read⟩

end ActionList

end WorkflowRules
