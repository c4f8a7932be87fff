import WorkflowRules.Proofs.Json.Number
import WorkflowRules.Proofs.Rule.RoundTrip

/-!
The preview of a rule, against that of what is sent of it. The preview looks at the payloads that
notifications have, while those are sent that are still being typed. Since it tells of a payload how
many fields it has, the two previews are the same exactly when no draft changes this number.
-/
namespace WorkflowRules

open Json.Reader (EndsDigits digits_append)

theorem forall₂_iff_of_forall₂ {α β : Type} {related : α → β → Prop} {holds : α → Prop}
    {items : List α} {others : List β}
    (each : List.Forall₂ (fun item other => related item other ↔ holds item) items others) :
    List.Forall₂ related items others ↔ ∀ item ∈ items, holds item := by
  induction each with
  | nil => simp
  | cons here later ih => rw [List.forall₂_cons, List.forall_mem_cons, here, ih]

/-! ### Texts of actions -/

theorem toDigits_append_inj {number other : Nat} {rest more : List Char} (ends : EndsDigits rest)
    (moreEnds : EndsDigits more)
    (same : Nat.toDigits 10 number ++ rest = Nat.toDigits 10 other ++ more) :
    number = other ∧ rest = more := by
  have isDigit (number : Nat) : ∀ c ∈ Nat.toDigits 10 number, c.isDigit = true := fun c mem =>
    Nat.isDigit_of_mem_toDigits (by decide) (by decide) mem
  have split := congrArg Json.Reader.digits same
  rw [digits_append (isDigit number) ends, digits_append (isDigit other) moreEnds] at split
  obtain ⟨shown, left⟩ := Prod.mk.inj split
  have value := congrArg (Nat.ofDigitChars 10 · 0) shown
  simp only [Nat.ofDigitChars_ten_toDigits] at value
  exact ⟨value, left⟩

namespace Action

/-- The same action, but that a notification may have another payload. -/
inductive Resembles : Action → Action → Prop where
  | same (action : Action) : Resembles action action
  | notify (notificationType : String) (payload other : Json.Object) :
    Resembles (.notify notificationType payload) (.notify notificationType other)

theorem toList_text_notify (notificationType : String) (payload : Json.Object) :
    (notify notificationType payload).text.toList =
      ("Notify '" ++ notificationType ++ "' with ").toList ++
        (Nat.toDigits 10 payload.size ++ " payload field(s)".toList) := by
  have shown : (notify notificationType payload).text = "Notify '" ++ notificationType ++
      "' with " ++ toString payload.size ++ " payload field(s)" := rfl
  rw [shown, String.toList_append, String.toList_append, Nat.toString_eq_ofList_toDigits,
    String.toList_ofList, List.append_assoc]

-- The number of fields ends at the blank after it, so the text shows where it ends itself.
theorem text_notify_append_eq_iff {notificationType : String} {payload other : Json.Object}
    {rest more : List Char} :
    (notify notificationType payload).text.toList ++ rest =
        (notify notificationType other).text.toList ++ more ↔
      payload.size = other.size ∧ rest = more := by
  rw [toList_text_notify, toList_text_notify]
  constructor
  · intro same
    simp only [List.append_assoc, List.append_cancel_left_eq] at same
    have ends (rest : List Char) : EndsDigits (" payload field(s)".toList ++ rest) := by
      intro c first
      cases first
      rfl
    obtain ⟨sizes, left⟩ := toDigits_append_inj (ends rest) (ends more) same
    exact ⟨sizes, List.append_cancel_left left⟩
  · rintro ⟨sizes, rfl⟩
    rw [sizes]

theorem text_notify_eq_iff {notificationType : String} {payload other : Json.Object} :
    (notify notificationType payload).text = (notify notificationType other).text ↔
      payload.size = other.size := by
  have alone : (notify notificationType payload).text.toList ++ [] =
      (notify notificationType other).text.toList ++ [] ↔ payload.size = other.size ∧ [] = [] :=
    text_notify_append_eq_iff
  rwa [List.append_nil, List.append_nil, String.toList_inj, and_iff_left rfl] at alone

theorem Resembles.text_append_eq_iff {action other : Action} (resembles : Resembles action other)
    {rest more : List Char} : action.text.toList ++ rest = other.text.toList ++ more ↔
      action.text = other.text ∧ rest = more := by
  cases resembles with
  | same => simp
  | notify => rw [text_notify_append_eq_iff, text_notify_eq_iff]

end Action

/-! ### Lines of a preview -/

/-- A line of text after a line break. -/
def brokenLine (line : String) : List Char :=
  '\n' :: line.toList

theorem toList_intercalate_cons (first : String) (lines : List String) :
    ("\n".intercalate (first :: lines)).toList = first.toList ++ lines.flatMap brokenLine := by
  induction lines generalizing first with
  | nil => simp
  | cons line rest ih =>
    rw [String.intercalate_cons_cons, String.toList_append, String.toList_append, ih]
    simp [brokenLine]

namespace RuleDraft

def actionLine (place : Action × Nat) : String :=
  "  " ++ toString (place.2 + 1) ++ ". " ++ place.1.text

theorem actionLines_of_some {actions : List Action} (some : actions ≠ []) :
    actionLines actions = actions.zipIdx.map actionLine := by
  rw [actionLines, if_neg (by simpa using some)]
  rfl

theorem flatMap_brokenLine_eq_iff {actions others : List Action}
    (resemble : List.Forall₂ Action.Resembles actions others) (index : Nat)
    {rest more : List Char} :
    ((actions.zipIdx index).map actionLine).flatMap brokenLine ++ rest =
        ((others.zipIdx index).map actionLine).flatMap brokenLine ++ more ↔
      List.Forall₂ (fun action other => action.text = other.text) actions others ∧
        rest = more := by
  induction resemble generalizing index with
  | nil => simp
  | cons here later ih =>
    rw [List.forall₂_cons, and_assoc, ← ih (index + 1), ← here.text_append_eq_iff]
    simp [actionLine, brokenLine, String.toList_append]

def openingLine (draft : RuleDraft) : String :=
  "When '" ++ draft.triggerEvent ++ "' fires and " ++ draft.condition.expression

def closingLines (draft : RuleDraft) : List String :=
  if draft.isActive then [] else ["(rule is inactive)"]

theorem preview_eq_intercalate (draft : RuleDraft) : draft.preview = "\n".intercalate
    (draft.openingLine :: "then:" :: (actionLines draft.actions.actions ++ draft.closingLines)) :=
  rfl

theorem toList_preview {draft : RuleDraft} (acting : draft.actions.actions ≠ []) :
    draft.preview.toList = (draft.openingLine.toList ++ brokenLine "then:") ++
      ((draft.actions.actions.zipIdx.map actionLine).flatMap brokenLine ++
        draft.closingLines.flatMap brokenLine) := by
  rw [preview_eq_intercalate, toList_intercalate_cons, List.flatMap_cons, List.flatMap_append,
    actionLines_of_some acting, List.append_assoc]

/-- If two rules are told alike but for the payloads of their actions, their previews are the same
exactly when each action has the same text in both. -/
theorem preview_eq_iff {draft other : RuleDraft}
    (resemble : List.Forall₂ Action.Resembles draft.actions.actions other.actions.actions)
    (acting : draft.actions.actions ≠ []) (opening : draft.openingLine = other.openingLine)
    (closing : draft.closingLines = other.closingLines) :
    draft.preview = other.preview ↔
      List.Forall₂ (fun action other => action.text = other.text) draft.actions.actions
        other.actions.actions := by
  have alsoActing : other.actions.actions ≠ [] := by
    intro idle
    rw [idle, List.forall₂_nil_right_iff] at resemble
    exact acting resemble
  rw [← String.toList_inj, toList_preview acting, toList_preview alsoActing, opening, closing,
    List.append_cancel_left_eq, flatMap_brokenLine_eq_iff resemble, and_iff_left rfl]

end RuleDraft

/-! ### Drafts of payloads -/

namespace ActionList

variable {list : ActionList} {index : Nat} {entry : Entry} {action : Action}

/-- The draft of a notification, if it can be read, has as many fields as the payload it is to
replace. -/
def KeepsSize (list : ActionList) (entry : Entry) : Prop :=
  ∀ notificationType payload text typed, entry.action = .notify notificationType payload →
    list.drafts.get? entry.id = some text → readPayloadText text = .ok typed →
    typed.size = payload.size

def KeepsSizes (list : ActionList) : Prop :=
  ∀ entry ∈ list.entries, list.KeepsSize entry

theorem resembles_of_submitted (submits : list.submitted index entry = .ok action) :
    entry.action.Resembles action ∧ (entry.action.text = action.text ↔ list.KeepsSize entry) := by
  unfold submitted at submits
  split at submits
  · next notificationType payload text same drafted =>
    cases read : readPayloadText text with
    | error error =>
      rw [read] at submits
      cases submits
    | ok typed =>
      rw [read] at submits
      cases submits
      rw [same]
      refine ⟨.notify notificationType payload typed, Action.text_notify_eq_iff.trans ?_⟩
      constructor
      · intro sizes _ _ _ _ alsoSame alsoDrafted alsoRead
        cases same.symm.trans alsoSame
        cases drafted.symm.trans alsoDrafted
        cases read.symm.trans alsoRead
        exact sizes.symm
      · intro keeps
        exact (keeps notificationType payload text typed same drafted read).symm
  · next others =>
    cases submits
    refine ⟨.same _, iff_of_true rfl ?_⟩
    intro notificationType payload text _ same drafted
    exact (others notificationType payload text same drafted).elim

-- The place of an action makes no difference to what is submitted of it.
theorem resemble_of_submit (none : list.issues = []) {actions : List Action}
    (submits : list.submit = .ok actions) :
    List.Forall₂ Action.Resembles list.actions actions ∧
      (List.Forall₂ (fun action other => action.text = other.text) list.actions actions ↔
        list.KeepsSizes) := by
  have each := (submit_eq_ok_iff none).1 submits
  rw [actions_eq_map_zipIdx, List.forall₂_map_left_iff, List.forall₂_map_left_iff]
  constructor
  · exact each.imp fun place action submitted => (resembles_of_submitted submitted).1
  · refine (forall₂_iff_of_forall₂ ?_).trans (forall_mem_zipIdx list.KeepsSize)
    exact each.imp fun place action submitted => (resembles_of_submitted submitted).2

end ActionList

namespace RuleDraft

variable {draft : RuleDraft} {payload : RulePayload}

theorem submit_of_sent (sent : draft.payload = .ok payload) :
    draft.actions.submit = .ok payload.actions := by
  have none := issues_of_sent sent
  obtain ⟨actions, _, submits, _, _⟩ := sound_of_no_issues none
  cases sent.symm.trans (payload_of_no_issues none submits)
  exact submits

/-- The preview is that of what is sent exactly when the drafts keep the sizes of payloads. -/
theorem preview_of_sent (sent : draft.payload = .ok payload) :
    draft.preview = (ofPayload payload).preview ↔ draft.actions.KeepsSizes := by
  have sound := sound_of_sent sent
  have none := (issues_eq_nil_iff.1 (issues_of_sent sent)).2.2
  obtain ⟨resemble, texts⟩ := ActionList.resemble_of_submit none (submit_of_sent sent)
  have sentActions : (ofPayload payload).actions.actions = payload.actions :=
    ActionList.actions_ofActions payload.actions
  rw [← sentActions] at resemble texts
  have acting : draft.actions.actions ≠ [] := by
    intro idle
    rw [idle, List.forall₂_nil_left_iff, sentActions] at resemble
    exact sound.acting resemble
  have condition : payload.condition.normalize = draft.condition :=
    (Condition.normalize_of_filled sound.filled).trans sound.condition
  have opening : draft.openingLine = (ofPayload payload).openingLine := by
    simp only [openingLine, ofPayload, sound.triggerEvent, condition]
  have closing : draft.closingLines = (ofPayload payload).closingLines := by
    simp only [closingLines, ofPayload, sound.isActive]
  exact (preview_eq_iff resemble acting opening closing).trans texts

/-- A rule with a notification whose payload is being typed anew. -/
def retyped (committed typed : Json.Object) : RuleDraft :=
  { RuleDraft.new "notify" "updated" with
    actions := {
      entries := [⟨⟨0⟩, .notify "workflow" committed⟩]
      drafts := Drafts.empty.insert ⟨0⟩ typed.json.pretty
      nextId := 1 } }

/-- What is sent of it. -/
def sentOf (typed : Json.Object) : RulePayload where
  name := "notify"
  description := none
  isActive := true
  scope := none
  triggerEvent := "updated"
  condition := .initial
  actions := [.notify "workflow" typed]

theorem payload_retyped (committed : Json.Object) {typed : Json.Object}
    (reads : readPayloadText typed.json.pretty = .ok typed) :
    (retyped committed typed).payload = .ok (sentOf typed) := by
  have fields : (RuleDraft.new "notify" "updated").fieldIssues = [] := by decide +kernel
  have condition : Condition.initial.issues = [] := by decide +kernel
  have problems : (Action.notify "workflow" committed).problems = [] := by
    simp only [Action.problems]
    decide +kernel
  have ofActions : (retyped committed typed).actions.issues = [] := by
    simp [retyped, ActionList.issues, ActionList.entryIssues, ActionList.draftIssues, reads,
      Action.issues, problems]
  have none : (retyped committed typed).issues = [] := by
    change RuleDraft.fieldIssues (.new "notify" "updated") ++ Condition.initial.issues ++ _ = []
    rw [fields, condition, ofActions]
    rfl
  have submits : (retyped committed typed).actions.submit = .ok (sentOf typed).actions := by
    apply (ActionList.submit_eq_ok_iff ofActions).2
    refine .cons ?_ .nil
    simp [retyped, ActionList.submitted, reads]
  have name : Text.trim "notify" = "notify" := by decide +kernel
  have filled : Condition.initial.normalize = .initial := by rfl
  rw [payload_of_no_issues none submits]
  simp only [retyped, RuleDraft.new, sentOf, name, filled]

theorem keepsSizes_retyped {committed typed : Json.Object}
    (reads : readPayloadText typed.json.pretty = .ok typed) :
    (retyped committed typed).actions.KeepsSizes ↔ typed.size = committed.size := by
  constructor
  · intro keeps
    exact keeps _ (List.mem_singleton.2 rfl) "workflow" committed _ typed rfl rfl reads
  · rintro sizes _ here _ _ _ _ same drafted alsoReads
    cases List.mem_singleton.1 here
    cases same
    cases drafted
    cases reads.symm.trans alsoReads
    exact sizes

-- Both payloads have one field, so the preview does not tell them apart.
theorem preview_of_renamed :
    (retyped (.ofFields [("from", .null)]) RulePayload.typedPayload).payload =
        .ok (sentOf RulePayload.typedPayload) ∧
      (retyped (.ofFields [("from", .null)]) RulePayload.typedPayload).preview =
        (ofPayload (sentOf RulePayload.typedPayload)).preview := by
  have reads : readPayloadText RulePayload.typedPayload.json.pretty =
      .ok RulePayload.typedPayload := readPayloadText_pretty (by decide) (by decide)
  have sent := payload_retyped (.ofFields [("from", .null)]) reads
  exact ⟨sent, (preview_of_sent sent).2 ((keepsSizes_retyped reads).2 (by decide))⟩

-- The preview tells of no fields where one is sent.
theorem preview_hides_draft :
    (retyped .empty RulePayload.typedPayload).payload = .ok (sentOf RulePayload.typedPayload) ∧
      (retyped .empty RulePayload.typedPayload).preview ≠
        (ofPayload (sentOf RulePayload.typedPayload)).preview := by
  have reads : readPayloadText RulePayload.typedPayload.json.pretty =
      .ok RulePayload.typedPayload := readPayloadText_pretty (by decide) (by decide)
  refine ⟨payload_retyped .empty reads, ?_⟩
  decide +kernel

end RuleDraft

end WorkflowRules
