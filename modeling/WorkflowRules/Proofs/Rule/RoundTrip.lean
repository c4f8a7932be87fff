import Mathlib.Data.List.DropRight
import WorkflowRules.Proofs.ActionList.RoundTrip
import WorkflowRules.Proofs.Condition.RoundTrip
import WorkflowRules.Proofs.Rule.Agreement
import WorkflowRules.Proofs.Rule.Submission

/-!
What becomes of a rule that was submitted. Submitting it once more changes nothing, since each step
of the submission leaves alone what it has made. Its text is loaded back, unless the condition or
the text is too deep; that a text carries the actions deeper than their drafts were on their own is
why a rule that was submitted need not be loaded. It is the same rule if its numbers are read back
as they are written.
-/
namespace WorkflowRules

/-! ### Submitting twice -/

namespace Text

theorem dropWhile_trimChars (cs : List Char) :
    (trimChars cs).dropWhile isBlank = trimChars cs := by
  have front := List.rdropWhile_prefix isBlank (cs.dropWhile isBlank)
  change trimChars cs <+: _ at front
  cases same : trimChars cs with
  | nil => rfl
  | cons c rest =>
    -- What is left begins as the text did without the blanks in front.
    rw [same] at front
    obtain ⟨others, begins⟩ := front
    have notBlank := List.head?_dropWhile_not isBlank cs
    rw [← begins] at notBlank
    exact List.dropWhile_cons_of_neg (by simpa using notBlank)

theorem trimChars_trimChars (cs : List Char) : trimChars (trimChars cs) = trimChars cs := by
  have again : trimChars (trimChars cs) =
      ((trimChars cs).dropWhile isBlank).rdropWhile isBlank := rfl
  rw [again, dropWhile_trimChars]
  exact List.rdropWhile_idempotent isBlank (cs.dropWhile isBlank)

theorem trim_trim (s : String) : trim (trim s) = trim s := by
  rw [trim, trim, String.toList_ofList, trimChars_trimChars]

end Text

namespace RuleDraft

variable {draft : RuleDraft} {payload : RulePayload}

theorem issues_of_sent (sent : draft.payload = .ok payload) : draft.issues = [] := by
  by_contra some
  rw [payload_of_issues some] at sent
  cases sent

theorem sound_of_sent (sent : draft.payload = .ok payload) : draft.Sound payload := by
  rcases sound_of_no_issues (issues_of_sent sent) with ⟨_, other, _, same, sound⟩
  cases sent.symm.trans same
  exact sound

theorem issuesOf_of_sound (sound : draft.Sound payload) :
    ActionList.issuesOf payload.actions = [] := by
  apply ActionList.issuesOf_eq_nil_iff.2
  refine ⟨sound.acting, ?_⟩
  intro action mem
  exact Action.issues_eq_nil_iff.1 (sound.faultless action mem 0)

theorem issues_ofPayload (sent : draft.payload = .ok payload) :
    (ofPayload payload).issues = [] := by
  have sound := sound_of_sent sent
  rcases issues_eq_nil_iff.1 (issues_of_sent sent) with ⟨none, valid, _⟩
  apply issues_eq_nil_iff.2
  refine ⟨?fields, ?condition, ?actions⟩
  case fields =>
    -- Whether a name is blank does not depend on the blanks around it.
    rw [← none]
    simp only [fieldIssues, ofPayload, sound.name, sound.triggerEvent, sound.scope,
      Text.onlyBlank_trim]
  case condition =>
    change payload.condition.normalize.Valid
    rw [Condition.normalize_of_filled sound.filled, sound.condition]
    exact valid
  case actions =>
    have undrafted := ActionList.undrafted_ofActions payload.actions
    change (ActionList.ofActions payload.actions).issues = []
    rw [ActionList.issues_of_undrafted undrafted, ActionList.actions_ofActions]
    exact issuesOf_of_sound sound

theorem submit_ofPayload (sent : draft.payload = .ok payload) :
    (ofPayload payload).actions.submit = .ok payload.actions := by
  change (ActionList.ofActions payload.actions).submit = _
  rw [ActionList.submit_ofActions]
  exact Report.unlessBlocked_of_none (issuesOf_of_sound (sound_of_sent sent)) _

theorem payload_ofPayload (sent : draft.payload = .ok payload) :
    (ofPayload payload).payload = .ok payload := by
  have sound := sound_of_sent sent
  have name : Text.trim payload.name = payload.name := by
    rw [sound.name, Text.trim_trim]
  have condition : payload.condition.normalize = payload.condition :=
    Condition.normalize_of_filled sound.filled
  rw [payload_of_no_issues (issues_ofPayload sent) (submit_ofPayload sent)]
  simp only [ofPayload, name, condition]

end RuleDraft

/-! ### Texts of rules -/

theorem Action.loadListFrom_listToJson (actions : List Action) :
    loadListFrom (listToJson actions).canonical = .ok actions :=
  loadListFrom_eq_ok_iff.2 ⟨checkListShape_listToJson actions, listOf_listToJson actions⟩

theorem Condition.loadFrom_toJson_eq_ok_iff {limits : Limits} {condition loaded : Condition} :
    loadFrom limits condition.toJson.canonical = .ok loaded ↔
      condition.depth ≤ limits.acceptedDepth ∧ condition.normalize = loaded := by
  rw [loadFrom_eq_ok_iff]
  constructor
  · rintro ⟨read, reads, shallow, same⟩
    cases reads.symm.trans (ofJson_toJson condition)
    exact ⟨shallow, same.symm⟩
  · rintro ⟨shallow, rfl⟩
    exact ⟨condition, ofJson_toJson condition, shallow, rfl⟩

namespace RulePayload

open Json (Decoder Fields)

variable {limits : Limits} {fields : Fields} {payload loaded : RulePayload}

/-- The rule as it is loaded, without empty groups. -/
def normalize (payload : RulePayload) : RulePayload :=
  { payload with condition := payload.condition.normalize }

/-- The rule with what is read of each number in its parts. -/
def reread (payload : RulePayload) : RulePayload :=
  { payload with condition := payload.condition.reread, actions := payload.actions.map .reread }

theorem toJson_reread (payload : RulePayload) : payload.reread.toJson = payload.toJson.reread := by
  rcases payload with ⟨name, _ | description, isActive, _ | scope, triggerEvent, condition,
    actions⟩ <;>
  simp [reread, toJson, optionalText, Json.reread, Json.rereadFields, condition.toJson_reread,
    Action.listToJson_map_reread]

theorem reread_of_readBack (readBack : payload.toJson.NumbersReadBack) :
    payload.reread = payload := by
  have each := Json.numbersReadBack_object_iff.1 readBack
  have condition := each ("condition_json", payload.condition.toJson) (by simp)
  have actions := each ("actions_json", Action.listToJson payload.actions) (by simp)
  rw [reread, Condition.reread_eq_self_iff.2 condition, Action.map_reread_eq_self_iff.2 actions]

/-- The fields are what is written of a rule. -/
structure Written (fields : Fields) (payload : RulePayload) : Prop where
  envelope : Envelope fields payload
  condition : fields.lookup RulePart.condition.field = some payload.condition.toJson.canonical
  actions : fields.lookup RulePart.actions.field =
    some (Action.listToJson payload.actions).canonical

-- Nothing is written of a text that there is not, and what is not there is taken for none.
theorem exists_written (payload : RulePayload) :
    ∃ fields, payload.toJson.toValue.json = .object fields ∧ Written fields payload := by
  refine ⟨_, rfl, ⟨?_, ?_, ?_, ?_, ?_⟩, ?_, ?_⟩ <;>
    rcases payload with ⟨name, _ | description, isActive, _ | scope, triggerEvent, condition,
      actions⟩ <;>
    simp [Decoder.fromFieldOr, Decoder.optional, Decoder.string, Decoder.bool, optionalText,
      Json.lookup_canonical, Json.lookup_cons, Json.canonical, RulePart.field, Except.map]

theorem describes_iff_of_written (written : Written fields payload) :
    Describes limits fields loaded ↔
      payload.condition.depth ≤ limits.acceptedDepth ∧ payload.normalize = loaded := by
  rcases written.envelope with ⟨name, description, isActive, scope, triggerEvent⟩
  constructor
  · rintro ⟨envelope, ⟨_, hasCondition, loadsCondition⟩, _, hasActions, loadsActions⟩
    cases hasCondition.symm.trans written.condition
    cases hasActions.symm.trans written.actions
    rcases Condition.loadFrom_toJson_eq_ok_iff.1 loadsCondition with ⟨shallow, condition⟩
    -- Each field of what was loaded is told by what was written of it.
    rcases loaded with ⟨_, _, _, _, _, _, _⟩
    cases condition
    cases loadsActions.symm.trans (Action.loadListFrom_listToJson payload.actions)
    cases envelope.name.symm.trans name
    cases envelope.description.symm.trans description
    cases envelope.isActive.symm.trans isActive
    cases envelope.scope.symm.trans scope
    cases envelope.triggerEvent.symm.trans triggerEvent
    exact ⟨shallow, rfl⟩
  · rintro ⟨shallow, rfl⟩
    exact ⟨⟨name, description, isActive, scope, triggerEvent⟩,
      ⟨_, written.condition, Condition.loadFrom_toJson_eq_ok_iff.2 ⟨shallow, rfl⟩⟩,
      _, written.actions, Action.loadListFrom_listToJson payload.actions⟩

theorem loadJson_toJson (short : payload.toJson.nesting ≤ Json.Reader.levelLimit) :
    loadJson payload.toJson.pretty = .ok payload.reread.toJson.toValue := by
  rw [loadJson_pretty short, toJson_reread]

theorem load_toJson_of_long (limits : Limits)
    (long : Json.Reader.levelLimit < payload.toJson.nesting) :
    ∃ place, load limits payload.toJson.pretty = .error (.notJson ⟨.tooDeep, place⟩) := by
  obtain ⟨place, stops⟩ := loadJson_pretty_of_deep long
  exact ⟨place, by rw [load, stops]; rfl⟩

theorem load_toJson_of_deep (short : payload.toJson.nesting ≤ Json.Reader.levelLimit)
    (deep : limits.acceptedDepth < payload.condition.depth) :
    ∃ location, load limits payload.toJson.pretty = .error
      (.partShape .condition (Condition.shapeError location (.tooDeep limits.acceptedDepth))) := by
  obtain ⟨fields, object, written⟩ := exists_written payload.reread
  have alsoDeep : limits.acceptedDepth < payload.reread.condition.depth := by
    rwa [reread, Condition.depth_reread]
  obtain ⟨location, refused⟩ :=
    Condition.checkShape_of_deep (Condition.ofJson_toJson payload.reread.condition) alsoDeep
  refine ⟨location, ?_⟩
  rw [load_eq_loadFrom (loadJson_toJson short) object]
  exact loadFrom_of_condition_error written.condition refused

theorem load_toJson_eq_ok_iff : load limits payload.toJson.pretty = .ok loaded ↔
    (payload.condition.depth ≤ limits.acceptedDepth ∧
      payload.toJson.nesting ≤ Json.Reader.levelLimit) ∧ payload.reread.normalize = loaded := by
  rcases Nat.lt_or_ge Json.Reader.levelLimit payload.toJson.nesting with long | short
  · obtain ⟨_, failed⟩ := load_toJson_of_long limits long
    simp [failed, Nat.not_le.2 long]
  · obtain ⟨fields, object, written⟩ := exists_written payload.reread
    have depth : payload.reread.condition.depth = payload.condition.depth :=
      payload.condition.depth_reread
    rw [load_eq_ok_iff_describes (loadJson_toJson short) object, describes_iff_of_written written,
      depth, and_iff_left short]

/-- What becomes of a rule that is taken for a draft again, or written and loaded. -/
structure Stable (payload : RulePayload) : Prop where
  clean : (RuleDraft.ofPayload payload).report = ⟨[]⟩
  resent : (RuleDraft.ofPayload payload).payload = .ok payload
  success : ∀ limits, (∃ loaded, load limits payload.toJson.pretty = .ok loaded) ↔
    payload.condition.depth ≤ limits.acceptedDepth ∧ payload.toJson.nesting ≤ 127
  text : payload.toJson.NumbersReadBack → ∀ limits,
    (load limits payload.toJson.pretty = .ok payload ↔
      payload.condition.depth ≤ limits.acceptedDepth ∧ payload.toJson.nesting ≤ 127)
  /-- A text that is too long for the reader of JSON is refused as such, -/
  long : ∀ limits, 127 < payload.toJson.nesting →
    ∃ place, load limits payload.toJson.pretty = .error (.notJson ⟨.tooDeep, place⟩)
  /-- and one that is not, at the place where the condition becomes too deep. -/
  deep : ∀ limits, payload.toJson.nesting ≤ 127 → limits.acceptedDepth < payload.condition.depth →
    ∃ location, load limits payload.toJson.pretty = .error
      (.partShape .condition (Condition.shapeError location (.tooDeep limits.acceptedDepth)))

/-- Submitting a rule again changes nothing, and its text is loaded unless its condition or the text
is too deep, as the same rule if its numbers are read back. -/
theorem stable_of_sent {draft : RuleDraft} (sent : draft.payload = .ok payload) :
    payload.Stable := by
  have filled : payload.normalize = payload := by
    rw [normalize, Condition.normalize_of_filled (RuleDraft.sound_of_sent sent).filled]
  constructor
  case clean => exact congrArg Report.mk (RuleDraft.issues_ofPayload sent)
  case resent => exact RuleDraft.payload_ofPayload sent
  case success => exact fun _ => exists_eq_ok_iff fun _ => load_toJson_eq_ok_iff
  case text =>
    intro readBack limits
    rw [load_toJson_eq_ok_iff, reread_of_readBack readBack]
    exact and_iff_left filled
  case long => exact load_toJson_of_long
  case deep => exact fun _ => load_toJson_of_deep

def typedPayload : Json.Object :=
  .ofFields [("to", .array [.string "owner"])]

/-- A rule whose notification has an empty payload, and another as its draft. -/
def typedDraft : RuleDraft :=
  { RuleDraft.new " escalate " "updated" with
    condition := .not (.leaf ⟨"owner", .exists, .null⟩)
    actions := {
      entries := [⟨⟨0⟩, .notify "mail" .empty⟩]
      drafts := Drafts.empty.insert ⟨0⟩ typedPayload.json.pretty
      nextId := 1 } }

/-- What is sent of it. -/
def typedRule : RulePayload where
  name := "escalate"
  description := none
  isActive := true
  scope := none
  triggerEvent := "updated"
  condition := .not (.leaf ⟨"owner", .exists, .null⟩)
  actions := [.notify "mail" typedPayload]

theorem typedRule_stable : typedDraft.payload = .ok typedRule ∧
    load .standard typedRule.toJson.pretty = .ok typedRule ∧
    ∃ location, load ⟨0, 0, 8⟩ typedRule.toJson.pretty =
      .error (.partShape .condition (Condition.shapeError location (.tooDeep 0))) := by
  have reads : readPayloadText typedPayload.json.pretty = .ok typedPayload :=
    readPayloadText_pretty (by decide) (by decide)
  have none : typedDraft.issues = [] := by decide +kernel
  have submits : typedDraft.actions.submit = .ok typedRule.actions := by
    apply (ActionList.submit_eq_ok_iff (RuleDraft.issues_eq_nil_iff.1 none).2.2).2
    refine .cons ?_ .nil
    simp [typedDraft, ActionList.submitted, reads]
  have sent : typedDraft.payload = .ok typedRule := by
    rw [RuleDraft.payload_of_no_issues none submits]
    rfl
  have stable := stable_of_sent sent
  exact ⟨sent, (stable.text (by decide) .standard).2 (by decide),
    stable.deep ⟨0, 0, 8⟩ (by decide) (by decide)⟩

end RulePayload

end WorkflowRules
