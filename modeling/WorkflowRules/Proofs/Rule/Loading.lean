import WorkflowRules.Loading
import WorkflowRules.Proofs.Action.Shape
import WorkflowRules.Proofs.Condition.Shape
import WorkflowRules.Proofs.Json.Record

/-!
Loading a rule. Its condition and its actions are looked up twice, by name for the checks of
their shapes and by the record for decoding, and a record may also be an array, in which nothing
has a name. What is loaded of an array is within the limits only if its parts happen to be.
-/
namespace WorkflowRules.RulePayload

/-- The parts of a rule that have shapes of their own. -/
structure Parts where
  condition : Json
  actions : Json

/-- The parts are found by name in an object, and by place in an array of all the fields. -/
def parts? : Json → Option Parts
  | .object fields => do
    return ⟨← fields.lookup RulePart.condition.field, ← fields.lookup RulePart.actions.field⟩
  | .array [_, _, _, _, _, condition, actions] => some ⟨condition, actions⟩
  | _ => none

/-- Both parts pass the checks that are meant for them. -/
structure Parts.Pass (limits : Limits) (parts : Parts) : Prop where
  condition : Condition.checkShape limits.acceptedDepth parts.condition = .ok ()
  actions : Action.checkListShape parts.actions = .ok ()

/-- A rule is made of these parts. -/
structure Parts.Make (parts : Parts) (payload : RulePayload) : Prop where
  condition : Condition.ofJson parts.condition = .ok payload.condition
  actions : Action.decoder.listOf.ofJson parts.actions = .ok payload.actions

/-- What the checks are for: the condition is not too deep and without empty groups, and the
actions were written as objects that have the shapes of actions. -/
structure Within (limits : Limits) (parts : Parts) (payload : RulePayload) : Prop where
  depth : payload.condition.depth ≤ limits.acceptedDepth
  filled : payload.condition.Filled
  shaped : ∃ items, parts.actions = .array items ∧ ∀ item ∈ items, Action.hasShape item = true

variable {limits : Limits} {parts : Parts} {payload : RulePayload} {json : Json}

theorem parts_of_ofFields {fields : Json.Fields} (made : ofFields fields = .ok payload) :
    ∃ parts : Parts, fields.lookup RulePart.condition.field = some parts.condition ∧
      fields.lookup RulePart.actions.field = some parts.actions ∧ parts.Make payload := by
  simp only [ofFields, bind_eq_ok] at made
  obtain ⟨name, _, description, _, isActive, _, scope, _, triggerEvent, _, condition, ofCondition,
    actions, ofActions, same⟩ := made
  cases same
  obtain ⟨conditionJson, hasCondition, readCondition⟩ := Json.fromField_eq_ok.1 ofCondition
  obtain ⟨actionsJson, hasActions, readActions⟩ := Json.fromField_eq_ok.1 ofActions
  exact ⟨⟨conditionJson, actionsJson⟩, hasCondition, hasActions,
    ⟨mapError_eq_ok.1 readCondition, readActions⟩⟩

theorem record_knows (part : RulePart) : record.Knows part.field := by
  cases part <;> exact ⟨_, rfl⟩

theorem record_names : record.fields.map Json.Field.name =
    ["name", "description", "is_active", "scope_legal_entity_id", "trigger_event",
      "condition_json", "actions_json"] :=
  rfl

-- An array in which the actions are found has all the fields.
theorem parts?_array {items : List Json} (fits : items.length ≤ record.fields.length)
    (condition : ((record.fields.map Json.Field.name).zip items).lookup RulePart.condition.field =
      some parts.condition)
    (actions : ((record.fields.map Json.Field.name).zip items).lookup RulePart.actions.field =
      some parts.actions) : parts? (.array items) = some parts := by
  rw [record_names] at condition actions
  -- With fewer items the actions are missing, and more than there are fields are refused.
  match items with
  | [] | [_] | [_, _] | [_, _, _] | [_, _, _, _] | [_, _, _, _, _] | [_, _, _, _, _, _] =>
    simp [RulePart.field, Json.lookup_cons] at actions
  | [_, _, _, _, _, conditionItem, actionsItem] =>
    obtain rfl : conditionItem = parts.condition := by
      simpa [RulePart.field, Json.lookup_cons] using condition
    obtain rfl : actionsItem = parts.actions := by
      simpa [RulePart.field, Json.lookup_cons] using actions
    rfl
  | _ :: _ :: _ :: _ :: _ :: _ :: _ :: _ :: rest =>
    have few : rest.length + 8 ≤ 7 := fits
    omega

theorem parts_of_ofJson (decoded : decoder.ofJson json = .ok payload) :
    ∃ parts, parts? json = some parts ∧ parts.Make payload := by
  obtain ⟨found, reads, made⟩ := bind_eq_ok.1 decoded
  obtain ⟨parts, hasCondition, hasActions, make⟩ := parts_of_ofFields made
  refine ⟨parts, ?_, make⟩
  cases json with
  | object fields =>
    rw [Json.Record.lookup_of_read (record_knows .condition) reads] at hasCondition
    rw [Json.Record.lookup_of_read (record_knows .actions) reads] at hasActions
    rw [parts?, hasCondition, hasActions]
    rfl
  | array items =>
    obtain ⟨fits, rfl⟩ := Json.Record.zip_of_readItems reads
    exact parts?_array fits hasCondition hasActions
  | null | bool | number | string => cases reads

theorem checkParts_object_eq_ok_iff {fields : Json.Fields} {condition actions : Json}
    (hasCondition : fields.lookup RulePart.condition.field = some condition)
    (hasActions : fields.lookup RulePart.actions.field = some actions) :
    checkParts limits (.object fields) = .ok () ↔
      Condition.checkShape limits.acceptedDepth condition = .ok () ∧
        Action.checkListShape actions = .ok () := by
  simp only [checkParts, hasCondition, hasActions, check_bind_eq_ok, mapError_eq_ok]

theorem checkParts_eq_ok_iff {fields : Json.Fields} (found : parts? (.object fields) = some parts) :
    checkParts limits (.object fields) = .ok () ↔ parts.Pass limits := by
  obtain ⟨condition, hasCondition, rest⟩ := Option.bind_eq_some_iff.1 found
  obtain ⟨actions, hasActions, same⟩ := Option.bind_eq_some_iff.1 rest
  cases same
  rw [checkParts_object_eq_ok_iff hasCondition hasActions]
  constructor
  · rintro ⟨conditionPasses, actionsPass⟩
    exact ⟨conditionPasses, actionsPass⟩
  · intro pass
    exact ⟨pass.condition, pass.actions⟩

-- Normalizing does not change the depth, so the check speaks about what is loaded.
theorem within_iff_pass (make : parts.Make payload) :
    Within limits parts { payload with condition := payload.condition.normalize } ↔
      parts.Pass limits := by
  have depth : Condition.checkShape limits.acceptedDepth parts.condition = .ok () ↔
      payload.condition.normalize.depth ≤ limits.acceptedDepth := by
    rw [Condition.depth_normalize, Condition.checkShape_eq_ok_iff make.condition]
  constructor
  · intro within
    exact ⟨depth.2 within.depth, Action.checkListShape_eq_ok_iff.2 within.shaped⟩
  · intro pass
    exact ⟨depth.1 pass.condition, Condition.filled_normalize payload.condition,
      Action.checkListShape_eq_ok_iff.1 pass.actions⟩

/-- A rule is loaded within the limits exactly when it was written as an object, whose parts are
checked, or its parts would have passed. -/
theorem load_within_iff {text : String} (loaded : load limits text = .ok payload) :
    ∃ value parts, loadJson text = .ok value ∧ parts? value.json = some parts ∧
      payload.condition.Filled ∧
      (Within limits parts payload ↔
        (∃ fields, value.json = .object fields) ∨ parts.Pass limits) := by
  obtain ⟨value, parsed, rest⟩ := bind_eq_ok.1 loaded
  obtain ⟨checked, decodes⟩ := check_bind_eq_ok.1 rest
  obtain ⟨raw, decoded, same⟩ := bind_eq_ok.1 decodes
  cases same
  obtain ⟨parts, found, make⟩ := parts_of_ofJson (mapError_eq_ok.1 decoded)
  refine ⟨value, parts, parsed, found, Condition.filled_normalize raw.condition, ?_⟩
  rw [within_iff_pass make]
  -- Of an array nothing has been checked, so nothing is known but what its parts are.
  constructor
  · exact .inr
  · rintro (⟨fields, object⟩ | pass)
    · rw [object] at found checked
      exact (checkParts_eq_ok_iff found).1 checked
    · exact pass

/-- A rule with one action, as an object. -/
def objectText : String :=
  "\x7b\"name\":\"r\",\"trigger_event\":\"e\"," ++
    "\"condition_json\":\x7b\"path\":\"p\",\"op\":\"exists\"\x7d," ++
    "\"actions_json\":[\x7b\"type\":\"SET_FIELD\",\"path\":\"p\",\"value\":1\x7d]\x7d"

/-- A rule whose condition has five levels, as an array. -/
def deepArrayText : String :=
  "[\"r\",null,true,null,\"e\"," ++
    "\x7b\"not\":\x7b\"not\":\x7b\"not\":\x7b\"not\":\x7b\"not\":" ++
      "\x7b\"path\":\"p\",\"op\":\"exists\"\x7d\x7d\x7d\x7d\x7d\x7d,[]]"

theorem objectText_within : ∃ value parts payload, loadJson objectText = .ok value ∧
    parts? value.json = some parts ∧ load .standard objectText = .ok payload ∧
      Within .standard parts payload := by
  have loads : (loadJson objectText).toOption.any (fun value =>
      Action.isObject value.json && (loadFrom .standard value.json).isOk) = true := by
    decide +kernel
  cases parsed : loadJson objectText with
  | error cause =>
    rw [parsed] at loads
    cases loads
  | ok value =>
    rw [parsed] at loads
    obtain ⟨isObject, succeeds⟩ := Bool.and_eq_true_iff.1 loads
    cases loaded : load .standard objectText with
    | error cause =>
      rw [load, parsed] at loaded
      change loadFrom .standard value.json = .error cause at loaded
      rw [loaded] at succeeds
      cases succeeds
    | ok payload =>
      obtain ⟨same, parts, alsoParsed, found, _, within⟩ := load_within_iff loaded
      cases parsed.symm.trans alsoParsed
      exact ⟨value, parts, payload, rfl, found, rfl,
        within.2 (.inl (Action.isObject_iff.1 isObject))⟩

theorem deepArrayText_exceeds : ∃ payload, load .standard deepArrayText = .ok payload ∧
    Limits.standard.acceptedDepth < payload.condition.depth := by
  have deep : (load .standard deepArrayText).toOption.any
      (fun payload => Limits.standard.acceptedDepth < payload.condition.depth) = true := by
    decide +kernel
  cases loaded : load .standard deepArrayText with
  | error cause =>
    rw [loaded] at deep
    cases deep
  | ok payload =>
    rw [loaded] at deep
    exact ⟨payload, rfl, of_decide_eq_true deep⟩

end WorkflowRules.RulePayload
