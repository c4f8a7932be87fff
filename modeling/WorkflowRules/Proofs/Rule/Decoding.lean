import WorkflowRules.Proofs.Action.Decoding
import WorkflowRules.Proofs.Rule.Loading

/-!
What the reader of rules makes of an object whose keys differ: it looks the seven fields up and
decodes each of them. Together with the checks this is what loading does, and of the two parts it
does what their own loaders do.
-/
namespace WorkflowRules.RulePayload

open Json (Decoder Distinct Fields)

variable {limits : Limits} {fields : Fields} {payload : RulePayload} {name : String}

/-! ### Optional fields -/

/-- A text that may be left out or null. -/
def OptionalText (fields : Fields) (name : String) : Prop :=
  ∀ json, fields.lookup name = some json → json = .null ∨ ∃ text, json = .string text

/-- A boolean that may be left out. -/
def OptionalBool (fields : Fields) (name : String) : Prop :=
  ∀ json, fields.lookup name = some json → ∃ value, json = .bool value

theorem exists_optionalText_iff :
    (∃ text, Decoder.string.optional.fromFieldOr fields name none = .ok text) ↔
      OptionalText fields name := by
  rw [Decoder.fromFieldOr, OptionalText]
  cases fields.lookup name with
  | none => simp
  | some json => cases json <;> simp [Decoder.optional, Decoder.string, Except.map]

theorem exists_optionalBool_iff (absent : Bool) :
    (∃ value, Decoder.bool.fromFieldOr fields name absent = .ok value) ↔
      OptionalBool fields name := by
  rw [Decoder.fromFieldOr, OptionalBool]
  cases fields.lookup name with
  | none => simp
  | some json => cases json <;> simp [Decoder.bool]

/-! ### Decoding -/

/-- What the fields of an object say of a rule, apart from its condition and its actions. -/
structure Envelope (fields : Fields) (payload : RulePayload) : Prop where
  name : fields.lookup "name" = some (.string payload.name)
  description : Decoder.string.optional.fromFieldOr fields "description" none =
    .ok payload.description
  isActive : Decoder.bool.fromFieldOr fields "is_active" true = .ok payload.isActive
  scope : Decoder.string.optional.fromFieldOr fields "scope_legal_entity_id" none =
    .ok payload.scope
  triggerEvent : fields.lookup "trigger_event" = some (.string payload.triggerEvent)

/-- The fields of an object, decoded one by one, are those of a rule. -/
structure Decodes (fields : Fields) (payload : RulePayload) : Prop where
  envelope : Envelope fields payload
  condition : ∃ json, fields.lookup RulePart.condition.field = some json ∧
    Condition.ofJson json = .ok payload.condition
  actions : ∃ json, fields.lookup RulePart.actions.field = some json ∧
    Action.decoder.listOf.ofJson json = .ok payload.actions

theorem fromField_condition_eq_ok_iff {condition : Condition} :
    conditionDecoder.fromField fields name = .ok condition ↔
      ∃ json, fields.lookup name = some json ∧ Condition.ofJson json = .ok condition := by
  simp only [Json.fromField_eq_ok, conditionDecoder, Decoder.ofShape, mapError_eq_ok]

theorem ofFields_eq_ok_iff : ofFields fields = .ok payload ↔ Decodes fields payload := by
  simp only [ofFields, bind_eq_ok]
  constructor
  · rintro ⟨name, hasName, description, hasDescription, isActive, hasActive, scope, hasScope,
      triggerEvent, hasEvent, condition, hasCondition, actions, hasActions, same⟩
    cases same
    exact ⟨⟨fromField_string_eq_ok_iff.1 hasName, hasDescription, hasActive, hasScope,
        fromField_string_eq_ok_iff.1 hasEvent⟩,
      fromField_condition_eq_ok_iff.1 hasCondition, Json.fromField_eq_ok.1 hasActions⟩
  · rintro ⟨envelope, condition, actions⟩
    exact ⟨_, fromField_string_eq_ok_iff.2 envelope.name, _, envelope.description, _,
      envelope.isActive, _, envelope.scope, _, fromField_string_eq_ok_iff.2 envelope.triggerEvent,
      _, fromField_condition_eq_ok_iff.2 condition, _, Json.fromField_eq_ok.2 actions, rfl⟩

theorem ofFields_congr {found : Fields}
    (same : ∀ name, record.Knows name → found.lookup name = fields.lookup name) :
    ofFields found = ofFields fields := by
  simp only [ofFields, Json.fromField_congr (same "name" ⟨_, rfl⟩),
    Json.fromFieldOr_congr (same "description" ⟨_, rfl⟩),
    Json.fromFieldOr_congr (same "is_active" ⟨_, rfl⟩),
    Json.fromFieldOr_congr (same "scope_legal_entity_id" ⟨_, rfl⟩),
    Json.fromField_congr (same "trigger_event" ⟨_, rfl⟩),
    Json.fromField_congr (same "condition_json" ⟨_, rfl⟩),
    Json.fromField_congr (same "actions_json" ⟨_, rfl⟩)]

theorem fits_of_ofFields (made : ofFields fields = .ok payload) :
    ∀ field ∈ record.fields, field.Fits [] fields := by
  simp only [ofFields, bind_eq_ok] at made
  obtain ⟨name, hasName, description, hasDescription, isActive, hasActive, scope, hasScope,
    triggerEvent, hasEvent, condition, hasCondition, actions, hasActions, _⟩ := made
  simp [record, Json.fits_field_iff, Json.fits_optionalField_iff none,
    Json.fits_optionalField_iff true, hasName, hasDescription, hasActive, hasScope, hasEvent,
    hasCondition, hasActions]

theorem object_eq_ok_iff (distinct : Distinct fields) :
    decoder.ofJson (.object fields) = .ok payload ↔ Decodes fields payload := by
  have names : (record.fields.map Json.Field.name).Nodup := by
    rw [record_names]
    decide
  rw [← ofFields_eq_ok_iff]
  exact Json.Record.read_object_bind_eq_ok_iff record ofFields names distinct
    (fun found same => ofFields_congr same) fits_of_ofFields

end WorkflowRules.RulePayload
