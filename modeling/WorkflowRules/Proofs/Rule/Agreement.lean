import WorkflowRules.Proofs.Condition.Agreement
import WorkflowRules.Proofs.Loading
import WorkflowRules.Proofs.Rule.Decoding

/-!
Loading a rule agrees with loading its parts. The rule's loader takes the steps of the other two in
an order of its own, both checks before anything is read and the normalization after everything,
but it accepts what they accept and makes of it what they make.
-/
namespace WorkflowRules

theorem Condition.loadFrom_eq_ok_iff_check {limits : Limits} {json : Json} {condition : Condition} :
    loadFrom limits json = .ok condition ↔ checkShape limits.acceptedDepth json = .ok () ∧
      ∃ read, ofJson json = .ok read ∧ read.normalize = condition := by
  rw [loadFrom, check_bind_eq_ok, bind_eq_ok]
  simp [pure, Except.pure]

theorem Action.loadListFrom_eq_ok_iff {json : Json} {actions : List Action} :
    loadListFrom json = .ok actions ↔
      checkListShape json = .ok () ∧ decoder.listOf.ofJson json = .ok actions := by
  rw [loadListFrom, check_bind_eq_ok, mapError_eq_ok, mapError_eq_ok]

namespace RulePayload

open Json (Decoder Distinct Fields)

variable {limits : Limits} {fields : Fields} {payload : RulePayload} {json : Json}

theorem loadFrom_eq_ok_iff : loadFrom limits json = .ok payload ↔
    checkParts limits json = .ok () ∧
      ∃ raw, decoder.ofJson json = .ok raw ∧
        { raw with condition := raw.condition.normalize } = payload := by
  rw [loadFrom, check_bind_eq_ok, bind_eq_ok]
  simp [mapError_eq_ok, pure, Except.pure]

/-- An object describes a rule. The parts of the rule are what their own loaders make of those of
the object. -/
structure Describes (limits : Limits) (fields : Fields) (payload : RulePayload) : Prop where
  envelope : Envelope fields payload
  condition : ∃ json, fields.lookup RulePart.condition.field = some json ∧
    Condition.loadFrom limits json = .ok payload.condition
  actions : ∃ json, fields.lookup RulePart.actions.field = some json ∧
    Action.loadListFrom json = .ok payload.actions

-- A condition is normalized after all has been decoded or right after it was read, to the same end.
theorem loadFrom_object_eq_ok_iff (distinct : Distinct fields) :
    loadFrom limits (.object fields) = .ok payload ↔ Describes limits fields payload := by
  simp only [loadFrom_eq_ok_iff, object_eq_ok_iff distinct]
  constructor
  · rintro ⟨checked, raw, decodes, rfl⟩
    obtain ⟨condition, hasCondition, readCondition⟩ := decodes.condition
    obtain ⟨actions, hasActions, readActions⟩ := decodes.actions
    obtain ⟨conditionPasses, actionsPass⟩ :=
      (checkParts_object_eq_ok_iff hasCondition hasActions).1 checked
    constructor
    case envelope =>
      obtain ⟨name, description, isActive, scope, triggerEvent⟩ := decodes.envelope
      exact ⟨name, description, isActive, scope, triggerEvent⟩
    case condition =>
      exact ⟨condition, hasCondition,
        Condition.loadFrom_eq_ok_iff_check.2 ⟨conditionPasses, raw.condition, readCondition, rfl⟩⟩
    case actions =>
      exact ⟨actions, hasActions, Action.loadListFrom_eq_ok_iff.2 ⟨actionsPass, readActions⟩⟩
  · rintro ⟨envelope, ⟨condition, hasCondition, loadsCondition⟩, actions, hasActions, loadsActions⟩
    obtain ⟨conditionPasses, read, readCondition, same⟩ :=
      Condition.loadFrom_eq_ok_iff_check.1 loadsCondition
    obtain ⟨actionsPass, readActions⟩ := Action.loadListFrom_eq_ok_iff.1 loadsActions
    have checked := (checkParts_object_eq_ok_iff hasCondition hasActions).2
      ⟨conditionPasses, actionsPass⟩
    refine ⟨checked, { payload with condition := read }, ?_, by rw [same]⟩
    obtain ⟨name, description, isActive, scope, triggerEvent⟩ := envelope
    exact ⟨⟨name, description, isActive, scope, triggerEvent⟩,
      ⟨condition, hasCondition, readCondition⟩, actions, hasActions, readActions⟩

/-- An object can be loaded as a rule. It has both parts, each as its own loader accepts it, and its
other fields are of their types. -/
structure Loadable (limits : Limits) (fields : Fields) : Prop where
  condition : ∃ json condition, fields.lookup RulePart.condition.field = some json ∧
    Condition.loadFrom limits json = .ok condition
  actions : ∃ json actions, fields.lookup RulePart.actions.field = some json ∧
    Action.loadListFrom json = .ok actions
  name : ∃ text, fields.lookup "name" = some (.string text)
  triggerEvent : ∃ text, fields.lookup "trigger_event" = some (.string text)
  isActive : OptionalBool fields "is_active"
  description : OptionalText fields "description"
  scope : OptionalText fields "scope_legal_entity_id"

theorem exists_describes_iff :
    (∃ payload, Describes limits fields payload) ↔ Loadable limits fields := by
  constructor
  · rintro ⟨payload, envelope, ⟨condition, hasCondition, loadsCondition⟩, actions, hasActions,
      loadsActions⟩
    constructor
    case condition => exact ⟨condition, _, hasCondition, loadsCondition⟩
    case actions => exact ⟨actions, _, hasActions, loadsActions⟩
    case name => exact ⟨_, envelope.name⟩
    case triggerEvent => exact ⟨_, envelope.triggerEvent⟩
    case isActive => exact (exists_optionalBool_iff true).1 ⟨_, envelope.isActive⟩
    case description => exact exists_optionalText_iff.1 ⟨_, envelope.description⟩
    case scope => exact exists_optionalText_iff.1 ⟨_, envelope.scope⟩
  · intro loadable
    obtain ⟨conditionJson, condition, hasCondition, loadsCondition⟩ := loadable.condition
    obtain ⟨actionsJson, actions, hasActions, loadsActions⟩ := loadable.actions
    obtain ⟨name, hasName⟩ := loadable.name
    obtain ⟨triggerEvent, hasEvent⟩ := loadable.triggerEvent
    obtain ⟨isActive, hasActive⟩ := (exists_optionalBool_iff true).2 loadable.isActive
    obtain ⟨description, hasDescription⟩ := exists_optionalText_iff.2 loadable.description
    obtain ⟨scope, hasScope⟩ := exists_optionalText_iff.2 loadable.scope
    exact ⟨⟨name, description, isActive, scope, triggerEvent, condition, actions⟩,
      ⟨hasName, hasDescription, hasActive, hasScope, hasEvent⟩,
      ⟨conditionJson, hasCondition, loadsCondition⟩, actionsJson, hasActions, loadsActions⟩

/-! ### Errors of the parts -/

theorem loadFrom_of_condition_error {error : ShapeError}
    (has : fields.lookup RulePart.condition.field = some json)
    (fails : Condition.checkShape limits.acceptedDepth json = .error error) :
    loadFrom limits (.object fields) = .error (.partShape .condition error) := by
  simp only [loadFrom, checkParts, has, fails]
  rfl

-- The actions are looked at only if the condition was not in the way.
theorem loadFrom_of_actions_error {error : ShapeError}
    (passes : ∀ condition, fields.lookup RulePart.condition.field = some condition →
      Condition.checkShape limits.acceptedDepth condition = .ok ())
    (has : fields.lookup RulePart.actions.field = some json)
    (fails : Action.checkListShape json = .error error) :
    loadFrom limits (.object fields) = .error (.partShape .actions error) := by
  cases found : fields.lookup RulePart.condition.field with
  | none =>
    simp only [loadFrom, checkParts, found, has, fails]
    rfl
  | some condition =>
    simp only [loadFrom, checkParts, found, has, fails, passes condition found]
    rfl

/-! ### Texts of objects -/

section Texts

variable {text : String} {value : Json.Value} (parsed : loadJson text = .ok value)
  (object : value.json = .object fields)

include parsed object

theorem load_eq_loadFrom : load limits text = loadFrom limits (.object fields) := by
  rw [load, parsed, ← object]
  rfl

theorem load_eq_ok_iff_describes :
    load limits text = .ok payload ↔ Describes limits fields payload := by
  have ordered : (Json.object fields).canonical = .object fields := object ▸ value.ordered
  rw [load_eq_loadFrom parsed object]
  exact loadFrom_object_eq_ok_iff (Json.distinct_of_canonical ordered)

end Texts

/-- What loading the text of an object has to do with loading the parts of the object. -/
structure PartsAgree (limits : Limits) (text : String) (fields : Fields) : Prop where
  success : (∃ payload, load limits text = .ok payload) ↔ Loadable limits fields
  exact : ∀ payload, load limits text = .ok payload ↔ Describes limits fields payload
  /-- Whatever else is amiss, the shape of the condition is reported first, -/
  conditionError : ∀ json error, fields.lookup RulePart.condition.field = some json →
    Condition.checkShape limits.acceptedDepth json = .error error →
    ∃ cause, load limits text = .error cause ∧
      cause.message = "Malformed input: condition_json: " ++ error.message
  /-- and then the shape of the actions. -/
  actionsError : ∀ json error, (∀ condition,
      fields.lookup RulePart.condition.field = some condition →
        Condition.checkShape limits.acceptedDepth condition = .ok ()) →
    fields.lookup RulePart.actions.field = some json →
    Action.checkListShape json = .error error →
    ∃ cause, load limits text = .error cause ∧
      cause.message = "Malformed input: actions_json: " ++ error.message

/-- A rule is loaded exactly when its parts are and its other fields are of their types, and then
its parts are what their own loaders make of them. -/
theorem load_agrees_with_parts {text : String} {value : Json.Value} {fields : Fields}
    (parsed : loadJson text = .ok value) (object : value.json = .object fields)
    (limits : Limits) : PartsAgree limits text fields := by
  have loads : load limits text = loadFrom limits (.object fields) := load_eq_loadFrom parsed object
  constructor
  case success =>
    rw [← exists_describes_iff]
    exact exists_congr fun _ => load_eq_ok_iff_describes parsed object
  case exact => exact fun _ => load_eq_ok_iff_describes parsed object
  case conditionError =>
    intro json error has fails
    exact ⟨_, loads.trans (loadFrom_of_condition_error has fails), rfl⟩
  case actionsError =>
    intro json error passes has fails
    exact ⟨_, loads.trans (loadFrom_of_actions_error passes has fails), rfl⟩

/-- A rule with an empty group and without actions, some fields left out and one null. -/
def sparseRule : Json :=
  .object [("name", .string "r"), ("trigger_event", .string "e"), ("description", .null),
    ("condition_json", .object [("any", .array [])]), ("actions_json", .array [])]

/-- Something that lacks all that a rule needs but an action, which lacks its kind. -/
def faultyRule : Json :=
  .object [("actions_json", .array [.object []])]

theorem sparseRule_agrees :
    load .standard sparseRule.pretty =
      .ok ⟨"r", none, true, none, "e", .group .any [.freshLeaf], []⟩ ∧
    ∃ cause, load .standard faultyRule.pretty = .error cause ∧
      cause.message = "Malformed input: actions_json: $[0]: missing required field 'type'" := by
  have sparseParsed : loadJson sparseRule.pretty = .ok sparseRule.toValue :=
    loadJson_pretty (by decide)
  have faultyParsed : loadJson faultyRule.pretty = .ok faultyRule.toValue :=
    loadJson_pretty (by decide)
  have sparse := load_agrees_with_parts sparseParsed rfl .standard
  have faulty := load_agrees_with_parts faultyParsed rfl .standard
  constructor
  · refine (sparse.exact _).2 ⟨⟨?_, ?_, ?_, ?_, ?_⟩,
      ⟨(Json.object [("any", .array [])]).canonical, ?_, rfl⟩,
      ⟨(Json.array []).canonical, ?_, rfl⟩⟩
    all_goals
      simp [Decoder.fromFieldOr, Decoder.optional, Json.lookup_canonical, Json.lookup_cons,
        RulePart.field, Json.canonical]
  · refine faulty.actionsError (Json.array [.object []]).canonical ⟨"$[0]", .missingField "type"⟩
      ?_ ?_ rfl
    all_goals simp [Json.lookup_canonical, Json.lookup_cons, RulePart.field]

end RulePayload

end WorkflowRules
