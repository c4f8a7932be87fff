import WorkflowRules.Loading
import WorkflowRules.Proofs.Action.Decoding

/-!
Check and reader of actions agree, but for the entity of a task, which only the reader looks at. A
list of actions is therefore loaded exactly when every element passes the check and a task names its
entity, if it names one, in one of the two forms of an entity.
-/
namespace WorkflowRules

open Json (Decoder Fields)

/-- The two texts of an entity, by name in an object or alone in an array. -/
def NamesEntity : Json → Prop
  | .object fields =>
    (∃ entityType, fields.lookup "entity_type" = some (.string entityType)) ∧
      ∃ entityId, fields.lookup "entity_id" = some (.string entityId)
  | .array items => ∃ entityType entityId, items = [.string entityType, .string entityId]
  | _ => False

theorem EntityRef.exists_eq_ok_iff (inTagged : Bool) {json : Json}
    (ordered : json.canonical = json) :
    (∃ entity, (decoder inTagged).ofJson json = .ok entity) ↔ NamesEntity json := by
  cases json with
  | object fields =>
    simp only [object_eq_ok_iff (Json.distinct_of_canonical ordered), ofFields_eq_ok_iff]
    constructor
    · rintro ⟨entity, hasType, hasId⟩
      exact ⟨⟨_, hasType⟩, _, hasId⟩
    · rintro ⟨⟨entityType, hasType⟩, entityId, hasId⟩
      exact ⟨⟨entityType, entityId⟩, hasType, hasId⟩
  | array items =>
    simp only [array_eq_ok_iff]
    constructor
    · rintro ⟨entity, same⟩
      exact ⟨_, _, same⟩
    · rintro ⟨entityType, entityId, same⟩
      exact ⟨⟨entityType, entityId⟩, same⟩
  | null | bool | number | string =>
    refine ⟨?_, False.elim⟩
    rintro ⟨_, ⟨⟩⟩

namespace Action

variable {location : String} {fields : Fields} {kind : ActionKind}

theorem exists_entityDecoder_iff {json : Json} (ordered : json.canonical = json) :
    (∃ entity, entityDecoder.ofJson json = .ok entity) ↔ json = .null ∨ NamesEntity json := by
  rw [← EntityRef.exists_eq_ok_iff true ordered]
  cases json with
  | null => exact ⟨fun _ => .inl rfl, fun _ => ⟨none, rfl⟩⟩
  | bool | number | string | array | object =>
    simp [entityDecoder, Decoder.optional, map_eq_ok]

theorem fits_field_iff_of_accepts {α : Type} {decoder : Decoder α} {accepts : Json → Bool}
    (exact : ∀ json, (∃ value, decoder.ofJson json = .ok value) ↔ accepts json = true)
    (name : String) : (decoder.field name).Fits [] fields ↔
      ∃ json, fields.lookup name = some json ∧ accepts json = true := by
  simp only [Json.fits_field_iff, Json.fromField_eq_ok, ← exact]
  constructor
  · rintro ⟨value, json, found, reads⟩
    exact ⟨json, found, value, reads⟩
  · rintro ⟨json, found, value, reads⟩
    exact ⟨value, json, found, reads⟩

/-- The entity of a task may be left out or null. -/
def EntityFits (fields : Fields) : Prop :=
  ∀ entity, fields.lookup "entity_ref" = some entity → entity = .null ∨ NamesEntity entity

theorem fits_entity_iff (ordered : (Json.object fields).canonical = .object fields) :
    (entityDecoder.optionalField "entity_ref").Fits [] fields ↔ EntityFits fields := by
  rw [Json.fits_optionalField_iff none, Decoder.fromFieldOr, EntityFits]
  cases found : fields.lookup "entity_ref" with
  | none => simp
  | some entity =>
    rw [exists_entityDecoder_iff (Json.canonical_of_lookup ordered found)]
    simp

-- Of the fields that the reader decodes, the check looks at all but one.
theorem exists_ofFields_iff_hasFields (ordered : (Json.object fields).canonical = .object fields) :
    (∃ action, ofFields fields kind = .ok action) ↔
      HasFields fields kind ∧ (kind = .createTask → EntityFits fields) := by
  have texts (name : String) : (Decoder.string.field name).Fits [] fields ↔ _ :=
    fits_field_iff_of_accepts (fun _ => exists_string_iff) name
  have words (name : String) : (Decoder.signedWord.field name).Fits [] fields ↔ _ :=
    fits_field_iff_of_accepts (fun _ => exists_signedWord_iff) name
  have objects (name : String) : (Decoder.object.field name).Fits [] fields ↔ _ :=
    fits_field_iff_of_accepts (fun _ => exists_object_iff) name
  have values (name : String) : (Decoder.any.field name).Fits [] fields ↔ _ :=
    fits_field_iff_of_accepts (fun _ => exists_any_iff) name
  rw [exists_ofFields_iff]
  cases kind <;>
    simp [body, HasFields, wanted, texts, words, objects, values, fits_entity_iff ordered,
      and_assoc]

/-- What the check does not look at: the entity of a task. -/
def EntitySound : Json → Prop
  | .object fields => fields.lookup "type" = some (.string "CREATE_TASK") → EntityFits fields
  | _ => True

/-- What passes the check, here or anywhere, with its entity sound. -/
def Acceptable (location : String) (json : Json) : Prop :=
  checkShape location json = .ok () ∧ EntitySound json

theorem acceptable_iff {json : Json} (ordered : json.canonical = json) :
    Acceptable location json ↔
      (∃ fields, json = .object fields) ∧ ∃ action, ofJson json = .ok action := by
  rw [Acceptable, checkShape_eq_ok_iff]
  cases json with
  | object fields =>
    simp only [object_eq_ok_iff (Json.distinct_of_canonical ordered)]
    constructor
    · rintro ⟨⟨_, kind, ⟨⟩, named, has⟩, sound⟩
      have task : kind = .createTask → EntityFits fields := by
        rintro rfl
        exact sound named
      obtain ⟨action, made⟩ := (exists_ofFields_iff_hasFields ordered).2 ⟨has, task⟩
      exact ⟨⟨fields, rfl⟩, action, kind, named, made⟩
    · rintro ⟨_, action, kind, named, made⟩
      obtain ⟨has, task⟩ := (exists_ofFields_iff_hasFields ordered).1 ⟨action, made⟩
      refine ⟨⟨fields, kind, rfl, named, has⟩, fun isTask => task ?_⟩
      have same := Option.some.inj (named.symm.trans isTask)
      exact tag_injective (Json.string.inj same)
  | null | bool | number | string | array =>
    refine ⟨?_, ?_⟩
    · rintro ⟨⟨_, _, ⟨⟩, _⟩, _⟩
    · rintro ⟨⟨_, ⟨⟩⟩, _⟩

theorem exists_loadListFrom_iff {json : Json} (ordered : json.canonical = json)
    (location : String) : (∃ actions, loadListFrom json = .ok actions) ↔
      ∃ items, json = .array items ∧ ∀ item ∈ items, Acceptable location item := by
  have steps : (∃ actions, loadListFrom json = .ok actions) ↔
      checkListShape json = .ok () ∧ ∃ actions, decoder.listOf.ofJson json = .ok actions := by
    simp only [loadListFrom, check_bind_eq_ok, mapError_eq_ok, exists_and_left]
  rw [steps, checkListShape_eq_ok_iff]
  constructor
  · rintro ⟨⟨items, rfl, shaped⟩, decoded⟩
    refine ⟨items, rfl, fun item mem => ?_⟩
    obtain ⟨fields, _, same, _⟩ := hasShape_iff.1 (shaped item mem)
    exact (acceptable_iff (Json.canonical_of_mem ordered mem)).2
      ⟨⟨fields, same⟩, exists_mapM_eq_ok_iff.1 decoded item mem⟩
  · rintro ⟨items, rfl, each⟩
    refine ⟨⟨items, rfl, fun item mem => ?_⟩, exists_mapM_eq_ok_iff.2 fun item mem => ?_⟩
    · exact hasShape_iff.2 (checkShape_eq_ok_iff.1 (each item mem).1)
    · exact ((acceptable_iff (Json.canonical_of_mem ordered mem)).1 (each item mem)).2

theorem exists_loadList_iff (text location : String) : (∃ actions, loadList text = .ok actions) ↔
    ∃ value items, loadJson text = .ok value ∧ value.json = .array items ∧
      ∀ item ∈ items, Acceptable location item := by
  simp only [loadList, exists_bind_eq_ok, exists_and_left]
  exact exists_congr fun value =>
    and_congr_right fun _ => exists_loadListFrom_iff value.ordered location

/-- Check and reader agree about every value that a text can have, at every location, and a text is
loaded exactly when they accept its elements. -/
theorem check_agrees_with_decoder :
    (∀ location (value : Json.Value), Acceptable location value.json ↔
      (∃ fields, value.json = .object fields) ∧ ∃ action, ofJson value.json = .ok action) ∧
    ∀ text location, (∃ actions, loadList text = .ok actions) ↔
      ∃ value items, loadJson text = .ok value ∧ value.json = .array items ∧
        ∀ item ∈ items, Acceptable location item :=
  ⟨fun _ value => acceptable_iff value.ordered, exists_loadList_iff⟩

/-- A task with this entity. -/
def taskOn (entity : Json) : Json :=
  .object [("type", .string "CREATE_TASK"), ("title", .string "call"),
    ("due_in_days", signedWordJson 1), ("assigned_to_user_id", .string "u"), ("entity_ref", entity)]

theorem entitySound_taskOn {entity : Json} : EntitySound (taskOn entity).toValue.json ↔
    entity.canonical = .null ∨ NamesEntity entity.canonical := by
  simp [EntitySound, EntityFits, taskOn, Json.toValue, Json.canonical, Json.lookup_canonical,
    Json.lookup_cons]

theorem tasks_agree :
    (∃ action, ofJson (taskOn (.array [.string "account", .string "7"])).toValue.json =
      .ok action) ∧
    checkShape "$" (taskOn (.string "account")).toValue.json = .ok () ∧
      ¬∃ action, ofJson (taskOn (.string "account")).toValue.json = .ok action := by
  have agrees (entity : Json) := check_agrees_with_decoder.1 "$" (taskOn entity).toValue
  have paired : EntitySound (taskOn (.array [.string "account", .string "7"])).toValue.json :=
    entitySound_taskOn.2 (.inr ⟨_, _, rfl⟩)
  refine ⟨((agrees _).1 ⟨by decide +kernel, paired⟩).2, by decide +kernel, fun reads => ?_⟩
  rcases entitySound_taskOn.1 ((agrees _).2 ⟨⟨_, rfl⟩, reads⟩).2 with null | named
  · cases null
  · exact named

end Action

end WorkflowRules
