import WorkflowRules.Proofs.Action.Shape
import WorkflowRules.Proofs.Json.Record

/-!
What the reader of actions makes of an object whose keys differ: it looks the fields of the action's
kind up and decodes them, wherever they stand and whatever else there is.
-/
namespace WorkflowRules

open Json (Decoder Distinct Fields Mismatch)

/-! ### Single values -/

theorem string_eq_ok_iff {json : Json} {text : String} :
    Decoder.string.ofJson json = .ok text ↔ json = .string text := by
  cases json <;> simp [Decoder.string]

theorem exists_string_iff {json : Json} :
    (∃ text, Decoder.string.ofJson json = .ok text) ↔ json.isString = true := by
  cases json <;> simp [Decoder.string, Json.isString]

theorem exists_signedWord_iff {json : Json} :
    (∃ value, Decoder.signedWord.ofJson json = .ok value) ↔ Action.isSignedWord json = true := by
  cases json with
  | number value =>
    cases value with
    | integer value fits =>
      by_cases small : value ≤ Int64.maxValue.toInt <;>
        simp [Decoder.signedWord, Decoder.signedWordOfJson, Action.isSignedWord, small]
    | double value => simp [Decoder.signedWord, Decoder.signedWordOfJson, Action.isSignedWord]
  | null | bool | string | array | object =>
    simp [Decoder.signedWord, Decoder.signedWordOfJson, Action.isSignedWord]

theorem exists_object_iff {json : Json} :
    (∃ value, Decoder.object.ofJson json = .ok value) ↔ Action.isObject json = true := by
  cases json <;> simp [Decoder.object, Action.isObject]

theorem exists_any_iff {json : Json} :
    (∃ value, Decoder.any.ofJson json = .ok value) ↔ true = true :=
  ⟨fun _ => rfl, fun _ => ⟨json.toValue, rfl⟩⟩

theorem signedWord_signedWordJson (value : Int64) :
    Decoder.signedWord.ofJson (signedWordJson value) = .ok value := by
  have small : value.toInt ≤ Int64.maxValue.toInt := value.toInt_le
  simp [Decoder.signedWord, Decoder.signedWordOfJson, signedWordJson, small]

theorem object_json (object : Json.Object) : Decoder.object.ofJson object.json = .ok object := by
  have same : Json.Object.ofFields object.fields = object :=
    Json.Object.ext (Json.object.inj object.ordered)
  simp [Decoder.object, Json.Object.json, same]

theorem any_json (value : Json.Value) : Decoder.any.ofJson value.json = .ok value := by
  simp [Decoder.any, Json.Value.toValue_json]

theorem fromField_string_eq_ok_iff {fields : Fields} {name text : String} :
    Decoder.string.fromField fields name = .ok text ↔ fields.lookup name = some (.string text) := by
  simp [Json.fromField_eq_ok, string_eq_ok_iff]

/-! ### Entities -/

namespace EntityRef

variable {inTagged : Bool} {entity : EntityRef}

/-- The entity of the fields that were read. -/
def ofFields (fields : Fields) : Except Mismatch EntityRef := do
  return ⟨← Decoder.string.fromField fields "entity_type",
    ← Decoder.string.fromField fields "entity_id"⟩

theorem ofFields_eq_ok_iff {fields : Fields} : ofFields fields = .ok entity ↔
    fields.lookup "entity_type" = some (.string entity.entityType) ∧
      fields.lookup "entity_id" = some (.string entity.entityId) := by
  rw [ofFields]
  constructor
  · intro made
    obtain ⟨entityType, hasType, rest⟩ := bind_eq_ok.1 made
    obtain ⟨entityId, hasId, same⟩ := bind_eq_ok.1 rest
    cases same
    exact ⟨fromField_string_eq_ok_iff.1 hasType, fromField_string_eq_ok_iff.1 hasId⟩
  · rintro ⟨hasType, hasId⟩
    rw [fromField_string_eq_ok_iff.2 hasType, fromField_string_eq_ok_iff.2 hasId]
    rfl

theorem object_eq_ok_iff {fields : Fields} (distinct : Distinct fields) :
    (decoder inTagged).ofJson (.object fields) = .ok entity ↔ ofFields fields = .ok entity := by
  have names : ["entity_type", "entity_id"].Nodup := by decide
  refine Json.Record.read_object_bind_eq_ok_iff (record inTagged) ofFields names distinct
    (fun found same => ?_) fun made => ?_
  · simp only [ofFields, Json.fromField_congr (same "entity_type" ⟨_, rfl⟩),
      Json.fromField_congr (same "entity_id" ⟨_, rfl⟩)]
  · obtain ⟨hasType, hasId⟩ := ofFields_eq_ok_iff.1 made
    simp [record, Json.fits_field_iff, fromField_string_eq_ok_iff, hasType, hasId]

-- Fewer items leave a field without an item, and more leave an item without a field.
theorem array_eq_ok_iff {items : List Json} :
    (decoder inTagged).ofJson (.array items) = .ok entity ↔
      items = [.string entity.entityType, .string entity.entityId] := by
  constructor
  · intro decoded
    obtain ⟨found, reads, made⟩ := bind_eq_ok.1 decoded
    obtain ⟨fits, rfl⟩ := Json.Record.zip_of_readItems reads
    obtain ⟨hasType, hasId⟩ := ofFields_eq_ok_iff.1 made
    match items with
    | [] | [_] => simp [record, Decoder.field, Json.lookup_cons] at hasId
    | [entityType, entityId] =>
      obtain rfl : entityType = .string entity.entityType := by
        simpa [record, Decoder.field, Json.lookup_cons] using hasType
      obtain rfl : entityId = .string entity.entityId := by
        simpa [record, Decoder.field, Json.lookup_cons] using hasId
      rfl
    | _ :: _ :: _ :: rest => simp [record] at fits
  · rintro rfl
    rfl

end EntityRef

/-! ### Actions -/

namespace Action

variable {kind : ActionKind} {fields : Fields} {action : Action}

theorem ofFields_congr {found : Fields}
    (same : ∀ name, (body kind).Knows name → found.lookup name = fields.lookup name) :
    ofFields found kind = ofFields fields kind := by
  cases kind with
  | setField =>
    simp only [ofFields, Json.fromField_congr (same "path" ⟨_, rfl⟩),
      Json.fromField_congr (same "value" ⟨_, rfl⟩)]
  | createTask =>
    simp only [ofFields, Json.fromField_congr (same "title" ⟨_, rfl⟩),
      Json.fromField_congr (same "due_in_days" ⟨_, rfl⟩),
      Json.fromField_congr (same "assigned_to_user_id" ⟨_, rfl⟩),
      Json.fromFieldOr_congr (same "entity_ref" ⟨_, rfl⟩)]
  | notify =>
    simp only [ofFields, Json.fromField_congr (same "notification_type" ⟨_, rfl⟩),
      Json.fromField_congr (same "payload" ⟨_, rfl⟩)]

theorem exists_ofFields_iff : (∃ action, ofFields fields kind = .ok action) ↔
    ∀ field ∈ (body kind).fields, field.Fits [] fields := by
  cases kind <;>
    simp [ofFields, body, Json.fits_field_iff, Json.fits_optionalField_iff none,
      exists_bind_eq_ok, -bind_pure_comp, pure, Except.pure]

/-- The fields of an action beside its tag. -/
abbrev untagged (fields : Fields) : Fields :=
  fields.filter (·.1 != "type")

theorem lookup_untagged {name : String} (differs : name ≠ "type") :
    (untagged fields).lookup name = fields.lookup name := by
  induction fields with
  | nil => rfl
  | cons first rest ih =>
    obtain ⟨key, json⟩ := first
    by_cases tag : key = "type"
    · subst tag
      rw [Json.lookup_cons, if_neg differs, ← ih]
      rfl
    · have kept : untagged ((key, json) :: rest) = (key, json) :: untagged rest := by
        simp [untagged, tag]
      rw [kept, Json.lookup_cons, Json.lookup_cons, ih]

theorem distinct_untagged (distinct : Distinct fields) : Distinct (untagged fields) :=
  List.Nodup.sublist (List.filter_sublist.map Prod.fst) distinct

theorem ne_type_of_knows {name : String} (known : (body kind).Knows name) : name ≠ "type" := by
  rintro rfl
  obtain ⟨field, found⟩ := known
  cases kind <;> cases found

theorem ofFields_untagged : ofFields (untagged fields) kind = ofFields fields kind :=
  ofFields_congr fun _ known => lookup_untagged (ne_type_of_knows known)

theorem body_eq_ok_iff (distinct : Distinct fields) :
    ofBody kind (.object fields) = .ok action ↔ ofFields fields kind = .ok action := by
  have names : ((body kind).fields.map Json.Field.name).Nodup := by
    cases kind <;> simp [body, Decoder.field, Decoder.optionalField]
  exact Json.Record.read_object_bind_eq_ok_iff (body kind) (ofFields · kind) names distinct
    (fun found same => ofFields_congr same) fun made => exists_ofFields_iff.1 ⟨action, made⟩

theorem tag_injective {other : ActionKind} (same : kind.tag = other.tag) : kind = other := by
  revert same
  cases kind <;> cases other <;> decide

theorem kindOfJson_eq_ok_iff {json : Json} :
    kindOfJson json = .ok kind ↔ json = .string kind.tag := by
  cases json with
  | string text =>
    rw [kindOfJson, kindOfTag, Json.string.injEq, ← ofTag?_eq_some_iff]
    cases ActionKind.ofTag? text <;> simp
  | null | bool | number | array | object => simp [kindOfJson]

theorem object_eq_ok_iff (distinct : Distinct fields) : ofJson (.object fields) = .ok action ↔
    ∃ kind, fields.lookup "type" = some (.string kind.tag) ∧ ofFields fields kind = .ok action := by
  cases named : fields.lookup "type" with
  | none => simp [ofJson, named]
  | some tag =>
    simp only [ofJson, named, bind_eq_ok, kindOfJson_eq_ok_iff, Option.some.injEq,
      body_eq_ok_iff (distinct_untagged distinct), ofFields_untagged]

end Action

end WorkflowRules
