import WorkflowRules.Proofs.Action.RoundTrip
import WorkflowRules.Proofs.Json.Nesting

/-!
How deep the form of actions nests that were loaded from a text: no deeper than the text. The values
in an action keep their levels, and an entity is written with as many as it was read with.
-/
namespace WorkflowRules

open Json (Decoder Fields)

variable {json : Json}

theorem nesting_of_any {value : Json.Value} (reads : Decoder.any.ofJson json = .ok value) :
    value.json.nesting ≤ json.nesting := by
  cases reads
  exact Json.nesting_canonical_le json

theorem nesting_of_object {object : Json.Object} (reads : Decoder.object.ofJson json = .ok object) :
    object.json.nesting ≤ json.nesting := by
  cases json with
  | object fields =>
    cases reads
    exact Json.nesting_canonical_le (.object fields)
  | null | bool | number | string | array => cases reads

namespace Action

variable {fields : Fields} {kind : ActionKind} {action : Action} {actions : List Action}

-- An entity has one level of brackets, in either form.
theorem nesting_of_entity {entity : EntityRef}
    (reads : entityDecoder.ofJson json = .ok (some entity)) :
    entity.toJson.nesting ≤ json.nesting := by
  have flat : entity.toJson.nesting = 1 := rfl
  rw [flat]
  cases json with
  | array | object => exact Nat.succ_le_succ (Nat.zero_le _)
  | null | bool | number | string => cases reads

theorem nesting_of_fromField {α : Type} {decoder : Decoder α} {value : α} {name : String}
    {written : α → Json} (each : ∀ json value, decoder.ofJson json = .ok value →
      (written value).nesting ≤ json.nesting)
    (reads : decoder.fromField fields name = .ok value) :
    (written value).nesting ≤ Json.nestingFields fields := by
  obtain ⟨json, found, read⟩ := Json.fromField_eq_ok.1 reads
  exact Nat.le_trans (each json value read) (Json.nesting_le_of_lookup found)

theorem nesting_bodyFields_le (reads : ofFields fields kind = .ok action) :
    Json.nestingFields action.bodyFields ≤ Json.nestingFields fields := by
  cases kind with
  | setField =>
    obtain ⟨path, _, rest⟩ := bind_eq_ok.1 reads
    obtain ⟨value, hasValue, same⟩ := bind_eq_ok.1 rest
    cases same
    have below := nesting_of_fromField (fun _ _ => nesting_of_any) hasValue
    simpa [bodyFields, Json.nestingFields, Json.nesting] using below
  | createTask =>
    obtain ⟨title, _, rest⟩ := bind_eq_ok.1 reads
    obtain ⟨days, _, rest⟩ := bind_eq_ok.1 rest
    obtain ⟨assignee, _, rest⟩ := bind_eq_ok.1 rest
    obtain ⟨entity, hasEntity, same⟩ := bind_eq_ok.1 rest
    cases same
    cases entity with
    | none => exact Nat.zero_le _
    | some entity =>
      rw [Decoder.fromFieldOr] at hasEntity
      cases found : fields.lookup "entity_ref" with
      | none => simp [found] at hasEntity
      | some json =>
        simp only [found] at hasEntity
        have below := Nat.le_trans (nesting_of_entity hasEntity) (Json.nesting_le_of_lookup found)
        simpa [bodyFields, Json.nestingFields, Json.nesting, signedWordJson] using below
  | notify =>
    obtain ⟨notificationType, _, rest⟩ := bind_eq_ok.1 reads
    obtain ⟨payload, hasPayload, same⟩ := bind_eq_ok.1 rest
    cases same
    have below := nesting_of_fromField (fun _ _ => nesting_of_object) hasPayload
    simpa [bodyFields, Json.nestingFields, Json.nesting] using below

theorem nesting_le_of_ofJson (ordered : json.canonical = json) (shaped : Shaped json)
    (reads : ofJson json = .ok action) : action.toJson.nesting ≤ json.nesting := by
  obtain ⟨fields, _, rfl, _⟩ := shaped
  obtain ⟨_, _, made⟩ := (object_eq_ok_iff (Json.distinct_of_canonical ordered)).1 reads
  have written : action.toJson.nesting = Json.nestingFields action.bodyFields + 1 := by
    simp [toJson, Json.nesting, Json.nestingFields]
  rw [written]
  exact Nat.succ_le_succ (nesting_bodyFields_le made)

theorem nestingItems_map_toJson_le {items : List Json}
    (each : ∀ item ∈ items, item.canonical = item ∧ Shaped item)
    (reads : List.Forall₂ (fun item action => ofJson item = .ok action) items actions) :
    Json.nestingItems (actions.map toJson) ≤ Json.nestingItems items := by
  induction reads with
  | nil => exact Nat.le_refl _
  | cons first _ ih =>
    obtain ⟨⟨ordered, shaped⟩, later⟩ := List.forall_mem_cons.1 each
    rw [List.map_cons, Json.nestingItems, Json.nestingItems]
    exact max_le_max (nesting_le_of_ofJson ordered shaped first) (ih later)

theorem nesting_listToJson_le {text : String} (loaded : loadList text = .ok actions) :
    (listToJson actions).nesting ≤ Json.Reader.levelLimit := by
  obtain ⟨value, parsed, read⟩ := bind_eq_ok.1 loaded
  obtain ⟨shaped, decoded⟩ := check_bind_eq_ok.1 read
  obtain ⟨items, array, each⟩ := checkListShape_eq_ok_iff.1 (mapError_eq_ok.1 shaped)
  have ordered : (Json.array items).canonical = .array items := array ▸ value.ordered
  have shallow : (Json.array items).nesting ≤ Json.Reader.levelLimit :=
    array ▸ Json.nesting_le_of_parse (mapError_eq_ok.1 parsed)
  rw [array] at decoded
  refine Nat.le_trans (Nat.succ_le_succ (nestingItems_map_toJson_le (fun item mem => ?_)
    (mapM_eq_ok.1 (mapError_eq_ok.1 decoded)))) shallow
  exact ⟨Json.canonical_of_mem ordered mem, hasShape_iff.1 (each item mem)⟩

end Action

end WorkflowRules
