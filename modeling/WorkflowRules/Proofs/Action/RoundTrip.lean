import WorkflowRules.Proofs.Action.Decoding
import WorkflowRules.Proofs.Loading

/-!
Actions are read back as they were written. A null value of a field stays, since it is there, and
so does the lack of an entity, since nothing is written of it. Through a text it depends on how the
numbers in values and payloads are read; days are whole numbers and always come back.
-/
namespace WorkflowRules

open Json (Decoder)

theorem EntityRef.ofJson_toJson (inTagged : Bool) (entity : EntityRef) :
    (decoder inTagged).ofJson entity.toJson.canonical = .ok entity := by
  refine (object_eq_ok_iff (Json.sorted_sortFields _).distinct).2 (ofFields_eq_ok_iff.2 ?_)
  simp [Json.lookup_canonical, Json.lookup_cons, Json.canonical]

namespace Action

variable {actions : List Action}

theorem lookup_written {action : Action} {name : String} {json : Json}
    (written : action.bodyFields.reverse.lookup name = some json) :
    action.writtenFields.lookup name = some json.canonical := by
  rw [writtenFields, Json.lookup_canonical, List.reverse_cons, List.lookup_append, written]
  rfl

theorem fromField_written {α : Type} {decoder : Decoder α} {value : α} (action : Action)
    (name : String) {json : Json} (written : action.bodyFields.reverse.lookup name = some json)
    (reads : decoder.ofJson json.canonical = .ok value) :
    decoder.fromField action.writtenFields name = .ok value :=
  Json.fromField_eq_ok.2 ⟨json.canonical, lookup_written written, reads⟩

theorem entity_written (title : String) (dueInDays : Int64) (assignee : String)
    (entity : Option EntityRef) :
    entityDecoder.fromFieldOr (createTask title dueInDays assignee entity).writtenFields
      "entity_ref" none = .ok entity := by
  cases entity with
  | none =>
    have absent : (createTask title dueInDays assignee none).writtenFields.lookup "entity_ref" =
        none := by
      simp [writtenFields, Json.lookup_canonical, bodyFields, Json.lookup_cons]
    simp [Decoder.fromFieldOr, absent]
  | some entity =>
    have present : (createTask title dueInDays assignee (some entity)).writtenFields.lookup
        "entity_ref" = some entity.toJson.canonical := lookup_written rfl
    rw [Decoder.fromFieldOr, present]
    change ((EntityRef.decoder true).ofJson entity.toJson.canonical).map some = _
    rw [entity.ofJson_toJson true]
    rfl

theorem ofFields_written (action : Action) :
    ofFields action.writtenFields action.kind = .ok action := by
  cases action with
  | setField path value =>
    have reads : Decoder.any.ofJson value.json.canonical = .ok value := by
      rw [value.ordered, any_json]
    have hasPath := fromField_written (setField path value) "path" rfl (string_eq_ok_iff.2 rfl)
    have hasValue := fromField_written (setField path value) "value" rfl reads
    simp only [kind, ofFields, hasPath, hasValue]
    rfl
  | createTask title dueInDays assignee entity =>
    have reads : Decoder.signedWord.ofJson (signedWordJson dueInDays).canonical = .ok dueInDays :=
      signedWord_signedWordJson dueInDays
    have hasTitle := fromField_written (createTask title dueInDays assignee entity) "title"
      (by cases entity <;> rfl) (string_eq_ok_iff.2 rfl)
    have hasDays := fromField_written (createTask title dueInDays assignee entity) "due_in_days"
      (by cases entity <;> rfl) reads
    have hasAssignee := fromField_written (createTask title dueInDays assignee entity)
      "assigned_to_user_id" (by cases entity <;> rfl) (string_eq_ok_iff.2 rfl)
    simp only [kind, ofFields, hasTitle, hasDays, hasAssignee,
      entity_written title dueInDays assignee entity]
    rfl
  | notify notificationType payload =>
    have reads : Decoder.object.ofJson payload.json.canonical = .ok payload := by
      rw [Json.Object.json, payload.ordered]
      exact object_json payload
    have hasType := fromField_written (notify notificationType payload) "notification_type" rfl
      (string_eq_ok_iff.2 rfl)
    have hasPayload := fromField_written (notify notificationType payload) "payload" rfl reads
    simp only [kind, ofFields, hasType, hasPayload]
    rfl

theorem ofJson_toJson (action : Action) : ofJson action.toJson.canonical = .ok action :=
  (object_eq_ok_iff (Json.sorted_sortFields _).distinct).2
    ⟨action.kind, names_kind action, ofFields_written action⟩

theorem listOf_listToJson (actions : List Action) :
    decoder.listOf.ofJson (listToJson actions).toValue.json = .ok actions := by
  change (Json.canonicalItems (actions.map toJson)).mapM ofJson = .ok actions
  rw [Json.canonicalItems_eq_map, mapM_eq_ok, List.forall₂_map_left_iff,
    List.forall₂_map_left_iff, List.forall₂_same]
  exact fun action _ => ofJson_toJson action

theorem listToJson_inj {others : List Action} :
    listToJson actions = listToJson others ↔ actions = others := by
  refine ⟨fun same => ?_, congrArg listToJson⟩
  have reads := listOf_listToJson actions
  rw [same, listOf_listToJson] at reads
  exact (Except.ok.inj reads).symm

/-! ### Numbers -/

/-- The action with what is read of each number in its value or payload. -/
def reread : Action → Action
  | .setField path value => .setField path value.reread
  | .createTask title dueInDays assignee entity => .createTask title dueInDays assignee entity
  | .notify notificationType payload => .notify notificationType payload.reread

theorem reread_signedWordJson (value : Int64) :
    (signedWordJson value).reread = signedWordJson value :=
  congrArg Json.number (Number.reread_integer value.toInt (fitsWord_toInt value))

theorem toJson_reread (action : Action) : action.reread.toJson = action.toJson.reread := by
  cases action with
  | setField | notify => rfl
  | createTask title dueInDays assignee entity =>
    cases entity <;>
    simp [reread, toJson, kind, bodyFields, Json.reread, Json.rereadFields, reread_signedWordJson,
      EntityRef.toJson]

theorem listToJson_map_reread (actions : List Action) :
    listToJson (actions.map reread) = (listToJson actions).reread := by
  simp only [listToJson, Json.reread, Json.rereadItems_eq_map, List.map_map]
  exact congrArg Json.array (List.map_congr_left fun action _ => toJson_reread action)

theorem map_reread_eq_self_iff :
    actions.map reread = actions ↔ (listToJson actions).NumbersReadBack := by
  rw [← listToJson_inj, listToJson_map_reread, Json.reread_eq_self_iff]

/-! ### Texts -/

theorem loadList_listToJson (actions : List Action)
    (short : (listToJson actions).nesting ≤ Json.Reader.levelLimit) :
    loadList (listToJson actions).pretty = .ok (actions.map reread) := by
  have shaped : checkListShape (listToJson (actions.map reread)).toValue.json = .ok () :=
    checkListShape_listToJson _
  rw [loadList, loadJson_pretty short, ← listToJson_map_reread]
  simp only [bind, Except.bind, loadListFrom, shaped, listOf_listToJson]
  rfl

theorem loadList_listToJson_of_long
    (long : Json.Reader.levelLimit < (listToJson actions).nesting) :
    ∃ place, loadList (listToJson actions).pretty = .error (.notJson ⟨.tooDeep, place⟩) := by
  obtain ⟨place, stops⟩ := loadJson_pretty_of_deep long
  exact ⟨place, by rw [loadList, stops]; rfl⟩

theorem loadList_listToJson_eq_ok_iff {loaded : List Action} :
    loadList (listToJson actions).pretty = .ok loaded ↔
      (listToJson actions).nesting ≤ Json.Reader.levelLimit ∧ actions.map reread = loaded := by
  rcases Nat.lt_or_ge Json.Reader.levelLimit (listToJson actions).nesting with long | short
  · obtain ⟨_, failed⟩ := loadList_listToJson_of_long long
    simp [failed, Nat.not_le.2 long]
  · rw [loadList_listToJson actions short, Except.ok.injEq, and_iff_right short]

end Action

end WorkflowRules
