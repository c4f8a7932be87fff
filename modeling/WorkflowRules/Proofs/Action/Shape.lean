import WorkflowRules.Action.Form
import WorkflowRules.Action.Shape
import WorkflowRules.Proofs.Json.Parts
import WorkflowRules.Proofs.Steps

/-!
The shape of actions, told apart from the way in which it is checked. Where the check stands
matters only to its errors, and whatever is written of an action passes it.
-/
namespace WorkflowRules.Action

/-- The fields that an action of a kind has, each with what it takes. -/
def wanted : ActionKind → List (String × (Json → Bool))
  | .setField => [("path", Json.isString), ("value", fun _ => true)]
  | .createTask =>
    [("title", Json.isString), ("due_in_days", isSignedWord),
      ("assigned_to_user_id", Json.isString)]
  | .notify => [("notification_type", Json.isString), ("payload", isObject)]

def HasFields (fields : Json.Fields) (kind : ActionKind) : Prop :=
  ∀ field ∈ wanted kind, ∃ value, fields.lookup field.1 = some value ∧ field.2 value = true

/-- An object that names its kind and has the fields of that kind. -/
def Shaped (json : Json) : Prop :=
  ∃ fields kind, json = .object fields ∧ fields.lookup "type" = some (.string kind.tag) ∧
    HasFields fields kind

variable {location : String} {fields : Json.Fields}

theorem ofTag?_eq_some_iff {tag : String} {kind : ActionKind} :
    ActionKind.ofTag? tag = some kind ↔ tag = kind.tag := by
  constructor
  · intro found
    have same := List.find?_some found
    exact (by simpa using same : kind.tag = tag).symm
  · rintro rfl
    cases kind <;> rfl

theorem requireField_eq_ok_iff {name words : String} {accepts : Json → Bool} :
    requireField location fields name accepts words = .ok () ↔
      ∃ value, fields.lookup name = some value ∧ accepts value = true := by
  unfold requireField
  cases fields.lookup name with
  | none => simp
  | some value => cases found : accepts value <;> simp [found]

theorem checkFields_eq_ok_iff {kind : ActionKind} :
    checkFields location fields kind = .ok () ↔ HasFields fields kind := by
  cases kind <;> simp [checkFields, HasFields, wanted, check_bind_eq_ok, requireField_eq_ok_iff]

-- The location stands in the errors only, so success at one place is success at any other.
theorem checkShape_eq_ok_iff {json : Json} : checkShape location json = .ok () ↔ Shaped json := by
  constructor
  · intro passed
    cases json with
    | object fields =>
      rw [checkShape] at passed
      cases named : fields.lookup "type" with
      | none => simp [named] at passed
      | some tag =>
        cases tag with
        | string text =>
          cases known : ActionKind.ofTag? text with
          | none => simp [named, known] at passed
          | some kind =>
            obtain rfl := ofTag?_eq_some_iff.1 known
            simp only [named, known] at passed
            exact ⟨fields, kind, rfl, named, checkFields_eq_ok_iff.1 passed⟩
        | null | bool | number | array | object => simp [named] at passed
    | null | bool | number | string | array => cases passed
  · rintro ⟨fields, kind, rfl, named, has⟩
    have known := ofTag?_eq_some_iff.2 (rfl : kind.tag = kind.tag)
    simp only [checkShape, named, known]
    exact checkFields_eq_ok_iff.2 has

theorem hasShape_iff {json : Json} : hasShape json = true ↔ Shaped json := by
  rw [← checkShape_eq_ok_iff, hasShape]
  cases checkShape "$" json <;> simp [Except.isOk, Except.toBool]

theorem checkItems_eq_ok_iff {index : Nat} {items : List Json} :
    checkItems index items = .ok () ↔ ∀ item ∈ items, Shaped item := by
  induction items generalizing index with
  | nil => simp [checkItems]
  | cons item rest ih =>
    rw [checkItems, check_bind_eq_ok, checkShape_eq_ok_iff, ih, List.forall_mem_cons]

theorem checkListShape_eq_ok_iff {actions : Json} : checkListShape actions = .ok () ↔
    ∃ items, actions = .array items ∧ ∀ item ∈ items, hasShape item = true := by
  cases actions with
  | array items => simp [checkListShape, checkItems_eq_ok_iff, hasShape_iff]
  | null | bool | number | string | object => simp [checkListShape]

theorem isObject_iff {json : Json} : isObject json = true ↔ ∃ fields, json = .object fields := by
  cases json <;> simp [isObject]

theorem isSignedWord_signedWordJson (value : Int64) :
    isSignedWord (signedWordJson value) = true := by
  simpa [isSignedWord, signedWordJson] using value.toInt_le

/-- The fields that are written of an action, in the order of their keys. -/
def writtenFields (action : Action) : Json.Fields :=
  Json.sortFields (Json.canonicalFields (("type", .string action.kind.tag) :: action.bodyFields))

theorem names_kind (action : Action) :
    action.writtenFields.lookup "type" = some (.string action.kind.tag) := by
  rw [writtenFields, Json.lookup_canonical]
  cases action with
  | createTask title dueInDays assignee entity =>
    cases entity <;> simp [bodyFields, Json.lookup_cons, Json.canonical]
  | setField | notify => simp [bodyFields, Json.lookup_cons, Json.canonical]

theorem hasFields_written (action : Action) : HasFields action.writtenFields action.kind := by
  simp only [HasFields, writtenFields, Json.lookup_canonical]
  cases action with
  | setField path value =>
    simp [kind, wanted, bodyFields, Json.lookup_cons, Json.canonical, Json.isString]
  | createTask title dueInDays assignee entity =>
    have days : isSignedWord (signedWordJson dueInDays).canonical = true :=
      isSignedWord_signedWordJson dueInDays
    cases entity <;>
      simp [kind, wanted, bodyFields, Json.lookup_cons, Json.canonical, Json.isString, days]
  | notify notificationType payload =>
    simp [kind, wanted, bodyFields, Json.lookup_cons, Json.canonical, Json.isString,
      Json.Object.json, isObject]

/-- The form of an action has its shape, whatever the order of its fields. -/
theorem shaped_toJson (action : Action) : Shaped action.toJson.canonical :=
  ⟨action.writtenFields, action.kind, rfl, names_kind action, hasFields_written action⟩

theorem checkListShape_listToJson (actions : List Action) :
    checkListShape (listToJson actions).canonical = .ok () := by
  rw [listToJson, Json.canonical, checkListShape, checkItems_eq_ok_iff, Json.canonicalItems_eq_map]
  intro item mem
  obtain ⟨written, inside, rfl⟩ := List.mem_map.1 mem
  obtain ⟨action, _, rfl⟩ := List.mem_map.1 inside
  exact shaped_toJson action

end WorkflowRules.Action
