import WorkflowRules.Action.Basic
import WorkflowRules.Json.Record

/-! The JSON form of actions: objects that name their kind in `type`. -/
namespace WorkflowRules

open Json

namespace EntityRef

def toJson (entity : EntityRef) : Json :=
  .object [("entity_type", .string entity.entityType), ("entity_id", .string entity.entityId)]

def record (inTagged : Bool) : Record where
  title := "struct EntityRef"
  fields := [Decoder.string.field "entity_type", Decoder.string.field "entity_id"]
  inTagged := inTagged

def decoder (inTagged : Bool) : Decoder EntityRef where
  ofJson json := do
    let fields ← (record inTagged).read json
    return ⟨← Decoder.string.fromField fields "entity_type",
      ← Decoder.string.fromField fields "entity_id"⟩
  scan := (record inTagged).scan

end EntityRef

theorem fitsWord_toInt (value : Int64) : FitsWord value.toInt := by
  have low := value.le_toInt
  have high := value.toInt_lt
  constructor <;> omega

def signedWordJson (value : Int64) : Json :=
  .number (.integer value.toInt (fitsWord_toInt value))

namespace Action

/-- The entity is left out when there is none. -/
def bodyFields : Action → Fields
  | .setField path value => [("path", .string path), ("value", value.json)]
  | .createTask title dueInDays assignee entity =>
    [("title", .string title), ("due_in_days", signedWordJson dueInDays),
      ("assigned_to_user_id", .string assignee)] ++
      match entity with
      | some entity => [("entity_ref", entity.toJson)]
      | none => []
  | .notify notificationType payload =>
    [("notification_type", .string notificationType), ("payload", payload.json)]

def toJson (action : Action) : Json :=
  .object (("type", .string action.kind.tag) :: action.bodyFields)

def listToJson (actions : List Action) : Json :=
  .array (actions.map toJson)

def entityDecoder : Decoder (Option EntityRef) :=
  (EntityRef.decoder true).optional

/-- What an action of this kind holds beside its tag. -/
def body : ActionKind → Record
  | .setField =>
    ⟨"struct variant Action::SetField",
      [Decoder.string.field "path", Decoder.any.field "value"], true⟩
  | .createTask =>
    ⟨"struct variant Action::CreateTask",
      [Decoder.string.field "title", Decoder.signedWord.field "due_in_days",
        Decoder.string.field "assigned_to_user_id", entityDecoder.optionalField "entity_ref"],
      true⟩
  | .notify =>
    ⟨"struct variant Action::Notify",
      [Decoder.string.field "notification_type", Decoder.object.field "payload"], true⟩

def ofFields (fields : Fields) : ActionKind → Except Mismatch Action
  | .setField => do
    return .setField (← Decoder.string.fromField fields "path")
      (← Decoder.any.fromField fields "value")
  | .createTask => do
    return .createTask (← Decoder.string.fromField fields "title")
      (← Decoder.signedWord.fromField fields "due_in_days")
      (← Decoder.string.fromField fields "assigned_to_user_id")
      (← entityDecoder.fromFieldOr fields "entity_ref" none)
  | .notify => do
    return .notify (← Decoder.string.fromField fields "notification_type")
      (← Decoder.object.fromField fields "payload")

def ofBody (kind : ActionKind) (json : Json) : Except Mismatch Action := do
  ofFields (← (body kind).read json) kind

def kindOfTag (tag : String) : Except Mismatch ActionKind :=
  match ActionKind.ofTag? tag with
  | some kind => .ok kind
  | none => .error (.unknownVariant tag (ActionKind.all.map ActionKind.tag))

def kindOfJson : Json → Except Mismatch ActionKind
  | .string tag => kindOfTag tag
  | other => .error (.type other .tag)

def expectation : Expectation :=
  .other "internally tagged enum Action"

/-- An action is an object with its tag in any place, or an array with its tag first. -/
def ofJson : Json → Except Mismatch Action
  | .object fields =>
    match fields.lookup "type" with
    | some tag => do
      ofBody (← kindOfJson tag) (.object (fields.filter (·.1 != "type")))
    | none => .error (.missingField "type")
  | .array (tag :: items) => do ofBody (← kindOfJson tag) (.array items)
  | .array [] => .error (.missingField "type")
  | other => .error (.type other expectation)

open Reader

/-- The tag is looked at as soon as it is read. -/
def scanKind : Reader Refusal ActionKind := fun s =>
  match skipSpaces s with
  | '"' :: rest => do
    let (tag, rest) ← Reader.string rest
    match kindOfTag tag with
    | .ok kind => .ok (kind, rest)
    | .error mismatch => refuse mismatch rest
  | s => refuseNext .tag s

/-- Lets an action through once all of it has been read. -/
def release (kind : ActionKind) (content written : Json) (rest : List Char) :
    Except (Stop Refusal) (Json × List Char) :=
  match ofBody kind content with
  | .ok _ => .ok (written.canonical, rest)
  | .error mismatch => refuse mismatch rest

def scanObject (levels : Nat) : Reader Refusal Json := fun s => do
  let ((kind, fields), rest) ← walkFields (fun (kind, fields) key s => do
    if key = "type" then
      if kind.isSome then refuseKey (.duplicateField "type") s
      else
        let (kind, rest) ← scanKind (← colon s)
        .ok ((some kind, fields), rest)
    else
      let (json, rest) ← value levels (← colon s)
      .ok ((kind, (key, json) :: fields), rest)) (none, []) s
  match kind with
  | some kind =>
    let content := fields.reverse
    release kind (.object content) (.object (("type", .string kind.tag) :: content)) rest
  | none => refuse (.missingField "type") rest

def scanArray (levels : Nat) : Reader Refusal Json := fun s => do
  let ((kind, items), rest) ← walkItems (fun (kind, items) s => do
    match kind with
    | none =>
      let (kind, rest) ← scanKind s
      .ok ((some kind, items), rest)
    | some _ =>
      let (json, rest) ← value levels s
      .ok ((kind, json :: items), rest)) (none, []) s
  match kind with
  | some kind =>
    let content := items.reverse
    release kind (.array content) (.array (.string kind.tag :: content)) rest
  | none => refuse (.missingField "type") rest

def decoder : Decoder Action where
  ofJson := ofJson
  scan levels s :=
    match skipSpaces s with
    | '\x7b' :: rest => enter levels ('\x7b' :: rest) scanObject
    | '[' :: rest => enter levels ('[' :: rest) scanArray
    | s => refuseNext expectation s

end Action

end WorkflowRules
