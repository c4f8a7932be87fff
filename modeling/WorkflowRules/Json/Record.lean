import WorkflowRules.Json.Decoder

/-! Records: objects with named fields of different types, or arrays of those fields in
their order. Fields of an object that the record does not know are passed over. -/
namespace WorkflowRules.Json

open Reader

/-- A field as a record sees it. One that is not required may be absent. -/
structure Field where
  name : String
  required : Bool
  check : Json → Except Mismatch Unit
  scan : Nat → Reader Refusal Json

def Decoder.field {α : Type} (decoder : Decoder α) (name : String) : Field :=
  ⟨name, true, fun json => (decoder.ofJson json).map fun _ => (), decoder.scan⟩

def Decoder.optionalField {α : Type} (decoder : Decoder α) (name : String) : Field :=
  ⟨name, false, fun json => (decoder.ofJson json).map fun _ => (), decoder.scan⟩

/-- `title` is what messages call the record. A record inside a tagged union words the
length of an array that is too long in another way. -/
structure Record where
  title : String
  fields : List Field
  inTagged : Bool

namespace Record

def missing? (fields : List Field) (seen : Fields) : Option Mismatch :=
  (fields.find? fun field => field.required && (seen.lookup field.name).isNone).map
    (.missingField ·.name)

def tooShort (record : Record) (length : Nat) : Mismatch :=
  .tooShort length record.title record.fields.length

/-- The mismatch of an array that ends in front of the field with this index. -/
def missingFrom? (record : Record) (index : Nat) : List Field → Option Mismatch
  | [] => none
  | field :: rest =>
    if field.required then some (record.tooShort index)
    else record.missingFrom? (index + 1) rest

/-- The known fields of an object, in its order, after those already `seen`. -/
def readFields (record : Record) (seen : Fields) :
    List (String × Json) → Except Mismatch Fields
  | [] =>
    match missing? record.fields seen with
    | some mismatch => .error mismatch
    | none => .ok seen
  | (key, json) :: rest =>
    match record.fields.find? (·.name == key) with
    | none => record.readFields seen rest
    | some field =>
      if (seen.lookup key).isSome then .error (.duplicateField key)
      else
        match field.check json with
        | .ok _ => record.readFields (seen ++ [(key, json)]) rest
        | .error mismatch => .error mismatch

/-- The fields that an array of `length` items gives, from the field with this index. -/
def readItems (record : Record) (length index : Nat) :
    List Field → List Json → Except Mismatch Fields
  | fields, [] =>
    match record.missingFrom? index fields with
    | some mismatch => .error mismatch
    | none => .ok []
  | [], _ :: _ =>
    .error (if record.inTagged then .tooLongSequence length record.fields.length
      else .tooLong length)
  | field :: fields, item :: items =>
    match field.check item with
    | .ok _ => (record.readItems length (index + 1) fields items).map ((field.name, item) :: ·)
    | .error mismatch => .error mismatch

/-- The fields of a record, by name. Each known field is of its type, and every required
one is there. -/
def read (record : Record) : Json → Except Mismatch Fields
  | .object fields => record.readFields [] fields
  | .array items => record.readItems items.length 0 record.fields items
  | other => .error (.type other (.other record.title))

/-- The end of an array all of whose items have been read. -/
def closeItems (s : List Char) : Except (Stop Refusal) (List Char) :=
  match skipSpaces s with
  | [] => stopAt .endInList []
  | ']' :: rest => .ok rest
  | ',' :: rest =>
    match skipSpaces rest with
    | ']' :: rest => stopAt .trailingComma (']' :: rest)
    | rest => stopAt .trailingCharacters rest
  | s => stopAt .trailingCharacters s

def scanItems (record : Record) (levels : Nat) (index : Nat) (seen : Fields) :
    List Field → Reader Refusal Json
  | [], s => do
    let rest ← closeItems s
    .ok (.object seen, rest)
  | field :: fields, s => do
    match ← nextItem (index = 0) s with
    | .closed rest =>
      match record.missingFrom? index (field :: fields) with
      | some mismatch => refuse mismatch rest
      | none => .ok (.object seen, rest)
    | .another rest =>
      let (json, rest) ← field.scan levels rest
      record.scanItems levels (index + 1) (seen ++ [(field.name, json)]) fields rest

def scanField (record : Record) (levels : Nat) (seen : Fields) (key : String) :
    Reader Refusal Fields := fun s => do
  match record.fields.find? (·.name == key) with
  | none =>
    let (_, rest) ← skip (← colon s)
    .ok (seen, rest)
  | some field =>
    if (seen.lookup key).isSome then refuseKey (.duplicateField key) s
    else
      let (json, rest) ← field.scan levels (← colon s)
      .ok (seen ++ [(key, json)], rest)

/-- Lets the record through as an object with its known fields. -/
def scan (record : Record) (levels : Nat) : Reader Refusal Json := fun s =>
  match skipSpaces s with
  | '\x7b' :: rest => enter levels ('\x7b' :: rest) fun levels s => do
    let (seen, rest) ← walkFields (record.scanField levels) [] s
    match missing? record.fields seen with
    | some mismatch => refuse mismatch rest
    | none => .ok (.object seen, rest)
  | '[' :: rest => enter levels ('[' :: rest) fun levels =>
    record.scanItems levels 0 [] record.fields
  | s => refuseNext (.other record.title) s

end Record

/-- Decodes a field that the record has read. -/
def Decoder.fromField {α : Type} (decoder : Decoder α) (fields : Fields) (name : String) :
    Except Mismatch α :=
  match fields.lookup name with
  | some json => decoder.ofJson json
  | none => .error (.missingField name)

/-- Decodes a field that may be absent. -/
def Decoder.fromFieldOr {α : Type} (decoder : Decoder α) (fields : Fields) (name : String)
    (absent : α) : Except Mismatch α :=
  match fields.lookup name with
  | some json => decoder.ofJson json
  | none => .ok absent

end WorkflowRules.Json
