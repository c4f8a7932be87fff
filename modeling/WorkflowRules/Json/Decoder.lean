import WorkflowRules.Json.Mismatch
import WorkflowRules.Json.Reader.Skip

/-! Decoders say what a type accepts, of a value and of a text. A text is scanned in its
own order, so that the first thing amiss is reported, be it a fault of the text or a
mismatch; what the scan lets through is a value that the type then decodes. -/
namespace WorkflowRules.Json

open Reader

structure Decoder (α : Type) where
  ofJson : Json → Except Mismatch α
  scan : Nat → Reader Refusal Json

/-- Refuses at a point of the text. -/
def refuse {α : Type} (mismatch : Mismatch) (rest : List Char) : Except (Stop Refusal) α :=
  .error ⟨.mismatch mismatch, rest, 0⟩

/-- Refuses a field whose key has been read. A brace that comes next closes the object and
counts as read. -/
def refuseKey {α : Type} (mismatch : Mismatch) : Reader Refusal α := fun s =>
  match skipSpaces s with
  | '\x7d' :: rest => refuse mismatch rest
  | s => refuse mismatch s

/-- Refuses the value that comes next. A scalar is read for its worth, so a fault in it
comes first; of an array or an object only the kind counts. -/
def refuseNext {α : Type} (expected : Expectation) : Reader Refusal α := fun s =>
  match skipSpaces s with
  | '[' :: rest => refuse (.type (.array []) expected) ('[' :: rest)
  | '\x7b' :: rest => refuse (.type (.object []) expected) ('\x7b' :: rest)
  | s => do
    let (found, rest) ← value 0 s
    refuse (.type found expected) rest

/-- Enters an array or object whose bracket is the first character of `s`. -/
def enter {α : Type} (levels : Nat) (s : List Char) (inside : Nat → Reader Refusal α) :
    Except (Stop Refusal) (α × List Char) :=
  match levels with
  | 0 => stopAt .tooDeep s
  | levels + 1 => inside levels (s.drop 1)

namespace Decoder

/-- Scans any value, and lets it through in canonical form. -/
def scanAny (levels : Nat) : Reader Refusal Json := fun s => do
  let (json, rest) ← value levels s
  .ok (json.canonical, rest)

def any : Decoder Value := ⟨fun json => .ok json.toValue, scanAny⟩

def string : Decoder String where
  ofJson
    | .string value => .ok value
    | other => .error (.type other .string)
  scan levels s :=
    match skipSpaces s with
    | '"' :: rest => scanAny levels ('"' :: rest)
    | s => refuseNext .string s

def bool : Decoder Bool where
  ofJson
    | .bool value => .ok value
    | other => .error (.type other .boolean)
  scan levels s :=
    match skipSpaces s with
    | 't' :: rest => scanAny levels ('t' :: rest)
    | 'f' :: rest => scanAny levels ('f' :: rest)
    | s => refuseNext .boolean s

/-- Only integers, so neither `1.0` nor minus zero. -/
def signedWordOfJson : Json → Except Mismatch Int64
  | .number (.integer value _) =>
    if value ≤ Int64.maxValue.toInt then .ok (Int64.ofInt value)
    else .error (.notSignedWord value)
  | other => .error (.type other .signedWord)

def signedWord : Decoder Int64 where
  ofJson := signedWordOfJson
  scan _ s := do
    match skipSpaces s with
    | [] => refuseNext .signedWord []
    | c :: rest =>
      if c = '-' || c.isDigit then
        let (json, rest) ← value 0 (c :: rest)
        match signedWordOfJson json with
        | .ok _ => .ok (json, rest)
        | .error mismatch => refuse mismatch rest
      else refuseNext .signedWord (c :: rest)

/-- Null stands for none. -/
def optional {α : Type} (decoder : Decoder α) : Decoder (Option α) where
  ofJson
    | .null => .ok none
    | json => (decoder.ofJson json).map some
  scan levels s :=
    match skipSpaces s with
    | 'n' :: rest => scanAny levels ('n' :: rest)
    | s => decoder.scan levels s

def listOf {α : Type} (decoder : Decoder α) : Decoder (List α) where
  ofJson
    | .array items => items.mapM decoder.ofJson
    | other => .error (.type other .sequence)
  scan levels s :=
    match skipSpaces s with
    | '[' :: rest => enter levels ('[' :: rest) fun levels s => do
      let (items, rest) ← walkItems (fun items s => do
        let (item, rest) ← decoder.scan levels s
        .ok (item :: items, rest)) [] s
      .ok (.array items.reverse, rest)
    | s => refuseNext .sequence s

/-- Objects with any fields. -/
def object : Decoder Object where
  ofJson
    | .object fields => .ok (.ofFields fields)
    | other => .error (.type other .map)
  scan levels s :=
    match skipSpaces s with
    | '\x7b' :: rest => scanAny levels ('\x7b' :: rest)
    | s => refuseNext .map s

/-- Objects with fields of one type, in order of their keys. -/
def fieldsOf {α : Type} (decoder : Decoder α) : Decoder (List (String × α)) where
  ofJson
    | .object fields => fields.mapM fun (key, json) => do return (key, ← decoder.ofJson json)
    | other => .error (.type other .map)
  scan levels s :=
    match skipSpaces s with
    | '\x7b' :: rest => enter levels ('\x7b' :: rest) fun levels s => do
      let (fields, rest) ← walkFields (fun fields key s => do
        let (json, rest) ← decoder.scan levels (← colon s)
        .ok (insertField key json fields, rest)) [] s
      .ok (.object fields, rest)
    | s => refuseNext .map s

/-- What a shape reader accepts; the whole value is read before it is looked at. -/
def ofShape {α : Type} (read : Json → Except ShapeError α) : Decoder α where
  ofJson json := (read json).mapError .shape
  scan levels s := do
    let (json, rest) ← scanAny levels s
    match read json with
    | .ok _ => .ok (json, rest)
    | .error error => refuse (.shape error) rest

/-- Decodes a whole text. -/
def ofText {α : Type} (decoder : Decoder α) (text : String) : Except (Located Refusal) α :=
  whole (fun s => do
    let (json, rest) ← decoder.scan levelLimit s
    match decoder.ofJson json with
    | .ok value => .ok (value, rest)
    | .error mismatch => refuse mismatch rest) text

end Decoder

end WorkflowRules.Json
