import WorkflowRules.Json.Reader.Number
import WorkflowRules.Json.Reader.Walk
import WorkflowRules.Json.Value

/-! Reading JSON values and whole JSON texts. -/
namespace WorkflowRules.Json

namespace Reader

variable {ε : Type} [CoversFaults ε]

/-- A value as written: fields in the order of the text, repeated keys kept. Arrays
and objects may nest `levels` deep. -/
def value (levels : Nat) : Reader ε Json := fun s =>
  match skipSpaces s with
  | [] => stopAt .endInValue []
  | c :: rest =>
    if c = 'n' then word ['u', 'l', 'l'] .null rest
    else if c = 't' then word ['r', 'u', 'e'] (.bool true) rest
    else if c = 'f' then word ['a', 'l', 's', 'e'] (.bool false) rest
    else if c = '-' || c.isDigit then
      (number (c :: rest)).map fun (value, rest) => (.number value, rest)
    else if c = '"' then
      (string rest).map fun (value, rest) => (.string value, rest)
    else if c = '[' then
      match levels with
      | 0 => stopAt .tooDeep (c :: rest)
      | levels + 1 => do
        let (items, rest) ← walkItems (fun items s => do
          let (item, rest) ← value levels s
          .ok (item :: items, rest)) [] rest
        .ok (.array items.reverse, rest)
    else if c = '\x7b' then
      match levels with
      | 0 => stopAt .tooDeep (c :: rest)
      | levels + 1 => do
        let (fields, rest) ← walkFields (fun fields key s => do
          let (item, rest) ← value levels (← colon s)
          .ok ((key, item) :: fields, rest)) [] rest
        .ok (.object fields.reverse, rest)
    else stopAt .noValue (c :: rest)

/-- Arrays and objects nest at most this deep. -/
def levelLimit : Nat := 127

end Reader

/-- The value of a text. -/
def parse (text : String) : Except (Located Fault) Value :=
  (Reader.whole (Reader.value Reader.levelLimit) text).map toValue

end WorkflowRules.Json
