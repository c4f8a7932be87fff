import WorkflowRules.Condition.Operator
import WorkflowRules.Json.Decoder

/-! The JSON form of operators: the name, or an object whose one key is the name. -/
namespace WorkflowRules.Operator

open Json Reader

def ofNameJson (name : String) : Except Mismatch Operator :=
  match ofName? name with
  | some operator => .ok operator
  | none => .error (.unknownVariant name (all.map Operator.name))

def ofJson : Json → Except Mismatch Operator
  | .string name => ofNameJson name
  | .object [(name, content)] => do
    let operator ← ofNameJson name
    if content.isNull then .ok operator else .error (.type content .unit)
  | .object _ => .error .notOneKey
  | other => .error (.type other .stringOrMap)

/-- Scans a name behind its opening quote; it must be one of an operator. -/
def scanName : Reader Refusal Json := fun s => do
  let (name, rest) ← Reader.string s
  match ofNameJson name with
  | .ok _ => .ok (.string name, rest)
  | .error mismatch => refuse mismatch rest

def scanUnit : Reader Refusal Unit := fun s =>
  match skipSpaces s with
  | 'n' :: rest => word ['u', 'l', 'l'] () rest
  | s => refuseNext .unit s

/-- Scans an object behind its brace. Of one without a key, and of one that goes on behind
its first field, a value is missing. -/
def scanObject : Reader Refusal Json := fun s => do
  match ← nextField true s with
  | .closed _ => stopAt .noValue (skipSpaces s)
  | .another rest =>
    let (name, rest) ← scanName rest
    let (_, rest) ← scanUnit (← colon rest)
    match skipSpaces rest with
    | [] => stopAt .endInObject []
    | '\x7d' :: rest => .ok (name, rest)
    | rest => stopBefore .noValue rest

def decoder : Decoder Operator where
  ofJson := ofJson
  scan levels s :=
    match skipSpaces s with
    | [] => stopAt .endInValue []
    | '"' :: rest => scanName rest
    | '\x7b' :: rest => enter levels ('\x7b' :: rest) fun _ => scanObject
    | s => stopAt .noValue s

end WorkflowRules.Operator
