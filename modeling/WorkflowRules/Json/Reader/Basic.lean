import WorkflowRules.Json.Fault

/-! Readers take what is left of a text and answer with a value and what is then left,
or stop. -/
namespace WorkflowRules.Json

/-- Causes of stopping that include the faults of the text. -/
class CoversFaults (ε : Type) where
  ofFault : Fault → ε

instance : CoversFaults Fault := ⟨id⟩

abbrev Reader (ε α : Type) := List Char → Except (Stop ε) (α × List Char)

namespace Reader

variable {ε α : Type} [CoversFaults ε]

/-- Stops and reports the first byte of what is left, if any. -/
def stopAt (fault : Fault) (rest : List Char) : Except (Stop ε) α :=
  .error ⟨CoversFaults.ofFault fault, rest, if rest.isEmpty then 0 else 1⟩

/-- Stops and reports the last byte read. -/
def stopBefore (fault : Fault) (rest : List Char) : Except (Stop ε) α :=
  .error ⟨CoversFaults.ofFault fault, rest, 0⟩

def isSpace (c : Char) : Bool :=
  c = ' ' || c = '\t' || c = '\r' || c = '\n'

def skipSpaces (s : List Char) : List Char :=
  s.dropWhile isSpace

/-- The rest of a word such as `null`. -/
def word : List Char → α → Reader ε α
  | [], value, s => .ok (value, s)
  | _ :: _, _, [] => stopAt .endInValue []
  | e :: expected, value, c :: rest =>
    if c = e then word expected value rest else stopAt .noWord (c :: rest)

/-- Reads a whole text; only spaces may follow the value. -/
def whole (reader : Reader ε α) (text : String) : Except (Located ε) α :=
  let s := text.toList
  let result := do
    let (value, rest) ← reader s
    match skipSpaces rest with
    | [] => .ok value
    | rest => stopAt .trailingCharacters rest
  result.mapError (·.locate s)

end Reader

end WorkflowRules.Json
