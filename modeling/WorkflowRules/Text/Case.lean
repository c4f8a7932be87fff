import WorkflowRules.Text.CaseTable
import WorkflowRules.Text.ClassTable

/-! Full case mappings: a character may become several, and a capital sigma that ends
a word becomes the final small sigma. -/
namespace WorkflowRules.Text

/-- The character that the first run covering `c` moves it to, else `c` itself. -/
def mapByRuns (runs : List CaseRun) (c : Char) : Char :=
  match runs.find? (·.covers c.toNat) with
  | some run => Char.ofNat (c.toNat + run.shift).toNat
  | none => c

def upperChar (c : Char) : List Char :=
  match upperWords.lookup c.toNat with
  | some codes => codes.map Char.ofNat
  | none => [mapByRuns upperRuns c]

def upperChars (cs : List Char) : List Char :=
  cs.flatMap upperChar

/-- The dotted capital I keeps its dot as a combining mark. -/
def lowerChar (c : Char) : List Char :=
  if c = 'İ' then ['i', '\u0307'] else [mapByRuns lowerRuns c]

/-- Whether the first character that case does not pass over is a cased one. -/
def meetsCased (cs : List Char) : Bool :=
  match cs.find? fun c => !caseIgnorableBoundaries.cover c.toNat with
  | some c => casedBoundaries.cover c.toNat
  | none => false

/-- `before` holds what precedes, nearest character first. -/
def lowerFrom (before : List Char) : List Char → List Char
  | [] => []
  | c :: rest =>
    (if c = 'Σ' then
      [if meetsCased before && !meetsCased rest then 'ς' else 'σ']
    else lowerChar c) ++ lowerFrom (c :: before) rest

def lowerChars (cs : List Char) : List Char :=
  lowerFrom [] cs

def upper (s : String) : String :=
  String.ofList (upperChars s.toList)

def lower (s : String) : String :=
  String.ofList (lowerChars s.toList)

end WorkflowRules.Text
