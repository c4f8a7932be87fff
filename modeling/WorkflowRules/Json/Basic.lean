import WorkflowRules.Number.Basic

/-! JSON values. An object is a list of fields in any order; its canonical form has
the fields in increasing order of their keys, each key once. -/
namespace WorkflowRules

inductive Json where
  | null
  | bool (value : Bool)
  | number (value : Number)
  | string (value : String)
  | array (items : List Json)
  | object (fields : List (String × Json))
deriving Inhabited

namespace Json

abbrev Fields := List (String × Json)

def isNull : Json → Bool
  | .null => true
  | _ => false

def isString : Json → Bool
  | .string _ => true
  | _ => false

/-- An array of strings only. -/
def listsStrings : Json → Bool
  | .array items => items.all isString
  | _ => false

/-- Sets a field of an object in canonical order. -/
def insertField (key : String) (value : Json) : Fields → Fields
  | [] => [(key, value)]
  | (other, old) :: rest =>
    if key = other then (key, value) :: rest
    else if key < other then (key, value) :: (other, old) :: rest
    else (other, old) :: insertField key value rest

/-- Fields in order of their keys; of fields with one key the last counts. -/
def sortFields (fields : Fields) : Fields :=
  fields.foldl (fun sorted field => insertField field.1 field.2 sorted) []

mutual
def canonical : Json → Json
  | .array items => .array (canonicalItems items)
  | .object fields => .object (sortFields (canonicalFields fields))
  | other => other
termination_by structural json => json
def canonicalItems : List Json → List Json
  | [] => []
  | item :: rest => canonical item :: canonicalItems rest
termination_by structural items => items
def canonicalFields : List (String × Json) → List (String × Json)
  | [] => []
  | (key, value) :: rest => (key, canonical value) :: canonicalFields rest
termination_by structural fields => fields
end

mutual
/-- How many arrays and objects lie within one another. -/
def nesting : Json → Nat
  | .array items => nestingItems items + 1
  | .object fields => nestingFields fields + 1
  | _ => 0
termination_by structural json => json
def nestingItems : List Json → Nat
  | [] => 0
  | item :: rest => max (nesting item) (nestingItems rest)
termination_by structural items => items
def nestingFields : List (String × Json) → Nat
  | [] => 0
  | (_, value) :: rest => max (nesting value) (nestingFields rest)
termination_by structural fields => fields
end

end Json

end WorkflowRules
