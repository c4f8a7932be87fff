import WorkflowRules.Json.Basic

/-! The two written forms of a JSON value: compact, without blanks, and pretty, one
element a line and two more spaces a level. Fields are written in the order they have. -/
namespace WorkflowRules.Json

/-- Only quotes, backslashes and control characters are escaped. -/
def escapeChar (c : Char) : List Char :=
  if c = '"' then ['\\', '"']
  else if c = '\\' then ['\\', '\\']
  else if c = '\x08' then ['\\', 'b']
  else if c = '\t' then ['\\', 't']
  else if c = '\n' then ['\\', 'n']
  else if c = '\x0c' then ['\\', 'f']
  else if c = '\r' then ['\\', 'r']
  else if c.toNat < 32 then
    ['\\', 'u', '0', '0', Nat.digitChar (c.toNat / 16), Nat.digitChar (c.toNat % 16)]
  else [c]

def stringChars (s : String) : List Char :=
  '"' :: s.toList.flatMap escapeChar ++ ['"']

def boolChars : Bool → List Char
  | true => ['t', 'r', 'u', 'e']
  | false => ['f', 'a', 'l', 's', 'e']

mutual
def compactChars : Json → List Char
  | .null => ['n', 'u', 'l', 'l']
  | .bool value => boolChars value
  | .number value => value.chars
  | .string value => stringChars value
  | .array items => '[' :: compactItems items ++ [']']
  | .object fields => '\x7b' :: compactFields fields ++ ['\x7d']
termination_by structural json => json
def compactItems : List Json → List Char
  | [] => []
  | item :: rest => compactChars item ++ (if rest.isEmpty then [] else ',' :: compactItems rest)
termination_by structural items => items
def compactFields : List (String × Json) → List Char
  | [] => []
  | (key, value) :: rest =>
    stringChars key ++ ':' :: compactChars value ++
      (if rest.isEmpty then [] else ',' :: compactFields rest)
termination_by structural fields => fields
end

/-- The start of a line at a level. -/
def lineStart (level : Nat) : List Char :=
  '\n' :: List.replicate (2 * level) ' '

mutual
def prettyChars (level : Nat) : Json → List Char
  | .null => ['n', 'u', 'l', 'l']
  | .bool value => boolChars value
  | .number value => value.chars
  | .string value => stringChars value
  | .array items =>
    if items.isEmpty then ['[', ']']
    else '[' :: prettyItems (level + 1) items ++ lineStart level ++ [']']
  | .object fields =>
    if fields.isEmpty then ['\x7b', '\x7d']
    else '\x7b' :: prettyFields (level + 1) fields ++ lineStart level ++ ['\x7d']
termination_by structural json => json
def prettyItems (level : Nat) : List Json → List Char
  | [] => []
  | item :: rest =>
    lineStart level ++ prettyChars level item ++
      (if rest.isEmpty then [] else ',' :: prettyItems level rest)
termination_by structural items => items
def prettyFields (level : Nat) : List (String × Json) → List Char
  | [] => []
  | (key, value) :: rest =>
    lineStart level ++ stringChars key ++ ':' :: ' ' :: prettyChars level value ++
      (if rest.isEmpty then [] else ',' :: prettyFields level rest)
termination_by structural fields => fields
end

def compact (json : Json) : String :=
  String.ofList json.compactChars

def pretty (json : Json) : String :=
  String.ofList (json.prettyChars 0)

end WorkflowRules.Json
