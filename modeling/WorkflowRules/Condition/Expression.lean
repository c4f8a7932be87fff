import WorkflowRules.Condition.Basic
import WorkflowRules.Json.Printer

/-! The readable expression of a condition: a sequence of tokens, with parentheses only
around what binds more loosely than its surroundings. -/
namespace WorkflowRules

mutual
/-- Lists are written with a space after each comma, other values as compact JSON. -/
def operandChars : Json → List Char
  | .array items => '[' :: operandItems items ++ [']']
  | .null => Json.null.compactChars
  | .bool value => (Json.bool value).compactChars
  | .number value => (Json.number value).compactChars
  | .string value => (Json.string value).compactChars
  | .object fields => (Json.object fields).compactChars
termination_by structural json => json
def operandItems : List Json → List Char
  | [] => []
  | item :: rest =>
    operandChars item ++ (if rest.isEmpty then [] else ',' :: ' ' :: operandItems rest)
termination_by structural items => items
end

def Leaf.text (leaf : Leaf) : String :=
  if leaf.operator.needsValue then
    leaf.path ++ " " ++ leaf.operator.symbol ++ " " ++ String.ofList (operandChars leaf.value.json)
  else leaf.path ++ " " ++ leaf.operator.symbol

namespace Condition

inductive Token where
  | leaf (text : String)
  | connective (connective : Connective)
  | not
  | openParen
  | closeParen
deriving DecidableEq

def Token.text : Token → String
  | .leaf text => text
  | .connective .all => " AND "
  | .connective .any => " OR "
  | .not => "NOT "
  | .openParen => "("
  | .closeParen => ")"

mutual
/-- A higher number binds more tightly. A group of one child binds as that child. -/
def binding : Condition → Nat
  | .group connective children =>
    bindingOr (match connective with | .any => 1 | .all => 2) children
  | .not _ => 3
  | .leaf _ => 4
termination_by structural condition => condition
/-- The binding of an only child, else the given one. -/
def bindingOr (otherwise : Nat) : List Condition → Nat
  | [] => otherwise
  | child :: rest => if rest.isEmpty then binding child else otherwise
termination_by structural children => children
end

def enclose (needed : Bool) (tokens : List Token) : List Token :=
  if needed then .openParen :: tokens ++ [.closeParen] else tokens

mutual
/-- The tokens of a condition within surroundings that bind by `outer`. -/
def tokensWithin (outer : Nat) (condition : Condition) : List Token :=
  match condition with
  | .group connective children =>
    let inner := binding (.group connective children)
    enclose (inner < outer) (tokensJoined inner connective children)
  | .not child => enclose (3 < outer) (.not :: tokensWithin 3 child)
  | .leaf comparison => enclose (4 < outer) [.leaf comparison.text]
termination_by structural condition
def tokensJoined (inner : Nat) (connective : Connective) (children : List Condition) :
    List Token :=
  match children with
  | [] => []
  | child :: rest =>
    tokensWithin inner child ++
      if rest.isEmpty then [] else .connective connective :: tokensJoined inner connective rest
termination_by structural children
end

def tokens (condition : Condition) : List Token :=
  tokensWithin 0 condition

def expression (condition : Condition) : String :=
  String.join (condition.tokens.map Token.text)

end Condition

end WorkflowRules
