import WorkflowRules.Condition.Operator
import WorkflowRules.Json.Value
import WorkflowRules.Text.Case

/-! Conditions: boolean expressions over comparisons of fields. Groups join any number
of children, none included; a negation has one child. -/
namespace WorkflowRules

/-- A comparison of the field at `path`; a null value stands for an absent one. -/
structure Leaf where
  path : String
  operator : Operator
  value : Json.Value

inductive Connective where
  | all
  | any
deriving DecidableEq

inductive Condition where
  | group (connective : Connective) (children : List Condition)
  | not (child : Condition)
  | leaf (comparison : Leaf)

namespace Condition

/-- What every new node starts with. -/
def freshLeaf : Condition :=
  .leaf ⟨"status", .eq, .string "New"⟩

def initial : Condition :=
  .group .all [freshLeaf]

instance : Inhabited Condition := ⟨initial⟩

def isGroup : Condition → Bool
  | .group .. => true
  | _ => false

def isNot : Condition → Bool
  | .not _ => true
  | _ => false

def isLeaf : Condition → Bool
  | .leaf _ => true
  | _ => false

def children? : Condition → Option (List Condition)
  | .group _ children => some children
  | _ => none

mutual
/-- Nested levels of groups and negations; none for a leaf. -/
def depth : Condition → Nat
  | .group _ children => 1 + depthMax children
  | .not child => 1 + depth child
  | .leaf _ => 0
termination_by structural condition => condition
def depthMax : List Condition → Nat
  | [] => 0
  | child :: rest => max (depth child) (depthMax rest)
termination_by structural children => children
end

mutual
def leafCount : Condition → Nat
  | .group _ children => leafCountSum children
  | .not child => leafCount child
  | .leaf _ => 1
termination_by structural condition => condition
def leafCountSum : List Condition → Nat
  | [] => 0
  | child :: rest => leafCount child + leafCountSum rest
termination_by structural children => children
end

mutual
/-- The paths of all leaves, in order, with repetitions. -/
def leafPaths : Condition → List String
  | .group _ children => leafPathsAll children
  | .not child => leafPaths child
  | .leaf comparison => [comparison.path]
termination_by structural condition => condition
def leafPathsAll : List Condition → List String
  | [] => []
  | child :: rest => leafPaths child ++ leafPathsAll rest
termination_by structural children => children
end

/-- The distinct paths, in the order in which they first occur. -/
def fields (condition : Condition) : List String :=
  condition.leafPaths.eraseDups

mutual
/-- Gives every empty group a default leaf. -/
def normalize : Condition → Condition
  | .group connective [] => .group connective [freshLeaf]
  | .group connective (child :: rest) =>
    .group connective (normalize child :: normalizeAll rest)
  | .not child => .not (normalize child)
  | .leaf comparison => .leaf comparison
termination_by structural condition => condition
def normalizeAll : List Condition → List Condition
  | [] => []
  | child :: rest => normalize child :: normalizeAll rest
termination_by structural children => children
end

end Condition

/-- Kinds of nodes that an edit can add. -/
inductive NodeKind where
  | leaf
  | group (connective : Connective)
  | not
deriving DecidableEq

namespace NodeKind

def fresh : NodeKind → Condition
  | .leaf => .freshLeaf
  | .group connective => .group connective [.freshLeaf]
  | .not => .not .freshLeaf

def ofName? : String → Option NodeKind
  | "leaf" => some .leaf
  | "all" => some (.group .all)
  | "any" => some (.group .any)
  | "not" => some .not
  | _ => none

/-- Blanks around the name and its case do not matter. -/
def parse (text : String) : Except String NodeKind :=
  match ofName? (Text.lower (Text.trim text)) with
  | some kind => .ok kind
  | none =>
    .error ("invalid node kind '" ++ text ++ "'; supported values are leaf, all, any, not")

end NodeKind

end WorkflowRules
