import WorkflowRules.Condition.Basic
import WorkflowRules.Limits

/-! Nodes of a condition are addressed by paths of child indices; the child of a
negation has index zero. Edits rebuild the nodes along the path and no others. -/
namespace WorkflowRules

abbrev Path := List Nat

def pathText (path : Path) : String :=
  "[" ++ ", ".intercalate (path.map toString) ++ "]"

namespace Condition

/-- Why a step of a path leads nowhere. -/
inductive DeadEnd where
  | noChild (index size : Nat)
  | singleChild (index : Nat)
  | inLeaf
deriving DecidableEq

def DeadEnd.message : DeadEnd → String
  | .noChild index size =>
    "index " ++ toString index ++ " is out of bounds for a group of " ++ toString size ++
      " child(ren)"
  | .singleChild index =>
    "index " ++ toString index ++
      " is out of bounds for a NOT node, which has a single child"
  | .inLeaf => "cannot descend into a leaf"

inductive EditError where
  | badPath (path : Path) (step : Nat) (reason : DeadEnd)
  | notAGroup (path : Path)
  | rootRemoval
deriving DecidableEq

def EditError.message : EditError → String
  | .badPath path step reason =>
    "Path " ++ pathText path ++ " is invalid at step " ++ toString step ++ ": " ++
      reason.message
  | .notAGroup path => "Node at path " ++ pathText path ++ " is a leaf and cannot hold children"
  | .rootRemoval => "The root condition cannot be removed"

def child? : Condition → Nat → Except DeadEnd Condition
  | .group _ children, index =>
    match children[index]? with
    | some child => .ok child
    | none => .error (.noChild index children.length)
  | .not child, 0 => .ok child
  | .not _, index => .error (.singleChild index)
  | .leaf _, _ => .error .inLeaf

/-- Puts `next` in the place of an existing child. -/
def setChild : Condition → Nat → Condition → Condition
  | .group connective children, index, next => .group connective (children.set index next)
  | .not _, _, next => .not next
  | .leaf comparison, _, _ => .leaf comparison

/-- Leaves out an existing child. A group keeps a default leaf in place of its last
child, and so does a negation. -/
def dropChild : Condition → Nat → Condition
  | .group connective [_], _ => .group connective [freshLeaf]
  | .group connective children, index => .group connective (children.eraseIdx index)
  | .not _, _ => .not freshLeaf
  | .leaf comparison, _ => .leaf comparison

/-- Adds a node after the children of a group; a negation gets it in place of its
child. None for a leaf. -/
def addNode? : Condition → Condition → Option Condition
  | .group connective children, next => some (.group connective (children ++ [next]))
  | .not _, next => some (.not next)
  | .leaf _, _ => none

/-- The node that `path` leads to from step `step` of the path `whole`. -/
def follow (whole : Path) : Nat → Path → Condition → Except EditError Condition
  | _, [], node => .ok node
  | step, index :: rest, node =>
    match node.child? index with
    | .ok child => follow whole (step + 1) rest child
    | .error reason => .error (.badPath whole step reason)

/-- Changes the node that `path` leads to from step `step` of the path `whole`. -/
def updateFrom (whole : Path) (change : Condition → Except EditError Condition) :
    Nat → Path → Condition → Except EditError Condition
  | _, [], node => change node
  | step, index :: rest, node =>
    match node.child? index with
    | .ok child =>
      (updateFrom whole change (step + 1) rest child).map (node.setChild index)
    | .error reason => .error (.badPath whole step reason)

def get (condition : Condition) (path : Path) : Except EditError Condition :=
  follow path 0 path condition

def replace (condition : Condition) (path : Path) (next : Condition) :
    Except EditError Condition :=
  updateFrom path (fun _ => .ok next) 0 path condition

def remove (condition : Condition) (path : Path) : Except EditError Condition :=
  match path.getLast? with
  | none => .error .rootRemoval
  | some index =>
    let parent := path.dropLast
    updateFrom path (fun node =>
      match node.child? index with
      | .ok _ => .ok (node.dropChild index)
      | .error reason => .error (.badPath path parent.length reason)) 0 parent condition

def add (condition : Condition) (path : Path) (kind : NodeKind) : Except EditError Condition :=
  updateFrom path (fun node =>
    match node.addNode? kind.fresh with
    | some next => .ok next
    | none => .error (.notAGroup path)) 0 path condition

/-- Whether the builder offers a nested group below the node at `path`. The root group
is at level one, so the new group would be at level `path.length + 2`. -/
def groupOffered (path : Path) (limits : Limits) : Bool :=
  path.length + 2 ≤ limits.maxDepth.toNat

end Condition

end WorkflowRules
