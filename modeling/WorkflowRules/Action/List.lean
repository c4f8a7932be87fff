import WorkflowRules.Action.Drafts
import WorkflowRules.Action.Form
import WorkflowRules.Action.Issues
import WorkflowRules.Action.PayloadText

/-! The ordered list of actions of a rule under construction. Actions are addressed by
their index, which shifts when an earlier one is removed, while the draft of a
notification's payload is kept by the identity of its action. -/
namespace WorkflowRules

namespace ActionList

structure Entry where
  id : ActionId
  action : Action

inductive EditError where
  | noSuchAction (index size : Nat)
  | noPayload (index : Nat) (kind : ActionKind)
deriving DecidableEq

def EditError.message : EditError → String
  | .noSuchAction index size =>
    "Action index " ++ toString index ++ " is out of bounds for a list of " ++ toString size ++
      " action(s)"
  | .noPayload index kind =>
    "Action at index " ++ toString index ++ " is a " ++ kind.tag ++
      " action and has no payload"

end ActionList

structure ActionList where
  entries : List ActionList.Entry
  drafts : Drafts
  nextId : UInt64

namespace ActionList

def empty : ActionList := ⟨[], .empty, 0⟩

instance : Inhabited ActionList := ⟨empty⟩

def size (list : ActionList) : Nat :=
  list.entries.length

def actions (list : ActionList) : List Action :=
  list.entries.map Entry.action

def get? (list : ActionList) (index : Nat) : Option Action :=
  list.entries[index]?.map Entry.action

def idAt? (list : ActionList) (index : Nat) : Option ActionId :=
  list.entries[index]?.map Entry.id

def indexOf? (list : ActionList) (id : ActionId) : Option Nat :=
  list.entries.findIdx? (·.id = id)

def draft? (list : ActionList) (index : Nat) : Option String :=
  (list.idAt? index).bind list.drafts.get?

def push (list : ActionList) (action : Action) : ActionId × ActionList :=
  (⟨list.nextId⟩,
    { list with
      entries := list.entries ++ [⟨⟨list.nextId⟩, action⟩]
      nextId := list.nextId + 1 })

def add (list : ActionList) (kind : ActionKind) : ActionId × ActionList :=
  list.push kind.initial

def ofActions (actions : List Action) : ActionList :=
  actions.foldl (fun list action => (list.push action).2) empty

/-- An edit changes a list in place: what it has changed before it fails stays changed. -/
abbrev Edit := EStateM EditError ActionList

def entryAt (index : Nat) : Edit Entry := do
  let list ← get
  match list.entries[index]? with
  | some entry => return entry
  | none => throw (.noSuchAction index list.size)

/-- Replaces an action. A draft is dropped, since the new action has its own payload. -/
def update (index : Nat) (next : Action) : Edit Unit := do
  let entry ← entryAt index
  modify fun list => { list with drafts := list.drafts.erase entry.id }
  modify fun list => { list with entries := list.entries.set index { entry with action := next } }

/-- Removes an action together with its draft. -/
def remove (index : Nat) : Edit Action := do
  let entry ← entryAt index
  modify fun list => { list with entries := list.entries.eraseIdx index }
  modify fun list => { list with drafts := list.drafts.erase entry.id }
  return entry.action

/-- Keeps a text as the draft of a notification's payload. -/
def setDraft (index : Nat) (text : String) : Edit Unit := do
  let entry ← entryAt index
  if entry.action.kind = .notify then
    modify fun list => { list with drafts := list.drafts.insert entry.id text }
  else throw (.noPayload index entry.action.kind)

/-- Drops the draft of an action, and gives what it was. -/
def clearDraft (list : ActionList) (index : Nat) : Option String × ActionList :=
  match list.idAt? index with
  | some id => (list.drafts.get? id, { list with drafts := list.drafts.erase id })
  | none => (none, list)

def toJson (list : ActionList) : Json :=
  Action.listToJson list.actions

def payloadIssue (index : Nat) (error : PayloadTextError) : Issue :=
  ⟨.action index (some "payload"), error.message⟩

/-- The issue of a draft that is not the text of a JSON object. -/
def draftIssues (index : Nat) (text : String) : List Issue :=
  match readPayloadText text with
  | .ok _ => []
  | .error error => [payloadIssue index error]

def entryIssues (list : ActionList) (index : Nat) (entry : Entry) : List Issue :=
  entry.action.issues index ++
    match list.drafts.get? entry.id with
    | some text => draftIssues index text
    | none => []

def issues (list : ActionList) : List Issue :=
  (if list.entries.isEmpty then [⟨.actionList, "at least one action is required"⟩] else []) ++
    (list.entries.zipIdx.flatMap fun (entry, index) => list.entryIssues index entry)

def report (list : ActionList) : Report :=
  ⟨list.issues⟩

/-- A notification with its draft, if it has one, as payload, and any other action as it is. -/
def submitted (list : ActionList) (index : Nat) (entry : Entry) : Except Report Action :=
  match entry.action, list.drafts.get? entry.id with
  | .notify notificationType _, some text =>
    match readPayloadText text with
    | .ok payload => .ok (.notify notificationType payload)
    | .error error => .error ⟨[payloadIssue index error]⟩
  | action, _ => .ok action

/-- The actions to submit. Any issue blocks them all. -/
def submit (list : ActionList) : Except Report (List Action) := do
  list.report.unlessBlocked ()
  list.entries.zipIdx.mapM fun (entry, index) => list.submitted index entry

end ActionList

end WorkflowRules
