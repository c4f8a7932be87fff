/-! Identities of actions, and the drafts of payloads that are kept by identity. -/
namespace WorkflowRules

/-- Identities are issued in turn and compare as their numbers do. -/
structure ActionId where
  number : UInt64
deriving DecidableEq

def ActionId.text (id : ActionId) : String :=
  "ActionId(" ++ toString id.number ++ ")"

/-- Drafts of payloads: text that need not be JSON yet, by the identity of its action. -/
structure Drafts where
  texts : List (ActionId × String)

namespace Drafts

def empty : Drafts := ⟨[]⟩

def get? (drafts : Drafts) (id : ActionId) : Option String :=
  drafts.texts.lookup id

def erase (drafts : Drafts) (id : ActionId) : Drafts :=
  ⟨drafts.texts.filter fun draft => draft.1 ≠ id⟩

def insert (drafts : Drafts) (id : ActionId) (text : String) : Drafts :=
  ⟨(id, text) :: (drafts.erase id).texts⟩

@[simp]
theorem get?_empty (id : ActionId) : empty.get? id = none := rfl

@[simp]
theorem get?_erase (drafts : Drafts) (id other : ActionId) :
    (drafts.erase id).get? other = if other = id then none else drafts.get? other := by
  obtain ⟨texts⟩ := drafts
  simp only [get?, erase]
  induction texts with
  | nil => simp
  | cons draft rest ih => grind

theorem get?_erase_eq_some_iff {drafts : Drafts} {id other : ActionId} {text : String} :
    (drafts.erase id).get? other = some text ↔ other ≠ id ∧ drafts.get? other = some text := by
  rw [get?_erase]
  by_cases same : other = id <;> simp [same]

@[simp]
theorem get?_insert (drafts : Drafts) (id other : ActionId) (text : String) :
    (drafts.insert id text).get? other = if other = id then some text else drafts.get? other := by
  by_cases same : other = id
  · simp [get?, insert, same]
  · have kept := get?_erase drafts id other
    have differs : (other == id) = false := by simpa using same
    simpa [get?, insert, List.lookup_cons, differs, same] using kept

end Drafts

end WorkflowRules
