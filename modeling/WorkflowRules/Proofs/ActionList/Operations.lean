import WorkflowRules.Action.List

/-!
Operations on an action list, and runs of them. An operation addresses an action by its
index. What it did is told by an event, which goes by identity, and where identities are
unique the two agree: performing an operation is applying its event.
-/
namespace WorkflowRules.ActionList

inductive Operation where
  | add (kind : ActionKind)
  | push (action : Action)
  | update (index : Nat) (next : Action)
  | remove (index : Nat)
  | setDraft (index : Nat) (text : String)
  | clearDraft (index : Nat)

namespace Operation

def perform : Operation → Edit Unit
  | .add kind => modify fun list => (list.add kind).2
  | .push action => modify fun list => (list.push action).2
  | .update index next => ActionList.update index next
  | .remove index => (fun _ => ()) <$> ActionList.remove index
  | .setDraft index text => ActionList.setDraft index text
  | .clearDraft index => modify fun list => (list.clearDraft index).2

def succeeds (op : Operation) (list : ActionList) : Bool :=
  match op.perform list with
  | .ok .. => true
  | .error .. => false

/-- The list that the operation leaves, whether it succeeds or fails. -/
def after (op : Operation) (list : ActionList) : ActionList :=
  match op.perform list with
  | .ok _ next => next
  | .error _ next => next

def inserts : Operation → Bool
  | .add _ | .push _ => true
  | _ => false

/-- The index at which there must be an action. Clearing a draft does not need one. -/
def target? : Operation → Option Nat
  | .update index _ | .remove index | .setDraft index _ => some index
  | .add _ | .push _ | .clearDraft _ => none

end Operation

def run (list : ActionList) (ops : List Operation) : ActionList :=
  ops.foldl (fun list op => op.after list) list

variable {list : ActionList} {index : Nat} {entry : Entry}

theorem entryAt_eq : entryAt index list =
    match list.entries[index]? with
    | some entry => .ok entry list
    | none => .error (.noSuchAction index list.size) list := by
  change (match list.entries[index]? with
    | some entry => pure entry
    | none => throw (.noSuchAction index list.size) : Edit Entry) list = _
  cases list.entries[index]? <;> rfl

theorem entryAt_of_some (found : list.entries[index]? = some entry) :
    entryAt index list = .ok entry list := by
  rw [entryAt_eq, found]

theorem entryAt_of_none (missing : list.entries[index]? = none) :
    entryAt index list = .error (.noSuchAction index list.size) list := by
  rw [entryAt_eq, missing]

theorem perform_update (found : list.entries[index]? = some entry) (next : Action) :
    (Operation.update index next).perform list = .ok ()
      { list with
        entries := list.entries.set index { entry with action := next }
        drafts := list.drafts.erase entry.id } := by
  simp only [Operation.perform, update, bind, EStateM.bind, entryAt_of_some found]
  rfl

theorem perform_remove (found : list.entries[index]? = some entry) :
    (Operation.remove index).perform list = .ok ()
      { list with
        entries := list.entries.eraseIdx index
        drafts := list.drafts.erase entry.id } := by
  simp only [Operation.perform, remove, Functor.map, EStateM.map, bind, EStateM.bind,
    entryAt_of_some found]
  rfl

theorem perform_setDraft (found : list.entries[index]? = some entry)
    (notify : entry.action.kind = .notify) (text : String) :
    (Operation.setDraft index text).perform list =
      .ok () { list with drafts := list.drafts.insert entry.id text } := by
  simp only [Operation.perform, setDraft, bind, EStateM.bind, entryAt_of_some found, notify]
  rfl

theorem perform_setDraft_of_other (found : list.entries[index]? = some entry)
    (other : entry.action.kind ≠ .notify) (text : String) :
    (Operation.setDraft index text).perform list =
      .error (.noPayload index entry.action.kind) list := by
  simp only [Operation.perform, setDraft, bind, EStateM.bind, entryAt_of_some found, other]
  rfl

theorem perform_of_none {op : Operation} (target : op.target? = some index)
    (missing : list.entries[index]? = none) :
    op.perform list = .error (.noSuchAction index list.size) list := by
  cases op with
  | add | push | clearDraft => cases target
  | update other next | remove other | setDraft other text =>
    obtain rfl : other = index := Option.some.inj target
    simp only [Operation.perform, update, remove, setDraft, Functor.map, EStateM.map, bind,
      EStateM.bind, entryAt_of_none missing]

/-! ### Events -/

/-- What an operation did, told by identity. -/
inductive Event where
  | issued (id : ActionId) (action : Action)
  | replaced (id : ActionId) (next : Action)
  | removed (id : ActionId)
  | drafted (id : ActionId) (text : String)
  | cleared (id : ActionId)

def Event.isIssue : Event → Bool
  | .issued .. => true
  | _ => false

/-- The event of an operation: none if it fails or if nothing stands at its index. -/
def Operation.event? (op : Operation) (list : ActionList) : Option Event :=
  if op.succeeds list then
    match op with
    | .add kind => some (.issued (list.add kind).1 kind.initial)
    | .push action => some (.issued (list.push action).1 action)
    | .update index next => (list.idAt? index).map (.replaced · next)
    | .remove index => (list.idAt? index).map .removed
    | .setDraft index text => (list.idAt? index).map (.drafted · text)
    | .clearDraft index => (list.idAt? index).map .cleared
  else none

/-- The list that an event leaves. No index is involved. -/
def applied (list : ActionList) : Event → ActionList
  | .issued id action =>
    { list with
      entries := list.entries ++ [⟨id, action⟩]
      nextId := list.nextId + 1 }
  | .replaced id next =>
    { list with
      entries := list.entries.map fun entry =>
        if entry.id = id then { entry with action := next } else entry
      drafts := list.drafts.erase id }
  | .removed id =>
    { list with
      entries := list.entries.filter fun entry => entry.id ≠ id
      drafts := list.drafts.erase id }
  | .drafted id text => { list with drafts := list.drafts.insert id text }
  | .cleared id => { list with drafts := list.drafts.erase id }

/-- The action with this identity is there, and it is a notification. -/
def Notifies (list : ActionList) (id : ActionId) : Prop :=
  ∃ entry ∈ list.entries, entry.id = id ∧ entry.action.kind = .notify

/-- What holds of a list that an event befalls. -/
def Event.Fits (list : ActionList) : Event → Prop
  | .issued id _ => id = ⟨list.nextId⟩
  | .drafted id _ => list.Notifies id
  | .replaced id _ | .removed id | .cleared id => id ∈ list.entries.map Entry.id

def UniqueIds (entries : List Entry) : Prop :=
  (entries.map Entry.id).Nodup

theorem id_ne_of_unique {first other : Entry} {rest : List Entry}
    (unique : UniqueIds (first :: rest)) (mem : other ∈ rest) : other.id ≠ first.id :=
  fun same => (List.nodup_cons.1 unique).1 (same ▸ List.mem_map_of_mem mem)

theorem UniqueIds.tail {first : Entry} {rest : List Entry}
    (unique : UniqueIds (first :: rest)) : UniqueIds rest :=
  (List.nodup_cons.1 unique).2

theorem index_eq_of_unique {entries : List Entry} {place : Nat} {other : Entry}
    (unique : UniqueIds entries) (found : entries[index]? = some entry)
    (there : entries[place]? = some other) (same : other.id = entry.id) : place = index := by
  have inside : place < (entries.map Entry.id).length := by
    rw [List.length_map]
    exact (List.getElem?_eq_some_iff.1 there).1
  have equal : (entries.map Entry.id)[place]? = (entries.map Entry.id)[index]? := by
    rw [List.getElem?_map, List.getElem?_map, there, found, Option.map_some, same, Option.map_some]
  exact (List.getElem?_inj inside unique).1 equal

-- Where identities are unique, an index and the identity at it mean the same entry.
theorem set_of_unique {entries : List Entry} (unique : UniqueIds entries)
    (found : entries[index]? = some entry) (next : Action) :
    entries.set index { entry with action := next } =
      entries.map fun other =>
        if other.id = entry.id then { other with action := next } else other := by
  induction entries generalizing index with
  | nil => simp at found
  | cons first rest ih =>
    cases index with
    | zero =>
      -- No later entry has this identity, so the rest stays as it is.
      obtain rfl : first = entry := by simpa using found
      have kept : (rest.map fun other =>
          if other.id = first.id then { other with action := next } else other) = rest := by
        rw [List.map_congr_left fun other mem => if_neg (id_ne_of_unique unique mem)]
        exact List.map_id' rest
      rw [List.set_cons_zero, List.map_cons, if_pos rfl, kept]
    | succ index =>
      have foundRest : rest[index]? = some entry := by simpa using found
      have differs := id_ne_of_unique unique (List.mem_of_getElem? foundRest)
      rw [List.set_cons_succ, List.map_cons, if_neg differs.symm, ih unique.tail foundRest]

theorem eraseIdx_of_unique {entries : List Entry} (unique : UniqueIds entries)
    (found : entries[index]? = some entry) :
    entries.eraseIdx index = entries.filter fun other => other.id ≠ entry.id := by
  induction entries generalizing index with
  | nil => simp at found
  | cons first rest ih =>
    cases index with
    | zero =>
      obtain rfl : first = entry := by simpa using found
      have kept : (rest.filter fun other => other.id ≠ first.id) = rest :=
        List.filter_eq_self.2 fun other mem => by simpa using id_ne_of_unique unique mem
      rw [List.eraseIdx_cons_zero, List.filter_cons_of_neg (by simp), kept]
    | succ index =>
      have foundRest : rest[index]? = some entry := by simpa using found
      have differs := id_ne_of_unique unique (List.mem_of_getElem? foundRest)
      rw [List.eraseIdx_cons_succ, ih unique.tail foundRest,
        List.filter_cons_of_pos (by simpa using differs.symm)]

namespace Operation

variable {op : Operation} {next : ActionList}

theorem after_of_ok (done : op.perform list = .ok () next) : op.after list = next := by
  rw [after, done]

theorem succeeds_of_ok (done : op.perform list = .ok () next) : op.succeeds list = true := by
  rw [succeeds, done]

theorem nothing_of_error {error : EditError} (failed : op.perform list = .error error list)
    (keeps : op.inserts = false) :
    op.event? list = none ∧ op.inserts = false ∧ op.after list = list := by
  have fails : ¬ op.succeeds list = true := by simp [succeeds, failed]
  exact ⟨if_neg fails, keeps, by rw [after, failed]⟩

end Operation

theorem idAt?_of_some (found : list.entries[index]? = some entry) :
    list.idAt? index = some entry.id := by
  simp [idAt?, found]

theorem entry_id_mem (found : list.entries[index]? = some entry) :
    entry.id ∈ list.entries.map Entry.id :=
  List.mem_map_of_mem (List.mem_of_getElem? found)

theorem idAt?_of_none (missing : list.entries[index]? = none) : list.idAt? index = none := by
  simp [idAt?, missing]

-- Everything that an operation can do to a list is nothing or what its event says. An operation
-- with an index finds an entry there or fails, and what it does there is told by the identity.
theorem event_exact (op : Operation) (unique : UniqueIds list.entries) :
    (op.event? list = none ∧ op.inserts = false ∧ op.after list = list) ∨
      ∃ event, op.event? list = some event ∧ event.isIssue = op.inserts ∧ event.Fits list ∧
        op.after list = list.applied event := by
  cases op with
  | add kind => exact .inr ⟨_, rfl, rfl, rfl, rfl⟩
  | push action => exact .inr ⟨_, rfl, rfl, rfl, rfl⟩
  | update index next =>
    cases found : list.entries[index]? with
    | none => exact .inl (Operation.nothing_of_error (perform_of_none rfl found) rfl)
    | some entry =>
      have done := perform_update found next
      refine .inr ⟨.replaced entry.id next, ?_, rfl, entry_id_mem found, ?_⟩
      · rw [Operation.event?, if_pos (Operation.succeeds_of_ok done), idAt?_of_some found]
        rfl
      · rw [Operation.after_of_ok done, set_of_unique unique found, applied]
  | remove index =>
    cases found : list.entries[index]? with
    | none => exact .inl (Operation.nothing_of_error (perform_of_none rfl found) rfl)
    | some entry =>
      have done := perform_remove found
      refine .inr ⟨.removed entry.id, ?_, rfl, entry_id_mem found, ?_⟩
      · rw [Operation.event?, if_pos (Operation.succeeds_of_ok done), idAt?_of_some found]
        rfl
      · rw [Operation.after_of_ok done, eraseIdx_of_unique unique found, applied]
  | setDraft index text =>
    cases found : list.entries[index]? with
    | none => exact .inl (Operation.nothing_of_error (perform_of_none rfl found) rfl)
    | some entry =>
      by_cases notify : entry.action.kind = .notify
      · have done := perform_setDraft found notify text
        refine .inr ⟨.drafted entry.id text, ?_, rfl,
          ⟨entry, List.mem_of_getElem? found, rfl, notify⟩, Operation.after_of_ok done⟩
        rw [Operation.event?, if_pos (Operation.succeeds_of_ok done), idAt?_of_some found]
        rfl
      · exact .inl (Operation.nothing_of_error (perform_setDraft_of_other found notify text) rfl)
  | clearDraft index =>
    have done : (Operation.clearDraft index).perform list = .ok () (list.clearDraft index).2 := rfl
    have event : (Operation.clearDraft index).event? list = (list.idAt? index).map .cleared := rfl
    cases found : list.entries[index]? with
    | none =>
      have missing := idAt?_of_none found
      refine .inl ⟨by rw [event, missing]; rfl, rfl, ?_⟩
      rw [Operation.after_of_ok done, clearDraft, missing]
    | some entry =>
      have present := idAt?_of_some found
      refine .inr ⟨.cleared entry.id, by rw [event, present]; rfl, rfl, entry_id_mem found, ?_⟩
      rw [Operation.after_of_ok done, clearDraft, present, applied]

/-- An operation fails where there is no action or no payload, and then it has done nothing. -/
theorem perform_error {op : Operation} {error : EditError} {next : ActionList}
    (failed : op.perform list = .error error next) :
    next = list ∧
      ((∃ index, op.target? = some index ∧ list.size ≤ index ∧
          error = .noSuchAction index list.size) ∨
        ∃ index text action, op = .setDraft index text ∧ list.get? index = some action ∧
          action.kind ≠ .notify ∧ error = .noPayload index action.kind) := by
  cases target : op.target? with
  | none => cases op <;> cases target <;> cases failed
  | some index =>
    cases found : list.entries[index]? with
    | none =>
      rw [perform_of_none target found] at failed
      cases failed
      exact ⟨rfl, .inl ⟨index, rfl, List.getElem?_eq_none_iff.1 found, rfl⟩⟩
    | some entry =>
      cases op with
      | add | push | clearDraft => cases target
      | update other action =>
        obtain rfl : other = index := Option.some.inj target
        rw [perform_update found] at failed
        cases failed
      | remove other =>
        obtain rfl : other = index := Option.some.inj target
        rw [perform_remove found] at failed
        cases failed
      | setDraft other text =>
        obtain rfl : other = index := Option.some.inj target
        by_cases notify : entry.action.kind = .notify
        · rw [perform_setDraft found notify] at failed
          cases failed
        · rw [perform_setDraft_of_other found notify] at failed
          cases failed
          exact ⟨rfl, .inr ⟨_, text, entry.action, rfl, by simp [get?, found], notify, rfl⟩⟩

end WorkflowRules.ActionList
