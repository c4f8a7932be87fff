import WorkflowRules.Proofs.ActionList.Coherence

/-!
The history of a list determines it. The events of a run, which go by identity, say which
actions the list holds and in which order, what each of them is and what draft it has. Indices,
which shift, play no part in what they say.
-/
namespace WorkflowRules.ActionList

namespace Event

def subject : Event → ActionId
  | .issued id _ | .replaced id _ | .removed id | .drafted id _ | .cleared id => id

def issuedId? : Event → Option ActionId
  | .issued id _ => some id
  | _ => none

def removedId? : Event → Option ActionId
  | .removed id => some id
  | _ => none

/-- The action that the event gives to an identity. -/
def given? (id : ActionId) : Event → Option Action
  | .issued other action | .replaced other action => if other = id then some action else none
  | _ => none

/-- What the event makes of the draft of an identity: a text, or nothing. -/
def redrafted? (id : ActionId) : Event → Option (Option String)
  | .drafted other text => if other = id then some (some text) else none
  | .replaced other _ | .removed other | .cleared other => if other = id then some none else none
  | .issued .. => none

end Event

/-- The events of a run, the oldest first. -/
def history (list : ActionList) : List Operation → List Event
  | [] => []
  | op :: rest => (op.event? list).toList ++ history (op.after list) rest

def issuedIds (events : List Event) : List ActionId :=
  events.filterMap Event.issuedId?

def removedIds (events : List Event) : List ActionId :=
  events.filterMap Event.removedId?

/-- What was issued and not removed, in the order of issue. -/
def remaining (events : List Event) : List ActionId :=
  (issuedIds events).filter (· ∉ removedIds events)

/-- The action that was given to an identity last. -/
def lastGiven? (id : ActionId) (events : List Event) : Option Action :=
  (events.filterMap (Event.given? id)).getLast?

/-- The text that an identity was given last as its draft, unless that is gone since. -/
def lastDraft? (id : ActionId) (events : List Event) : Option String :=
  (events.filterMap (Event.redrafted? id)).getLast?.join

/-- How many of the identities that were issued before this one have not been removed. -/
def standing (id : ActionId) (events : List Event) : Nat :=
  ((issuedIds events).takeWhile (· ≠ id)).countP (· ∉ removedIds events)

theorem issuedIds_concat (events : List Event) (event : Event) :
    issuedIds (events ++ [event]) = issuedIds events ++ event.issuedId?.toList := by
  cases event <;> simp [issuedIds, Event.issuedId?]

theorem removedIds_concat (events : List Event) (event : Event) :
    removedIds (events ++ [event]) = removedIds events ++ event.removedId?.toList := by
  cases event <;> simp [removedIds, Event.removedId?]

theorem lastGiven?_concat (id : ActionId) (events : List Event) (event : Event) :
    lastGiven? id (events ++ [event]) = (event.given? id).or (lastGiven? id events) := by
  rw [lastGiven?, List.filterMap_append, List.getLast?_append]
  cases given : event.given? id <;> simp [given, lastGiven?]

theorem lastDraft?_concat (id : ActionId) (events : List Event) (event : Event) :
    lastDraft? id (events ++ [event]) = (event.redrafted? id).getD (lastDraft? id events) := by
  rw [lastDraft?, List.filterMap_append, List.getLast?_append]
  cases redrafted : event.redrafted? id <;> simp [redrafted, lastDraft?]

/-- The list is what its history says. An identity below the next one has been issued, and an
identity that has been removed is one of them, so that the next one has no past. -/
structure Tells (events : List Event) (list : ActionList) : Prop where
  ordered : (issuedIds events).Pairwise fun before later => before.number < later.number
  below : ∀ id ∈ issuedIds events, id.number < list.nextId
  removed : ∀ id ∈ removedIds events, id ∈ issuedIds events
  ids : list.entries.map Entry.id = remaining events
  actions : ∀ entry ∈ list.entries, lastGiven? entry.id events = some entry.action
  drafts : ∀ id, list.drafts.get? id = lastDraft? id events

variable {list : ActionList} {events : List Event}

theorem tells_empty : Tells [] empty :=
  ⟨List.Pairwise.nil, by simp [issuedIds], by simp [removedIds], rfl, by simp [empty],
    fun _ => rfl⟩

theorem Tells.next_not_issued (tells : Tells events list) : ⟨list.nextId⟩ ∉ issuedIds events :=
  fun mem => UInt64.lt_irrefl _ (tells.below _ mem)

theorem Tells.issued_of_present (tells : Tells events list) {id : ActionId}
    (present : id ∈ list.entries.map Entry.id) : id ∈ issuedIds events := by
  rw [tells.ids] at present
  exact (List.mem_filter.1 present).1

/-! ### One event

What an event does to the identities, the actions and the drafts of a list. -/

theorem filter_of_removes_none {event : Event} (none : event.removedId? = none)
    (ids : List ActionId) : (ids.filter fun id => event.removedId? ≠ some id) = ids :=
  List.filter_eq_self.2 fun id _ => by simp [none]

theorem ids_applied (event : Event) :
    (list.applied event).entries.map Entry.id =
      ((list.entries.map Entry.id).filter fun id => event.removedId? ≠ some id) ++
        event.issuedId?.toList := by
  cases event with
  | issued id action =>
    rw [filter_of_removes_none rfl]
    exact List.map_append
  | replaced id next =>
    have keepsId : (fun entry : Entry =>
        (if entry.id = id then { entry with action := next } else entry).id) = Entry.id := by
      funext entry
      split <;> rfl
    rw [filter_of_removes_none rfl]
    simp [applied, Event.issuedId?, Function.comp_def, keepsId]
  | removed id =>
    simp [applied, Event.removedId?, Event.issuedId?, List.filter_map, Function.comp_def, eq_comm]
  | drafted | cleared =>
    rw [filter_of_removes_none rfl]
    exact (List.append_nil _).symm

theorem drafts_applied (event : Event) (id : ActionId) :
    (list.applied event).drafts.get? id = (event.redrafted? id).getD (list.drafts.get? id) := by
  cases event with
  | issued other action => rfl
  | replaced other | removed other | cleared other | drafted other =>
    by_cases same : other = id
    · simp [applied, Event.redrafted?, same]
    · simp [applied, Event.redrafted?, same, Ne.symm same]

-- An action that an event leaves in a list is the one it gives, or it was there before.
theorem mem_applied {event : Event} (fits : event.Fits list) {entry : Entry}
    (fresh : ⟨list.nextId⟩ ∉ list.entries.map Entry.id)
    (mem : entry ∈ (list.applied event).entries) :
    event.given? entry.id = some entry.action ∨
      event.given? entry.id = none ∧ entry ∈ list.entries := by
  cases event with
  | issued id action =>
    obtain rfl : id = ⟨list.nextId⟩ := fits
    rcases List.mem_append.1 mem with old | last
    · have differs : (⟨list.nextId⟩ : ActionId) ≠ entry.id := fun same =>
        fresh (same ▸ List.mem_map_of_mem old)
      exact .inr ⟨if_neg differs, old⟩
    · obtain rfl := List.mem_singleton.1 last
      exact .inl (if_pos rfl)
  | replaced id next =>
    obtain ⟨old, oldMem, rfl⟩ := List.mem_map.1 mem
    by_cases same : old.id = id
    · simp [Event.given?, same]
    · simp [Event.given?, same, Ne.symm same, oldMem]
  | removed id => exact .inr ⟨rfl, (List.mem_filter.1 mem).1⟩
  | drafted id text => exact .inr ⟨rfl, mem⟩
  | cleared id => exact .inr ⟨rfl, mem⟩

theorem issued_applied (tells : Tells events list) {event : Event} (fits : event.Fits list)
    (room : list.nextId.toNat + event.isIssue.toNat < UInt64.size) :
    ((issuedIds (events ++ [event])).Pairwise fun before later => before.number < later.number) ∧
      ∀ id ∈ issuedIds (events ++ [event]), id.number < (list.applied event).nextId := by
  rw [issuedIds_concat]
  cases event with
  | issued id action =>
    obtain rfl : id = ⟨list.nextId⟩ := fits
    have grows : list.nextId < list.nextId + 1 := lt_nextId_succ room
    constructor
    · refine List.pairwise_append.2 ⟨tells.ordered, List.pairwise_singleton .., ?_⟩
      intro id mem last isLast
      obtain rfl := List.mem_singleton.1 isLast
      exact tells.below id mem
    · intro id mem
      rcases List.mem_append.1 mem with old | last
      · exact UInt64.lt_trans (tells.below id old) grows
      · obtain rfl := List.mem_singleton.1 last
        exact grows
  | replaced | removed | drafted | cleared =>
    simp only [Event.issuedId?, Option.toList_none, List.append_nil]
    exact ⟨tells.ordered, tells.below⟩

theorem removed_applied (tells : Tells events list) {event : Event} (fits : event.Fits list) :
    ∀ id ∈ removedIds (events ++ [event]), id ∈ issuedIds (events ++ [event]) := by
  intro id mem
  rw [removedIds_concat] at mem
  rw [issuedIds_concat]
  apply List.mem_append_left
  rcases List.mem_append.1 mem with old | last
  · exact tells.removed id old
  · cases event with
    | removed other =>
      obtain rfl : id = other := by simpa [Event.removedId?] using last
      exact tells.issued_of_present fits
    | issued | replaced | drafted | cleared => simp [Event.removedId?] at last

theorem remaining_concat (tells : Tells events list) {event : Event} (fits : event.Fits list) :
    remaining (events ++ [event]) =
      ((remaining events).filter fun id => event.removedId? ≠ some id) ++
        event.issuedId?.toList := by
  rw [remaining, issuedIds_concat, removedIds_concat]
  cases event with
  | issued id action =>
    obtain rfl : id = ⟨list.nextId⟩ := fits
    have notRemoved : ⟨list.nextId⟩ ∉ removedIds events := fun mem =>
      tells.next_not_issued (tells.removed _ mem)
    simp [Event.issuedId?, Event.removedId?, notRemoved, remaining]
  | removed id =>
    simp [Event.issuedId?, Event.removedId?, remaining, List.filter_filter, eq_comm, and_comm]
  | replaced | drafted | cleared => simp [Event.issuedId?, Event.removedId?, remaining]

theorem tells_applied (tells : Tells events list) {event : Event} (fits : event.Fits list)
    (room : list.nextId.toNat + event.isIssue.toNat < UInt64.size) :
    Tells (events ++ [event]) (list.applied event) := by
  obtain ⟨ordered, below⟩ := issued_applied tells fits room
  refine ⟨ordered, below, removed_applied tells fits, ?_, ?_, ?_⟩
  · rw [ids_applied, remaining_concat tells fits, tells.ids]
  · intro entry mem
    have fresh : ⟨list.nextId⟩ ∉ list.entries.map Entry.id := fun present =>
      tells.next_not_issued (tells.issued_of_present present)
    rw [lastGiven?_concat]
    rcases mem_applied fits fresh mem with given | ⟨kept, old⟩
    · rw [given, Option.some_or]
    · rw [kept, Option.none_or, tells.actions entry old]
  · intro id
    rw [drafts_applied, lastDraft?_concat, tells.drafts]

/-! ### Runs -/

theorem tells_after (tells : Tells events list) (coherent : list.Coherent) (op : Operation)
    (room : list.nextId.toNat + op.inserts.toNat < UInt64.size) :
    Tells (events ++ (op.event? list).toList) (op.after list) := by
  rcases event_exact op coherent.unique with ⟨none, _, same⟩ | ⟨event, some, issues, fits, after⟩
  · rw [none, same]
    simpa using tells
  · rw [some, after]
    rw [← issues] at room
    exact tells_applied tells fits room

-- An operation goes by index and its event by identity, so the induction carries both the
-- invariant and the coherence that makes the two agree.
theorem tells_run (tells : Tells events list) (coherent : list.Coherent) (ops : List Operation)
    (room : list.nextId.toNat + insertions ops < UInt64.size) :
    Tells (events ++ history list ops) (run list ops) := by
  induction ops generalizing list events with
  | nil => simpa [history, run] using tells
  | cons op rest ih =>
    rw [insertions_cons] at room
    obtain ⟨kept, counted⟩ := coherent_after coherent op (by omega)
    have told := ih (tells_after tells coherent op (by omega)) kept (counted ▸ by omega)
    rwa [List.append_assoc] at told

/-- The history of a list that is built of actions and then worked on. -/
def historyOf (actions : List Action) (ops : List Operation) : List Event :=
  history empty (actions.map .push ++ ops)

theorem tells_historyOf (actions : List Action) (ops : List Operation)
    (few : actions.length + insertions ops < UInt64.size) :
    Tells (historyOf actions ops) (run (ofActions actions) ops) := by
  rw [← run_pushes, ← run_append]
  apply tells_run tells_empty coherent_empty
  rw [insertions_append, insertions_pushes]
  simpa [empty] using few

/-! ### Looking up by identity -/

-- Identities that were filtered out in front of one do not count for its index.
theorem findIdx?_filter {id : ActionId} {keep : ActionId → Bool} {ids : List ActionId}
    (mem : id ∈ ids) (kept : keep id = true) :
    (ids.filter keep).findIdx? (· = id) = some ((ids.takeWhile (· ≠ id)).countP keep) := by
  induction ids with
  | nil => simp at mem
  | cons first rest ih =>
    by_cases same : first = id
    · simp [same, kept, List.findIdx?_cons]
    · have inRest : id ∈ rest := (List.mem_cons.1 mem).resolve_left (Ne.symm same)
      by_cases keepsFirst : keep first = true
      · simp [same, keepsFirst, List.findIdx?_cons, ih inRest]
      · simp [same, keepsFirst, ih inRest]

theorem indexOf?_eq_findIdx? (list : ActionList) (id : ActionId) :
    list.indexOf? id = (list.entries.map Entry.id).findIdx? (· = id) := by
  rw [List.findIdx?_map]
  rfl

theorem Tells.indexOf?_of_removed (tells : Tells events list) {id : ActionId}
    (gone : id ∉ remaining events) : list.indexOf? id = none := by
  rw [indexOf?_eq_findIdx?, tells.ids, List.findIdx?_eq_none_iff]
  intro other mem
  simpa using fun same : other = id => gone (same ▸ mem)

theorem Tells.lookup_of_remaining (tells : Tells events list) {id : ActionId}
    (mem : id ∈ remaining events) :
    list.indexOf? id = some (standing id events) ∧
      (∃ action, lastGiven? id events = some action ∧
        list.get? (standing id events) = some action) ∧
      list.draft? (standing id events) = lastDraft? id events := by
  obtain ⟨issued, kept⟩ := List.mem_filter.1 mem
  have place : list.indexOf? id = some (standing id events) := by
    rw [indexOf?_eq_findIdx?, tells.ids]
    exact findIdx?_filter issued kept
  obtain ⟨inside, found, _⟩ := List.findIdx?_eq_some_iff_getElem.1 place
  have there : list.entries[standing id events]? = some list.entries[standing id events] :=
    List.getElem?_eq_getElem inside
  have same : list.entries[standing id events].id = id := by simpa using found
  refine ⟨place, ⟨list.entries[standing id events].action, ?_, by simp [get?, there]⟩, ?_⟩
  · rw [← tells.actions _ (List.getElem_mem inside), same]
  · rw [draft?, idAt?_of_some there, same]
    exact tells.drafts id

/-- The action with an identity, and its draft. -/
def contentOf? (list : ActionList) (id : ActionId) : Option (Action × Option String) := do
  let index ← list.indexOf? id
  return (← list.get? index, list.draft? index)

-- What is said of one identity does not depend on where in the list it stands.
theorem Tells.contentOf?_eq (tells : Tells events list) (id : ActionId) :
    list.contentOf? id =
      if id ∈ remaining events then (lastGiven? id events).map (·, lastDraft? id events)
      else none := by
  by_cases mem : id ∈ remaining events
  · obtain ⟨place, ⟨action, given, there⟩, draft⟩ := tells.lookup_of_remaining mem
    rw [if_pos mem, contentOf?, place, given]
    simp [there, draft]
  · rw [if_neg mem, contentOf?, tells.indexOf?_of_removed mem]
    rfl

theorem contentOf?_applied (tells : Tells events list) {event : Event} (fits : event.Fits list)
    (room : list.nextId.toNat + event.isIssue.toNat < UInt64.size) {id : ActionId}
    (other : event.subject ≠ id) : (list.applied event).contentOf? id = list.contentOf? id := by
  have given : event.given? id = none := by
    cases event <;> simp_all [Event.subject, Event.given?]
  have redrafted : event.redrafted? id = none := by
    cases event <;> simp_all [Event.subject, Event.redrafted?]
  have stays : id ∈ remaining (events ++ [event]) ↔ id ∈ remaining events := by
    rw [remaining_concat tells fits]
    cases event <;>
      simp_all [Event.subject, Event.removedId?, Event.issuedId?, eq_comm]
  rw [(tells_applied tells fits room).contentOf?_eq, tells.contentOf?_eq, lastGiven?_concat,
    lastDraft?_concat, given, redrafted]
  simp [stays]

/-- The identity that an operation is addressed to, by its index. -/
def Operation.addressed? (list : ActionList) : Operation → Option ActionId
  | .update index _ | .remove index | .setDraft index _ | .clearDraft index => list.idAt? index
  | .add _ | .push _ => none

theorem subject_of_event? {op : Operation} {event : Event}
    (happened : op.event? list = some event) :
    event.subject = ⟨list.nextId⟩ ∨ op.addressed? list = some event.subject := by
  unfold Operation.event? at happened
  split at happened
  · cases op with
    | add | push =>
      obtain rfl := Option.some.inj happened
      exact .inl rfl
    | update | remove | setDraft | clearDraft =>
      obtain ⟨id, there, rfl⟩ := Option.map_eq_some_iff.1 happened
      exact .inr there
  · cases happened

theorem contentOf?_after (tells : Tells events list) (coherent : list.Coherent) (op : Operation)
    (room : list.nextId.toNat + op.inserts.toNat < UInt64.size) {id : ActionId}
    (issued : id ∈ issuedIds events) (other : op.addressed? list ≠ some id) :
    (op.after list).contentOf? id = list.contentOf? id := by
  rcases event_exact op coherent.unique with
    ⟨_, _, same⟩ | ⟨event, happened, issues, fits, after⟩
  · rw [same]
  · rw [after]
    rw [← issues] at room
    apply contentOf?_applied tells fits room
    rintro rfl
    rcases subject_of_event? happened with next | addressed
    · exact tells.next_not_issued (next ▸ issued)
    · exact other addressed

/-- After any run, an identity that was removed is nowhere and is not issued again, and any
other that was ever issued stands behind those issued before it, with the action and the draft
that it was given last. On the way, what an operation does to one action it does to no other. -/
theorem history_determines_list (actions : List Action) (ops : List Operation)
    (few : actions.length + insertions ops < UInt64.size) :
    (issuedIds (historyOf actions ops)).Nodup ∧
      (∀ id ∈ issuedIds (historyOf actions ops),
        if id ∈ removedIds (historyOf actions ops) then
          (run (ofActions actions) ops).indexOf? id = none
        else
          (run (ofActions actions) ops).indexOf? id =
              some (standing id (historyOf actions ops)) ∧
            (∃ action, lastGiven? id (historyOf actions ops) = some action ∧
              (run (ofActions actions) ops).get? (standing id (historyOf actions ops)) =
                some action) ∧
            (run (ofActions actions) ops).draft? (standing id (historyOf actions ops)) =
              lastDraft? id (historyOf actions ops)) ∧
      ∀ before op later, ops = before ++ op :: later →
        ∀ id ∈ issuedIds (historyOf actions before),
          op.addressed? (run (ofActions actions) before) ≠ some id →
          (op.after (run (ofActions actions) before)).contentOf? id =
            (run (ofActions actions) before).contentOf? id := by
  have tells := tells_historyOf actions ops few
  refine ⟨tells.ordered.imp fun {before later} less same => ?_, ?_, ?_⟩
  · exact UInt64.lt_irrefl _ (same ▸ less)
  · intro id issued
    split
    · next gone => exact tells.indexOf?_of_removed fun mem => by simp_all [remaining]
    · next kept => exact tells.lookup_of_remaining (List.mem_filter.2 ⟨issued, by simpa using kept⟩)
  · rintro before op later rfl id issued other
    rw [insertions_append, insertions_cons] at few
    have fewBefore : actions.length + insertions before < UInt64.size := by omega
    obtain ⟨coherent, counted⟩ := coherent_run_ofActions actions before fewBefore
    exact contentOf?_after (tells_historyOf actions before fewBefore) coherent op
      (counted ▸ by omega) issued other

theorem history_sample :
    sampleActions.length + insertions sampleEdits < UInt64.size ∧
      (run (ofActions sampleActions) sampleEdits).indexOf? ⟨0⟩ = none ∧
      (run (ofActions sampleActions) sampleEdits).indexOf? ⟨2⟩ = some 1 ∧
      (run (ofActions sampleActions) sampleEdits).get? 1 = some (.notify "last" .empty) ∧
      (run (ofActions sampleActions) sampleEdits).draft? 1 = some "draft" := by
  have few : sampleActions.length + insertions sampleEdits < UInt64.size := by decide
  obtain ⟨_, determined, _⟩ := history_determines_list sampleActions sampleEdits few
  have first := determined ⟨0⟩ (by decide)
  have last := determined ⟨2⟩ (by decide)
  rw [if_pos (by decide)] at first
  rw [if_neg (by decide)] at last
  obtain ⟨place, ⟨action, given, there⟩, draft⟩ := last
  cases given
  exact ⟨few, first, place, there, draft⟩

end WorkflowRules.ActionList
