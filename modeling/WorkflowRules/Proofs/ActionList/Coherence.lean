import WorkflowRules.Loading
import WorkflowRules.Proofs.ActionList.Operations
import WorkflowRules.Proofs.Steps

/-!
What holds of a list after any run of operations, as long as the identities do not run out:
the three fields of a list belong together, so that an identity has one place and a draft has
one notification.
-/
namespace WorkflowRules.ActionList

/-- Identities increase along the list and lie below the next one, so none stands twice and
the next one is new. A draft is the draft of a notification that is in the list. -/
structure Coherent (list : ActionList) : Prop where
  increasing : list.entries.Pairwise fun before later => before.id.number < later.id.number
  below : ∀ entry ∈ list.entries, entry.id.number < list.nextId
  drafted : ∀ id text, list.drafts.get? id = some text → list.Notifies id

variable {list : ActionList}

theorem Coherent.unique (coherent : list.Coherent) : UniqueIds list.entries := by
  refine List.pairwise_map.2 (coherent.increasing.imp fun {before later} less same => ?_)
  exact UInt64.lt_irrefl _ (same ▸ less)

theorem coherent_empty : empty.Coherent :=
  ⟨List.Pairwise.nil, by simp [empty], by simp [empty]⟩

-- The next identity does not wrap around while there is room for one more.
theorem toNat_nextId_succ (room : list.nextId.toNat + 1 < UInt64.size) :
    (list.nextId + 1).toNat = list.nextId.toNat + 1 := by
  rw [UInt64.toNat_add]
  exact Nat.mod_eq_of_lt room

theorem lt_nextId_succ (room : list.nextId.toNat + 1 < UInt64.size) :
    list.nextId < list.nextId + 1 := by
  rw [UInt64.lt_iff_toNat_lt, toNat_nextId_succ room]
  exact Nat.lt_succ_self _

-- The new identity lies above all others, and its entry comes last.
theorem coherent_issued (coherent : list.Coherent) (action : Action)
    (room : list.nextId.toNat + 1 < UInt64.size) :
    (list.applied (.issued ⟨list.nextId⟩ action)).Coherent := by
  have grows : list.nextId < list.nextId + 1 := lt_nextId_succ room
  constructor
  · refine List.pairwise_append.2 ⟨coherent.increasing, List.pairwise_singleton .., ?_⟩
    intro entry mem last isLast
    obtain rfl := List.mem_singleton.1 isLast
    exact coherent.below entry mem
  · intro entry mem
    rcases List.mem_append.1 mem with old | last
    · exact UInt64.lt_trans (coherent.below entry old) grows
    · obtain rfl := List.mem_singleton.1 last
      exact grows
  · intro id text drafted
    obtain ⟨entry, mem, same, notify⟩ := coherent.drafted id text drafted
    exact ⟨entry, List.mem_append_left _ mem, same, notify⟩

-- The action may change its kind, so the draft must go with it.
theorem coherent_replaced (coherent : list.Coherent) (id : ActionId) (next : Action) :
    (list.applied (.replaced id next)).Coherent := by
  have keepsId : ∀ entry : Entry,
      (if entry.id = id then { entry with action := next } else entry).id = entry.id := by
    intro entry
    split <;> rfl
  constructor
  · refine List.pairwise_map.2 (coherent.increasing.imp fun {before later} less => ?_)
    rwa [keepsId, keepsId]
  · intro entry mem
    obtain ⟨old, oldMem, rfl⟩ := List.mem_map.1 mem
    rw [keepsId]
    exact coherent.below old oldMem
  · intro other text drafted
    obtain ⟨different, before⟩ := Drafts.get?_erase_eq_some_iff.1 drafted
    obtain ⟨entry, mem, same, notify⟩ := coherent.drafted other text before
    have kept : (if entry.id = id then { entry with action := next } else entry) = entry :=
      if_neg (same ▸ different)
    exact ⟨entry, List.mem_map.2 ⟨entry, mem, kept⟩, same, notify⟩

theorem coherent_removed (coherent : list.Coherent) (id : ActionId) :
    (list.applied (.removed id)).Coherent := by
  constructor
  · exact coherent.increasing.filter _
  · intro entry mem
    exact coherent.below entry (List.mem_filter.1 mem).1
  · intro other text drafted
    obtain ⟨different, before⟩ := Drafts.get?_erase_eq_some_iff.1 drafted
    obtain ⟨entry, mem, same, notify⟩ := coherent.drafted other text before
    exact ⟨entry, List.mem_filter.2 ⟨mem, by simpa [same] using different⟩, same, notify⟩

theorem coherent_drafted (coherent : list.Coherent) (id : ActionId) (text : String)
    (notifies : list.Notifies id) : (list.applied (.drafted id text)).Coherent := by
  refine ⟨coherent.increasing, coherent.below, ?_⟩
  intro other kept drafted
  rw [applied, Drafts.get?_insert] at drafted
  split at drafted
  · next same => exact same ▸ notifies
  · exact coherent.drafted other kept drafted

theorem coherent_cleared (coherent : list.Coherent) (id : ActionId) :
    (list.applied (.cleared id)).Coherent := by
  refine ⟨coherent.increasing, coherent.below, ?_⟩
  intro other text drafted
  obtain ⟨_, before⟩ := Drafts.get?_erase_eq_some_iff.1 drafted
  exact coherent.drafted other text before

theorem coherent_applied (coherent : list.Coherent) {event : Event} (fits : event.Fits list)
    (room : list.nextId.toNat + event.isIssue.toNat < UInt64.size) :
    (list.applied event).Coherent := by
  cases event with
  | issued id action =>
    obtain rfl : id = ⟨list.nextId⟩ := fits
    exact coherent_issued coherent action room
  | replaced id next => exact coherent_replaced coherent id next
  | removed id => exact coherent_removed coherent id
  | drafted id text => exact coherent_drafted coherent id text fits
  | cleared id => exact coherent_cleared coherent id

theorem toNat_nextId_applied {event : Event}
    (room : list.nextId.toNat + event.isIssue.toNat < UInt64.size) :
    (list.applied event).nextId.toNat = list.nextId.toNat + event.isIssue.toNat := by
  cases event with
  | issued id action => exact toNat_nextId_succ room
  | replaced | removed | drafted | cleared => rfl

/-! ### Runs -/

theorem coherent_after (coherent : list.Coherent) (op : Operation)
    (room : list.nextId.toNat + op.inserts.toNat < UInt64.size) :
    (op.after list).Coherent ∧
      (op.after list).nextId.toNat = list.nextId.toNat + op.inserts.toNat := by
  rcases event_exact op coherent.unique with ⟨_, keeps, same⟩ | ⟨event, _, issues, fits, after⟩
  · rw [same, keeps]
    exact ⟨coherent, rfl⟩
  · rw [after, ← issues]
    rw [← issues] at room
    exact ⟨coherent_applied coherent fits room, toNat_nextId_applied room⟩

/-- How many actions a run inserts. -/
def insertions (ops : List Operation) : Nat :=
  ops.countP Operation.inserts

theorem insertions_cons (op : Operation) (ops : List Operation) :
    insertions (op :: ops) = op.inserts.toNat + insertions ops := by
  rw [insertions, List.countP_cons, Nat.add_comm]
  cases op.inserts <;> rfl

theorem insertions_append (ops more : List Operation) :
    insertions (ops ++ more) = insertions ops + insertions more :=
  List.countP_append

-- The count of identities is part of the induction: without it the next step might wrap around.
theorem coherent_run (coherent : list.Coherent) (ops : List Operation)
    (room : list.nextId.toNat + insertions ops < UInt64.size) :
    (run list ops).Coherent ∧
      (run list ops).nextId.toNat = list.nextId.toNat + insertions ops := by
  induction ops generalizing list with
  | nil => exact ⟨coherent, rfl⟩
  | cons op rest ih =>
    rw [insertions_cons] at room ⊢
    obtain ⟨kept, counted⟩ := coherent_after coherent op (by omega)
    rw [← Nat.add_assoc, ← counted]
    exact ih kept (counted ▸ by omega)

-- Building a list is inserting its actions one by one.
theorem run_pushes (actions : List Action) :
    run empty (actions.map .push) = ofActions actions :=
  List.foldl_map ..

theorem insertions_pushes (actions : List Action) :
    insertions (actions.map .push) = actions.length := by
  induction actions with
  | nil => rfl
  | cons action rest ih =>
    rw [List.map_cons, insertions_cons, ih, List.length_cons, Nat.add_comm]
    rfl

theorem run_append (ops more : List Operation) :
    run list (ops ++ more) = run (run list ops) more :=
  List.foldl_append

theorem coherent_run_ofActions (actions : List Action) (ops : List Operation)
    (few : actions.length + insertions ops < UInt64.size) :
    (run (ofActions actions) ops).Coherent ∧
      (run (ofActions actions) ops).nextId.toNat = actions.length + insertions ops := by
  have counted : insertions (actions.map .push ++ ops) = actions.length + insertions ops := by
    rw [insertions_append, insertions_pushes]
  have result := coherent_run coherent_empty (actions.map .push ++ ops)
    (by simpa [empty, counted] using few)
  rw [run_append, run_pushes, counted] at result
  simpa [empty] using result

/-! ### From the start on -/

/-- A list that nothing has been done to: an empty one, one built of actions, or a loaded one. -/
def Fresh (list : ActionList) : Prop :=
  list = empty ∨ (∃ actions, list = ofActions actions) ∨ ∃ text, load text = .ok list

theorem ofActions_of_fresh (fresh : Fresh list) : ∃ actions, list = ofActions actions := by
  rcases fresh with rfl | built | ⟨text, loaded⟩
  · exact ⟨[], rfl⟩
  · exact built
  · obtain ⟨actions, _, same⟩ := map_eq_ok.1 loaded
    exact ⟨actions, same.symm⟩

theorem actions_ofActions (actions : List Action) : (ofActions actions).actions = actions := by
  suffices ∀ list : ActionList,
      (actions.foldl (fun list action => (list.push action).2) list).actions =
        list.actions ++ actions from this empty
  induction actions with
  | nil => exact fun list => (List.append_nil _).symm
  | cons action rest ih =>
    intro list
    rw [List.foldl_cons, ih]
    simp [ActionList.actions, push]

theorem size_ofActions (actions : List Action) : (ofActions actions).size = actions.length := by
  rw [← congrArg List.length (actions_ofActions actions)]
  exact (List.length_map _).symm

-- Looking up an identity undoes reading it off.
theorem indexOf?_eq_some_iff (unique : UniqueIds list.entries) (id : ActionId) (index : Nat) :
    list.indexOf? id = some index ↔ list.idAt? index = some id := by
  rw [indexOf?, List.findIdx?_eq_some_iff_getElem, idAt?]
  constructor
  · rintro ⟨inside, found, _⟩
    simpa [List.getElem?_eq_getElem inside] using found
  · intro found
    obtain ⟨entry, there, rfl⟩ := Option.map_eq_some_iff.1 found
    obtain ⟨inside, rfl⟩ := List.getElem?_eq_some_iff.1 there
    refine ⟨inside, by simp, fun earlier before same => ?_⟩
    -- An earlier entry with the identity would be the same entry.
    have earlierThere := List.getElem?_eq_getElem (Nat.lt_trans before inside)
    have sameId : list.entries[earlier].id = list.entries[index].id := by simpa using same
    exact Nat.ne_of_lt before (index_eq_of_unique unique there earlierThere sameId)

/-- Every list that operations lead to from a fresh one is coherent, its identities and its
indices determine each other, and an operation that fails on it leaves it as it was. -/
theorem coherent_of_fresh_run {start : ActionList} (fresh : Fresh start) (ops : List Operation)
    (few : start.size + insertions ops < UInt64.size) :
    (run start ops).Coherent ∧
      (∀ id index, (run start ops).indexOf? id = some index ↔
        (run start ops).idAt? index = some id) ∧
      ∀ (op : Operation) error next, op.perform (run start ops) = .error error next →
        next = run start ops ∧
          ((∃ index, op.target? = some index ∧ (run start ops).size ≤ index ∧
              error = .noSuchAction index (run start ops).size) ∨
            ∃ index text action, op = .setDraft index text ∧
              (run start ops).get? index = some action ∧ action.kind ≠ .notify ∧
              error = .noPayload index action.kind) := by
  obtain ⟨actions, rfl⟩ := ofActions_of_fresh fresh
  rw [size_ofActions] at few
  have coherent := (coherent_run_ofActions actions ops few).1
  exact ⟨coherent, indexOf?_eq_some_iff coherent.unique, fun op error next => perform_error⟩

/-- Two notifications with a field to set between them. -/
def sampleActions : List Action :=
  [.notify "first" .empty, .setField "status" .null, .notify "last" .empty]

/-- The last notification gets a draft, the first goes, and a draft for a field fails. -/
def sampleEdits : List Operation :=
  [.setDraft 2 "draft", .remove 0, .setDraft 0 "misplaced"]

theorem coherent_sample :
    sampleActions.length + insertions sampleEdits < UInt64.size ∧
      (run (ofActions sampleActions) sampleEdits).Coherent ∧
      (run (ofActions sampleActions) sampleEdits).indexOf? ⟨2⟩ = some 1 ∧
      ∀ error next, (Operation.setDraft 0 "").perform (run (ofActions sampleActions) sampleEdits) =
        .error error next → next = run (ofActions sampleActions) sampleEdits := by
  have few : sampleActions.length + insertions sampleEdits < UInt64.size := by decide
  obtain ⟨coherent, inverse, harmless⟩ :=
    coherent_of_fresh_run (.inr (.inl ⟨sampleActions, rfl⟩)) sampleEdits few
  exact ⟨few, coherent, (inverse ⟨2⟩ 1).2 rfl, fun error next failed => (harmless _ _ _ failed).1⟩

end WorkflowRules.ActionList
