import WorkflowRules.Proofs.Action.RoundTrip
import WorkflowRules.Proofs.ActionList.Coherence
import WorkflowRules.Proofs.ActionList.Submission

/-!
Lists of actions are read back as they were written, if their numbers are. Identities and drafts
are not written: a list that is loaded numbers its actions anew, from zero on and in their order,
and has no drafts.
-/
namespace WorkflowRules

/-- The text of a payload stands for that payload, if its numbers are read back. -/
theorem readPayloadText_pretty {payload : Json.Object}
    (short : payload.json.nesting ≤ Json.Reader.levelLimit)
    (readBack : payload.json.NumbersReadBack) :
    readPayloadText payload.json.pretty = .ok payload := by
  have value : payload.json.reread.toValue = ⟨.object payload.fields, payload.ordered⟩ := by
    rw [Json.reread_eq_self_iff.2 readBack]
    exact Json.Value.ext payload.ordered
  rw [readPayloadText, Json.parse_pretty short, value]

namespace ActionList

-- Pushing goes on with the numbers where the list left off.
theorem foldl_push (actions : List Action) (list : ActionList) (number : Nat)
    (next : list.nextId = .ofNat number) :
    (actions.foldl (fun list action => (list.push action).2) list).entries = list.entries ++
        (actions.zipIdx number).map (fun (action, number) => ⟨⟨.ofNat number⟩, action⟩) ∧
      (actions.foldl (fun list action => (list.push action).2) list).drafts = list.drafts := by
  induction actions generalizing list number with
  | nil => simp
  | cons action rest ih =>
    have succ : (list.push action).2.nextId = .ofNat (number + 1) := by
      rw [UInt64.ofNat_add, ← next]
      rfl
    obtain ⟨entries, drafts⟩ := ih (list.push action).2 _ succ
    rw [List.foldl_cons, entries, drafts]
    refine ⟨?_, rfl⟩
    simp [push, next]

theorem idAt?_ofActions {actions : List Action} {index : Nat} (inside : index < actions.length) :
    (ofActions actions).idAt? index = some ⟨.ofNat index⟩ := by
  have entries : (ofActions actions).entries =
      [] ++ actions.zipIdx.map (fun (action, number) => ⟨⟨.ofNat number⟩, action⟩) :=
    (foldl_push actions empty 0 rfl).1
  simp [idAt?, entries, inside]

theorem drafts_ofActions (actions : List Action) : (ofActions actions).drafts = .empty :=
  (foldl_push actions empty 0 rfl).2

theorem undrafted_ofActions (actions : List Action) : (ofActions actions).Undrafted := by
  intro entry _
  rw [drafts_ofActions, Drafts.get?_empty]

/-- A list that is built of actions has nothing to submit but these. -/
theorem submit_ofActions (actions : List Action) :
    (ofActions actions).submit = Report.unlessBlocked ⟨issuesOf actions⟩ actions := by
  rw [submit_of_undrafted (undrafted_ofActions actions), actions_ofActions]

theorem load_listToJson (actions : List Action)
    (short : (Action.listToJson actions).nesting ≤ Json.Reader.levelLimit) :
    load (Action.listToJson actions).pretty = .ok (.ofActions (actions.map .reread)) := by
  rw [load, Action.loadList_listToJson actions short]
  rfl

/-- What becomes of actions that are written and read again. -/
structure RoundTrip (actions : List Action) : Prop where
  shaped : Action.checkListShape (Action.listToJson actions).toValue.json = .ok ()
  value : Action.decoder.listOf.ofJson (Action.listToJson actions).toValue.json = .ok actions
  success : (∃ loaded, Action.loadList (Action.listToJson actions).pretty = .ok loaded) ↔
    (Action.listToJson actions).nesting ≤ 127
  text : (Action.listToJson actions).NumbersReadBack →
    (Action.loadList (Action.listToJson actions).pretty = .ok actions ↔
      (Action.listToJson actions).nesting ≤ 127)
  long : 127 < (Action.listToJson actions).nesting → ∃ place,
    Action.loadList (Action.listToJson actions).pretty = .error (.notJson ⟨.tooDeep, place⟩)
  /-- The same text, loaded to be edited. -/
  list : (Action.listToJson actions).nesting ≤ 127 →
    ∃ list, load (Action.listToJson actions).pretty = .ok list ∧
      ((Action.listToJson actions).NumbersReadBack → list.actions = actions) ∧
      (∀ index < actions.length, list.idAt? index = some ⟨.ofNat index⟩) ∧ list.drafts = .empty

theorem roundTrip (actions : List Action) : RoundTrip actions := by
  constructor
  case shaped => exact Action.checkListShape_listToJson actions
  case value => exact Action.listOf_listToJson actions
  case success => exact exists_eq_ok_iff fun _ => Action.loadList_listToJson_eq_ok_iff
  case text =>
    intro readBack
    rw [Action.loadList_listToJson_eq_ok_iff]
    exact and_iff_left (Action.map_reread_eq_self_iff.2 readBack)
  case long => exact Action.loadList_listToJson_of_long
  case list =>
    intro short
    refine ⟨_, load_listToJson actions short, fun readBack => ?_, fun index inside => ?_,
      drafts_ofActions _⟩
    · rw [actions_ofActions, Action.map_reread_eq_self_iff.2 readBack]
    · exact idAt?_ofActions (by rwa [List.length_map])

/-- Actions are read back from what is written of them, through a text if their numbers are, and of
a list nothing but its actions is written. -/
theorem written_actions_are_read : (∀ actions, RoundTrip actions) ∧
    ∀ list : ActionList, list.toJson.pretty = (Action.listToJson list.actions).pretty :=
  ⟨roundTrip, fun _ => rfl⟩

/-- Actions with what may be left out, left out or null, and with the least number of days. -/
def assorted : List Action :=
  [.setField "owner" .null, .createTask "call" .minValue "u" none,
    .createTask "visit" 3 "v" (some ⟨"account", "7"⟩), .notify "mail" .empty]

/-- A value within as many arrays as are asked for. -/
def nested : Nat → Json
  | 0 => .null
  | levels + 1 => .array [nested levels]

theorem assorted_written_are_read :
    (∃ list, load (Action.listToJson assorted).pretty = .ok list ∧ list.actions = assorted ∧
      list.idAt? 3 = some ⟨3⟩ ∧ list.drafts = .empty) ∧
    ∃ place, Action.loadList
      (Action.listToJson [.setField "path" (nested 126).toValue]).pretty =
        .error (.notJson ⟨.tooDeep, place⟩) := by
  have reads := written_actions_are_read.1
  obtain ⟨list, loads, actions, ids, drafts⟩ := (reads assorted).list (by decide)
  refine ⟨⟨list, loads, actions (by decide +kernel), ids 3 (by decide), drafts⟩, ?_⟩
  exact (reads [.setField "path" (nested 126).toValue]).long (by decide +kernel)

end ActionList

end WorkflowRules
