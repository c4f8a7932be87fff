import WorkflowRules.CommandLine.Run
import WorkflowRules.Proofs.Action.Nesting
import WorkflowRules.Proofs.ActionList.RoundTrip
import WorkflowRules.Proofs.Condition.Nesting

/-!
Loading, printing and loading again. What was loaded has no empty groups and is not too deep, so
that all that can be amiss with its text is that it nests too deep for the reader. The text of
actions never does. That of a condition does when the leaf that fills an empty group takes a level
more than the reader follows, and then the second time fails. Where it does not fail, the second
time comes to the same as the first if the numbers are read back as they are written.
-/
namespace WorkflowRules

open Json.Reader (Blank levelLimit)

variable {limits : Limits} {text trailing : String}

/-! ### Conditions -/

namespace Condition

variable {condition : Condition}

/-- The list of an empty group of this text opens the last level that is read, so that whatever
nests in it is too deep. -/
def LeavesNoRoom (text : String) : Prop :=
  ∃ value read, loadJson text = .ok value ∧ ofJson value.json = .ok read ∧ read.EmptyAt levelLimit

theorem leavesNoRoom_iff {value : Json.Value} {read : Condition}
    (parsed : loadJson text = .ok value) (reads : ofJson value.json = .ok read) :
    LeavesNoRoom text ↔ read.EmptyAt levelLimit := by
  constructor
  · rintro ⟨_, _, parsedAgain, readsAgain, empty⟩
    cases parsed.symm.trans parsedAgain
    cases reads.symm.trans readsAgain
    exact empty
  · exact fun empty => ⟨value, read, parsed, reads, empty⟩

-- What was read fitted in a text, so only the leaves that fill groups can be one level too deep.
theorem nesting_toJson_le_iff (loaded : load limits text = .ok condition) :
    condition.toJson.nesting ≤ levelLimit ↔ ¬LeavesNoRoom text := by
  obtain ⟨value, read, parsed, reads, _, rfl⟩ := load_eq_ok_iff.1 loaded
  have short : read.toJson.nesting ≤ levelLimit :=
    Nat.le_trans (nesting_le_of_ofJson reads) (Json.nesting_le_of_parse (mapError_eq_ok.1 parsed))
  rw [nesting_normalize_le_iff, leavesNoRoom_iff parsed reads]
  constructor
  · rintro ⟨_, below⟩ empty
    exact Nat.lt_irrefl _ (below _ empty)
  · intro room
    refine ⟨short, fun level empty => ?_⟩
    apply Nat.lt_of_le_of_ne (Nat.le_trans empty.le_nesting short)
    rintro rfl
    exact room empty

-- The empty group is as deep as its levels of brackets allow, and it was let through.
theorem LeavesNoRoom.acceptedDepth (noRoom : LeavesNoRoom text)
    (loaded : load limits text = .ok condition) : 64 ≤ limits.acceptedDepth := by
  obtain ⟨_, read, parsed, reads, shallow, _⟩ := load_eq_ok_iff.1 loaded
  have deep := ((leavesNoRoom_iff parsed reads).1 noRoom).le_depth
  have last : levelLimit = 127 := rfl
  omega

theorem load_printed (loaded : load limits text = .ok condition) (room : ¬LeavesNoRoom text)
    (blank : Blank trailing) :
    load limits (condition.toJson.pretty ++ trailing) = .ok condition.reread := by
  have short := (nesting_toJson_le_iff loaded).2 room
  obtain ⟨_, read, _, _, shallow, rfl⟩ := load_eq_ok_iff.1 loaded
  have reads := loadJson_pretty_append blank short
  rw [← toJson_reread] at reads
  apply load_eq_ok_iff.2
  refine ⟨_, read.normalize.reread, reads, ofJson_toJson _, ?_, ?_⟩
  · rw [depth_reread, depth_normalize]
    exact shallow
  · rw [normalize_reread, normalize_of_filled (filled_normalize read)]

theorem load_printed_of_noRoom (loaded : load limits text = .ok condition)
    (noRoom : LeavesNoRoom text) (blank : Blank trailing) :
    ∃ place, load limits (condition.toJson.pretty ++ trailing) =
      .error (.notJson ⟨.tooDeep, place⟩) := by
  have long := Nat.lt_of_not_le fun short => (nesting_toJson_le_iff loaded).1 short noRoom
  obtain ⟨place, stops⟩ := loadJson_pretty_append_of_deep blank long
  exact ⟨place, by rw [load, stops]; rfl⟩

/-- What becomes of a condition that was loaded from a text when it is printed. -/
structure Reloads (limits : Limits) (text : String) (condition : Condition) : Prop where
  accepted : ¬LeavesNoRoom text → ∃ again, load limits condition.toJson.pretty = .ok again
  same : condition.toJson.NumbersReadBack → ¬LeavesNoRoom text →
    load limits condition.toJson.pretty = .ok condition
  refused : LeavesNoRoom text →
    ∃ place, load limits condition.toJson.pretty = .error (.notJson ⟨.tooDeep, place⟩)
  room : limits.acceptedDepth < 64 → ¬LeavesNoRoom text

theorem reloads (loaded : load limits text = .ok condition) : Reloads limits text condition := by
  have again (room : ¬LeavesNoRoom text) :
      load limits condition.toJson.pretty = .ok condition.reread := by
    simpa using load_printed loaded room Json.Reader.blank_empty
  constructor
  case accepted => exact fun room => ⟨_, again room⟩
  case same =>
    intro readBack room
    rw [again room, reread_eq_self_iff.2 readBack]
  case refused =>
    intro noRoom
    simpa using load_printed_of_noRoom loaded noRoom Json.Reader.blank_empty
  case room =>
    intro shallow noRoom
    exact Nat.not_lt_of_le (noRoom.acceptedDepth loaded) shallow

def negations : Nat → Condition → Condition
  | 0, condition => condition
  | count + 1, condition => .not (negations count condition)

/-- An empty group within as many negations as still can be read. -/
def buried : Condition :=
  negations 125 (.group .all [])

/-- Limits that accept any depth that can be read. -/
def roomy : Limits :=
  { Limits.standard with maxDepth := 200 }

theorem emptyAt_negations {level : Nat} (empty : condition.EmptyAt level) (count : Nat) :
    (negations count condition).EmptyAt (level + count) := by
  induction count with
  | zero => exact empty
  | succ count ih => exact .negated ih

theorem leavesNoRoom_buried : LeavesNoRoom buried.toJson.pretty := by
  have readBack : buried.reread = buried := reread_eq_self_iff.2 (by decide +kernel)
  have parsed : loadJson buried.toJson.pretty = .ok buried.reread.toJson.toValue :=
    loadJson_toJson (by decide +kernel)
  rw [readBack] at parsed
  exact (leavesNoRoom_iff parsed (ofJson_toJson buried)).2 (emptyAt_negations (.here .all) 125)

theorem load_buried : load roomy buried.toJson.pretty = .ok buried.normalize :=
  load_toJson_eq_ok_iff.2 ⟨by decide +kernel, normalize_reread_eq_iff.2 (by decide +kernel)⟩

/-- It is loaded, filled and printed, and what was printed is refused. -/
theorem buried_is_not_reloaded : load roomy buried.toJson.pretty = .ok buried.normalize ∧
    ∃ place, load roomy buried.normalize.toJson.pretty =
      .error (.notJson ⟨.tooDeep, place⟩) :=
  ⟨load_buried, load_toJson_of_long roomy (by decide +kernel)⟩

end Condition

/-! ### Actions -/

theorem Action.loadList_printed {actions : List Action} (loaded : loadList text = .ok actions)
    (blank : Blank trailing) :
    loadList ((listToJson actions).pretty ++ trailing) = .ok (actions.map reread) := by
  have short := nesting_listToJson_le loaded
  have reads := loadList_listToJson actions short
  rw [loadList, loadJson_pretty short] at reads
  rw [loadList, loadJson_pretty_append blank short]
  exact reads

/-! ### The command -/

namespace CommandLine

variable {files again : Files} {arguments : List String} {settings : Option String}
  {command : Command} {path : String} {kind : InputKind} {json : Json} {outcome : Outcome}

theorem run_of_performed (given : invocation? arguments = some ⟨settings, command⟩)
    (loaded : loadSettings files settings = .ok limits)
    (performed : perform files limits command = .ok outcome) : run files arguments = outcome := by
  simp only [run, given, loaded, bind, Except.bind, performed]

theorem run_of_not_performed (given : invocation? arguments = some ⟨settings, command⟩)
    (loaded : loadSettings files settings = .ok limits)
    (fails : ∀ outcome, perform files limits command ≠ .ok outcome) :
    ∃ message, run files arguments = .failure "" message := by
  cases performed : perform files limits command with
  | ok outcome => exact absurd performed (fails outcome)
  | error message =>
    exact ⟨message, by simp only [run, given, loaded, bind, Except.bind, performed]⟩

theorem exists_performed (given : invocation? arguments = some ⟨settings, command⟩)
    (done : (run files arguments).code = 0) :
    ∃ limits, loadSettings files settings = .ok limits ∧
      perform files limits command = .ok (run files arguments) := by
  cases loaded : loadSettings files settings with
  | error message => simp [run, given, loaded, bind, Except.bind, Outcome.failure] at done
  | ok limits =>
    refine ⟨limits, rfl, ?_⟩
    cases performed : perform files limits command with
    | ok outcome => rw [run_of_performed given loaded performed]
    | error message =>
      obtain ⟨_, failed⟩ := run_of_not_performed given loaded fun outcome => by simp [performed]
      rw [failed] at done
      cases done

/-- What is printed of a file with this text. -/
def formatted (limits : Limits) (text : String) : InputKind → Except LoadError Json
  | .condition => (Condition.load limits text).map Condition.toJson
  | .actions => (Action.loadList text).map Action.listToJson

theorem lines_singleton (text : String) : lines [text] = text ++ "\n" := by
  simp [lines, String.join]

theorem loadActions_eq_ok_iff {list : ActionList} : loadActions files path = .ok list ↔
    ∃ text actions, files path = .ok text ∧ Action.loadList text = .ok actions ∧
      ActionList.ofActions actions = list := by
  simp only [loadActions, readFile, ActionList.load, bind_eq_ok, map_eq_ok, mapError_eq_ok,
    exists_and_left]

theorem loadCondition_eq_ok_iff {condition : Condition} :
    loadCondition files limits path = .ok condition ↔
      ∃ text, files path = .ok text ∧ Condition.load limits text = .ok condition := by
  simp only [loadCondition, readFile, bind_eq_ok, mapError_eq_ok]

theorem perform_format_eq_ok_iff : perform files limits (.format path kind) = .ok outcome ↔
    ∃ text json, files path = .ok text ∧ formatted limits text kind = .ok json ∧
      outcome = .success (json.pretty ++ "\n") := by
  cases kind with
  | condition =>
    simp only [perform, bind_eq_ok, loadCondition_eq_ok_iff, formatted, map_eq_ok, lines_singleton]
    constructor
    · rintro ⟨condition, ⟨text, found, loaded⟩, ⟨⟩⟩
      exact ⟨text, _, found, ⟨condition, loaded, rfl⟩, rfl⟩
    · rintro ⟨text, _, found, ⟨condition, loaded, rfl⟩, rfl⟩
      exact ⟨condition, ⟨text, found, loaded⟩, rfl⟩
  | actions =>
    simp only [perform, bind_eq_ok, loadActions_eq_ok_iff, formatted, map_eq_ok, lines_singleton]
    constructor
    · rintro ⟨_, ⟨text, actions, found, loaded, rfl⟩, ⟨⟩⟩
      refine ⟨text, _, found, ⟨actions, loaded, rfl⟩, ?_⟩
      rw [ActionList.toJson, ActionList.actions_ofActions]
    · rintro ⟨text, _, found, ⟨actions, loaded, rfl⟩, rfl⟩
      refine ⟨_, ⟨text, actions, found, loaded, rfl⟩, ?_⟩
      rw [ActionList.toJson, ActionList.actions_ofActions]
      rfl

/-- The leaf that fills an empty group of the condition in this text does not fit in a text. -/
def Overflows (text : String) (kind : InputKind) : Prop :=
  kind = .condition ∧ Condition.LeavesNoRoom text

theorem formatted_printed (made : formatted limits text kind = .ok json)
    (room : ¬Overflows text kind) (blank : Blank trailing) :
    formatted limits (json.pretty ++ trailing) kind = .ok json.reread := by
  cases kind with
  | condition =>
    obtain ⟨condition, loaded, rfl⟩ := map_eq_ok.1 made
    have roomHere : ¬Condition.LeavesNoRoom text := fun noRoom => room ⟨rfl, noRoom⟩
    exact map_eq_ok.2
      ⟨_, Condition.load_printed loaded roomHere blank, condition.toJson_reread⟩
  | actions =>
    obtain ⟨actions, loaded, rfl⟩ := map_eq_ok.1 made
    exact map_eq_ok.2
      ⟨_, Action.loadList_printed loaded blank, Action.listToJson_map_reread actions⟩

theorem formatted_printed_of_overflows (made : formatted limits text kind = .ok json)
    (overflows : Overflows text kind) (blank : Blank trailing) (other : Json) :
    formatted limits (json.pretty ++ trailing) kind ≠ .ok other := by
  obtain ⟨rfl, noRoom⟩ := overflows
  obtain ⟨condition, loaded, rfl⟩ := map_eq_ok.1 made
  obtain ⟨place, stops⟩ := Condition.load_printed_of_noRoom loaded noRoom blank
  simp [formatted, stops, Except.map]

/-- What becomes of the output of formatting a file with this text, which is this value, when that
is formatted. -/
structure Settles (files again : Files) (arguments : List String) (text : String)
    (kind : InputKind) (json : Json) : Prop where
  accepted : ¬Overflows text kind → (run again arguments).code = 0
  same : json.NumbersReadBack → ¬Overflows text kind → run again arguments = run files arguments
  refused : Overflows text kind → ∃ message, run again arguments = .failure "" message

theorem settles (given : invocation? arguments = some ⟨settings, .format path kind⟩)
    (done : (run files arguments).code = 0) (output : again path = .ok (run files arguments).output)
    (sameSettings : loadSettings again settings = loadSettings files settings) :
    ∃ limits text json, loadSettings files settings = .ok limits ∧ files path = .ok text ∧
      formatted limits text kind = .ok json ∧ Settles files again arguments text kind json := by
  obtain ⟨limits, loaded, performed⟩ := exists_performed given done
  obtain ⟨text, json, found, made, outcome⟩ := perform_format_eq_ok_iff.1 performed
  have printed : again path = .ok (json.pretty ++ "\n") := by
    rw [output, outcome]
    rfl
  have loadedAgain := sameSettings.trans loaded
  have blank : Blank "\n" := by decide
  have runsAgain (room : ¬Overflows text kind) :
      run again arguments = .success (json.reread.pretty ++ "\n") := by
    apply run_of_performed given loadedAgain
    apply perform_format_eq_ok_iff.2
    exact ⟨_, _, printed, formatted_printed made room blank, rfl⟩
  refine ⟨limits, text, json, loaded, found, made, ?_⟩
  constructor
  case accepted =>
    intro room
    rw [runsAgain room, Outcome.success]
  case same =>
    intro readBack room
    rw [runsAgain room, outcome, Json.reread_eq_self_iff.2 readBack]
  case refused =>
    intro overflows
    apply run_of_not_performed given loadedAgain
    intro other performedAgain
    obtain ⟨_, _, foundAgain, madeAgain, _⟩ := perform_format_eq_ok_iff.1 performedAgain
    cases printed.symm.trans foundAgain
    exact formatted_printed_of_overflows made overflows blank _ madeAgain

/-- Loading, printing and loading again comes to the same if all numbers are read back, and so does
formatting twice, except that an empty group in which nothing may nest keeps its condition from
being loaded again. -/
theorem formatting_is_stable :
    (∀ limits text condition, Condition.load limits text = .ok condition →
      Condition.Reloads limits text condition) ∧
    (∀ text actions, Action.loadList text = .ok actions →
      ∃ again, Action.loadList (Action.listToJson actions).pretty = .ok again ∧
        ((Action.listToJson actions).NumbersReadBack → again = actions)) ∧
    ∀ files again arguments settings path kind,
      invocation? arguments = some ⟨settings, .format path kind⟩ →
      (run files arguments).code = 0 → again path = .ok (run files arguments).output →
      loadSettings again settings = loadSettings files settings →
      ∃ limits text json, loadSettings files settings = .ok limits ∧ files path = .ok text ∧
        formatted limits text kind = .ok json ∧ Settles files again arguments text kind json := by
  refine ⟨fun _ _ _ => Condition.reloads, fun _ actions loaded => ?_, ?_⟩
  · exact ⟨_, Action.loadList_listToJson actions (Action.nesting_listToJson_le loaded),
      Action.map_reread_eq_self_iff.2⟩
  · intro files again arguments settings path kind
    exact settles

/-- Asks for a condition to be printed. -/
def formatSample : List String :=
  ["fmt", "sample.json"]

theorem invocation_formatSample :
    invocation? formatSample = some ⟨none, .format "sample.json" .condition⟩ := by
  rfl

/-- The one file has this text. -/
def onlyText (text : String) : Files :=
  fun _ => .ok text

theorem run_formatSample {condition : Condition}
    (loaded : Condition.load .standard text = .ok condition) :
    run (onlyText text) formatSample = .success (condition.toJson.pretty ++ "\n") := by
  apply run_of_performed invocation_formatSample rfl
  apply perform_format_eq_ok_iff.2
  exact ⟨text, _, rfl, map_eq_ok.2 ⟨condition, loaded, rfl⟩, rfl⟩

/-- What is printed of a condition with an empty group. -/
def printedSample : String :=
  Condition.sparse.normalize.toJson.pretty

theorem load_sparse : Condition.load .standard Condition.sparse.toJson.pretty =
    .ok Condition.sparse.normalize :=
  Condition.load_toJson_eq_ok_iff.2
    ⟨by decide, Condition.normalize_reread_eq_iff.2 (by decide)⟩

theorem samples_reformatted :
    Condition.load .standard printedSample = .ok Condition.sparse.normalize ∧
    (∃ place, Condition.load Condition.roomy Condition.buried.normalize.toJson.pretty =
      .error (.notJson ⟨.tooDeep, place⟩)) ∧
    Action.loadList (Action.listToJson ActionList.assorted).pretty = .ok ActionList.assorted ∧
    run (onlyText Condition.sparse.toJson.pretty) formatSample =
      .success (printedSample ++ "\n") ∧
    run (onlyText (printedSample ++ "\n")) formatSample = .success (printedSample ++ "\n") := by
  obtain ⟨conditions, actions, reruns⟩ := formatting_is_stable
  have sparse := conditions _ _ _ load_sparse
  have room : ¬Condition.LeavesNoRoom Condition.sparse.toJson.pretty := sparse.room (by decide)
  have printed : run (onlyText Condition.sparse.toJson.pretty) formatSample =
      .success (printedSample ++ "\n") := run_formatSample load_sparse
  refine ⟨sparse.same (by decide) room, ?_, ?_, printed, ?_⟩
  · exact (conditions _ _ _ Condition.load_buried).refused Condition.leavesNoRoom_buried
  · have readBack : (Action.listToJson ActionList.assorted).NumbersReadBack := by decide +kernel
    have loaded := Action.loadList_listToJson ActionList.assorted (by decide)
    rw [Action.map_reread_eq_self_iff.2 readBack] at loaded
    obtain ⟨again, loadedAgain, same⟩ := actions _ _ loaded
    rw [loadedAgain, same readBack]
  · have done : (run (onlyText Condition.sparse.toJson.pretty) formatSample).code = 0 := by
      rw [printed, Outcome.success]
    have output : onlyText (printedSample ++ "\n") "sample.json" =
        .ok (run (onlyText Condition.sparse.toJson.pretty) formatSample).output := by
      rw [printed, Outcome.success, onlyText]
    have unset (files again : Files) : loadSettings again none = loadSettings files none := rfl
    obtain ⟨limits, text, json, given, found, made, settled⟩ :=
      reruns _ _ _ _ _ _ invocation_formatSample done output (unset _ _)
    obtain rfl : .standard = limits := Except.ok.inj given
    obtain rfl : Condition.sparse.toJson.pretty = text := Except.ok.inj found
    rw [formatted, load_sparse] at made
    obtain rfl : Condition.sparse.normalize.toJson = json := Except.ok.inj made
    rw [settled.same (by decide) fun overflows => room overflows.2, printed]

end CommandLine

end WorkflowRules
