import WorkflowRules.Proofs.Condition.Document

/-!
What the check of a condition's shape reports. It is the first node, in document order, that breaks
a rule for single nodes, under a spelling that no other node has. Below the levels that are allowed
nothing is looked at, so whatever stands there makes no difference.
-/
namespace WorkflowRules.Condition

/-! ### The spelling of locations -/

/-- What is written of a turn after its point. -/
def Turn.word : Turn → List Char
  | .member connective index => connective.key.toList ++ '[' :: (Nat.toDigits 10 index ++ [']'])
  | .negated => "not".toList

theorem Turn.toList_text (turn : Turn) : turn.text.toList = '.' :: turn.word := by
  cases turn with
  | member connective index =>
    simp [Turn.text, Turn.word, String.toList_append]
  | negated => rfl

theorem Turn.point_not_mem_word (turn : Turn) : '.' ∉ turn.word := by
  cases turn with
  | member connective index =>
    have noDigit : '.' ∉ Nat.toDigits 10 index := fun mem =>
      absurd (Nat.isDigit_of_mem_toDigits (by decide) (by decide) mem) (by decide)
    cases connective <;> simp [Turn.word, Connective.key, noDigit]
  | negated => decide

theorem Turn.word_injective : Function.Injective Turn.word := by
  intro turn other same
  cases turn with
  | member connective index =>
    cases other with
    | member connective' index' =>
      have value (digits : Nat.toDigits 10 index = Nat.toDigits 10 index') : index = index' := by
        simpa using congrArg (Nat.ofDigitChars 10 · 0) digits
      cases connective <;> cases connective' <;> simp_all [Turn.word, Connective.key]
    | negated => cases connective <;> simp [Turn.word, Connective.key] at same
  | negated =>
    cases other with
    | member connective' index' => cases connective' <;> simp [Turn.word, Connective.key] at same
    | negated => rfl

theorem toList_locationText (location : Location) : (locationText location).toList =
    ['.'].intercalate (['$'] :: location.map Turn.word) := by
  suffices ∀ (text : String), (location.foldl (fun text turn => text ++ turn.text) text).toList =
      ['.'].intercalate (text.toList :: location.map Turn.word) from this "$"
  induction location with
  | nil => simp
  | cons turn rest ih =>
    intro text
    rw [List.foldl_cons, ih, String.toList_append, Turn.toList_text]
    cases rest <;> simp [List.intercalate_cons_cons]

/-- A location can be read off its spelling, since no word has a point in it. -/
theorem locationText_injective : Function.Injective locationText := by
  intro location other same
  have words (location : Location) :
      (locationText location).toList.splitOn '.' = ['$'] :: location.map Turn.word := by
    rw [toList_locationText, List.splitOn_intercalate]
    · simpa using fun turn _ => turn.point_not_mem_word
    · exact List.cons_ne_nil _ _
  have split := congrArg (fun text : String => text.toList.splitOn '.') same
  simp only [words] at split
  exact Turn.word_injective.list_map (List.cons.inj split).2

/-! ### Nodes and their locations -/

namespace Node

variable {node root : Node} {limit : Nat} {problem : ShapeProblem}

theorem location_of_mem_children {child : Node} (mem : child ∈ node.children) :
    ∃ turn, child.location = node.location ++ [turn] := by
  unfold children at mem
  split at mem
  · split at mem
    · next connective items _ =>
      rcases List.mem_map.1 mem with ⟨place, _, rfl⟩
      exact ⟨.member connective place.2, rfl⟩
    · rcases List.mem_singleton.1 mem with rfl
      exact ⟨.negated, rfl⟩
    · cases mem
  · cases mem

theorem pairwise_children (node : Node) :
    node.children.Pairwise fun child other => child.location ≠ other.location := by
  unfold children
  split
  · split
    · next connective items _ =>
      rw [List.pairwise_map]
      have indices : items.zipIdx.Pairwise fun place other => place.2 ≠ other.2 := by
        apply List.pairwise_map.1
        rw [List.zipIdx_map_snd]
        exact List.nodup_range'
      apply indices.imp
      intro place other differs same
      have turns := List.append_cancel_left same
      simp only [List.cons.injEq, Turn.member.injEq, true_and, and_true] at turns
      exact differs turns
    · exact List.pairwise_singleton ..
    · exact .nil
  · exact .nil

theorem prefix_of_mem_subtree (mem : node ∈ root.subtree) : root.location <+: node.location := by
  induction root using subtree.induct with
  | case1 root ih =>
    rw [subtree_eq] at mem
    rcases List.mem_cons.1 mem with rfl | below
    · exact List.prefix_rfl
    · rcases List.mem_flatMap.1 below with ⟨child, isChild, inside⟩
      rcases location_of_mem_children isChild with ⟨turn, location⟩
      have further := ih ⟨child, isChild⟩ inside
      rw [location] at further
      exact (List.prefix_append root.location [turn]).trans further

-- Of two nodes below different children both are reached by way of these children, and the
-- locations of the children are as long as each other.
theorem pairwise_subtree (root : Node) :
    root.subtree.Pairwise fun node other => node.location ≠ other.location := by
  induction root using subtree.induct with
  | case1 root ih =>
    rw [subtree_eq, List.pairwise_cons, List.pairwise_flatMap]
    refine ⟨?_, fun child mem => ih ⟨child, mem⟩, ?_⟩
    · intro node mem same
      rcases List.mem_flatMap.1 mem with ⟨child, isChild, inside⟩
      rcases location_of_mem_children isChild with ⟨turn, location⟩
      have longer := (prefix_of_mem_subtree inside).length_le
      rw [location, ← same, List.length_append] at longer
      exact Nat.not_succ_le_self _ longer
    · apply (pairwise_children root).imp_of_mem
      intro child other isChild isOther differs node inside another insideOther same
      rcases location_of_mem_children isChild with ⟨turn, location⟩
      rcases location_of_mem_children isOther with ⟨otherTurn, otherLocation⟩
      have size : child.location.length = other.location.length := by
        rw [location, otherLocation, List.length_append, List.length_append]
        rfl
      have above := prefix_of_mem_subtree inside
      have aboveOther := prefix_of_mem_subtree insideOther
      rw [← same] at aboveOther
      exact differs ((List.prefix_of_prefix_length_le above aboveOther
        (Nat.le_of_eq size)).eq_of_length size)

theorem nodup_spellings (root : Node) :
    (root.subtree.map fun node => locationText node.location).Nodup := by
  rw [List.nodup_iff_pairwise_ne, List.pairwise_map]
  exact (pairwise_subtree root).imp fun differs same => differs (locationText_injective same)

/-! ### What is reported -/

/-- A field that must be a text is missing or something else. -/
inductive NotText (name : String) : Option Json → ShapeProblem → Prop where
  | missing : NotText name none (.missingField name)
  | other {json : Json} (other : ∀ text, json ≠ .string text) :
    NotText name (some json) (.fieldType name "a string")

/-- The first rule that a node breaks, whatever stands below it. -/
inductive Breaks (limit : Nat) (node : Node) : ShapeProblem → Prop where
  | object (other : ∀ fields, node.json ≠ .object fields) : Breaks limit node notAnObject
  | children {fields : Json.Fields} {connective : Connective} {value : Json}
    (object : node.json = .object fields) (reading : readingOf fields = .group connective value)
    (other : ∀ items, value ≠ .array items) : Breaks limit node (notChildren connective)
  | groupLevel {fields : Json.Fields} {connective : Connective} {items : List Json}
    (object : node.json = .object fields)
    (reading : readingOf fields = .group connective (.array items))
    (full : limit ≤ node.location.length) : Breaks limit node (.tooDeep limit)
  | negationLevel {fields : Json.Fields} {child : Json} (object : node.json = .object fields)
    (reading : readingOf fields = .not child) (full : limit ≤ node.location.length) :
    Breaks limit node (.tooDeep limit)
  | path {fields : Json.Fields} {problem : ShapeProblem} (object : node.json = .object fields)
    (reading : readingOf fields = .leaf) (broken : NotText "path" (fields.lookup "path") problem) :
    Breaks limit node problem
  | operator {fields : Json.Fields} {problem : ShapeProblem} (object : node.json = .object fields)
    (reading : readingOf fields = .leaf) {path : String}
    (named : fields.lookup "path" = some (.string path))
    (broken : NotText "op" (operatorField? fields) problem) : Breaks limit node problem

theorem not_notText_tooDeep {name : String} {field : Option Json} {levels : Nat} :
    ¬NotText name field (.tooDeep levels) := by
  intro broken
  cases broken

theorem textProblem?_eq_some_iff {name : String} {field : Option Json} :
    textProblem? name field = some problem ↔ NotText name field problem := by
  constructor
  · intro found
    unfold textProblem? at found
    split at found
    · cases found
    · next other =>
      cases found
      exact .other other
    · cases found
      exact .missing
  · intro broken
    cases broken with
    | missing => rfl
    | @other json other =>
      cases json with
      | string text => exact absurd rfl (other text)
      | null | bool | number | array | object => rfl

theorem textProblem?_eq_none_iff {name : String} {field : Option Json} :
    textProblem? name field = none ↔ ∃ text, field = some (.string text) := by
  cases field with
  | none => simp [textProblem?]
  | some json => cases json <;> simp [textProblem?]

theorem breaks_of_problem? (found : problem? node.json = some problem) :
    node.Breaks limit problem := by
  unfold problem? at found
  split at found
  · next fields object =>
    split at found
    · cases found
    · cases found
    · next connective value notArray reading =>
      cases found
      exact .children object reading notArray
    · next reading =>
      rcases Option.or_eq_some_iff.1 found with ofPath | ⟨hasPath, ofOperator⟩
      · exact .path object reading (textProblem?_eq_some_iff.1 ofPath)
      · rcases textProblem?_eq_none_iff.1 hasPath with ⟨path, named⟩
        exact .operator object reading named (textProblem?_eq_some_iff.1 ofOperator)
  · next notObject =>
    cases found
    exact .object notObject

theorem breaks_of_full (sound : problem? node.json = none) (opens : opensLevel node.json = true)
    (full : limit ≤ node.location.length) : node.Breaks limit (.tooDeep limit) := by
  unfold opensLevel at opens
  split at opens
  · next fields object =>
    cases reading : readingOf fields with
    | group connective value =>
      cases value with
      | array items => exact .groupLevel object reading full
      | null | bool | number | string | object => simp [problem?, object, reading] at sound
    | not child => exact .negationLevel object reading full
    | leaf => simp [reading] at opens
  · cases opens

theorem checkFault?_of_breaks (breaks : node.Breaks limit problem) :
    node.checkFault? limit = some (shapeError node.location problem) := by
  rw [checkFault?]
  cases breaks with
  | object other =>
    rcases node with ⟨location, json⟩
    cases json with
    | object fields => exact absurd rfl (other fields)
    | null | bool | number | string | array => rfl
  | @children fields connective value object reading other =>
    cases value with
    | array items => exact absurd rfl (other items)
    | null | bool | number | string | object => simp [problem?, object, reading]
  | groupLevel object reading full => simp [problem?, opensLevel, object, reading, full]
  | negationLevel object reading full => simp [problem?, opensLevel, object, reading, full]
  | path object reading broken =>
    simp [problem?, object, reading, textProblem?_eq_some_iff.2 broken]
  | operator object reading named broken =>
    have hasPath : textProblem? "path" _ = none := textProblem?_eq_none_iff.2 ⟨_, named⟩
    simp [problem?, object, reading, hasPath, textProblem?_eq_some_iff.2 broken]

theorem checkFault?_eq_some_iff {error : ShapeError} : node.checkFault? limit = some error ↔
    ∃ problem, node.Breaks limit problem ∧ error = shapeError node.location problem := by
  constructor
  · intro fault
    rcases Option.map_eq_some_iff.1 fault with ⟨problem, found, rfl⟩
    refine ⟨problem, ?_, rfl⟩
    rcases Option.or_eq_some_iff.1 found with own | ⟨sound, ofLevel⟩
    · exact breaks_of_problem? own
    · split at ofLevel
      · next deep =>
        cases ofLevel
        exact breaks_of_full sound deep.1 deep.2
      · cases ofLevel
  · rintro ⟨problem, breaks, rfl⟩
    exact checkFault?_of_breaks breaks

theorem checkFault?_eq_none_iff :
    node.checkFault? limit = none ↔ ∀ problem, ¬node.Breaks limit problem := by
  constructor
  · intro none problem breaks
    rw [checkFault?_of_breaks breaks] at none
    cases none
  · intro sound
    apply Option.eq_none_iff_forall_ne_some.2
    intro error fault
    rcases checkFault?_eq_some_iff.1 fault with ⟨problem, breaks, _⟩
    exact sound problem breaks

end Node

variable {limit : Nat} {json other : Json} {location : Location}

theorem checkShape_eq_ok_iff_breaks : checkShape limit json = .ok () ↔
    ∀ node ∈ Node.subtree ⟨[], json⟩, ∀ problem, ¬node.Breaks limit problem := by
  rw [eq_ok_iff_failure?, failure?_checkShape, List.findSome?_eq_none_iff]
  exact forall₂_congr fun node _ => Node.checkFault?_eq_none_iff

theorem checkShape_eq_error_iff {error : ShapeError} : checkShape limit json = .error error ↔
    ∃ before node after problem, Node.subtree ⟨[], json⟩ = before ++ node :: after ∧
      node.Breaks limit problem ∧ error = shapeError node.location problem ∧
      ∀ earlier ∈ before, ∀ problem, ¬earlier.Breaks limit problem := by
  rw [eq_error_iff_failure?, failure?_checkShape, List.findSome?_eq_some_iff]
  simp only [Node.checkFault?_eq_some_iff, Node.checkFault?_eq_none_iff]
  constructor
  · rintro ⟨before, node, after, split, ⟨problem, breaks, same⟩, sound⟩
    exact ⟨before, node, after, problem, split, breaks, same, sound⟩
  · rintro ⟨before, node, after, problem, split, breaks, same, sound⟩
    exact ⟨before, node, after, split, ⟨problem, breaks, same⟩, sound⟩

/-! ### What is not looked at -/

/-- The second value is the first, but that other things may stand below the node at the location.
On the way there both are taken for the same, with the same children beside the way. -/
inductive AlteredBelow : Location → Json → Json → Prop where
  | group {fields others : Json.Fields} {connective : Connective} {items altered : List Json}
    (reading : readingOf fields = .group connective (.array items))
    (otherReading : readingOf others = .group connective (.array altered)) :
    AlteredBelow [] (.object fields) (.object others)
  | not {fields others : Json.Fields} {child altered : Json}
    (reading : readingOf fields = .not child) (otherReading : readingOf others = .not altered) :
    AlteredBelow [] (.object fields) (.object others)
  | member {fields others : Json.Fields} {connective : Connective} {items : List Json}
    {index : Nat} {item altered : Json} {rest : Location}
    (reading : readingOf fields = .group connective (.array items))
    (otherReading : readingOf others = .group connective (.array (items.set index altered)))
    (found : items[index]? = some item) (below : AlteredBelow rest item altered) :
    AlteredBelow (.member connective index :: rest) (.object fields) (.object others)
  | negated {fields others : Json.Fields} {child altered : Json} {rest : Location}
    (reading : readingOf fields = .not child) (otherReading : readingOf others = .not altered)
    (below : AlteredBelow rest child altered) :
    AlteredBelow (.negated :: rest) (.object fields) (.object others)

theorem checkItems_set {left start index : Nat} {connective : Connective} {items : List Json}
    {item altered : Json} (found : items[index]? = some item)
    (same : ∀ location,
      checkNode limit left location item = checkNode limit left location altered) :
    checkItems limit left location connective start (items.set index altered) =
      checkItems limit left location connective start items := by
  induction items generalizing start index with
  | nil => rfl
  | cons first rest ih =>
    cases index with
    | zero =>
      cases found
      rw [List.set_cons_zero, checkItems, checkItems, same]
    | succ index =>
      rw [List.set_cons_succ, checkItems, checkItems, ih found]

-- At the node itself no level is left, and on the way there the check goes through the same items.
theorem checkNode_of_altered {left : Nat} (altered : AlteredBelow location json other)
    (deep : left ≤ location.length) (above : Location) :
    checkNode limit left above other = checkNode limit left above json := by
  induction altered generalizing left above with
  | group reading otherReading =>
    cases Nat.le_zero.1 deep
    simp [checkNode_object, reading, otherReading, checkGroup]
  | not reading otherReading =>
    cases Nat.le_zero.1 deep
    simp [checkNode_object, reading, otherReading, checkNegated]
  | member reading otherReading found below ih =>
    have inside := ih (Nat.sub_le_of_le_add deep)
    simp only [checkNode_object, reading, otherReading, checkGroup]
    rw [checkItems_set found fun location => (inside location).symm]
  | negated reading otherReading below ih =>
    have inside := ih (Nat.sub_le_of_le_add deep)
    simp only [checkNode_object, reading, otherReading, checkNegated, inside]

/-- Nothing below as many levels as are allowed is looked at. -/
theorem checkShape_of_altered (altered : AlteredBelow location json other)
    (deep : limit ≤ location.length) : checkShape limit other = checkShape limit json :=
  checkNode_of_altered altered deep []

theorem le_length_of_tooDeep {levels : Nat}
    (failed : checkShape limit json = .error (shapeError location (.tooDeep levels))) :
    limit ≤ location.length := by
  rcases checkShape_eq_error_iff.1 failed with ⟨before, node, after, problem, _, breaks, same, _⟩
  have place : location = node.location :=
    locationText_injective (congrArg ShapeError.location same)
  have named : problem = .tooDeep levels := (congrArg ShapeError.problem same).symm
  rw [place]
  rw [named] at breaks
  cases breaks with
  | groupLevel _ _ full => exact full
  | negationLevel _ _ full => exact full
  | path _ _ broken => exact absurd broken Node.not_notText_tooDeep
  | operator _ _ _ broken => exact absurd broken Node.not_notText_tooDeep

/-- What the check of a value reports. -/
structure ReportsFirst (limit : Nat) (json : Json) : Prop where
  /-- No two nodes have one spelling. -/
  spelled : ((Node.subtree ⟨[], json⟩).map fun node => locationText node.location).Nodup
  passes : checkShape limit json = .ok () ↔
    ∀ node ∈ Node.subtree ⟨[], json⟩, ∀ problem, ¬node.Breaks limit problem
  fails : ∀ error, checkShape limit json = .error error ↔
    ∃ before node after problem, Node.subtree ⟨[], json⟩ = before ++ node :: after ∧
      node.Breaks limit problem ∧ error = shapeError node.location problem ∧
      ∀ earlier ∈ before, ∀ problem, ¬earlier.Breaks limit problem
  /-- What stands below a node that is too deep makes no difference. -/
  stops : ∀ location levels,
    checkShape limit json = .error (shapeError location (.tooDeep levels)) →
      ∀ other, AlteredBelow location json other → checkShape limit other = checkShape limit json

/-- The check reports the first mismatch at its place, and nothing below what is too deep matters
to it. -/
theorem first_mismatch_is_reported (limit : Nat) (json : Json) : ReportsFirst limit json := by
  constructor
  case spelled => exact Node.nodup_spellings _
  case passes => exact checkShape_eq_ok_iff_breaks
  case fails => exact fun error => checkShape_eq_error_iff
  case stops =>
    intro location levels failed other altered
    exact checkShape_of_altered altered (le_length_of_tooDeep failed)

end WorkflowRules.Condition
