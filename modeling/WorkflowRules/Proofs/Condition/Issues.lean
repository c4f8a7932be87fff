import WorkflowRules.Proofs.Condition.Places
import WorkflowRules.Proofs.Condition.Validity

/-!
The issues of a condition and the nodes that they are about. The walk that finds issues takes the
path along as it goes down, and a look-up of that path ends at the node where the walk was. So
there is one issue for every node with something wrong about it and no other, and the issues come
in the order of their paths.
-/
namespace WorkflowRules

/-- What a leaf lacks, told by the first of three things that it needs and does not have. -/
inductive Leaf.Lacks (leaf : Leaf) : String → Prop where
  | path (blank : Text.trim leaf.path = "") : Lacks leaf "field path is required"
  | value (path : Text.trim leaf.path ≠ "") (needed : leaf.operator ≠ .exists)
    (null : leaf.value.json = .null) :
    Lacks leaf ("operator '" ++ leaf.operator.name ++ "' requires a value")
  | texts (path : Text.trim leaf.path ≠ "")
    (value : leaf.operator ≠ .exists → leaf.value.json ≠ .null)
    (membership : leaf.operator = .isIn)
    (other : ¬∃ texts : List String, leaf.value.json = .array (texts.map .string)) :
    Lacks leaf "operator 'in' requires a list of strings"

theorem Leaf.problem?_eq_some_iff {leaf : Leaf} {message : String} :
    leaf.problem? = some message ↔ leaf.Lacks message := by
  constructor
  · intro found
    unfold problem? at found
    split at found
    · next noPath =>
      cases found
      exact .path (leaf.lacksPath_iff.1 noPath)
    · next hasPath =>
      have hasPath := mt leaf.lacksPath_iff.2 hasPath
      split at found
      · next noValue =>
        cases found
        obtain ⟨needed, null⟩ := leaf.lacksValue_iff.1 noValue
        exact .value hasPath needed null
      · next hasValue =>
        split at found
        · next others =>
          cases found
          obtain ⟨membership, other⟩ := leaf.lacksTexts_iff.1 others
          exact .texts hasPath (fun needed null => hasValue (leaf.lacksValue_iff.2 ⟨needed, null⟩))
            membership other
        · cases found
  · intro lacks
    cases lacks with
    | path noPath => rw [problem?, if_pos (leaf.lacksPath_iff.2 noPath)]
    | value hasPath needed null =>
      rw [problem?, if_neg (mt leaf.lacksPath_iff.1 hasPath),
        if_pos (leaf.lacksValue_iff.2 ⟨needed, null⟩)]
    | texts hasPath hasValue membership other =>
      have present : ¬(leaf.operator.needsValue && leaf.value.json.isNull) = true := by
        intro lacks
        obtain ⟨needed, null⟩ := leaf.lacksValue_iff.1 lacks
        exact hasValue needed null
      rw [problem?, if_neg (mt leaf.lacksPath_iff.1 hasPath), if_neg present,
        if_pos (leaf.lacksTexts_iff.2 ⟨membership, other⟩)]

theorem Report.mem_forCondition_iff {report : Report} {path : Path} {issue : Issue} :
    issue ∈ report.forCondition path ↔ issue ∈ report.issues ∧ issue.target = .condition path := by
  rw [forCondition, List.mem_filter]
  cases issue.target <;> simp

namespace Condition

/-- What is wrong with a node by itself, whatever stands below it. -/
inductive Flawed : Condition → String → Prop where
  | emptyGroup (connective : Connective) :
    Flawed (.group connective []) "group must contain at least one condition"
  | leaf {leaf : Leaf} {message : String} (lacks : leaf.Lacks message) :
    Flawed (.leaf leaf) message

theorem exists_flawed_iff {node : Condition} : (∃ message, node.Flawed message) ↔
    (∃ connective, node = .group connective []) ∨ ∃ leaf, node = .leaf leaf ∧ ¬leaf.Complete := by
  constructor
  · rintro ⟨message, flawed⟩
    cases flawed with
    | emptyGroup connective => exact .inl ⟨connective, rfl⟩
    | @leaf leaf _ lacks =>
      refine .inr ⟨leaf, rfl, fun complete => ?_⟩
      rw [← Leaf.problem?_eq_none_iff, Leaf.problem?_eq_some_iff.2 lacks] at complete
      cases complete
  · rintro (⟨connective, rfl⟩ | ⟨leaf, rfl, incomplete⟩)
    · exact ⟨_, .emptyGroup connective⟩
    · rw [← Leaf.problem?_eq_none_iff, ← ne_eq, Option.ne_none_iff_exists'] at incomplete
      rcases incomplete with ⟨message, found⟩
      exact ⟨message, .leaf (Leaf.problem?_eq_some_iff.1 found)⟩

/-! ### The walk -/

/-- The message of the issue of a node, if it has one. -/
def flaw? : Condition → Option String
  | .group _ [] => some "group must contain at least one condition"
  | .leaf comparison => comparison.problem?
  | _ => none

variable {condition node : Condition} {path : Path} {issue : Issue}

theorem flaw?_eq_some_iff {message : String} :
    node.flaw? = some message ↔ node.Flawed message := by
  constructor
  · intro found
    unfold flaw? at found
    split at found
    · cases found
      exact .emptyGroup _
    · exact .leaf (Leaf.problem?_eq_some_iff.1 found)
    · cases found
  · intro flawed
    cases flawed with
    | emptyGroup connective => rfl
    | leaf lacks => exact Leaf.problem?_eq_some_iff.2 lacks

theorem issuesAmong_eq (path : Path) (index : Nat) (children : List Condition) :
    issuesAmong path index children =
      (children.zipIdx index).flatMap fun (child, place) => issuesAt (path ++ [place]) child := by
  induction children generalizing index with
  | nil => rfl
  | cons child rest ih => rw [issuesAmong, ih, List.zipIdx_cons, List.flatMap_cons]

/-- The issue of the node itself comes first, and those of its children follow in their order. -/
theorem issuesAt_eq (path : Path) (node : Condition) : issuesAt path node =
    node.flaw?.toList.map (⟨.condition path, ·⟩) ++
      node.members.zipIdx.flatMap fun (child, index) => issuesAt (path ++ [index]) child := by
  cases node with
  | group connective children =>
    rw [issuesAt, issuesAmong_eq]
    cases children <;> rfl
  | not child => simp [issuesAt, flaw?, members]
  | leaf comparison =>
    simp only [issuesAt, flaw?, members]
    cases comparison.problem? <;> rfl

theorem issuesAt_eq_flatMap_places (path : Path) (condition : Condition) :
    issuesAt path condition = condition.places.flatMap fun (rest, node) =>
      node.flaw?.toList.map (⟨.condition (path ++ rest), ·⟩) :=
  walk_eq_flatMap_places issuesAt_eq path condition

theorem mem_issuesAt_iff : issue ∈ issuesAt path condition ↔
    ∃ rest node message, condition.get rest = .ok node ∧ node.Flawed message ∧
      issue = ⟨.condition (path ++ rest), message⟩ := by
  rw [issuesAt_eq_flatMap_places, List.mem_flatMap]
  constructor
  · rintro ⟨⟨rest, node⟩, place, own⟩
    obtain ⟨message, flaw, rfl⟩ := List.mem_map.1 own
    have flawed := flaw?_eq_some_iff.1 (Option.mem_toList.1 flaw)
    exact ⟨rest, node, message, mem_places_iff.1 place, flawed, rfl⟩
  · rintro ⟨rest, node, message, reached, flawed, rfl⟩
    have flaw := Option.mem_toList.2 (flaw?_eq_some_iff.2 flawed)
    exact ⟨(rest, node), mem_places_iff.2 reached, List.mem_map.2 ⟨message, flaw, rfl⟩⟩

theorem target_of_mem_issuesAt (mem : issue ∈ issuesAt path condition) :
    ∃ rest, issue.target = .condition (path ++ rest) := by
  rcases mem_issuesAt_iff.1 mem with ⟨rest, _, _, _, _, rfl⟩
  exact ⟨rest, rfl⟩

/-- Both issues are about nodes, and the path of the first comes before that of the other. -/
def Precedes (issue other : Issue) : Prop :=
  ∃ path later, issue.target = .condition path ∧ other.target = .condition later ∧ path < later

-- A node has one issue at most, so the order is that of the nodes.
theorem pairwise_issuesAt (path : Path) (condition : Condition) :
    (issuesAt path condition).Pairwise Precedes := by
  rw [issuesAt_eq_flatMap_places, List.pairwise_flatMap]
  constructor
  · rintro ⟨rest, node⟩ _
    change (node.flaw?.toList.map _).Pairwise Precedes
    cases node.flaw? <;> simp
  · refine (pairwise_places condition).imp ?_
    intro before after less issue mem other otherMem
    obtain ⟨_, _, rfl⟩ := List.mem_map.1 mem
    obtain ⟨_, _, rfl⟩ := List.mem_map.1 otherMem
    exact ⟨_, _, rfl, rfl, List.append_left_lt less⟩

/-! ### Reports -/

theorem mem_issues_iff {message : String} : ⟨.condition path, message⟩ ∈ condition.issues ↔
    ∃ node, condition.get path = .ok node ∧ node.Flawed message := by
  rw [issues, mem_issuesAt_iff]
  constructor
  · rintro ⟨rest, node, _, reached, flawed, same⟩
    cases same
    exact ⟨node, reached, flawed⟩
  · rintro ⟨node, reached, flawed⟩
    exact ⟨path, node, message, reached, flawed, rfl⟩

theorem length_forCondition_le_one (condition : Condition) (path : Path) :
    ((Report.mk condition.issues).forCondition path).length ≤ 1 := by
  have ordered : ((Report.mk condition.issues).forCondition path).Pairwise Precedes :=
    (pairwise_issuesAt [] condition).filter _
  have about : ∀ issue ∈ (Report.mk condition.issues).forCondition path,
      issue.target = .condition path :=
    fun issue mem => (Report.mem_forCondition_iff.1 mem).2
  cases found : (Report.mk condition.issues).forCondition path with
  | nil => exact Nat.zero_le 1
  | cons issue rest =>
    cases rest with
    | nil => exact Nat.le_refl 1
    | cons other rest =>
      -- Two issues would be about one path, and the path would come before itself.
      rw [found] at ordered about
      have inTurn := (List.pairwise_cons.1 ordered).1 other (by simp)
      rcases inTurn with ⟨before, later, target, otherTarget, less⟩
      rw [about issue (by simp)] at target
      rw [about other (by simp)] at otherTarget
      cases target
      cases otherTarget
      exact absurd less (List.lt_irrefl path)

/-- What the issues of a condition say of its nodes. -/
structure Diagnosed (condition : Condition) : Prop where
  addressed : ∀ issue ∈ condition.issues, ∃ path, issue.target = .condition path
  reported : ∀ path message, ⟨.condition path, message⟩ ∈ condition.issues ↔
    ∃ node, condition.get path = .ok node ∧ node.Flawed message
  complained : ∀ path, (∃ message, ⟨.condition path, message⟩ ∈ condition.issues) ↔
    (∃ connective, condition.get path = .ok (.group connective [])) ∨
      ∃ leaf, condition.get path = .ok (.leaf leaf) ∧ ¬leaf.Complete
  /-- A path comes before those that go on from it, and else the first index that differs counts. -/
  ordered : condition.issues.Pairwise Precedes
  single : ∀ path, ((Report.mk condition.issues).forCondition path).length ≤ 1
  free : condition.issues = [] ↔
    ∀ path node, condition.get path = .ok node → ∀ message, ¬node.Flawed message

/-- There is one issue for each node with something wrong about it, under the path that leads
there. -/
theorem issues_are_addressed (condition : Condition) : Diagnosed condition := by
  constructor
  case addressed => exact fun issue mem => target_of_mem_issuesAt mem
  case reported => exact fun path message => mem_issues_iff
  case complained =>
    intro path
    simp only [mem_issues_iff]
    constructor
    · rintro ⟨message, node, reached, flawed⟩
      rcases exists_flawed_iff.1 ⟨message, flawed⟩ with ⟨connective, rfl⟩ | ⟨leaf, rfl, incomplete⟩
      · exact .inl ⟨connective, reached⟩
      · exact .inr ⟨leaf, reached, incomplete⟩
    · rintro (⟨connective, reached⟩ | ⟨leaf, reached, incomplete⟩)
      · exact ⟨_, _, reached, .emptyGroup connective⟩
      · rcases exists_flawed_iff.2 (.inr ⟨leaf, rfl, incomplete⟩) with ⟨message, flawed⟩
        exact ⟨message, _, reached, flawed⟩
  case ordered => exact pairwise_issuesAt [] condition
  case single => exact length_forCondition_le_one condition
  case free =>
    constructor
    · intro none path node reached message flawed
      have mem := mem_issues_iff.2 ⟨node, reached, flawed⟩
      rw [none] at mem
      cases mem
    · intro sound
      refine List.eq_nil_iff_forall_not_mem.2 fun issue mem => ?_
      rcases mem_issuesAt_iff.1 mem with ⟨path, node, message, reached, flawed, _⟩
      exact sound path node reached message flawed

end Condition

end WorkflowRules
