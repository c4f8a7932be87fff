import WorkflowRules.Loading
import WorkflowRules.Proofs.Condition.Document

/-!
Check and reader of conditions agree. What one of them accepts the other accepts, but for depth,
which only the check minds, and for the names of operators, which only the reader knows. Loading,
which does both, therefore loads what can be read and is not too deep.
-/
namespace WorkflowRules.Condition

/-- Where the first leaf that names no operator stands. -/
def unknownOperatorAt? (nodes : List Node) : Option Location :=
  (nodes.find? fun node => Node.namesNoOperator node.json).map Node.location

/-- What check and reader of a value have to do with each other. -/
structure Agreement (limit : Nat) (json : Json) : Prop where
  /-- The check of what can be read is about depth only. -/
  depth : ∀ condition, ofJson json = .ok condition →
    (checkShape limit json = .ok () ↔ condition.depth ≤ limit)
  /-- What passes the check and cannot be read has an unknown operator. -/
  operator : checkShape limit json = .ok () → ∀ error, ofJson json = .error error →
    ∃ location, unknownOperatorAt? (Node.subtree ⟨[], json⟩) = some location ∧
      error = shapeError location unknownOperator
  /-- What fails the check, other than for its depth, fails it at a node that is no condition.
  Reading stops there too, unless an unknown operator stopped it before. -/
  problem : ∀ error, checkShape limit json = .error error →
    (∀ levels, error.problem ≠ .tooDeep levels) →
    ∃ before node after problem, Node.subtree ⟨[], json⟩ = before ++ node :: after ∧
      Node.problem? node.json = some problem ∧ error = shapeError node.location problem ∧
      ofJson json = .error
        (match unknownOperatorAt? before with
        | none => error
        | some location => shapeError location unknownOperator)

-- Where the check finds nothing wrong, the reader minds the operators only.
theorem findSome?_readFault?_of_sound {nodes : List Node}
    (sound : ∀ node ∈ nodes, Node.problem? node.json = none) :
    nodes.findSome? Node.readFault? =
      (unknownOperatorAt? nodes).map (shapeError · unknownOperator) := by
  induction nodes with
  | nil => rfl
  | cons node rest ih =>
    obtain ⟨here, later⟩ := List.forall_mem_cons.1 sound
    have ih := ih later
    simp only [unknownOperatorAt?] at ih ⊢
    rw [List.findSome?_cons, List.find?_cons, Node.readFault?, here]
    cases Node.namesNoOperator node.json with
    | true => rfl
    | false => exact ih

theorem problem?_of_no_fault {node : Node} {other : Option ShapeProblem}
    (free : ((Node.problem? node.json).or other).map (shapeError node.location) = none) :
    Node.problem? node.json = none := by
  rw [Option.map_eq_none_iff, Option.or_eq_none_iff] at free
  exact free.1

theorem problem?_of_checkFault?_eq_some {limit : Nat} {node : Node} {error : ShapeError}
    (fault : node.checkFault? limit = some error)
    (shallow : ∀ levels, error.problem ≠ .tooDeep levels) :
    ∃ problem, Node.problem? node.json = some problem ∧
      error = shapeError node.location problem := by
  obtain ⟨problem, found, rfl⟩ := Option.map_eq_some_iff.1 fault
  cases own : Node.problem? node.json with
  | some known =>
    rw [own, Option.some_or, Option.some.injEq] at found
    exact ⟨known, rfl, by rw [found]⟩
  | none =>
    rw [own, Option.none_or] at found
    split at found
    · cases found
      exact absurd rfl (shallow limit)
    · cases found

-- What can be read has no problem at any node, so nothing but its depth is left to object to.
theorem checkShape_of_deep {limit : Nat} {json : Json} {condition : Condition}
    (read : ofJson json = .ok condition) (deep : limit < condition.depth) :
    ∃ location, checkShape limit json = .error (shapeError location (.tooDeep limit)) := by
  cases checked : checkShape limit json with
  | ok _ => exact absurd ((checkShape_eq_ok_iff read).1 checked) (Nat.not_le.2 deep)
  | error error =>
    have sound : failure? (ofJson json) = none := by rw [read, failure?_ok]
    rw [failure?_ofJson, List.findSome?_eq_none_iff] at sound
    rw [eq_error_iff_failure?, failure?_checkShape] at checked
    obtain ⟨node, mem, fault⟩ := List.exists_of_findSome?_eq_some checked
    have own := problem?_of_no_fault (sound node mem)
    rw [Node.checkFault?, own, Option.none_or] at fault
    split at fault
    · cases fault
      exact ⟨node.location, rfl⟩
    · cases fault

theorem agreement (limit : Nat) (json : Json) : Agreement limit json := by
  constructor
  case depth => exact fun condition read => checkShape_eq_ok_iff read
  case operator =>
    intro passed error failed
    rw [eq_ok_iff_failure?, failure?_checkShape, List.findSome?_eq_none_iff] at passed
    rw [eq_error_iff_failure?, failure?_ofJson,
      findSome?_readFault?_of_sound fun node mem => problem?_of_no_fault (passed node mem)]
      at failed
    obtain ⟨location, first, same⟩ := Option.map_eq_some_iff.1 failed
    exact ⟨location, first, same.symm⟩
  case problem =>
    intro error failed shallow
    rw [eq_error_iff_failure?, failure?_checkShape, List.findSome?_eq_some_iff] at failed
    obtain ⟨before, node, after, split, fault, free⟩ := failed
    obtain ⟨problem, own, same⟩ := problem?_of_checkFault?_eq_some fault shallow
    refine ⟨before, node, after, problem, split, own, same, ?_⟩
    have here : node.readFault? = some error := by rw [Node.readFault?, own, same]; rfl
    rw [eq_error_iff_failure?, failure?_ofJson, split, List.findSome?_append,
      findSome?_readFault?_of_sound fun earlier mem => problem?_of_no_fault (free earlier mem),
      List.findSome?_cons, here]
    cases unknownOperatorAt? before <;> rfl

theorem loadFrom_eq_ok_iff {limits : Limits} {json : Json} {condition : Condition} :
    loadFrom limits json = .ok condition ↔
      ∃ read, ofJson json = .ok read ∧ read.depth ≤ limits.acceptedDepth ∧
        condition = read.normalize := by
  rw [loadFrom, check_bind_eq_ok, bind_eq_ok]
  constructor
  · rintro ⟨passed, read, reads, same⟩
    cases same
    exact ⟨read, reads, (checkShape_eq_ok_iff reads).1 passed, rfl⟩
  · rintro ⟨read, reads, fits, rfl⟩
    exact ⟨(checkShape_eq_ok_iff reads).2 fits, read, reads, rfl⟩

theorem load_eq_ok_iff {limits : Limits} {text : String} {condition : Condition} :
    load limits text = .ok condition ↔
      ∃ value read, loadJson text = .ok value ∧ ofJson value.json = .ok read ∧
        read.depth ≤ limits.acceptedDepth ∧ condition = read.normalize := by
  simp only [load, bind_eq_ok, mapError_eq_ok, loadFrom_eq_ok_iff, exists_and_left]

/-- Check and reader agree on every value and every limit, and loading takes exactly what can be
read and is not too deep. -/
theorem check_agrees_with_reader :
    (∀ limit json, Agreement limit json) ∧
      ∀ limits text condition, load limits text = .ok condition ↔
        ∃ value read, loadJson text = .ok value ∧ ofJson value.json = .ok read ∧
          read.depth ≤ limits.acceptedDepth ∧ condition = read.normalize :=
  ⟨agreement, fun _ _ _ => load_eq_ok_iff⟩

/-- A leaf whose operator is no operator. -/
def oddLeaf : Json :=
  .object [("path", .string "p"), ("op", .string " ~ ")]

/-- A group of such a leaf and of something that is no condition at all. -/
def oddGroup : Json :=
  .object [("all", .array [oddLeaf, .null])]

/-- A negated leaf, its operator under the other name and with blanks around it. -/
def plainNegation : Json :=
  .object [("not", .object [("path", .string "p"), ("operator", .string " exists ")])]

theorem sample_agreement :
    (ofJson plainNegation = .ok (.not (.leaf ⟨"p", .exists, .null⟩)) ∧
      checkShape 1 plainNegation = .ok ()) ∧
    (checkShape 0 oddLeaf = .ok () ∧
      ∃ location, ofJson oddLeaf = .error (shapeError location unknownOperator)) ∧
    checkShape 1 oddGroup = .error (shapeError [.member .all 1] notAnObject) ∧
      ∃ before node after, Node.subtree ⟨[], oddGroup⟩ = before ++ node :: after ∧
        Node.problem? node.json = some notAnObject := by
  have reads : ofJson plainNegation = .ok (.not (.leaf ⟨"p", .exists, .null⟩)) := rfl
  have passes : checkShape 0 oddLeaf = .ok () := rfl
  have unread : ofJson oddLeaf = .error (shapeError [] unknownOperator) := rfl
  have fails : checkShape 1 oddGroup = .error (shapeError [.member .all 1] notAnObject) := rfl
  have agrees := check_agrees_with_reader.1
  refine ⟨⟨reads, ((agrees 1 plainNegation).depth _ reads).2 (by decide)⟩, ⟨passes, ?_⟩, fails, ?_⟩
  · obtain ⟨location, _, same⟩ := (agrees 0 oddLeaf).operator passes _ unread
    exact ⟨location, same ▸ unread⟩
  · obtain ⟨before, node, after, problem, split, own, same, _⟩ :=
      (agrees 1 oddGroup).problem _ fails (by intro levels; simp [shapeError, notAnObject])
    obtain rfl : notAnObject = problem := congrArg ShapeError.problem same
    exact ⟨before, node, after, split, own⟩

end WorkflowRules.Condition
