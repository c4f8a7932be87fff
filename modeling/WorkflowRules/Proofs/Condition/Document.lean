import WorkflowRules.Proofs.Condition.Shape

/-!
The nodes of a JSON value in document order, and what can be wrong with a single one of them. The
check of a condition's shape and the reader of its form both report the first thing that is wrong,
and differ only in what they take for wrong.
-/
namespace WorkflowRules.Condition

/-- A node of a JSON value, and where it stands. -/
structure Node where
  location : Location
  json : Json

namespace Node

/-- The nodes right below. What an object is taken for says which of its values they are. -/
def children (node : Node) : List Node :=
  match node.json with
  | .object fields =>
    match readingOf fields with
    | .group connective (.array items) =>
      items.zipIdx.map fun (item, index) => ⟨node.location ++ [.member connective index], item⟩
    | .not child => [⟨node.location ++ [.negated], child⟩]
    | _ => []
  | _ => []

theorem sizeOf_child {node child : Node} (mem : child ∈ node.children) :
    sizeOf child.json < sizeOf node.json := by
  obtain ⟨location, json⟩ := node
  cases json with
  | object fields =>
    cases reading : readingOf fields with
    | group connective value =>
      have inside := List.sizeOf_lt_of_mem (mem_of_readingOf_group reading)
      cases value with
      | array items =>
        simp only [children, reading, List.mem_map] at mem
        obtain ⟨place, placed, rfl⟩ := mem
        have among := List.sizeOf_lt_of_mem (List.fst_mem_of_mem_zipIdx placed)
        simp only [Json.object.sizeOf_spec, Prod.mk.sizeOf_spec, Json.array.sizeOf_spec] at *
        omega
      | null | bool | number | string | object => simp [children, reading] at mem
    | not value =>
      have inside := List.sizeOf_lt_of_mem (mem_of_readingOf_not reading)
      simp only [children, reading, List.mem_singleton] at mem
      subst mem
      simp only [Json.object.sizeOf_spec, Prod.mk.sizeOf_spec] at *
      omega
    | leaf => simp [children, reading] at mem
  | null | bool | number | string | array => simp [children] at mem

/-- The node and all nodes below it, in document order. -/
def subtree (node : Node) : List Node :=
  node :: node.children.attach.flatMap fun child => subtree child.1
termination_by node.json
decreasing_by exact sizeOf_child child.2

theorem subtree_eq (node : Node) : node.subtree = node :: node.children.flatMap subtree := by
  rw [subtree, List.flatMap_subtype fun _ _ => rfl, List.unattach_attach]

theorem findSome?_flatMap {fault walk : Node → Option ShapeError} {nodes : List Node}
    (each : ∀ node ∈ nodes, walk node = node.subtree.findSome? fault) :
    nodes.findSome? walk = (nodes.flatMap subtree).findSome? fault := by
  induction nodes with
  | nil => rfl
  | cons node rest ih =>
    obtain ⟨here, later⟩ := List.forall_mem_cons.1 each
    rw [List.flatMap_cons, List.findSome?_append, ← here, ← ih later, List.findSome?_cons]
    cases walk node <;> rfl

-- A walk that looks at a node before it goes on below it stops at the first fault.
theorem eq_findSome_of_walk {walk fault : Node → Option ShapeError}
    (step : ∀ node, walk node = (fault node).or (node.children.findSome? walk)) (node : Node) :
    walk node = node.subtree.findSome? fault := by
  induction node using subtree.induct with
  | case1 node ih =>
    have below := findSome?_flatMap fun child mem => ih ⟨child, mem⟩
    rw [step, subtree_eq, List.findSome?_cons, below]
    cases fault node <;> rfl

/-! ### What is wrong with a node -/

def textProblem? (name : String) : Option Json → Option ShapeProblem
  | some (.string _) => none
  | some _ => some (.fieldType name "a string")
  | none => some (.missingField name)

/-- What is missing from a node, whatever stands below it. -/
def problem? (json : Json) : Option ShapeProblem :=
  match json with
  | .object fields =>
    match readingOf fields with
    | .group _ (.array _) | .not _ => none
    | .group connective _ => some (notChildren connective)
    | .leaf =>
      (textProblem? "path" (fields.lookup "path")).or (textProblem? "op" (operatorField? fields))
  | _ => some notAnObject

/-- A group or a negation, for which a level must be left. -/
def opensLevel (json : Json) : Bool :=
  match json with
  | .object fields =>
    match readingOf fields with
    | .leaf => false
    | _ => true
  | _ => false

/-- A leaf whose operator, blanks around it aside, is none of the known names. -/
def namesNoOperator (json : Json) : Bool :=
  match json with
  | .object fields =>
    match readingOf fields, operatorField? fields with
    | .leaf, some (.string name) => Text.trim name ∉ Operator.all.map Operator.name
    | _, _ => false
  | _ => false

/-- What the check takes for wrong. The levels above a node are the steps that lead to it. -/
def checkFault? (limit : Nat) (node : Node) : Option ShapeError :=
  ((problem? node.json).or
    (if opensLevel node.json ∧ limit ≤ node.location.length then some (.tooDeep limit)
      else none)).map (shapeError node.location)

/-- What the reader takes for wrong. -/
def readFault? (node : Node) : Option ShapeError :=
  ((problem? node.json).or
    (if namesNoOperator node.json then some unknownOperator else none)).map
      (shapeError node.location)

end Node

/-- The error of a step that fails. -/
def failure? {α : Type} : Except ShapeError α → Option ShapeError
  | .ok _ => none
  | .error error => some error

variable {limit : Nat} {location : Location} {connective : Connective} {fields : Json.Fields}

@[simp]
theorem failure?_ok {α : Type} (value : α) : failure? (.ok value) = none := rfl

@[simp]
theorem failure?_error {α : Type} (error : ShapeError) :
    failure? (.error error : Except ShapeError α) = some error := rfl

theorem eq_error_iff_failure? {α : Type} {step : Except ShapeError α} {error : ShapeError} :
    step = .error error ↔ failure? step = some error := by
  cases step <;> simp

theorem eq_ok_iff_failure? {step : Except ShapeError Unit} :
    step = .ok () ↔ failure? step = none := by
  cases step <;> simp

@[simp]
theorem failure?_map {α β : Type} (step : Except ShapeError α) (change : α → β) :
    failure? (step.map change) = failure? step := by
  cases step <;> rfl

theorem failure?_requireString (location : Location) (name : String) (field : Option Json) :
    failure? (requireString location name field) =
      (Node.textProblem? name field).map (shapeError location) := by
  cases field with
  | none => rfl
  | some json => cases json <;> rfl

/-! ### The check -/

/-- How the check fails from a node on, with the levels above it taken off. -/
def checkFailure? (limit : Nat) (node : Node) : Option ShapeError :=
  failure? (checkNode limit (limit - node.location.length) node.location node.json)

theorem failure?_checkItems (left index : Nat) (items : List Json) :
    failure? (checkItems limit left location connective index items) =
      (items.zipIdx index).findSome? fun (item, index) =>
        failure? (checkNode limit left (location ++ [.member connective index]) item) := by
  induction items generalizing index with
  | nil => rfl
  | cons item rest ih =>
    rw [checkItems, List.zipIdx_cons, List.findSome?_cons]
    cases first : checkNode limit left (location ++ [.member connective index]) item with
    | ok _ => simpa [first] using ih (index + 1)
    | error error => simp [first]

theorem failure?_checkLeaf : failure? (checkLeaf location fields) =
    ((Node.textProblem? "path" (fields.lookup "path")).or
      (Node.textProblem? "op" (operatorField? fields))).map (shapeError location) := by
  have path := failure?_requireString location "path" (fields.lookup "path")
  have op := failure?_requireString location "op" (operatorField? fields)
  rw [Option.map_or, ← path, ← op, checkLeaf]
  cases requireString location "path" (fields.lookup "path") with
  | error _ => rfl
  | ok _ => cases requireString location "op" (operatorField? fields) <;> rfl

theorem checkFailure?_step (node : Node) : checkFailure? limit node =
    (node.checkFault? limit).or (node.children.findSome? (checkFailure? limit)) := by
  obtain ⟨location, json⟩ := node
  have level : limit - location.length = 0 ↔ limit ≤ location.length := Nat.sub_eq_zero_iff_le
  cases json with
  | object fields =>
    cases reading : readingOf fields with
    | group connective value =>
      simp only [checkFailure?, checkNode_object, Node.checkFault?, Node.problem?,
        Node.opensLevel, Node.children, reading]
      cases value with
      | array items =>
        by_cases full : limit ≤ location.length
        · simp [checkGroup, full]
        · simp [checkGroup, level, full, failure?_checkItems, List.findSome?_map,
            Function.comp_def, checkFailure?, Nat.sub_add_eq]
      | null | bool | number | string | object => rfl
    | not child =>
      simp only [checkFailure?, checkNode_object, Node.checkFault?, Node.problem?,
        Node.opensLevel, Node.children, reading]
      by_cases full : limit ≤ location.length
      · simp [checkNegated, full]
      · simp [checkNegated, level, full, checkFailure?, Nat.sub_add_eq]
    | leaf =>
      simp [checkFailure?, checkNode_object, Node.checkFault?, Node.problem?, Node.opensLevel,
        Node.children, reading, failure?_checkLeaf]
  | null | bool | number | string | array => rfl

theorem failure?_checkShape (limit : Nat) (json : Json) : failure? (checkShape limit json) =
    (Node.subtree ⟨[], json⟩).findSome? (Node.checkFault? limit) :=
  Node.eq_findSome_of_walk checkFailure?_step ⟨[], json⟩

/-! ### The reader -/

/-- How reading fails from a node on. -/
def readFailure? (node : Node) : Option ShapeError :=
  failure? (readNode node.location node.json)

theorem failure?_readItems (index : Nat) (items : List Json) :
    failure? (readItems location connective index items) =
      (items.zipIdx index).findSome? fun (item, index) =>
        failure? (readNode (location ++ [.member connective index]) item) := by
  induction items generalizing index with
  | nil => rfl
  | cons item rest ih =>
    rw [readItems, List.zipIdx_cons, List.findSome?_cons]
    cases first : readNode (location ++ [.member connective index]) item with
    | ok child => simpa [first] using ih (index + 1)
    | error error => simp [first]

theorem ofText?_eq_none_iff {text : String} :
    Operator.ofText? text = none ↔ Text.trim text ∉ Operator.all.map Operator.name := by
  rw [Operator.ofText?, Operator.ofName?, List.find?_eq_none]
  simp

theorem failure?_readLeaf (reading : readingOf fields = .leaf) :
    failure? (readLeaf location fields) = Node.readFault? ⟨location, .object fields⟩ := by
  have path := failure?_requireString location "path" (fields.lookup "path")
  have op := failure?_requireString location "op" (operatorField? fields)
  simp only [Node.readFault?, Node.problem?, reading, Option.map_or, ← path, ← op, readLeaf]
  cases requireString location "path" (fields.lookup "path") with
  | error _ => rfl
  | ok _ =>
    cases named : operatorField? fields with
    | none => rfl
    | some json =>
      cases json with
      | string name =>
        simp only [Node.namesNoOperator, reading, named, decide_eq_true_eq,
          ← ofText?_eq_none_iff]
        cases known : Operator.ofText? name with
        | none => simp [known, requireString, bind, Except.bind]
        | some operator => simp [known, requireString, bind, Except.bind]
      | null | bool | number | array | object => rfl

theorem readFailure?_step (node : Node) : readFailure? node =
    node.readFault?.or (node.children.findSome? readFailure?) := by
  obtain ⟨location, json⟩ := node
  cases json with
  | object fields =>
    cases reading : readingOf fields with
    | group connective value =>
      simp only [readFailure?, readNode_object, Node.readFault?, Node.problem?,
        Node.namesNoOperator, Node.children, reading, failure?_map]
      cases value with
      | array items =>
        simp [readChildren, failure?_readItems, List.findSome?_map, Function.comp_def,
          readFailure?]
      | null | bool | number | string | object => rfl
    | not child =>
      simp [readFailure?, readNode_object, Node.readFault?, Node.problem?,
        Node.namesNoOperator, Node.children, reading, failure?_map]
    | leaf =>
      simp [readFailure?, readNode_object, Node.children, reading, failure?_map,
        failure?_readLeaf reading]
  | null | bool | number | string | array => rfl

theorem failure?_ofJson (json : Json) :
    failure? (ofJson json) = (Node.subtree ⟨[], json⟩).findSome? Node.readFault? :=
  Node.eq_findSome_of_walk readFailure?_step ⟨[], json⟩

end WorkflowRules.Condition
