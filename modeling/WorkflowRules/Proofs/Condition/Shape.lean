import WorkflowRules.Condition.Form
import WorkflowRules.Condition.Shape
import WorkflowRules.Proofs.Condition.Nodes
import WorkflowRules.Proofs.Json.Parts
import WorkflowRules.Proofs.Steps

/-!
The check of a condition's shape and the reader of its form are two recursions. Both take an
object for the same thing, by the first of the keys that it has, and so what is read passes
the check exactly when it is not too deep.
-/
namespace WorkflowRules.Condition

/-- What an object is taken for. -/
inductive Reading where
  | group (connective : Connective) (children : Json)
  | not (child : Json)
  | leaf

def readingOf (fields : Json.Fields) : Reading :=
  match fields.lookup "all" with
  | some children => .group .all children
  | none =>
    match fields.lookup "any" with
    | some children => .group .any children
    | none =>
      match fields.lookup "not" with
      | some child => .not child
      | none => .leaf

variable {limit left : Nat} {location : Location} {fields : Json.Fields}

theorem checkGroupField_eq_map (connective : Connective) :
    checkGroupField limit left location connective fields =
      (fields.lookup connective.key).map (checkGroup limit left location connective) :=
  Json.eq_lookup_of_walk rfl (fun _ _ _ => rfl) fields

theorem readGroupField_eq_map (connective : Connective) :
    readGroupField location connective fields =
      (fields.lookup connective.key).map (readChildren location connective) :=
  Json.eq_lookup_of_walk rfl (fun _ _ _ => rfl) fields

/-- The check of a negation. -/
def checkNegated (limit left : Nat) (location : Location) (child : Json) :
    Except ShapeError Unit :=
  if left = 0 then .error (shapeError location (.tooDeep limit))
  else checkNode limit (left - 1) (location ++ [.negated]) child

theorem checkNotField_eq_map :
    checkNotField limit left location fields =
      (fields.lookup "not").map (checkNegated limit left location) :=
  Json.eq_lookup_of_walk rfl (fun _ _ _ => rfl) fields

theorem readNotField_eq_map :
    readNotField location fields =
      (fields.lookup "not").map (readNode (location ++ [.negated])) :=
  Json.eq_lookup_of_walk rfl (fun _ _ _ => rfl) fields

-- These two equations are all that the recursions share, and all that is used of them.
theorem checkNode_object : checkNode limit left location (.object fields) =
    match readingOf fields with
    | .group connective children => checkGroup limit left location connective children
    | .not child => checkNegated limit left location child
    | .leaf => checkLeaf location fields := by
  rw [checkNode, checkGroupField_eq_map, checkGroupField_eq_map, checkNotField_eq_map, readingOf]
  simp only [Connective.key]
  cases fields.lookup "all" <;> cases fields.lookup "any" <;> cases fields.lookup "not" <;> rfl

theorem readNode_object : readNode location (.object fields) =
    match readingOf fields with
    | .group connective children =>
      (readChildren location connective children).map (.group connective)
    | .not child => (readNode (location ++ [.negated]) child).map .not
    | .leaf => (readLeaf location fields).map .leaf := by
  rw [readNode, readGroupField_eq_map, readGroupField_eq_map, readNotField_eq_map, readingOf]
  simp only [Connective.key]
  cases fields.lookup "all" <;> cases fields.lookup "any" <;> cases fields.lookup "not" <;> rfl

theorem mem_of_readingOf_group {connective : Connective} {children : Json}
    (reading : readingOf fields = .group connective children) :
    (connective.key, children) ∈ fields := by
  apply Json.mem_of_lookup
  unfold readingOf at reading
  split at reading
  · cases reading
    assumption
  · split at reading
    · cases reading
      assumption
    · split at reading <;> cases reading

theorem mem_of_readingOf_not {child : Json} (reading : readingOf fields = .not child) :
    ("not", child) ∈ fields := by
  apply Json.mem_of_lookup
  unfold readingOf at reading
  split at reading
  · cases reading
  · split at reading
    · cases reading
    · split at reading <;> cases reading
      assumption

theorem checkLeaf_of_readLeaf {leaf : Leaf} (read : readLeaf location fields = .ok leaf) :
    checkLeaf location fields = .ok () := by
  obtain ⟨path, hasPath, rest⟩ := bind_eq_ok.1 read
  obtain ⟨name, hasOperator, _⟩ := bind_eq_ok.1 rest
  exact bind_eq_ok.2 ⟨path, hasPath, bind_eq_ok.2 ⟨name, hasOperator, rfl⟩⟩

/-- Check and reader agree about a value, be it a condition or the children of a group. -/
structure Agree (limit : Nat) (json : Json) : Prop where
  node : ∀ left location condition, readNode location json = .ok condition →
    (checkNode limit left location json = .ok () ↔ condition.depth ≤ left)
  group : ∀ left location connective children,
    readChildren location connective json = .ok children →
    (checkGroup limit left location connective json = .ok () ↔ 1 + depthMax children ≤ left)

-- A level is taken off before what is below it is checked.
theorem one_level_iff {check : Except ShapeError Unit} {error : ShapeError} {depth : Nat}
    (below : check = .ok () ↔ depth ≤ left - 1) :
    (if left = 0 then .error error else check) = .ok () ↔ 1 + depth ≤ left := by
  by_cases none : left = 0
  · rw [if_pos none]
    exact ⟨nofun, fun fits => by omega⟩
  · rw [if_neg none, below]
    omega

-- Items are checked with the level of their group already taken off.
theorem agree_items {items : List Json} (each : ∀ item ∈ items, Agree limit item)
    {connective : Connective} {index : Nat} {children : List Condition}
    (read : readItems location connective index items = .ok children) :
    checkItems limit left location connective index items = .ok () ↔ depthMax children ≤ left := by
  induction items generalizing index children with
  | nil =>
    cases read
    simp [checkItems, depthMax]
  | cons item rest ih =>
    obtain ⟨here, later⟩ := List.forall_mem_cons.1 each
    rw [readItems] at read
    cases first : readNode (location ++ [.member connective index]) item with
    | error cause => simp [first] at read
    | ok child =>
      simp only [first] at read
      obtain ⟨others, readRest, rfl⟩ := map_eq_ok.1 read
      have node := here.node left _ _ first
      have nodes := ih later readRest
      rw [depthMax, Nat.max_le, ← node, ← nodes, checkItems]
      cases checkNode limit left (location ++ [.member connective index]) item <;> simp

theorem agree (limit : Nat) (json : Json) : Agree limit json := by
  induction json with
  | array items ih =>
    -- An array can only be the children of a group, and an object only a node.
    constructor
    · intro left location condition read
      cases read
    · intro left location connective children read
      exact one_level_iff (agree_items ih read)
  | object fields ih =>
    constructor
    · intro left location condition read
      rw [readNode_object] at read
      rw [checkNode_object]
      cases reading : readingOf fields with
      | group connective value =>
        simp only [reading] at read
        obtain ⟨children, readChildren, rfl⟩ := map_eq_ok.1 read
        have group := (ih _ (mem_of_readingOf_group reading)).group left location
        exact group connective children readChildren
      | not value =>
        simp only [reading] at read
        obtain ⟨child, readChild, rfl⟩ := map_eq_ok.1 read
        have node := (ih _ (mem_of_readingOf_not reading)).node (left - 1) _ child readChild
        exact one_level_iff node
      | leaf =>
        simp only [reading] at read
        obtain ⟨leaf, readLeaf, rfl⟩ := map_eq_ok.1 read
        simp [checkLeaf_of_readLeaf readLeaf, depth]
    · intro left location connective children read
      cases read
  | null | bool | number | string =>
    constructor
    · intro left location condition read
      cases read
    · intro left location connective children read
      cases read

/-- What is read passes the check exactly when it is not too deep. -/
theorem checkShape_eq_ok_iff {json : Json} {condition : Condition}
    (read : ofJson json = .ok condition) :
    checkShape limit json = .ok () ↔ condition.depth ≤ limit :=
  (agree limit json).node limit [] condition read

end WorkflowRules.Condition
