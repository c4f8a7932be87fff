import WorkflowRules.Condition.Basic

/-!
The nodes of a condition, and what normalizing does about groups without children: it fills
them and changes nothing else, so a condition without such groups stays as it is and none
becomes deeper. There are no such groups exactly if their count is zero.
-/
namespace WorkflowRules.Condition

/-- To prove a property of a group it is enough to know it of every child. -/
@[induction_eliminator]
theorem induct {motive : Condition → Prop}
    (group : ∀ connective children, (∀ child ∈ children, motive child) →
      motive (.group connective children))
    (not : ∀ child, motive child → motive (.not child))
    (leaf : ∀ comparison, motive (.leaf comparison)) (condition : Condition) :
    motive condition :=
  -- Of a list of children the recursor has to know that every child has the property.
  @Condition.rec motive (fun children => ∀ child ∈ children, motive child) group not leaf
    (fun _ mem => nomatch mem) (fun _ _ here rest => List.forall_mem_cons.2 ⟨here, rest⟩) condition

/-- A node stands somewhere in a condition; every condition stands in itself. -/
inductive Contains : Condition → Condition → Prop where
  | self (node : Condition) : Contains node node
  | member {connective : Connective} {children : List Condition} {child node : Condition}
    (mem : child ∈ children) (inside : Contains child node) :
    Contains (.group connective children) node
  | negated {child node : Condition} (inside : Contains child node) :
    Contains (.not child) node

/-- No group is without children. -/
def Filled (condition : Condition) : Prop :=
  ∀ connective, ¬ condition.Contains (.group connective [])

theorem filled_leaf (comparison : Leaf) : Filled (.leaf comparison) := by
  intro connective inside
  cases inside

theorem filled_not_iff {child : Condition} : Filled (.not child) ↔ child.Filled := by
  constructor
  · intro filled connective inside
    exact filled connective (.negated inside)
  · intro filled connective inside
    cases inside with
    | negated inside => exact filled connective inside

theorem filled_group_iff {connective : Connective} {children : List Condition} :
    Filled (.group connective children) ↔ children ≠ [] ∧ ∀ child ∈ children, child.Filled := by
  constructor
  · intro filled
    refine ⟨?_, fun child mem other inside => filled other (.member mem inside)⟩
    rintro rfl
    exact filled connective (.self _)
  · rintro ⟨nonempty, filled⟩ other inside
    cases inside with
    | self => exact nonempty rfl
    | member mem inside => exact filled _ mem other inside

theorem normalizeAll_eq_map (children : List Condition) :
    normalizeAll children = children.map normalize := by
  induction children with
  | nil => rfl
  | cons child rest ih => rw [normalizeAll, ih, List.map_cons]

theorem normalize_group {connective : Connective} {children : List Condition}
    (nonempty : children ≠ []) :
    normalize (.group connective children) = .group connective (children.map normalize) := by
  cases children with
  | nil => exact absurd rfl nonempty
  | cons child rest => rw [normalize, normalizeAll_eq_map, List.map_cons]

theorem filled_normalize (condition : Condition) : condition.normalize.Filled := by
  induction condition with
  | group connective children ih =>
    by_cases empty : children = []
    · -- The only group that becomes another one, and it gets a leaf.
      subst empty
      refine filled_group_iff.2 ⟨List.cons_ne_nil _ _, fun child mem => ?_⟩
      obtain rfl := List.mem_singleton.1 mem
      exact filled_leaf _
    · rw [normalize_group empty, filled_group_iff]
      refine ⟨by simpa using empty, fun node mem => ?_⟩
      obtain ⟨child, inside, rfl⟩ := List.mem_map.1 mem
      exact ih child inside
  | not child ih => exact filled_not_iff.2 ih
  | leaf comparison => exact filled_leaf comparison

theorem normalize_of_filled {condition : Condition} (filled : condition.Filled) :
    condition.normalize = condition := by
  induction condition with
  | group connective children ih =>
    obtain ⟨nonempty, each⟩ := filled_group_iff.1 filled
    have same : children.map normalize = children.map id :=
      List.map_congr_left fun child mem => ih child mem (each child mem)
    rw [normalize_group nonempty, same, List.map_id]
  | not child ih => rw [normalize, ih (filled_not_iff.1 filled)]
  | leaf comparison => rfl

theorem depthMax_normalizeAll {children : List Condition}
    (same : ∀ child ∈ children, child.normalize.depth = child.depth) :
    depthMax (children.map normalize) = depthMax children := by
  induction children with
  | nil => rfl
  | cons child rest ih =>
    obtain ⟨here, later⟩ := List.forall_mem_cons.1 same
    rw [List.map_cons, depthMax, depthMax, here, ih later]

theorem depth_normalize (condition : Condition) : condition.normalize.depth = condition.depth := by
  induction condition with
  | group connective children ih =>
    by_cases empty : children = []
    · subst empty
      rfl
    · rw [normalize_group empty, depth, depth, depthMax_normalizeAll ih]
  | not child ih => rw [normalize, depth, depth, ih]
  | leaf comparison => rfl

theorem depthMax_le_iff {children : List Condition} {levels : Nat} :
    depthMax children ≤ levels ↔ ∀ child ∈ children, child.depth ≤ levels := by
  induction children with
  | nil => simp [depthMax]
  | cons child rest ih => rw [depthMax, Nat.max_le, ih, List.forall_mem_cons]

theorem depthMax_concat (children : List Condition) (child : Condition) :
    depthMax (children ++ [child]) = max (depthMax children) child.depth := by
  induction children with
  | nil => simp [depthMax]
  | cons first rest ih => rw [List.cons_append, depthMax, depthMax, ih, Nat.max_assoc]

mutual
/-- How many groups are without children. -/
def emptyGroups : Condition → Nat
  | .group _ children => (if children.isEmpty then 1 else 0) + emptyGroupsSum children
  | .not child => emptyGroups child
  | .leaf _ => 0
termination_by structural condition => condition
def emptyGroupsSum : List Condition → Nat
  | [] => 0
  | child :: rest => emptyGroups child + emptyGroupsSum rest
termination_by structural children => children
end

theorem emptyGroupsSum_eq_zero_iff {children : List Condition} :
    emptyGroupsSum children = 0 ↔ ∀ child ∈ children, child.emptyGroups = 0 := by
  induction children with
  | nil => simp [emptyGroupsSum]
  | cons child rest ih => rw [emptyGroupsSum, Nat.add_eq_zero_iff, ih, List.forall_mem_cons]

theorem emptyGroupsSum_concat (children : List Condition) (child : Condition) :
    emptyGroupsSum (children ++ [child]) = emptyGroupsSum children + child.emptyGroups := by
  induction children with
  | nil => exact Nat.add_comm _ _
  | cons first rest ih =>
    rw [List.cons_append, emptyGroupsSum, emptyGroupsSum, ih, Nat.add_assoc]

theorem emptyGroupsSum_set {children : List Condition} {child : Condition} {index : Nat}
    (found : children[index]? = some child) (next : Condition) :
    emptyGroupsSum (children.set index next) + child.emptyGroups =
      emptyGroupsSum children + next.emptyGroups := by
  induction children generalizing index with
  | nil => cases found
  | cons first rest ih =>
    cases index with
    | zero =>
      cases found
      rw [List.set_cons_zero, emptyGroupsSum, emptyGroupsSum]
      omega
    | succ index =>
      have later := ih found
      rw [List.set_cons_succ, emptyGroupsSum, emptyGroupsSum]
      omega

theorem emptyGroupsSum_eraseIdx_le (children : List Condition) (index : Nat) :
    emptyGroupsSum (children.eraseIdx index) ≤ emptyGroupsSum children := by
  induction children generalizing index with
  | nil => exact Nat.le_refl _
  | cons child rest ih =>
    cases index with
    | zero => exact Nat.le_add_left _ _
    | succ index => exact Nat.add_le_add_left (ih index) _

theorem emptyGroups_eq_zero_iff {condition : Condition} :
    condition.emptyGroups = 0 ↔ condition.Filled := by
  induction condition with
  | group connective children ih =>
    have own : (if children.isEmpty then 1 else 0) = 0 ↔ children ≠ [] := by
      cases children <;> simp
    rw [emptyGroups, Nat.add_eq_zero_iff, own, emptyGroupsSum_eq_zero_iff, filled_group_iff]
    exact and_congr_right fun _ => forall₂_congr ih
  | not child ih => rw [emptyGroups, ih, filled_not_iff]
  | leaf comparison => exact iff_of_true rfl (filled_leaf comparison)

end WorkflowRules.Condition
