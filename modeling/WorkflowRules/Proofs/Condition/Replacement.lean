import WorkflowRules.Condition.Address
import WorkflowRules.Proofs.Condition.Nodes
import WorkflowRules.Proofs.Steps

/-!
Edits at a path. Each of them puts one node in the place of another and leaves all others as they
are, so that counts over the condition change by as much as those over the two nodes differ, and
its depth only if the new node reaches deeper.
-/
namespace WorkflowRules.Condition

/-- At `path` of the first condition stands `old`; the second has `new` there and is otherwise the
same. -/
inductive Replaced (old new : Condition) : Path → Condition → Condition → Prop where
  | here : Replaced old new [] old new
  | member {connective : Connective} {children : List Condition} {index : Nat} {rest : Path}
    {child next : Condition} (found : children[index]? = some child)
    (below : Replaced old new rest child next) :
    Replaced old new (index :: rest) (.group connective children)
      (.group connective (children.set index next))
  | negated {rest : Path} {child next : Condition} (below : Replaced old new rest child next) :
    Replaced old new (0 :: rest) (.not child) (.not next)

variable {old new node before after condition result : Condition} {path whole : Path}
  {index step : Nat}

theorem child?_group_eq_ok_iff {connective : Connective} {children : List Condition} :
    child? (.group connective children) index = .ok node ↔ children[index]? = some node := by
  rw [child?]
  cases children[index]? <;> simp

theorem child?_not_eq_ok_iff {child : Condition} :
    child? (.not child) index = .ok node ↔ index = 0 ∧ child = node := by
  cases index <;> simp [child?]

theorem replaced_cons_iff {rest : Path} :
    Replaced old new (index :: rest) before after ↔
      ∃ child next, before.child? index = .ok child ∧ Replaced old new rest child next ∧
        after = before.setChild index next := by
  constructor
  · intro replaced
    cases replaced with
    | member found below => exact ⟨_, _, child?_group_eq_ok_iff.2 found, below, rfl⟩
    | negated below => exact ⟨_, _, rfl, below, rfl⟩
  · rintro ⟨child, next, found, below, rfl⟩
    cases before with
    | group connective children => exact .member (child?_group_eq_ok_iff.1 found) below
    | not negated =>
      obtain ⟨rfl, rfl⟩ := child?_not_eq_ok_iff.1 found
      exact .negated below
    | leaf comparison => cases found

/-- A step fails if it leads to no child, and else as what is done with the child does. -/
theorem step_eq_ok_iff {next : Condition → Except EditError Condition}
    {deadEnd : DeadEnd → EditError} :
    (match node.child? index with
      | .ok child => next child
      | .error reason => .error (deadEnd reason)) = .ok result ↔
      ∃ child, node.child? index = .ok child ∧ next child = .ok result := by
  cases node.child? index <;> simp

theorem updateFrom_eq_ok_iff {change : Condition → Except EditError Condition} :
    updateFrom whole change step path before = .ok after ↔
      ∃ old new, change old = .ok new ∧ Replaced old new path before after := by
  induction path generalizing step before after with
  | nil =>
    constructor
    · intro changed
      exact ⟨before, after, changed, .here⟩
    · rintro ⟨old, new, changed, replaced⟩
      cases replaced
      exact changed
  | cons index rest ih =>
    rw [updateFrom]
    refine step_eq_ok_iff.trans ?_
    constructor
    · rintro ⟨child, found, updated⟩
      obtain ⟨next, below, rfl⟩ := map_eq_ok.1 updated
      obtain ⟨old, new, changed, replaced⟩ := ih.1 below
      exact ⟨old, new, changed, replaced_cons_iff.2 ⟨child, next, found, replaced, rfl⟩⟩
    · rintro ⟨old, new, changed, replaced⟩
      obtain ⟨child, next, found, below, rfl⟩ := replaced_cons_iff.1 replaced
      exact ⟨child, found, map_eq_ok.2 ⟨next, ih.2 ⟨old, new, changed, below⟩, rfl⟩⟩

/-- A path leads to a node exactly if any other can be put in its place. -/
theorem follow_eq_ok_iff (new : Condition) :
    follow whole step path condition = .ok node ↔
      ∃ result, Replaced node new path condition result := by
  induction path generalizing step condition with
  | nil =>
    constructor
    · intro reached
      cases reached
      exact ⟨new, .here⟩
    · rintro ⟨result, replaced⟩
      cases replaced
      rfl
  | cons index rest ih =>
    rw [follow]
    refine step_eq_ok_iff.trans ?_
    constructor
    · rintro ⟨child, found, reached⟩
      obtain ⟨next, below⟩ := ih.1 reached
      exact ⟨_, replaced_cons_iff.2 ⟨child, next, found, below, rfl⟩⟩
    · rintro ⟨result, replaced⟩
      obtain ⟨child, next, found, below, rfl⟩ := replaced_cons_iff.1 replaced
      exact ⟨child, found, ih.2 ⟨next, below⟩⟩

/-! ### The edits -/

theorem replace_eq_ok_iff : condition.replace path new = .ok result ↔
    ∃ old, Replaced old new path condition result := by
  rw [replace, updateFrom_eq_ok_iff]
  constructor
  · rintro ⟨old, next, same, replaced⟩
    cases same
    exact ⟨old, replaced⟩
  · rintro ⟨old, replaced⟩
    exact ⟨old, new, rfl, replaced⟩

theorem dropChild_of_several {connective : Connective} {children : List Condition} {index : Nat}
    (several : children.length ≠ 1) :
    dropChild (.group connective children) index =
      .group connective (children.eraseIdx index) := by
  match children with
  | [] => rfl
  | [child] => exact absurd rfl several
  | _ :: _ :: _ => rfl

theorem remove_eq_ok_iff : condition.remove path = .ok result ↔
    ∃ parent index node child, path = parent ++ [index] ∧ node.child? index = .ok child ∧
      Replaced node (node.dropChild index) parent condition result := by
  rcases List.eq_nil_or_concat path with rfl | ⟨parent, index, rfl⟩
  · simp [remove]
  · rw [remove, List.concat_eq_append, List.getLast?_concat, List.dropLast_concat]
    refine updateFrom_eq_ok_iff.trans ?_
    constructor
    · rintro ⟨node, _, drops, replaced⟩
      obtain ⟨child, found, dropped⟩ := step_eq_ok_iff.1 drops
      cases dropped
      exact ⟨parent, index, node, child, rfl, found, replaced⟩
    · rintro ⟨_, _, node, child, same, found, replaced⟩
      obtain ⟨rfl, last⟩ := List.append_inj' same rfl
      cases last
      exact ⟨node, _, step_eq_ok_iff.2 ⟨child, found, rfl⟩, replaced⟩

theorem add_eq_ok_iff {kind : NodeKind} : condition.add path kind = .ok result ↔
    ∃ node next, node.addNode? kind.fresh = some next ∧
      Replaced node next path condition result := by
  rw [add, updateFrom_eq_ok_iff]
  refine exists₂_congr fun node next => and_congr_left fun _ => ?_
  cases node.addNode? kind.fresh <;> simp

/-! ### Counts and depth -/

theorem Replaced.emptyGroups_add (replaced : Replaced old new path before after) :
    after.emptyGroups + old.emptyGroups = before.emptyGroups + new.emptyGroups := by
  induction replaced with
  | here => exact Nat.add_comm _ _
  | @member _ children index _ _ next found below ih =>
    have sums := emptyGroupsSum_set found next
    have own : (children.set index next).isEmpty = children.isEmpty := by
      rw [Bool.eq_iff_iff, List.isEmpty_iff, List.isEmpty_iff, List.set_eq_nil_iff]
    rw [emptyGroups, emptyGroups, own]
    omega
  | negated below ih => exact ih

theorem Replaced.symm (replaced : Replaced old new path before after) :
    Replaced new old path after before := by
  induction replaced with
  | here => exact .here
  | @member connective children index rest child next found below ih =>
    obtain ⟨inside, here⟩ := List.getElem?_eq_some_iff.1 found
    have there : (children.set index next)[index]? = some next := by simp [inside]
    have back : (children.set index next).set index child = children := by
      rw [List.set_set, ← here, List.set_getElem_self]
    have swapped : Replaced new old (index :: rest) (.group connective (children.set index next))
        (.group connective ((children.set index next).set index child)) := .member there ih
    rwa [back] at swapped
  | negated below ih => exact .negated ih

theorem depth_le_depthMax {children : List Condition} {child : Condition} (mem : child ∈ children) :
    child.depth ≤ depthMax children :=
  depthMax_le_iff.1 (Nat.le_refl _) child mem

theorem Replaced.length_add_depth_le (replaced : Replaced old new path before after) :
    path.length + old.depth ≤ before.depth := by
  induction replaced with
  | here => simp
  | member found below ih =>
    have highest := depth_le_depthMax (List.mem_of_getElem? found)
    rw [List.length_cons, depth]
    omega
  | negated below ih =>
    rw [List.length_cons, depth]
    omega

theorem Replaced.depth_le (replaced : Replaced old new path before after) :
    after.depth ≤ max before.depth (path.length + new.depth) := by
  induction replaced with
  | here => omega
  | @member _ children index rest child next found below ih =>
    have here := depth_le_depthMax (List.mem_of_getElem? found)
    have others : depthMax (children.set index next) ≤ max (depthMax children) next.depth := by
      apply depthMax_le_iff.2
      intro node mem
      rcases List.mem_or_eq_of_mem_set mem with stays | rfl
      · exact Nat.le_trans (depth_le_depthMax stays) (Nat.le_max_left _ _)
      · exact Nat.le_max_right _ _
    rw [List.length_cons, depth, depth]
    omega
  | negated below ih =>
    rw [List.length_cons, depth, depth]
    omega

/-- What is not deeper than the node it replaces does not make the condition deeper. -/
theorem Replaced.depth_le_of_le (replaced : Replaced old new path before after)
    (le : new.depth ≤ old.depth) : after.depth ≤ before.depth := by
  have upper := replaced.depth_le
  have lower := replaced.length_add_depth_le
  omega

end WorkflowRules.Condition
