import Mathlib.Data.List.InsertIdx
import WorkflowRules.Proofs.Condition.LocalEdits
import WorkflowRules.Proofs.Condition.Places

/-!
Normalizing and addresses. All that normalizing does is to give every empty group a leaf, under a
path that led nowhere before. So every node keeps its path, and it makes no difference whether a
condition is normalized before an edit or after it.
-/
namespace WorkflowRules.Condition

variable {condition node child : Condition} {path : Path} {index : Nat}

theorem normalize_eq_self_iff : condition.normalize = condition ↔ condition.Filled := by
  constructor
  · intro same
    rw [← same]
    exact filled_normalize condition
  · exact normalize_of_filled

/-! ### Empty groups and leaves -/

def isEmptyGroup : Condition → Bool
  | .group _ [] => true
  | _ => false

theorem isEmptyGroup_iff :
    node.isEmptyGroup = true ↔ ∃ connective, node = .group connective [] := by
  cases node with
  | group connective children => cases children <;> simp [isEmptyGroup]
  | not | leaf => simp [isEmptyGroup]

theorem emptyGroupsSum_eq_sum (children : List Condition) :
    emptyGroupsSum children = (children.map emptyGroups).sum := by
  induction children with
  | nil => rfl
  | cons child rest ih => rw [emptyGroupsSum, ih, List.map_cons, List.sum_cons]

theorem emptyGroups_step (node : Condition) : node.emptyGroups =
    (if node.isEmptyGroup then 1 else 0) + (node.members.map emptyGroups).sum := by
  cases node with
  | group connective children =>
    rw [emptyGroups, emptyGroupsSum_eq_sum]
    cases children <;> rfl
  | not child => simp [emptyGroups, isEmptyGroup, members]
  | leaf comparison => rfl

theorem encard_emptyGroups (condition : Condition) :
    {path | ∃ connective, condition.get path = .ok (.group connective [])}.encard =
      condition.emptyGroups := by
  rw [← encard_eq_count emptyGroups_step]
  simp [isEmptyGroup_iff, and_comm]

theorem leafCountSum_map_normalize {children : List Condition}
    (each : ∀ child ∈ children, child.normalize.leafCount = child.leafCount + child.emptyGroups) :
    leafCountSum (children.map normalize) = leafCountSum children + emptyGroupsSum children := by
  induction children with
  | nil => rfl
  | cons child rest ih =>
    obtain ⟨here, later⟩ := List.forall_mem_cons.1 each
    rw [List.map_cons, leafCountSum, leafCountSum, emptyGroupsSum, here, ih later]
    omega

theorem leafCount_normalize (condition : Condition) :
    condition.normalize.leafCount = condition.leafCount + condition.emptyGroups := by
  induction condition with
  | group connective children ih =>
    by_cases empty : children = []
    · subst empty
      rfl
    · have own : children.isEmpty = false := by simpa using empty
      rw [normalize_group empty, leafCount, leafCount, emptyGroups, leafCountSum_map_normalize ih,
        own]
      simp
  | not child ih => exact ih
  | leaf comparison => rfl

/-! ### One step -/

theorem child?_normalize (found : node.child? index = .ok child) :
    node.normalize.child? index = .ok child.normalize := by
  cases node with
  | group connective children =>
    have there := child?_group_eq_ok_iff.1 found
    have some : children ≠ [] := by
      rintro rfl
      cases there
    rw [normalize_group some, child?_group_eq_ok_iff, List.getElem?_map, there]
    rfl
  | not negated =>
    obtain ⟨rfl, rfl⟩ := child?_not_eq_ok_iff.1 found
    rfl
  | leaf comparison => cases found

/-- A step that only normalizing makes possible leads from an empty group to its leaf. -/
theorem child?_of_normalize (found : node.normalize.child? index = .ok child) :
    (∃ old, node.child? index = .ok old ∧ child = old.normalize) ∨
      ∃ connective, node = .group connective [] ∧ index = 0 ∧ child = freshLeaf := by
  cases node with
  | group connective children =>
    by_cases empty : children = []
    · subst empty
      have there : [freshLeaf][index]? = some child := child?_group_eq_ok_iff.1 found
      rw [List.getElem?_singleton] at there
      split at there
      · next first =>
        cases there
        exact .inr ⟨connective, rfl, first, rfl⟩
      · cases there
    · rw [normalize_group empty, child?_group_eq_ok_iff, List.getElem?_map] at found
      obtain ⟨old, there, same⟩ := Option.map_eq_some_iff.1 found
      exact .inl ⟨old, child?_group_eq_ok_iff.2 there, same.symm⟩
  | not negated =>
    obtain ⟨rfl, rfl⟩ := child?_not_eq_ok_iff.1 found
    exact .inl ⟨negated, rfl, rfl⟩
  | leaf comparison => cases found

theorem normalize_setChild (found : node.child? index = .ok child) (next : Condition) :
    (node.setChild index next).normalize = node.normalize.setChild index next.normalize := by
  cases node with
  | group connective children =>
    have there := child?_group_eq_ok_iff.1 found
    have some : children ≠ [] := by
      rintro rfl
      cases there
    have stillSome : children.set index next ≠ [] := by
      rwa [ne_eq, List.set_eq_nil_iff]
    rw [setChild, normalize_group stillSome, normalize_group some, setChild, List.map_set]
  | not negated => rfl
  | leaf comparison => cases found

-- One child that is left out of several leaves a group behind that is not empty.
theorem normalize_dropChild (found : node.child? index = .ok child) :
    (node.dropChild index).normalize = node.normalize.dropChild index := by
  cases node with
  | group connective children =>
    have there := child?_group_eq_ok_iff.1 found
    match children with
    | [] => cases there
    | [only] => rfl
    | first :: second :: rest =>
      have some : (first :: second :: rest).eraseIdx index ≠ [] := by
        simp [List.eraseIdx_eq_nil_iff]
      rw [dropChild_of_several (by simp), normalize_group some, normalize_group (by simp),
        dropChild_of_several (by simp), List.eraseIdx_map]
  | not negated => rfl
  | leaf comparison => cases found

/-! ### Whole paths -/

theorem get_normalize (found : condition.get path = .ok node) :
    condition.normalize.get path = .ok node.normalize := by
  induction path generalizing condition with
  | nil =>
    cases found
    rfl
  | cons index rest ih =>
    obtain ⟨child, here, below⟩ := get_cons_eq_ok_iff.1 found
    exact get_cons_eq_ok_iff.2 ⟨child.normalize, child?_normalize here, ih below⟩

/-- The leaf that normalizing adds under an address has an empty group above it. -/
def FilledAt (condition : Condition) (path : Path) : Prop :=
  ∃ parent connective, path = parent ++ [0] ∧ condition.get parent = .ok (.group connective [])

theorem get_normalize_of_filledAt (fills : condition.FilledAt path) :
    condition.normalize.get path = .ok freshLeaf := by
  obtain ⟨parent, connective, rfl, found⟩ := fills
  exact get_append_eq_ok_iff.2 ⟨_, get_normalize found, rfl⟩

theorem FilledAt.not_get (fills : condition.FilledAt path) :
    ¬∃ node, condition.get path = .ok node := by
  obtain ⟨parent, connective, rfl, found⟩ := fills
  rintro ⟨node, reached⟩
  obtain ⟨group, same, below⟩ := get_append_eq_ok_iff.1 reached
  cases found.symm.trans same
  cases below

theorem get_of_normalize (reached : condition.normalize.get path = .ok node) :
    (∃ old, condition.get path = .ok old ∧ node = old.normalize) ∨
      condition.FilledAt path ∧ node = freshLeaf := by
  induction path generalizing condition with
  | nil =>
    cases reached
    exact .inl ⟨condition, rfl, rfl⟩
  | cons index rest ih =>
    obtain ⟨child, here, below⟩ := get_cons_eq_ok_iff.1 reached
    rcases child?_of_normalize here with ⟨old, there, rfl⟩ | ⟨connective, rfl, rfl, rfl⟩
    · rcases ih below with ⟨deeper, found, rfl⟩ | ⟨⟨parent, connective, rfl, found⟩, same⟩
      · exact .inl ⟨deeper, get_cons_eq_ok_iff.2 ⟨old, there, found⟩, rfl⟩
      · have parentFound := get_cons_eq_ok_iff.2 ⟨old, there, found⟩
        exact .inr ⟨⟨index :: parent, connective, rfl, parentFound⟩, same⟩
    · cases rest with
      | nil =>
        cases below
        exact .inr ⟨⟨[], connective, rfl, rfl⟩, rfl⟩
      | cons => cases below

/-- The nodes after normalizing are those of before, each normalized, and the new leaves. -/
theorem get_normalize_eq_ok_iff : condition.normalize.get path = .ok node ↔
    (∃ old, condition.get path = .ok old ∧ node = old.normalize) ∨
      condition.FilledAt path ∧ node = freshLeaf := by
  constructor
  · exact get_of_normalize
  · rintro (⟨old, found, rfl⟩ | ⟨fills, rfl⟩)
    · exact get_normalize found
    · exact get_normalize_of_filledAt fills

theorem normalize_put (found : condition.get path = .ok node) (next : Condition) :
    (condition.put path next).normalize = condition.normalize.put path next.normalize := by
  induction path generalizing condition with
  | nil => rfl
  | cons index rest ih =>
    obtain ⟨child, here, below⟩ := get_cons_eq_ok_iff.1 found
    rw [put_cons here, put_cons (child?_normalize here), normalize_setChild here, ih below]

/-! ### Edits -/

theorem exists_replace_normalize (found : condition.get path = .ok node) (next : Condition) :
    ∃ result, condition.replace path next = .ok result ∧
      condition.normalize.replace path next.normalize = .ok result.normalize := by
  refine ⟨_, replace_of_get found next, ?_⟩
  rw [replace_of_get (get_normalize found), normalize_put found]

-- A removal is a replacement of the parent, and the parent is normalized with the child left out.
theorem exists_remove_normalize (inner : path ≠ []) (found : condition.get path = .ok child) :
    ∃ result, condition.remove path = .ok result ∧
      condition.normalize.remove path = .ok result.normalize := by
  rcases List.eq_nil_or_concat path with rfl | ⟨parent, index, rfl⟩
  · exact absurd rfl inner
  · rw [List.concat_eq_append] at found ⊢
    obtain ⟨node, above, last⟩ := get_append_eq_ok_iff.1 found
    obtain ⟨_, has, _⟩ := get_cons_eq_ok_iff.1 last
    rw [remove_of_child above has, remove_of_child (get_normalize above) (child?_normalize has),
      ← normalize_dropChild has]
    exact exists_replace_normalize above _

/-- What normalizing does to a condition, to its addresses and to edits at them. -/
structure NormalizesWell (condition : Condition) : Prop where
  filled : condition.normalize.Filled
  fixed : condition.normalize = condition ↔ condition.Filled
  idempotent : condition.normalize.normalize = condition.normalize
  depth : condition.normalize.depth = condition.depth
  leaves : condition.normalize.leafCount = condition.leafCount + condition.emptyGroups
  counted : {path | ∃ connective, condition.get path = .ok (.group connective [])}.encard =
    condition.emptyGroups
  addressed : ∀ path node, condition.normalize.get path = .ok node ↔
    (∃ old, condition.get path = .ok old ∧ node = old.normalize) ∨
      condition.FilledAt path ∧ node = freshLeaf
  /-- The new leaves stand where there was no node. -/
  further : ∀ path, condition.FilledAt path → ¬∃ node, condition.get path = .ok node
  replaced : ∀ path node next, condition.get path = .ok node →
    ∃ result, condition.replace path next = .ok result ∧
      condition.normalize.replace path next.normalize = .ok result.normalize
  removed : ∀ path node, path ≠ [] → condition.get path = .ok node →
    ∃ result, condition.remove path = .ok result ∧
      condition.normalize.remove path = .ok result.normalize

/-- Normalizing only fills empty groups, and it goes together with addressing. -/
theorem normalizing_goes_with_addressing (condition : Condition) : NormalizesWell condition := by
  constructor
  case filled => exact filled_normalize condition
  case fixed => exact normalize_eq_self_iff
  case idempotent => exact normalize_of_filled (filled_normalize condition)
  case depth => exact depth_normalize condition
  case leaves => exact leafCount_normalize condition
  case counted => exact encard_emptyGroups condition
  case addressed => exact fun path node => get_normalize_eq_ok_iff
  case further => exact fun path fills => fills.not_get
  case replaced => exact fun path node next found => exists_replace_normalize found next
  case removed => exact fun path node inner found => exists_remove_normalize inner found

/-- Two empty groups, one of them negated, beside a leaf. -/
def hollow : Condition :=
  .group .any [.not (.group .all []), .group .any [], .leaf ⟨"owner", .exists, .null⟩]

theorem hollow_normalized :
    hollow.normalize.leafCount = 3 ∧ hollow.normalize.get [0, 0, 0] = .ok freshLeaf ∧
    (∃ result, hollow.replace [1] (.group .all []) = .ok result ∧
      hollow.normalize.replace [1] (.group .all [freshLeaf]) = .ok result.normalize) ∧
    ∃ result, hollow.remove [0, 0] = .ok result ∧
      hollow.normalize.remove [0, 0] = .ok result.normalize := by
  have laws := normalizing_goes_with_addressing hollow
  refine ⟨laws.leaves, ?_, laws.replaced [1] _ (.group .all []) rfl,
    laws.removed [0, 0] _ (by decide) rfl⟩
  exact (laws.addressed [0, 0, 0] freshLeaf).2 (.inr ⟨⟨[0, 0], .all, rfl, rfl⟩, rfl⟩)

end WorkflowRules.Condition
