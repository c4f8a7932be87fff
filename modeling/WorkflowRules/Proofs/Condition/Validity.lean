import WorkflowRules.Condition.Issues
import WorkflowRules.Proofs.Condition.Nodes

/-!
A condition without issues: no group is empty and every leaf is complete. The issues are
looked for on the way down with the path in hand, but whether there are any does not depend
on the path.
-/
namespace WorkflowRules

/-- What a leaf needs: a path, an operand unless it only asks for existence, and for
membership an operand that lists strings. -/
structure Leaf.Complete (leaf : Leaf) : Prop where
  path : Text.trim leaf.path ≠ ""
  value : leaf.operator ≠ .exists → leaf.value.json ≠ .null
  texts : leaf.operator = .isIn →
    ∃ texts : List String, leaf.value.json = .array (texts.map .string)

theorem isNull_iff (json : Json) : json.isNull = true ↔ json = .null := by
  cases json <;> simp [Json.isNull]

theorem all_isString_iff (items : List Json) :
    items.all Json.isString = true ↔ ∃ texts : List String, items = texts.map .string := by
  induction items with
  | nil => exact ⟨fun _ => ⟨[], rfl⟩, fun _ => rfl⟩
  | cons item rest ih =>
    rw [List.all_cons, Bool.and_eq_true, ih]
    constructor
    · rintro ⟨text, texts, rfl⟩
      cases item with
      | string value => exact ⟨value :: texts, rfl⟩
      | null | bool | number | array | object => cases text
    · rintro ⟨texts, same⟩
      cases texts with
      | nil => cases same
      | cons text texts =>
        obtain ⟨rfl, rfl⟩ := List.cons.inj same
        exact ⟨rfl, texts, rfl⟩

theorem listsStrings_iff (json : Json) :
    json.listsStrings = true ↔ ∃ texts : List String, json = .array (texts.map .string) := by
  cases json with
  | array items => simpa [Json.listsStrings] using all_isString_iff items
  | null | bool | number | string | object => simp [Json.listsStrings]

theorem Leaf.lacksPath_iff (leaf : Leaf) :
    Text.onlyBlank leaf.path = true ↔ Text.trim leaf.path = "" :=
  (Text.trim_eq_empty_iff leaf.path).symm

theorem Leaf.lacksValue_iff (leaf : Leaf) :
    (leaf.operator.needsValue && leaf.value.json.isNull) = true ↔
      leaf.operator ≠ .exists ∧ leaf.value.json = .null := by
  simp [Operator.needsValue, isNull_iff]

theorem Leaf.lacksTexts_iff (leaf : Leaf) :
    (leaf.operator = .isIn && !leaf.value.json.listsStrings) = true ↔
      leaf.operator = .isIn ∧
        ¬∃ texts : List String, leaf.value.json = .array (texts.map .string) := by
  simp [← listsStrings_iff]

-- Each of the three problems is the lack of one thing that the leaf needs.
theorem Leaf.problem?_eq_none_iff (leaf : Leaf) : leaf.problem? = none ↔ leaf.Complete := by
  constructor
  · intro none
    unfold problem? at none
    split at none
    · cases none
    · next hasPath =>
      split at none
      · cases none
      · next hasValue =>
        split at none
        · cases none
        · next hasTexts =>
          refine ⟨mt leaf.lacksPath_iff.2 hasPath, fun needed missing => ?_, fun membership => ?_⟩
          · exact hasValue (leaf.lacksValue_iff.2 ⟨needed, missing⟩)
          · exact Classical.byContradiction fun other =>
              hasTexts (leaf.lacksTexts_iff.2 ⟨membership, other⟩)
  · intro complete
    have hasValue : ¬(leaf.operator.needsValue && leaf.value.json.isNull) = true := by
      intro lacks
      obtain ⟨needed, missing⟩ := leaf.lacksValue_iff.1 lacks
      exact complete.value needed missing
    have hasTexts : ¬(leaf.operator = .isIn && !leaf.value.json.listsStrings) = true := by
      intro lacks
      obtain ⟨membership, other⟩ := leaf.lacksTexts_iff.1 lacks
      exact other (complete.texts membership)
    rw [problem?, if_neg (mt leaf.lacksPath_iff.1 complete.path), if_neg hasValue, if_neg hasTexts]

namespace Condition

/-- The conditions that are ready for use. -/
structure Valid (condition : Condition) : Prop where
  filled : condition.Filled
  complete : ∀ leaf, condition.Contains (.leaf leaf) → leaf.Complete

theorem valid_leaf_iff {leaf : Leaf} : Valid (.leaf leaf) ↔ leaf.Complete := by
  constructor
  · intro valid
    exact valid.complete leaf (.self _)
  · intro complete
    refine ⟨filled_leaf leaf, fun other inside => ?_⟩
    cases inside
    exact complete

theorem valid_not_iff {child : Condition} : Valid (.not child) ↔ child.Valid := by
  constructor
  · intro valid
    exact ⟨filled_not_iff.1 valid.filled, fun leaf inside => valid.complete leaf (.negated inside)⟩
  · intro valid
    refine ⟨filled_not_iff.2 valid.filled, fun leaf inside => ?_⟩
    cases inside with
    | negated inside => exact valid.complete leaf inside

theorem valid_group_iff {connective : Connective} {children : List Condition} :
    Valid (.group connective children) ↔ children ≠ [] ∧ ∀ child ∈ children, child.Valid := by
  constructor
  · intro valid
    obtain ⟨nonempty, filled⟩ := filled_group_iff.1 valid.filled
    refine ⟨nonempty, fun child mem => ⟨filled child mem, fun leaf inside => ?_⟩⟩
    exact valid.complete leaf (.member mem inside)
  · rintro ⟨nonempty, valid⟩
    refine ⟨filled_group_iff.2 ⟨nonempty, fun child mem => (valid child mem).filled⟩, ?_⟩
    intro leaf inside
    cases inside with
    | member mem inside => exact (valid _ mem).complete leaf inside

-- The index only lengthens the path, and no property of a child depends on its path.
theorem issuesAmong_eq_nil_iff {children : List Condition}
    (each : ∀ child ∈ children, ∀ path, issuesAt path child = [] ↔ child.Valid)
    (path : Path) (index : Nat) :
    issuesAmong path index children = [] ↔ ∀ child ∈ children, child.Valid := by
  induction children generalizing index with
  | nil => simp [issuesAmong]
  | cons child rest ih =>
    obtain ⟨here, later⟩ := List.forall_mem_cons.1 each
    rw [issuesAmong, List.append_eq_nil_iff, here, ih later, List.forall_mem_cons]

-- Issues are found exactly where something is amiss. The induction is on the condition, for
-- every path at once, since each child is looked at under a longer one.
theorem issuesAt_eq_nil_iff (condition : Condition) (path : Path) :
    issuesAt path condition = [] ↔ condition.Valid := by
  induction condition generalizing path with
  | group connective children ih =>
    rw [issuesAt, List.append_eq_nil_iff, issuesAmong_eq_nil_iff ih, valid_group_iff]
    cases children <;> simp
  | not child ih => rw [issuesAt, ih, valid_not_iff]
  | leaf comparison =>
    rw [issuesAt, valid_leaf_iff, ← Leaf.problem?_eq_none_iff]
    cases comparison.problem? <;> simp

end Condition

end WorkflowRules
