import WorkflowRules.Proofs.Condition.Replacement
import WorkflowRules.Proofs.Condition.RoundTrip
import WorkflowRules.Proofs.Json.Nesting

/-!
How deep the text of a condition nests that was read from a value. Reading leaves fields out and
adds none, so that it nests no deeper than the value; but normalizing gives an empty group a leaf,
which takes one level more than the empty list that it stands in.
-/
namespace WorkflowRules.Condition

variable {location : Location} {condition child : Condition} {connective : Connective}
  {children : List Condition} {level levels : Nat}

/-! ### Levels of brackets -/

theorem nesting_toJson_leaf (leaf : Leaf) : leaf.toJson.nesting = leaf.value.json.nesting + 1 := by
  cases null : leaf.value.json.isNull with
  | true =>
    have value := (isNull_iff leaf.value.json).1 null
    simp [Leaf.toJson, Json.isNull, Json.nesting, Json.nestingFields, value]
  | false => simp [Leaf.toJson, null, Json.nesting, Json.nestingFields]

theorem nesting_toJson_not (child : Condition) :
    (toJson (.not child)).nesting = child.toJson.nesting + 1 := by
  simp [toJson, Json.nesting, Json.nestingFields]

-- One level for the object and one for the array in it.
theorem nesting_toJson_group (connective : Connective) (children : List Condition) :
    (toJson (.group connective children)).nesting =
      Json.nestingItems (toJsonAll children) + 2 := by
  simp [toJson, Json.nesting, Json.nestingFields]

/-! ### What is read -/

theorem nesting_of_readLeaf {fields : Json.Fields} {leaf : Leaf}
    (read : readLeaf location fields = .ok leaf) :
    leaf.toJson.nesting ≤ (Json.object fields).nesting := by
  have operand : leaf.value = ((fields.lookup "value").getD .null).toValue := by
    obtain ⟨_, _, rest⟩ := bind_eq_ok.1 read
    obtain ⟨_, _, made⟩ := bind_eq_ok.1 rest
    split at made
    · cases made
      rfl
    · cases made
  rw [nesting_toJson_leaf, operand]
  refine Nat.succ_le_of_lt (Nat.lt_of_le_of_lt (Json.nesting_canonical_le _) ?_)
  cases found : fields.lookup "value" with
  | none => exact Nat.succ_pos _
  | some value => exact Json.nesting_lt_of_mem (Json.mem_of_lookup found)

/-- Neither a condition nor the members of a group nest deeper than what they were read from. -/
structure Nests (json : Json) : Prop where
  node : ∀ location condition, readNode location json = .ok condition →
    condition.toJson.nesting ≤ json.nesting
  group : ∀ location connective children, readChildren location connective json = .ok children →
    Json.nestingItems (toJsonAll children) + 1 ≤ json.nesting

theorem nestingItems_of_readItems {items : List Json} (each : ∀ item ∈ items, Nests item)
    {connective : Connective} {index : Nat} {children : List Condition}
    (read : readItems location connective index items = .ok children) :
    Json.nestingItems (toJsonAll children) ≤ Json.nestingItems items := by
  induction items generalizing index children with
  | nil =>
    cases read
    exact Nat.le_refl _
  | cons item rest ih =>
    obtain ⟨here, later⟩ := List.forall_mem_cons.1 each
    rw [readItems] at read
    cases first : readNode (location ++ [.member connective index]) item with
    | error cause => simp [first] at read
    | ok child =>
      simp only [first] at read
      obtain ⟨others, readRest, rfl⟩ := map_eq_ok.1 read
      have node := here.node _ _ first
      have nodes := ih later readRest
      rw [toJsonAll, Json.nestingItems, Json.nestingItems]
      omega

theorem nests (json : Json) : Nests json := by
  induction json with
  | array items ih =>
    constructor
    · intro location condition read
      cases read
    · intro location connective children read
      exact Nat.succ_le_succ (nestingItems_of_readItems ih read)
  | object fields ih =>
    constructor
    · intro location condition read
      rw [readNode_object] at read
      cases reading : readingOf fields with
      | group connective value =>
        simp only [reading] at read
        obtain ⟨children, readChildren, rfl⟩ := map_eq_ok.1 read
        have mem := mem_of_readingOf_group reading
        have members := (ih _ mem).group location connective children readChildren
        rw [nesting_toJson_group]
        exact Nat.succ_le_of_lt (Nat.lt_of_le_of_lt members (Json.nesting_lt_of_mem mem))
      | not value =>
        simp only [reading] at read
        obtain ⟨child, readChild, rfl⟩ := map_eq_ok.1 read
        have mem := mem_of_readingOf_not reading
        have below := (ih _ mem).node _ child readChild
        rw [nesting_toJson_not]
        exact Nat.succ_le_of_lt (Nat.lt_of_le_of_lt below (Json.nesting_lt_of_mem mem))
      | leaf =>
        simp only [reading] at read
        obtain ⟨leaf, readLeaf, rfl⟩ := map_eq_ok.1 read
        exact nesting_of_readLeaf readLeaf
    · intro location connective children read
      cases read
  | null | bool | number | string =>
    constructor
    · intro location condition read
      cases read
    · intro location connective children read
      cases read

theorem nesting_le_of_ofJson {json : Json} (read : ofJson json = .ok condition) :
    condition.toJson.nesting ≤ json.nesting :=
  (nests json).node [] condition read

/-! ### What is filled -/

/-- The list of an empty group opens this level of brackets. -/
inductive EmptyAt : Nat → Condition → Prop where
  | here (connective : Connective) : EmptyAt 2 (.group connective [])
  | member {level : Nat} {connective : Connective} {children : List Condition} {child : Condition}
    (mem : child ∈ children) (inside : EmptyAt level child) :
    EmptyAt (level + 2) (.group connective children)
  | negated {level : Nat} {child : Condition} (inside : EmptyAt level child) :
    EmptyAt (level + 1) (.not child)

theorem nestingItems_toJsonAll_le_iff : Json.nestingItems (toJsonAll children) ≤ levels ↔
    ∀ child ∈ children, child.toJson.nesting ≤ levels := by
  rw [toJsonAll_eq_map, Json.Reader.nestingItems_le_iff, List.forall_mem_map]

theorem nesting_group_le_iff : (toJson (.group connective children)).nesting ≤ levels ↔
    2 ≤ levels ∧ ∀ child ∈ children, child.toJson.nesting ≤ levels - 2 := by
  rw [nesting_toJson_group, ← nestingItems_toJsonAll_le_iff]
  omega

theorem nesting_not_le_iff : (toJson (.not child)).nesting ≤ levels ↔
    1 ≤ levels ∧ child.toJson.nesting ≤ levels - 1 := by
  rw [nesting_toJson_not]
  omega

theorem emptyAt_group_iff (nonempty : children ≠ []) :
    EmptyAt level (.group connective children) ↔
      ∃ inner, level = inner + 2 ∧ ∃ child ∈ children, EmptyAt inner child := by
  constructor
  · intro empty
    cases empty with
    | here => exact absurd rfl nonempty
    | member mem inside => exact ⟨_, rfl, _, mem, inside⟩
  · rintro ⟨inner, rfl, child, mem, inside⟩
    exact .member mem inside

theorem emptyAt_empty_iff : EmptyAt level (.group connective []) ↔ level = 2 := by
  constructor
  · intro empty
    cases empty with
    | here => rfl
    | member mem inside => cases mem
  · rintro rfl
    exact .here connective

theorem emptyAt_not_iff :
    EmptyAt level (.not child) ↔ ∃ inner, level = inner + 1 ∧ EmptyAt inner child := by
  constructor
  · intro empty
    cases empty with
    | negated inside => exact ⟨_, rfl, inside⟩
  · rintro ⟨inner, rfl, inside⟩
    exact .negated inside

theorem EmptyAt.le_nesting (empty : condition.EmptyAt level) :
    level ≤ condition.toJson.nesting := by
  induction empty with
  | here => exact Nat.le_refl 2
  | member mem _ ih =>
    have below := nestingItems_toJsonAll_le_iff.1 (Nat.le_refl _) _ mem
    rw [nesting_toJson_group]
    omega
  | negated _ ih =>
    rw [nesting_toJson_not]
    exact Nat.succ_le_succ ih

-- A group takes two levels of brackets and a negation one, and either is one level of nodes.
theorem EmptyAt.le_depth (empty : condition.EmptyAt level) : level ≤ 2 * condition.depth := by
  induction empty with
  | here => exact Nat.le_refl 2
  | member mem _ ih =>
    have below := depth_le_depthMax mem
    rw [depth]
    omega
  | negated _ ih =>
    rw [depth]
    omega

/-- Normalizing takes a level more than the deepest empty group. -/
theorem nesting_normalize_le_iff : condition.normalize.toJson.nesting ≤ levels ↔
    condition.toJson.nesting ≤ levels ∧ ∀ level, condition.EmptyAt level → level < levels := by
  induction condition generalizing levels with
  | group connective children ih =>
    by_cases empty : children = []
    · subst empty
      have filled : (normalize (.group connective [])).toJson.nesting = 3 := rfl
      have bare : (toJson (.group connective [])).nesting = 2 := rfl
      simp only [filled, bare, emptyAt_empty_iff, forall_eq]
      omega
    · rw [normalize_group empty, nesting_group_le_iff, nesting_group_le_iff, List.forall_mem_map]
      constructor
      · rintro ⟨two, members⟩
        refine ⟨⟨two, fun child mem => ((ih child mem).1 (members child mem)).1⟩, ?_⟩
        intro level reached
        obtain ⟨inner, rfl, child, mem, inside⟩ := (emptyAt_group_iff empty).1 reached
        exact Nat.add_lt_of_lt_sub (((ih child mem).1 (members child mem)).2 inner inside)
      · rintro ⟨⟨two, members⟩, below⟩
        refine ⟨two, fun child mem => (ih child mem).2 ⟨members child mem, ?_⟩⟩
        intro level inside
        exact Nat.lt_sub_of_add_lt (below (level + 2) (.member mem inside))
  | not child ih =>
    rw [normalize, nesting_not_le_iff, nesting_not_le_iff, ih]
    constructor
    · rintro ⟨one, inside, below⟩
      refine ⟨⟨one, inside⟩, fun level reached => ?_⟩
      obtain ⟨inner, rfl, deeper⟩ := emptyAt_not_iff.1 reached
      exact Nat.add_lt_of_lt_sub (below inner deeper)
    · rintro ⟨⟨one, inside⟩, below⟩
      refine ⟨one, inside, fun level deeper => ?_⟩
      exact Nat.lt_sub_of_add_lt (below (level + 1) (.negated deeper))
  | leaf comparison =>
    refine (and_iff_left fun level empty => ?_).symm
    cases empty

end WorkflowRules.Condition
