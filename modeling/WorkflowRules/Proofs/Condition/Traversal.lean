import WorkflowRules.Proofs.Condition.Places

/-!
What the traversals of a condition tell, in terms of its paths. The depth is that of the deepest
group or negation, the number of leaves is that of the paths to leaves, and the fields are told in
the order of the paths to leaves that name them, each at the first of these.
-/
namespace WorkflowRules.Condition

variable {condition node : Condition} {field : String} {path : Path}

/-! ### Depth -/

/-- The levels that have a group or a negation; the root is on the first. -/
def levels (condition : Condition) : Set Nat :=
  {level | ∃ path node, condition.get path = .ok node ∧ node.isLeaf = false ∧
    path.length + 1 = level}

theorem depth_of_inner (inner : node.isLeaf = false) : node.depth = 1 + depthMax node.members := by
  cases node with
  | group connective children => rfl
  | not child => simp [depth, members, depthMax]
  | leaf comparison => cases inner

theorem isLeaf_of_depth (positive : node.depth ≠ 0) : node.isLeaf = false := by
  cases node with
  | group | not => rfl
  | leaf comparison => exact absurd rfl positive

theorem exists_depth_eq_depthMax {children : List Condition} (positive : depthMax children ≠ 0) :
    ∃ child ∈ children, child.depth = depthMax children := by
  by_contra none
  have less : depthMax children ≤ depthMax children - 1 := by
    refine depthMax_le_iff.2 fun child mem => ?_
    have differs : child.depth ≠ depthMax children := fun same => none ⟨child, mem, same⟩
    have upper := depth_le_depthMax mem
    omega
  omega

theorem length_add_depth_le_of_get (reached : condition.get path = .ok node) :
    path.length + node.depth ≤ condition.depth := by
  obtain ⟨_, replaced⟩ := (follow_eq_ok_iff .freshLeaf).1 reached
  exact replaced.length_add_depth_le

-- The way down goes to the deepest child as long as there is a child with a level of its own.
theorem depth_mem_levels (positive : condition.depth ≠ 0) : condition.depth ∈ condition.levels := by
  induction condition using induct_members with
  | step condition ih =>
    have inner := isLeaf_of_depth positive
    have own := depth_of_inner inner
    by_cases flat : depthMax condition.members = 0
    · exact ⟨[], condition, rfl, inner, by rw [own, flat]; rfl⟩
    · obtain ⟨child, mem, deepest⟩ := exists_depth_eq_depthMax flat
      obtain ⟨index, found⟩ := List.getElem?_of_mem mem
      obtain ⟨path, node, reached, below, level⟩ := ih child mem (deepest ▸ flat)
      refine ⟨index :: path, node, get_cons_eq_ok_iff_members.2 ⟨child, found, reached⟩, below, ?_⟩
      rw [own, ← deepest, ← level, List.length_cons]
      omega

theorem isGreatest_levels (some : condition.levels.Nonempty) :
    IsGreatest condition.levels condition.depth := by
  have upper : condition.depth ∈ upperBounds condition.levels := by
    rintro level ⟨path, node, reached, inner, rfl⟩
    have below := length_add_depth_le_of_get reached
    have own := depth_of_inner inner
    omega
  obtain ⟨level, member⟩ := some
  refine ⟨depth_mem_levels ?_, upper⟩
  have least := upper member
  obtain ⟨_, _, _, _, rfl⟩ := member
  omega

theorem depth_of_no_levels (none : condition.levels = ∅) : condition.depth = 0 := by
  by_contra positive
  have member := depth_mem_levels positive
  rw [none] at member
  exact member

/-! ### Leaves -/

theorem leafCountSum_eq_sum (children : List Condition) :
    leafCountSum children = (children.map leafCount).sum := by
  induction children with
  | nil => rfl
  | cons child rest ih => rw [leafCountSum, ih, List.map_cons, List.sum_cons]

theorem leafCount_step (node : Condition) : node.leafCount =
    (if node.isLeaf then 1 else 0) + (node.members.map leafCount).sum := by
  cases node with
  | group connective children => simp [leafCount, isLeaf, members, leafCountSum_eq_sum]
  | not child => simp [leafCount, isLeaf, members]
  | leaf comparison => rfl

theorem isLeaf_iff : node.isLeaf = true ↔ ∃ comparison, node = .leaf comparison := by
  cases node <;> simp [isLeaf]

theorem encard_leaves (condition : Condition) :
    {path | ∃ comparison, condition.get path = .ok (.leaf comparison)}.encard =
      condition.leafCount := by
  rw [← encard_eq_count leafCount_step]
  simp [isLeaf_iff, and_comm]

/-! ### The order of first mentions -/

/-- The first of the paths with a property. A path comes before those that go on from it, and else
the first index that differs counts. -/
def Earliest (holds : Path → Prop) (path : Path) : Prop :=
  holds path ∧ ∀ other, holds other → other = path ∨ path < other

theorem Earliest.not_lt {holds : Path → Prop} {other : Path} (earliest : Earliest holds path)
    (held : holds other) : ¬other < path := by
  intro less
  rcases earliest.2 other held with rfl | above
  · exact List.lt_irrefl _ less
  · exact List.lt_asymm less above

/-- Fields after the paths that mention them, in the order of the paths. -/
def Ordered (items : List (Path × String)) : Prop :=
  items.Pairwise fun before after => before.1 < after.1

/-- The first path after which the field is listed. -/
abbrev Opens (items : List (Path × String)) (field : String) (path : Path) : Prop :=
  Earliest (fun path => (path, field) ∈ items) path

/-- The items of all other fields. -/
abbrev others (field : String) (items : List (Path × String)) : List (Path × String) :=
  items.filter (·.2 != field)

variable {items : List (Path × String)} {first : Path × String}

/-- Repetitions are left out one field after another. -/
theorem induct_others {motive : List (Path × String) → Prop} (nil : motive [])
    (cons : ∀ first rest, motive (others first.2 rest) → motive (first :: rest))
    (items : List (Path × String)) : motive items := by
  cases items with
  | nil => exact nil
  | cons first rest => exact cons first rest (induct_others nil cons (others first.2 rest))
termination_by items.length
decreasing_by exact Nat.lt_succ_of_le (List.length_filter_le _ _)

theorem eraseDups_map_cons (first : Path × String) (rest : List (Path × String)) :
    ((first :: rest).map Prod.snd).eraseDups =
      first.2 :: ((others first.2 rest).map Prod.snd).eraseDups := by
  rw [List.map_cons, List.eraseDups_cons, List.filter_map]
  rfl

theorem Ordered.others (ordered : Ordered (first :: items)) : Ordered (others first.2 items) :=
  (List.pairwise_cons.1 ordered).2.filter _

theorem opens_first (ordered : Ordered (first :: items)) :
    Opens (first :: items) first.2 first.1 := by
  refine ⟨List.mem_cons_self, fun other held => ?_⟩
  rcases List.mem_cons.1 held with here | there
  · exact .inl (congrArg Prod.fst here)
  · exact .inr ((List.pairwise_cons.1 ordered).1 _ there)

theorem mem_others_iff (differs : field ≠ first.2) :
    (path, field) ∈ others first.2 items ↔ (path, field) ∈ first :: items := by
  have other : (path, field) ≠ first := fun here => differs (congrArg Prod.snd here)
  simp [List.mem_filter, differs, other]

theorem opens_others_iff (differs : field ≠ first.2) :
    Opens (others first.2 items) field path ↔ Opens (first :: items) field path := by
  simp only [Opens, mem_others_iff differs]

theorem exists_opens (ordered : Ordered items) (mem : (path, field) ∈ items) :
    ∃ path, Opens items field path := by
  induction items using induct_others with
  | nil => cases mem
  | cons first rest ih =>
    by_cases same : field = first.2
    · exact ⟨first.1, same ▸ opens_first ordered⟩
    · obtain ⟨path, opens⟩ := ih ordered.others ((mem_others_iff same).2 mem)
      exact ⟨path, (opens_others_iff same).1 opens⟩

/-- Of two fields that one stands first whose first path comes first. -/
theorem pairwise_eraseDups (ordered : Ordered items) :
    (items.map Prod.snd).eraseDups.Pairwise fun field later =>
      ∃ path further, Opens items field path ∧ Opens items later further ∧ path < further := by
  induction items using induct_others with
  | nil => exact .nil
  | cons first rest ih =>
    have listed : ∀ field ∈ ((others first.2 rest).map Prod.snd).eraseDups,
        field ≠ first.2 ∧ ∃ path, (path, field) ∈ others first.2 rest := by
      intro field mem
      obtain ⟨⟨path, _⟩, kept, rfl⟩ := List.mem_map.1 (List.mem_eraseDups.1 mem)
      exact ⟨by simpa using (List.mem_filter.1 kept).2, path, kept⟩
    rw [eraseDups_map_cons, List.pairwise_cons]
    constructor
    · intro later mem
      obtain ⟨differs, _, kept⟩ := listed later mem
      obtain ⟨further, opens⟩ := exists_opens ordered.others kept
      have above := (List.pairwise_cons.1 ordered).1 _ (List.mem_filter.1 opens.1).1
      exact ⟨first.1, further, opens_first ordered, (opens_others_iff differs).1 opens, above⟩
    · refine (ih ordered.others).imp_of_mem ?_
      rintro field later mem laterMem ⟨path, further, opens, laterOpens, less⟩
      exact ⟨path, further, (opens_others_iff (listed field mem).1).1 opens,
        (opens_others_iff (listed later laterMem).1).1 laterOpens, less⟩

/-! ### Fields -/

/-- At this path stands a leaf that compares the field. -/
def Mentions (condition : Condition) (field : String) (path : Path) : Prop :=
  ∃ comparison, condition.get path = .ok (.leaf comparison) ∧ comparison.path = field

def field? : Condition → Option String
  | .leaf comparison => some comparison.path
  | _ => none

/-- The fields of all leaves after the paths to these. -/
def mentions (condition : Condition) : List (Path × String) :=
  condition.places.filterMap fun place => place.2.field?.map (place.1, ·)

theorem mem_mentions_iff : (path, field) ∈ condition.mentions ↔ condition.Mentions field path := by
  rw [mentions, List.mem_filterMap]
  constructor
  · rintro ⟨⟨place, node⟩, mem, told⟩
    obtain ⟨_, own, same⟩ := Option.map_eq_some_iff.1 told
    cases same
    cases node with
    | leaf comparison =>
      cases own
      exact ⟨comparison, mem_places_iff.1 mem, rfl⟩
    | group | not => cases own
  · rintro ⟨comparison, reached, rfl⟩
    exact ⟨(path, .leaf comparison), mem_places_iff.2 reached, rfl⟩

theorem ordered_mentions (condition : Condition) : Ordered condition.mentions := by
  refine (pairwise_places condition).filterMap _ ?_
  intro before after less told own other otherOwn
  obtain ⟨_, _, rfl⟩ := Option.map_eq_some_iff.1 own
  obtain ⟨_, _, rfl⟩ := Option.map_eq_some_iff.1 otherOwn
  exact less

theorem leafPathsAll_eq_flatMap (children : List Condition) :
    leafPathsAll children = children.flatMap leafPaths := by
  induction children with
  | nil => rfl
  | cons child rest ih => rw [leafPathsAll, ih, List.flatMap_cons]

theorem leafPaths_step (node : Condition) : node.leafPaths =
    node.field?.toList ++ node.members.zipIdx.flatMap fun (child, _) => child.leafPaths := by
  cases node with
  | group connective children =>
    rw [leafPaths, leafPathsAll_eq_flatMap, ← List.zipIdx_map_fst 0 children, List.flatMap_map]
    simp [field?, members]
  | not child => simp [leafPaths, field?, members]
  | leaf comparison => rfl

theorem leafPaths_eq_map_mentions (condition : Condition) :
    condition.leafPaths = condition.mentions.map Prod.snd := by
  have walked := walk_eq_flatMap_places (fun _ => leafPaths_step) [] condition
  rw [walked, mentions, List.map_filterMap, List.filterMap_eq_flatMap_toList]
  simp [Function.comp_def]

theorem mem_fields_iff : field ∈ condition.fields ↔ ∃ path, condition.Mentions field path := by
  rw [fields, List.mem_eraseDups, leafPaths_eq_map_mentions]
  simp [mem_mentions_iff]

theorem pairwise_fields (condition : Condition) : condition.fields.Pairwise fun field later =>
    ∃ path further, Earliest (condition.Mentions field) path ∧
      Earliest (condition.Mentions later) further ∧ path < further := by
  rw [fields, leafPaths_eq_map_mentions]
  simpa only [Opens, mem_mentions_iff] using pairwise_eraseDups (ordered_mentions condition)

theorem nodup_fields (condition : Condition) : condition.fields.Nodup := by
  refine (pairwise_fields condition).imp ?_
  rintro field _ ⟨path, further, opens, laterOpens, less⟩ rfl
  exact laterOpens.not_lt opens.1 less

/-- What the traversals tell, in terms of look-ups. -/
structure Traversed (condition : Condition) : Prop where
  deepest : condition.levels.Nonempty → IsGreatest condition.levels condition.depth
  flat : condition.levels = ∅ → condition.depth = 0
  leaves : {path | ∃ comparison, condition.get path = .ok (.leaf comparison)}.encard =
    condition.leafCount
  mentioned : ∀ field, field ∈ condition.fields ↔ ∃ path, condition.Mentions field path
  once : condition.fields.Nodup
  ordered : condition.fields.Pairwise fun field later => ∃ path further,
    Earliest (condition.Mentions field) path ∧ Earliest (condition.Mentions later) further ∧
      path < further

/-- The traversals agree with the look-up of paths. -/
theorem traversals_follow_paths (condition : Condition) : Traversed condition where
  deepest := isGreatest_levels
  flat := depth_of_no_levels
  leaves := encard_leaves condition
  mentioned := fun _ => mem_fields_iff
  once := nodup_fields condition
  ordered := pairwise_fields condition

theorem paired_traversed : IsGreatest paired.levels 3 ∧
    {path | ∃ comparison, paired.get path = .ok (.leaf comparison)}.encard = (2 : Nat) ∧
    paired.fields = ["owner", "status"] ∧ ∃ path, paired.Mentions "status" path := by
  have told := traversals_follow_paths paired
  have fields : paired.fields = ["owner", "status"] := by decide
  refine ⟨told.deepest ⟨1, [], paired, rfl, rfl, rfl⟩, told.leaves, fields, ?_⟩
  exact (told.mentioned "status").1 (by simp [fields])

end WorkflowRules.Condition
