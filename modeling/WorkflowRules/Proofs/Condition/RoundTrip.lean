import WorkflowRules.Proofs.Condition.Agreement
import WorkflowRules.Proofs.Condition.Validity
import WorkflowRules.Proofs.Loading

/-!
Conditions are read back as they were written. Written they are objects with one key for a group or
a negation and with up to three for a leaf, and reading finds each where writing put it. Only on the
way through a text can a condition be too deep, for the loader or for the reader of the text, and
only there do the numbers in its operands depend on how they are read.
-/
namespace WorkflowRules.Condition

variable {location : Location} {limits : Limits} {condition : Condition}

/-! ### Values -/

theorem toJsonAll_eq_map (children : List Condition) :
    toJsonAll children = children.map toJson := by
  induction children with
  | nil => rfl
  | cons child rest ih => rw [toJsonAll, ih, List.map_cons]

theorem ofText?_name (operator : Operator) : Operator.ofText? operator.name = some operator := by
  cases operator <;> decide

theorem readItems_toJson (location : Location) (connective : Connective)
    {children : List Condition}
    (each : ∀ child ∈ children, ∀ location, readNode location child.toJson.canonical = .ok child)
    (index : Nat) : readItems location connective index
      (children.map fun child => child.toJson.canonical) = .ok children := by
  induction children generalizing index with
  | nil => rfl
  | cons child rest ih =>
    obtain ⟨here, later⟩ := List.forall_mem_cons.1 each
    rw [List.map_cons, readItems, here]
    simp only [ih later]
    rfl

/-- The fields that are written of a leaf, in the order of their keys. -/
def writtenLeaf (leaf : Leaf) : Json.Fields :=
  Json.sortFields (Json.canonicalFields (("path", .string leaf.path) ::
    ("op", .string leaf.operator.name) ::
      if leaf.value.json.isNull then [] else [("value", leaf.value.json)]))

theorem readingOf_writtenLeaf (leaf : Leaf) : readingOf (writtenLeaf leaf) = .leaf := by
  simp only [readingOf, writtenLeaf, Json.lookup_canonical]
  cases leaf.value.json.isNull <;> simp [Json.lookup_cons]

-- A null operand is left out, and what is left out is taken for null.
theorem operand_writtenLeaf (leaf : Leaf) :
    (((writtenLeaf leaf).lookup "value").getD .null).toValue = leaf.value := by
  rw [writtenLeaf, Json.lookup_canonical]
  cases null : leaf.value.json.isNull with
  | true =>
    refine Json.Value.ext ?_
    simp [Json.lookup_cons, Json.toValue, Json.canonical, (isNull_iff _).1 null]
  | false => simp [leaf.value.ordered, Json.Value.toValue_json]

theorem readLeaf_writtenLeaf (leaf : Leaf) : readLeaf location (writtenLeaf leaf) = .ok leaf := by
  have path : (writtenLeaf leaf).lookup "path" = some (.string leaf.path) := by
    rw [writtenLeaf, Json.lookup_canonical]
    cases leaf.value.json.isNull <;> simp [Json.lookup_cons, Json.canonical]
  have operator : operatorField? (writtenLeaf leaf) = some (.string leaf.operator.name) := by
    rw [operatorField?, writtenLeaf, Json.lookup_canonical]
    cases leaf.value.json.isNull <;> simp [Json.lookup_cons, Json.canonical]
  simp only [readLeaf, path, operator, requireString, bind, Except.bind, ofText?_name,
    operand_writtenLeaf]

theorem readNode_toJson (condition : Condition) (location : Location) :
    readNode location condition.toJson.canonical = .ok condition := by
  induction condition generalizing location with
  | group connective children ih =>
    have written : (group connective children).toJson.canonical = .object
        [(connective.key, .array (children.map fun child => child.toJson.canonical))] := by
      rw [toJson, toJsonAll_eq_map, ← Function.comp_def, ← List.map_map,
        ← Json.canonicalItems_eq_map]
      rfl
    have reads := readItems_toJson location connective ih 0
    have reading (value : Json) :
        readingOf [(connective.key, value)] = .group connective value := by
      cases connective <;> rfl
    simp only [written, readNode_object, reading, readChildren, reads]
    rfl
  | not child ih =>
    have written : (not child).toJson.canonical = .object [("not", child.toJson.canonical)] := rfl
    have reading (value : Json) : readingOf [("not", value)] = .not value := rfl
    simp only [written, readNode_object, reading, ih]
    rfl
  | leaf comparison =>
    have written : (leaf comparison).toJson.canonical = .object (writtenLeaf comparison) := rfl
    rw [written, readNode_object, readingOf_writtenLeaf, readLeaf_writtenLeaf]
    rfl

theorem ofJson_toJson (condition : Condition) :
    ofJson condition.toJson.toValue.json = .ok condition :=
  readNode_toJson condition []

theorem toJson_inj {other : Condition} : condition.toJson = other.toJson ↔ condition = other := by
  refine ⟨fun same => ?_, congrArg toJson⟩
  have reads := ofJson_toJson condition
  rw [same, ofJson_toJson] at reads
  exact (Except.ok.inj reads).symm

/-! ### Numbers -/

mutual
/-- The condition with what is read of each number in its operands. -/
def reread : Condition → Condition
  | .group connective children => .group connective (rereadAll children)
  | .not child => .not (reread child)
  | .leaf comparison => .leaf { comparison with value := comparison.value.reread }
termination_by structural condition => condition
def rereadAll : List Condition → List Condition
  | [] => []
  | child :: rest => reread child :: rereadAll rest
termination_by structural children => children
end

theorem rereadAll_eq_map (children : List Condition) :
    rereadAll children = children.map reread := by
  induction children with
  | nil => rfl
  | cons child rest ih => rw [rereadAll, ih, List.map_cons]

theorem toJson_rereadLeaf (leaf : Leaf) :
    Leaf.toJson { leaf with value := leaf.value.reread } = leaf.toJson.reread := by
  have null : leaf.value.reread.json.isNull = leaf.value.json.isNull :=
    Json.isNull_reread leaf.value.json
  simp only [Leaf.toJson, null]
  cases leaf.value.json.isNull <;> rfl

theorem toJson_reread (condition : Condition) :
    condition.reread.toJson = condition.toJson.reread := by
  induction condition with
  | group connective children ih =>
    have each : (children.map reread).map toJson = (children.map toJson).map Json.reread := by
      simpa using ih
    simp only [reread, toJson, Json.reread, Json.rereadFields, rereadAll_eq_map, toJsonAll_eq_map,
      Json.rereadItems_eq_map, each]
  | not child ih => simp only [reread, toJson, Json.reread, Json.rereadFields, ih]
  | leaf comparison => exact toJson_rereadLeaf comparison

theorem depth_reread (condition : Condition) : condition.reread.depth = condition.depth := by
  induction condition with
  | group connective children ih =>
    refine congrArg (1 + ·) ?_
    induction children with
    | nil => rfl
    | cons child rest later =>
      obtain ⟨here, there⟩ := List.forall_mem_cons.1 ih
      exact congrArg₂ max here (later there)
  | not child ih => exact congrArg (1 + ·) ih
  | leaf comparison => rfl

theorem reread_eq_self_iff :
    condition.reread = condition ↔ condition.toJson.NumbersReadBack := by
  rw [← toJson_inj, toJson_reread, Json.reread_eq_self_iff]

theorem normalize_reread (condition : Condition) :
    condition.reread.normalize = condition.normalize.reread := by
  induction condition with
  | group connective children ih =>
    by_cases empty : children = []
    · subst empty
      rfl
    · have filled : children.map reread ≠ [] := by simpa using empty
      rw [reread, rereadAll_eq_map, normalize_group filled, normalize_group empty, reread,
        rereadAll_eq_map, List.map_map, List.map_map]
      exact congrArg (group connective) (List.map_congr_left ih)
  | not child ih => simp only [reread, normalize, ih]
  | leaf comparison => rfl

-- The leaf that fills an empty group has no number.
theorem numbersReadBack_normalize_iff :
    condition.normalize.toJson.NumbersReadBack ↔ condition.toJson.NumbersReadBack := by
  have same : condition.normalize.toJson.numbers = condition.toJson.numbers := by
    induction condition with
    | group connective children ih =>
      by_cases empty : children = []
      · subst empty
        rfl
      · have each : (children.map normalize).flatMap (·.toJson.numbers) =
            children.flatMap (·.toJson.numbers) := by
          simpa [List.flatMap_map] using List.flatMap_congr ih
        simpa [normalize_group empty, toJson, Json.numbers, Json.numbersOfFields,
          Json.numbersOfItems_eq_flatMap, toJsonAll_eq_map, List.flatMap_map] using each
    | not child ih => simpa [normalize, toJson, Json.numbers, Json.numbersOfFields] using ih
    | leaf comparison => rfl
  rw [Json.NumbersReadBack, same, Json.NumbersReadBack]

theorem normalize_reread_eq_iff :
    condition.reread.normalize = condition.normalize ↔ condition.toJson.NumbersReadBack := by
  rw [normalize_reread, reread_eq_self_iff, numbersReadBack_normalize_iff]

/-! ### Texts -/

theorem depthMax_le_nesting {children : List Condition}
    (each : ∀ child ∈ children, child.depth < child.toJson.nesting) :
    depthMax children ≤ Json.nestingItems (toJsonAll children) := by
  induction children with
  | nil => exact Nat.le_refl 0
  | cons child rest ih =>
    obtain ⟨here, later⟩ := List.forall_mem_cons.1 each
    have others := ih later
    rw [depthMax, toJsonAll, Json.nestingItems]
    omega

-- A group takes two levels of brackets, a negation one, and a leaf at least its own.
theorem depth_lt_nesting (condition : Condition) : condition.depth < condition.toJson.nesting := by
  induction condition with
  | group connective children ih =>
    have below := depthMax_le_nesting ih
    rw [depth, toJson, Json.nesting, Json.nestingFields, Json.nestingFields, Json.nesting]
    omega
  | not child ih =>
    rw [depth, toJson, Json.nesting, Json.nestingFields, Json.nestingFields]
    omega
  | leaf comparison => exact Nat.succ_pos _

theorem load_toJson_of_long (limits : Limits)
    (long : Json.Reader.levelLimit < condition.toJson.nesting) :
    ∃ place, load limits condition.toJson.pretty = .error (.notJson ⟨.tooDeep, place⟩) := by
  obtain ⟨place, stops⟩ := loadJson_pretty_of_deep long
  exact ⟨place, by rw [load, stops]; rfl⟩

/-- Beyond some depth no limits let a condition through. -/
theorem load_toJson_of_many_levels (limits : Limits)
    (many : Json.Reader.levelLimit ≤ condition.depth) :
    ∃ place, load limits condition.toJson.pretty = .error (.notJson ⟨.tooDeep, place⟩) :=
  load_toJson_of_long limits (Nat.lt_of_le_of_lt many (depth_lt_nesting condition))

theorem loadJson_toJson (short : condition.toJson.nesting ≤ Json.Reader.levelLimit) :
    loadJson condition.toJson.pretty = .ok condition.reread.toJson.toValue := by
  rw [loadJson_pretty short, toJson_reread]

theorem load_toJson_of_deep
    (short : condition.toJson.nesting ≤ Json.Reader.levelLimit)
    (deep : limits.acceptedDepth < condition.depth) :
    ∃ location, load limits condition.toJson.pretty =
      .error (.shape (shapeError location (.tooDeep limits.acceptedDepth))) := by
  have alsoDeep : limits.acceptedDepth < condition.reread.depth := by
    rwa [depth_reread]
  obtain ⟨location, refused⟩ := checkShape_of_deep (ofJson_toJson condition.reread) alsoDeep
  refine ⟨location, ?_⟩
  rw [load, loadJson_toJson short]
  simp only [bind, Except.bind, loadFrom, refused]
  rfl

theorem load_toJson_of_fits (shallow : condition.depth ≤ limits.acceptedDepth)
    (short : condition.toJson.nesting ≤ Json.Reader.levelLimit) :
    load limits condition.toJson.pretty = .ok condition.reread.normalize := by
  refine load_eq_ok_iff.2 ⟨_, condition.reread, loadJson_toJson short, ofJson_toJson _, ?_, rfl⟩
  rwa [depth_reread]

theorem load_toJson_eq_ok_iff {loaded : Condition} :
    load limits condition.toJson.pretty = .ok loaded ↔
      (condition.depth ≤ limits.acceptedDepth ∧
        condition.toJson.nesting ≤ Json.Reader.levelLimit) ∧
      condition.reread.normalize = loaded := by
  constructor
  · intro loads
    rcases Nat.lt_or_ge Json.Reader.levelLimit condition.toJson.nesting with long | short
    · obtain ⟨_, failed⟩ := load_toJson_of_long limits long
      cases loads.symm.trans failed
    · rcases Nat.lt_or_ge limits.acceptedDepth condition.depth with deep | shallow
      · obtain ⟨_, failed⟩ := load_toJson_of_deep short deep
        cases loads.symm.trans failed
      · refine ⟨⟨shallow, short⟩, ?_⟩
        exact Except.ok.inj ((load_toJson_of_fits shallow short).symm.trans loads)
  · rintro ⟨⟨shallow, short⟩, rfl⟩
    exact load_toJson_of_fits shallow short

/-- What becomes of a condition that is written and read again. -/
structure RoundTrip (limits : Limits) (condition : Condition) : Prop where
  value : ofJson condition.toJson.toValue.json = .ok condition
  success : (∃ loaded, load limits condition.toJson.pretty = .ok loaded) ↔
    condition.depth ≤ limits.acceptedDepth ∧ condition.toJson.nesting ≤ 127
  /-- If the numbers in the operands are read back, then so is the condition. -/
  text : condition.toJson.NumbersReadBack →
    (load limits condition.toJson.pretty = .ok condition.normalize ↔
      condition.depth ≤ limits.acceptedDepth ∧ condition.toJson.nesting ≤ 127)
  /-- A text that is too long for the reader of JSON is refused as such, -/
  long : 127 < condition.toJson.nesting →
    ∃ place, load limits condition.toJson.pretty = .error (.notJson ⟨.tooDeep, place⟩)
  /-- and one that is not, at the place where the condition becomes too deep. -/
  deep : condition.toJson.nesting ≤ 127 → limits.acceptedDepth < condition.depth →
    ∃ location, load limits condition.toJson.pretty =
      .error (.shape (shapeError location (.tooDeep limits.acceptedDepth)))

/-- Every condition is read back from the value that is written of it. From the text it is read
unless the one or the other is too deep, and as the same condition if its numbers are read back. -/
theorem written_is_read (limits : Limits) (condition : Condition) : RoundTrip limits condition := by
  constructor
  case value => exact ofJson_toJson condition
  case success => exact exists_eq_ok_iff fun _ => load_toJson_eq_ok_iff
  case text =>
    intro readBack
    rw [load_toJson_eq_ok_iff]
    exact and_iff_left (normalize_reread_eq_iff.2 readBack)
  case long => exact load_toJson_of_long limits
  case deep => exact load_toJson_of_deep

/-- A group without members beside a comparison without an operand, one level down. -/
def sparse : Condition :=
  .group .any [.group .all [], .not (.leaf ⟨"p", .eq, .null⟩)]

/-- More levels than the standard limits accept. -/
def deepNegation : Condition :=
  .not (.not (.not (.not (.not sparse))))

theorem sparse_written_is_read :
    load .standard sparse.toJson.pretty = .ok sparse.normalize ∧
      ∃ location, load .standard deepNegation.toJson.pretty =
        .error (.shape (shapeError location (.tooDeep 4))) :=
  ⟨((written_is_read .standard sparse).text (by decide)).2 (by decide),
    (written_is_read .standard deepNegation).deep (by decide) (by decide)⟩

end WorkflowRules.Condition
