import WorkflowRules.Proofs.Condition.Replacement

/-!
The laws of addressing. A replacement writes exactly where a look-up reads: it fails as the look-up
of its path does, what was written is found below the path, and beside the path nothing has
changed. Above it only the nodes on the way are other ones, of the same kind and size.
-/
namespace WorkflowRules.Condition

variable {condition node child next other : Condition} {path rest whole : Path}
  {index place step : Nat}

/-! ### One step -/

theorem child?_setChild (found : node.child? index = .ok child) (next : Condition) :
    (node.setChild index next).child? index = .ok next := by
  cases node with
  | group connective children =>
    obtain ⟨inside, _⟩ := List.getElem?_eq_some_iff.1 (child?_group_eq_ok_iff.1 found)
    exact child?_group_eq_ok_iff.2 (List.getElem?_set_self inside)
  | not negated =>
    obtain ⟨rfl, _⟩ := child?_not_eq_ok_iff.1 found
    rfl
  | leaf comparison => cases found

/-- At another index there is the same child as before, or none for the same reason. -/
theorem child?_setChild_of_ne (found : node.child? index = .ok child) (next : Condition)
    (differs : index ≠ place) : (node.setChild index next).child? place = node.child? place := by
  cases node with
  | group connective children =>
    simp only [setChild, child?, List.getElem?_set_ne differs, List.length_set]
  | not negated =>
    obtain ⟨rfl, _⟩ := child?_not_eq_ok_iff.1 found
    cases place with
    | zero => exact absurd rfl differs
    | succ place => rfl
  | leaf comparison => rfl

theorem setChild_child (found : node.child? index = .ok child) :
    node.setChild index child = node := by
  cases node with
  | group connective children =>
    obtain ⟨inside, rfl⟩ := List.getElem?_eq_some_iff.1 (child?_group_eq_ok_iff.1 found)
    rw [setChild, List.set_getElem_self]
  | not negated =>
    obtain ⟨_, rfl⟩ := child?_not_eq_ok_iff.1 found
    rfl
  | leaf comparison => rfl

theorem setChild_setChild (node : Condition) (index : Nat) (next other : Condition) :
    (node.setChild index next).setChild index other = node.setChild index other := by
  cases node with
  | group connective children => rw [setChild, setChild, setChild, List.set_set]
  | not | leaf => rfl

theorem setChild_comm (found : node.child? index = .ok child)
    (foundOther : node.child? place = .ok other) (differs : index ≠ place)
    (next last : Condition) :
    (node.setChild index next).setChild place last =
      (node.setChild place last).setChild index next := by
  cases node with
  | group connective children =>
    rw [setChild, setChild, setChild, setChild, List.set_comm _ _ differs]
  | not negated =>
    obtain ⟨rfl, _⟩ := child?_not_eq_ok_iff.1 found
    obtain ⟨rfl, _⟩ := child?_not_eq_ok_iff.1 foundOther
    exact absurd rfl differs
  | leaf comparison => rfl

/-- Both are groups of one connective with as many children, or both negations, or both leaves. -/
def SameKind : Condition → Condition → Prop
  | .group connective children, .group other others =>
    connective = other ∧ children.length = others.length
  | .not _, .not _ | .leaf _, .leaf _ => True
  | _, _ => False

theorem sameKind_setChild (node : Condition) (index : Nat) (next : Condition) :
    SameKind node (node.setChild index next) := by
  cases node with
  | group connective children => exact ⟨rfl, List.length_set.symm⟩
  | not | leaf => trivial

/-! ### Whole paths -/

theorem follow_append (whole path rest : Path) (step : Nat) (node : Condition) :
    follow whole step (path ++ rest) node =
      follow whole step path node >>= follow whole (step + path.length) rest := by
  induction path generalizing step node with
  | nil => rfl
  | cons index path ih =>
    rw [List.cons_append, follow, follow, List.length_cons]
    cases node.child? index with
    | ok child =>
      rw [show step + (path.length + 1) = step + 1 + path.length by omega]
      exact ih (step + 1) child
    | error reason => rfl

-- The whole path and the step are only for the report of a failure.
theorem follow_eq_ok_iff_get :
    follow whole step path condition = .ok node ↔ condition.get path = .ok node :=
  (follow_eq_ok_iff .freshLeaf).trans (follow_eq_ok_iff .freshLeaf).symm

theorem get_cons_eq_ok_iff : condition.get (index :: rest) = .ok node ↔
    ∃ child, condition.child? index = .ok child ∧ child.get rest = .ok node := by
  rw [get, follow]
  refine step_eq_ok_iff.trans ?_
  simp only [follow_eq_ok_iff_get]

theorem get_append_eq_ok_iff : condition.get (path ++ rest) = .ok node ↔
    ∃ parent, condition.get path = .ok parent ∧ parent.get rest = .ok node := by
  rw [get, follow_append, bind_eq_ok]
  simp only [follow_eq_ok_iff_get]

/-- Puts `next` where the path leads to, if it leads anywhere. -/
def put (node : Condition) (path : Path) (next : Condition) : Condition :=
  match path with
  | [] => next
  | index :: rest =>
    match node.child? index with
    | .ok child => node.setChild index (child.put rest next)
    | .error _ => node

theorem put_cons (found : node.child? index = .ok child) :
    node.put (index :: rest) next = node.setChild index (child.put rest next) := by
  rw [put, found]

theorem put_cons_of_error {reason : DeadEnd} (missing : node.child? index = .error reason) :
    node.put (index :: rest) next = node := by
  rw [put, missing]

/-- An edit looks up its path, changes the node there and puts the new one in its place. -/
theorem updateFrom_eq (whole path : Path) (change : Condition → Except EditError Condition)
    (step : Nat) (node : Condition) : updateFrom whole change step path node =
      (follow whole step path node >>= change).map (node.put path) := by
  induction path generalizing step node with
  | nil =>
    change change node = (change node).map id
    cases change node <;> rfl
  | cons index rest ih =>
    rw [updateFrom, follow]
    cases found : node.child? index with
    | ok child =>
      simp only [ih]
      cases follow whole (step + 1) rest child >>= change with
      | ok next => exact congrArg Except.ok (put_cons found).symm
      | error cause => rfl
    | error reason => rfl

theorem replace_eq_map (condition : Condition) (path : Path) (next : Condition) :
    condition.replace path next = (condition.get path).map fun _ => condition.put path next := by
  rw [replace, updateFrom_eq, get]
  cases follow path 0 path condition <;> rfl

theorem replace_eq_error_iff {error : EditError} :
    condition.replace path next = .error error ↔ condition.get path = .error error := by
  rw [replace_eq_map]
  cases condition.get path <;> simp [Except.map]

theorem replace_of_get (found : condition.get path = .ok node) (next : Condition) :
    condition.replace path next = .ok (condition.put path next) := by
  rw [replace_eq_map, found]
  rfl

theorem replace_eq_ok_iff_put {result : Condition} : condition.replace path next = .ok result ↔
    (∃ old, condition.get path = .ok old) ∧ condition.put path next = result := by
  rw [replace_eq_map, map_eq_ok, exists_and_right]

/-- On the way to where something was put stand the nodes of before, with it put into them. -/
theorem get_put_append (found : condition.get path = .ok node) (rest : Path) (next : Condition) :
    (condition.put (path ++ rest) next).get path = .ok (node.put rest next) := by
  induction path generalizing condition with
  | nil =>
    cases found
    rfl
  | cons index path ih =>
    obtain ⟨child, here, below⟩ := get_cons_eq_ok_iff.1 found
    rw [List.cons_append, put_cons here]
    exact get_cons_eq_ok_iff.2 ⟨_, child?_setChild here _, ih below⟩

theorem get_put (found : condition.get path = .ok node) (next : Condition) :
    (condition.put path next).get path = .ok next := by
  have lies := get_put_append found [] next
  rwa [List.append_nil] at lies

/-- Neither of the paths goes on from the other, so they part at some node. -/
def Apart (path other : Path) : Prop :=
  ¬path <+: other ∧ ¬other <+: path

instance (path other : Path) : Decidable (Apart path other) :=
  inferInstanceAs (Decidable (_ ∧ _))

theorem Apart.symm {other : Path} (apart : Apart path other) : Apart other path :=
  And.symm apart

theorem not_apart_nil {other : Path} : ¬Apart [] other :=
  fun apart => apart.1 other.nil_prefix

theorem apart_cons_self_iff {other : Path} :
    Apart (index :: path) (index :: other) ↔ Apart path other := by
  simp [Apart]

/-- Beside the path nothing has changed, failures included. -/
theorem follow_put_of_apart {other : Path} (apart : Apart path other) (whole : Path) (step : Nat)
    (condition next : Condition) :
    follow whole step other (condition.put path next) = follow whole step other condition := by
  induction path generalizing other step condition with
  | nil => exact absurd apart not_apart_nil
  | cons index path ih =>
    cases other with
    | nil => exact absurd apart.symm not_apart_nil
    | cons place other =>
      cases here : condition.child? index with
      | error reason => rw [put_cons_of_error here]
      | ok child =>
        rw [put_cons here, follow, follow]
        by_cases same : index = place
        · subst same
          rw [child?_setChild here, here]
          exact ih (apart_cons_self_iff.1 apart) (step + 1) child
        · rw [child?_setChild_of_ne here _ same]

theorem get_put_of_apart {other : Path} (apart : Apart path other) (condition next : Condition) :
    (condition.put path next).get other = condition.get other :=
  follow_put_of_apart apart other 0 condition next

theorem put_get (found : condition.get path = .ok node) : condition.put path node = condition := by
  induction path generalizing condition with
  | nil =>
    cases found
    rfl
  | cons index path ih =>
    obtain ⟨child, here, below⟩ := get_cons_eq_ok_iff.1 found
    rw [put_cons here, ih below, setChild_child here]

theorem put_put (condition : Condition) (path : Path) (next last : Condition) :
    (condition.put path next).put path last = condition.put path last := by
  induction path generalizing condition with
  | nil => rfl
  | cons index path ih =>
    cases here : condition.child? index with
    | error reason => simp only [put_cons_of_error here]
    | ok child =>
      rw [put_cons here, put_cons here, put_cons (child?_setChild here _), setChild_setChild,
        ih child]

theorem put_comm {others : Path} (apart : Apart path others)
    (found : condition.get path = .ok node) (foundOther : condition.get others = .ok other)
    (next last : Condition) :
    (condition.put path next).put others last = (condition.put others last).put path next := by
  induction path generalizing others condition with
  | nil => exact absurd apart not_apart_nil
  | cons index path ih =>
    cases others with
    | nil => exact absurd apart.symm not_apart_nil
    | cons place others =>
      obtain ⟨child, here, below⟩ := get_cons_eq_ok_iff.1 found
      obtain ⟨sibling, there, belowOther⟩ := get_cons_eq_ok_iff.1 foundOther
      rw [put_cons here, put_cons there]
      by_cases same : index = place
      · subst same
        obtain rfl : child = sibling := Except.ok.inj (here.symm.trans there)
        rw [put_cons (child?_setChild here _), put_cons (child?_setChild here _),
          setChild_setChild, setChild_setChild, ih (apart_cons_self_iff.1 apart) below belowOther]
      · have thereStill := (child?_setChild_of_ne here (child.put path next) same).trans there
        have hereStill :=
          (child?_setChild_of_ne there (sibling.put others last) (Ne.symm same)).trans here
        rw [put_cons thereStill, put_cons hereStill, setChild_comm here there same]

theorem sameKind_put (node : Condition) (index : Nat) (rest : Path) (next : Condition) :
    SameKind node (node.put (index :: rest) next) := by
  cases found : node.child? index with
  | ok child =>
    rw [put_cons found]
    exact sameKind_setChild node index _
  | error reason =>
    rw [put_cons_of_error found]
    cases node with
    | group connective children => exact ⟨rfl, rfl⟩
    | not | leaf => trivial

/-! ### Replacements -/

/-- What replacing at a path does to look-ups, and to other replacements. -/
structure ReplacesAt (condition : Condition) (path : Path) (next : Condition) : Prop where
  succeeds : (∃ result, condition.replace path next = .ok result) ↔
    ∃ node, condition.get path = .ok node
  fails : ∀ error, condition.replace path next = .error error ↔ condition.get path = .error error
  below : ∀ result, condition.replace path next = .ok result → ∀ rest node,
    result.get (path ++ rest) = .ok node ↔ next.get rest = .ok node
  beside : ∀ result, condition.replace path next = .ok result → ∀ other, Apart path other →
    result.get other = condition.get other
  above : ∀ result, condition.replace path next = .ok result → ∀ front, front <+: path →
    front ≠ path → ∃ before after, condition.get front = .ok before ∧
      result.get front = .ok after ∧ SameKind before after
  restores : ∀ node, condition.get path = .ok node → condition.replace path node = .ok condition
  overwrites : ∀ last, (condition.replace path next >>= (·.replace path last)) =
    condition.replace path last
  commutes : ∀ other last, Apart path other → ∀ result,
    (condition.replace path next >>= (·.replace other last)) = .ok result ↔
      (condition.replace other last >>= (·.replace path next)) = .ok result

theorem get_append_of_replace {result : Condition}
    (replaced : condition.replace path next = .ok result)
    (rest : Path) : result.get (path ++ rest) = .ok node ↔ next.get rest = .ok node := by
  obtain ⟨⟨old, found⟩, rfl⟩ := replace_eq_ok_iff_put.1 replaced
  rw [get_append_eq_ok_iff, get_put found]
  constructor
  · rintro ⟨parent, same, reached⟩
    exact Except.ok.inj same ▸ reached
  · intro reached
    exact ⟨next, rfl, reached⟩

theorem sameKind_of_replace {result : Condition} {front : Path}
    (replaced : condition.replace path next = .ok result) (leads : front <+: path)
    (proper : front ≠ path) : ∃ before after, condition.get front = .ok before ∧
      result.get front = .ok after ∧ SameKind before after := by
  obtain ⟨rest, rfl⟩ := leads
  obtain ⟨⟨old, found⟩, rfl⟩ := replace_eq_ok_iff_put.1 replaced
  obtain ⟨before, here, _⟩ := get_append_eq_ok_iff.1 found
  cases rest with
  | nil => exact absurd (List.append_nil front).symm proper
  | cons index rest =>
    exact ⟨before, _, here, get_put_append here _ next, sameKind_put before index rest next⟩

theorem replace_replace (condition : Condition) (path : Path) (next last : Condition) :
    (condition.replace path next >>= (·.replace path last)) = condition.replace path last := by
  cases found : condition.get path with
  | ok node =>
    rw [replace_of_get found, replace_of_get found]
    change (condition.put path next).replace path last = _
    rw [replace_of_get (get_put found next), put_put]
  | error error =>
    rw [replace_eq_error_iff.2 found, replace_eq_error_iff.2 found]
    rfl

-- Both orders need both paths, and neither replacement takes away the path of the other.
theorem replace_replace_eq_ok_iff {others : Path} {last result : Condition}
    (apart : Apart path others) :
    (condition.replace path next >>= (·.replace others last)) = .ok result ↔
      (∃ node, condition.get path = .ok node) ∧ (∃ node, condition.get others = .ok node) ∧
        (condition.put path next).put others last = result := by
  rw [bind_eq_ok]
  constructor
  · rintro ⟨between, first, second⟩
    obtain ⟨found, rfl⟩ := replace_eq_ok_iff_put.1 first
    obtain ⟨foundOther, same⟩ := replace_eq_ok_iff_put.1 second
    rw [get_put_of_apart apart] at foundOther
    exact ⟨found, foundOther, same⟩
  · rintro ⟨found, foundOther, same⟩
    refine ⟨_, replace_eq_ok_iff_put.2 ⟨found, rfl⟩, replace_eq_ok_iff_put.2 ⟨?_, same⟩⟩
    rwa [get_put_of_apart apart]

theorem replace_comm {others : Path} {last result : Condition} (apart : Apart path others) :
    (condition.replace path next >>= (·.replace others last)) = .ok result ↔
      (condition.replace others last >>= (·.replace path next)) = .ok result := by
  rw [replace_replace_eq_ok_iff apart, replace_replace_eq_ok_iff apart.symm, and_left_comm]
  refine and_congr_right fun foundOther => and_congr_right fun found => ?_
  obtain ⟨node, found⟩ := found
  obtain ⟨other, foundOther⟩ := foundOther
  rw [put_comm apart found foundOther]

/-- Look-ups and replacements obey the laws of addressing. -/
theorem replacement_is_addressed (condition : Condition) (path : Path) (next : Condition) :
    ReplacesAt condition path next := by
  constructor
  case succeeds => simp only [replace_eq_ok_iff_put, exists_and_left, exists_eq', and_true]
  case fails => exact fun error => replace_eq_error_iff
  case below => exact fun result replaced rest node => get_append_of_replace replaced rest
  case beside =>
    intro result replaced other apart
    obtain ⟨_, rfl⟩ := replace_eq_ok_iff_put.1 replaced
    exact get_put_of_apart apart condition next
  case above => exact fun result replaced front => sameKind_of_replace replaced
  case restores =>
    intro node found
    rw [replace_of_get found, put_get found]
  case overwrites => exact replace_replace condition path next
  case commutes => exact fun other last apart result => replace_comm apart

/-- A leaf beside a negated group. -/
def paired : Condition :=
  .group .all [.leaf ⟨"owner", .exists, .null⟩, .not (.group .any [freshLeaf])]

theorem paired_replaced : ∃ result, paired.replace [1, 0] (.not freshLeaf) = .ok result ∧
    result.get [1, 0, 0] = .ok freshLeaf ∧ result.get [0, 2] = paired.get [0, 2] ∧
    paired.replace [1, 3] freshLeaf = .error (.badPath [1, 3] 1 (.singleChild 3)) := by
  have laws := replacement_is_addressed paired [1, 0] (.not freshLeaf)
  obtain ⟨result, replaced⟩ := laws.succeeds.2 ⟨_, rfl⟩
  refine ⟨result, replaced, ?_, ?_, ?_⟩
  · exact (laws.below result replaced [0] freshLeaf).2 rfl
  · exact laws.beside result replaced [0, 2] (by decide)
  · exact ((replacement_is_addressed paired [1, 3] freshLeaf).fails _).2 rfl

end WorkflowRules.Condition
