import WorkflowRules.Proofs.Condition.Addressing

/-!
Removals and additions are replacements of one node: of the parent by what it is without the child,
and of the group by what it is with a new node. They fail as the look-up of their path does, and
otherwise only if there is no parent to remove from or no group to add to.
-/
namespace WorkflowRules.Condition

variable {condition node child : Condition} {path parent : Path} {index : Nat} {kind : NodeKind}
  {connective : Connective} {children : List Condition} {error : EditError}

/-! ### Removals -/

-- The last step of the path is taken from the parent, as it would be on the way further down.
theorem remove_concat (condition : Condition) (parent : Path) (index : Nat) :
    condition.remove (parent ++ [index]) =
      (follow (parent ++ [index]) 0 parent condition >>= fun node =>
        (follow (parent ++ [index]) parent.length [index] node).map fun _ =>
          node.dropChild index).map (condition.put parent) := by
  rw [remove, List.getLast?_concat, List.dropLast_concat]
  refine (updateFrom_eq _ parent _ 0 condition).trans ?_
  cases follow (parent ++ [index]) 0 parent condition with
  | error cause => rfl
  | ok node =>
    simp only [bind, Except.bind, follow]
    cases node.child? index <;> rfl

theorem get_concat (condition : Condition) (parent : Path) (index : Nat) :
    condition.get (parent ++ [index]) = follow (parent ++ [index]) 0 parent condition >>=
      follow (parent ++ [index]) parent.length [index] := by
  rw [get, follow_append, Nat.zero_add]

/-- A removal fails as the look-up of the whole path does. -/
theorem remove_concat_eq_error_iff : condition.remove (parent ++ [index]) = .error error ↔
    condition.get (parent ++ [index]) = .error error := by
  rw [remove_concat, get_concat]
  cases follow (parent ++ [index]) 0 parent condition with
  | error cause => rfl
  | ok node =>
    change ((follow _ _ [index] node).map _).map _ = .error error ↔ follow _ _ [index] node = _
    cases follow (parent ++ [index]) parent.length [index] node <;> simp [Except.map]

theorem remove_of_child (found : condition.get parent = .ok node)
    (has : node.child? index = .ok child) : condition.remove (parent ++ [index]) =
      condition.replace parent (node.dropChild index) := by
  have there : follow (parent ++ [index]) 0 parent condition = .ok node :=
    follow_eq_ok_iff_get.2 found
  have last : follow (parent ++ [index]) parent.length [index] node = .ok child := by
    rw [follow, has]
    rfl
  rw [remove_concat, there, replace_of_get found]
  simp only [bind, Except.bind, last]
  rfl

/-- What removing a child does: the parent is replaced by itself without that child, but it keeps
one leaf if it had no other child. -/
structure RemovesAt (condition : Condition) (parent : Path) (index : Nat) : Prop where
  fails : ∀ error, condition.remove (parent ++ [index]) = .error error ↔
    condition.get (parent ++ [index]) = .error error
  member : ∀ connective children, condition.get parent = .ok (.group connective children) →
    index < children.length → children.length ≠ 1 → condition.remove (parent ++ [index]) =
      condition.replace parent (.group connective (children.eraseIdx index))
  lastMember : ∀ connective child, condition.get parent = .ok (.group connective [child]) →
    index = 0 → condition.remove (parent ++ [index]) =
      condition.replace parent (.group connective [freshLeaf])
  negated : ∀ child, condition.get parent = .ok (.not child) → index = 0 →
    condition.remove (parent ++ [index]) = condition.replace parent (.not freshLeaf)

theorem removesAt (condition : Condition) (parent : Path) (index : Nat) :
    RemovesAt condition parent index := by
  constructor
  case fails => exact fun error => remove_concat_eq_error_iff
  case member =>
    intro connective children found inside several
    have has : child? (.group connective children) index = .ok children[index] :=
      child?_group_eq_ok_iff.2 (List.getElem?_eq_getElem inside)
    rw [remove_of_child found has, dropChild_of_several several]
  case lastMember =>
    rintro connective child found rfl
    exact remove_of_child found rfl
  case negated =>
    rintro child found rfl
    exact remove_of_child found rfl

/-! ### Additions -/

theorem add_eq (condition : Condition) (path : Path) (kind : NodeKind) :
    condition.add path kind = (condition.get path >>= fun node =>
      match node.addNode? kind.fresh with
      | some next => .ok next
      | none => .error (.notAGroup path)).map (condition.put path) :=
  updateFrom_eq path path _ 0 condition

theorem add_of_error (missing : condition.get path = .error error) :
    condition.add path kind = .error error := by
  rw [add_eq, missing]
  rfl

theorem add_of_addNode? {next : Condition} (found : condition.get path = .ok node)
    (adds : node.addNode? kind.fresh = some next) :
    condition.add path kind = condition.replace path next := by
  rw [add_eq, found, replace_of_get found]
  simp only [bind, Except.bind, adds]
  rfl

/-- A look-up fails at some step of its path and for no other cause. -/
theorem badPath_of_follow {whole : Path} {step : Nat}
    (missing : follow whole step path condition = .error error) :
    ∃ place reason, error = .badPath whole place reason := by
  induction path generalizing step condition with
  | nil => cases missing
  | cons index rest ih =>
    rw [follow] at missing
    cases here : condition.child? index with
    | ok child =>
      simp only [here] at missing
      exact ih missing
    | error reason =>
      simp only [here] at missing
      cases missing
      exact ⟨step, reason, rfl⟩

theorem add_eq_notAGroup_iff {other : Path} :
    condition.add path kind = .error (.notAGroup other) ↔
      other = path ∧ ∃ comparison, condition.get path = .ok (.leaf comparison) := by
  cases found : condition.get path with
  | error cause =>
    obtain ⟨place, reason, rfl⟩ := badPath_of_follow found
    simp [add_of_error found]
  | ok node =>
    cases node with
    | leaf comparison =>
      have refused : condition.add path kind = .error (.notAGroup path) := by
        rw [add_eq, found]
        rfl
      simp [refused, eq_comm]
    | group connective children =>
      rw [add_of_addNode? found rfl, replace_of_get found]
      simp
    | not child =>
      rw [add_of_addNode? found rfl, replace_of_get found]
      simp

/-- What adding a node does: the group is replaced by itself with that node behind its members, and
a negation by the negation of the node. -/
structure AddsAt (condition : Condition) (path : Path) (kind : NodeKind) : Prop where
  fails : ∀ error, condition.get path = .error error → condition.add path kind = .error error
  leaf : ∀ other, condition.add path kind = .error (.notAGroup other) ↔
    other = path ∧ ∃ comparison, condition.get path = .ok (.leaf comparison)
  group : ∀ connective children, condition.get path = .ok (.group connective children) →
    condition.add path kind =
      condition.replace path (.group connective (children ++ [kind.fresh]))
  negated : ∀ child, condition.get path = .ok (.not child) →
    condition.add path kind = condition.replace path (.not kind.fresh)
  /-- The new node is found behind the members, and the nodes that are neither the group nor above
  it are found where they were. -/
  keeps : ∀ connective children, condition.get path = .ok (.group connective children) →
    ∃ result, condition.add path kind = .ok result ∧
      result.get (path ++ [children.length]) = .ok kind.fresh ∧
      ∀ other node, condition.get other = .ok node → ¬other <+: path → result.get other = .ok node

theorem get_put_concat {next : Condition}
    (found : condition.get path = .ok (.group connective children)) :
    (condition.put path (.group connective (children ++ [next]))).get
      (path ++ [children.length]) = .ok next := by
  refine get_append_eq_ok_iff.2 ⟨_, get_put found _, get_cons_eq_ok_iff.2 ⟨next, ?_, rfl⟩⟩
  exact child?_group_eq_ok_iff.2 List.getElem?_concat_length

theorem get_put_of_member {other : Path} {next : Condition}
    (found : condition.get path = .ok (.group connective children))
    (reached : condition.get other = .ok node) (elsewhere : ¬other <+: path) :
    (condition.put path (.group connective (children ++ [next]))).get other = .ok node := by
  by_cases inside : path <+: other
  · -- The path goes on to a member, and that one has kept its place.
    obtain ⟨rest, rfl⟩ := inside
    obtain ⟨group, same, below⟩ := get_append_eq_ok_iff.1 reached
    obtain rfl := Except.ok.inj (found.symm.trans same)
    cases rest with
    | nil => simp at elsewhere
    | cons place rest =>
      obtain ⟨member, here, further⟩ := get_cons_eq_ok_iff.1 below
      have there := child?_group_eq_ok_iff.1 here
      have stays : (children ++ [next])[place]? = some member :=
        (List.getElem?_append_left (List.getElem?_eq_some_iff.1 there).1).trans there
      refine get_append_eq_ok_iff.2 ⟨_, get_put found _, get_cons_eq_ok_iff.2 ⟨member, ?_, further⟩⟩
      exact child?_group_eq_ok_iff.2 stays
  · rw [get_put_of_apart ⟨inside, elsewhere⟩, reached]

theorem addsAt (condition : Condition) (path : Path) (kind : NodeKind) :
    AddsAt condition path kind := by
  constructor
  case fails => exact fun error => add_of_error
  case leaf => exact fun other => add_eq_notAGroup_iff
  case group => exact fun connective children found => add_of_addNode? found rfl
  case negated => exact fun child found => add_of_addNode? found rfl
  case keeps =>
    intro connective children found
    refine ⟨_, (add_of_addNode? found rfl).trans (replace_of_get found _), ?_, ?_⟩
    · exact get_put_concat found
    · exact fun other node reached elsewhere => get_put_of_member found reached elsewhere

/-- Removals and additions replace one node and are exact about which. -/
theorem edits_replace_one_node (condition : Condition) :
    condition.remove [] = .error .rootRemoval ∧
      (∀ parent index, RemovesAt condition parent index) ∧
      ∀ path kind, AddsAt condition path kind :=
  ⟨rfl, removesAt condition, addsAt condition⟩

theorem paired_edited :
    paired.remove [1, 0] = paired.replace [1] (.not freshLeaf) ∧
    paired.remove [0, 4] = .error (.badPath [0, 4] 1 .inLeaf) ∧
    ∃ result, paired.add [1, 0] .not = .ok result ∧ result.get [1, 0, 1] = .ok NodeKind.not.fresh ∧
      result.get [0] = .ok (.leaf ⟨"owner", .exists, .null⟩) := by
  obtain ⟨_, removes, adds⟩ := edits_replace_one_node paired
  refine ⟨(removes [1] 0).negated _ rfl rfl, ((removes [0] 4).fails _).2 rfl, ?_⟩
  obtain ⟨result, added, placed, kept⟩ := (adds [1, 0] .not).keeps .any [freshLeaf] rfl
  exact ⟨result, added, placed, kept [0] _ rfl (by decide)⟩

end WorkflowRules.Condition
