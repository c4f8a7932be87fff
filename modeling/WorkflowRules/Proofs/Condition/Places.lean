import Mathlib.Data.Set.Card
import WorkflowRules.Proofs.Condition.Addressing

/-!
The nodes of a condition in document order, each with the path that leads to it. A node comes before
what stands below it and its children come in turn, so that the paths increase and no path comes
twice. Whatever goes through a condition this way, be it to take something from every node or to
count nodes of some kind, does it with the nodes of this list.
-/
namespace WorkflowRules.Condition

/-- The children in the order of their indices. -/
def members : Condition → List Condition
  | .group _ children => children
  | .not child => [child]
  | .leaf _ => []

variable {condition node child : Condition} {path : Path}

theorem child?_eq_ok_iff_members {index : Nat} :
    node.child? index = .ok child ↔ node.members[index]? = some child := by
  cases node with
  | group connective children => exact child?_group_eq_ok_iff
  | not negated =>
    rw [child?_not_eq_ok_iff, members, List.getElem?_singleton]
    by_cases first : index = 0 <;> simp [first]
  | leaf comparison => simp [child?, members]

theorem induct_members {motive : Condition → Prop}
    (step : ∀ node, (∀ child ∈ node.members, motive child) → motive node) (condition : Condition) :
    motive condition := by
  induction condition with
  | group connective children ih => exact step _ ih
  | not child ih => exact step _ (List.forall_mem_singleton.2 ih)
  | leaf comparison => exact step _ (List.forall_mem_nil _)

theorem get_cons_eq_ok_iff_members {index : Nat} :
    condition.get (index :: path) = .ok node ↔
      ∃ child, condition.members[index]? = some child ∧ child.get path = .ok node := by
  simp only [get_cons_eq_ok_iff, child?_eq_ok_iff_members]

/-! ### The list -/

/-- A node under a child, with the path to it from the parent. -/
def inChild (index : Nat) (place : Path × Condition) : Path × Condition :=
  (index :: place.1, place.2)

mutual
/-- Every node after the path that leads to it. -/
def places : Condition → List (Path × Condition)
  | .group connective children => ([], .group connective children) :: placesAmong 0 children
  | .not child => ([], .not child) :: (places child).map (inChild 0)
  | .leaf comparison => [([], .leaf comparison)]
termination_by structural condition => condition
def placesAmong (index : Nat) : List Condition → List (Path × Condition)
  | [] => []
  | child :: rest => (places child).map (inChild index) ++ placesAmong (index + 1) rest
termination_by structural children => children
end

theorem placesAmong_eq (index : Nat) (children : List Condition) :
    placesAmong index children =
      (children.zipIdx index).flatMap fun (child, place) => child.places.map (inChild place) := by
  induction children generalizing index with
  | nil => rfl
  | cons child rest ih => rw [placesAmong, ih, List.zipIdx_cons, List.flatMap_cons]

theorem places_eq (node : Condition) : node.places =
    ([], node) :: node.members.zipIdx.flatMap fun (child, index) =>
      child.places.map (inChild index) := by
  cases node with
  | group connective children => rw [places, placesAmong_eq, members]
  | not child => simp [places, members]
  | leaf comparison => simp [places, members]

/-- The list has the nodes that look-ups find, each under its path. -/
theorem mem_places_iff : (path, node) ∈ condition.places ↔ condition.get path = .ok node := by
  induction condition using induct_members generalizing path with
  | step condition ih =>
    rw [places_eq, List.mem_cons, List.mem_flatMap]
    constructor
    · rintro (own | ⟨⟨child, index⟩, place, inside⟩)
      · cases own
        rfl
      · have found := List.mem_zipIdx_iff_getElem?.1 place
        obtain ⟨⟨rest, _⟩, mem, same⟩ := List.mem_map.1 inside
        cases same
        have reached := (ih child (List.mem_of_getElem? found)).1 mem
        exact get_cons_eq_ok_iff_members.2 ⟨child, found, reached⟩
    · intro reached
      cases path with
      | nil =>
        cases reached
        exact .inl rfl
      | cons index rest =>
        obtain ⟨child, found, inside⟩ := get_cons_eq_ok_iff_members.1 reached
        have mem := (ih child (List.mem_of_getElem? found)).2 inside
        exact .inr ⟨(child, index), List.mem_zipIdx_iff_getElem?.2 found,
          List.mem_map.2 ⟨(rest, node), mem, rfl⟩⟩

theorem pairwise_zipIdx_snd {α : Type} (items : List α) :
    items.zipIdx.Pairwise fun before after => before.2 < after.2 := by
  rw [← List.pairwise_map, List.zipIdx_map_snd]
  exact List.pairwise_lt_range'

-- Below one child the order is that of the child, and between two children their indices decide.
theorem pairwise_places (condition : Condition) :
    condition.places.Pairwise fun before after => before.1 < after.1 := by
  induction condition using induct_members with
  | step condition ih =>
    rw [places_eq, List.pairwise_cons, List.pairwise_flatMap]
    refine ⟨?above, ?within, ?between⟩
    case above =>
      intro place mem
      obtain ⟨⟨child, index⟩, _, inside⟩ := List.mem_flatMap.1 mem
      obtain ⟨inner, _, rfl⟩ := List.mem_map.1 inside
      exact List.nil_lt_cons index inner.1
    case within =>
      intro ⟨child, index⟩ place
      refine List.pairwise_map.2 ((ih child (List.fst_mem_of_mem_zipIdx place)).imp ?_)
      exact fun less => List.cons_lt_cons_iff.2 (.inr ⟨rfl, less⟩)
    case between =>
      refine (pairwise_zipIdx_snd condition.members).imp ?_
      intro before after less place mem other otherMem
      obtain ⟨inner, _, rfl⟩ := List.mem_map.1 mem
      obtain ⟨deeper, _, rfl⟩ := List.mem_map.1 otherMem
      exact List.cons_lt_cons_iff.2 (.inl less)

/-- What is taken from every node on the way, its own before that of its children, is taken from the
list. -/
theorem walk_eq_flatMap_places {α : Type} {walk own : Path → Condition → List α}
    (step : ∀ path node, walk path node = own path node ++
      node.members.zipIdx.flatMap fun (child, index) => walk (path ++ [index]) child)
    (path : Path) (condition : Condition) :
    walk path condition = condition.places.flatMap fun (rest, node) => own (path ++ rest) node := by
  induction condition using induct_members generalizing path with
  | step condition ih =>
    have children : ∀ place ∈ condition.members.zipIdx, walk (path ++ [place.2]) place.1 =
        (place.1.places.map (inChild place.2)).flatMap fun (rest, node) =>
          own (path ++ rest) node := by
      intro ⟨child, index⟩ place
      rw [ih child (List.fst_mem_of_mem_zipIdx place), List.flatMap_map]
      simp only [inChild, List.append_assoc, List.singleton_append]
    rw [step, places_eq, List.flatMap_cons, List.flatMap_assoc, List.flatMap_congr children]
    simp only [List.append_nil]

/-! ### Counts -/

theorem count_eq_countP_places {count : Condition → Nat} {counts : Condition → Bool}
    (step : ∀ node, count node =
      (if counts node then 1 else 0) + (node.members.map count).sum) (condition : Condition) :
    count condition = condition.places.countP fun place => counts place.2 := by
  induction condition using induct_members with
  | step condition ih =>
    have each : ∀ place ∈ condition.members.zipIdx, count place.1 =
        (place.1.places.map (inChild place.2)).countP fun place => counts place.2 := by
      intro place mem
      rw [ih place.1 (List.fst_mem_of_mem_zipIdx mem), List.countP_map]
      rfl
    have children : condition.members.map count = condition.members.zipIdx.map fun place =>
        (place.1.places.map (inChild place.2)).countP fun place => counts place.2 := by
      rw [← List.map_congr_left each, ← Function.comp_def count, ← List.map_map,
        List.zipIdx_map_fst]
    rw [step, children, places_eq, List.countP_cons, List.countP_flatMap, Nat.add_comm]
    rfl

/-- A count that takes every node for one or for none is the number of paths to those it takes. -/
theorem encard_eq_count {count : Condition → Nat} {counts : Condition → Bool}
    (step : ∀ node, count node =
      (if counts node then 1 else 0) + (node.members.map count).sum) (condition : Condition) :
    {path | ∃ node, condition.get path = .ok node ∧ counts node = true}.encard =
      count condition := by
  have paths : {path | ∃ node, condition.get path = .ok node ∧ counts node = true} =
      ((condition.places.filter fun place => counts place.2).map Prod.fst).toFinset := by
    ext path
    simp [mem_places_iff]
  have once : ((condition.places.filter fun place => counts place.2).map Prod.fst).Nodup := by
    refine List.pairwise_map.2 (((pairwise_places condition).filter _).imp ?_)
    intro before after less same
    exact List.lt_irrefl _ (same ▸ less)
  rw [paths, Set.encard_coe_eq_coe_finsetCard, List.toFinset_card_of_nodup once, List.length_map,
    count_eq_countP_places step, List.countP_eq_length_filter]

end WorkflowRules.Condition
