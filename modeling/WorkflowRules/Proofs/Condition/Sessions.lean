import WorkflowRules.Proofs.Condition.Replacement
import WorkflowRules.Proofs.Condition.RoundTrip
import WorkflowRules.Rule.Draft

/-!
Sessions in a builder: revisions of a condition, one after another, of which those that fail change
nothing. No group becomes empty in a session, unless an empty one is put in; and if groups are
added only where the builder offers them, no condition gets too deep to be loaded again.
-/
namespace WorkflowRules.Condition

inductive Revision where
  | replace (path : Path) (next : Condition)
  | remove (path : Path)
  | add (path : Path) (kind : NodeKind)
  | normalize

namespace Revision

def perform : Revision → Condition → Except EditError Condition
  | .replace path next, condition => condition.replace path next
  | .remove path, condition => condition.remove path
  | .add path kind, condition => condition.add path kind
  | .normalize, condition => .ok condition.normalize

def after (revision : Revision) (condition : Condition) : Condition :=
  match revision.perform condition with
  | .ok next => next
  | .error _ => condition

/-- The empty groups of what is put in. -/
def brings : Revision → Nat
  | .replace _ next => next.emptyGroups
  | _ => 0

/-- Nodes are replaced by leaves only, and groups are added only where the builder offers it. -/
def Offered (limits : Limits) : Revision → Prop
  | .replace _ next => next.isLeaf = true
  | .add path kind => kind = .leaf ∨ groupOffered path limits = true
  | .remove _ | .normalize => True

end Revision

def revise (start : Condition) (revisions : List Revision) : Condition :=
  revisions.foldl (fun condition revision => revision.after condition) start

variable {condition node next result start : Condition} {path : Path} {index : Nat}
  {revision : Revision} {revisions : List Revision} {limits : Limits} {kind : NodeKind}

/-- What every revision preserves that succeeds holds throughout the session. -/
theorem revise_preserves {property : Condition → Prop}
    (preserves : ∀ revision ∈ revisions, ∀ condition result, property condition →
      revision.perform condition = .ok result → property result)
    (holds : property start) : property (revise start revisions) := by
  induction revisions generalizing start with
  | nil => exact holds
  | cons revision rest ih =>
    obtain ⟨here, later⟩ := List.forall_mem_cons.1 preserves
    rw [revise, List.foldl_cons]
    apply ih later
    rw [Revision.after]
    split
    · next performs => exact here _ _ holds performs
    · exact holds

/-! ### Empty groups -/

theorem emptyGroups_dropChild_le (node : Condition) (index : Nat) :
    (node.dropChild index).emptyGroups ≤ node.emptyGroups := by
  cases node with
  | group connective children =>
    by_cases single : children.length = 1
    · obtain ⟨child, rfl⟩ := List.length_eq_one_iff.1 single
      exact Nat.zero_le _
    · -- One that is left out of several leaves another behind.
      have own : (children.eraseIdx index).isEmpty = children.isEmpty := by
        rw [Bool.eq_iff_iff, List.isEmpty_iff, List.isEmpty_iff, List.eraseIdx_eq_nil_iff]
        exact or_iff_left fun one => single one.1
      rw [dropChild_of_several single, emptyGroups, emptyGroups, own]
      exact Nat.add_le_add_left (emptyGroupsSum_eraseIdx_le children index) _
  | not child => exact Nat.zero_le _
  | leaf comparison => exact Nat.le_refl _

theorem emptyGroups_fresh (kind : NodeKind) : kind.fresh.emptyGroups = 0 := by
  cases kind <;> rfl

theorem emptyGroups_of_addNode? (added : node.addNode? kind.fresh = some next) :
    next.emptyGroups ≤ node.emptyGroups := by
  cases node with
  | group connective children =>
    cases added
    rw [emptyGroups, emptyGroups, emptyGroupsSum_concat, emptyGroups_fresh]
    simp
  | not child =>
    cases added
    rw [emptyGroups, emptyGroups_fresh]
    exact Nat.zero_le _
  | leaf comparison => cases added

theorem emptyGroups_of_perform (performs : revision.perform condition = .ok result) :
    result.emptyGroups ≤ condition.emptyGroups + revision.brings := by
  cases revision with
  | replace path next =>
    obtain ⟨old, replaced⟩ := replace_eq_ok_iff.1 performs
    have counts := replaced.emptyGroups_add
    rw [Revision.brings]
    omega
  | remove path =>
    obtain ⟨_, index, node, _, _, _, replaced⟩ := remove_eq_ok_iff.1 performs
    have counts := replaced.emptyGroups_add
    have fewer := emptyGroups_dropChild_le node index
    omega
  | add path kind =>
    obtain ⟨node, next, added, replaced⟩ := add_eq_ok_iff.1 performs
    have counts := replaced.emptyGroups_add
    have fewer := emptyGroups_of_addNode? added
    omega
  | normalize =>
    cases performs
    rw [emptyGroups_eq_zero_iff.2 (filled_normalize condition)]
    exact Nat.zero_le _

/-- Where the conditions come from that a session starts with. -/
inductive Origin : Condition → Prop where
  | initial : Origin .initial
  | loaded {limits : Limits} {text : String} {condition : Condition}
    (loads : load limits text = .ok condition) : Origin condition
  | drafted (payload : RulePayload) : Origin (RuleDraft.ofPayload payload).condition

theorem Origin.filled (origin : Origin condition) : condition.Filled := by
  cases origin with
  | initial => exact emptyGroups_eq_zero_iff.1 rfl
  | loaded loads =>
    obtain ⟨_, read, _, _, _, rfl⟩ := load_eq_ok_iff.1 loads
    exact filled_normalize read
  | drafted payload => exact filled_normalize payload.condition

/-- No revision adds to the empty groups but by what it puts in, so that there are none in a
session that starts without them and puts none in. -/
theorem groups_stay_filled :
    (∀ (revision : Revision) condition result, revision.perform condition = .ok result →
      result.emptyGroups ≤ condition.emptyGroups + revision.brings) ∧
    ∀ start revisions, Origin start →
      (∀ path next, Revision.replace path next ∈ revisions → next.Filled) →
      (revise start revisions).Filled := by
  refine ⟨fun _ _ _ performs => emptyGroups_of_perform performs, ?_⟩
  intro start revisions origin filled
  apply revise_preserves _ origin.filled
  intro revision mem condition result none performs
  have counts := emptyGroups_of_perform performs
  have brings : revision.brings = 0 := by
    cases revision with
    | replace path next => exact emptyGroups_eq_zero_iff.2 (filled path next mem)
    | remove | add | normalize => rfl
  rw [← emptyGroups_eq_zero_iff] at none ⊢
  omega

/-- The last child of a group is removed, here of one that is nested, and an empty group that was
there before is left alone. -/
theorem emptied_group_is_filled :
    (∃ result, Revision.perform (.remove [1]) sparse = .ok result ∧ result.emptyGroups ≤ 1) ∧
    (revise .initial [.add [] (.group .any), .remove [1, 0], .remove [0], .remove [0],
      .replace [0] deepNegation.normalize]).Filled := by
  obtain ⟨counts, filled⟩ := groups_stay_filled
  constructor
  · have performs : Revision.perform (.remove [1]) sparse = .ok (.group .any [.group .all []]) :=
      rfl
    exact ⟨_, performs, counts _ _ _ performs⟩
  · apply filled _ _ .initial
    intro path next mem
    have same : path = [0] ∧ next = deepNegation.normalize := by simpa using mem
    rw [same.2]
    exact filled_normalize deepNegation

/-! ### Depth -/

theorem depth_dropChild_le (node : Condition) (index : Nat) :
    (node.dropChild index).depth ≤ node.depth := by
  cases node with
  | group connective children =>
    by_cases single : children.length = 1
    · obtain ⟨child, rfl⟩ := List.length_eq_one_iff.1 single
      exact Nat.le_add_right 1 _
    · rw [dropChild_of_several single, depth, depth]
      apply Nat.add_le_add_left
      apply depthMax_le_iff.2
      intro child mem
      exact depth_le_depthMax (List.mem_of_mem_eraseIdx mem)
  | not child => exact Nat.le_add_right 1 _
  | leaf comparison => exact Nat.le_refl _

theorem depth_of_addNode? {added : Condition} (adds : node.addNode? added = some next) :
    next.depth ≤ max node.depth (1 + added.depth) ∧ 1 + added.depth ≤ next.depth := by
  cases node with
  | group connective children =>
    cases adds
    rw [depth, depth, depthMax_concat]
    omega
  | not child =>
    cases adds
    rw [depth, depth]
    omega
  | leaf comparison => cases adds

theorem exists_addNode? (inner : node.isLeaf = false) (added : Condition) :
    ∃ next, node.addNode? added = some next := by
  cases node with
  | group | not => exact ⟨_, rfl⟩
  | leaf comparison => cases inner

theorem depth_fresh (group : kind ≠ .leaf) : kind.fresh.depth = 1 := by
  cases kind with
  | leaf => exact absurd rfl group
  | group | not => rfl

theorem groupOffered_iff :
    groupOffered path limits = true ↔ path.length + 2 ≤ limits.maxDepth.toNat :=
  decide_eq_true_iff

-- The new group has two levels under the node at the path, itself and that node.
theorem depth_le_iff_groupOffered (shallow : condition.depth ≤ limits.maxDepth.toNat)
    (group : kind ≠ .leaf) (adds : condition.add path kind = .ok result) :
    groupOffered path limits = true ↔ result.depth ≤ limits.maxDepth.toNat := by
  obtain ⟨node, next, added, replaced⟩ := add_eq_ok_iff.1 adds
  have own := depth_of_addNode? added
  have before := replaced.length_add_depth_le
  have after := replaced.symm.length_add_depth_le
  have upper := replaced.depth_le
  rw [depth_fresh group] at own
  rw [groupOffered_iff]
  omega

theorem depth_of_perform (offered : revision.Offered limits)
    (shallow : condition.depth ≤ limits.maxDepth.toNat)
    (performs : revision.perform condition = .ok result) :
    result.depth ≤ limits.maxDepth.toNat := by
  cases revision with
  | replace path next =>
    obtain ⟨old, replaced⟩ := replace_eq_ok_iff.1 performs
    cases next with
    | leaf comparison =>
      have kept := replaced.depth_le_of_le (Nat.zero_le _)
      omega
    | group | not => cases offered
  | remove path =>
    obtain ⟨_, index, node, _, _, _, replaced⟩ := remove_eq_ok_iff.1 performs
    have kept := replaced.depth_le_of_le (depth_dropChild_le node index)
    omega
  | add path kind =>
    by_cases group : kind = .leaf
    · subst group
      obtain ⟨node, next, added, replaced⟩ := add_eq_ok_iff.1 performs
      have own := depth_of_addNode? added
      have before := replaced.length_add_depth_le
      have upper := replaced.depth_le
      have fresh : NodeKind.leaf.fresh.depth = 0 := rfl
      have inner : 1 ≤ node.depth := by
        cases node with
        | group | not => exact Nat.le_add_right 1 _
        | leaf comparison => cases added
      omega
    · have gate := offered.resolve_left group
      exact (depth_le_iff_groupOffered shallow group performs).1 gate
  | normalize =>
    cases performs
    rw [depth_normalize]
    exact shallow

theorem maxDepth_le_acceptedDepth (limits : Limits) :
    limits.maxDepth.toNat ≤ limits.acceptedDepth := by
  have word := limits.maxDepth.toNat_lt_size
  rw [Limits.acceptedDepth]
  omega

/-- A group is offered exactly where its addition stays within the builder's depth, so that what
the builder makes of a condition within that depth stays there, and passes the check on loading. -/
theorem offered_groups_stay_shallow :
    (∀ limits (condition : Condition) path node kind, condition.depth ≤ limits.maxDepth.toNat →
      condition.get path = .ok node → node.isLeaf = false → kind ≠ .leaf →
      ∃ result, condition.add path kind = .ok result ∧
        (groupOffered path limits = true ↔ result.depth ≤ limits.maxDepth.toNat)) ∧
    ∀ (limits : Limits) start revisions, start.depth ≤ limits.maxDepth.toNat →
      (∀ revision ∈ revisions, revision.Offered limits) →
      (revise start revisions).depth ≤ limits.maxDepth.toNat ∧
        checkShape limits.acceptedDepth (revise start revisions).toJson.toValue.json = .ok () := by
  constructor
  · intro limits condition path node kind shallow reached inner group
    obtain ⟨next, added⟩ := exists_addNode? inner kind.fresh
    obtain ⟨result, replaced⟩ := (follow_eq_ok_iff next).1 reached
    have adds := add_eq_ok_iff.2 ⟨node, next, added, replaced⟩
    exact ⟨result, adds, depth_le_iff_groupOffered shallow group adds⟩
  · intro limits start revisions shallow offered
    have kept : (revise start revisions).depth ≤ limits.maxDepth.toNat :=
      revise_preserves (fun revision mem condition result here performs =>
        depth_of_perform (offered revision mem) here performs) shallow
    have accepted := Nat.le_trans kept (maxDepth_le_acceptedDepth limits)
    exact ⟨kept, (checkShape_eq_ok_iff (ofJson_toJson _)).2 accepted⟩

/-- As deep as the standard limits let the builder go. -/
def threeLevels : Condition :=
  .not (.group .any [.freshLeaf, .not .freshLeaf])

theorem threeLevels_stay_three :
    (∃ result, threeLevels.add [0] (.group .all) = .ok result ∧ result.depth ≤ 3) ∧
    (∃ result, threeLevels.add [0, 1] .not = .ok result ∧ ¬result.depth ≤ 3) ∧
    (revise threeLevels [.add [0] (.group .all), .remove [0, 1], .add [0, 1] .leaf,
      .replace [0, 0] .freshLeaf, .normalize]).depth ≤ 3 := by
  obtain ⟨exactly, kept⟩ := offered_groups_stay_shallow
  have shallow : threeLevels.depth ≤ Limits.standard.maxDepth.toNat := by decide
  refine ⟨?_, ?_, ?_⟩
  · obtain ⟨result, adds, gate⟩ :=
      exactly .standard threeLevels [0] _ (.group .all) shallow rfl rfl (by decide)
    exact ⟨result, adds, gate.1 (by decide)⟩
  · obtain ⟨result, adds, gate⟩ :=
      exactly .standard threeLevels [0, 1] _ .not shallow rfl rfl (by decide)
    exact ⟨result, adds, mt gate.2 (by decide)⟩
  · apply (kept .standard threeLevels _ shallow _).1
    simp [Revision.Offered, isLeaf, freshLeaf, groupOffered, Limits.standard]

end WorkflowRules.Condition
