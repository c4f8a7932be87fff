import Mathlib.Data.List.Basic
import WorkflowRules.Condition.Expression
import WorkflowRules.Proofs.Condition.Nodes

/-!
What the expression of a condition says. Leaves count as their texts, a group of one child says what
the child says, and a group in a group of the same connective is a part of that. Of this formula the
tokens of the condition are made, so that conditions of one formula have one expression.
-/
namespace WorkflowRules

open Condition (Token enclose)

inductive Formula where
  | leaf (text : String)
  | not (operand : Formula)
  | group (connective : Connective) (operands : List Formula)

/-- As in expressions, a higher number binds more tightly. -/
def Connective.binding : Connective → Nat
  | .any => 1
  | .all => 2

namespace Formula

def connective? : Formula → Option Connective
  | .group connective _ => some connective
  | _ => none

/-- What a formula adds to a group that it stands in: a group of the same connective its operands,
and any other formula itself. -/
def operandsOf (connective : Connective) : Formula → List Formula
  | .group own operands => if own = connective then operands else [.group own operands]
  | .not operand => [.not operand]
  | .leaf text => [.leaf text]

/-- One formula alone needs no group. -/
def join (connective : Connective) : List Formula → Formula
  | [formula] => formula
  | formulas => .group connective (formulas.flatMap (operandsOf connective))

def binding : Formula → Nat
  | .group connective _ => connective.binding
  | .not _ => 3
  | .leaf _ => 4

mutual
def tokens : Formula → List Token
  | .leaf text => [.leaf text]
  | .not operand => .not :: enclose (operand.binding < 3) operand.tokens
  | .group connective operands => tokensJoined connective operands
termination_by structural formula => formula
def tokensJoined (connective : Connective) : List Formula → List Token
  | [] => []
  | operand :: rest =>
    enclose (operand.binding < connective.binding) operand.tokens ++
      if rest.isEmpty then [] else .connective connective :: tokensJoined connective rest
termination_by structural operands => operands
end

/-- The tokens of a formula within surroundings that bind by `outer`. -/
def tokensWithin (outer : Nat) (formula : Formula) : List Token :=
  enclose (formula.binding < outer) formula.tokens

/-- Groups have several operands, and none that is a group of the same connective. -/
inductive Normal : Formula → Prop where
  | leaf (text : String) : Normal (.leaf text)
  | not {operand : Formula} (normal : Normal operand) : Normal (.not operand)
  | group {connective : Connective} {operands : List Formula} (several : 2 ≤ operands.length)
    (normal : ∀ operand ∈ operands, Normal operand)
    (others : ∀ operand ∈ operands, operand.connective? ≠ some connective) :
    Normal (.group connective operands)

variable {connective : Connective} {formula : Formula} {formulas : List Formula}

/-! ### Normal formulas -/

/-- A formula is a group of the connective, or else one operand of it. -/
theorem group_or_other (connective : Connective) (formula : Formula) :
    (∃ operands, formula = .group connective operands) ∨
      formula.connective? ≠ some connective := by
  by_cases same : formula.connective? = some connective
  · cases formula with
    | leaf | not => cases same
    | group own operands =>
      cases same
      exact .inl ⟨operands, rfl⟩
  · exact .inr same

@[simp]
theorem operandsOf_group (connective : Connective) (operands : List Formula) :
    operandsOf connective (.group connective operands) = operands :=
  if_pos rfl

theorem operandsOf_of_other (other : formula.connective? ≠ some connective) :
    operandsOf connective formula = [formula] := by
  cases formula with
  | leaf | not => rfl
  | group own operands => exact if_neg fun same => other (congrArg some same)

theorem join_of_several (several : 2 ≤ formulas.length) :
    join connective formulas = .group connective (formulas.flatMap (operandsOf connective)) := by
  unfold join
  split
  · simp at several
  · rfl

theorem join_of_others (several : 2 ≤ formulas.length)
    (others : ∀ formula ∈ formulas, formula.connective? ≠ some connective) :
    join connective formulas = .group connective formulas := by
  have kept : formulas.flatMap (operandsOf connective) = formulas := by
    rw [List.flatMap_congr fun formula mem => operandsOf_of_other (others formula mem)]
    exact List.flatMap_singleton' formulas
  rw [join_of_several several, kept]

/-- What a normal formula adds to a group is a normal formula's worth of other operands. -/
theorem Normal.operandsOf (normal : Normal formula) (connective : Connective) :
    operandsOf connective formula ≠ [] ∧
      ∀ operand ∈ operandsOf connective formula,
        Normal operand ∧ operand.connective? ≠ some connective := by
  rcases group_or_other connective formula with ⟨operands, rfl⟩ | other
  · cases normal with
    | group several normal others =>
      rw [operandsOf_group]
      exact ⟨List.ne_nil_of_length_pos (by omega), fun operand mem =>
        ⟨normal operand mem, others operand mem⟩⟩
  · rw [operandsOf_of_other other]
    exact ⟨List.cons_ne_nil _ _, List.forall_mem_singleton.2 ⟨normal, other⟩⟩

theorem Normal.join_operandsOf (normal : Normal formula) (connective : Connective) :
    join connective (Formula.operandsOf connective formula) = formula := by
  rcases group_or_other connective formula with ⟨operands, rfl⟩ | other
  · cases normal with
    | group several normal others =>
      rw [operandsOf_group]
      exact join_of_others several others
  · rw [operandsOf_of_other other]
    rfl

theorem eq_singleton_or_several {α : Type} {items : List α} (nonempty : items ≠ []) :
    (∃ item, items = [item]) ∨ 2 ≤ items.length := by
  match items with
  | [] => exact absurd rfl nonempty
  | [item] => exact .inl ⟨item, rfl⟩
  | _ :: _ :: rest => exact .inr (Nat.le_add_left 2 rest.length)

theorem length_le_length_flatMap {α β : Type} {parts : α → List β} {items : List α}
    (nonempty : ∀ item ∈ items, parts item ≠ []) : items.length ≤ (items.flatMap parts).length := by
  induction items with
  | nil => exact Nat.le_refl 0
  | cons item rest ih =>
    obtain ⟨here, later⟩ := List.forall_mem_cons.1 nonempty
    have first := List.length_pos_iff.2 here
    have others := ih later
    rw [List.flatMap_cons, List.length_append, List.length_cons]
    omega

theorem normal_join (nonempty : formulas ≠ []) (normal : ∀ formula ∈ formulas, Normal formula) :
    Normal (join connective formulas) := by
  rcases eq_singleton_or_several nonempty with ⟨formula, rfl⟩ | several
  · exact normal formula List.mem_cons_self
  · rw [join_of_several several]
    have operands : ∀ operand ∈ formulas.flatMap (operandsOf connective),
        Normal operand ∧ operand.connective? ≠ some connective := by
      intro operand mem
      obtain ⟨formula, among, part⟩ := List.mem_flatMap.1 mem
      exact ((normal formula among).operandsOf connective).2 operand part
    have many := length_le_length_flatMap fun formula mem =>
      ((normal formula mem).operandsOf connective).1
    exact .group (Nat.le_trans several many) (fun operand mem => (operands operand mem).1)
      fun operand mem => (operands operand mem).2

/-! ### Tokens -/

theorem tokensJoined_singleton (connective : Connective) (operand : Formula) :
    tokensJoined connective [operand] = operand.tokensWithin connective.binding := by
  simp [tokensJoined, tokensWithin]

theorem tokensJoined_cons {rest : List Formula} (nonempty : rest ≠ []) (operand : Formula) :
    tokensJoined connective (operand :: rest) =
      operand.tokensWithin connective.binding ++
        .connective connective :: tokensJoined connective rest := by
  simp [tokensJoined, tokensWithin, nonempty]

theorem tokensJoined_append {operands more : List Formula} (some : operands ≠ [])
    (others : more ≠ []) : tokensJoined connective (operands ++ more) =
      tokensJoined connective operands ++
        .connective connective :: tokensJoined connective more := by
  induction operands with
  | nil => exact absurd rfl some
  | cons operand rest ih =>
    by_cases last : rest = []
    · subst last
      rw [List.singleton_append, tokensJoined_cons others, tokensJoined_singleton]
    · have several : rest ++ more ≠ [] := List.append_ne_nil_of_left_ne_nil last more
      rw [List.cons_append, tokensJoined_cons several, tokensJoined_cons last, ih last,
        List.append_assoc, List.cons_append]

/-- Within surroundings of a connective a group of the same stands without parentheses. -/
theorem tokensJoined_operandsOf (connective : Connective) (formula : Formula) :
    tokensJoined connective (operandsOf connective formula) =
      formula.tokensWithin connective.binding := by
  rcases group_or_other connective formula with ⟨operands, rfl⟩ | other
  · simp [tokensWithin, binding, enclose, tokens]
  · rw [operandsOf_of_other other, tokensJoined_singleton]

end Formula

namespace Condition

mutual
/-- The formula that the expression of a condition stands for. -/
def formula : Condition → Formula
  | .group connective children => .join connective (formulas children)
  | .not child => .not (formula child)
  | .leaf comparison => .leaf comparison.text
termination_by structural condition => condition
def formulas : List Condition → List Formula
  | [] => []
  | child :: rest => formula child :: formulas rest
termination_by structural children => children
end

variable {connective : Connective} {child condition : Condition} {children : List Condition}
  {outer : Nat}

theorem formulas_eq_map (children : List Condition) : formulas children = children.map formula := by
  induction children with
  | nil => rfl
  | cons child rest ih => rw [formulas, ih, List.map_cons]

theorem normal_formula (filled : condition.Filled) : condition.formula.Normal := by
  induction condition with
  | group connective children ih =>
    obtain ⟨nonempty, each⟩ := filled_group_iff.1 filled
    rw [formula, formulas_eq_map]
    apply Formula.normal_join
    · simpa using nonempty
    · intro formula mem
      obtain ⟨child, inside, rfl⟩ := List.mem_map.1 mem
      exact ih child inside (each child inside)
  | not child ih => exact .not (ih (filled_not_iff.1 filled))
  | leaf comparison => exact .leaf _

theorem binding_group_of_several (several : 2 ≤ children.length) :
    binding (.group connective children) = connective.binding := by
  match children, several with
  | _ :: _ :: _, _ => cases connective <;> rfl

theorem binding_formula (filled : condition.Filled) :
    condition.binding = condition.formula.binding := by
  induction condition with
  | group connective children ih =>
    obtain ⟨nonempty, each⟩ := filled_group_iff.1 filled
    rcases Formula.eq_singleton_or_several nonempty with ⟨child, rfl⟩ | several
    · exact ih child List.mem_cons_self (each child List.mem_cons_self)
    · rw [binding_group_of_several several, formula, formulas_eq_map,
        Formula.join_of_several (by simpa using several)]
      rfl
  | not child ih => rfl
  | leaf comparison => rfl

/-- Surroundings decide about the parentheses around a condition and nothing else. -/
theorem tokensWithin_eq_enclose (outer : Nat) (condition : Condition) :
    condition.tokensWithin outer = enclose (condition.binding < outer) condition.tokens := by
  cases condition with
  | group connective children => simp [tokens, tokensWithin, enclose]
  | not child => rfl
  | leaf comparison => rfl

theorem tokens_group (connective : Connective) (children : List Condition) :
    tokens (.group connective children) =
      tokensJoined (binding (.group connective children)) connective children := by
  simp [tokens, tokensWithin, enclose]

theorem tokens_group_single (connective : Connective) (child : Condition) :
    tokens (.group connective [child]) = child.tokens := by
  have binds : binding (.group connective [child]) = child.binding := rfl
  rw [tokens_group, binds]
  simp [tokensJoined, tokensWithin_eq_enclose, enclose]

theorem tokensJoined_formula
    (each : ∀ child ∈ children,
      child.tokensWithin connective.binding = child.formula.tokensWithin connective.binding)
    (normal : ∀ child ∈ children, child.formula.Normal) :
    tokensJoined connective.binding connective children =
      Formula.tokensJoined connective
        ((children.map formula).flatMap (Formula.operandsOf connective)) := by
  induction children with
  | nil => rfl
  | cons child rest ih =>
    obtain ⟨here, later⟩ := List.forall_mem_cons.1 each
    obtain ⟨normalHere, normalLater⟩ := List.forall_mem_cons.1 normal
    rw [tokensJoined, List.map_cons, List.flatMap_cons, here, ih later normalLater,
      ← Formula.tokensJoined_operandsOf]
    by_cases last : rest = []
    · subst last
      simp
    · have more : (rest.map formula).flatMap (Formula.operandsOf connective) ≠ [] := by
        obtain ⟨next, others, rfl⟩ := List.exists_cons_of_ne_nil last
        have some := ((normalLater next List.mem_cons_self).operandsOf connective).1
        simp [some]
      have some := (normalHere.operandsOf connective).1
      rw [Formula.tokensJoined_append some more]
      simp [last]

/-- The tokens of a condition are those of its formula. -/
theorem tokens_formula (filled : condition.Filled) :
    condition.tokens = condition.formula.tokens := by
  induction condition with
  | group connective children ih =>
    obtain ⟨nonempty, each⟩ := filled_group_iff.1 filled
    rcases Formula.eq_singleton_or_several nonempty with ⟨child, rfl⟩ | several
    · rw [tokens_group_single]
      exact ih child List.mem_cons_self (each child List.mem_cons_self)
    · rw [tokens_group, binding_group_of_several several, formula, formulas_eq_map,
        Formula.join_of_several (by simpa using several)]
      apply tokensJoined_formula
      · intro child mem
        have inner := each child mem
        rw [tokensWithin_eq_enclose, ih child mem inner, binding_formula inner]
        rfl
      · exact fun child mem => normal_formula (each child mem)
  | not child ih =>
    have inner := filled_not_iff.1 filled
    have same : tokens (.not child) = .not :: child.tokensWithin 3 := rfl
    rw [same, tokensWithin_eq_enclose, ih inner, binding_formula inner]
    rfl
  | leaf comparison => rfl

end Condition

end WorkflowRules
