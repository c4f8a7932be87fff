import Mathlib.Logic.Function.Iterate
import WorkflowRules.Proofs.Condition.Formula

/-!
Reading an expression back, with NOT binding more tightly than AND and AND more tightly than OR.
The tokens of a normal formula are read as that formula, and so those of a condition without empty
groups as the formula it stands for: no two such conditions have one expression and differ in what
they say.
-/
namespace WorkflowRules

open Condition (Token enclose)

namespace Formula

/-- What has been read between two parentheses: the operands of OR that are complete, the operands
of AND after the last OR, and how many NOT stand in front of the operand that comes next. -/
structure Level where
  alternatives : List Formula
  factors : List Formula
  negations : Nat

namespace Level

def empty : Level := ⟨[], [], 0⟩

def negate (level : Level) : Level :=
  { level with negations := level.negations + 1 }

/-- NOT negates the one operand that follows. -/
def take (level : Level) (operand : Formula) : Level :=
  ⟨level.alternatives, level.factors ++ [Formula.not^[level.negations] operand], 0⟩

/-- OR completes what AND has joined so far. -/
def alternate (level : Level) : Level :=
  ⟨level.alternatives ++ [join .all level.factors], [], 0⟩

def formula (level : Level) : Formula :=
  join .any (level.alternatives ++ [join .all level.factors])

end Level

inductive Awaited where
  | operand
  | connective

/-- The innermost level, with those around it whose parentheses are still open. -/
structure Reader where
  awaited : Awaited
  level : Level
  outer : List Level

def Reader.step : Reader → Token → Option Reader
  | ⟨.operand, level, outer⟩, .leaf text => some ⟨.connective, level.take (.leaf text), outer⟩
  | ⟨.operand, level, outer⟩, .not => some ⟨.operand, level.negate, outer⟩
  | ⟨.operand, level, outer⟩, .openParen => some ⟨.operand, .empty, level :: outer⟩
  | ⟨.connective, level, outer⟩, .connective .all => some ⟨.operand, level, outer⟩
  | ⟨.connective, level, outer⟩, .connective .any => some ⟨.operand, level.alternate, outer⟩
  | ⟨.connective, level, around :: outer⟩, .closeParen =>
    some ⟨.connective, around.take level.formula, outer⟩
  | _, _ => none

/-- The formula that tokens stand for, if they form an expression. -/
def read (tokens : List Token) : Option Formula :=
  match tokens.foldlM Reader.step ⟨.operand, .empty, []⟩ with
  | some ⟨.connective, level, []⟩ => some level.formula
  | _ => none

/-! ### Reading what is written -/

/-- Tokens take the reader from one state to another. -/
def Reads (tokens : List Token) (before after : Reader) : Prop :=
  tokens.foldlM Reader.step before = some after

variable {connective : Connective} {formula : Formula} {formulas operands : List Formula}
  {tokens more : List Token} {before between after : Reader} {level final : Level}
  {outer : List Level}

theorem Reads.append (first : Reads tokens before between) (next : Reads more between after) :
    Reads (tokens ++ more) before after := by
  rw [Reads, List.foldlM_append, first]
  exact next

theorem Reads.cons {token : Token} (first : before.step token = some between)
    (next : Reads more between after) : Reads (token :: more) before after := by
  rw [Reads, List.foldlM_cons, first]
  exact next

/-- What is read between parentheses is one operand of what is around them. -/
theorem Reads.parenthesized (inside : Reads tokens ⟨.operand, .empty, level :: outer⟩
      ⟨.connective, final, level :: outer⟩) :
    Reads (.openParen :: tokens ++ [.closeParen]) ⟨.operand, level, outer⟩
      ⟨.connective, level.take final.formula, outer⟩ :=
  .append (.cons rfl inside) rfl

/-- The ways in which a formula is read, by what stands around it. -/
structure Readable (formula : Formula) : Prop where
  operand : ∀ level outer, Reads (formula.tokensWithin 3) ⟨.operand, level, outer⟩
    ⟨.connective, level.take formula, outer⟩
  /-- At the start of what OR joins, a group of AND need not be one operand. -/
  alternative : formula.connective? ≠ some .any → ∀ alternatives outer,
    Reads formula.tokens ⟨.operand, ⟨alternatives, [], 0⟩, outer⟩
      ⟨.connective, ⟨alternatives, operandsOf .all formula, 0⟩, outer⟩
  whole : ∀ outer, ∃ final, Reads formula.tokens ⟨.operand, .empty, outer⟩
    ⟨.connective, final, outer⟩ ∧ final.formula = formula

theorem reads_conjunction {alternatives : List Formula} (nonempty : formulas ≠ [])
    (each : ∀ formula ∈ formulas, ∀ level outer,
      Reads (formula.tokensWithin 2) ⟨.operand, level, outer⟩
        ⟨.connective, level.take formula, outer⟩) (factors : List Formula) :
    Reads (tokensJoined .all formulas) ⟨.operand, ⟨alternatives, factors, 0⟩, outer⟩
      ⟨.connective, ⟨alternatives, factors ++ formulas, 0⟩, outer⟩ := by
  induction formulas generalizing factors with
  | nil => exact absurd rfl nonempty
  | cons formula rest ih =>
    obtain ⟨here, later⟩ := List.forall_mem_cons.1 each
    have first := here ⟨alternatives, factors, 0⟩ outer
    by_cases last : rest = []
    · subst last
      rw [tokensJoined_singleton]
      exact first
    · have others := ih last later (factors ++ [formula])
      rw [List.append_assoc] at others
      rw [tokensJoined_cons last]
      exact .append first (.cons rfl others)

theorem reads_disjunction (nonempty : formulas ≠ [])
    (each : ∀ formula ∈ formulas, ∀ alternatives outer,
      Reads (formula.tokensWithin 1) ⟨.operand, ⟨alternatives, [], 0⟩, outer⟩
        ⟨.connective, ⟨alternatives, operandsOf .all formula, 0⟩, outer⟩)
    (joined : ∀ formula ∈ formulas, join .all (operandsOf .all formula) = formula)
    (alternatives : List Formula) (outer : List Level) :
    ∃ final, Reads (tokensJoined .any formulas) ⟨.operand, ⟨alternatives, [], 0⟩, outer⟩
      ⟨.connective, final, outer⟩ ∧
        final.alternatives ++ [join .all final.factors] = alternatives ++ formulas := by
  induction formulas generalizing alternatives with
  | nil => exact absurd rfl nonempty
  | cons formula rest ih =>
    obtain ⟨here, later⟩ := List.forall_mem_cons.1 each
    obtain ⟨joinedHere, joinedLater⟩ := List.forall_mem_cons.1 joined
    have first := here alternatives outer
    by_cases last : rest = []
    · subst last
      rw [tokensJoined_singleton]
      exact ⟨_, first, by rw [joinedHere]⟩
    · obtain ⟨final, others, same⟩ := ih last later joinedLater (alternatives ++ [formula])
      rw [List.append_assoc] at same
      rw [tokensJoined_cons last]
      rw [← joinedHere] at others
      exact ⟨final, .append first (.cons rfl others), same⟩

theorem tokensWithin_two (other : formula.connective? ≠ some .all) :
    formula.tokensWithin 2 = formula.tokensWithin 3 := by
  cases formula with
  | leaf | not => rfl
  | group connective operands =>
    cases connective with
    | all => exact absurd rfl other
    | any => rfl

theorem tokensWithin_one (other : formula.connective? ≠ some .any) :
    formula.tokensWithin 1 = formula.tokens := by
  cases formula with
  | leaf | not => rfl
  | group connective operands =>
    cases connective with
    | all => rfl
    | any => exact absurd rfl other

-- The parentheses start a level of their own, on which the group is read as a whole.
theorem operand_of_whole
    (whole : ∀ outer, ∃ final, Reads (tokensJoined connective operands) ⟨.operand, .empty, outer⟩
      ⟨.connective, final, outer⟩ ∧ final.formula = .group connective operands)
    (level : Level) (outer : List Level) :
    Reads ((Formula.group connective operands).tokensWithin 3) ⟨.operand, level, outer⟩
      ⟨.connective, level.take (.group connective operands), outer⟩ := by
  obtain ⟨final, reads, same⟩ := whole (level :: outer)
  have enclosed : (Formula.group connective operands).tokensWithin 3 =
      .openParen :: tokensJoined connective operands ++ [.closeParen] := by
    cases connective <;> rfl
  rw [enclosed, ← same]
  exact reads.parenthesized

theorem readable_conjunction (several : 2 ≤ operands.length)
    (others : ∀ operand ∈ operands, operand.connective? ≠ some .all)
    (each : ∀ operand ∈ operands, Readable operand) : Readable (.group .all operands) := by
  have reads (alternatives outer) :
      Reads (tokensJoined .all operands) ⟨.operand, ⟨alternatives, [], 0⟩, outer⟩
        ⟨.connective, ⟨alternatives, operands, 0⟩, outer⟩ := by
    refine reads_conjunction (List.ne_nil_of_length_pos (by omega)) (fun operand mem => ?_) []
    rw [tokensWithin_two (others operand mem)]
    exact (each operand mem).operand
  have whole (outer) : ∃ final, Reads (tokensJoined .all operands) ⟨.operand, .empty, outer⟩
      ⟨.connective, final, outer⟩ ∧ final.formula = .group .all operands :=
    ⟨_, reads [] outer, join_of_others several others⟩
  constructor
  case operand => exact operand_of_whole whole
  case alternative =>
    intro _ alternatives outer
    rw [operandsOf_group]
    exact reads alternatives outer
  case whole => exact whole

theorem readable_disjunction (several : 2 ≤ operands.length)
    (normal : ∀ operand ∈ operands, Normal operand)
    (others : ∀ operand ∈ operands, operand.connective? ≠ some .any)
    (each : ∀ operand ∈ operands, Readable operand) : Readable (.group .any operands) := by
  have whole (outer) : ∃ final, Reads (tokensJoined .any operands) ⟨.operand, .empty, outer⟩
      ⟨.connective, final, outer⟩ ∧ final.formula = .group .any operands := by
    have parts : ∀ operand ∈ operands, ∀ alternatives outer,
        Reads (operand.tokensWithin 1) ⟨.operand, ⟨alternatives, [], 0⟩, outer⟩
          ⟨.connective, ⟨alternatives, operandsOf .all operand, 0⟩, outer⟩ := by
      intro operand mem
      rw [tokensWithin_one (others operand mem)]
      exact (each operand mem).alternative (others operand mem)
    obtain ⟨final, reads, same⟩ := reads_disjunction (List.ne_nil_of_length_pos (by omega)) parts
      (fun operand mem => (normal operand mem).join_operandsOf .all) [] outer
    refine ⟨final, reads, ?_⟩
    rw [Level.formula, same]
    exact join_of_others several others
  constructor
  case operand => exact operand_of_whole whole
  case alternative => exact fun other => absurd rfl other
  case whole => exact whole

theorem readable_of_normal (normal : Normal formula) : Readable formula := by
  induction normal with
  | leaf text => exact ⟨fun _ _ => rfl, fun _ _ _ => rfl, fun _ => ⟨_, rfl, rfl⟩⟩
  | @not operand normal ih =>
    have reads (level outer) : Reads (Formula.not operand).tokens ⟨.operand, level, outer⟩
        ⟨.connective, level.take (.not operand), outer⟩ :=
      .cons rfl (ih.operand level.negate outer)
    exact ⟨reads, fun _ _ _ => reads _ _, fun _ => ⟨_, reads _ _, rfl⟩⟩
  | @group connective operands several normal others ih =>
    cases connective with
    | all => exact readable_conjunction several others ih
    | any => exact readable_disjunction several normal others ih

/-- A normal formula is read from its own tokens. -/
theorem read_tokens (normal : Normal formula) : read formula.tokens = some formula := by
  obtain ⟨final, reads, same⟩ := (readable_of_normal normal).whole []
  rw [Reads] at reads
  rw [read, reads, ← same]

end Formula

namespace Condition

/-- An expression is read as the formula of its condition, whose meaning it tells exactly: two
conditions have the same tokens if and only if they stand for the same formula. -/
theorem tokens_determine_formula :
    (∀ condition : Condition, condition.Filled →
      Formula.read condition.tokens = some condition.formula) ∧
    ∀ condition other : Condition, condition.Filled → other.Filled →
      (condition.tokens = other.tokens ↔ condition.formula = other.formula) := by
  have reads : ∀ condition : Condition, condition.Filled →
      Formula.read condition.tokens = some condition.formula := by
    intro condition filled
    rw [tokens_formula filled]
    exact Formula.read_tokens (normal_formula filled)
  refine ⟨reads, fun condition other filled otherFilled => ?_⟩
  constructor
  · intro same
    have read := reads condition filled
    rw [same, reads other otherFilled] at read
    exact (Option.some.inj read).symm
  · intro same
    rw [tokens_formula filled, tokens_formula otherFilled, same]

/-- Groups of one child, and a group in one of the same connective. -/
def wrapped : Condition :=
  .group .any [.group .all [.group .any [freshLeaf, .leaf ⟨"owner", .exists, .null⟩]],
    .not (.group .any [.not freshLeaf])]

/-- The same without them. -/
def unwrapped : Condition :=
  .group .any [freshLeaf, .leaf ⟨"owner", .exists, .null⟩, .not (.not freshLeaf)]

/-- The same leaves, with the outer negation over two of them. -/
def otherScope : Condition :=
  .group .any [freshLeaf, .not (.group .any [.leaf ⟨"owner", .exists, .null⟩, .not freshLeaf])]

theorem wrapped_is_unwrapped :
    Formula.read wrapped.tokens = some unwrapped.formula ∧ wrapped.tokens = unwrapped.tokens ∧
      wrapped.tokens ≠ otherScope.tokens := by
  obtain ⟨reads, exactly⟩ := tokens_determine_formula
  have filled : wrapped.Filled := emptyGroups_eq_zero_iff.1 rfl
  have same : wrapped.formula = unwrapped.formula := rfl
  have differs : wrapped.formula ≠ otherScope.formula := nofun
  refine ⟨same ▸ reads wrapped filled, ?_, ?_⟩
  · exact (exactly wrapped unwrapped filled (emptyGroups_eq_zero_iff.1 rfl)).2 same
  · exact mt (exactly wrapped otherScope filled (emptyGroups_eq_zero_iff.1 rfl)).1 differs

end Condition

end WorkflowRules
