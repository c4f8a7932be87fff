import Mathlib.Algebra.GroupWithZero.Nat
import WorkflowRules.Proofs.Condition.Reading

/-!
Expressions have no parentheses to spare. However a formula is written, it takes as many parentheses
as its own tokens have, since reading turns every operand that needs them into one that had them. So
where a pair is taken out of an expression, the rest can still be read but says something else.
-/
namespace WorkflowRules

open Condition (Token enclose)

namespace Formula

variable {connective : Connective} {formula : Formula} {formulas operands : List Formula}
  {tokens inside : List Token} {token : Token}

/-! ### Reading in parts -/

theorem reads_cons_iff {before after : Reader} : Reads (token :: tokens) before after ↔
    ∃ between, before.step token = some between ∧ Reads tokens between after := by
  rw [Reads, List.foldlM_cons]
  exact Option.bind_eq_some_iff

theorem reads_append_iff {more : List Token} {before after : Reader} :
    Reads (tokens ++ more) before after ↔
      ∃ between, Reads tokens before between ∧ Reads more between after := by
  rw [Reads, List.foldlM_append]
  exact Option.bind_eq_some_iff

theorem read_eq_some_iff : read tokens = some formula ↔ ∃ level,
    Reads tokens ⟨.operand, .empty, []⟩ ⟨.connective, level, []⟩ ∧ level.formula = formula := by
  unfold read
  constructor
  · intro reads
    split at reads
    · next level run => exact ⟨level, run, Option.some.inj reads⟩
    · cases reads
  · rintro ⟨level, run, same⟩
    rw [Reads] at run
    rw [run, ← same]

/-! ### The parentheses of a formula -/

def parens (formula : Formula) : Nat :=
  formula.tokens.count .openParen

/-- The parentheses of a formula within surroundings that bind by `outer`. -/
def parensWithin (outer : Nat) (formula : Formula) : Nat :=
  (formula.tokensWithin outer).count .openParen

theorem parensWithin_eq (outer : Nat) (formula : Formula) :
    formula.parensWithin outer = (if formula.binding < outer then 1 else 0) + formula.parens := by
  rw [parensWithin, tokensWithin, enclose, parens]
  by_cases looser : formula.binding < outer <;> simp [looser, Nat.add_comm]

theorem parensWithin_le (outer : Nat) (formula : Formula) :
    formula.parensWithin outer ≤ formula.parens + 1 := by
  rw [parensWithin_eq]
  split <;> omega

theorem parensWithin_mono {outer inner : Nat} (le : outer ≤ inner) (formula : Formula) :
    formula.parensWithin outer ≤ formula.parensWithin inner := by
  rw [parensWithin_eq, parensWithin_eq]
  split <;> split <;> omega

theorem parensWithin_one (formula : Formula) : formula.parensWithin 1 = formula.parens := by
  have tight : 1 ≤ formula.binding := by
    cases formula with
    | leaf | not => simp [binding]
    | group connective operands => cases connective <;> simp [binding, Connective.binding]
  rw [parensWithin_eq, if_neg (Nat.not_lt.2 tight), Nat.zero_add]

theorem parens_not (operand : Formula) : parens (.not operand) = operand.parensWithin 3 := by
  simp [parens, parensWithin, tokens, tokensWithin]

theorem parens_group (connective : Connective) (operands : List Formula) :
    parens (.group connective operands) =
      (operands.map (parensWithin connective.binding)).sum := by
  induction operands with
  | nil => rfl
  | cons operand rest ih =>
    rw [parens, tokens] at ih ⊢
    by_cases last : rest = []
    · subst last
      simp [tokensJoined_singleton, parensWithin]
    · rw [tokensJoined_cons last, List.count_append, List.count_cons, ih]
      simp [parensWithin]

theorem sum_operandsOf (connective : Connective) (formula : Formula) :
    ((operandsOf connective formula).map (parensWithin connective.binding)).sum =
      formula.parensWithin connective.binding := by
  rcases group_or_other connective formula with ⟨operands, rfl⟩ | other
  · have tight : ¬(group connective operands).binding < connective.binding := Nat.lt_irrefl _
    rw [operandsOf_group, ← parens_group, parensWithin_eq, if_neg tight, Nat.zero_add]
  · simp [operandsOf_of_other other]

theorem sum_flatMap_operandsOf (connective : Connective) (formulas : List Formula) :
    ((formulas.flatMap (operandsOf connective)).map (parensWithin connective.binding)).sum =
      (formulas.map (parensWithin connective.binding)).sum := by
  induction formulas with
  | nil => rfl
  | cons formula rest ih =>
    rw [List.flatMap_cons, List.map_append, List.sum_append, sum_operandsOf, ih, List.map_cons,
      List.sum_cons]

/-- Joining takes no more parentheses than the formulas take one by one. -/
theorem parens_join_le (connective : Connective) (formulas : List Formula) :
    (join connective formulas).parens ≤ (formulas.map (parensWithin connective.binding)).sum := by
  unfold join
  split
  · next formula =>
    rw [List.map_singleton, List.sum_singleton, parensWithin_eq]
    exact Nat.le_add_left _ _
  · exact Nat.le_of_eq (by rw [parens_group, sum_flatMap_operandsOf])

theorem parensWithin_negations (count : Nat) (formula : Formula) :
    (Formula.not^[count] formula).parensWithin 3 = formula.parensWithin 3 := by
  induction count with
  | zero => rfl
  | succ count ih =>
    rw [Function.iterate_succ_apply', parensWithin_eq, parens_not, ih]
    exact Nat.zero_add _

/-! ### The parentheses that were read -/

def Level.parens (level : Level) : Nat :=
  (level.alternatives.map Formula.parens).sum + (level.factors.map (parensWithin 2)).sum

/-- The parentheses that what has been read so far cannot do without, with those still open. -/
def Reader.parens (reader : Reader) : Nat :=
  reader.level.parens + ((reader.outer.map Level.parens).sum + reader.outer.length)

theorem Level.parens_formula_le (level : Level) : level.formula.parens ≤ level.parens := by
  have factors := parens_join_le .all level.factors
  have joined := parens_join_le .any (level.alternatives ++ [join .all level.factors])
  have each : parensWithin Connective.any.binding = Formula.parens := funext parensWithin_one
  rw [each, List.map_append, List.sum_append, List.map_singleton, List.sum_singleton] at joined
  exact Nat.le_trans joined (Nat.add_le_add_left factors _)

theorem Level.parens_alternate_le (level : Level) : level.alternate.parens ≤ level.parens := by
  have factors := parens_join_le .all level.factors
  simp only [alternate, parens, List.map_append, List.sum_append, List.map_singleton,
    List.sum_singleton, List.map_nil, List.sum_nil, Nat.add_zero]
  exact Nat.add_le_add_left factors _

theorem Level.parens_take_le (level : Level) (operand : Formula) :
    (level.take operand).parens ≤ level.parens + operand.parensWithin 3 := by
  have negated := parensWithin_mono (by decide : 2 ≤ 3) (Formula.not^[level.negations] operand)
  rw [parensWithin_negations] at negated
  simp only [take, parens, List.map_append, List.sum_append, List.map_singleton,
    List.sum_singleton]
  omega

/-- Only an opening parenthesis adds to the parentheses that were read. -/
theorem Reader.parens_step_le {reader next : Reader} (steps : reader.step token = some next) :
    next.parens ≤ reader.parens + [token].count .openParen := by
  obtain ⟨awaited, level, outer⟩ := reader
  cases awaited with
  | operand =>
    cases token with
    | leaf text =>
      cases steps
      have taken := level.parens_take_le (.leaf text)
      exact Nat.add_le_add_right taken _
    | not =>
      cases steps
      exact Nat.le_refl _
    | openParen =>
      cases steps
      simp [parens, Level.empty, Level.parens]
      omega
    | connective | closeParen => cases steps
  | connective =>
    cases token with
    | connective connective =>
      cases connective with
      | all =>
        cases steps
        exact Nat.le_refl _
      | any =>
        cases steps
        exact Nat.add_le_add_right level.parens_alternate_le _
    | closeParen =>
      cases outer with
      | nil => cases steps
      | cons around outer =>
        cases steps
        have inner := level.parens_formula_le
        have enclosed := parensWithin_le 3 level.formula
        have taken := around.parens_take_le level.formula
        simp only [parens, List.map_cons, List.sum_cons, List.length_cons]
        omega
    | leaf | not | openParen => cases steps

theorem Reads.parens_le {before after : Reader} (reads : Reads tokens before after) :
    after.parens ≤ before.parens + tokens.count .openParen := by
  induction tokens generalizing before with
  | nil =>
    cases reads
    exact Nat.le_refl _
  | cons token rest ih =>
    obtain ⟨between, first, later⟩ := reads_cons_iff.1 reads
    have here := Reader.parens_step_le first
    have there := ih later
    rw [← List.singleton_append, List.count_append]
    omega

/-- No tokens that are read as a formula have fewer parentheses than its own. -/
theorem parens_le_of_read (reads : read tokens = some formula) :
    formula.parens ≤ tokens.count .openParen := by
  obtain ⟨level, run, rfl⟩ := read_eq_some_iff.1 reads
  have total := Reads.parens_le run
  have own := level.parens_formula_le
  simp only [Reader.parens, Level.empty, Level.parens, List.map_nil, List.sum_nil,
    List.length_nil] at total own
  omega

/-! ### Taking a pair out -/

/-- Every parenthesis is closed, and none that was not opened. -/
inductive Balanced : List Token → Prop where
  | nil : Balanced []
  | cons {token : Token} {rest : List Token} (opens : token ≠ .openParen)
    (closes : token ≠ .closeParen) (balanced : Balanced rest) : Balanced (token :: rest)
  | enclosed {inside rest : List Token} (inner : Balanced inside) (outer : Balanced rest) :
    Balanced (.openParen :: inside ++ .closeParen :: rest)

/-- What can be read next does not depend on what was read before, but on what is awaited and on
how many parentheses are open. -/
def Alike (reader other : Reader) : Prop :=
  reader.awaited = other.awaited ∧ reader.outer.length = other.outer.length

theorem Alike.step {reader other next : Reader} (alike : Alike reader other)
    (steps : reader.step token = some next) :
    ∃ last, other.step token = some last ∧ Alike next last := by
  obtain ⟨awaited, level, outer⟩ := reader
  obtain ⟨same, level', outer'⟩ := other
  obtain ⟨rfl, length⟩ : awaited = same ∧ outer.length = outer'.length := alike
  cases awaited with
  | operand =>
    cases token with
    | leaf | not =>
      cases steps
      exact ⟨_, rfl, rfl, length⟩
    | openParen =>
      cases steps
      exact ⟨_, rfl, rfl, congrArg (· + 1) length⟩
    | connective | closeParen => cases steps
  | connective =>
    cases token with
    | connective connective =>
      cases connective <;>
      · cases steps
        exact ⟨_, rfl, rfl, length⟩
    | closeParen =>
      match outer, outer', length with
      | [], _, _ => cases steps
      | _ :: _, _ :: _, length =>
        cases steps
        exact ⟨_, rfl, rfl, Nat.succ.inj length⟩
    | leaf | not | openParen => cases steps

theorem Alike.reads {reader other next : Reader} (alike : Alike reader other)
    (reads : Reads tokens reader next) : ∃ last, Reads tokens other last ∧ Alike next last := by
  induction tokens generalizing reader other with
  | nil =>
    cases reads
    exact ⟨other, rfl, alike⟩
  | cons token rest ih =>
    obtain ⟨between, first, later⟩ := reads_cons_iff.1 reads
    obtain ⟨middle, otherFirst, between_alike⟩ := alike.step first
    obtain ⟨last, otherLater, last_alike⟩ := ih between_alike later
    exact ⟨last, .cons otherFirst otherLater, last_alike⟩

/-- Tokens that leave the levels around them alone, and are read within any others as well. -/
def Inner (tokens : List Token) (first next : Awaited) : Prop :=
  ∀ level outer, ∃ final, Reads tokens ⟨first, level, outer⟩ ⟨next, final, outer⟩

theorem exists_inner_of_step {awaited : Awaited} {level : Level} {outer : List Level}
    {next : Reader} (opens : token ≠ .openParen) (closes : token ≠ .closeParen)
    (steps : Reader.step ⟨awaited, level, outer⟩ token = some next) :
    next.outer = outer ∧ Inner [token] awaited next.awaited := by
  cases awaited with
  | operand =>
    cases token with
    | leaf | not =>
      cases steps
      exact ⟨rfl, fun _ _ => ⟨_, rfl⟩⟩
    | openParen => exact absurd rfl opens
    | connective | closeParen => cases steps
  | connective =>
    cases token with
    | connective connective =>
      cases connective <;>
      · cases steps
        exact ⟨rfl, fun _ _ => ⟨_, rfl⟩⟩
    | closeParen => exact absurd rfl closes
    | leaf | not | openParen => cases steps

theorem Inner.append {more : List Token} {first between last : Awaited}
    (here : Inner tokens first between) (later : Inner more between last) :
    Inner (tokens ++ more) first last := by
  intro level outer
  obtain ⟨middle, reads⟩ := here level outer
  obtain ⟨final, readsMore⟩ := later middle outer
  exact ⟨final, reads.append readsMore⟩

theorem Inner.parenthesized {last : Awaited} {more : List Token}
    (inner : Inner inside .operand .connective) (later : Inner more .connective last) :
    Inner (.openParen :: inside ++ .closeParen :: more) .operand last := by
  intro level outer
  obtain ⟨middle, reads⟩ := inner .empty (level :: outer)
  obtain ⟨final, readsMore⟩ := later (level.take middle.formula) outer
  exact ⟨final, .append (.cons rfl reads) (.cons rfl readsMore)⟩

-- An opening parenthesis stands where an operand is awaited, and a closing one behind an operand.
theorem reads_pair {awaited : Awaited} {level : Level} {outer : List Level} {more : List Token}
    {after : Reader}
    (reads : Reads (.openParen :: inside ++ .closeParen :: more) ⟨awaited, level, outer⟩ after)
    (returns : ∀ between, Reads inside ⟨.operand, .empty, level :: outer⟩ between →
      between.outer = level :: outer) :
    awaited = .operand ∧ ∃ final,
      Reads inside ⟨.operand, .empty, level :: outer⟩ ⟨.connective, final, level :: outer⟩ ∧
        Reads more ⟨.connective, level.take final.formula, outer⟩ after := by
  obtain ⟨between, first, later⟩ := reads_append_iff.1 reads
  obtain ⟨entered, opened, readsInside⟩ := reads_cons_iff.1 first
  obtain ⟨left, closed, readsMore⟩ := reads_cons_iff.1 later
  cases awaited with
  | connective => cases opened
  | operand =>
    cases opened
    obtain ⟨ends, final, around⟩ := between
    obtain rfl : around = level :: outer := returns _ readsInside
    cases ends with
    | operand => cases closed
    | connective =>
      cases closed
      exact ⟨rfl, final, readsInside, readsMore⟩

theorem Balanced.inner (balanced : Balanced tokens) {awaited : Awaited} {level : Level}
    {outer : List Level} {after : Reader} (reads : Reads tokens ⟨awaited, level, outer⟩ after) :
    after.outer = outer ∧ Inner tokens awaited after.awaited := by
  induction balanced generalizing awaited level outer after with
  | nil =>
    cases reads
    exact ⟨rfl, fun level _ => ⟨level, rfl⟩⟩
  | cons opens closes _ ih =>
    obtain ⟨⟨next, middle, around⟩, first, later⟩ := reads_cons_iff.1 reads
    obtain ⟨rfl, here⟩ := exists_inner_of_step opens closes first
    obtain ⟨same, there⟩ := ih later
    exact ⟨same, here.append there⟩
  | enclosed _ _ ihInside ihRest =>
    obtain ⟨rfl, final, readsInside, readsRest⟩ :=
      reads_pair reads fun _ readsInside => (ihInside readsInside).1
    obtain ⟨same, rest⟩ := ihRest readsRest
    exact ⟨same, (ihInside readsInside).2.parenthesized rest⟩

/-- What can be read can be read without any pair of its parentheses. -/
theorem exists_read_without_pair {before after : List Token} (balanced : Balanced inside)
    (reads : read (before ++ .openParen :: inside ++ .closeParen :: after) = some formula) :
    ∃ other, read (before ++ inside ++ after) = some other := by
  obtain ⟨level, run, _⟩ := read_eq_some_iff.1 reads
  rw [List.append_assoc] at run
  obtain ⟨⟨awaited, around, outer⟩, readsBefore, readsPair⟩ := reads_append_iff.1 run
  obtain ⟨rfl, final, readsInside, readsAfter⟩ :=
    reads_pair readsPair fun _ readsInside => (balanced.inner readsInside).1
  obtain ⟨joined, readsAlone⟩ := (balanced.inner readsInside).2 around outer
  have alike : Alike ⟨.connective, around.take final.formula, outer⟩
      ⟨.connective, joined, outer⟩ := ⟨rfl, rfl⟩
  obtain ⟨⟨ends, last, levels⟩, readsOn, rfl, closesAll⟩ := alike.reads readsAfter
  obtain rfl := List.length_eq_zero_iff.1 closesAll.symm
  exact ⟨_, read_eq_some_iff.2 ⟨last, (readsBefore.append readsAlone).append readsOn, rfl⟩⟩

end Formula

namespace Condition

/-- An expression has the fewest parentheses of all that say the same, and each pair matters:
without it the tokens are read as another formula. -/
theorem parentheses_are_needed (condition : Condition) (filled : condition.Filled) :
    (∀ tokens, Formula.read tokens = some condition.formula →
      condition.tokens.count .openParen ≤ tokens.count .openParen) ∧
    ∀ before inside after, Formula.Balanced inside →
      condition.tokens = before ++ .openParen :: inside ++ .closeParen :: after →
      ∃ other, Formula.read (before ++ inside ++ after) = some other ∧
        other ≠ condition.formula := by
  have fewest : ∀ tokens, Formula.read tokens = some condition.formula →
      condition.tokens.count .openParen ≤ tokens.count .openParen := by
    intro tokens reads
    rw [tokens_formula filled]
    exact Formula.parens_le_of_read reads
  refine ⟨fewest, fun before inside after balanced split => ?_⟩
  have reads : Formula.read condition.tokens = some condition.formula := by
    rw [tokens_formula filled]
    exact Formula.read_tokens (normal_formula filled)
  obtain ⟨other, readsOther⟩ := Formula.exists_read_without_pair balanced (split ▸ reads)
  refine ⟨other, readsOther, ?_⟩
  rintro rfl
  have most := fewest _ readsOther
  have unopened : (Token.closeParen :: after).count .openParen = after.count .openParen :=
    List.count_cons_of_ne (by decide)
  rw [split] at most
  simp only [List.count_append, List.count_cons_self, unopened] at most
  omega

/-- A group of OR in one of AND. -/
def alternatives : Condition :=
  .group .all [.group .any [freshLeaf, .leaf ⟨"owner", .exists, .null⟩], freshLeaf]

theorem balanced_alternatives : Formula.Balanced alternatives.tokens := by
  change Formula.Balanced (.openParen :: [.leaf _, .connective .any, .leaf _] ++
    .closeParen :: [.connective .all, .leaf _])
  exact .enclosed (.cons nofun nofun (.cons nofun nofun (.cons nofun nofun .nil)))
    (.cons nofun nofun (.cons nofun nofun .nil))

/-- Negated it stands in parentheses, and without them only the OR would be negated. -/
theorem negated_alternatives : (Condition.not alternatives).Filled ∧
    (Condition.not alternatives).tokens =
      [.not] ++ .openParen :: alternatives.tokens ++ .closeParen :: [] ∧
    ∃ other, Formula.read ([.not] ++ alternatives.tokens ++ []) = some other ∧
      other ≠ (Condition.not alternatives).formula := by
  have filled : (Condition.not alternatives).Filled := emptyGroups_eq_zero_iff.1 rfl
  have split : (Condition.not alternatives).tokens =
      [.not] ++ .openParen :: alternatives.tokens ++ .closeParen :: [] := rfl
  refine ⟨filled, split, ?_⟩
  exact (parentheses_are_needed _ filled).2 _ _ _ balanced_alternatives split

end Condition

end WorkflowRules
