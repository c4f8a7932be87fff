import Mathlib.Data.List.Basic
import WorkflowRules.Text.Case

/-!
Lowering a part of a text. Every character is lowered alike wherever it stands, but for the capital
sigma, whose small form tells whether it ends a word. So a part of a text, lowered by itself, stands
in the lowered text, unless one of its sigmas ends a word in the part only or in the text only.
-/
namespace WorkflowRules.Text

/-- Whether a sigma ends a word here. `before` holds what precedes, nearest character first. -/
def endsWord (before after : List Char) : Bool :=
  meetsCased before && !meetsCased after

/-- The small form of a sigma that ends a word, or does not. -/
def smallSigma (ends : Bool) : Char :=
  if ends then 'ς' else 'σ'

theorem smallSigma_injective : Function.Injective smallSigma := by
  unfold Function.Injective
  decide

/-- What becomes of a part of a text when the text is lowered. -/
def lowerWithin (before part after : List Char) : List Char :=
  match part with
  | [] => []
  | c :: rest =>
    (if c = 'Σ' then [smallSigma (endsWord before (rest ++ after))] else lowerChar c) ++
      lowerWithin (c :: before) rest after

variable {before after other otherAfter part front back : List Char}

theorem lowerFrom_append (before part after : List Char) : lowerFrom before (part ++ after) =
    lowerWithin before part after ++ lowerFrom (part.reverse ++ before) after := by
  induction part generalizing before with
  | nil => rfl
  | cons c rest ih =>
    rw [List.cons_append, lowerFrom, lowerWithin, ih, List.append_assoc, List.reverse_cons,
      List.append_assoc]
    rfl

theorem lowerFrom_eq_lowerWithin (before part : List Char) :
    lowerFrom before part = lowerWithin before part [] := by
  have whole := lowerFrom_append before part []
  rwa [List.append_nil, lowerFrom, List.append_nil] at whole

theorem length_lowerWithin (before after other otherAfter part : List Char) :
    (lowerWithin before part after).length = (lowerWithin other part otherAfter).length := by
  induction part generalizing before other with
  | nil => rfl
  | cons c rest ih =>
    rw [lowerWithin, lowerWithin, List.length_append, List.length_append,
      ih (c :: before) (c :: other)]
    split <;> rfl

/-- A character in a list stands first or further on. -/
theorem forall_split_cons {α : Type} {item first : α} {rest : List α}
    {holds : List α → List α → Prop} :
    (∀ left right, first :: rest = left ++ item :: right → holds left right) ↔
      (first = item → holds [] rest) ∧
        ∀ left right, rest = left ++ item :: right → holds (first :: left) right := by
  constructor
  · intro each
    constructor
    · rintro rfl
      exact each [] rest rfl
    · rintro left right rfl
      exact each (first :: left) right rfl
  · rintro ⟨here, later⟩ left right split
    cases left with
    | nil =>
      cases split
      exact here rfl
    | cons next left =>
      cases split
      exact later left right rfl

-- Sigmas aside, a character gives the same in both, and the rest of the part decides.
theorem lowerWithin_eq_iff : lowerWithin before part after = lowerWithin other part otherAfter ↔
    ∀ left right, part = left ++ 'Σ' :: right →
      endsWord (left.reverse ++ before) (right ++ after) =
        endsWord (left.reverse ++ other) (right ++ otherAfter) := by
  induction part generalizing before other with
  | nil => simp [lowerWithin]
  | cons c rest ih =>
    rw [forall_split_cons, lowerWithin, lowerWithin]
    simp only [List.reverse_cons, List.append_assoc, List.singleton_append]
    rw [← ih]
    by_cases sigma : c = 'Σ'
    · simp [sigma, smallSigma_injective.eq_iff]
    · simp [sigma]

/-- Whether case passes over the character, as it does over a point. -/
def passesOver (c : Char) : Bool :=
  caseIgnorableBoundaries.cover c.toNat

theorem meetsCased_cons (c : Char) (rest : List Char) : meetsCased (c :: rest) =
    if passesOver c then meetsCased rest else casedBoundaries.cover c.toNat := by
  rw [meetsCased, List.find?_cons, passesOver]
  cases caseIgnorableBoundaries.cover c.toNat <;> rfl

/-- What is nearer decides, unless case passes over all of it. -/
theorem meetsCased_append (near far : List Char) : meetsCased (near ++ far) =
    if near.all passesOver then meetsCased far else meetsCased near := by
  induction near with
  | nil => rfl
  | cons c rest ih =>
    rw [List.cons_append, meetsCased_cons, meetsCased_cons, ih, List.all_cons]
    cases passesOver c <;> rfl

theorem meetsCased_of_all (all : part.all passesOver) : meetsCased part = false := by
  have whole := meetsCased_append part []
  rwa [List.append_nil, if_pos all] at whole

-- What is far matters only where nothing near does, so one side at most is in question.
theorem endsWord_append_ne_iff (before after far farther : List Char) :
    endsWord (before ++ far) (after ++ farther) ≠ endsWord before after ↔
      before.all passesOver ∧ meetsCased far ∧ meetsCased (after ++ farther) = false ∨
        after.all passesOver ∧ meetsCased before ∧ meetsCased farther := by
  rw [endsWord, endsWord, meetsCased_append before]
  by_cases first : before.all passesOver
  · rw [if_pos first, meetsCased_of_all first]
    simp [first]
  · rw [if_neg first, meetsCased_append after]
    by_cases last : after.all passesOver
    · rw [if_pos last, meetsCased_of_all last]
      simp [first, last]
    · rw [if_neg last]
      simp [first, last]

/-- A sigma of the part ends a word in the part by itself or in the text around it, but not in
both. -/
inductive Recast (front part back : List Char) : Prop where
  /-- The part begins with it, in the middle of a word that ends with it. -/
  | begins {left right : List Char} (split : part = left ++ 'Σ' :: right)
    (first : left.all passesOver) (inside : meetsCased front.reverse)
    (ends : meetsCased (right ++ back) = false)
  /-- The part ends a word with it, and in the text the word goes on. -/
  | ends {left right : List Char} (split : part = left ++ 'Σ' :: right)
    (last : right.all passesOver) (inside : meetsCased left.reverse) (goesOn : meetsCased back)

theorem not_recast_of_not_mem (plain : 'Σ' ∉ part) : ¬Recast front part back := by
  rintro (⟨rfl, _, _, _⟩ | ⟨rfl, _, _, _⟩) <;> simp at plain

theorem recast_iff : Recast front part back ↔ ∃ left right, part = left ++ 'Σ' :: right ∧
    endsWord (left.reverse ++ front.reverse) (right ++ back) ≠ endsWord left.reverse right := by
  simp only [endsWord_append_ne_iff, List.all_reverse]
  constructor
  · intro recast
    cases recast with
    | begins split first inside ends => exact ⟨_, _, split, .inl ⟨first, inside, ends⟩⟩
    | ends split last inside goesOn => exact ⟨_, _, split, .inr ⟨last, inside, goesOn⟩⟩
  · rintro ⟨left, right, split, ⟨first, inside, ends⟩ | ⟨last, inside, goesOn⟩⟩
    · exact .begins split first inside ends
    · exact .ends split last inside goesOn

/-- A part is lowered in a text as it is by itself, unless a sigma is recast. -/
theorem lowerWithin_eq_lowerChars_iff :
    lowerWithin front.reverse part back = lowerChars part ↔ ¬Recast front part back := by
  rw [lowerChars, lowerFrom_eq_lowerWithin, lowerWithin_eq_iff, recast_iff]
  simp

-- The sigma ends the word, until a letter follows.
example : lowerChars "ΘΕΣ".toList = "θες".toList ∧
    lowerWithin [] "ΘΕΣ".toList "Η".toList = "θεσ".toList := by
  decide +kernel

/-- A list of the length of the middle stands in the whole as the middle or at another place. -/
theorem infix_iff_of_length {α : Type} {front middle back part : List α}
    (length : middle.length = part.length) :
    part <:+: front ++ (middle ++ back) ↔ middle = part ∨
      ∃ before after, front ++ (middle ++ back) = before ++ (part ++ after) ∧
        before.length ≠ front.length := by
  constructor
  · rintro ⟨before, after, split⟩
    rw [List.append_assoc] at split
    by_cases place : before.length = front.length
    · left
      have rest := (List.append_inj split place).2
      exact (List.append_inj rest length.symm).1.symm
    · exact .inr ⟨before, after, split.symm, place⟩
  · rintro (rfl | ⟨before, after, split, _⟩)
    · exact ⟨front, back, List.append_assoc ..⟩
    · exact ⟨before, after, (List.append_assoc ..).trans split.symm⟩

theorem lowerChars_append (front part back : List Char) : lowerChars (front ++ (part ++ back)) =
    lowerWithin [] front (part ++ back) ++
      (lowerWithin front.reverse part back ++ lowerFrom (part.reverse ++ front.reverse) back) := by
  rw [lowerChars, lowerFrom_append, lowerFrom_append, List.append_nil]

/-- A part of a text is found in it when both are lowered, unless a sigma is recast and nothing
else in the text looks like the part. -/
theorem lowerChars_infix_iff (front part back : List Char) :
    lowerChars part <:+: lowerChars (front ++ (part ++ back)) ↔ ¬Recast front part back ∨
      ∃ before after, lowerChars (front ++ (part ++ back)) = before ++ (lowerChars part ++ after) ∧
        before.length ≠ (lowerChars front).length := by
  have partLength : (lowerWithin front.reverse part back).length = (lowerChars part).length := by
    rw [lowerChars, lowerFrom_eq_lowerWithin]
    exact length_lowerWithin ..
  have frontLength : (lowerWithin [] front (part ++ back)).length = (lowerChars front).length := by
    rw [lowerChars, lowerFrom_eq_lowerWithin]
    exact length_lowerWithin ..
  rw [lowerChars_append, infix_iff_of_length partLength, lowerWithin_eq_lowerChars_iff, frontLength]

end WorkflowRules.Text
