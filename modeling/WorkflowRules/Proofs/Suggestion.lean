import WorkflowRules.Proofs.Text.Case
import WorkflowRules.Suggestion

/-!
What is suggested while a path is being typed. The input and the path are lowered apart from each
other, so that a part of the path is found in it unless a sigma of the input is given one small form
by itself and the other in the path.
-/
namespace WorkflowRules.Suggester

theorem occursIn_iff {needle cs : List Char} : occursIn needle cs = true ↔ needle <:+: cs := by
  induction cs with
  | nil => rw [occursIn, List.isEmpty_iff, List.infix_nil]
  | cons c rest ih =>
    rw [occursIn, Bool.or_eq_true, List.isPrefixOf_iff_prefix, ih, List.infix_cons_iff]

variable {suggester : Suggester} {entity : Entity} {input candidate : String}

theorem suggest_of_room (room : (suggester.candidates entity).length ≤ suggester.limit.toNat) :
    suggester.suggest entity input = suggester.allMatches entity input := by
  apply List.take_of_length_le
  exact Nat.le_trans (List.length_filter_le _ _) room

theorem mem_allMatches_iff : candidate ∈ suggester.allMatches entity input ↔
    candidate ∈ suggester.candidates entity ∧
      Text.lowerChars (Text.trimChars input.toList) <:+: Text.lowerChars candidate.toList := by
  rw [allMatches, List.mem_filter, isMatch, occursIn_iff]

/-- The lowered input stands in the lowered candidate at a place other than behind this front. -/
def FoundElsewhere (front : List Char) (input candidate : String) : Prop :=
  ∃ before after, Text.lowerChars candidate.toList =
      before ++ (Text.lowerChars (Text.trimChars input.toList) ++ after) ∧
    before.length ≠ (Text.lowerChars front).length

/-- With room for all, a candidate is suggested while a part of it is typed, as it stands there,
unless a sigma is recast and nothing else in the candidate looks like the input. Without a capital
sigma it always is. -/
theorem suggested_while_typed {front back : List Char}
    (offered : candidate ∈ suggester.candidates entity)
    (typed : candidate.toList = front ++ (Text.trimChars input.toList ++ back))
    (room : (suggester.candidates entity).length ≤ suggester.limit.toNat) :
    (candidate ∈ suggester.suggest entity input ↔
      ¬Text.Recast front (Text.trimChars input.toList) back ∨
        FoundElsewhere front input candidate) ∧
    ('Σ' ∉ Text.trimChars input.toList → candidate ∈ suggester.suggest entity input) := by
  have exactly : candidate ∈ suggester.suggest entity input ↔
      ¬Text.Recast front (Text.trimChars input.toList) back ∨
        FoundElsewhere front input candidate := by
    rw [suggest_of_room room, mem_allMatches_iff, and_iff_right offered, FoundElsewhere, typed]
    exact Text.lowerChars_infix_iff ..
  apply And.intro exactly
  intro plain
  exact exactly.2 (.inl (Text.not_recast_of_not_mem plain))

/-- Accounts with a custom field, whose key has a sigma in the middle, and room for ten. -/
def greekSuggester : Suggester :=
  (new { Limits.standard with suggestionLimit := 10 }).setCustomKeys .account ["ΘΕΣΗ"]

theorem two_letters_suggest :
    "custom_fields.ΘΕΣΗ" ∈ greekSuggester.suggest .account " ΘΕ" := by
  have offered : "custom_fields.ΘΕΣΗ" ∈ greekSuggester.candidates .account := by decide
  have typed : "custom_fields.ΘΕΣΗ".toList =
      "custom_fields.".toList ++ (Text.trimChars " ΘΕ".toList ++ "ΣΗ".toList) := by decide
  have room : (greekSuggester.candidates .account).length ≤ greekSuggester.limit.toNat := by decide
  exact (suggested_while_typed offered typed room).2 (by decide)

/-- With the third letter typed the sigma ends the input, though not the key. -/
theorem third_letter_loses :
    "custom_fields.ΘΕΣΗ" ∈ greekSuggester.candidates .account ∧
    "custom_fields.ΘΕΣΗ".toList =
      "custom_fields.".toList ++ (Text.trimChars "ΘΕΣ".toList ++ "Η".toList) ∧
    (greekSuggester.candidates .account).length ≤ greekSuggester.limit.toNat ∧
    "custom_fields.ΘΕΣΗ" ∉ greekSuggester.suggest .account "ΘΕΣ" := by
  have lost : isMatch "ΘΕΣ" "custom_fields.ΘΕΣΗ" = false := by decide +kernel
  refine ⟨by decide, by decide, by decide, ?_⟩
  intro suggested
  have found := (List.mem_filter.1 (List.mem_of_mem_take suggested)).2
  cases lost.symm.trans found

end WorkflowRules.Suggester
