import Mathlib.Tactic.SplitIfs
import WorkflowRules.Json.Printer
import WorkflowRules.Json.Reader.Quoted

/-!
Strings read back as they were printed: every character is read from what stands for it, and
none of them is taken for the closing quote.
-/
namespace WorkflowRules.Json.Reader

variable {ε : Type} [CoversFaults ε] {rest : List Char}

theorem hexUnit?_digits : ∀ n < 32,
    hexUnit? '0' '0' (Nat.digitChar (n / 16)) (Nat.digitChar (n % 16)) = some n := by
  decide

theorem unitEscape_control {c : Char} (control : c.toNat < 32) :
    unitEscape (ε := ε) ('0' :: '0' :: Nat.digitChar (c.toNat / 16) ::
      Nat.digitChar (c.toNat % 16) :: rest) = .ok (c, rest) := by
  have trailing : isTrailingSurrogate c.toNat = false := by
    simp [isTrailingSurrogate]
    omega
  have leading : isLeadingSurrogate c.toNat = false := by
    simp [isLeadingSurrogate]
    omega
  simp [unitEscape, hexUnit, hexUnit?_digits _ control, trailing, leading, bind, Except.bind]

theorem character_escapeChar (c : Char) (rest : List Char) :
    character (ε := ε) (escapeChar c ++ rest) = .ok (c, rest) := by
  unfold escapeChar
  split
  · next quote => subst quote; rfl
  split
  · next backslash => subst backslash; rfl
  split
  · next backspace => subst backspace; rfl
  split
  · next tab => subst tab; rfl
  split
  · next lineFeed => subst lineFeed; rfl
  split
  · next formFeed => subst formFeed; rfl
  split
  · next carriageReturn => subst carriageReturn; rfl
  split
  · next control => exact unitEscape_control control
  · next backslash _ _ _ _ _ plain => simp [character, backslash, plain]

theorem escapeChar_eq_cons (c : Char) :
    ∃ first others, escapeChar c = first :: others ∧ first ≠ '"' := by
  unfold escapeChar
  split_ifs with quote
  all_goals first
    | exact ⟨'\\', _, rfl, by decide⟩
    | exact ⟨c, [], rfl, quote⟩

theorem length_le_escaped (cs : List Char) : cs.length ≤ (cs.flatMap escapeChar).length := by
  induction cs with
  | nil => exact Nat.le_refl 0
  | cons c cs ih =>
    obtain ⟨first, others, written, _⟩ := escapeChar_eq_cons c
    rw [List.flatMap_cons, List.length_append, written, List.length_cons, List.length_cons]
    omega

theorem quotedWithin_escaped {cs bound : List Char} (fits : cs.length ≤ bound.length) :
    quotedWithin (ε := ε) bound (cs.flatMap escapeChar ++ '"' :: rest) = .ok (cs, rest) := by
  induction cs generalizing bound with
  | nil => rw [List.flatMap_nil, List.nil_append, quotedWithin]
  | cons c cs ih =>
    cases bound with
    | nil => cases fits
    | cons b bound =>
      have here := character_escapeChar (ε := ε) c (cs.flatMap escapeChar ++ '"' :: rest)
      have later := ih (Nat.le_of_succ_le_succ fits)
      obtain ⟨first, others, written, noQuote⟩ := escapeChar_eq_cons c
      rw [List.flatMap_cons, List.append_assoc]
      rw [written, List.cons_append] at here ⊢
      rw [quotedWithin]
      · simp only [here, later, bind, Except.bind]
      · rintro _ ⟨⟩
        exact noQuote rfl

theorem string_escaped (text : String) (rest : List Char) :
    string (ε := ε) (text.toList.flatMap escapeChar ++ '"' :: rest) = .ok (text, rest) := by
  have fits : text.toList.length ≤ (text.toList.flatMap escapeChar ++ '"' :: rest).length := by
    rw [List.length_append]
    exact Nat.le_add_right_of_le (length_le_escaped _)
  simp only [string, quoted, quotedWithin_escaped fits, bind, Except.bind, String.ofList_toList]

end WorkflowRules.Json.Reader
