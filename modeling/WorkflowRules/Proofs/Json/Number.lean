import WorkflowRules.Json.Reader.Number
import WorkflowRules.Proofs.Number.Reading

/-!
Reading a number that was printed, if what follows it does not continue it. Its characters are read
as the literal that was printed, and then it depends on the number whether it is the same again.
-/
namespace WorkflowRules.Json.Reader

open Number (Stands Whole)

variable {ε : Type} [CoversFaults ε] {negative : Bool} {rest : List Char}

def continuesNumber (c : Char) : Bool :=
  c.isDigit || c = '.' || c = 'e' || c = 'E'

/-- What comes next does not belong to a number any more. -/
def EndsNumber (rest : List Char) : Prop :=
  ∀ c ∈ rest.head?, continuesNumber c = false

/-- What comes next is no digit. -/
def EndsDigits (rest : List Char) : Prop :=
  ∀ c ∈ rest.head?, c.isDigit = false

theorem EndsNumber.endsDigits (ends : EndsNumber rest) : EndsDigits rest := by
  intro c mem
  have stops := ends c mem
  simp only [continuesNumber, Bool.or_eq_false_iff] at stops
  exact stops.1.1.1

theorem EndsNumber.ne {c : Char} (ends : EndsNumber (c :: rest)) : c ≠ '.' ∧ c ≠ 'e' ∧ c ≠ 'E' := by
  have stops := ends c rfl
  simp only [continuesNumber, Bool.or_eq_false_iff, decide_eq_false_iff_not] at stops
  exact ⟨stops.1.1.2, stops.1.2, stops.2⟩

theorem digits_append {ds : List Char} (isDigit : ∀ c ∈ ds, c.isDigit = true)
    (ends : EndsDigits rest) : digits (ds ++ rest) = (ds, rest) := by
  rw [digits, List.takeWhile_append_of_pos isDigit, List.dropWhile_append_of_pos isDigit]
  cases rest with
  | nil => simp
  | cons c rest =>
    have stops := ends c rfl
    simp [stops]

theorem wholePart_append {whole : List Char} (fits : Whole whole) (ends : EndsDigits rest) :
    wholePart (ε := ε) negative (whole ++ rest) = fractionPart negative whole rest := by
  obtain ⟨isDigit, nonempty, leading⟩ := fits
  cases whole with
  | nil => exact absurd rfl nonempty
  | cons c others =>
    have here := isDigit c List.mem_cons_self
    rw [List.cons_append, wholePart]
    by_cases zero : c = '0'
    · obtain rfl : others = [] := by simpa [zero] using leading
      have single : rest.head?.any Char.isDigit = false := by
        cases rest with
        | nil => rfl
        | cons next rest => exact ends next rfl
      simp [zero, single]
    · rw [if_neg zero, if_pos here, ← List.cons_append, digits_append isDigit ends]

theorem fractionPart_of_ends {whole : List Char} (ends : EndsNumber rest) :
    fractionPart (ε := ε) negative whole rest =
      .ok (.integer negative whole, rest) := by
  cases rest with
  | nil => rfl
  | cons c rest =>
    obtain ⟨noPoint, noLetter, noCapital⟩ := ends.ne
    unfold fractionPart
    split
    · next same => exact absurd (List.cons.inj same).1 noPoint
    · next same => exact absurd (List.cons.inj same).1 noLetter
    · next same => exact absurd (List.cons.inj same).1 noCapital
    · rfl

theorem fractionPart_point {whole fraction : List Char}
    (isDigit : ∀ c ∈ fraction, c.isDigit = true) (nonempty : fraction ≠ [])
    (ends : EndsNumber rest) :
    fractionPart (ε := ε) negative whole ('.' :: (fraction ++ rest)) =
      .ok (.decimal negative ⟨whole, fraction, 0⟩, rest) := by
  have some : fraction.isEmpty = false := by simpa using nonempty
  simp only [fractionPart, digits_append isDigit ends.endsDigits, some]
  cases rest with
  | nil => rfl
  | cons c rest =>
    obtain ⟨_, noLetter, noCapital⟩ := ends.ne
    simp only [Bool.false_eq_true, if_false]
    split
    · next same => exact absurd (List.cons.inj same).1 noLetter
    · next same => exact absurd (List.cons.inj same).1 noCapital
    · rfl

theorem fractionPart_exponent {whole fraction s : List Char}
    (isDigit : ∀ c ∈ fraction, c.isDigit = true) :
    fractionPart (ε := ε) negative whole
        ((if fraction.isEmpty then [] else '.' :: fraction) ++ 'e' :: s) =
      exponentPart negative whole fraction s := by
  by_cases nonempty : fraction = []
  · subst nonempty
    simp [fractionPart]
  · have some : fraction.isEmpty = false := by simpa using nonempty
    have ends : EndsDigits ('e' :: s) := by
      rintro c ⟨⟩
      rfl
    simp only [some, Bool.false_eq_true, if_false, List.cons_append, fractionPart,
      digits_append isDigit ends]

-- Every digit makes the exponent larger, so the limit is passed at the end if at all.
theorem beyondLimit_append {ds : List Char} (isDigit : ∀ c ∈ ds, c.isDigit = true)
    (ends : EndsDigits rest) (exponent : Nat)
    (small : Nat.ofDigitChars 10 ds exponent ≤ exponentLimit) :
    beyondLimit exponent (ds ++ rest) = none := by
  induction ds generalizing exponent with
  | nil =>
    cases rest with
    | nil => rfl
    | cons c rest =>
      have stops := ends c rfl
      simp [beyondLimit, stops]
  | cons c ds ih =>
    obtain ⟨here, later⟩ := List.forall_mem_cons.1 isDigit
    rw [Nat.ofDigitChars_cons] at small
    have grows : 10 * exponent + (c.toNat - '0'.toNat) ≤ exponentLimit := by
      refine Nat.le_trans ?_ small
      rw [Nat.ofDigitChars_eq_ofDigitChars_zero]
      have more := Nat.le_mul_of_pos_left (10 * exponent + (c.toNat - '0'.toNat))
        (Nat.pow_pos (n := ds.length) (by decide : 0 < 10))
      omega
    have step : exponent * 10 + (c.toNat - 48) = 10 * exponent + (c.toNat - '0'.toNat) := by
      rw [Nat.mul_comm]
      rfl
    rw [List.cons_append, beyondLimit, if_pos here, step, if_neg (Nat.not_lt.2 grows)]
    exact ih later _ small

theorem exponentPart_signed {whole fraction : List Char} {exponent : Int}
    (small : exponent.natAbs ≤ exponentLimit) (ends : EndsDigits rest) :
    exponentPart (ε := ε) negative whole fraction
        ((if exponent < 0 then '-' else '+') :: (Nat.toDigits 10 exponent.natAbs ++ rest)) =
      .ok (.decimal negative ⟨whole, fraction, exponent⟩, rest) := by
  have isDigit : ∀ c ∈ Nat.toDigits 10 exponent.natAbs, c.isDigit = true := fun c mem =>
    Nat.isDigit_of_mem_toDigits (by decide) (by decide) mem
  have written : digitsValue (Nat.toDigits 10 exponent.natAbs) = exponent.natAbs :=
    Nat.ofDigitChars_ten_toDigits
  have within := beyondLimit_append isDigit ends 0 (Nat.le_trans (Nat.le_of_eq written) small)
  have scanned := digits_append isDigit ends
  cases shown : Nat.toDigits 10 exponent.natAbs with
  | nil => exact absurd shown Nat.toDigits_ne_nil
  | cons c ds =>
    rw [shown] at isDigit written within scanned
    have here := isDigit c List.mem_cons_self
    rw [List.cons_append] at within scanned ⊢
    by_cases down : exponent < 0
    · have size : (exponent.natAbs : Int) = -exponent := by omega
      simp [exponentPart, down, here, scanned, written, size]
    · have size : (exponent.natAbs : Int) = exponent := by omega
      simp [exponentPart, down, here, scanned, written, within, size]

/-! ### Numbers -/

theorem wholePart_numeralChars {numeral : Numeral} {magnitude : Nat}
    (stands : Stands numeral magnitude) (ends : EndsNumber rest) :
    wholePart (ε := ε) negative (Number.numeralChars numeral ++ rest) =
      .ok (.decimal negative numeral, rest) := by
  obtain ⟨whole, fraction, exponent⟩ := numeral
  obtain ⟨fits, _, isDigit, shown, near, _⟩ := stands
  by_cases none : exponent = 0
  · subst none
    have nonempty : fraction ≠ [] := fun empty => shown empty rfl
    have layout : Number.numeralChars ⟨whole, fraction, 0⟩ ++ rest =
        whole ++ '.' :: (fraction ++ rest) := by
      simp [Number.numeralChars, nonempty]
    have stops : EndsDigits ('.' :: (fraction ++ rest)) := by
      rintro c ⟨⟩
      rfl
    rw [layout, wholePart_append fits stops, fractionPart_point isDigit nonempty ends]
  · have layout : Number.numeralChars ⟨whole, fraction, exponent⟩ ++ rest =
        whole ++ ((if fraction.isEmpty then [] else '.' :: fraction) ++ 'e' ::
          (if exponent < 0 then '-' else '+') :: (Nat.toDigits 10 exponent.natAbs ++ rest)) := by
      simp [Number.numeralChars, none]
    have stops : EndsDigits ((if fraction.isEmpty then [] else '.' :: fraction) ++ 'e' ::
        (if exponent < 0 then '-' else '+') :: (Nat.toDigits 10 exponent.natAbs ++ rest)) := by
      split <;>
      · rintro c ⟨⟩
        rfl
    have small : exponent.natAbs ≤ exponentLimit := Nat.le_trans near (by decide)
    rw [layout, wholePart_append fits stops, fractionPart_exponent isDigit,
      exponentPart_signed small ends.endsDigits]

theorem wholePart_toDigits (size : Nat) (ends : EndsNumber rest) :
    wholePart (ε := ε) negative (Nat.toDigits 10 size ++ rest) =
      .ok (.integer negative (Nat.toDigits 10 size), rest) := by
  have whole : Whole (Nat.toDigits 10 size) := by
    refine ⟨fun c mem => Nat.isDigit_of_mem_toDigits (by decide) (by decide) mem,
      Nat.toDigits_ne_nil, fun zero => ?_⟩
    rcases Nat.eq_zero_or_pos size with rfl | positive
    · rfl
    · exact absurd zero (Number.head?_toDigits positive)
  rw [wholePart_append whole ends.endsDigits, fractionPart_of_ends ends]

-- A sign is no beginning of a number less its sign.
theorem literal_of_wholePart {s : List Char} {result : Number.Literal × List Char}
    (reads : wholePart (ε := ε) false s = .ok result) : literal (ε := ε) s = .ok result := by
  unfold literal
  split
  · cases reads
  · exact reads

theorem literal_signed {s : List Char} {result : Number.Literal × List Char}
    (reads : wholePart (ε := ε) negative s = .ok result) :
    literal (ε := ε) (Number.signChars negative ++ s) = .ok result := by
  cases negative with
  | true => exact reads
  | false => exact literal_of_wholePart reads

/-- The literal of a number is read as it was printed. -/
theorem literal_chars (number : Number) (ends : EndsNumber rest) :
    literal (ε := ε) (number.chars ++ rest) = .ok (number.literal, rest) := by
  cases number with
  | integer value fits =>
    have reads : wholePart (ε := ε) (decide (value < 0))
        (Nat.toDigits 10 value.natAbs ++ rest) =
          .ok (.integer (decide (value < 0)) (Nat.toDigits 10 value.natAbs), rest) :=
      wholePart_toDigits value.natAbs ends
    simpa [Number.chars, Number.literal, Number.integerLiteral, Number.Literal.chars] using
      literal_signed reads
  | double value =>
    have reads : wholePart (ε := ε) value.negative
        (Number.numeralChars (Number.numeralOf value.magnitude) ++ rest) =
          .ok (.decimal value.negative (Number.numeralOf value.magnitude), rest) :=
      wholePart_numeralChars (Number.stands_numeralOf value.finite) ends
    simpa [Number.chars, Number.literal, Number.doubleLiteral, Number.Literal.chars] using
      literal_signed reads

theorem number_chars (value : Number) (ends : EndsNumber rest) :
    number (ε := ε) (value.chars ++ rest) = .ok (value.reread, rest) := by
  simp only [number, literal_chars value ends, bind, Except.bind, value.ofLiteral?_literal]

end WorkflowRules.Json.Reader
