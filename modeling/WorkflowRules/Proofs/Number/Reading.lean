import Mathlib.Algebra.Order.Field.Rat
import Mathlib.Tactic.Positivity
import WorkflowRules.Proofs.Number.Digits

/-!
Reading what was written of a number. Reading rounds three times where writing needs one rounding,
so that a binary64 number need not come back as it was. But some number does: even of the greatest
nothing is written that is out of range.
-/
namespace WorkflowRules

namespace Binary64

variable {magnitude other digits exponent number : Nat} {cs : List Char}

/-! ### Products and quotients -/

theorem product_mono {factor more : Nat} (le : magnitude ≤ other) (grows : factor ≤ more) :
    product magnitude factor ≤ product other more :=
  nearest_mono_num _ (Nat.mul_le_mul (numerator_mono le) (numerator_mono grows))

theorem powerOfTen_mono {more : Nat} (le : exponent ≤ more) :
    powerOfTen exponent ≤ powerOfTen more :=
  nearest_mono_num 1 (Nat.pow_le_pow_right (by decide) le)

theorem denominator_le_powerOfTen (exponent : Nat) :
    denominator ≤ numerator (powerOfTen exponent) := by
  have one : numerator (powerOfTen 0) = denominator := by decide +kernel
  exact one ▸ numerator_mono (powerOfTen_mono (Nat.zero_le exponent))

theorem quotient_le (magnitude exponent : Nat) :
    quotient magnitude (powerOfTen exponent) ≤ magnitude := by
  have large := denominator_le_powerOfTen exponent
  have positive := Nat.lt_of_lt_of_le denominator_pos large
  calc quotient magnitude (powerOfTen exponent)
    _ ≤ nearest (numerator magnitude) denominator :=
        nearest_mono positive denominator_pos (Nat.mul_le_mul_left _ large)
    _ = magnitude := nearest_numerator magnitude

theorem lowered_le (magnitude rounds : Nat) : lowered magnitude rounds ≤ magnitude := by
  induction rounds generalizing magnitude with
  | zero => exact Nat.le_refl _
  | succ rounds ih =>
    rw [lowered]
    split
    · exact Nat.zero_le _
    · exact Nat.le_trans (ih _) (quotient_le _ _)

/-! ### Range -/

/-- The greatest integer that rounds to less than the greatest finite number. -/
def beneathTop : Nat := 18014398509481981 <<< 970

theorem top_le_nearest (above : beneathTop < number) : overflow - 1 ≤ nearest number 1 := by
  have least : nearest (beneathTop + 1) 1 = overflow - 1 := by decide +kernel
  exact least ▸ nearest_mono_num 1 above

-- Of the last twenty powers each is looked at with the most digits that can be meant.
theorem product_finite_of_large : ∀ more < 20,
    product (nearest (min wordLimit (beneathTop / Nat.pow 10 (289 + more))) 1)
      (powerOfTen (289 + more)) < overflow := by
  decide +kernel

theorem product_finite (fits : digits ≤ wordLimit) (small : exponent ≤ lastPower)
    (few : digits * 10 ^ exponent ≤ beneathTop) :
    product (nearest digits 1) (powerOfTen exponent) < overflow := by
  rcases Nat.lt_or_ge exponent 289 with before | after
  · have finite : product (nearest wordLimit 1) (powerOfTen 288) < overflow := by decide +kernel
    exact Nat.lt_of_le_of_lt
      (product_mono (nearest_mono_num 1 fits) (powerOfTen_mono (Nat.le_of_lt_succ before))) finite
  · obtain ⟨more, rfl⟩ := Nat.exists_eq_add_of_le after
    have last : more < 20 := by
      rw [lastPower] at small
      omega
    have most : digits ≤ min wordLimit (beneathTop / Nat.pow 10 (289 + more)) :=
      Nat.le_min.2 ⟨fits, (Nat.le_div_iff_mul_le (Nat.pow_pos (by decide))).2 few⟩
    exact Nat.lt_of_le_of_lt (product_mono (nearest_mono_num 1 most) (Nat.le_refl _))
      (product_finite_of_large more last)

theorem scaled_finite {power : Int} (fits : digits ≤ wordLimit)
    (below : ∀ exponent : Nat, power = exponent → digits * 10 ^ exponent ≤ beneathTop) :
    scaled digits power < overflow := by
  cases power with
  | ofNat exponent =>
    have few := below exponent rfl
    rw [scaled]
    split
    · decide
    · next some =>
      split
      · next small => exact product_finite fits small few
      · next large =>
        have power : 10 ^ (lastPower + 1) ≤ 10 ^ exponent :=
          Nat.pow_le_pow_right (by decide) (Nat.lt_of_not_le large)
        have many := Nat.le_trans power (Nat.le_mul_of_pos_left _ (Nat.pos_of_ne_zero some))
        have beneath : beneathTop < 10 ^ (lastPower + 1) := by decide +kernel
        exact absurd few (Nat.not_le.2 (Nat.lt_of_lt_of_le beneath many))
  | negSucc less =>
    have whole : nearest digits 1 ≤ nearest wordLimit 1 := nearest_mono_num 1 fits
    have finite : nearest wordLimit 1 < overflow := by decide +kernel
    rw [scaled]
    exact Nat.lt_of_le_of_lt (quotient_le _ _)
      (Nat.lt_of_le_of_lt (lowered_le _ _) (Nat.lt_of_le_of_lt whole finite))

/-! ### Digits -/

theorem mul_pow_le_ofDigitChars (cs : List Char) (number : Nat) :
    number * 10 ^ cs.length ≤ Nat.ofDigitChars 10 cs number := by
  rw [Nat.ofDigitChars_eq_ofDigitChars_zero, Nat.mul_comm]
  exact Nat.le_add_right _ _

theorem ofDigitChars_lt (isDigit : ∀ c ∈ cs, c.isDigit = true) (number : Nat) :
    Nat.ofDigitChars 10 cs number < (number + 1) * 10 ^ cs.length := by
  induction cs generalizing number with
  | nil => simp
  | cons c rest ih =>
    obtain ⟨here, later⟩ := List.forall_mem_cons.1 isDigit
    have digit : c.toNat - '0'.toNat ≤ 9 := by
      simp only [Char.isDigit, Bool.and_eq_true, decide_eq_true_eq, UInt32.le_iff_toNat_le] at here
      exact Nat.sub_le_sub_right here.2 48
    rw [Nat.ofDigitChars_cons]
    calc Nat.ofDigitChars 10 rest (10 * number + (c.toNat - '0'.toNat))
      _ < (10 * number + (c.toNat - '0'.toNat) + 1) * 10 ^ rest.length := ih later _
      _ ≤ (number + 1) * 10 * 10 ^ rest.length := Nat.mul_le_mul_right _ (by omega)
      _ = (number + 1) * 10 ^ (c :: rest).length := by
          rw [List.length_cons, Nat.pow_succ', Nat.mul_assoc]

theorem takeUp_of_fits (fits : Nat.ofDigitChars 10 cs number ≤ wordLimit) :
    takeUp number cs = (Nat.ofDigitChars 10 cs number, []) := by
  induction cs generalizing number with
  | nil => rfl
  | cons c rest ih =>
    rw [Nat.ofDigitChars_cons] at fits ⊢
    have next : number * 10 + (c.toNat - 48) = 10 * number + (c.toNat - '0'.toNat) := by
      rw [Nat.mul_comm]
      rfl
    have grows := mul_pow_le_ofDigitChars rest (10 * number + (c.toNat - '0'.toNat))
    have first := Nat.le_mul_of_pos_right (10 * number + (c.toNat - '0'.toNat))
      (Nat.pow_pos (n := rest.length) (by decide : 0 < 10))
    rw [takeUp, next, if_pos (by omega), ih fits]

/-- What is taken up stands for no more than all digits do. -/
theorem takeUp_le (cs : List Char) (fits : number ≤ wordLimit) :
    (takeUp number cs).1 ≤ wordLimit ∧ (takeUp number cs).2.length ≤ cs.length ∧
      (takeUp number cs).1 * 10 ^ (takeUp number cs).2.length ≤
        Nat.ofDigitChars 10 cs number := by
  induction cs generalizing number with
  | nil => exact ⟨fits, Nat.le_refl _, Nat.le_of_eq (Nat.mul_one _)⟩
  | cons c rest ih =>
    have next : number * 10 + (c.toNat - 48) = 10 * number + (c.toNat - '0'.toNat) := by
      rw [Nat.mul_comm]
      rfl
    rw [takeUp]
    split
    · next more =>
      obtain ⟨few, short, less⟩ := ih more
      refine ⟨few, Nat.le_succ_of_le short, ?_⟩
      rwa [Nat.ofDigitChars_cons, ← next]
    · exact ⟨fits, Nat.le_refl _, mul_pow_le_ofDigitChars (c :: rest) number⟩

theorem nearest_le_of_nearestDecimal {all zeros power : Nat} {place : Int}
    (rounds : nearestDecimal all place = magnitude) (nonzero : 0 < magnitude)
    (finite : magnitude < overflow) (less : digits * 10 ^ zeros ≤ all)
    (split : place = power - zeros) : nearest (digits * 10 ^ power) 1 ≤ magnitude := by
  obtain ⟨some, fits, counts⟩ := leadingPower_of_nearestDecimal rounds nonzero finite
  have written := decimalFraction_pos all place
  rw [nearestDecimal_eq, if_neg some.ne', if_neg (Int.not_lt.2 fits),
    if_neg (Int.not_lt.2 counts)] at rounds
  rw [← rounds]
  refine nearest_mono Nat.one_pos written ?_
  have value : (digits * 10 ^ power : ℚ) ≤
      (decimalFraction all place).1 / (decimalFraction all place).2 := by
    have cast : (digits * 10 ^ zeros : ℚ) ≤ all := by exact_mod_cast less
    rw [decimalFraction_value, split, zpow_sub₀ (by norm_num), zpow_natCast, zpow_natCast,
      mul_div_assoc', le_div_iff₀ (by positivity), mul_right_comm]
    exact mul_le_mul_of_nonneg_right cast (by positivity)
  rw [le_div_iff₀ (by exact_mod_cast written)] at value
  rw [Nat.mul_one]
  exact_mod_cast value

end Binary64

namespace Number

open Binary64

variable {numeral : Numeral} {magnitude : Nat}

theorem finite_of_stands (stands : Stands numeral magnitude) (nonzero : 0 < magnitude)
    (below : magnitude < overflow - 1) : numeral.magnitude < overflow := by
  have whole : Nat.ofDigitChars 10 numeral.whole 0 ≤ wordLimit := by
    have few := ofDigitChars_lt stands.whole.isDigit 0
    have most : 10 ^ numeral.whole.length ≤ 10 ^ 16 :=
      Nat.pow_le_pow_right (by decide) stands.short
    have fits : 10 ^ 16 ≤ wordLimit := by decide
    omega
  have taken := takeUp_of_fits whole
  obtain ⟨fits, short, less⟩ := takeUp_le numeral.fraction whole
  rw [← Nat.ofDigitChars_append] at less
  simp only [Numeral.magnitude, taken]
  refine scaled_finite fits fun power same => ?_
  by_contra above
  have top := top_le_nearest (Nat.lt_of_not_le above)
  have place : numeral.exponent - numeral.fraction.length = (power : Int) -
      (takeUp (Nat.ofDigitChars 10 numeral.whole 0) numeral.fraction).2.length := by
    simp only [List.length_nil] at same
    omega
  have rounded := nearest_le_of_nearestDecimal stands.rounds nonzero (by omega) less place
  omega

-- The greatest finite number is looked at by itself, since others that would round to it when
-- they are read are out of range.
theorem finite_numeralOf (finite : magnitude < overflow) :
    (numeralOf magnitude).magnitude < overflow := by
  rcases Nat.eq_zero_or_pos magnitude with rfl | nonzero
  · decide +kernel
  · rcases Nat.lt_or_eq_of_le (Nat.le_sub_one_of_lt finite) with below | rfl
    · exact finite_of_stands (stands_numeralOf finite) nonzero below
    · decide +kernel

/-- What is read of a number as it is written. -/
def reread (number : Number) : Number :=
  (ofLiteral? number.literal).getD number

theorem ofLiteral?_integerLiteral (value : Int) (fits : FitsWord value) :
    ofLiteral? (integerLiteral value) = some (.integer value fits) := by
  have size : Nat.ofDigitChars 10 (Nat.toDigits 10 value.natAbs) 0 = value.natAbs :=
    Nat.ofDigitChars_ten_toDigits
  have signed : (if decide (value < 0) then -(value.natAbs : Int) else value.natAbs) = value := by
    by_cases below : value < 0
    · have size : (value.natAbs : Int) = -value := by omega
      simp [below, size]
    · have size : (value.natAbs : Int) = value := by omega
      simp [below, size]
  have ordinary : (decide (value < 0) && decide (value.natAbs = 0)) = false := by
    simp only [Bool.and_eq_false_iff, decide_eq_false_iff_not]
    omega
  simp only [integerLiteral, ofLiteral?, size, ordinary, signed, dif_pos fits]
  rfl

/-- Something is read of every number that was written. -/
theorem ofLiteral?_literal (number : Number) :
    ofLiteral? number.literal = some number.reread := by
  have some : (ofLiteral? number.literal).isSome = true := by
    cases number with
    | integer value fits => rw [literal, ofLiteral?_integerLiteral value fits, Option.isSome_some]
    | double value =>
      have finite : (numeralOf value.magnitude).magnitude < 0x7FF0000000000000 :=
        finite_numeralOf value.finite
      simp [literal, doubleLiteral, ofLiteral?, Numeral.double?, finite]
  obtain ⟨again, reads⟩ := Option.isSome_iff_exists.1 some
  rw [reread, reads, Option.getD_some]

theorem reread_integer (value : Int) (fits : FitsWord value) :
    reread (.integer value fits) = .integer value fits := by
  rw [reread, literal, ofLiteral?_integerLiteral value fits, Option.getD_some]

/-- Reading what is written of the number gives the number. -/
def ReadsBack (number : Number) : Prop :=
  ofLiteral? number.literal = some number

instance : DecidablePred ReadsBack :=
  fun _ => inferInstanceAs (Decidable (_ = _))

theorem readsBack_iff {number : Number} : number.ReadsBack ↔ number.reread = number := by
  rw [ReadsBack, ofLiteral?_literal, Option.some.injEq]

-- What is nearest to a tenth, and what is written 51.248178375505404.
example : ReadsBack (.double ⟨false, 0x3FB999999999999A, by decide⟩) ∧
    ¬ReadsBack (.double ⟨false, 0x40499FC44F1B2F60, by decide⟩) := by
  decide +kernel

end Number

end WorkflowRules
