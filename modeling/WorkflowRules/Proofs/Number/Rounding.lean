import Mathlib.Algebra.Field.Rat
import Mathlib.Data.Nat.Log
import Mathlib.Tactic.FieldSimp
import Mathlib.Tactic.Ring
import WorkflowRules.Number.Shortest

/-!
Rounding a decimal to the nearest binary64 number. Only the value of the decimal counts, not how
it is written, and a greater one is never rounded to a less number. A decimal that is a binary64
number rounds to itself; so the shortest decimal of a number rounds to that number.
-/
namespace WorkflowRules.Binary64

theorem roundQuotient_mul (num den : Nat) {factor : Nat} (positive : 0 < factor) :
    roundQuotient (num * factor) (den * factor) = roundQuotient num den := by
  have twice : 2 * (num % den * factor) = 2 * (num % den) * factor := by ring
  simp only [roundQuotient, Nat.mul_div_mul_right num den positive, Nat.mul_mod_mul_right, twice,
    Nat.mul_lt_mul_right positive]

theorem roundQuotient_of_multiple (quotient : Nat) {den : Nat} (positive : 0 < den) :
    roundQuotient (quotient * den) den = quotient := by
  simp [roundQuotient, Nat.mul_div_cancel _ positive, positive]

theorem nearest_mul (num den : Nat) {factor : Nat} (positive : 0 < factor) :
    nearest (num * factor) (den * factor) = nearest num den := by
  have units : num * factor * denominator = num * denominator * factor := by ring
  have shifted : ∀ shift, (den * factor) <<< shift = (den <<< shift) * factor := by
    intro shift
    rw [Nat.shiftLeft_eq, Nat.shiftLeft_eq]
    ring
  simp only [nearest, units, Nat.mul_div_mul_right _ den positive, shifted,
    roundQuotient_mul _ _ positive]

/-- Fractions of one value round to the same number. -/
theorem nearest_congr {num den num' den' : Nat} (positive : 0 < den) (positive' : 0 < den')
    (same : num * den' = num' * den) : nearest num den = nearest num' den' := by
  rw [← nearest_mul num den positive', same, Nat.mul_comm den den', nearest_mul num' den' positive]

theorem denominator_pos : 0 < denominator := by decide +kernel

theorem fractions_eq : fractions = 2 ^ 52 := by decide

theorem significand_lt (magnitude : Nat) : significand magnitude < 2 ^ 53 := by
  have below : magnitude % fractions < fractions := Nat.mod_lt _ (by decide)
  rw [significand]
  rw [fractions_eq] at *
  split <;> omega

theorem le_significand {magnitude : Nat} (normal : fractions ≤ magnitude) :
    2 ^ 52 ≤ significand magnitude := by
  rw [significand, if_neg (Nat.not_lt.2 normal), fractions_eq]
  exact Nat.le_add_right _ _

theorem numerator_eq (magnitude : Nat) :
    numerator magnitude = significand magnitude * 2 ^ scale magnitude :=
  Nat.shiftLeft_eq ..

-- The leading bit of the significand is set unless the number is subnormal, and then there is
-- no scale; either way the logarithm gives the scale back.
theorem log2_numerator (magnitude : Nat) : (numerator magnitude).log2 - 52 = scale magnitude := by
  by_cases normal : fractions ≤ magnitude
  · have leading := le_significand normal
    have below := significand_lt magnitude
    have log : (numerator magnitude).log2 = 52 + scale magnitude := by
      rw [numerator_eq, Nat.log2_eq_iff (Nat.mul_ne_zero (by omega) (Nat.two_pow_pos _).ne')]
      rw [Nat.pow_add, Nat.add_right_comm, Nat.pow_add]
      exact ⟨Nat.mul_le_mul_right _ leading, Nat.mul_lt_mul_of_pos_right below (Nat.two_pow_pos _)⟩
    omega
  · have small : magnitude < fractions := Nat.lt_of_not_le normal
    have scaleless : scale magnitude = 0 := by rw [scale, Nat.div_eq_of_lt small]
    have whole : numerator magnitude = magnitude := by
      rw [numerator_eq, significand, if_pos small, scaleless, Nat.pow_zero, Nat.mul_one]
    rw [whole, scaleless]
    by_cases zero : magnitude = 0
    · subst zero
      rfl
    · have bound : magnitude.log2 < 52 := (Nat.log2_lt zero).2 (fractions_eq ▸ small)
      omega

theorem packed_eq (magnitude : Nat) :
    scale magnitude * fractions + significand magnitude = magnitude := by
  have whole := Nat.div_add_mod' magnitude fractions
  by_cases small : magnitude < fractions
  · rw [significand, if_pos small, scale, Nat.div_eq_of_lt small]
    omega
  · have some : 1 ≤ magnitude / fractions :=
      (Nat.one_le_div_iff (by decide)).2 (Nat.le_of_not_lt small)
    obtain ⟨step, steps⟩ := Nat.exists_eq_add_of_le' some
    rw [significand, if_neg small, scale, steps, Nat.add_sub_cancel]
    rw [steps, Nat.succ_mul] at whole
    omega

/-- A binary64 number is the nearest to itself. -/
theorem nearest_numerator (magnitude : Nat) :
    nearest (numerator magnitude) denominator = magnitude := by
  have exact : numerator magnitude * denominator / denominator = numerator magnitude :=
    Nat.mul_div_cancel _ denominator_pos
  have units : numerator magnitude * denominator =
      significand magnitude * (denominator <<< scale magnitude) := by
    rw [numerator_eq, Nat.shiftLeft_eq]
    ring
  have positive : 0 < denominator <<< scale magnitude := by
    rw [Nat.shiftLeft_eq]
    exact Nat.mul_pos denominator_pos (Nat.two_pow_pos _)
  rw [nearest, exact, log2_numerator, units, roundQuotient_of_multiple _ positive, packed_eq]

/-! ### Order -/

theorem le_roundQuotient (num den : Nat) : num / den ≤ roundQuotient num den := by
  rw [roundQuotient]
  grind

theorem roundQuotient_le (num den : Nat) : roundQuotient num den ≤ num / den + 1 := by
  rw [roundQuotient]
  grind

theorem roundQuotient_mono {num num' : Nat} (den : Nat) (le : num ≤ num') :
    roundQuotient num den ≤ roundQuotient num' den := by
  rcases Nat.lt_or_eq_of_le (Nat.div_le_div_right (c := den) le) with less | same
  · exact Nat.le_trans (roundQuotient_le num den) (Nat.le_trans less (le_roundQuotient num' den))
  · -- With one quotient the greater number has the greater remainder.
    have whole := Nat.div_add_mod num den
    have whole' := Nat.div_add_mod num' den
    rw [same] at whole
    simp only [roundQuotient, same]
    grind

-- Two roundings at different shifts are on either side of a power of two.
theorem nearest_mono_num {num num' : Nat} (den : Nat) (le : num ≤ num') :
    nearest num den ≤ nearest num' den := by
  have units : num * denominator ≤ num' * denominator := Nat.mul_le_mul_right _ le
  have quotients : num * denominator / den ≤ num' * denominator / den :=
    Nat.div_le_div_right units
  have shifted (units shift : Nat) : units / (den <<< shift) = units / den / 2 ^ shift := by
    rw [Nat.shiftLeft_eq, Nat.div_div_eq_div_mul]
  simp only [nearest]
  generalize num * denominator = few at *
  generalize num' * denominator = many at *
  have logs : (few / den).log2 ≤ (many / den).log2 := by
    rw [Nat.log2_eq_log_two, Nat.log2_eq_log_two]
    exact Nat.log_mono_right quotients
  rcases Nat.lt_or_eq_of_le (Nat.sub_le_sub_right logs 52) with less | same
  · have upper := roundQuotient_le few (den <<< ((few / den).log2 - 52))
    have lower := le_roundQuotient many (den <<< ((many / den).log2 - 52))
    rw [shifted] at upper lower
    have below : few / den / 2 ^ ((few / den).log2 - 52) < 2 ^ 53 := by
      rw [Nat.div_lt_iff_lt_mul (Nat.two_pow_pos _), ← Nat.pow_add]
      exact Nat.lt_of_lt_of_le Nat.lt_log2_self (Nat.pow_le_pow_right (by decide) (by omega))
    have above : 2 ^ 52 ≤ many / den / 2 ^ ((many / den).log2 - 52) := by
      have some : many / den ≠ 0 := by
        intro none
        rw [none] at less
        exact Nat.not_lt_zero _ less
      rw [Nat.le_div_iff_mul_le (Nat.two_pow_pos _), ← Nat.pow_add]
      refine Nat.le_trans (Nat.pow_le_pow_right (by decide) ?_) (Nat.log2_self_le some)
      omega
    have steps := Nat.mul_le_mul_right fractions (Nat.succ_le_of_lt less)
    rw [Nat.succ_mul] at steps
    rw [fractions_eq] at *
    omega
  · rw [← same]
    exact Nat.add_le_add_left (roundQuotient_mono _ units) _

theorem nearest_mono {num den num' den' : Nat} (positive : 0 < den) (positive' : 0 < den')
    (le : num * den' ≤ num' * den) : nearest num den ≤ nearest num' den' := by
  rw [← nearest_mul num den positive', ← nearest_mul num' den' positive, Nat.mul_comm den' den]
  exact nearest_mono_num _ le

-- Were a lesser magnitude the greater number, it would be the nearest to more.
theorem numerator_mono {magnitude other : Nat} (le : magnitude ≤ other) :
    numerator magnitude ≤ numerator other := by
  by_contra less
  have back := nearest_mono_num denominator (Nat.le_of_not_le less)
  rw [nearest_numerator, nearest_numerator] at back
  exact less (Nat.le_of_eq (congrArg numerator (Nat.le_antisymm le back)))

/-! ### Decimals -/

theorem toDigits_mul_ten {digits : Nat} (positive : 0 < digits) :
    Nat.toDigits 10 (digits * 10) = Nat.toDigits 10 digits ++ ['0'] := by
  have split := Nat.toDigits_append_toDigits (b := 10) (by decide) positive (by decide : 0 < 10)
  rw [Nat.mul_comm, ← Nat.add_zero (10 * digits), ← split]
  rfl

theorem length_toDigits_mul_pow {digits : Nat} (positive : 0 < digits) (zeros : Nat) :
    (Nat.toDigits 10 (digits * 10 ^ zeros)).length = (Nat.toDigits 10 digits).length + zeros := by
  induction zeros with
  | zero => simp
  | succ zeros ih =>
    have more : 0 < digits * 10 ^ zeros := Nat.mul_pos positive (Nat.pow_pos (by decide))
    rw [Nat.pow_succ, ← Nat.mul_assoc, toDigits_mul_ten more, List.length_append, ih]
    rfl

theorem decimalFraction_pos (digits : Nat) (exponent : Int) :
    0 < (decimalFraction digits exponent).2 := by
  unfold decimalFraction
  split
  · exact Nat.one_pos
  · exact Nat.pow_pos (by decide)

theorem decimalFraction_value (digits : Nat) (exponent : Int) :
    ((decimalFraction digits exponent).1 : ℚ) / (decimalFraction digits exponent).2 =
      digits * 10 ^ exponent := by
  unfold decimalFraction
  split
  · next up =>
    obtain ⟨power, rfl⟩ := Int.eq_ofNat_of_zero_le up
    simp
  · next down =>
    obtain ⟨power, rfl⟩ : ∃ power : Nat, exponent = -power := ⟨(-exponent).toNat, by omega⟩
    simp [div_eq_mul_inv]

theorem nearest_decimalFraction {digits num den : Nat} {exponent : Int} (positive : 0 < den)
    (same : (digits : ℚ) * 10 ^ exponent = num / den) :
    nearest (decimalFraction digits exponent).1 (decimalFraction digits exponent).2 =
      nearest num den := by
  have written := decimalFraction_pos digits exponent
  refine nearest_congr written positive ?_
  rw [← decimalFraction_value, div_eq_div_iff (Nat.cast_ne_zero.2 written.ne')
    (Nat.cast_ne_zero.2 positive.ne')] at same
  exact_mod_cast same

/-- The place in front of the leading digit. -/
def leadingPower (digits : Nat) (exponent : Int) : Int :=
  (Nat.toDigits 10 digits).length + exponent

theorem nearestDecimal_eq (digits : Nat) (exponent : Int) :
    nearestDecimal digits exponent =
      if digits = 0 then 0
      else if 400 < leadingPower digits exponent then overflow
      else if leadingPower digits exponent < -400 then 0
      else nearest (decimalFraction digits exponent).1 (decimalFraction digits exponent).2 :=
  rfl

-- Zeros at the end may be written or counted in the exponent.
theorem nearestDecimal_zeros (digits zeros : Nat) (exponent : Int) :
    nearestDecimal (digits * 10 ^ zeros) (exponent - zeros) = nearestDecimal digits exponent := by
  rcases Nat.eq_zero_or_pos digits with rfl | positive
  · simp [nearestDecimal]
  · have more : 0 < digits * 10 ^ zeros := Nat.mul_pos positive (Nat.pow_pos (by decide))
    have value : ((digits * 10 ^ zeros : Nat) : ℚ) * 10 ^ (exponent - zeros) =
        digits * 10 ^ exponent := by
      rw [zpow_sub₀ (by norm_num)]
      push_cast
      field_simp
      simp
    have same := nearest_decimalFraction (decimalFraction_pos digits exponent)
      (value.trans (decimalFraction_value digits exponent).symm)
    have power : leadingPower (digits * 10 ^ zeros) (exponent - zeros) =
        leadingPower digits exponent := by
      simp only [leadingPower, length_toDigits_mul_pow positive]
      omega
    rw [nearestDecimal_eq, nearestDecimal_eq, power, same, if_neg more.ne', if_neg positive.ne']

/-- Only decimals of some size are finite numbers other than zero. -/
theorem leadingPower_of_nearestDecimal {digits : Nat} {exponent : Int} {magnitude : Nat}
    (reads : nearestDecimal digits exponent = magnitude) (nonzero : 0 < magnitude)
    (finite : magnitude < overflow) :
    0 < digits ∧ leadingPower digits exponent ≤ 400 ∧ -400 ≤ leadingPower digits exponent := by
  rw [nearestDecimal_eq] at reads
  split at reads
  · omega
  · split at reads
    · omega
    · split at reads <;> omega

/-! ### The shortest decimal -/

theorem exact_value {significand scale places : Nat} (fits : scale ≤ places) :
    ((significand * 5 ^ (places - scale) : Nat) : ℚ) * (10 : ℚ) ^ ((scale : Int) - places) =
      ((significand * 2 ^ scale : Nat) : ℚ) / ((1 <<< places : Nat) : ℚ) := by
  obtain ⟨rest, rfl⟩ := Nat.exists_eq_add_of_le fits
  have ten : (10 : ℚ) ^ rest = 2 ^ rest * 5 ^ rest := by
    rw [← mul_pow]
    norm_num
  have power : (scale : Int) - (scale + rest : Nat) = -rest := by omega
  rw [Nat.one_shiftLeft, Nat.add_sub_cancel_left, power, zpow_neg, zpow_natCast, ten]
  push_cast
  rw [pow_add]
  field_simp

theorem whole_value {significand places more : Nat} :
    ((significand * 2 ^ more : Nat) : ℚ) * (10 : ℚ) ^ (0 : Int) =
      ((significand * 2 ^ (places + more) : Nat) : ℚ) / ((1 <<< places : Nat) : ℚ) := by
  rw [Nat.one_shiftLeft, zpow_zero]
  push_cast
  rw [pow_add]
  field_simp

theorem two_pow_le_pow (bits places : Nat) {base power : Nat} (wide : 2 ^ bits ≤ base)
    (few : power ≤ bits * places) : 2 ^ power ≤ base ^ places := by
  calc 2 ^ power ≤ 2 ^ (bits * places) := Nat.pow_le_pow_right (by decide) few
    _ = (2 ^ bits) ^ places := Nat.pow_mul ..
    _ ≤ base ^ places := Nat.pow_le_pow_left wide places

theorem scale_le {magnitude : Nat} (finite : magnitude < overflow) : scale magnitude ≤ 2045 := by
  have below : magnitude / fractions < 2047 := by
    rw [Nat.div_lt_iff_lt_mul (by decide)]
    exact finite
  rw [scale]
  omega

theorem significand_pos {magnitude : Nat} (nonzero : 0 < magnitude) :
    0 < significand magnitude := by
  unfold significand
  split
  · exact nonzero
  · exact Nat.add_pos_left (by decide) _

theorem nearestDecimal_of_value {digits : Nat} {exponent : Int} {magnitude : Nat}
    (positive : 0 < digits) (fits : leadingPower digits exponent ≤ 400)
    (counts : -400 ≤ leadingPower digits exponent)
    (value : (digits : ℚ) * 10 ^ exponent = numerator magnitude / denominator) :
    nearestDecimal digits exponent = magnitude := by
  rw [nearestDecimal_eq, if_neg positive.ne', if_neg (Int.not_lt.2 fits),
    if_neg (Int.not_lt.2 counts), nearest_decimalFraction denominator_pos value, nearest_numerator]

theorem length_toDigits_le {digits places : Nat} (positive : 0 < places)
    (below : digits < 10 ^ places) : (Nat.toDigits 10 digits).length ≤ places :=
  (Nat.length_toDigits_le_iff (by decide) positive).2 below

theorem leadingPower_whole {significand more : Nat} (below : significand < 2 ^ 53)
    (few : more ≤ 971) : leadingPower (significand * 2 ^ more) 0 ≤ 400 := by
  have small : significand * 2 ^ more < 10 ^ 400 := by
    calc significand * 2 ^ more < 2 ^ 53 * 2 ^ more :=
          Nat.mul_lt_mul_of_pos_right below (Nat.two_pow_pos more)
      _ = 2 ^ (53 + more) := (Nat.pow_add ..).symm
      _ ≤ 10 ^ 400 := two_pow_le_pow 3 400 (by decide) (by omega)
  have short := length_toDigits_le (by decide) small
  rw [leadingPower]
  omega

theorem leadingPower_fraction_le {significand places : Nat} (below : significand < 2 ^ 53) :
    leadingPower (significand * 5 ^ places) (-places) ≤ 400 := by
  have small : significand * 5 ^ places < 10 ^ (16 + places) := by
    calc significand * 5 ^ places < 2 ^ 53 * 5 ^ places :=
          Nat.mul_lt_mul_of_pos_right below (Nat.pow_pos (by decide))
      _ ≤ 10 ^ 16 * 10 ^ places :=
          Nat.mul_le_mul (by decide) (Nat.pow_le_pow_left (by decide) places)
      _ = 10 ^ (16 + places) := (Nat.pow_add ..).symm
  have short := length_toDigits_le (by omega) small
  rw [leadingPower]
  omega

-- The least number begins at the place 324, since most of the 1074 factors of five in it make up
-- for as many places.
theorem le_leadingPower_fraction {significand places : Nat} (positive : 0 < significand)
    (few : places ≤ 1074) : -400 ≤ leadingPower (significand * 5 ^ places) (-places) := by
  have some : 0 < (Nat.toDigits 10 (significand * 5 ^ places)).length := Nat.length_toDigits_pos
  have large := Nat.le_mul_of_pos_left (5 ^ places) positive
  rw [leadingPower]
  by_contra early
  obtain ⟨rest, split⟩ : ∃ rest, places = rest + 401 := ⟨places - 401, by omega⟩
  have small : significand * 5 ^ places < 10 ^ rest :=
    (Nat.length_toDigits_le_iff (by decide) (by omega)).1 (by omega)
  have many : 10 ^ rest ≤ 5 ^ places := by
    calc 10 ^ rest = 5 ^ rest * 2 ^ rest := Nat.mul_pow 5 2 rest
      _ ≤ 5 ^ rest * 5 ^ 401 :=
          Nat.mul_le_mul_left _ (two_pow_le_pow 2 401 (by decide) (by omega))
      _ = 5 ^ places := by rw [split, Nat.pow_add]
  omega

theorem nearestDecimal_exactDecimal {magnitude : Nat} (nonzero : 0 < magnitude)
    (finite : magnitude < overflow) :
    nearestDecimal (exactDecimal magnitude).digits (exactDecimal magnitude).exponent =
      magnitude := by
  have positive := significand_pos nonzero
  have below := significand_lt magnitude
  have scaled := scale_le finite
  unfold exactDecimal
  split
  · next whole =>
    obtain ⟨more, above⟩ := Nat.exists_eq_add_of_le whole
    simp only [above, Nat.add_sub_cancel_left, Nat.shiftLeft_eq]
    refine nearestDecimal_of_value (Nat.mul_pos positive (Nat.two_pow_pos more))
      (leadingPower_whole below (by omega)) ?_ ?_
    · rw [leadingPower]
      omega
    · rw [numerator_eq, above, denominator]
      exact whole_value
  · next fraction =>
    have fits : scale magnitude ≤ 1074 := by omega
    have exponent : (scale magnitude : Int) - 1074 = -(1074 - scale magnitude : Nat) := by omega
    refine nearestDecimal_of_value (Nat.mul_pos positive (Nat.pow_pos (by decide))) ?_ ?_ ?_
    · rw [exponent]
      exact leadingPower_fraction_le below
    · rw [exponent]
      exact le_leadingPower_fraction positive (by omega)
    · rw [numerator_eq, denominator]
      exact exact_value fits

theorem nearestDecimal_shortestDecimal {magnitude : Nat} (nonzero : 0 < magnitude)
    (finite : magnitude < overflow) :
    nearestDecimal (shortestDecimal magnitude).digits (shortestDecimal magnitude).exponent =
      magnitude := by
  have chosen : shortestDecimal magnitude = (((List.range 17).findSome? fun (more : Nat) =>
      (neighbours magnitude (leadingPlace magnitude - more)).find? (roundsTo magnitude)).getD
        (exactDecimal magnitude)) := rfl
  rw [chosen]
  cases found : (List.range 17).findSome? fun (more : Nat) =>
      (neighbours magnitude (leadingPlace magnitude - more)).find? (roundsTo magnitude) with
  | none => exact nearestDecimal_exactDecimal nonzero finite
  | some decimal =>
    obtain ⟨_, more, _, _, first, _⟩ := List.findSome?_eq_some_iff.1 found
    have reads : roundsTo magnitude decimal = true := List.find?_some first
    exact beq_iff_eq.1 reads

end WorkflowRules.Binary64
