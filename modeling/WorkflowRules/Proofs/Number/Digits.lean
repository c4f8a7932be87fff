import Mathlib.Data.List.DropRight
import WorkflowRules.Number.Basic
import WorkflowRules.Proofs.Number.Rounding

/-!
How binary64 numbers are written. Zeros at the end of the digits are left out, and with the point
set behind the first digit they still round to the number. So do they wherever the point is set,
and no more than sixteen digits are written in front of it.
-/
namespace WorkflowRules.Number

/-- Digits that round to a magnitude when the first of them has this place. -/
structure Spells (digits : List Char) (place : Int) (magnitude : Nat) : Prop where
  isDigit : ∀ c ∈ digits, c.isDigit = true
  nonempty : digits ≠ []
  leading : digits.head? = some '0' → digits = ['0'] ∧ place = 0
  near : place.natAbs ≤ 401
  rounds : Binary64.nearestDecimal (Nat.ofDigitChars 10 digits 0) (place + 1 - digits.length) =
    magnitude

theorem head?_toDigits {digits : Nat} (positive : 0 < digits) :
    (Nat.toDigits 10 digits).head? ≠ some '0' := by
  induction digits using Nat.strong_induction_on with
  | _ digits ih =>
    rw [Nat.toDigits_eq_if (by decide)]
    split
    · next single =>
      rw [List.head?_singleton, Ne, Option.some.injEq, Nat.digitChar_eq_zero]
      exact positive.ne'
    · next many =>
      rw [List.head?_append_of_ne_nil _ Nat.toDigits_ne_nil]
      exact ih (digits / 10) (by omega) (by omega)

theorem rdropWhile_zeros (digits : List Char) : ∃ zeros,
    digits = digits.rdropWhile (· == '0') ++ List.replicate zeros '0' := by
  refine ⟨(digits.rtakeWhile (· == '0')).length, ?_⟩
  have zeros : digits.rtakeWhile (· == '0') =
      List.replicate (digits.rtakeWhile (· == '0')).length '0' := by
    refine List.eq_replicate_of_mem fun c mem => ?_
    exact beq_iff_eq.1 (List.mem_rtakeWhile_imp (p := (· == '0')) mem)
  rw [← zeros, List.rdropWhile_append_rtakeWhile]

theorem spells_zero : Spells ['0'] 0 0 where
  isDigit := List.forall_mem_singleton.2 rfl
  nonempty := by decide
  leading := fun _ => ⟨rfl, rfl⟩
  near := by decide
  rounds := rfl

-- The digit in front is not zero, so that something is left when the zeros at the end are taken
-- away, and how many they are is seen from the exponent.
theorem spells_of_nearestDecimal {digits magnitude : Nat} {exponent : Int}
    (nonzero : 0 < magnitude) (finite : magnitude < Binary64.overflow)
    (rounds : Binary64.nearestDecimal digits exponent = magnitude) :
    Spells ((Nat.toDigits 10 digits).rdropWhile (· == '0'))
      ((Nat.toDigits 10 digits).length - 1 + exponent) magnitude := by
  obtain ⟨positive, fits, counts⟩ := Binary64.leadingPower_of_nearestDecimal rounds nonzero finite
  rw [Binary64.leadingPower] at fits counts
  obtain ⟨zeros, split⟩ := rdropWhile_zeros (Nat.toDigits 10 digits)
  have head := head?_toDigits positive
  generalize kept : (Nat.toDigits 10 digits).rdropWhile (· == '0') = left at split
  have nonempty : left ≠ [] := by
    rintro rfl
    rw [split] at head
    cases zeros with
    | zero => exact Nat.toDigits_ne_nil split
    | succ zeros => exact head rfl
  have size : (Nat.toDigits 10 digits).length = left.length + zeros := by
    rw [split, List.length_append, List.length_replicate]
  have value : Nat.ofDigitChars 10 left 0 * 10 ^ zeros = digits := by
    rw [← Nat.ofDigitChars_ten_toDigits (n := digits), split, Nat.ofDigitChars_append,
      Nat.ofDigitChars_replicate_zero, Nat.mul_comm]
  constructor
  case isDigit =>
    intro c mem
    refine Nat.isDigit_of_mem_toDigits (b := 10) (n := digits) (by decide) (by decide) ?_
    rw [split]
    exact List.mem_append_left _ mem
  case nonempty => exact nonempty
  case leading =>
    intro zero
    rw [split, List.head?_append_of_ne_nil _ nonempty] at head
    exact absurd zero head
  case near => omega
  case rounds =>
    rw [← Binary64.nearestDecimal_zeros _ zeros, value, ← rounds]
    congr 1
    omega

theorem spells_doubleDigits {magnitude : Nat} (finite : magnitude < Binary64.overflow) :
    Spells (doubleDigits magnitude).1 (doubleDigits magnitude).2 magnitude := by
  rcases Nat.eq_zero_or_pos magnitude with rfl | nonzero
  · exact spells_zero
  · rw [doubleDigits, if_neg nonzero.ne']
    exact spells_of_nearestDecimal nonzero finite
      (Binary64.nearestDecimal_shortestDecimal nonzero finite)

/-! ### Layouts -/

/-- The digits in front of a point: at least one, and none too many. -/
structure Whole (whole : List Char) : Prop where
  isDigit : ∀ c ∈ whole, c.isDigit = true
  nonempty : whole ≠ []
  leading : whole.head? = some '0' → whole = ['0']

/-- What is written of a magnitude. The digits in front of the point fit 64 bits. -/
structure Stands (numeral : Numeral) (magnitude : Nat) : Prop where
  whole : Whole numeral.whole
  short : numeral.whole.length ≤ 16
  isDigit : ∀ c ∈ numeral.fraction, c.isDigit = true
  shown : numeral.fraction = [] → numeral.exponent ≠ 0
  near : numeral.exponent.natAbs ≤ 401
  rounds : Binary64.nearestDecimal (Nat.ofDigitChars 10 (numeral.whole ++ numeral.fraction) 0)
    (numeral.exponent - numeral.fraction.length) = magnitude

variable {digits : List Char} {place : Int} {magnitude : Nat}

theorem stands_small (spells : Spells digits place magnitude) (small : place < 0) :
    Stands (plainNumeral digits place) magnitude := by
  rw [plainNumeral, if_pos small]
  constructor
  case whole => exact ⟨List.forall_mem_singleton.2 rfl, List.cons_ne_nil _ _, fun _ => rfl⟩
  case short => exact Nat.le_of_ble_eq_true rfl
  case isDigit =>
    intro c mem
    rcases List.mem_append.1 mem with filled | given
    · rw [List.eq_of_mem_replicate filled]
      rfl
    · exact spells.isDigit c given
  case shown => exact fun none => absurd (List.append_eq_nil_iff.1 none).2 spells.nonempty
  case near => exact Nat.zero_le _
  case rounds =>
    have value : Nat.ofDigitChars 10
        (['0'] ++ (List.replicate (-place - 1).toNat '0' ++ digits)) 0 =
          Nat.ofDigitChars 10 digits 0 := by
      have nothing : Nat.ofDigitChars 10 ['0'] 0 = 0 := rfl
      rw [Nat.ofDigitChars_append, nothing, Nat.ofDigitChars_append,
        Nat.ofDigitChars_replicate_zero, Nat.mul_zero]
    rw [value, ← spells.rounds, List.length_append, List.length_replicate]
    congr 1
    dsimp only
    omega

theorem whole_large (spells : Spells digits place magnitude) {before : Nat}
    (large : place = before) : Whole (digits.take (before + 1) ++
      List.replicate (before + 1 - digits.length) '0') := by
  constructor
  case isDigit =>
    intro c mem
    rcases List.mem_append.1 mem with given | filled
    · exact spells.isDigit c (List.mem_of_mem_take given)
    · rw [List.eq_of_mem_replicate filled]
      rfl
  case nonempty =>
    refine List.append_ne_nil_of_left_ne_nil ?_ _
    simpa using spells.nonempty
  case leading =>
    intro head
    have front : digits.head? = some '0' := by
      cases digits with
      | nil => exact absurd rfl spells.nonempty
      | cons c others => simpa using head
    obtain ⟨rfl, only⟩ := spells.leading front
    obtain rfl : before = 0 := by omega
    rfl

theorem stands_large (spells : Spells digits place magnitude) (large : 0 ≤ place)
    (near : place ≤ 15) : Stands (plainNumeral digits place) magnitude := by
  obtain ⟨before, rfl⟩ := Int.eq_ofNat_of_zero_le large
  have whole := whole_large spells rfl
  have rounds := spells.rounds
  rw [plainNumeral, if_neg (Int.not_lt.2 large), Int.toNat_natCast]
  by_cases short : digits.length ≤ before + 1
  · -- The point comes after all digits, and a zero after it.
    have ended : digits.drop (before + 1) = [] := List.drop_of_length_le short
    simp only [ended, List.isEmpty_nil, if_true]
    constructor
    case whole => exact whole
    case short =>
      simp only [List.length_append, List.length_take, List.length_replicate]
      omega
    case isDigit => exact List.forall_mem_singleton.2 rfl
    case shown => exact nofun
    case near => exact Nat.zero_le _
    case rounds =>
      have value : Nat.ofDigitChars 10 (digits.take (before + 1) ++
          List.replicate (before + 1 - digits.length) '0' ++ ['0']) 0 =
            Nat.ofDigitChars 10 digits 0 * 10 ^ (before + 1 - digits.length + 1) := by
        rw [List.take_of_length_le short, List.append_assoc, ← List.replicate_succ',
          Nat.ofDigitChars_append, Nat.ofDigitChars_replicate_zero, Nat.mul_comm]
      have zeros := Binary64.nearestDecimal_zeros (Nat.ofDigitChars 10 digits 0)
        (before + 1 - digits.length + 1) (before + 1 - digits.length)
      rw [value, ← rounds, ← zeros, List.length_singleton]
      congr 1
      dsimp only
      omega
  · have some : (digits.drop (before + 1)).isEmpty = false := by
      rw [List.isEmpty_eq_false_iff, Ne, List.drop_eq_nil_iff]
      exact short
    have nothing : before + 1 - digits.length = 0 := by omega
    simp only [some, Bool.false_eq_true, if_false]
    constructor
    case whole => exact whole
    case short =>
      simp only [List.length_append, List.length_take, List.length_replicate]
      omega
    case isDigit => exact fun c mem => spells.isDigit c (List.mem_of_mem_drop mem)
    case shown => exact fun none => absurd none (by simpa using some)
    case near => exact Nat.zero_le _
    case rounds =>
      rw [nothing, List.replicate_zero, List.append_nil, List.take_append_drop, ← rounds,
        List.length_drop]
      congr 1
      dsimp only
      omega

theorem stands_scientific (spells : Spells digits place magnitude) (nonzero : place ≠ 0) :
    Stands ⟨digits.take 1, digits.drop 1, place⟩ magnitude := by
  obtain ⟨isDigit, nonempty, _, near, rounds⟩ := spells
  cases digits with
  | nil => exact absurd rfl nonempty
  | cons c fraction =>
    obtain ⟨here, later⟩ := List.forall_mem_cons.1 isDigit
    constructor
    case whole => exact ⟨by simpa using here, by simp, by simp⟩
    case short => simp
    case isDigit => exact later
    case shown => exact fun _ => nonzero
    case near => exact near
    case rounds =>
      rw [← rounds]
      congr 1
      simp

theorem stands_numeralOf (finite : magnitude < Binary64.overflow) :
    Stands (numeralOf magnitude) magnitude := by
  have spells := spells_doubleDigits finite
  simp only [numeralOf]
  generalize (doubleDigits magnitude).1 = digits at *
  generalize (doubleDigits magnitude).2 = place at *
  split
  · next plain =>
    obtain ⟨_, near⟩ : -5 ≤ place ∧ place ≤ 15 := by simpa [plainPlaces] using plain
    rcases Int.lt_or_le place 0 with small | large
    · exact stands_small spells small
    · exact stands_large spells large near
  · next far =>
    refine stands_scientific spells ?_
    rintro rfl
    exact far rfl

end WorkflowRules.Number
