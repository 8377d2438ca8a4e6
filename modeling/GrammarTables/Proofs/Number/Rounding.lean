import GrammarTables.Number.Decimal
import GrammarTables.Proofs.Number.Digits
import Mathlib.Algebra.Order.Field.Power
import Mathlib.Algebra.Order.Floor.Ring
import Mathlib.Data.Int.Log
import Mathlib.Data.Rat.Floor
import Mathlib.Tactic.FieldSimp
import Mathlib.Tactic.Linarith
import Mathlib.Tactic.Positivity

/-!
# Rounding of exact quotients

Finite numbers are exact rationals.  The operations on numerators and denominators are related
to the rationals here: scaling by powers, truncation, rounding with ties to even, and the
exponent of the leading decimal digit, which is the integer part of the logarithm.
-/

namespace GrammarTables

/-! ## Values -/

namespace Binary64

/-- The value of a finite number without its sign. -/
def magnitude (mantissa : Nat) (exponent : Int) : ℚ := mantissa * 2 ^ exponent

/-- The value of a finite number. -/
def rational (negative : Bool) (mantissa : Nat) (exponent : Int) : ℚ :=
  if negative then -magnitude mantissa exponent else magnitude mantissa exponent

theorem magnitude_nonneg (mantissa : Nat) (exponent : Int) : 0 ≤ magnitude mantissa exponent := by
  unfold magnitude
  positivity

theorem magnitude_pos {mantissa : Nat} (nonzero : mantissa ≠ 0) (exponent : Int) :
    0 < magnitude mantissa exponent := by
  unfold magnitude
  positivity

theorem abs_rational (negative : Bool) (mantissa : Nat) (exponent : Int) :
    |rational negative mantissa exponent| = magnitude mantissa exponent := by
  cases negative with
  | false => exact abs_of_nonneg (magnitude_nonneg ..)
  | true => exact (abs_neg _).trans (abs_of_nonneg (magnitude_nonneg ..))

theorem rational_neg_iff {negative : Bool} {mantissa : Nat} (nonzero : mantissa ≠ 0)
    (exponent : Int) : rational negative mantissa exponent < 0 ↔ negative = true := by
  have positive := magnitude_pos nonzero exponent
  cases negative with
  | false => simpa [rational] using positive.le
  | true => simpa [rational] using positive

/-! ## Scaling -/

theorem scaleDown_pos {base numerator denominator : Nat} (power : Int) (basePositive : 0 < base)
    (top : 0 < numerator) (bottom : 0 < denominator) :
    0 < (scaleDown base numerator denominator power).1 ∧
      0 < (scaleDown base numerator denominator power).2 :=
  ⟨Nat.mul_pos top (Nat.pow_pos basePositive), Nat.mul_pos bottom (Nat.pow_pos basePositive)⟩

theorem div_scaleDown {base : Nat} (basePositive : 0 < base) (numerator denominator : Nat)
    (power : Int) :
    ((scaleDown base numerator denominator power).1 : ℚ) /
        (scaleDown base numerator denominator power).2 =
      numerator / denominator / (base : ℚ) ^ power := by
  have nonzero : (base : ℚ) ≠ 0 := by positivity
  have split : (base : ℚ) ^ power = base ^ power.toNat / base ^ (-power).toNat := by
    rw [← zpow_natCast, ← zpow_natCast, ← zpow_sub₀ nonzero, Int.toNat_sub_toNat_neg]
  rw [split, scaleDown, Nat.cast_mul, Nat.cast_mul, Nat.pow_eq, Nat.pow_eq, Nat.cast_pow,
    Nat.cast_pow]
  field_simp

theorem div_scaleDown_two (mantissa : Nat) (exponent : Int) :
    ((scaleDown 2 mantissa 1 (-exponent)).1 : ℚ) / (scaleDown 2 mantissa 1 (-exponent)).2 =
      magnitude mantissa exponent := by
  rw [div_scaleDown (by decide), Nat.cast_one, div_one, zpow_neg, div_inv_eq_mul]
  rfl

/-! ## Truncation -/

/-- The integer next to a rational on the side of zero. -/
def towardZero (rational : ℚ) : ℤ := if 0 ≤ rational then ⌊rational⌋ else ⌈rational⌉

theorem towardZero_neg {rational : ℚ} (nonnegative : 0 ≤ rational) :
    towardZero (-rational) = -towardZero rational := by
  rcases nonnegative.eq_or_lt with rfl | positive
  · rfl
  · rw [towardZero, towardZero, if_neg (by linarith), if_pos nonnegative, Int.ceil_neg]

theorem truncated_eq_towardZero (negative : Bool) (mantissa : Nat) (exponent : Int) :
    truncated negative mantissa exponent = towardZero (rational negative mantissa exponent) := by
  have floor : ((scaleDown 2 mantissa 1 (-exponent)).1 /
      (scaleDown 2 mantissa 1 (-exponent)).2 : Nat) = towardZero (magnitude mantissa exponent) := by
    rw [towardZero, if_pos (magnitude_nonneg ..), ← div_scaleDown_two,
      Rat.floor_natCast_div_natCast, Int.natCast_div]
  rw [truncated, rational]
  split
  · rw [towardZero_neg (magnitude_nonneg ..), ← floor]
  · exact floor

end Binary64

/-! ## Rounding -/

/-- Of all multiples of the unit, that with the coefficient is nearest to the rational, and it
has an even coefficient if another one is as near. -/
structure IsNearest (unit rational : ℚ) (coefficient : ℕ) : Prop where
  nearest : ∀ other : ℤ, |rational - coefficient * unit| ≤ |rational - other * unit|
  even_of_tie : ∀ other : ℤ, other ≠ coefficient →
    |rational - coefficient * unit| = |rational - other * unit| → Even coefficient

/-- Of the decimals with a count of significant digits, which have the unit of the last of these
digits, the decimal is nearest to the rational. -/
structure IsRounded (places : ℕ) (rational decimal : ℚ) : Prop where
  nearest : ∃ coefficient,
    IsNearest (10 ^ (Int.log 10 rational + 1 - places)) rational coefficient ∧
      decimal = coefficient * 10 ^ (Int.log 10 rational + 1 - places)
  fewDigits : ∃ coefficient : ℕ, coefficient < 10 ^ places ∧
    ∃ power : ℤ, decimal = coefficient * 10 ^ power

/-- An error of one half at most, of which one half goes to the even side, is that of nearest
naturals. -/
theorem isNearest_one_of_error {rational : ℚ} {coefficient : ℕ}
    (error : |rational - coefficient| ≤ 1 / 2)
    (even : |rational - coefficient| = 1 / 2 → Even coefficient) :
    IsNearest 1 rational coefficient := by
  have farther (other : ℤ) (different : other ≠ coefficient) : 1 / 2 ≤ |rational - other| := by
    have apart : (1 : ℚ) ≤ |(other : ℚ) - coefficient| := by
      exact_mod_cast Int.one_le_abs (sub_ne_zero.mpr different)
    have triangle := abs_sub_le (other : ℚ) rational coefficient
    rw [abs_sub_comm (other : ℚ) rational] at triangle
    linarith
  constructor
  · intro other
    rw [mul_one, mul_one]
    by_cases same : other = coefficient
    · rw [same, Int.cast_natCast]
    · exact error.trans (farther other same)
  · intro other different tie
    rw [mul_one, mul_one] at tie
    exact even (le_antisymm error (tie ▸ farther other different))

theorem IsNearest.scale {unit rational : ℚ} {coefficient : ℕ} (positive : 0 < unit)
    (isNearest : IsNearest 1 (rational / unit) coefficient) :
    IsNearest unit rational coefficient := by
  have scaled (multiple : ℚ) :
      |rational - multiple * unit| = |rational / unit - multiple * 1| * unit := by
    rw [← abs_of_pos positive, ← abs_mul, abs_of_pos positive, sub_mul, mul_one,
      div_mul_cancel₀ _ positive.ne']
  constructor
  · intro other
    rw [scaled, scaled]
    exact mul_le_mul_of_nonneg_right (isNearest.nearest other) positive.le
  · intro other different tie
    rw [scaled, scaled] at tie
    exact isNearest.even_of_tie other different (mul_right_cancel₀ positive.ne' tie)

/-- Rounding does not pass a multiple of the unit. -/
theorem IsNearest.le_of_le {unit rational : ℚ} {coefficient bound : ℕ} (positive : 0 < unit)
    (isNearest : IsNearest unit rational coefficient) (below : bound * unit ≤ rational) :
    bound ≤ coefficient := by
  by_contra passed
  have smaller : (coefficient : ℚ) * unit < bound * unit :=
    mul_lt_mul_of_pos_right (Nat.cast_lt.mpr (Nat.not_le.mp passed)) positive
  have nearer := isNearest.nearest bound
  rw [Int.cast_natCast, abs_of_nonneg (by linarith), abs_of_nonneg (by linarith)] at nearer
  linarith

theorem IsNearest.ge_of_ge {unit rational : ℚ} {coefficient bound : ℕ} (positive : 0 < unit)
    (isNearest : IsNearest unit rational coefficient) (above : rational ≤ bound * unit) :
    coefficient ≤ bound := by
  by_contra passed
  have greater : (bound : ℚ) * unit < coefficient * unit :=
    mul_lt_mul_of_pos_right (Nat.cast_lt.mpr (Nat.not_le.mp passed)) positive
  have nearer := isNearest.nearest bound
  rw [Int.cast_natCast, abs_of_nonpos (by linarith), abs_of_nonpos (by linarith)] at nearer
  linarith

/-- A rational is rounded by the half in which its fraction is, and by the parity of its whole
part between the halves. -/
theorem isNearest_one_add {whole : ℕ} {fraction : ℚ} (lower : 0 ≤ fraction)
    (upper : fraction < 1) :
    IsNearest 1 (whole + fraction)
      (if fraction < 1 / 2 then whole else if 1 / 2 < fraction then whole + 1
        else whole + whole % 2) := by
  have down : |whole + fraction - whole| = fraction := by
    rw [add_sub_cancel_left, abs_of_nonneg lower]
  have up : |whole + fraction - (whole + 1 : ℕ)| = 1 - fraction := by
    rw [Nat.cast_add_one, add_sub_add_left_eq_sub, abs_sub_comm, abs_of_pos (by linarith)]
  split
  · next small =>
      apply isNearest_one_of_error <;> rw [down]
      · exact small.le
      · exact fun tie => absurd tie small.ne
  · next notSmall =>
      split
      · next large =>
          apply isNearest_one_of_error <;> rw [up]
          · linarith
          · intro tie
            linarith
      · next notLarge =>
          have tie : fraction = 1 / 2 := by linarith
          rcases Nat.mod_two_eq_zero_or_one whole with even | odd
          · rw [even, Nat.add_zero]
            apply isNearest_one_of_error
            · rw [down, tie]
            · exact fun _ => Nat.even_iff.mpr even
          · rw [odd]
            apply isNearest_one_of_error
            · rw [up, tie]
              norm_num
            · exact fun _ => Nat.even_add_one.mpr (Nat.not_even_iff.mpr odd)

theorem Binary64.isNearest_roundedQuotient (numerator : Nat) {denominator : Nat}
    (positive : 0 < denominator) :
    IsNearest 1 (numerator / denominator) (roundedQuotient numerator denominator) := by
  have bottom : (0 : ℚ) < denominator := Nat.cast_pos.mpr positive
  have parts : (numerator : ℚ) / denominator =
      (numerator / denominator : Nat) + (numerator % denominator : Nat) / denominator := by
    rw [add_div_eq_mul_add_div _ _ bottom.ne']
    congr
    exact_mod_cast (Nat.div_add_mod' numerator denominator).symm
  have small : 2 * (numerator % denominator) < denominator ↔
      ((numerator % denominator : Nat) : ℚ) / denominator < 1 / 2 := by
    rw [div_lt_div_iff₀ bottom two_pos, mul_comm, one_mul]
    norm_cast
  have large : denominator < 2 * (numerator % denominator) ↔
      1 / 2 < ((numerator % denominator : Nat) : ℚ) / denominator := by
    rw [div_lt_div_iff₀ two_pos bottom, mul_comm, one_mul]
    norm_cast
  have isNearest := @isNearest_one_add (numerator / denominator)
    ((numerator % denominator : Nat) / denominator) (by positivity)
    ((div_lt_one bottom).mpr (Nat.cast_lt.mpr (Nat.mod_lt numerator positive)))
  rw [parts, roundedQuotient]
  simpa only [small, large] using isNearest

/-! ## Leading digits -/

theorem log_eq_of_le_of_lt {rational : ℚ} {exponent : ℤ} (lower : (10 : ℚ) ^ exponent ≤ rational)
    (upper : rational < 10 ^ (exponent + 1)) : Int.log 10 rational = exponent := by
  have positive : 0 < rational := lt_of_lt_of_le (by positivity) lower
  apply le_antisymm
  · exact Int.lt_add_one_iff.mp ((Int.lt_zpow_iff_log_lt (by decide) positive).mp upper)
  · exact (Int.zpow_le_iff_le_log (by decide) positive).mp lower

/-- A positive natural is between the powers that its count of digits gives. -/
theorem pow_le_lt_pow_length {number : Nat} (positive : 0 < number) :
    (10 : ℚ) ^ ((Nat.toDigits 10 number).length - 1 : ℤ) ≤ number ∧
      (number : ℚ) < 10 ^ ((Nat.toDigits 10 number).length : ℤ) := by
  have filled : 1 ≤ (Nat.toDigits 10 number).length := Nat.length_toDigits_pos
  rw [← Int.natCast_pred_of_pos filled, zpow_natCast, zpow_natCast]
  constructor
  · exact_mod_cast pow_le_of_lt_length_toDigits positive (by omega)
  · exact_mod_cast lt_pow_length_toDigits number

namespace Decimal

def value (decimal : Decimal) : ℚ :=
  decimal.coefficient *
    10 ^ (decimal.leading + 1 - (Nat.toDigits 10 decimal.coefficient).length)

theorem log_value {decimal : Decimal} (positive : 0 < decimal.coefficient) :
    Int.log 10 decimal.value = decimal.leading := by
  obtain ⟨lower, upper⟩ := pow_le_lt_pow_length positive
  have ten : (10 : ℚ) ≠ 0 := by norm_num
  apply log_eq_of_le_of_lt
  · calc (10 : ℚ) ^ decimal.leading
        = 10 ^ ((Nat.toDigits 10 decimal.coefficient).length - 1 : ℤ) *
            10 ^ (decimal.leading + 1 - (Nat.toDigits 10 decimal.coefficient).length) := by
          rw [← zpow_add₀ ten]
          congr 1
          omega
      _ ≤ decimal.value := mul_le_mul_of_nonneg_right lower (by positivity)
  · calc decimal.value
        < 10 ^ ((Nat.toDigits 10 decimal.coefficient).length : ℤ) *
            10 ^ (decimal.leading + 1 - (Nat.toDigits 10 decimal.coefficient).length) :=
          mul_lt_mul_of_pos_right upper (by positivity)
      _ = 10 ^ (decimal.leading + 1) := by
          rw [← zpow_add₀ ten]
          congr 1
          omega

theorem scaleDown_le_iff {numerator denominator : Nat} (bottom : 0 < denominator) (power : Int) :
    (Binary64.scaleDown 10 numerator denominator power).2 ≤
        (Binary64.scaleDown 10 numerator denominator power).1 ↔
      (10 : ℚ) ^ power ≤ numerator / denominator := by
  have scaledBottom : (0 : ℚ) < (Binary64.scaleDown 10 numerator denominator power).2 :=
    Nat.cast_pos.mpr (Nat.mul_pos bottom (Nat.pow_pos (by decide)))
  rw [← @Nat.cast_le ℚ, ← one_le_div scaledBottom, Binary64.div_scaleDown (by decide),
    Nat.cast_ofNat, one_le_div (by positivity)]

/-- The counts of digits of a quotient's terms tell its leading digit up to one place. -/
theorem pow_le_div_lt_pow {numerator denominator : Nat} (top : 0 < numerator)
    (bottom : 0 < denominator) {estimate : ℤ}
    (estimated : ((Nat.toDigits 10 numerator).length : ℤ) - (Nat.toDigits 10 denominator).length =
      estimate) :
    (10 : ℚ) ^ (estimate - 1) ≤ numerator / denominator ∧
      (numerator / denominator : ℚ) < 10 ^ (estimate + 1) := by
  obtain ⟨topLower, topUpper⟩ := pow_le_lt_pow_length top
  obtain ⟨bottomLower, bottomUpper⟩ := pow_le_lt_pow_length bottom
  have bottomCast : (0 : ℚ) < denominator := Nat.cast_pos.mpr bottom
  have ten : (10 : ℚ) ≠ 0 := by norm_num
  constructor
  · rw [le_div_iff₀ bottomCast]
    calc (10 : ℚ) ^ (estimate - 1) * denominator
        ≤ 10 ^ (estimate - 1) * 10 ^ ((Nat.toDigits 10 denominator).length : ℤ) :=
          mul_le_mul_of_nonneg_left bottomUpper.le (by positivity)
      _ = 10 ^ ((Nat.toDigits 10 numerator).length - 1 : ℤ) := by
          rw [← zpow_add₀ ten]
          congr 1
          omega
      _ ≤ numerator := topLower
  · rw [div_lt_iff₀ bottomCast]
    calc (numerator : ℚ)
        < 10 ^ ((Nat.toDigits 10 numerator).length : ℤ) := topUpper
      _ = 10 ^ (estimate + 1) * 10 ^ ((Nat.toDigits 10 denominator).length - 1 : ℤ) := by
          rw [← zpow_add₀ ten]
          congr 1
          omega
      _ ≤ 10 ^ (estimate + 1) * denominator :=
          mul_le_mul_of_nonneg_left bottomLower (by positivity)

theorem leadingOfRatio_eq_log {numerator denominator : Nat} (top : 0 < numerator)
    (bottom : 0 < denominator) :
    leadingOfRatio numerator denominator = Int.log 10 (numerator / denominator : ℚ) := by
  obtain ⟨lower, upper⟩ := pow_le_div_lt_pow top bottom rfl
  unfold leadingOfRatio
  simp only [scaleDown_le_iff bottom]
  split
  · next reached => exact (log_eq_of_le_of_lt reached upper).symm
  · next missed =>
      refine (log_eq_of_le_of_lt lower ?_).symm
      rw [sub_add_cancel]
      exact not_le.mp missed

theorem isNearest_scaleDown {numerator denominator : Nat} (bottom : 0 < denominator)
    (power : Int) :
    IsNearest (10 ^ power) (numerator / denominator)
      (Binary64.roundedQuotient (Binary64.scaleDown 10 numerator denominator power).1
        (Binary64.scaleDown 10 numerator denominator power).2) := by
  apply IsNearest.scale (by positivity)
  have scaled := @Binary64.div_scaleDown 10 (by decide) numerator denominator power
  rw [Nat.cast_ofNat] at scaled
  rw [← scaled]
  exact Binary64.isNearest_roundedQuotient _ (Nat.mul_pos bottom (Nat.pow_pos (by decide)))

theorem cast_pow_mul_zpow (count : ℕ) (power : ℤ) :
    ((10 ^ count : ℕ) : ℚ) * 10 ^ power = 10 ^ (count + power) := by
  rw [Nat.cast_pow, Nat.cast_ofNat, ← zpow_natCast, ← zpow_add₀ (by norm_num)]

/-- The coefficient that rounding finds has all of the digits, or it is the least one that has one
digit more. -/
theorem pow_le_coefficient_le {places coefficient : ℕ} (some : 0 < places) {rational : ℚ}
    (positive : 0 < rational)
    (isNearest : IsNearest (10 ^ (Int.log 10 rational + 1 - places)) rational coefficient) :
    10 ^ (places - 1) ≤ coefficient ∧ coefficient ≤ 10 ^ places := by
  have lower := Int.zpow_log_le_self (b := 10) (by decide) positive
  have upper := Int.lt_zpow_succ_log_self (b := 10) (by decide) rational
  constructor
  · apply isNearest.le_of_le (by positivity)
    have power : ((places - 1 : ℕ) : ℤ) + (Int.log 10 rational + 1 - places) =
        Int.log 10 rational := by omega
    rw [cast_pow_mul_zpow, power]
    exact lower
  · apply isNearest.ge_of_ge (by positivity)
    rw [cast_pow_mul_zpow, add_sub_cancel]
    exact upper.le

theorem length_toDigits_eq {number places : Nat} (some : 0 < places)
    (lower : 10 ^ (places - 1) ≤ number) (upper : number < 10 ^ places) :
    (Nat.toDigits 10 number).length = places := by
  have atMost := (Nat.length_toDigits_le_iff (by decide) some).mpr upper
  have atLeast := (Nat.pow_lt_pow_iff_right (by decide)).mp
    (lower.trans_lt (lt_pow_length_toDigits number))
  omega

/-- Carrying over to one digit more leaves the value as it is. -/
theorem value_carried (places : ℕ) (leading : ℤ) :
    value ⟨1, leading + 1⟩ = (10 ^ places : ℕ) * 10 ^ (leading + 1 - places) := by
  have single : (Nat.toDigits 10 1).length = 1 := rfl
  rw [value, single, cast_pow_mul_zpow, add_sub_cancel, Nat.cast_one, one_mul, Nat.cast_one,
    add_sub_cancel_right]

/-- A positive quotient is rounded to its significant digits. -/
theorem isRounded_rounded {places numerator denominator : Nat} (some : 0 < places)
    (top : 0 < numerator) (bottom : 0 < denominator) :
    IsRounded places (numerator / denominator) (rounded places numerator denominator).value ∧
      0 < (rounded places numerator denominator).coefficient := by
  have isNearest := @isNearest_scaleDown numerator denominator bottom
    (leadingOfRatio numerator denominator + 1 - places)
  unfold rounded
  simp only
  rw [leadingOfRatio_eq_log top bottom] at isNearest ⊢
  generalize Binary64.roundedQuotient _ _ = coefficient at isNearest ⊢
  obtain ⟨atLeast, atMost⟩ := pow_le_coefficient_le some (by positivity) isNearest
  split
  · next carried =>
      rw [Nat.pow_eq] at carried
      rw [carried] at isNearest
      exact ⟨⟨⟨_, isNearest, value_carried ..⟩,
        1, Nat.one_lt_pow some.ne' (by decide), _, rfl⟩, Nat.one_pos⟩
  · next notCarried =>
      have below : coefficient < 10 ^ places := lt_of_le_of_ne atMost notCarried
      refine ⟨⟨⟨_, isNearest, ?_⟩, coefficient, below, _, rfl⟩,
        lt_of_lt_of_le (Nat.pow_pos (by decide)) atLeast⟩
      rw [value, length_toDigits_eq some atLeast below]

end Decimal

end GrammarTables
