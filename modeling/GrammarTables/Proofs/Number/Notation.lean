import GrammarTables.Proofs.Number.Rounding
import Mathlib.Data.List.DropRight

/-!
# Notations of positive decimals

A positive decimal is written in positional or in scientific notation.  Both are given here
apart from the code that lays digits out.  Laid out digits are in the notation that the exponent
of the leading digit calls for, and they denote the decimal.
-/

namespace GrammarTables

/-! ## Notations -/

/-- Positional notation of a rational: whole digits, and behind a point the digits of a fraction
that do not end in a zero. -/
inductive IsPositional : List Char → ℚ → Prop where
  | whole {digits : List Char} {number : Nat} (isWhole : IsDecimal digits number) :
      IsPositional digits number
  | pointed {whole fraction : List Char} {number : Nat} (isWhole : IsDecimal whole number)
      (plain : ∀ character ∈ fraction, character.isDigit = true) (filled : fraction ≠ [])
      (unpadded : fraction.getLast? ≠ some '0') :
      IsPositional (whole ++ '.' :: fraction)
        (number + Nat.ofDigitChars 10 fraction 0 / 10 ^ fraction.length)

/-- The sign of an exponent and at least two digits, with zeros in front only to make two. -/
structure IsExponent (characters : List Char) (exponent : ℤ) : Prop where
  sign : characters.head? = some (if exponent < 0 then '-' else '+')
  plain : ∀ character ∈ characters.tail, character.isDigit = true
  two : 2 ≤ characters.tail.length
  unpadded : characters.tail.head? = some '0' → characters.tail.length = 2
  value : Nat.ofDigitChars 10 characters.tail 0 = exponent.natAbs

/-- Scientific notation of a rational: a significand with one whole digit, which is not zero, and
the exponent behind a mark. -/
inductive IsScientific : List Char → ℚ → Prop where
  | marked {significand characters : List Char} {rational : ℚ} {exponent : ℤ}
      (isSignificand : IsPositional significand rational)
      (oneDigit : 1 ≤ rational ∧ rational < 10) (isExponent : IsExponent characters exponent) :
      IsScientific (significand ++ 'e' :: characters) (rational * 10 ^ exponent)

/-! ## Digits of a coefficient -/

/-- Plain digits that neither begin nor end with a zero. -/
structure IsSignificand (digits : List Char) : Prop where
  plain : ∀ character ∈ digits, character.isDigit = true
  filled : digits ≠ []
  unpaddedFront : digits.head? ≠ some '0'
  unpaddedBack : digits.getLast? ≠ some '0'

/-- Plain digits that do not begin with a zero are the notation of their number. -/
theorem isDecimal_of_head? {digits : List Char}
    (plain : ∀ character ∈ digits, character.isDigit = true) (filled : digits ≠ [])
    (unpadded : digits.head? ≠ some '0') : IsDecimal digits (Nat.ofDigitChars 10 digits 0) where
  plain := plain
  filled := filled
  unpadded zero := absurd zero unpadded
  value := rfl

theorem isDigit_of_mem_replicate {count : Nat} :
    ∀ character ∈ List.replicate count '0', character.isDigit = true := by
  intro character isZero
  rw [List.eq_of_mem_replicate isZero]
  decide

theorem ofDigitChars_append_zero (front back : List Char) :
    Nat.ofDigitChars 10 (front ++ back) 0 =
      10 ^ back.length * Nat.ofDigitChars 10 front 0 + Nat.ofDigitChars 10 back 0 := by
  rw [Nat.ofDigitChars_append, Nat.ofDigitChars_eq_ofDigitChars_zero]

theorem ofDigitChars_replicate_append (count : Nat) (digits : List Char) :
    Nat.ofDigitChars 10 (List.replicate count '0' ++ digits) 0 =
      Nat.ofDigitChars 10 digits 0 := by
  rw [Nat.ofDigitChars_append, Nat.ofDigitChars_replicate_zero, Nat.mul_zero]

theorem ofDigitChars_append_replicate (digits : List Char) (count : Nat) :
    Nat.ofDigitChars 10 (digits ++ List.replicate count '0') 0 =
      10 ^ count * Nat.ofDigitChars 10 digits 0 := by
  rw [Nat.ofDigitChars_append, Nat.ofDigitChars_replicate_zero]

namespace Decimal

theorem digits_eq_rdropWhile {decimal : Decimal} (positive : 0 < decimal.coefficient) :
    decimal.digits = (Nat.toDigits 10 decimal.coefficient).rdropWhile (· == '0') ∧
      (Nat.toDigits 10 decimal.coefficient).rdropWhile (· == '0') ≠ [] := by
  have kept : (Nat.toDigits 10 decimal.coefficient).rdropWhile (· == '0') ≠ [] := by
    intro none
    have isZero := List.rdropWhile_eq_nil_iff.mp none _ (List.head_mem Nat.toDigits_ne_nil)
    have zero := eq_zero_of_head?_toDigits
      (List.head?_eq_some_head Nat.toDigits_ne_nil ▸ congrArg some (eq_of_beq isZero))
    exact positive.ne' zero
  refine ⟨?_, kept⟩
  unfold digits
  simp only
  split
  · next none => exact absurd none kept
  · rfl

/-- The digits of a coefficient are without the zeros at their end. -/
theorem exists_toDigits_eq {decimal : Decimal} (positive : 0 < decimal.coefficient) :
    ∃ count,
      Nat.toDigits 10 decimal.coefficient = decimal.digits ++ List.replicate count '0' := by
  refine ⟨((Nat.toDigits 10 decimal.coefficient).rtakeWhile (· == '0')).length, ?_⟩
  have zeros := List.eq_replicate_of_mem fun character isZero =>
    eq_of_beq (List.mem_rtakeWhile_imp
      (l := Nat.toDigits 10 decimal.coefficient) (p := (· == '0')) isZero)
  rw [(digits_eq_rdropWhile positive).1, ← zeros, List.rdropWhile_append_rtakeWhile]

theorem isSignificand_digits {decimal : Decimal} (positive : 0 < decimal.coefficient) :
    IsSignificand decimal.digits := by
  obtain ⟨same, filled⟩ := digits_eq_rdropWhile positive
  obtain ⟨count, all⟩ := exists_toDigits_eq positive
  refine ⟨?_, same ▸ filled, ?_, ?_⟩
  · intro character isDigit
    apply (isDecimal_toDigits decimal.coefficient).plain
    rw [all]
    exact List.mem_append_left _ isDigit
  · intro zero
    apply positive.ne'
    apply eq_zero_of_head?_toDigits
    rwa [all, List.head?_append_of_ne_nil _ (same ▸ filled)]
  · rw [same, List.getLast?_eq_some_getLast filled]
    intro zero
    exact List.rdropWhile_last_not _ _ filled (beq_iff_eq.mpr (Option.some.inj zero))

theorem value_eq_digits {decimal : Decimal} (positive : 0 < decimal.coefficient) :
    decimal.value = Nat.ofDigitChars 10 decimal.digits 0 *
      10 ^ (decimal.leading + 1 - decimal.digits.length) := by
  obtain ⟨count, all⟩ := exists_toDigits_eq positive
  have coefficient : decimal.coefficient = 10 ^ count * Nat.ofDigitChars 10 decimal.digits 0 := by
    rw [← ofDigitChars_append_replicate, ← all, Nat.ofDigitChars_ten_toDigits]
  have length := congrArg List.length all
  rw [List.length_append, List.length_replicate] at length
  rw [value, length]
  conv_lhs => rw [coefficient]
  rw [Nat.cast_mul, mul_comm ((10 ^ count : ℕ) : ℚ), mul_assoc, cast_pow_mul_zpow]
  congr 2
  omega

/-! ## Layouts -/

variable {digits : List Char}

/-- Below one there are a zero before the point and zeros up to the leading digit behind it. -/
theorem isPositional_belowOne (significand : IsSignificand digits) {leading : Int}
    (small : leading < 0) :
    IsPositional ('0' :: '.' :: (List.replicate (-leading - 1).toNat '0' ++ digits))
      (Nat.ofDigitChars 10 digits 0 * 10 ^ (leading + 1 - digits.length)) := by
  have isZero : IsDecimal ['0'] 0 := isDecimal_toDigits 0
  have rational : (Nat.ofDigitChars 10 digits 0 : ℚ) * 10 ^ (leading + 1 - digits.length) =
      (0 : ℕ) + (Nat.ofDigitChars 10 (List.replicate (-leading - 1).toNat '0' ++ digits) 0 : ℕ) /
        10 ^ (List.replicate (-leading - 1).toNat '0' ++ digits).length := by
    rw [ofDigitChars_replicate_append, Nat.cast_zero, zero_add, List.length_append,
      List.length_replicate, div_eq_mul_inv, ← zpow_natCast, ← zpow_neg]
    congr 2
    omega
  rw [rational]
  apply IsPositional.pointed isZero
  · exact List.forall_mem_append.mpr ⟨isDigit_of_mem_replicate, significand.plain⟩
  · exact List.append_ne_nil_of_right_ne_nil _ significand.filled
  · rw [List.getLast?_append_of_ne_nil _ significand.filled]
    exact significand.unpaddedBack

/-- Digits that do not reach the place of the units are filled up with zeros. -/
theorem isPositional_filledUp (significand : IsSignificand digits) {leading : Int} {count : Nat}
    (reaches : (digits.length + count : Int) = leading + 1) :
    IsPositional (digits ++ List.replicate count '0')
      (Nat.ofDigitChars 10 digits 0 * 10 ^ (leading + 1 - digits.length)) := by
  have rational : (Nat.ofDigitChars 10 digits 0 : ℚ) * 10 ^ (leading + 1 - digits.length) =
      (Nat.ofDigitChars 10 (digits ++ List.replicate count '0') 0 : ℕ) := by
    rw [ofDigitChars_append_replicate, Nat.cast_mul, Nat.cast_pow, Nat.cast_ofNat, mul_comm,
      ← reaches, add_sub_cancel_left, zpow_natCast]
  rw [rational]
  apply IsPositional.whole
  apply isDecimal_of_head?
  · exact List.forall_mem_append.mpr ⟨significand.plain, isDigit_of_mem_replicate⟩
  · exact List.append_ne_nil_of_left_ne_nil significand.filled _
  · rw [List.head?_append_of_ne_nil _ significand.filled]
    exact significand.unpaddedFront

/-- Digits that go on behind the place of the units are divided by the point. -/
theorem isPositional_divided (significand : IsSignificand digits) {leading : Int} {whole : Nat}
    (positive : 0 < whole) (isPlace : (whole : Int) = leading + 1)
    (longer : whole < digits.length) :
    IsPositional (digits.take whole ++ '.' :: digits.drop whole)
      (Nat.ofDigitChars 10 digits 0 * 10 ^ (leading + 1 - digits.length)) := by
  have length : ((digits.drop whole).length : Int) = digits.length - (leading + 1) := by
    rw [List.length_drop]
    omega
  have number := ofDigitChars_append_zero (digits.take whole) (digits.drop whole)
  rw [List.take_append_drop] at number
  have rational : (Nat.ofDigitChars 10 digits 0 : ℚ) * 10 ^ (leading + 1 - digits.length) =
      (Nat.ofDigitChars 10 (digits.take whole) 0 : ℕ) +
        (Nat.ofDigitChars 10 (digits.drop whole) 0 : ℕ) / 10 ^ (digits.drop whole).length := by
    rw [number, ← neg_sub, ← length, zpow_neg, zpow_natCast, Nat.cast_add, Nat.cast_mul,
      Nat.cast_pow, Nat.cast_ofNat]
    field_simp
  rw [rational]
  apply IsPositional.pointed
  · apply isDecimal_of_head?
    · exact fun character isKept => significand.plain character (List.mem_of_mem_take isKept)
    · simpa [positive.ne'] using significand.filled
    · rw [List.head?_take, if_neg positive.ne']
      exact significand.unpaddedFront
  · exact fun character isLeft => significand.plain character (List.mem_of_mem_drop isLeft)
  · simpa using longer
  · rw [List.getLast?_drop, if_neg longer.not_ge]
    exact significand.unpaddedBack

theorem isPositional_positional (significand : IsSignificand digits) (leading : Int) :
    IsPositional (positional false digits leading)
      (Nat.ofDigitChars 10 digits 0 * 10 ^ (leading + 1 - digits.length)) := by
  unfold positional
  split
  · next small => exact isPositional_belowOne significand small
  · next large =>
      simp only
      split
      · next short =>
          rw [if_neg Bool.false_ne_true, List.append_nil]
          apply isPositional_filledUp significand
          omega
      · next long =>
          apply isPositional_divided significand (Nat.succ_pos _) _ (Nat.not_le.mp long)
          omega

theorem isExponent_exponentText (exponent : Int) :
    ∃ characters, exponentText exponent = 'e' :: characters ∧ IsExponent characters exponent := by
  have isDecimal := isDecimal_toDigits exponent.natAbs
  have filled : 0 < (Nat.toDigits 10 exponent.natAbs).length := Nat.length_toDigits_pos
  unfold exponentText
  simp only
  generalize Nat.toDigits 10 exponent.natAbs = digits at isDecimal filled ⊢
  by_cases short : digits.length < 2
  · rw [if_pos short]
    refine ⟨_, rfl, rfl, ?_, ?_, ?_, ?_⟩
    · exact List.forall_mem_cons.mpr ⟨by decide, isDecimal.plain⟩
    · exact Nat.succ_le_succ filled
    · intro _
      exact congrArg Nat.succ (by omega)
    · rw [List.tail_cons, Nat.ofDigitChars_cons]
      exact isDecimal.value
  · rw [if_neg short]
    refine ⟨_, rfl, rfl, isDecimal.plain, Nat.not_lt.mp short, ?_, isDecimal.value⟩
    intro zero
    rw [List.tail_cons] at zero
    rw [isDecimal.unpadded zero] at short
    exact absurd (by decide) short

/-- Scientific layout is that by place for the exponent zero, with the exponent behind it. -/
theorem scientific_eq_append (filled : digits ≠ []) (leading : Int) :
    scientific digits leading = positional false digits 0 ++ exponentText leading := by
  cases digits with
  | nil => exact absurd rfl filled
  | cons digit rest =>
      cases rest with
      | nil => rfl
      | cons next rest => simp [scientific, positional]

/-- A laid out decimal is in the notation that the exponent of its leading digit calls for. -/
theorem render_spec {layout : Layout} (unmarked : layout.marksWhole = false) {decimal : Decimal}
    (positive : 0 < decimal.coefficient) :
    if layout.positionalFrom ≤ Int.log 10 decimal.value ∧
        Int.log 10 decimal.value < layout.positionalBelow then
      IsPositional (decimal.render layout) decimal.value
    else IsScientific (decimal.render layout) decimal.value := by
  have significand := isSignificand_digits positive
  have valuePositive : 0 < decimal.value := mul_pos (Nat.cast_pos.mpr positive) (by positivity)
  have lower := Int.zpow_log_le_self (b := 10) (by decide) valuePositive
  have upper := Int.lt_zpow_succ_log_self (b := 10) (by decide) decimal.value
  have ten : (10 : ℚ) ≠ 0 := by norm_num
  rw [log_value positive, Nat.cast_ofNat] at lower upper
  simp only [log_value positive, render, unmarked, Bool.and_eq_true, decide_eq_true_eq]
  split
  · rw [value_eq_digits positive]
    exact isPositional_positional significand decimal.leading
  · obtain ⟨characters, marked, isExponent⟩ := isExponent_exponentText decimal.leading
    have rational : decimal.value =
        Nat.ofDigitChars 10 decimal.digits 0 * 10 ^ (0 + 1 - decimal.digits.length : ℤ) *
          10 ^ decimal.leading := by
      rw [value_eq_digits positive, mul_assoc, ← zpow_add₀ ten]
      congr 2
      omega
    rw [scientific_eq_append significand.filled, marked]
    rw [rational] at lower upper ⊢
    have scalePositive : (0 : ℚ) < 10 ^ decimal.leading := by positivity
    refine .marked (isPositional_positional significand 0) ⟨?_, ?_⟩ isExponent
    · exact le_of_mul_le_mul_right (by rwa [one_mul]) scalePositive
    · refine lt_of_mul_lt_mul_right ?_ scalePositive.le
      rwa [zpow_add_one₀ ten, mul_comm _ (10 : ℚ)] at upper

end Decimal

/-- A number written with a count of significant digits is the rounded magnitude, in the notation
that the leading digit of the latter calls for. -/
theorem Binary64.general_spec {places mantissa : Nat} (some : 0 < places) (nonzero : mantissa ≠ 0)
    (negative : Bool) (exponent : Int) :
    ∃ characters decimal,
      (finite negative mantissa exponent).general places =
        String.ofList (if negative then '-' :: characters else characters) ∧
      IsRounded places (magnitude mantissa exponent) decimal ∧
      if -4 ≤ Int.log 10 decimal ∧ Int.log 10 decimal < places then
        IsPositional characters decimal
      else IsScientific characters decimal := by
  obtain ⟨top, bottom⟩ :=
    scaleDown_pos (-exponent) two_pos (Nat.pos_of_ne_zero nonzero) Nat.one_pos
  have isRounded := Decimal.isRounded_rounded some top bottom
  rw [div_scaleDown_two] at isRounded
  refine ⟨_, _, ?_, isRounded.1, @Decimal.render_spec (generalLayout places) rfl _ isRounded.2⟩
  simp only [general, render, if_neg nonzero]

end GrammarTables
