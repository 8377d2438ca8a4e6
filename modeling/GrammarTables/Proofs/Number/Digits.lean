import Mathlib.Data.List.Basic
import Mathlib.Data.Nat.Digits.Defs

/-!
# Decimal digits in positional notation

Naturals are written with plain digits and without superfluous zeros in front.  How many digits
there are tells how large the natural is.
-/

namespace GrammarTables

/-- Plain digits that denote a natural, with a zero in front only if it is the only digit. -/
structure IsDecimal (characters : List Char) (number : Nat) : Prop where
  plain : ∀ character ∈ characters, character.isDigit = true
  filled : characters ≠ []
  unpadded : characters.head? = some '0' → characters = ['0']
  value : Nat.ofDigitChars 10 characters 0 = number

theorem eq_zero_of_head?_toDigits {number : Nat}
    (zero : (Nat.toDigits 10 number).head? = some '0') : number = 0 := by
  induction number using Nat.strongRecOn with
  | ind number ih =>
      rw [Nat.toDigits_eq_if (by decide)] at zero
      split at zero
      · next small =>
          have single : ∀ digit < 10, some digit.digitChar = some '0' → digit = 0 := by decide
          exact single number small zero
      · rw [List.head?_append_of_ne_nil _ Nat.toDigits_ne_nil] at zero
        have noTens := ih (number / 10) (by omega) zero
        omega

theorem isDecimal_toDigits (number : Nat) : IsDecimal (Nat.toDigits 10 number) number where
  plain _ isDigit := Nat.isDigit_of_mem_toDigits (by decide) (by decide) isDigit
  filled := Nat.toDigits_ne_nil
  unpadded zero := by
    rw [eq_zero_of_head?_toDigits zero, Nat.toDigits_zero]
  value := Nat.ofDigitChars_ten_toDigits

theorem isDecimal_toString (number : Nat) : IsDecimal (toString number).toList number := by
  rw [Nat.toString_eq_ofList_toDigits, String.toList_ofList]
  exact isDecimal_toDigits number

theorem lt_pow_length_toDigits (number : Nat) :
    number < 10 ^ (Nat.toDigits 10 number).length :=
  (Nat.length_toDigits_le_iff (by decide) Nat.length_toDigits_pos).mp le_rfl

theorem pow_le_of_lt_length_toDigits {number power : Nat} (positive : 0 < number)
    (longer : power < (Nat.toDigits 10 number).length) : 10 ^ power ≤ number := by
  cases power with
  | zero => exact positive
  | succ power =>
      rw [← Nat.not_lt, ← Nat.length_toDigits_le_iff (by decide) (Nat.succ_pos _)]
      omega

end GrammarTables
