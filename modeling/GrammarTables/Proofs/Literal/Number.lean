import GrammarTables.Literal.Symbol
import GrammarTables.Proofs.Number.Notation
import GrammarTables.Proofs.Number.Numeral

/-!
# Literals of numeric payloads

The payload of an integer token may be given in several forms, and all forms of one integer have
one literal, with the notation of the integer in it.  The literal of a real number holds the
number rounded to six significant digits, in the notation that suits the rounded number.
-/

namespace GrammarTables

/-! ## Integers -/

/-- The notation of an integer: a minus sign if it is negative, and the digits. -/
def IsIntegerNumeral (numeral : String) (number : Int) : Prop :=
  ∃ digits, IsDecimal digits number.natAbs ∧
    numeral = String.ofList (if number < 0 then '-' :: digits else digits)

theorem isIntegerNumeral_toString (number : Int) : IsIntegerNumeral (toString number) number := by
  refine ⟨_, isDecimal_toDigits number.natAbs, ?_⟩
  cases number with
  | ofNat magnitude =>
      have nonnegative : ¬ Int.ofNat magnitude < 0 := Int.not_lt.mpr (Int.natCast_nonneg _)
      rw [if_neg nonnegative]
      exact Nat.toString_eq_ofList_toDigits
  | negSucc magnitude =>
      rw [if_pos (Int.negSucc_lt_zero _)]
      change "-" ++ toString (magnitude + 1) = _
      rw [Nat.toString_eq_ofList_toDigits, ← String.toList_inj]
      simp

namespace Scalar

/-- The integer that a payload denotes. -/
inductive DenotesInteger : Scalar → Int → Prop where
  | boolean (value : Bool) : DenotesInteger (.boolean value) (if value then 1 else 0)
  | integer (value : Int) : DenotesInteger (.integer value) value
  | real (negative : Bool) (mantissa : Nat) (exponent : Int) :
      DenotesInteger (.real (.finite negative mantissa exponent))
        (Binary64.towardZero (Binary64.rational negative mantissa exponent))
  | text {value : String} {number : Int} (denotes : Numeral.Denotes value number) :
      DenotesInteger (.text value) number

/-- Why a payload denotes no integer. -/
inductive IsRefused : Scalar → RenderError → Prop where
  | absent : IsRefused .absent (.notInteger .absent)
  | list (items : List Scalar) : IsRefused (.list items) (.notInteger (.list items))
  | undefined : IsRefused (.real .undefined) .integerOfUndefined
  | infinite (negative : Bool) : IsRefused (.real (.infinite negative)) .integerOfInfinite
  | malformed (value : String) : IsRefused (.text value) (.malformedInteger value)
  | tooLong (value : String) {count : Nat} (many : 4300 < count) :
      IsRefused (.text value) (.tooManyDigits count)

theorem toInteger_of_denotesInteger {payload : Scalar} {number : Int}
    (denotes : payload.DenotesInteger number) : payload.toInteger = .ok number := by
  cases denotes with
  | boolean value => rfl
  | integer value => rfl
  | real negative mantissa exponent =>
      rw [toInteger, Binary64.truncated_eq_towardZero]
  | text denotes => rw [toInteger, Numeral.readInt_eq_ok_iff.mpr denotes]

theorem isRefused_of_denotesNone {payload : Scalar}
    (none : ∀ number, ¬ payload.DenotesInteger number) :
    ∃ reason, payload.IsRefused reason ∧ payload.toInteger = .error reason := by
  cases payload with
  | absent => exact ⟨_, .absent, rfl⟩
  | boolean value => exact absurd (.boolean value) (none _)
  | integer value => exact absurd (.integer value) (none value)
  | real number =>
      cases number with
      | finite negative mantissa exponent => exact absurd (.real ..) (none _)
      | infinite negative => exact ⟨_, .infinite negative, rfl⟩
      | undefined => exact ⟨_, .undefined, rfl⟩
  | text value =>
      cases read : Numeral.readInt value with
      | ok number => exact absurd (.text (Numeral.readInt_eq_ok_iff.mp read)) (none number)
      | error reason =>
          cases reason with
          | malformed => exact ⟨_, .malformed value, by rw [toInteger, read]⟩
          | tooManyDigits count =>
              exact ⟨_, .tooLong value (Numeral.lt_of_readInt_eq_tooManyDigits read),
                by rw [toInteger, read]⟩
  | list items => exact ⟨_, .list items, rfl⟩

theorem written_integer {value : Int} (short : (Nat.toDigits 10 value.natAbs).length ≤ 4300) :
    (integer value).written = .ok (toString value) := by
  have notLong : (integer value).hasLong = false := by
    rw [hasLong, isLong, decide_eq_false_iff_not]
    exact Nat.not_lt.mpr short
  rw [written, notLong]
  rfl

end Scalar

theorem literal_of_denotesInteger {payload : Scalar} {number : Int}
    (denotes : payload.DenotesInteger number) :
    (Terminal.mk .integerNumber payload).literal =
      (Scalar.integer number).written.map fun text => "Type::IntNum(" ++ text ++ ")" := by
  simp only [Terminal.literal, Scalar.toInteger_of_denotesInteger denotes]
  rfl

/-- An integer of more than 4300 digits has no literal. -/
theorem literal_of_longInteger {payload : Scalar} {number : Int}
    (denotes : payload.DenotesInteger number)
    (long : 4300 < (Nat.toDigits 10 number.natAbs).length) :
    (Terminal.mk .integerNumber payload).literal = .error .integerTooLong := by
  have isLong : (Scalar.integer number).hasLong = true := by
    rw [Scalar.hasLong, Scalar.isLong, decide_eq_true_iff]
    exact long
  rw [literal_of_denotesInteger denotes, Scalar.written, isLong]
  rfl

/-- An integer literal holds the notation of the integer of at most 4300 digits that the payload
denotes, whatever the form of the payload.  A payload that denotes none is refused with the
reason for its kind. -/
theorem literal_of_integerPayload (payload : Scalar) :
    (∀ number, payload.DenotesInteger number →
      (Nat.toDigits 10 number.natAbs).length ≤ 4300 →
      ∃ numeral, IsIntegerNumeral numeral number ∧
        (Terminal.mk .integerNumber payload).literal =
          .ok ("Type::IntNum(" ++ numeral ++ ")")) ∧
    ((∀ number, ¬ payload.DenotesInteger number) →
      ∃ reason, payload.IsRefused reason ∧
        (Terminal.mk .integerNumber payload).literal = .error reason) := by
  constructor
  · intro number denotes short
    refine ⟨toString number, isIntegerNumeral_toString number, ?_⟩
    rw [literal_of_denotesInteger denotes, Scalar.written_integer short]
    rfl
  · intro none
    obtain ⟨reason, isRefused, refused⟩ := Scalar.isRefused_of_denotesNone none
    refine ⟨reason, isRefused, ?_⟩
    simp only [Terminal.literal, refused]
    rfl

/-- White space, a sign, a leading zero, an underscore and digits of two scripts leave the literal
as that of the integer. -/
theorem literal_of_integerPayload_mixedScripts :
    Numeral.Denotes "\u3000+0_\u0667" 7 ∧
      ∃ numeral, IsIntegerNumeral numeral 7 ∧
        (Terminal.mk .integerNumber (.text "\u3000+0_\u0667")).literal =
          .ok ("Type::IntNum(" ++ numeral ++ ")") := by
  have parts : "\u3000+0_\u0667".toList =
      ['\u3000'] ++ (['+'] ++ ['0', '_', '\u0667']) ++ [] := rfl
  have grouped : Numeral.AreGrouped ['0', '_', '\u0667'] [0, 7] := .divided rfl (.last rfl)
  have denotes : Numeral.Denotes "\u3000+0_\u0667" 7 :=
    .numeral parts (List.forall_mem_singleton.mpr (by decide)) .plus grouped (by decide)
  exact ⟨denotes, (literal_of_integerPayload _).1 7 (.text denotes) (by decide)⟩

example : (Terminal.mk .integerNumber (.text "\u3000+0_\u0667")).literal =
    .ok "Type::IntNum(7)" := by rfl

/-! ## Real numbers -/

/-- The literal of a finite number other than zero holds the number rounded to six significant
digits with ties to even, behind a minus sign if the number is negative.  It is in positional
notation if the leading digit of the rounded number is at one of the places from the fourth one
behind the point to the sixth one before it, and otherwise in scientific notation. -/
theorem literal_of_realPayload {mantissa : Nat} (nonzero : mantissa ≠ 0) (negative : Bool)
    (exponent : Int) :
    let number := Binary64.rational negative mantissa exponent
    ∃ characters decimal,
      (Terminal.mk .floatNumber (.real (.finite negative mantissa exponent))).literal =
        .ok ("Type::FloatNum(" ++
          String.ofList (if number < 0 then '-' :: characters else characters) ++ "f64)") ∧
      IsRounded 6 |number| decimal ∧
      if -4 ≤ Int.log 10 decimal ∧ Int.log 10 decimal < 6 then IsPositional characters decimal
      else IsScientific characters decimal := by
  intro number
  obtain ⟨characters, decimal, written, isRounded, laidOut⟩ :=
    Binary64.general_spec (Nat.succ_pos 5) nonzero negative exponent
  refine ⟨characters, decimal, ?_, ?_, laidOut⟩
  · simp only [number, Binary64.rational_neg_iff nonzero]
    rw [← written]
    rfl
  · rwa [Binary64.abs_rational]

/-- Rounding 999999.5 carries over to a seventh digit, which calls for scientific notation. -/
theorem literal_of_realPayload_carried :
    let number := Binary64.rational false (1999999 * 2 ^ 32) (-33)
    ∃ characters decimal,
      (Terminal.mk .floatNumber (.real (.finite false (1999999 * 2 ^ 32) (-33)))).literal =
        .ok ("Type::FloatNum(" ++
          String.ofList (if number < 0 then '-' :: characters else characters) ++ "f64)") ∧
      IsRounded 6 |number| decimal ∧
      if -4 ≤ Int.log 10 decimal ∧ Int.log 10 decimal < 6 then IsPositional characters decimal
      else IsScientific characters decimal :=
  literal_of_realPayload (by decide) false (-33)

example : (Terminal.mk .floatNumber (.real (.finite false (1999999 * 2 ^ 32) (-33)))).literal =
    .ok "Type::FloatNum(1e+06f64)" := by rfl

example : (Terminal.mk .floatNumber (.real (.finite false 7378697260548939 (-66)))).literal =
    .ok "Type::FloatNum(0.0001f64)" := by rfl

end GrammarTables
