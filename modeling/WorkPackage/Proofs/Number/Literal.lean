import WorkPackage.Number.Literal
import WorkPackage.Proofs.Number.Decimal
import WorkPackage.Proofs.Number.Rounding

/-!
# Laws of words

Integers and decimal literals are rounded once, to the nearest word of the width
that is asked for.  A literal of an order that no word of either width reaches is
rounded like any other, although its power of ten is never computed.
-/

namespace WorkPackage

open Binary (Format Encloses withSign)

variable {format : Format} {exact : ℚ}

namespace Binary

theorem ofInt_encloses (bits : 0 < format.fractionBits) (number : Int) :
    ∃ magnitude, ofInt format number = withSign format (number < 0) magnitude ∧
      Encloses format number.natAbs magnitude := by
  have encloses := magnitude_encloses number.natAbs bits Nat.one_pos
  rw [Nat.cast_one, div_one] at encloses
  exact ⟨_, rfl, encloses⟩

theorem ofInt_rounds (bits : 0 < format.fractionBits) (number : Int) :
    Binary.Rounds format (number < 0) |(number : ℚ)| (ofInt format number) := by
  obtain ⟨magnitude, word, encloses⟩ := ofInt_encloses bits number
  rw [Nat.cast_natAbs, Int.cast_abs] at encloses
  exact ⟨magnitude, word, encloses.nearest⟩

end Binary

namespace Literal

/-- Four hundred decimal orders reach beyond all values of the width, and as far
below one beyond the half of the least. -/
structure Reaches (format : Format) : Prop where
  bits : 0 < format.fractionBits
  small : format.finestPlaces < 1200
  great : format.units format.infinity ≤ 2 ^ (1200 + format.finestPlaces)

theorem reaches_single : Reaches .single :=
  ⟨by decide, by decide, by decide +kernel⟩

theorem reaches_double : Reaches .double :=
  ⟨by decide, by decide, by decide +kernel⟩

theorem limit_lt : (2 : ℚ) ^ 1200 < 10 ^ 400 :=
  calc (2 : ℚ) ^ 1200 = (2 ^ 3) ^ 400 := by rw [← pow_mul]
    _ < 10 ^ 400 := pow_lt_pow_left₀ (by norm_num) (by norm_num) (by norm_num)

namespace Reaches

variable (reaches : Reaches format)
include reaches

theorem tiny_lt_midpoint : (10 : ℚ) ^ (-orderLimit) < format.midpoint 0 := by
  have one : format.units 1 = 1 := by
    have short : 1 < 2 ^ format.fractionBits := Nat.one_lt_two_pow reaches.bits.ne'
    have finest := @Format.units_fields format 0 1 short
    rwa [if_pos rfl, Nat.zero_mul, Nat.zero_add] at finest
  calc (10 : ℚ) ^ (-orderLimit) = 1 / 10 ^ 400 := by
        rw [orderLimit, zpow_neg, zpow_ofNat, one_div]
    _ < 1 / 2 ^ 1200 := one_div_lt_one_div_of_lt (by positivity) limit_lt
    _ ≤ 1 / 2 ^ (format.finestPlaces + 1) :=
        one_div_le_one_div_of_le (by positivity)
          (pow_le_pow_right₀ one_le_two reaches.small)
    _ = format.midpoint 0 := by
        rw [Format.midpoint, Format.value_zero, Format.value, one, pow_succ]
        field_simp
        norm_num

theorem infinity_le_great : format.value format.infinity ≤ (10 : ℚ) ^ orderLimit := by
  calc format.value format.infinity ≤ 2 ^ (1200 + format.finestPlaces) /
          2 ^ format.finestPlaces := by
        apply div_le_div_of_nonneg_right _ (by positivity)
        exact_mod_cast reaches.great
    _ = 2 ^ 1200 := by
        rw [pow_add, mul_div_cancel_right₀ _ (by positivity)]
    _ ≤ 10 ^ 400 := limit_lt.le
    _ = (10 : ℚ) ^ orderLimit := by rw [orderLimit, zpow_ofNat]

end Reaches

/-- A positive literal lies between the powers of ten around its order. -/
theorem order_bounds {digits : Nat} (positive : 0 < digits) (exponent : Int) :
    (10 : ℚ) ^ (exponent + (Decimal.digits digits).length - 1) ≤ digits * 10 ^ exponent ∧
      (digits * 10 ^ exponent : ℚ) < 10 ^ (exponent + (Decimal.digits digits).length) := by
  obtain ⟨fewer, counted, least, beyond⟩ := Decimal.digits_order positive
  have scale : (0 : ℚ) < 10 ^ exponent := by positivity
  have ten : (10 : ℚ) ≠ 0 := by norm_num
  rw [counted]
  constructor
  · calc (10 : ℚ) ^ (exponent + (fewer + 1 : Nat) - 1) = 10 ^ fewer * 10 ^ exponent := by
          rw [← zpow_natCast, ← zpow_add₀ ten]
          congr 1
          omega
      _ ≤ digits * 10 ^ exponent := by
          apply mul_le_mul_of_nonneg_right _ scale.le
          exact_mod_cast least
  · calc (digits * 10 ^ exponent : ℚ) < 10 ^ (fewer + 1) * 10 ^ exponent := by
          apply mul_lt_mul_of_pos_right _ scale
          exact_mod_cast beyond
      _ = 10 ^ (exponent + (fewer + 1 : Nat)) := by
          rw [← zpow_natCast, ← zpow_add₀ ten]
          congr 1
          omega

theorem ratio_eq (digits : Nat) (exponent : Int) :
    ((digits * Nat.pow 10 exponent.toNat : Nat) : ℚ) / (Nat.pow 10 (-exponent).toNat : Nat) =
      digits * 10 ^ exponent := by
  have parted : (10 : ℚ) ^ exponent = 10 ^ exponent.toNat / 10 ^ (-exponent).toNat := by
    rw [← zpow_natCast, ← zpow_natCast, ← zpow_sub₀ (by norm_num)]
    congr 1
    omega
  rw [parted, Nat.pow_eq, Nat.pow_eq]
  push_cast
  rw [mul_div_assoc]

/-- A literal is rounded to the nearest word. -/
theorem word_encloses (reaches : Reaches format) (negative : Bool) (digits : Nat)
    (exponent : Int) :
    ∃ magnitude, word format (.finite negative digits exponent) =
        withSign format negative magnitude ∧
      Encloses format (digits * 10 ^ exponent) magnitude := by
  rw [word]
  rcases Nat.eq_zero_or_pos digits with rfl | positive
  · refine ⟨0, if_pos (.inl rfl), ?_⟩
    rw [Nat.cast_zero, zero_mul]
    exact Binary.encloses_zero format
  · obtain ⟨least, beyond⟩ := order_bounds positive exponent
    generalize exponent + ((Decimal.digits digits).length : Int) = order at least beyond ⊢
    by_cases tiny : order < -orderLimit
    · refine ⟨0, if_pos (.inr tiny), Binary.encloses_of_tiny ?_⟩
      calc (digits * 10 ^ exponent : ℚ) < 10 ^ order := beyond
        _ ≤ 10 ^ (-orderLimit) := zpow_le_zpow_right₀ (by norm_num) tiny.le
        _ < format.midpoint 0 := reaches.tiny_lt_midpoint
    · have computed : ¬(digits = 0 ∨ order < -orderLimit) := by
        rintro (zero | less)
        · exact positive.ne' zero
        · exact tiny less
      by_cases great : orderLimit < order
      · refine ⟨_, (if_neg computed).trans (if_pos great), Binary.encloses_of_great ?_⟩
        calc format.value format.infinity ≤ 10 ^ orderLimit := reaches.infinity_le_great
          _ ≤ 10 ^ (order - 1) := zpow_le_zpow_right₀ (by norm_num) (by omega)
          _ ≤ digits * 10 ^ exponent := least
      · refine ⟨_, (if_neg computed).trans (if_neg great), ?_⟩
        have whole : 0 < Nat.pow 10 (-exponent).toNat := Nat.pow_pos (by decide)
        rw [← ratio_eq]
        exact Binary.magnitude_encloses _ reaches.bits whole

end Literal

end WorkPackage
