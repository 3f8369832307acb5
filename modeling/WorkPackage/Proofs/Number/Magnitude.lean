import WorkPackage.Number.Binary
import Mathlib.Algebra.Order.Field.Basic
import Mathlib.Data.Rat.Cast.Order
import Mathlib.Order.Monotone.Basic
import Mathlib.Tactic.Linarith
import Mathlib.Tactic.Ring
import Mathlib.Tactic.Positivity
import Mathlib.Tactic.FieldSimp
import Mathlib.Tactic.NormNum

/-!
# Magnitudes

A magnitude is a word without its sign bit.  Magnitudes count the points of the
grid of a format: their values ascend with them, and between two powers of two
they lie evenly.  Infinity is taken for the power of two behind the greatest
finite value, where the next magnitude would lie; so it is that point which
decides what is rounded to infinity.
-/

namespace WorkPackage.Binary

namespace Format

/-- The value of a magnitude in steps of the finest grid. -/
def units (format : Format) (magnitude : Nat) : Nat :=
  let field := magnitude / 2 ^ format.fractionBits
  let fraction := magnitude % 2 ^ format.fractionBits
  if field = 0 then fraction
  else (fraction + 2 ^ format.fractionBits) * 2 ^ (field - 1)

def value (format : Format) (magnitude : Nat) : ℚ :=
  format.units magnitude / 2 ^ format.finestPlaces

/-- The point halfway between a magnitude and the next. -/
def midpoint (format : Format) (magnitude : Nat) : ℚ :=
  (format.value magnitude + format.value (magnitude + 1)) / 2

variable {format : Format} {field significand fraction magnitude : Nat}

theorem units_fields (bounded : fraction < 2 ^ format.fractionBits) :
    format.units (field * 2 ^ format.fractionBits + fraction) =
      if field = 0 then fraction
      else (fraction + 2 ^ format.fractionBits) * 2 ^ (field - 1) := by
  have quotient :
      (field * 2 ^ format.fractionBits + fraction) / 2 ^ format.fractionBits = field := by
    rw [Nat.mul_comm, Nat.mul_add_div (Nat.two_pow_pos _), Nat.div_eq_of_lt bounded,
      Nat.add_zero]
  have remainder :
      (field * 2 ^ format.fractionBits + fraction) % 2 ^ format.fractionBits =
        fraction := by
    rw [Nat.mul_comm, Nat.mul_add_mod, Nat.mod_eq_of_lt bounded]
  rw [units, quotient, remainder]

/-- A significand on the grid of a field is a magnitude.  The field is counted up
by the leading bit of the significand, if it has one. -/
theorem units_grid (bounded : significand ≤ 2 ^ (format.fractionBits + 1))
    (leading : field = 0 ∨ 2 ^ format.fractionBits ≤ significand) :
    format.units (field * 2 ^ format.fractionBits + significand) =
      significand * 2 ^ field := by
  have positive : 0 < 2 ^ format.fractionBits := Nat.two_pow_pos _
  rw [Nat.pow_succ] at bounded
  rcases Nat.lt_or_ge significand (2 ^ format.fractionBits) with small | normal
  · have finest : field = 0 := by omega
    rw [units_fields small, if_pos finest, finest, Nat.pow_zero, Nat.mul_one]
  · obtain ⟨fraction, rfl⟩ := Nat.exists_eq_add_of_le normal
    rcases Nat.lt_or_ge fraction (2 ^ format.fractionBits) with inside | full
    · have counted : field * 2 ^ format.fractionBits + (2 ^ format.fractionBits + fraction) =
          (field + 1) * 2 ^ format.fractionBits + fraction := by ring
      rw [counted, units_fields inside, if_neg (Nat.succ_ne_zero field),
        Nat.add_sub_cancel, Nat.add_comm fraction]
    · -- The power of two behind the grid opens the next one.
      have whole : fraction = 2 ^ format.fractionBits := by omega
      have counted : field * 2 ^ format.fractionBits + (2 ^ format.fractionBits + fraction) =
          (field + 2) * 2 ^ format.fractionBits + 0 := by
        rw [whole]
        ring
      rw [counted, units_fields positive, if_neg (Nat.succ_ne_zero _), whole]
      simp only [Nat.add_one_sub_one, Nat.pow_succ]
      ring

/-- Every magnitude is a significand on a grid, with a next one on the same. -/
theorem exists_grid (format : Format) (magnitude : Nat) :
    ∃ field significand,
      magnitude = field * 2 ^ format.fractionBits + significand ∧
      significand < 2 ^ (format.fractionBits + 1) ∧
      (field = 0 ∨ 2 ^ format.fractionBits ≤ significand) := by
  have positive : 0 < 2 ^ format.fractionBits := Nat.two_pow_pos _
  have parted := Nat.div_add_mod magnitude (2 ^ format.fractionBits)
  have bounded := Nat.mod_lt magnitude positive
  rw [Nat.pow_succ]
  cases fields : magnitude / 2 ^ format.fractionBits with
  | zero =>
      refine ⟨0, magnitude % 2 ^ format.fractionBits, ?_, by omega, .inl rfl⟩
      rw [fields] at parted
      omega
  | succ field =>
      refine ⟨field, 2 ^ format.fractionBits + magnitude % 2 ^ format.fractionBits,
        ?_, by omega, .inr (Nat.le_add_right _ _)⟩
      rw [fields, Nat.mul_succ, Nat.mul_comm] at parted
      omega

theorem units_strictMono (format : Format) : StrictMono format.units := by
  apply strictMono_nat_of_lt_succ
  intro magnitude
  obtain ⟨field, significand, rfl, bounded, leading⟩ := format.exists_grid magnitude
  rw [Nat.add_assoc, units_grid bounded.le leading, units_grid bounded (by omega)]
  exact Nat.mul_lt_mul_of_pos_right (Nat.lt_succ_self significand) (Nat.two_pow_pos field)

theorem value_strictMono (format : Format) : StrictMono format.value := by
  intro lower upper below
  have units : (format.units lower : ℚ) < format.units upper := by
    exact_mod_cast format.units_strictMono below
  exact div_lt_div_of_pos_right units (by positivity)

@[simp] theorem value_zero (format : Format) : format.value 0 = 0 := by
  simp [value, units]

theorem value_lt_midpoint (format : Format) (magnitude : Nat) :
    format.value magnitude < format.midpoint magnitude := by
  have next := format.value_strictMono (Nat.lt_succ_self magnitude)
  rw [Nat.succ_eq_add_one] at next
  rw [midpoint]
  linarith

theorem midpoint_lt_value (format : Format) (magnitude : Nat) :
    format.midpoint magnitude < format.value (magnitude + 1) := by
  have next := format.value_strictMono (Nat.lt_succ_self magnitude)
  rw [Nat.succ_eq_add_one] at next
  rw [midpoint]
  linarith

theorem midpoint_strictMono (format : Format) : StrictMono format.midpoint := by
  apply strictMono_nat_of_lt_succ
  intro magnitude
  exact (format.midpoint_lt_value magnitude).trans (format.value_lt_midpoint _)

/-- Whatever has no more bits than a significand is a magnitude on every grid. -/
theorem exists_units (format : Format)
    (bounded : significand ≤ 2 ^ (format.fractionBits + 1)) :
    ∃ magnitude, format.units magnitude = significand * 2 ^ field := by
  induction field generalizing significand with
  | zero => exact ⟨_, units_grid bounded (.inl rfl)⟩
  | succ field induction =>
      rcases Nat.lt_or_ge significand (2 ^ format.fractionBits) with small | normal
      · -- A shorter significand is doubled and moves to the next finer grid.
        have doubled : 2 * significand ≤ 2 ^ (format.fractionBits + 1) := by
          rw [Nat.pow_succ]
          omega
        obtain ⟨magnitude, same⟩ := induction doubled
        refine ⟨magnitude, same.trans ?_⟩
        rw [Nat.pow_succ]
        ring
      · exact ⟨_, units_grid bounded (.inr normal)⟩

section Signs

theorem infinity_lt_signBit (format : Format) : format.infinity < format.signBit := by
  have positive : 0 < 2 ^ format.fractionBits := Nat.two_pow_pos _
  have exponents : 0 < 2 ^ format.exponentBits := Nat.two_pow_pos _
  rw [infinity, signBit, Nat.pow_eq, Nat.pow_eq, Nat.pow_eq, Nat.pow_add]
  exact Nat.mul_lt_mul_of_pos_right (Nat.sub_lt exponents Nat.one_pos) positive

/-- A word and its sign fill the width. -/
theorem withSign_lt (within : magnitude ≤ format.infinity) (negative : Bool) :
    withSign format negative magnitude < 2 * format.signBit := by
  have below := format.infinity_lt_signBit
  cases negative with
  | false =>
      change magnitude < _
      omega
  | true =>
      change format.signBit + magnitude < _
      omega

theorem withSign_injective {negative : Bool} {left right : Nat}
    (same : withSign format negative left = withSign format negative right) :
    left = right := by
  cases negative with
  | false => exact same
  | true => exact Nat.add_left_cancel same

theorem withSign_sign (below : magnitude < format.signBit) (negative : Bool) :
    decide (format.signBit ≤ withSign format negative magnitude) = negative := by
  cases negative with
  | false => exact decide_eq_false (Nat.not_le.mpr below)
  | true => exact decide_eq_true (Nat.le_add_right _ _)

theorem withSign_magnitude (below : magnitude < format.signBit) (negative : Bool) :
    withSign format negative magnitude % format.signBit = magnitude := by
  cases negative with
  | false => exact Nat.mod_eq_of_lt below
  | true => exact (Nat.add_mod_left _ _).trans (Nat.mod_eq_of_lt below)

/-- A finite word is decoded to its sign and its value. -/
theorem decode_finite (finite : magnitude < format.infinity) (negative : Bool) :
    ∃ significand exponent,
      decode format (withSign format negative magnitude) =
        .finite negative significand exponent ∧
      (significand : ℚ) * 2 ^ exponent = format.value magnitude := by
  have below := finite.trans format.infinity_lt_signBit
  rw [decode, withSign_magnitude below, withSign_sign below, if_neg finite.ne,
    if_neg finite.asymm, Nat.pow_eq]
  by_cases finest : magnitude / 2 ^ format.fractionBits = 0
  · rw [if_pos finest]
    refine ⟨_, _, rfl, ?_⟩
    rw [value, units, if_pos finest, zpow_neg, zpow_natCast, div_eq_mul_inv]
  · rw [if_neg finest]
    refine ⟨_, _, rfl, ?_⟩
    obtain ⟨field, counted⟩ := Nat.exists_eq_succ_of_ne_zero finest
    have places : ((field.succ : Nat) : Int) - 1 - format.finestPlaces =
        (field : Int) - format.finestPlaces := by
      rw [Nat.cast_succ, add_sub_cancel_right]
    rw [value, units, if_neg finest, counted, places, zpow_sub₀ two_ne_zero,
      zpow_natCast, zpow_natCast, Nat.succ_sub_one, Nat.cast_mul, Nat.cast_pow,
      Nat.cast_two, mul_div_assoc]

theorem decode_infinity (format : Format) (negative : Bool) :
    decode format (withSign format negative format.infinity) = .infinite negative := by
  have below := format.infinity_lt_signBit
  rw [decode, withSign_magnitude below, withSign_sign below, if_pos rfl]

end Signs

end Format

end WorkPackage.Binary
