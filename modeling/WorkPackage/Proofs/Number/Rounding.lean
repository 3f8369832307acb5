import WorkPackage.Proofs.Number.Magnitude
import Mathlib.Algebra.Order.Ring.Abs
import Mathlib.Algebra.Order.Field.Power

/-!
# Rounding to the nearest

`Binary.magnitude` rounds a ratio to the nearest magnitude, and of two that are
equally near to the even one.  A magnitude is right for what lies between the
midpoints around it; on a midpoint itself the even one of both neighbours is.
-/

namespace WorkPackage.Binary

variable {format : Format} {exact : ℚ} {magnitude other : Nat}

/-- No magnitude is nearer, and of those that are as near this is the even one. -/
structure Nearest (format : Format) (exact : ℚ) (magnitude : Nat) : Prop where
  within : magnitude ≤ format.infinity
  nearest : ∀ other ≤ format.infinity,
    |format.value magnitude - exact| ≤ |format.value other - exact|
  even : ∀ other ≤ format.infinity, other ≠ magnitude →
    |format.value magnitude - exact| = |format.value other - exact| →
    magnitude % 2 = 0

/-- A word has a sign, and a magnitude nearest to the exact one. -/
def Rounds (format : Format) (negative : Bool) (exact : ℚ) (word : Nat) : Prop :=
  ∃ magnitude, word = withSign format negative magnitude ∧ Nearest format exact magnitude

/-- The midpoints on both sides enclose what is rounded to a magnitude; they
belong to an even one. -/
structure Encloses (format : Format) (exact : ℚ) (magnitude : Nat) : Prop where
  within : magnitude ≤ format.infinity
  lower : ∀ previous, magnitude = previous + 1 →
    format.midpoint previous ≤ exact ∧
      (format.midpoint previous = exact → magnitude % 2 = 0)
  upper : magnitude < format.infinity →
    exact ≤ format.midpoint magnitude ∧
      (exact = format.midpoint magnitude → magnitude % 2 = 0)

/-- Is something rounded to more than a magnitude? -/
def Exceeds (format : Format) (exact : ℚ) (magnitude : Nat) : Prop :=
  format.midpoint magnitude < exact ∨
    format.midpoint magnitude = exact ∧ magnitude % 2 = 1

section Distance

variable {left right : ℚ}

theorem distance_le_iff (apart : left < right) :
    |right - exact| ≤ |left - exact| ↔ (left + right) / 2 ≤ exact := by
  rw [← sq_le_sq]
  constructor
  · intro closer
    nlinarith
  · intro beyond
    nlinarith

theorem distance_le_iff' (apart : left < right) :
    |left - exact| ≤ |right - exact| ↔ exact ≤ (left + right) / 2 := by
  rw [← sq_le_sq]
  constructor
  · intro closer
    nlinarith
  · intro beyond
    nlinarith

end Distance

namespace Encloses

section Neighbours

variable (encloses : Encloses format exact magnitude)
include encloses

theorem lower_other (less : other < magnitude) :
    (format.value other + format.value magnitude) / 2 ≤ exact ∧
      ((format.value other + format.value magnitude) / 2 = exact → magnitude % 2 = 0) := by
  obtain ⟨previous, rfl⟩ := Nat.exists_eq_succ_of_ne_zero (Nat.ne_zero_of_lt less)
  obtain ⟨beyond, even⟩ := encloses.lower previous rfl
  have further : format.value other ≤ format.value previous :=
    format.value_strictMono.monotone (Nat.le_of_lt_succ less)
  rw [Format.midpoint] at beyond even
  rw [Nat.succ_eq_add_one]
  refine ⟨by linarith, fun same => even (by linarith)⟩

theorem upper_other (more : magnitude < other) (bounded : other ≤ format.infinity) :
    exact ≤ (format.value magnitude + format.value other) / 2 ∧
      (exact = (format.value magnitude + format.value other) / 2 → magnitude % 2 = 0) := by
  obtain ⟨within, even⟩ := encloses.upper (Nat.lt_of_lt_of_le more bounded)
  have further : format.value (magnitude + 1) ≤ format.value other :=
    format.value_strictMono.monotone more
  rw [Format.midpoint] at within even
  refine ⟨by linarith, fun same => even (by linarith)⟩

theorem nearest : Nearest format exact magnitude where
  within := encloses.within
  nearest := by
    intro other bounded
    rcases Nat.lt_trichotomy other magnitude with less | same | more
    · exact (distance_le_iff (format.value_strictMono less)).mpr
        (encloses.lower_other less).1
    · rw [same]
    · exact (distance_le_iff' (format.value_strictMono more)).mpr
        (encloses.upper_other more bounded).1
  even := by
    intro other bounded different equal
    rcases Nat.lt_or_gt_of_ne different with less | more
    · obtain ⟨beyond, even⟩ := encloses.lower_other less
      have apart := format.value_strictMono less
      exact even (beyond.antisymm ((distance_le_iff' apart).mp equal.symm.le))
    · obtain ⟨within, even⟩ := encloses.upper_other more bounded
      have apart := format.value_strictMono more
      exact even (within.antisymm ((distance_le_iff apart).mp equal.symm.le))

/-- Rounding compares with the midpoints. -/
theorem exceeds_iff (finite : other < format.infinity) :
    other < magnitude ↔ Exceeds format exact other := by
  constructor
  · intro more
    obtain ⟨previous, rfl⟩ := Nat.exists_eq_succ_of_ne_zero (Nat.ne_zero_of_lt more)
    obtain ⟨beyond, even⟩ := encloses.lower previous rfl
    rcases Nat.lt_or_eq_of_le (Nat.le_of_lt_succ more) with less | rfl
    · exact .inl (lt_of_lt_of_le (format.midpoint_strictMono less) beyond)
    · rcases beyond.lt_or_eq with above | same
      · exact .inl above
      · have parity := even same
        exact .inr ⟨same, by omega⟩
  · intro exceeds
    apply Nat.lt_of_not_le
    intro less
    obtain ⟨within, even⟩ := encloses.upper (Nat.lt_of_le_of_lt less finite)
    have ordered : format.midpoint magnitude ≤ format.midpoint other :=
      format.midpoint_strictMono.monotone less
    rcases exceeds with above | ⟨same, odd⟩
    · linarith
    · have on : exact = format.midpoint magnitude := by linarith
      have equal : magnitude = other :=
        format.midpoint_strictMono.injective (on.symm.trans same.symm)
      have parity := even on
      omega

end Neighbours

theorem unique (left : Encloses format exact magnitude)
    (right : Encloses format exact other) : magnitude = other := by
  rcases Nat.lt_trichotomy magnitude other with less | same | more
  · have finite := Nat.lt_of_lt_of_le less right.within
    have self := (left.exceeds_iff finite).mpr ((right.exceeds_iff finite).mp less)
    exact absurd self (Nat.lt_irrefl _)
  · exact same
  · have finite := Nat.lt_of_lt_of_le more left.within
    have self := (right.exceeds_iff finite).mpr ((left.exceeds_iff finite).mp more)
    exact absurd self (Nat.lt_irrefl _)

end Encloses

section Ratio

variable {numerator denominator : Nat} {exponent : Int}

theorem nearestEven_bounds (numerator : Nat) (positive : 0 < denominator) :
    2 * (nearestEven numerator denominator * denominator) ≤ 2 * numerator + denominator ∧
    2 * numerator ≤ 2 * (nearestEven numerator denominator * denominator) + denominator ∧
    (2 * (nearestEven numerator denominator * denominator) = 2 * numerator + denominator ∨
      2 * numerator = 2 * (nearestEven numerator denominator * denominator) + denominator →
      nearestEven numerator denominator % 2 = 0) := by
  have parted := Nat.div_add_mod' numerator denominator
  have bounded := Nat.mod_lt numerator positive
  rw [nearestEven]
  generalize numerator / denominator = floor at parted ⊢
  generalize numerator % denominator = rest at parted bounded ⊢
  rcases Nat.lt_trichotomy (2 * rest) denominator with near | middle | far
  · rw [if_pos near]
    omega
  · rw [if_neg middle.not_lt, if_neg middle.not_gt]
    rcases Nat.mod_two_eq_zero_or_one floor with even | odd
    · rw [even, Nat.add_zero]
      omega
    · rw [odd, Nat.add_mul, Nat.one_mul]
      omega
  · rw [if_neg (Nat.lt_asymm far), if_pos far, Nat.add_mul, Nat.one_mul]
    omega

/-- Half a step is the farthest, and then the whole number is even. -/
theorem nearestEven_spec (numerator : Nat) (positive : 0 < denominator) :
    (nearestEven numerator denominator : ℚ) ≤ numerator / denominator + 1 / 2 ∧
    (numerator / denominator : ℚ) ≤ nearestEven numerator denominator + 1 / 2 ∧
    ((nearestEven numerator denominator : ℚ) = numerator / denominator + 1 / 2 ∨
      (numerator / denominator : ℚ) = nearestEven numerator denominator + 1 / 2 →
      nearestEven numerator denominator % 2 = 0) := by
  obtain ⟨above, below, even⟩ := nearestEven_bounds numerator positive
  generalize nearestEven numerator denominator = nearest at above below even ⊢
  have whole : (0 : ℚ) < denominator := by exact_mod_cast positive
  have product : (numerator / denominator : ℚ) * denominator = numerator :=
    div_mul_cancel₀ _ whole.ne'
  have cast_above : (2 * (nearest * denominator) : ℚ) ≤ 2 * numerator + denominator := by
    exact_mod_cast above
  have cast_below : (2 * numerator : ℚ) ≤ 2 * (nearest * denominator) + denominator := by
    exact_mod_cast below
  rw [← product] at cast_above cast_below
  refine ⟨?_, ?_, ?_⟩
  · apply le_of_mul_le_mul_right _ whole
    linarith
  · apply le_of_mul_le_mul_right _ whole
    linarith
  · intro middle
    apply even
    rcases middle with beyond | short
    · left
      have cast : (2 * (nearest * denominator) : ℚ) = 2 * numerator + denominator := by
        rw [beyond, add_mul, product]
        ring
      exact_mod_cast cast
    · right
      have cast : (2 * numerator : ℚ) = 2 * (nearest * denominator) + denominator := by
        rw [← product, short]
        ring
      exact_mod_cast cast

theorem scaled_positive (numerator : Nat) (positive : 0 < denominator) (exponent : Int) :
    0 < (scaled numerator denominator exponent).2 :=
  Nat.mul_pos positive (Nat.two_pow_pos _)

theorem scaled_ratio (numerator denominator : Nat) (exponent : Int) :
    ((scaled numerator denominator exponent).1 : ℚ) /
        (scaled numerator denominator exponent).2 =
      numerator / denominator * 2 ^ (-exponent) := by
  have parted : (2 : ℚ) ^ (-exponent) =
      2 ^ (-exponent).toNat / 2 ^ exponent.toNat := by
    rw [← zpow_natCast, ← zpow_natCast, ← zpow_sub₀ two_ne_zero]
    congr 1
    omega
  rw [parted]
  simp only [scaled, Nat.pow_eq, Nat.cast_mul, Nat.cast_pow, Nat.cast_two]
  rw [mul_div_mul_comm]

/-- A ratio lies between the powers of two that the leading bits of its parts
announce. -/
theorem ratio_bounds (positive : 0 < numerator) (whole : 0 < denominator) :
    (2 : ℚ) ^ ((numerator.log2 : Int) - denominator.log2 - 1) < numerator / denominator ∧
      (numerator / denominator : ℚ) < 2 ^ ((numerator.log2 : Int) - denominator.log2 + 1) := by
  have upperBits : (denominator : ℚ) < 2 ^ (denominator.log2 + 1) := by
    exact_mod_cast Nat.lt_log2_self
  have lowerBits : (2 : ℚ) ^ denominator.log2 ≤ denominator := by
    exact_mod_cast Nat.log2_self_le whole.ne'
  have upperOver : (numerator : ℚ) < 2 ^ (numerator.log2 + 1) := by
    exact_mod_cast Nat.lt_log2_self
  have lowerOver : (2 : ℚ) ^ numerator.log2 ≤ numerator := by
    exact_mod_cast Nat.log2_self_le positive.ne'
  have below : (0 : ℚ) < denominator := by exact_mod_cast whole
  constructor
  · rw [lt_div_iff₀ below]
    calc (2 : ℚ) ^ ((numerator.log2 : Int) - denominator.log2 - 1) * denominator
        < 2 ^ ((numerator.log2 : Int) - denominator.log2 - 1) * 2 ^ (denominator.log2 + 1) :=
          mul_lt_mul_of_pos_left upperBits (by positivity)
      _ = 2 ^ numerator.log2 := by
          rw [← zpow_natCast, ← zpow_natCast, ← zpow_add₀ two_ne_zero]
          congr 1
          push_cast
          ring
      _ ≤ numerator := lowerOver
  · rw [div_lt_iff₀ below]
    calc (numerator : ℚ) < 2 ^ (numerator.log2 + 1) := upperOver
      _ = 2 ^ ((numerator.log2 : Int) - denominator.log2 + 1) * 2 ^ denominator.log2 := by
          rw [← zpow_natCast, ← zpow_natCast, ← zpow_add₀ two_ne_zero]
          congr 1
          push_cast
          ring
      _ ≤ 2 ^ ((numerator.log2 : Int) - denominator.log2 + 1) * denominator :=
          mul_le_mul_of_nonneg_left lowerBits (by positivity)

/-- A significand on the grid that is chosen for a ratio: it has no more than all
its bits, and has them all unless the grid is the finest. -/
structure OnGrid (format : Format) (ratio : ℚ) (exponent : Int) : Prop where
  finest : -(format.finestPlaces : Int) ≤ exponent
  bounded : ratio * 2 ^ (-exponent) < 2 ^ (format.fractionBits + 1)
  leading : exponent = -(format.finestPlaces : Int) ∨
    2 ^ format.fractionBits ≤ ratio * 2 ^ (-exponent)

theorem gridExponent_onGrid (format : Format) (positive : 0 < numerator)
    (whole : 0 < denominator) :
    OnGrid format (numerator / denominator) (gridExponent format numerator denominator) := by
  obtain ⟨beyond, within⟩ := ratio_bounds positive whole
  rw [gridExponent]
  generalize found : max ((numerator.log2 : Int) - denominator.log2 - format.fractionBits - 1)
    (-format.finestPlaces) = start
  have ratio := scaled_ratio numerator denominator start
  have below := scaled_positive numerator whole start
  generalize scaled numerator denominator start = parts at ratio below
  obtain ⟨upper, lower⟩ := parts
  dsimp only at ratio below ⊢
  have above : (0 : ℚ) < lower := by exact_mod_cast below
  have decided : upper / lower < 2 ^ (format.fractionBits + 1) ↔
      (numerator / denominator : ℚ) * 2 ^ (-start) < 2 ^ (format.fractionBits + 1) := by
    rw [← ratio, div_lt_iff₀ above, Nat.div_lt_iff_lt_mul below]
    exact_mod_cast Iff.rfl
  have finest : -(format.finestPlaces : Int) ≤ start := by omega
  have short : (numerator / denominator : ℚ) * 2 ^ (-start) <
      2 ^ (format.fractionBits + 1) * 2 := by
    calc (numerator / denominator : ℚ) * 2 ^ (-start)
        < 2 ^ ((numerator.log2 : Int) - denominator.log2 + 1) * 2 ^ (-start) :=
          mul_lt_mul_of_pos_right within (by positivity)
      _ = 2 ^ ((numerator.log2 : Int) - denominator.log2 + 1 - start) := by
          rw [← zpow_add₀ two_ne_zero, ← sub_eq_add_neg]
      _ ≤ 2 ^ ((format.fractionBits + 1 + 1 : Nat) : Int) :=
          zpow_le_zpow_right₀ one_le_two (by omega)
      _ = 2 ^ (format.fractionBits + 1) * 2 := by rw [zpow_natCast, pow_succ]
  have long : start = -(format.finestPlaces : Int) ∨
      (2 : ℚ) ^ format.fractionBits ≤ numerator / denominator * 2 ^ (-start) := by
    rcases max_choice ((numerator.log2 : Int) - denominator.log2 - format.fractionBits - 1)
      (-format.finestPlaces) with estimated | bottom
    · right
      calc (2 : ℚ) ^ format.fractionBits = 2 ^ (format.fractionBits : Int) :=
            (zpow_natCast _ _).symm
        _ = 2 ^ ((numerator.log2 : Int) - denominator.log2 - 1 - start) := by
            congr 1
            omega
        _ = 2 ^ ((numerator.log2 : Int) - denominator.log2 - 1) * 2 ^ (-start) := by
            rw [← zpow_add₀ two_ne_zero, ← sub_eq_add_neg]
        _ ≤ numerator / denominator * 2 ^ (-start) :=
            mul_le_mul_of_nonneg_right beyond.le (by positivity)
    · exact .inl (found.symm.trans bottom)
  by_cases fits : upper / lower < 2 ^ (format.fractionBits + 1)
  · rw [Nat.pow_eq, if_pos fits]
    exact ⟨finest, decided.mp fits, long⟩
  · -- One bit too many: the next grid is twice as coarse.
    have halved : (2 : ℚ) ^ (-(start + 1)) = 2 ^ (-start) / 2 := by
      rw [neg_add, ← sub_eq_add_neg, zpow_sub_one₀ two_ne_zero, div_eq_mul_inv]
    have full := not_lt.mp (mt decided.mpr fits)
    rw [pow_succ] at full
    rw [Nat.pow_eq, if_neg fits]
    refine ⟨by omega, ?_, .inr ?_⟩
    · rw [halved]
      linarith
    · rw [halved]
      linarith

end Ratio

theorem scaled_back (exact : ℚ) (exponent : Int) :
    exact = exact * 2 ^ (-exponent) * 2 ^ exponent := by
  rw [mul_assoc, ← zpow_add₀ two_ne_zero, neg_add_cancel, zpow_zero, mul_one]

/-- The significand that is nearest on the grid that is chosen. -/
structure Rounded (format : Format) (exact : ℚ) (exponent : Int) (field significand : Nat) :
    Prop extends OnGrid format exact exponent where
  placed : (field : Int) = exponent + format.finestPlaces
  above : (significand : ℚ) ≤ exact * 2 ^ (-exponent) + 1 / 2
  below : exact * 2 ^ (-exponent) ≤ significand + 1 / 2
  even : (significand : ℚ) = exact * 2 ^ (-exponent) + 1 / 2 ∨
    exact * 2 ^ (-exponent) = significand + 1 / 2 → significand % 2 = 0

namespace Rounded

variable {exponent : Int} {field significand : Nat}
  (rounded : Rounded format exact exponent field significand)
include rounded

theorem fits : significand ≤ 2 ^ (format.fractionBits + 1) := by
  have bounded := rounded.bounded
  have above := rounded.above
  have near : (significand : ℚ) < ((2 ^ (format.fractionBits + 1) : Nat) : ℚ) + 1 := by
    push_cast
    linarith
  exact Nat.lt_succ_iff.mp (by exact_mod_cast near)

theorem leads : field = 0 ∨ 2 ^ format.fractionBits ≤ significand := by
  have placed := rounded.placed
  rcases rounded.leading with finest | normal
  · left
    omega
  · right
    have below := rounded.below
    have near : ((2 ^ format.fractionBits : Nat) : ℚ) < (significand : ℚ) + 1 := by
      push_cast
      linarith
    exact Nat.lt_succ_iff.mp (by exact_mod_cast near)

/-- A significand on this grid has the value that the exponent gives it. -/
theorem value_grid (other : Nat) (fits : other ≤ 2 ^ (format.fractionBits + 1))
    (leads : field = 0 ∨ 2 ^ format.fractionBits ≤ other) :
    format.value (field * 2 ^ format.fractionBits + other) = other * 2 ^ exponent := by
  have exponents : exponent = (field : Int) - format.finestPlaces := by
    have placed := rounded.placed
    omega
  rw [Format.value, Format.units_grid fits leads, exponents, zpow_sub₀ two_ne_zero,
    zpow_natCast, zpow_natCast, Nat.cast_mul, Nat.cast_pow, Nat.cast_two, mul_div_assoc]

theorem upper :
    exact ≤ format.midpoint (field * 2 ^ format.fractionBits + significand) ∧
      (exact = format.midpoint (field * 2 ^ format.fractionBits + significand) →
        significand % 2 = 0) := by
  have scale : (0 : ℚ) < 2 ^ exponent := by positivity
  have exact_eq := scaled_back exact exponent
  have fits := rounded.fits
  have leads := rounded.leads
  have value := rounded.value_grid significand fits leads
  rcases Nat.lt_or_eq_of_le fits with inside | last
  · have next := rounded.value_grid (significand + 1) inside (by omega)
    have middle : format.midpoint (field * 2 ^ format.fractionBits + significand) =
        (significand + 1 / 2) * 2 ^ exponent := by
      rw [Format.midpoint, Nat.add_assoc, value, next]
      push_cast
      ring
    rw [middle]
    constructor
    · calc exact = exact * 2 ^ (-exponent) * 2 ^ exponent := exact_eq
        _ ≤ (significand + 1 / 2) * 2 ^ exponent :=
          mul_le_mul_of_nonneg_right rounded.below scale.le
    · intro same
      rw [exact_eq] at same
      exact rounded.even (.inr (mul_right_cancel₀ scale.ne' same))
  · have strictly : exact < format.midpoint (field * 2 ^ format.fractionBits + significand) := by
      have bounded := rounded.bounded
      have whole : (significand : ℚ) = 2 ^ (format.fractionBits + 1) := by
        exact_mod_cast last
      calc exact = exact * 2 ^ (-exponent) * 2 ^ exponent := exact_eq
        _ < significand * 2 ^ exponent := by
          rw [whole]
          exact mul_lt_mul_of_pos_right bounded scale
        _ = format.value (field * 2 ^ format.fractionBits + significand) := value.symm
        _ < _ := format.value_lt_midpoint _
    exact ⟨strictly.le, fun same => absurd same strictly.ne⟩

theorem lower {previous : Nat}
    (counted : field * 2 ^ format.fractionBits + significand = previous + 1) :
    format.midpoint previous ≤ exact ∧
      (format.midpoint previous = exact → significand % 2 = 0) := by
  have scale : (0 : ℚ) < 2 ^ exponent := by positivity
  have exact_eq := scaled_back exact exponent
  have fits := rounded.fits
  have leads := rounded.leads
  have value := rounded.value_grid significand fits leads
  have positive : 0 < 2 ^ format.fractionBits := Nat.two_pow_pos _
  cases significand with
  | zero =>
      rcases leads with finest | impossible
      · rw [finest] at counted
        omega
      · omega
  | succ shorter =>
      have same : previous = field * 2 ^ format.fractionBits + shorter := by omega
      by_cases inside : field = 0 ∨ 2 ^ format.fractionBits ≤ shorter
      · have before := rounded.value_grid shorter (by omega) inside
        have middle : format.midpoint previous = (shorter + 1 / 2) * 2 ^ exponent := by
          rw [Format.midpoint, ← counted, same, value, before]
          push_cast
          ring
        have above := rounded.above
        have even := rounded.even
        push_cast at above even
        rw [middle]
        constructor
        · calc (shorter + 1 / 2 : ℚ) * 2 ^ exponent
              ≤ exact * 2 ^ (-exponent) * 2 ^ exponent := by
                apply mul_le_mul_of_nonneg_right _ scale.le
                linarith
            _ = exact := exact_eq.symm
        · intro equal
          rw [exact_eq] at equal
          have halves := mul_right_cancel₀ scale.ne' equal
          exact even (.inl (by linarith))
      · -- The first significand of a grid: below it the grid is finer.
        have strictly : format.midpoint previous < exact := by
          rw [not_or] at inside
          have first : ((shorter + 1 : Nat) : ℚ) = 2 ^ format.fractionBits := by
            have leads := leads.resolve_left inside.1
            exact_mod_cast (show shorter + 1 = 2 ^ format.fractionBits by omega)
          have placed := rounded.placed
          have normal := rounded.leading.resolve_left (by omega)
          calc format.midpoint previous < format.value (previous + 1) :=
                format.midpoint_lt_value _
            _ = 2 ^ format.fractionBits * 2 ^ exponent := by rw [← counted, value, first]
            _ ≤ exact * 2 ^ (-exponent) * 2 ^ exponent :=
                mul_le_mul_of_nonneg_right normal scale.le
            _ = exact := exact_eq.symm
        exact ⟨strictly.le, fun equal => absurd equal strictly.ne⟩

end Rounded

theorem encloses_of_tiny (tiny : exact < format.midpoint 0) : Encloses format exact 0 where
  within := Nat.zero_le _
  lower := by
    intro previous impossible
    contradiction
  upper := by
    intro _
    exact ⟨tiny.le, fun same => absurd same tiny.ne⟩

theorem encloses_zero (format : Format) : Encloses format 0 0 := by
  apply encloses_of_tiny
  have positive := format.value_lt_midpoint 0
  rwa [Format.value_zero] at positive

theorem encloses_of_great (great : format.value format.infinity ≤ exact) :
    Encloses format exact format.infinity where
  within := Nat.le_refl _
  lower := by
    intro previous counted
    have strictly := format.midpoint_lt_value previous
    rw [← counted] at strictly
    exact ⟨(strictly.trans_le great).le, fun same => absurd same (strictly.trans_le great).ne⟩
  upper := by
    intro impossible
    exact absurd impossible (Nat.lt_irrefl _)

/-- What is rounded on its grid is rounded to a magnitude, or to infinity where
that is less. -/
theorem Rounded.encloses {exponent : Int} {field significand : Nat}
    (rounded : Rounded format exact exponent field significand)
    (bits : 0 < format.fractionBits) :
    Encloses format exact
      (min format.infinity (field * 2 ^ format.fractionBits + significand)) := by
  have parity : (field * 2 ^ format.fractionBits + significand) % 2 = significand % 2 := by
    obtain ⟨fewer, same⟩ := Nat.exists_eq_succ_of_ne_zero bits.ne'
    rw [same, Nat.pow_succ, ← Nat.mul_assoc]
    omega
  rcases Nat.lt_or_ge format.infinity (field * 2 ^ format.fractionBits + significand)
    with beyond | finite
  · rw [Nat.min_eq_left beyond.le]
    refine ⟨Nat.le_refl _, fun previous counted => ?_, fun impossible => ?_⟩
    · obtain ⟨last, reached⟩ := Nat.exists_eq_succ_of_ne_zero (Nat.ne_zero_of_lt beyond)
      have strictly : format.midpoint previous < exact :=
        calc format.midpoint previous < format.midpoint last :=
              format.midpoint_strictMono (by omega)
          _ ≤ exact := (rounded.lower reached).1
      exact ⟨strictly.le, fun same => absurd same strictly.ne⟩
    · exact absurd impossible (Nat.lt_irrefl _)
  · rw [Nat.min_eq_right finite]
    refine ⟨finite, fun previous counted => ?_, fun _ => ?_⟩
    · rw [parity]
      exact rounded.lower counted
    · rw [parity]
      exact rounded.upper

/-- Ratios are rounded to the nearest magnitude. -/
theorem magnitude_encloses (numerator : Nat) {denominator : Nat}
    (bits : 0 < format.fractionBits) (whole : 0 < denominator) :
    Encloses format (numerator / denominator)
      (Binary.magnitude format numerator denominator) := by
  rw [Binary.magnitude]
  by_cases zero : numerator = 0
  · rw [if_pos zero, zero, Nat.cast_zero, zero_div]
    exact encloses_zero format
  · have grid := gridExponent_onGrid format (Nat.pos_of_ne_zero zero) whole
    rw [if_neg zero]
    generalize gridExponent format numerator denominator = exponent at grid
    have finest := grid.finest
    have ratio := scaled_ratio numerator denominator exponent
    obtain ⟨above, below, even⟩ := nearestEven_spec
      (scaled numerator denominator exponent).1
      (scaled_positive numerator whole exponent)
    rw [ratio] at above below even
    have rounded : Rounded format (numerator / denominator) exponent
        (exponent + format.finestPlaces).toNat
        (nearestEven (scaled numerator denominator exponent).1
          (scaled numerator denominator exponent).2) :=
      ⟨grid, by omega, above, below, even⟩
    exact rounded.encloses bits

end WorkPackage.Binary
