import WorkPackage.Proofs.Number.Rounding

/-!
# Narrowing

A double-width word is narrowed by rounding its value.  Where the word was itself
rounded, the point halfway between two single-width neighbours is the only place
at which this can go wrong: every such point is a double-width value, so that
rounding to double width does not move anything across it, but may move something
onto it.
-/

namespace WorkPackage.Binary

open Format (single double)

variable {format : Format} {exact : ℚ} {wide direct narrowed lower : Nat}

/-- The value of an infinite word in double width lies beyond single width. -/
theorem infinity_le_infinity :
    single.value single.infinity ≤ double.value double.infinity := by
  have units : single.units single.infinity * 2 ^ double.finestPlaces ≤
      double.units double.infinity * 2 ^ single.finestPlaces := by decide +kernel
  rw [Format.value, Format.value, div_le_div_iff₀ (by positivity) (by positivity)]
  exact_mod_cast units

/-- Narrowing rounds the value of a word and keeps its sign. -/
theorem narrow_encloses (within : wide ≤ double.infinity) (negative : Bool) :
    ∃ narrowed, narrow (withSign double negative wide) = withSign single negative narrowed ∧
      Encloses single (double.value wide) narrowed := by
  rcases Nat.lt_or_eq_of_le within with finite | rfl
  · obtain ⟨significand, exponent, decoded, value⟩ :=
      Format.decode_finite finite negative
    have encloses := magnitude_encloses (significand * Nat.pow 2 exponent.toNat)
      (show 0 < single.fractionBits by decide)
      (show 0 < Nat.pow 2 (-exponent).toNat from Nat.two_pow_pos _)
    have ratio := scaled_ratio significand 1 (-exponent)
    simp only [scaled, neg_neg, Nat.cast_one, div_one, Nat.one_mul, value] at ratio
    rw [ratio] at encloses
    refine ⟨_, ?_, encloses⟩
    rw [narrow, decoded]
    rfl
  · refine ⟨single.infinity, ?_, ?_⟩
    · rw [narrow, Format.decode_infinity]
    · exact encloses_of_great infinity_le_infinity

/-- Every point halfway between two single-width neighbours is a finite value of
double width. -/
theorem midpoint_is_double (finite : lower < single.infinity) :
    ∃ point < double.infinity, double.value point = single.midpoint lower := by
  obtain ⟨field, significand, rfl, bounded, leading⟩ := single.exists_grid lower
  have twice : 2 * significand + 1 ≤ 2 ^ (double.fractionBits + 1) := by
    have wider : 2 * 2 ^ (single.fractionBits + 1) ≤ 2 ^ (double.fractionBits + 1) := by
      decide
    omega
  obtain ⟨point, units⟩ := @Format.exists_units (field + 924) _ double twice
  have value : double.value point =
      single.midpoint (field * 2 ^ single.fractionBits + significand) := by
    have places : double.finestPlaces = 924 + (single.finestPlaces + 1) := by decide
    rw [Format.midpoint, Nat.add_assoc, Format.value, Format.value, Format.value, units,
      Format.units_grid bounded.le leading, Format.units_grid bounded (by omega), places]
    push_cast
    rw [pow_add, pow_add, pow_succ]
    field_simp
    ring
  refine ⟨point, ?_, value⟩
  apply double.value_strictMono.lt_iff_lt.mp
  calc double.value point = single.midpoint _ := value
    _ < single.value (_ + 1) := single.midpoint_lt_value _
    _ ≤ single.value single.infinity := single.value_strictMono.monotone finite
    _ ≤ double.value double.infinity := infinity_le_infinity

/-- What exceeds just the magnitudes below one is rounded to that one or to the
next. -/
theorem Encloses.eq_of_exceeds_below {magnitude : Nat}
    (encloses : Encloses format exact magnitude) (finite : lower < format.infinity)
    (below : ∀ other < format.infinity, other ≠ lower →
      (Exceeds format exact other ↔ other < lower)) :
    (Exceeds format exact lower → magnitude = lower + 1) ∧
      (¬Exceeds format exact lower → magnitude = lower) := by
  have least : lower ≤ magnitude := by
    cases lower with
    | zero => exact Nat.zero_le _
    | succ previous =>
        have inside : previous < format.infinity := Nat.lt_of_succ_lt finite
        have exceeds := (below previous inside (by omega)).mpr (Nat.lt_succ_self previous)
        exact (encloses.exceeds_iff inside).mpr exceeds
  have most : magnitude ≤ lower + 1 := by
    by_contra more
    have inside : lower + 1 < format.infinity := by
      have within := encloses.within
      omega
    have exceeds := (encloses.exceeds_iff inside).mp (by omega)
    have impossible := (below (lower + 1) inside (by omega)).mp exceeds
    omega
  rw [← encloses.exceeds_iff finite]
  omega

theorem exceeds_midpoint_iff {other : Nat} (different : other ≠ lower) :
    Exceeds format (format.midpoint lower) other ↔ other < lower := by
  rw [← format.midpoint_strictMono.lt_iff_lt]
  constructor
  · rintro (above | ⟨same, -⟩)
    · exact above
    · exact absurd (format.midpoint_strictMono.injective same) different
  · exact .inl

/-- Where narrowing goes wrong: the word is halfway between two neighbours, and
what it was rounded from lies on the side of the odd one. -/
structure Torn (exact : ℚ) (wide lower : Nat) : Prop where
  finite : lower < single.infinity
  halfway : double.value wide = single.midpoint lower
  odd_side : lower % 2 = 0 ∧ single.midpoint lower < exact ∨
    lower % 2 = 1 ∧ exact < single.midpoint lower

section Twice

variable (rounded : Encloses double exact wide)
  (twice : Encloses single (double.value wide) narrowed)
  (once : Encloses single exact direct)

include rounded in
/-- Rounding to double width moves nothing across a point of that width. -/
theorem compare_of_ne {point : Nat} (finite : point < double.infinity)
    (different : wide ≠ point) :
    (double.value point < double.value wide ∧ double.value point < exact) ∨
      (double.value wide < double.value point ∧ exact < double.value point) := by
  rcases Nat.lt_or_gt_of_ne different with less | more
  · right
    refine ⟨double.value_strictMono less, ?_⟩
    obtain ⟨within, -⟩ := rounded.upper (less.trans finite)
    calc exact ≤ double.midpoint wide := within
      _ < double.value (wide + 1) := double.midpoint_lt_value wide
      _ ≤ double.value point := double.value_strictMono.monotone less
  · left
    refine ⟨double.value_strictMono more, ?_⟩
    rcases (rounded.exceeds_iff finite).mp more with above | ⟨same, -⟩
    · exact (double.value_lt_midpoint point).trans above
    · exact (double.value_lt_midpoint point).trans_eq same

include rounded in
theorem exceeds_iff_of_ne (finite : lower < single.infinity)
    (different : double.value wide ≠ single.midpoint lower) :
    Exceeds single (double.value wide) lower ↔ Exceeds single exact lower := by
  obtain ⟨point, within, same⟩ := midpoint_is_double finite
  have apart : wide ≠ point := by
    rintro rfl
    exact different same
  rcases compare_of_ne rounded within apart with ⟨wider, beyond⟩ | ⟨narrower, below⟩
  · rw [same] at wider beyond
    exact iff_of_true (.inl wider) (.inl beyond)
  · rw [same] at narrower below
    apply iff_of_false
    · rintro (above | ⟨equal, -⟩)
      · exact absurd above narrower.asymm
      · exact absurd equal narrower.ne'
    · rintro (above | ⟨equal, -⟩)
      · exact absurd above below.asymm
      · exact absurd equal below.ne'

include rounded twice once in
theorem narrowed_eq_direct
    (nowhere : ∀ lower < single.infinity, double.value wide ≠ single.midpoint lower) :
    narrowed = direct := by
  have same : ∀ lower < single.infinity, lower < narrowed ↔ lower < direct := by
    intro lower finite
    rw [twice.exceeds_iff finite, once.exceeds_iff finite]
    exact exceeds_iff_of_ne rounded finite (nowhere lower finite)
  have left := twice.within
  have right := once.within
  rcases Nat.lt_trichotomy narrowed direct with less | equal | more
  · exact absurd ((same narrowed (by omega)).mpr less) (Nat.lt_irrefl _)
  · exact equal
  · exact absurd ((same direct (by omega)).mp more) (Nat.lt_irrefl _)

section Halfway

variable (finite : lower < single.infinity)
  (halfway : double.value wide = single.midpoint lower)
include finite halfway

include twice in
/-- Narrowed, a word halfway between two neighbours becomes the even one. -/
theorem narrowed_of_halfway : narrowed = lower + lower % 2 := by
  rw [halfway] at twice
  obtain ⟨above, below⟩ := twice.eq_of_exceeds_below finite
    fun other _ different => exceeds_midpoint_iff different
  rcases Nat.mod_two_eq_zero_or_one lower with even | odd
  · rw [even, Nat.add_zero]
    apply below
    rintro (impossible | ⟨-, odd⟩)
    · exact lt_irrefl _ impossible
    · omega
  · rw [odd]
    exact above (.inr ⟨rfl, odd⟩)

include rounded once in
theorem direct_of_halfway :
    (Exceeds single exact lower → direct = lower + 1) ∧
      (¬Exceeds single exact lower → direct = lower) := by
  apply once.eq_of_exceeds_below finite
  intro other inside different
  have apart : double.value wide ≠ single.midpoint other := by
    rw [halfway]
    exact fun same => different (single.midpoint_strictMono.injective same).symm
  rw [← exceeds_iff_of_ne rounded inside apart, halfway]
  exact exceeds_midpoint_iff different

end Halfway

include rounded twice once

/-- A torn word is narrowed to the even neighbour, while the odd one is nearer to
what it was rounded from. -/
theorem Torn.parts (torn : Torn exact wide lower) :
    narrowed = lower + lower % 2 ∧ direct + lower % 2 = lower + 1 := by
  have even := narrowed_of_halfway twice torn.finite torn.halfway
  obtain ⟨above, below⟩ := direct_of_halfway rounded once torn.finite torn.halfway
  refine ⟨even, ?_⟩
  rcases torn.odd_side with ⟨parity, beyond⟩ | ⟨parity, short⟩
  · rw [above (.inl beyond), parity]
  · rw [parity, below]
    rintro (impossible | ⟨same, -⟩)
    · exact absurd impossible short.asymm
    · exact absurd same short.ne'

/-- Rounding twice is rounding once unless the word between is torn. -/
theorem narrowed_ne_direct_iff : narrowed ≠ direct ↔ ∃ lower, Torn exact wide lower := by
  constructor
  · intro different
    have somewhere : ∃ lower < single.infinity, double.value wide = single.midpoint lower := by
      by_contra nowhere
      push Not at nowhere
      exact different (narrowed_eq_direct rounded twice once nowhere)
    obtain ⟨lower, finite, halfway⟩ := somewhere
    have even := narrowed_of_halfway twice finite halfway
    obtain ⟨above, below⟩ := direct_of_halfway rounded once finite halfway
    refine ⟨lower, finite, halfway, ?_⟩
    rcases Nat.mod_two_eq_zero_or_one lower with parity | parity
    · left
      refine ⟨parity, ?_⟩
      by_contra short
      refine different (even.trans ?_)
      rw [parity, below]
      · rfl
      · rintro (beyond | ⟨-, odd⟩)
        · exact short beyond
        · omega
    · right
      refine ⟨parity, ?_⟩
      by_contra beyond
      refine different (even.trans ?_)
      rw [parity, above]
      rcases (not_lt.mp beyond).lt_or_eq with strictly | same
      · exact .inl strictly
      · exact .inr ⟨same, parity⟩
  · rintro ⟨lower, torn⟩ same
    have parts := torn.parts rounded twice once
    omega

end Twice

end WorkPackage.Binary
