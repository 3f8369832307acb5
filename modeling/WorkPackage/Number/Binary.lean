/-!
# Binary floating-point words

A floating-point number is kept as its word, so that every payload and every
sign of zero survives.  A `Binary.Format` says how a word is cut into sign,
exponent and fraction.  `Binary.ofRatio` rounds an exact ratio to the nearest
word of a format, a tie going to the even one; every conversion of this library
goes through it, so that no number is ever rounded twice.
-/

namespace WorkPackage.Binary

/-- The widths of the exponent and the fraction of a binary word; the sign bit
stands above both. -/
structure Format where
  exponentBits : Nat
  fractionBits : Nat
  deriving DecidableEq, Repr

namespace Format

/-- Four-byte words. -/
def single : Format := ⟨8, 23⟩

/-- Eight-byte words. -/
def double : Format := ⟨11, 52⟩

def signBit (format : Format) : Nat :=
  Nat.pow 2 (format.exponentBits + format.fractionBits)

/-- The word of positive infinity, above every finite magnitude. -/
def infinity (format : Format) : Nat :=
  (Nat.pow 2 format.exponentBits - 1) * Nat.pow 2 format.fractionBits

/-- The word of a number that is none, with its sign bit clear. -/
def notANumber (format : Format) : Nat :=
  format.infinity + Nat.pow 2 (format.fractionBits - 1)

/-- The number of binary places behind the point of the finest grid, that of
the numbers too small for a leading one. -/
def finestPlaces (format : Format) : Nat :=
  Nat.pow 2 (format.exponentBits - 1) - 2 + format.fractionBits

end Format

/-- What a word stands for.  A finite magnitude is `significand * 2 ^ exponent`. -/
inductive Value where
  | finite (negative : Bool) (significand : Nat) (exponent : Int)
  | infinite (negative : Bool)
  | notANumber (negative : Bool) (payload : Nat)
  deriving DecidableEq, Repr

def decode (format : Format) (word : Nat) : Value :=
  let negative := format.signBit ≤ word
  let magnitude := word % format.signBit
  let field := magnitude / Nat.pow 2 format.fractionBits
  let fraction := magnitude % Nat.pow 2 format.fractionBits
  if magnitude = format.infinity then
    .infinite negative
  else if format.infinity < magnitude then
    .notANumber negative fraction
  else if field = 0 then
    .finite negative fraction (-format.finestPlaces)
  else
    .finite negative (fraction + Nat.pow 2 format.fractionBits)
      (field - 1 - format.finestPlaces)

/-- The whole number nearest to a ratio; of two equally near ones the even. -/
def nearestEven (numerator denominator : Nat) : Nat :=
  let floor := numerator / denominator
  let rest := numerator % denominator
  if 2 * rest < denominator then floor
  else if denominator < 2 * rest then floor + 1
  else floor + floor % 2

/-- A ratio times `2 ^ (-exponent)`, again as numerator and denominator. -/
def scaled (numerator denominator : Nat) (exponent : Int) : Nat × Nat :=
  (numerator * Nat.pow 2 (-exponent).toNat, denominator * Nat.pow 2 exponent.toNat)

/-- The exponent of the grid on which a positive ratio is rounded: the coarsest
one that leaves all bits of a significand, and none finer than the format's. -/
def gridExponent (format : Format) (numerator denominator : Nat) : Int :=
  let estimate : Int :=
    (numerator.log2 : Int) - denominator.log2 - format.fractionBits - 1
  let start := max estimate (-format.finestPlaces)
  let (upper, lower) := scaled numerator denominator start
  if upper / lower < Nat.pow 2 (format.fractionBits + 1) then start else start + 1

/-- The word of the magnitude nearest to a ratio.  Adding the significand to
the field of its grid carries into the exponent by itself when rounding reaches
the next power of two. -/
def magnitude (format : Format) (numerator denominator : Nat) : Nat :=
  if numerator = 0 then 0
  else
    let exponent := gridExponent format numerator denominator
    let (upper, lower) := scaled numerator denominator exponent
    let field := (exponent + format.finestPlaces).toNat
    min format.infinity
      (field * Nat.pow 2 format.fractionBits + nearestEven upper lower)

def withSign (format : Format) (negative : Bool) (magnitude : Nat) : Nat :=
  if negative then format.signBit + magnitude else magnitude

def ofRatio (format : Format) (negative : Bool) (numerator denominator : Nat) :
    Nat :=
  withSign format negative (magnitude format numerator denominator)

def ofInt (format : Format) (number : Int) : Nat :=
  ofRatio format (number < 0) number.natAbs 1

/-- A double-width word in single width: rounded, and a word that is no number
keeps its sign and the upper part of its payload. -/
def narrow (word : Nat) : Nat :=
  match decode .double word with
  | .finite negative significand exponent =>
      ofRatio .single negative (significand * Nat.pow 2 exponent.toNat)
        (Nat.pow 2 (-exponent).toNat)
  | .infinite negative => withSign .single negative Format.single.infinity
  | .notANumber negative payload =>
      withSign .single negative
        (Format.single.notANumber ||| payload / Nat.pow 2 29)

/-- Equality of numbers: both zeros are equal, and a word that is no number
differs from every word. -/
def sameNumber (format : Format) (left right : Nat) : Bool :=
  match decode format left, decode format right with
  | .notANumber .., _ => false
  | _, .notANumber .. => false
  | .finite _ 0 _, .finite _ 0 _ => true
  | _, _ => left == right

end WorkPackage.Binary
