import WorkPackage.Number.Binary
import WorkPackage.Number.Decimal
/-!
# Decimal literals

A decimal literal is an optional sign, digits with an optional point and an
optional exponent, or one of the words for infinity and for no number.  A
literal stands for an exact decimal; `Literal.word` rounds it once, directly to
the width that is asked for.
-/

namespace WorkPackage

/-- What a literal stands for.  A finite magnitude is `digits * 10 ^ exponent`. -/
inductive Literal where
  | finite (negative : Bool) (digits : Nat) (exponent : Int)
  | infinite (negative : Bool)
  | notANumber (negative : Bool)
  deriving DecidableEq, Repr

namespace Literal

/-- The decimal order beyond which magnitudes of both widths are infinite and
below whose negative they vanish. -/
def orderLimit : Int := 400

/-- The word nearest to a literal.  Exponents far outside both widths are
settled by the decimal order alone, without computing the power of ten. -/
def word (format : Binary.Format) : Literal → Nat
  | finite negative digits exponent =>
      let order := exponent + (Decimal.digits digits).length
      if digits = 0 ∨ order < -orderLimit then
        Binary.withSign format negative 0
      else if orderLimit < order then
        Binary.withSign format negative format.infinity
      else
        Binary.ofRatio format negative (digits * Nat.pow 10 exponent.toNat)
          (Nat.pow 10 (-exponent).toNat)
  | infinite negative => Binary.withSign format negative format.infinity
  | notANumber negative => Binary.withSign format negative format.notANumber

/-- Splits a leading sign off; without one the literal is positive. -/
def splitSign : List Char → Bool × List Char
  | '-' :: rest => (true, rest)
  | '+' :: rest => (false, rest)
  | text => (false, text)

/-- An exponent: nothing at all, or the letter `e` in either case with an
integer behind it. -/
def exponent? : List Char → Option Int
  | [] => some 0
  | letter :: rest =>
      if letter = 'e' ∨ letter = 'E' then Decimal.signed? rest else none

/-- Digits with an optional point and exponent, without a sign.  At least one
digit stands beside the point. -/
def magnitude? (text : List Char) : Option (Nat × Int) :=
  let whole := text.takeWhile Char.isDigit
  let (places, rest) :=
    match text.dropWhile Char.isDigit with
    | '.' :: rest => (rest.takeWhile Char.isDigit, rest.dropWhile Char.isDigit)
    | rest => ([], rest)
  if whole = [] ∧ places = [] then none
  else
    (exponent? rest).map fun exponent =>
      (Decimal.value (whole ++ places), exponent - places.length)

/-- Reads a literal; the words are recognised in any case. -/
def read? (text : List Char) : Option Literal :=
  let (negative, rest) := splitSign text
  let word := String.ofList (rest.map Char.toLower)
  if word = "inf" ∨ word = "infinity" then some (infinite negative)
  else if word = "nan" then some (notANumber negative)
  else
    (magnitude? rest).map fun (digits, exponent) =>
      finite negative digits exponent

end Literal

end WorkPackage
