import WorkPackage.Number.Binary
import WorkPackage.Number.Decimal
/-!
# Shortest decimals

A finite number is written with the fewest significant digits that read back as
the same word, and never with an exponent.  Decimal grids are tried from coarse
to fine; on each, only the two neighbours of the number can lie between the
midpoints to the adjacent words.  The first grid with such a neighbour gives the
digits: the nearer of the two, and on a tie the greater.
-/

namespace WorkPackage.Shortest

open Binary (Format)

/-- A number and the interval of reals that round to it, in units of
`2 ^ exponent`.  The ends belong to the interval exactly when `closed` holds. -/
structure Interval where
  centre : Nat
  lower : Nat
  upper : Nat
  exponent : Int
  closed : Bool
  deriving DecidableEq, Repr

/-- The interval around a positive number.  Below a power of two the words lie
twice as dense, so there the lower end is nearer; ties round to even, so the
ends belong to an even significand. -/
def Interval.around (format : Format) (significand : Nat) (exponent : Int) :
    Interval :=
  { centre := 4 * significand
    lower :=
      if significand = Nat.pow 2 format.fractionBits then 4 * significand - 1
      else 4 * significand - 2
    upper := 4 * significand + 2
    exponent := exponent - 2
    closed := significand % 2 = 0 }

/-- The multiple of `10 ^ grid` next to the centre that lies in the interval,
as its number of grid steps. -/
def Interval.onGrid? (interval : Interval) (grid : Int) : Option Nat :=
  let unit := Nat.pow 2 interval.exponent.toNat * Nat.pow 10 (-grid).toNat
  let step := Nat.pow 2 (-interval.exponent).toNat * Nat.pow 10 grid.toNat
  let centre := interval.centre * unit
  let below := centre / step
  let above := below + 1
  let distance := centre - below * step
  let reachesBelow : Bool :=
    if interval.closed then interval.lower * unit ≤ below * step
    else interval.lower * unit < below * step
  let reachesAbove : Bool :=
    if interval.closed then above * step ≤ interval.upper * unit
    else above * step < interval.upper * unit
  match reachesBelow, reachesAbove with
  | true, true => some (if 2 * distance < step then below else above)
  | true, false => some below
  | false, true => some above
  | false, false => none

/-- A decimal exponent that is not below the first digit of the interval. -/
def Interval.coarsestGrid (interval : Interval) : Int :=
  ((interval.upper.log2 : Int) + 1 + interval.exponent) * 30103 / 100000 + 1

/-- The digits of the shortest decimal and the grid that they count on.  Twenty
grids below the coarsest suffice, since seventeen digits name every word. -/
def Interval.shortest (interval : Interval) : Nat × Int :=
  let grids := (List.range 21).map fun (finer : Nat) => interval.coarsestGrid - finer
  let hit := grids.findSome? fun grid =>
    (interval.onGrid? grid).map fun steps => (steps, grid)
  hit.getD (0, 0)

/-- `steps * 10 ^ grid` in positional notation. -/
def positional (steps : Nat) (grid : Int) : List Char :=
  let digits := Decimal.digits steps
  let places := (-grid).toNat
  if places = 0 then
    digits ++ List.replicate grid.toNat '0'
  else if places < digits.length then
    digits.take (digits.length - places) ++
      '.' :: digits.drop (digits.length - places)
  else
    '0' :: '.' :: List.replicate (places - digits.length) '0' ++ digits

/-- A word as text: the shortest decimal, or `inf`, `-inf` and `NaN`. -/
def render (format : Format) (word : Nat) : List Char :=
  let signed (negative : Bool) (text : List Char) :=
    if negative then '-' :: text else text
  match Binary.decode format word with
  | .notANumber .. => ['N', 'a', 'N']
  | .infinite negative => signed negative ['i', 'n', 'f']
  | .finite negative 0 _ => signed negative ['0']
  | .finite negative significand exponent =>
      let (steps, grid) := (Interval.around format significand exponent).shortest
      signed negative (positional steps grid)

end WorkPackage.Shortest
