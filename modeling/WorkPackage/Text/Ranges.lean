/-!
# Ranges of code points

A property of characters is given as a table of disjoint ranges of code points,
in ascending order, each with its first and its last member.
-/

namespace WorkPackage.Text

/-- A table of closed ranges of code points. -/
abbrev Ranges := List (Nat × Nat)

namespace Ranges

/-- Does a character lie in one of the ranges? -/
def covers (ranges : Ranges) (character : Char) : Bool :=
  ranges.any fun (first, last) =>
    first ≤ character.toNat && character.toNat ≤ last

end Ranges

end WorkPackage.Text
