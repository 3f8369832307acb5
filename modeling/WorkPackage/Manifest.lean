import WorkPackage.Profile
import WorkPackage.Toml.Value
/-!
# Manifests

A manifest says what a package is built from.  Everything in it may be absent;
what is missing comes from the command line or from defaults.
-/

namespace WorkPackage

/-- How the manifest wants a job table to be read. -/
structure TableSection where
  delimiter : Option Char := none
  hasHeaders : Option Bool := none
  deriving DecidableEq, Repr, Inhabited

/-- A job of the manifest, with its values not yet typed. -/
structure JobEntry where
  typeCodes : Option String := none
  values : List Toml.Value
  deriving Inhabited

/-- The content of a manifest. -/
structure Manifest where
  executable : Option String := none
  capacity : Option Nat := none
  typeCodes : Option String := none
  profile : Option Profile := none
  table : Option TableSection := none
  jobs : List JobEntry := []
  deriving Inhabited

end WorkPackage
