/-!
# TOML values

The values that a TOML document holds.  Integers are kept as they are written,
whatever their size, and floats as double-width words.  A number without a value
spoils a document only where it is needed, so it has a place among the values.
The entries of a table stand in the order of their keys, so equal tables have
equal lists of entries.
-/

namespace WorkPackage.Toml

/-- A calendar day. -/
structure Date where
  year : Nat
  month : Nat
  day : Nat
  deriving DecidableEq, Repr

/-- A time of day; the fraction of the second counts billionths. -/
structure Time where
  hour : Nat
  minute : Nat
  second : Nat
  nanosecond : Nat
  deriving DecidableEq, Repr

/-- The distance from universal time. -/
inductive Offset where
  | universal
  | minutes (count : Int)
  deriving DecidableEq, Repr

/-- A day, a time of day, or both; an offset comes only with both. -/
structure DateTime where
  date : Option Date := none
  time : Option Time := none
  offset : Option Offset := none
  deriving DecidableEq, Repr

/-- A TOML value. -/
inductive Value where
  | string (value : String)
  | integer (value : Int)
  | float (word : UInt64)
  /-- A word in place of a number that has no value. -/
  | numeral (word : String)
  | boolean (value : Bool)
  | dateTime (value : DateTime)
  | array (items : List Value)
  | table (entries : List (String × Value))
  deriving Inhabited

namespace Value

def insertEntry (entry : String × Value) :
    List (String × Value) → List (String × Value)
  | [] => [entry]
  | other :: others =>
      if entry.1 < other.1 then entry :: other :: others
      else other :: insertEntry entry others

def ofEntries (entries : List (String × Value)) : Value :=
  .table (entries.foldr insertEntry [])

end Value

end WorkPackage.Toml
