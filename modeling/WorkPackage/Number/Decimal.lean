/-!
# Decimal integers

Integers are written in base ten without separators or leading zeros, and read
from any non-empty run of ASCII digits.  The readers for words answer only when
the whole text is a number of the word's range: nothing wraps or saturates.
-/

namespace WorkPackage.Decimal

/-- The digits of a natural number, most significant first. -/
def digits (number : Nat) : List Char :=
  if number < 10 then
    [Nat.digitChar number]
  else
    digits (number / 10) ++ [Nat.digitChar (number % 10)]
termination_by number

/-- An integer as written: a minus sign marks the negative ones. -/
def ofInt : Int → List Char
  | .ofNat number => digits number
  | .negSucc number => '-' :: digits (number + 1)

def digitValue (digit : Char) : Nat :=
  digit.toNat - '0'.toNat

def value (run : List Char) : Nat :=
  run.foldl (fun number digit => number * 10 + digitValue digit) 0

/-- A non-empty text of ASCII digits, read as a number. -/
def natural? (text : List Char) : Option Nat :=
  if text ≠ [] ∧ text.all Char.isDigit then some (value text) else none

def unsigned? : List Char → Option Nat
  | '+' :: run => natural? run
  | run => natural? run

def signed? : List Char → Option Int
  | '+' :: run => (natural? run).map Int.ofNat
  | '-' :: run => (natural? run).map fun number => -Int.ofNat number
  | run => (natural? run).map Int.ofNat

/-- An integer as a signed 32-bit word, if it is one. -/
def int32? (number : Int) : Option Int32 :=
  if -2147483648 ≤ number ∧ number ≤ 2147483647 then
    some (Int32.ofInt number)
  else
    none

/-- An integer as a signed 64-bit word, if it is one. -/
def int64? (number : Int) : Option Int64 :=
  if -9223372036854775808 ≤ number ∧ number ≤ 9223372036854775807 then
    some (Int64.ofInt number)
  else
    none

/-- An integer as an unsigned 32-bit word, if it is one. -/
def uint32? (number : Int) : Option UInt32 :=
  if 0 ≤ number ∧ number ≤ 4294967295 then
    some (UInt32.ofNat number.toNat)
  else
    none

/-- An integer as a byte, if it is one. -/
def byte? (number : Int) : Option UInt8 :=
  if 0 ≤ number ∧ number ≤ 255 then
    some (UInt8.ofNat number.toNat)
  else
    none

/-- A size as the command line and the manifest give it: at most 64 bits. -/
def size? (text : List Char) : Option Nat :=
  (unsigned? text).filter fun number => number ≤ 18446744073709551615

end WorkPackage.Decimal
