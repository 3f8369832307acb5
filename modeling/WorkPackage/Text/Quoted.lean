import WorkPackage.Text.Unprintable
import WorkPackage.Text.Extending
/-!
# Quoted text

A text value is shown between double quotes.  The quote, the backslash, the
commonest controls and every character that could not be told apart on paper are
written as an escape that starts with a backslash; all others stand for
themselves.  A byte is shown between single quotes in the same manner.
-/

namespace WorkPackage.Text

/-- The hexadecimal digits of a number, without leading zeros. -/
def hexDigits (number : Nat) : List Char :=
  if number < 16 then
    [Nat.digitChar number]
  else
    hexDigits (number / 16) ++ [Nat.digitChar (number % 16)]
termination_by number

def quotedCharacter (character : Char) : List Char :=
  match character with
  | '\x00' => ['\\', '0']
  | '\t' => ['\\', 't']
  | '\r' => ['\\', 'r']
  | '\n' => ['\\', 'n']
  | '\x22' => ['\\', '\x22']
  | '\\' => ['\\', '\\']
  | other =>
      if isExtending other || isUnprintable other then
        '\\' :: 'u' :: '\x7b' :: hexDigits other.toNat ++ ['\x7d']
      else
        [other]

def quoted (text : List Char) : List Char :=
  '\x22' :: text.flatMap quotedCharacter ++ ['\x22']

/-- A byte inside single quotes: printable ASCII stands for itself, and bytes
outside it are written with two hexadecimal digits. -/
def quotedByteContent (byte : UInt8) : List Char :=
  match Char.ofNat byte.toNat with
  | '\t' => ['\\', 't']
  | '\r' => ['\\', 'r']
  | '\n' => ['\\', 'n']
  | '\x27' => ['\\', '\x27']
  | '\x22' => ['\\', '\x22']
  | '\\' => ['\\', '\\']
  | other =>
      if 0x20 ≤ byte && byte ≤ 0x7e then
        [other]
      else
        ['\\', 'x', Nat.digitChar (byte.toNat / 16),
          Nat.digitChar (byte.toNat % 16)]

/-- A byte between single quotes. -/
def quotedByte (byte : UInt8) : List Char :=
  '\x27' :: quotedByteContent byte ++ ['\x27']

end WorkPackage.Text
