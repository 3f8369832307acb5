import WorkPackage.Kind
/-!
# Faults

A fault is the reason why an operation on jobs, packages or their wire form is
refused.  Each reason is a constructor that carries what its message needs;
`Fault.message` is the only place where the wording is written.
-/

namespace WorkPackage

/-- The largest length or count that a four-byte length field may carry: 64 MiB. -/
def maxFieldLength : Nat := 67108864

/-- Why a declared size is refused before anything is reserved for it. -/
inductive Refusal where
  /-- A length or count beyond `maxFieldLength`. -/
  | tooLong (length : Nat)
  /-- A length field that holds a negative number. -/
  | negative (length : Int)
  /-- A package with more than `maxFieldLength` slots. -/
  | tooManySlots (capacity : Nat)
  /-- A package that claims more filled slots than it has. -/
  | overfilled (added capacity : Nat)
  deriving DecidableEq, Repr

namespace Refusal

def message : Refusal → String
  | tooLong length =>
      s!"length {length} exceeds the {maxFieldLength} byte field limit"
  | negative length => s!"negative length {length} on the wire"
  | tooManySlots capacity =>
      s!"capacity {capacity} exceeds the {maxFieldLength} slot limit"
  | overfilled added capacity =>
      s!"{added} added jobs exceed capacity {capacity}"

end Refusal

/-- Why an operation on arguments, jobs, packages or frames is refused. -/
inductive Fault where
  | typeMismatch (expected found : Kind)
  | formatArity (expected found : Nat)
  | capacityExceeded (capacity : Nat)
  | refused (refusal : Refusal)
  | unknownTypeCode (code : Char)
  | unknownTypeTag (tag : UInt8)
  | unknownJob (number : Int32)
  | invalidText
  | invalidBoolean (byte : UInt8)
  | badMagic
  | unsupportedVersion (version : UInt8)
  | frameLengthMismatch (declared actual : Nat)
  | channelClosed (pending : Nat)
  /-- The bytes ended before the value did. -/
  | endOfInput
  deriving DecidableEq, Repr

namespace Fault

/-- A byte in hexadecimal, two digits behind the mark `0x`. -/
def hexByte (byte : UInt8) : String :=
  String.ofList
    ['0', 'x', Nat.digitChar (byte.toNat / 16), Nat.digitChar (byte.toNat % 16)]

def message : Fault → String
  | typeMismatch expected found =>
      s!"Argument type mismatch: expected {expected.name}, found {found.name}"
  | formatArity expected found =>
      s!"Type-code arity mismatch: expected {expected} entries, found {found}"
  | capacityExceeded capacity => s!"Job package is full (capacity {capacity})"
  | refused refusal => s!"Refusing allocation: {refusal.message}"
  | unknownTypeCode code => s!"Unknown type code '{code}'"
  | unknownTypeTag tag =>
      s!"Unknown fundamental type tag {hexByte tag} on the wire"
  | unknownJob number => s!"No job with number {number.toInt} in this package"
  | invalidText => "Text field is not valid UTF-8"
  | invalidBoolean byte => s!"Invalid boolean byte {hexByte byte} on the wire"
  | badMagic => "Frame does not start with the expected magic bytes"
  | unsupportedVersion version =>
      s!"Unsupported frame version {version.toNat}"
  | frameLengthMismatch declared actual =>
      s!"Frame declares {declared} body bytes but the body occupies {actual}"
  | channelClosed pending =>
      s!"Completion channel closed with {pending} job(s) still pending"
  | endOfInput => "The input ended before the value did"

end Fault

end WorkPackage
