import WorkPackage.Fault
import WorkPackage.Number.Binary
/-!
# Arguments

An argument is one typed value of a job, or an empty slot that waits for one.
Floating-point values are kept as words, so storing and fetching never changes
a payload or the sign of a zero.
-/

namespace WorkPackage

/-- Byte strings are equal when their bytes are. -/
instance bytesDecidableEq : DecidableEq ByteArray := fun left right =>
  if same : left.data = right.data then isTrue (ByteArray.ext same)
  else isFalse fun equal => same (congrArg ByteArray.data equal)

/-- A value of one of the nine kinds, or an empty slot. -/
inductive Argument where
  | unset
  | text (value : String)
  | integer (value : Int32)
  | float (word : UInt32)
  | boolean (value : Bool)
  | long (value : Int64)
  | double (word : UInt64)
  | character (value : UInt8)
  | bytes (value : ByteArray)
  | unsigned (value : UInt32)
  deriving DecidableEq

namespace Argument

instance : Inhabited Argument := ⟨unset⟩

def kind : Argument → Kind
  | unset => .unset
  | text _ => .text
  | integer _ => .integer
  | float _ => .float
  | boolean _ => .boolean
  | long _ => .long
  | double _ => .double
  | character _ => .character
  | bytes _ => .bytes
  | unsigned _ => .unsigned

def isSet (argument : Argument) : Bool :=
  argument.kind != .unset

/-- The value, provided that it has the expected kind. -/
def get (expected : Kind) (argument : Argument) : Except Fault Argument :=
  if argument.kind = expected then
    .ok argument
  else
    .error (.typeMismatch expected argument.kind)

/-- Do two arguments hold the same value?  Floating-point values are compared as
numbers, all others by identity. -/
def sameValue : Argument → Argument → Bool
  | float left, float right =>
      Binary.sameNumber .single left.toNat right.toNat
  | double left, double right =>
      Binary.sameNumber .double left.toNat right.toNat
  | left, right => left = right

@[simp] theorem isSet_eq_false_iff {argument : Argument} :
    argument.isSet = false ↔ argument = unset := by
  cases argument <;> simp [isSet, kind]

theorem get_eq_ok_iff {expected : Kind} {argument value : Argument} :
    get expected argument = .ok value ↔
      argument.kind = expected ∧ value = argument := by
  unfold get
  split <;> simp_all [eq_comm]

end Argument

end WorkPackage
