import WorkPackage.Wire.Reader
/-!
# Fields

The fields that every structure on the wire is made of: little-endian words,
booleans, lengths, and text or bytes behind their length.  Each field is written
and read here side by side.
-/

namespace WorkPackage.Wire

/-- The lowest `width` bytes of a number, the least significant first. -/
def littleEndian : Nat → Nat → List UInt8
  | 0, _ => []
  | width + 1, number => UInt8.ofNat number :: littleEndian width (number / 256)

/-- The number that bytes stand for, the least significant first. -/
def fromLittleEndian : List UInt8 → Nat
  | [] => 0
  | byte :: bytes => byte.toNat + 256 * fromLittleEndian bytes

/-- The width of a length in front of text, bytes or a list. -/
def lengthWidth : Nat := 4

def totalSize {α : Type} (size : α → Nat) (items : List α) : Nat :=
  items.foldr (fun item total => size item + total) 0

namespace Field

def ofByte (value : UInt8) : List UInt8 :=
  [value]

def ofBool (value : Bool) : List UInt8 :=
  [if value then 1 else 0]

def ofUInt32 (value : UInt32) : List UInt8 :=
  littleEndian 4 value.toNat

def ofInt32 (value : Int32) : List UInt8 :=
  ofUInt32 value.toUInt32

def ofUInt64 (value : UInt64) : List UInt8 :=
  littleEndian 8 value.toNat

def ofInt64 (value : Int64) : List UInt8 :=
  ofUInt64 value.toUInt64

/-- A length, unless it is beyond the limit. -/
def ofLength (length : Nat) : Except Fault (List UInt8) :=
  if length ≤ maxFieldLength then
    .ok (littleEndian lengthWidth length)
  else
    .error (.refused (.tooLong length))

def ofBytes (value : ByteArray) : Except Fault (List UInt8) :=
  (ofLength value.size).map (· ++ value.data.toList)

def ofText (value : String) : Except Fault (List UInt8) :=
  ofBytes value.toUTF8

def byte : Reader UInt8 := do
  let field ← Reader.take 1
  return UInt8.ofNat (fromLittleEndian field)

def bool : Reader Bool := do
  match ← byte with
  | 0 => return false
  | 1 => return true
  | other => Reader.fail (.invalidBoolean other)

def uint32 : Reader UInt32 := do
  let field ← Reader.take 4
  return UInt32.ofNat (fromLittleEndian field)

def int32 : Reader Int32 := do
  return (← uint32).toInt32

def uint64 : Reader UInt64 := do
  let field ← Reader.take 8
  return UInt64.ofNat (fromLittleEndian field)

def int64 : Reader Int64 := do
  return (← uint64).toInt64

/-- A length: a signed word that is neither negative nor beyond the limit. -/
def length : Reader Nat := do
  let declared := (← int32).toInt
  if declared < 0 then
    Reader.fail (.refused (.negative declared))
  else if maxFieldLength < declared.toNat then
    Reader.fail (.refused (.tooLong declared.toNat))
  else
    return declared.toNat

def bytes : Reader ByteArray := do
  let size ← length
  return ⟨(← Reader.take size).toArray⟩

/-- Text behind its length; the bytes must be UTF-8. -/
def text : Reader String := do
  match String.fromUTF8? (← bytes) with
  | some value => return value
  | none => Reader.fail .invalidText

end Field

end WorkPackage.Wire
