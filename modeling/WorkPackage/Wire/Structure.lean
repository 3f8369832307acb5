import WorkPackage.Wire.Field
import WorkPackage.Job
import WorkPackage.Profile
import WorkPackage.Result
/-!
# Structures on the wire

How arguments, jobs, results and profiles are written and read, and how many
bytes each takes.  Writing yields all bytes of a structure or none: it fails
only where a length or a count is beyond the limit.  Reading accepts nothing but
what writing yields; the completion flag of a job stays behind.
-/

namespace WorkPackage

open Wire

def Wire.encodeEach {α : Type} (encode : α → Except Fault (List UInt8)) :
    List α → Except Fault (List UInt8)
  | [] => .ok []
  | item :: items => do
      return (← encode item) ++ (← encodeEach encode items)

namespace Argument

def encodePayload : Argument → Except Fault (List UInt8)
  | unset => .ok []
  | text value => Field.ofText value
  | integer value => .ok (Field.ofInt32 value)
  | float word => .ok (Field.ofUInt32 word)
  | boolean value => .ok (Field.ofBool value)
  | long value => .ok (Field.ofInt64 value)
  | double word => .ok (Field.ofUInt64 word)
  | character value => .ok (Field.ofByte value)
  | bytes value => Field.ofBytes value
  | unsigned value => .ok (Field.ofUInt32 value)

def encode (argument : Argument) : Except Fault (List UInt8) :=
  return argument.kind.tag :: (← argument.encodePayload)

def decodePayload : Kind → Reader Argument
  | .unset => return unset
  | .text => return text (← Field.text)
  | .integer => return integer (← Field.int32)
  | .float => return float (← Field.uint32)
  | .boolean => return boolean (← Field.bool)
  | .long => return long (← Field.int64)
  | .double => return double (← Field.uint64)
  | .character => return character (← Field.byte)
  | .bytes => return bytes (← Field.bytes)
  | .unsigned => return unsigned (← Field.uint32)

/-- A tag byte, then the payload that it announces. -/
def decode : Reader Argument := do
  let tag ← Field.byte
  match Kind.ofTag? tag with
  | some kind => decodePayload kind
  | none => Reader.fail (.unknownTypeTag tag)

/-- The number of bytes that the argument takes on the wire. -/
def encodedSize : Argument → Nat
  | text value => 1 + lengthWidth + value.utf8ByteSize
  | bytes value => 1 + lengthWidth + value.size
  | other => 1 + other.kind.payloadWidth.getD 0

end Argument

namespace Job

def encode (job : Job) : Except Fault (List UInt8) := do
  let count ← Field.ofLength job.arguments.length
  let arguments ← encodeEach Argument.encode job.arguments
  return Field.ofInt32 job.number ++ count ++ arguments

/-- A job that is not completed, whatever it was when it was written. -/
def decode : Reader Job := do
  let number ← Field.int32
  let count ← Field.length
  let arguments ← Reader.repeated Argument.decode count
  return { number, arguments }

def encodedSize (job : Job) : Nat :=
  4 + lengthWidth + totalSize Argument.encodedSize job.arguments

end Job

namespace JobResult

def encode (result : JobResult) : Except Fault (List UInt8) := do
  let count ← Field.ofLength result.data.length
  return Field.ofInt32 result.number ++ count ++
    result.data.flatMap Field.ofUInt32

def decode : Reader JobResult := do
  let number ← Field.int32
  let count ← Field.length
  let data ← Reader.repeated Field.uint32 count
  return { number, data }

def encodedSize (result : JobResult) : Nat :=
  4 + lengthWidth + 4 * result.data.length

end JobResult

namespace RunCommand

/-- The command line, then its settings in the order of the fields. -/
def encode (command : RunCommand) : Except Fault (List UInt8) := do
  let line ← Field.ofText command.command
  return line ++ Field.ofInt32 command.copies ++
    Field.ofInt32 command.threads ++ Field.ofBool command.overridesCopies ++
    Field.ofInt32 command.overriddenCopies ++ Field.ofInt32 command.delay

def decode : Reader RunCommand := do
  let command ← Field.text
  let copies ← Field.int32
  let threads ← Field.int32
  let overridesCopies ← Field.bool
  let overriddenCopies ← Field.int32
  let delay ← Field.int32
  return { command, copies, threads, overridesCopies, overriddenCopies, delay }

def encodedSize (command : RunCommand) : Nat :=
  lengthWidth + command.command.utf8ByteSize + 17

end RunCommand

namespace Profile

def encode (profile : Profile) : Except Fault (List UInt8) := do
  let name ← Field.ofText profile.name
  let executable ← Field.ofText profile.executable
  let guiAddress ← Field.ofText profile.guiAddress
  let controllerAddress ← Field.ofText profile.controllerAddress
  let count ← Field.ofLength profile.commands.length
  let commands ← encodeEach RunCommand.encode profile.commands
  return name ++ executable ++ guiAddress ++ controllerAddress ++ count ++
    commands

def decode : Reader Profile := do
  let name ← Field.text
  let executable ← Field.text
  let guiAddress ← Field.text
  let controllerAddress ← Field.text
  let count ← Field.length
  let commands ← Reader.repeated RunCommand.decode count
  return { name, executable, guiAddress, controllerAddress, commands }

def encodedSize (profile : Profile) : Nat :=
  (lengthWidth + profile.name.utf8ByteSize) +
    (lengthWidth + profile.executable.utf8ByteSize) +
    (lengthWidth + profile.guiAddress.utf8ByteSize) +
    (lengthWidth + profile.controllerAddress.utf8ByteSize) +
    lengthWidth + totalSize RunCommand.encodedSize profile.commands

end Profile

end WorkPackage
