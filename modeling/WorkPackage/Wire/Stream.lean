import WorkPackage.Wire.Message
/-!
# Streams

Messages are written into a stream one behind the other.  A message is put
together in a buffer of its own, piece by piece and up to the first piece that
the format cannot carry; only a buffer with all pieces in it goes behind the
stream.  So a message that fails late has filled its buffer for nothing, but the
stream never sees a part of it.
-/

namespace WorkPackage

open Wire

namespace Wire

/-- What is written at one go: bytes, or the reason why there are none. -/
abbrev Piece := Except Fault (List UInt8)

/-- A buffer with pieces in it, and the reason why there are no more. -/
structure Staged where
  buffer : List UInt8
  fault? : Option Fault
  deriving DecidableEq

/-- Writes pieces into a buffer, up to the first that cannot be written.  Those
before it stay in the buffer. -/
def stage (buffer : List UInt8) : List Piece → Staged
  | [] => { buffer, fault? := none }
  | .ok bytes :: pieces => stage (buffer ++ bytes) pieces
  | .error fault :: _ => { buffer, fault? := some fault }

namespace Field

def bytesPieces (value : ByteArray) : List Piece :=
  [ofLength value.size, .ok value.data.toList]

def textPieces (value : String) : List Piece :=
  bytesPieces value.toUTF8

end Field

end Wire

namespace Argument

def pieces (argument : Argument) : List Piece :=
  .ok [argument.kind.tag] ::
    match argument with
    | text value => Field.textPieces value
    | bytes value => Field.bytesPieces value
    | other => [other.encodePayload]

end Argument

namespace Job

def pieces (job : Job) : List Piece :=
  .ok (Field.ofInt32 job.number) ::
    Field.ofLength job.arguments.length ::
    job.arguments.flatMap Argument.pieces

end Job

namespace JobResult

def pieces (result : JobResult) : List Piece :=
  .ok (Field.ofInt32 result.number) ::
    Field.ofLength result.data.length ::
    result.data.map fun word => .ok (Field.ofUInt32 word)

def framePieces (result : JobResult) : List Piece :=
  [.ok Frame.resultMagic, .ok (Field.ofByte Frame.version),
    .ok (littleEndian 8 result.encodedSize)] ++
  result.pieces

end JobResult

namespace RunCommand

def pieces (command : RunCommand) : List Piece :=
  Field.textPieces command.command ++
    [.ok (Field.ofInt32 command.copies),
      .ok (Field.ofInt32 command.threads),
      .ok (Field.ofBool command.overridesCopies),
      .ok (Field.ofInt32 command.overriddenCopies),
      .ok (Field.ofInt32 command.delay)]

end RunCommand

namespace Profile

def pieces (profile : Profile) : List Piece :=
  Field.textPieces profile.name ++
    Field.textPieces profile.executable ++
    Field.textPieces profile.guiAddress ++
    Field.textPieces profile.controllerAddress ++
    Field.ofLength profile.commands.length ::
    profile.commands.flatMap RunCommand.pieces

end Profile

namespace Package

/-- The header, then the body.  The size of the body is known beforehand. -/
def framePieces (package : Package) : List Piece :=
  [.ok Frame.packageMagic, .ok (Field.ofByte Frame.version),
    Field.ofLength package.capacity, Field.ofLength package.added,
    .ok (littleEndian 8 package.encodedSize)] ++
  package.profile.pieces ++ package.jobs.flatMap Job.pieces

end Package

namespace Wire

/-- A stream after a write, and the number of bytes that the write says it has
put there. -/
structure Written where
  stream : List UInt8
  outcome : Except Fault Nat

namespace Message

def pieces : Message → List Piece
  | argument value => value.pieces
  | job value => value.pieces
  | result value => value.pieces
  | profile value => value.pieces
  | packageFrame value => value.framePieces
  | resultFrame value => value.framePieces

/-- Puts a message behind a stream, if all of it can be written. -/
def write (message : Message) (stream : List UInt8) : Written :=
  let staged := stage [] message.pieces
  match staged.fault? with
  | none =>
      { stream := stream ++ staged.buffer
        outcome := .ok staged.buffer.length }
  | some fault => { stream, outcome := .error fault }

end Message

/-- A stream after several writes, and what each of them answered. -/
structure Session where
  stream : List UInt8
  outcomes : List (Except Fault Nat)

/-- Writes messages one behind the other, going on after those that fail. -/
def writeAll (stream : List UInt8) : List Message → Session
  | [] => { stream, outcomes := [] }
  | message :: messages =>
      let written := message.write stream
      let later := writeAll written.stream messages
      { later with outcomes := written.outcome :: later.outcomes }

/-- The messages whose writes succeeded. -/
def accepted : List Message → List (Except Fault Nat) → List Message
  | message :: messages, .ok _ :: outcomes =>
      message :: accepted messages outcomes
  | _ :: messages, .error _ :: outcomes => accepted messages outcomes
  | _, _ => []

/-- Reads messages of given shapes, one behind the other. -/
def Shape.readAll : List Shape → Reader (List Message)
  | [] => return []
  | shape :: shapes => do
      let message ← shape.read
      let messages ← readAll shapes
      return message :: messages

end Wire

end WorkPackage
