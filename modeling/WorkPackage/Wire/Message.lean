import WorkPackage.Wire.Frame
/-!
# Messages

Whatever is put into a stream is a message: an argument, a job, a result or a
profile as it is, or a package or a result in its frame.  A stream does not say
which is next, so a message is read by a reader for its shape.
-/

namespace WorkPackage.Wire

/-- Which reader a message calls for. -/
inductive Shape where
  | argument
  | job
  | result
  | profile
  | packageFrame
  | resultFrame
  deriving DecidableEq, Repr

inductive Message where
  | argument (argument : Argument)
  | job (job : Job)
  | result (result : JobResult)
  | profile (profile : Profile)
  | packageFrame (package : Package)
  | resultFrame (result : JobResult)
  deriving DecidableEq

namespace Message

def shape : Message → Shape
  | argument _ => .argument
  | job _ => .job
  | result _ => .result
  | profile _ => .profile
  | packageFrame _ => .packageFrame
  | resultFrame _ => .resultFrame

def encode : Message → Except Fault (List UInt8)
  | argument value => value.encode
  | job value => value.encode
  | result value => value.encode
  | profile value => value.encode
  | packageFrame value => value.frame
  | resultFrame value => value.frame

/-- The number of bytes that the message takes on the wire. -/
def encodedSize : Message → Nat
  | argument value => value.encodedSize
  | job value => value.encodedSize
  | result value => value.encodedSize
  | profile value => value.encodedSize
  | packageFrame value => Frame.packageHeaderSize + value.encodedSize
  | resultFrame value => Frame.resultHeaderSize + value.encodedSize

end Message

def Shape.read : Shape → Reader Message
  | argument => return .argument (← Argument.decode)
  | job => return .job (← Job.decode)
  | result => return .result (← JobResult.decode)
  | profile => return .profile (← Profile.decode)
  | packageFrame => return .packageFrame (← Package.readFrame)
  | resultFrame => return .resultFrame (← JobResult.readFrame)

end WorkPackage.Wire
