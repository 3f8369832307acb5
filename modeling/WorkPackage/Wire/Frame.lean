import WorkPackage.Wire.Structure
import WorkPackage.Package
/-!
# Frames

A frame is a header that names its kind and version and declares the size of
the body, then the body.  A body is read under the declared size and has to use
it up: bytes that it leaves are skipped and reported, and no byte behind the
declared size is ever looked at.
-/

namespace WorkPackage

open Wire

namespace Wire.Frame

def packageMagic : List UInt8 := [0x4a, 0x50, 0x4b, 0x47]

def resultMagic : List UInt8 := [0x4a, 0x52, 0x45, 0x53]

def version : UInt8 := 1

def packageHeaderSize : Nat := 21

def resultHeaderSize : Nat := 13

/-- The opening of a frame: the magic bytes and the version. -/
def readOpening (magic : List UInt8) : Reader Unit := do
  let opening ← Reader.take magic.length
  if opening ≠ magic then
    Reader.fail .badMagic
  else
    let found ← Field.byte
    if found ≠ version then
      Reader.fail (.unsupportedVersion found)
    else
      return ()

/-- Reads a body of a declared size.  The reader of the body sees no more than
that many bytes and must not leave any of them; what follows the body is left
whatever happens inside. -/
def readBody {α : Type} (declared : Nat) (body : Reader α) : Reader α :=
  fun input =>
    let window := input.take declared
    let following := input.drop declared
    match body window with
    | .value result rest =>
        let used := window.length - rest.length
        if used = declared then
          .value result following
        else
          .fault (.frameLengthMismatch declared used) following
    | .fault cause rest => .fault cause (rest ++ following)

/-- What the header of a package frame declares. -/
structure PackageHeader where
  capacity : Nat
  added : Nat
  bodySize : Nat
  deriving DecidableEq, Repr

def PackageHeader.encode (header : PackageHeader) :
    Except Fault (List UInt8) := do
  let capacity ← Field.ofLength header.capacity
  let added ← Field.ofLength header.added
  return packageMagic ++ [version] ++ capacity ++ added ++
    littleEndian 8 header.bodySize

def readPackageHeader : Reader PackageHeader := do
  readOpening packageMagic
  let capacity ← Field.length
  let added ← Field.length
  let bodySize ← Field.uint64
  return { capacity, added, bodySize := bodySize.toNat }

/-- The header of a result frame, which declares nothing but the size of the
body. -/
def resultHeader (bodySize : Nat) : List UInt8 :=
  resultMagic ++ [version] ++ littleEndian 8 bodySize

def readResultHeader : Reader Nat := do
  readOpening resultMagic
  return (← Field.uint64).toNat

end Wire.Frame

namespace Package

/-- The body of a package: the profile, then every slot. -/
def encode (package : Package) : Except Fault (List UInt8) := do
  let profile ← package.profile.encode
  let jobs ← encodeEach Job.encode package.jobs
  return profile ++ jobs

def encodedSize (package : Package) : Nat :=
  package.profile.encodedSize + totalSize Job.encodedSize package.jobs

/-- The body of a package with the counts that its header declares.  No job of
the package is completed. -/
def decode (capacity added : Nat) : Reader Package :=
  if capacity < added then
    Reader.fail (.refused (.overfilled added capacity))
  else do
    let profile ← Profile.decode
    let jobs ← Reader.repeated Job.decode capacity
    return { profile, filled := jobs.take added, free := jobs.drop added }

def header (package : Package) : Frame.PackageHeader :=
  { capacity := package.capacity
    added := package.added
    bodySize := package.encodedSize }

def frame (package : Package) : Except Fault (List UInt8) := do
  let header ← package.header.encode
  let body ← package.encode
  return header ++ body

def readFrame : Reader Package := do
  let header ← Frame.readPackageHeader
  Frame.readBody header.bodySize (decode header.capacity header.added)

end Package

namespace JobResult

def frame (result : JobResult) : Except Fault (List UInt8) := do
  let body ← result.encode
  return Frame.resultHeader result.encodedSize ++ body

def readFrame : Reader JobResult := do
  let bodySize ← Frame.readResultHeader
  Frame.readBody bodySize decode

end JobResult

end WorkPackage
