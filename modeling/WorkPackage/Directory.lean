import WorkPackage.Build
import WorkPackage.Listing
/-!
# Commands in a directory

A directory holds files by name and has no directories of its own; of what lies
around it only the files are known that were put there.  A command reads its
files by their paths; what it builds is put at a path, and a command that fails
leaves the directory as it was.
-/

namespace WorkPackage

namespace InspectRequest

def run (request : InspectRequest) (files : FileSource) :
    Except Failure (List Char) :=
  match files request.package with
  | .error fault => .error (.noPackage request.package fault)
  | .ok bytes =>
      match Package.readFrame.front bytes with
      | .error fault => .error (.unreadablePackage request.package fault)
      | .ok package => .ok (package.listing request.withJobs)

end InspectRequest

/-- Files by name, each name once.  A name with a slash lies outside. -/
structure Directory where
  files : List (String × List UInt8) := []
  deriving Inhabited

namespace Directory

def has (directory : Directory) (name : String) : Bool :=
  (directory.files.lookup name).isSome

def find (directory : Directory) (name : String) :
    Except FileFault (List UInt8) :=
  match directory.files.lookup name with
  | some bytes => .ok bytes
  | none => .error (if Place.isTooLong name then .nameTooLong else .notFound)

def directoryFault (directory : Directory) (name : String) : FileFault :=
  match directory.find name with
  | .ok _ => .notDirectory
  | .error fault => fault

def read (directory : Directory) : FileSource := fun path => do
  match ← Place.ofPath path with
  | .directory => .error .isDirectory
  | .file name => directory.find name
  | .subdirectory name | .within name => .error (directory.directoryFault name)

/-- Puts a file in place of the one that had its name. -/
def put (directory : Directory) (name : String) (bytes : List UInt8) : Directory :=
  { files := directory.files.filter (fun (present, _) => present ≠ name) ++
      [(name, bytes)] }

def write (directory : Directory) (path : String) (bytes : List UInt8) :
    Except FileFault Directory := do
  match ← Place.ofPath path with
  | .directory | .subdirectory _ => .error .isDirectory
  | .file name =>
      if Place.isTooLong name then .error .nameTooLong
      else return directory.put name bytes
  | .within name => .error (directory.directoryFault name)

/-- The files inside a directory that another one does not have. -/
def without (directory other : Directory) : List (String × List UInt8) :=
  directory.files.filter fun (name, _) => !('/' ∈ name.toList || other.has name)

def perform (directory : Directory) :
    Command → Except Failure (List Char × Directory)
  | .inspect request =>
      (request.run directory.read).map fun printed => (printed, directory)
  | .build request => do
      let (bytes, printed) ← request.run directory.read
      let directory ←
        (directory.write request.output bytes).mapError (.unwritable request.output)
      return (printed, directory)

def runLine (directory : Directory) (words : List String) :
    Except Failure (List Char) × Directory :=
  match (CommandLine.read words).mapError Failure.usage with
  | .error failure => (.error failure, directory)
  | .ok invocation =>
      match directory.perform invocation.command with
      | .error failure => (.error failure, directory)
      | .ok (printed, directory) => (.ok printed, directory)

/-- Follows command lines one after the other. -/
def runLines (directory : Directory) :
    List (List String) → List (Except Failure (List Char)) × Directory
  | [] => ([], directory)
  | words :: lines =>
      let (outcome, directory) := directory.runLine words
      let (outcomes, directory) := directory.runLines lines
      (outcome :: outcomes, directory)

end Directory

end WorkPackage
