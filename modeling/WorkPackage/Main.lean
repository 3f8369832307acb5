import WorkPackage.Directory
/-!
# The program

Reads the files that the command line names, follows the command, and writes
what it made.  Everything that is decided is decided elsewhere.
-/

namespace WorkPackage

/-- The cause that the system gives for not opening a file.  Its number is 21 for a
directory and 22 for a name that no file can have. -/
def FileFault.ofError : IO.Error → FileFault
  | .noFileOrDirectory .. => .notFound
  | .inappropriateType _ code _ => if code = 21 then .isDirectory else .notDirectory
  | .invalidArgument _ code _ => if code = 22 then .invalidName else .nameTooLong
  | _ => .denied

/-- What a file holds, or why it cannot be read. -/
def readFile (path : String) : IO (Except FileFault (List UInt8)) := do
  try
    let bytes ← IO.FS.readBinFile path
    return .ok bytes.data.toList
  catch error =>
    return .error (.ofError error)

def readFiles (paths : List String) : IO FileSource := do
  let files ← paths.mapM fun path => return (path, ← readFile path)
  return fun path => (files.lookup path).getD (.error .notFound)

def tell (invocation : Invocation) (level : ReportLevel) (line : String) :
    IO Unit := do
  if invocation.reports level then
    IO.eprintln line
    if let some path := invocation.logFile then
      let log ← IO.FS.Handle.mk path .append
      log.putStrLn line

def write (request : BuildRequest) (bytes : List UInt8) (printed : List Char) :
    IO (Except Failure Unit) := do
  try
    IO.FS.writeBinFile request.output ⟨bytes.toArray⟩
    IO.print (String.ofList printed)
    return .ok ()
  catch error =>
    return .error (.unwritable request.output (.ofError error))

def follow (command : Command) (files : FileSource) : IO (Except Failure Unit) :=
  match command with
  | .inspect request =>
      match request.run files with
      | .error failure => return .error failure
      | .ok printed => do
          IO.print (String.ofList printed)
          return .ok ()
  | .build request =>
      match request.run files with
      | .error failure => return .error failure
      | .ok (bytes, printed) => write request bytes printed

/-- What is printed for a command line that asks for no work, and the answer to
the caller. -/
def explain : CommandLine.UsageFault → IO UInt32
  | .helpRequested => do
      IO.println CommandLine.usage
      return 0
  | .versionRequested => do
      IO.println CommandLine.version
      return 0
  | fault => do
      IO.eprintln s!"error: {fault.message}\n\n{CommandLine.usage}"
      return 2

/-- Follows a command line.  Answers whether it came to something: zero for
yes, one for a failure, two for a command line that cannot be followed. -/
def runProgram (words : List String) : IO UInt32 := do
  match CommandLine.read words with
  | .error fault => explain fault
  | .ok invocation =>
      tell invocation .information "starting up"
      let files ← readFiles invocation.command.inputs
      match ← follow invocation.command files with
      | .ok () => return 0
      | .error failure =>
          tell invocation .error s!"Error: {failure.message}"
          return 1

end WorkPackage

def main (words : List String) : IO UInt32 :=
  WorkPackage.runProgram words
