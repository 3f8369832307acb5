/-!
# Paths

A path leads from a directory to a file.  Which file it means, or why it can mean
none, follows from the path alone as long as the directory holds nothing but
files: a name with something behind it would have to be a directory.
-/

namespace WorkPackage

/-- Why a file cannot be read or written. -/
inductive FileFault where
  | notFound
  | isDirectory
  /-- A file stands where the path needs a directory. -/
  | notDirectory
  | nameTooLong
  /-- The path holds the character U+0000, which no name can. -/
  | invalidName
  /-- The system refuses for a reason of its own. -/
  | denied
  deriving DecidableEq, Repr

def FileFault.message : FileFault → String
  | notFound => "No such file or directory"
  | isDirectory => "Is a directory"
  | notDirectory => "Not a directory"
  | nameTooLong => "File name too long"
  | invalidName => "file name contained an unexpected NUL byte"
  | denied => "Permission denied"

/-- What a path means in a directory that holds nothing but files. -/
inductive Place where
  /-- The directory itself or one around it. -/
  | directory
  /-- A file of this name. -/
  | file (name : String)
  /-- A directory of this name. -/
  | subdirectory (name : String)
  /-- Something in a directory of this name. -/
  | within (name : String)
  deriving DecidableEq, Repr

namespace Place

def nameLimit : Nat := 255

def pathLimit : Nat := 4095

def segments : List Char → List (List Char)
  | [] => [[]]
  | '/' :: rest => [] :: segments rest
  | character :: rest =>
      match segments rest with
      | [] => [[character]]
      | segment :: others => (character :: segment) :: others

/-- Has a name more bytes than a name can have?  Those in front of its last slash
do not count. -/
def isTooLong (name : String) : Bool :=
  nameLimit <
    (String.ofList ((segments name.toList).getLast?.getD [])).utf8ByteSize

/-- What the segments of a path mean, seen from the directory that `base` names.
An empty segment and a single dot stay where they are, and two dots lead to the
directory around. -/
def ofSegments (base : List Char) : List (List Char) → Except FileFault Place
  | [] => .ok .directory
  | segment :: rest =>
      if segment = [] ∨ segment = ['.'] then
        ofSegments base rest
      else if segment = ['.', '.'] then
        ofSegments (base ++ ['.', '.', '/']) rest
      else
        let name := String.ofList (base ++ segment)
        if rest = [] then
          .ok (.file name)
        else if rest.all List.isEmpty then
          .ok (.subdirectory name)
        else
          .ok (.within name)

def ofPath (path : String) : Except FileFault Place :=
  if '\x00' ∈ path.toList then
    .error .invalidName
  else if pathLimit < path.utf8ByteSize then
    .error .nameTooLong
  else
    let base := if path.toList.head? = some '/' then ['/'] else []
    ofSegments base (segments path.toList)

end Place

end WorkPackage
