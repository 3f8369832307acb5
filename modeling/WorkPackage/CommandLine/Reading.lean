import WorkPackage.CommandLine.Parameter
import WorkPackage.Number.Literal
/-!
# Reading one scope of a command line

The words of a scope are read from left to right.  An option may still wait for
its value; it is settled, and its value looked at, only when the next parameter
or the end of the scope is reached.  Of several faults the one that is settled
first decides.
-/

namespace WorkPackage

namespace CommandLine

/-- Why a command line cannot be followed.  Asking for help or for the version
also ends the reading. -/
inductive UsageFault where
  | helpRequested
  | versionRequested
  /-- Nothing at all was asked for. -/
  | nothingGiven
  | missingCommand
  | missingParameter
  | unknownParameter
  | unknownCommand
  /-- A value is absent or empty where there must be one. -/
  | missingValue
  | invalidValue
  /-- A flag was given a value. -/
  | unexpectedValue
  /-- A parameter was given twice, or two that exclude each other. -/
  | conflict
  deriving DecidableEq, Repr

/-- What the words of a scope said so far. -/
structure Reading where
  /-- The settled parameters with their words, in order. -/
  given : List (Parameter × List String) := []
  /-- The parameter that is not settled yet. -/
  pending : Option (Parameter × List String) := none
  /-- Whether the next word is for the pending parameter. -/
  awaiting : Bool := false
  /-- Two hyphens end the options. -/
  trailing : Bool := false
  deriving Repr, Inhabited

namespace Reading

def has (reading : Reading) (parameter : Parameter) : Bool :=
  reading.given.any fun (present, _) => present = parameter

def values (reading : Reading) (parameter : Parameter) : List String :=
  reading.given.flatMap fun (present, words) =>
    if present = parameter then words else []

def value? (reading : Reading) (parameter : Parameter) : Option String :=
  (reading.values parameter).head?

def count (reading : Reading) (parameter : Parameter) : Nat :=
  reading.given.countP fun (present, _) => present = parameter

def checkWord (parameter : Parameter) (word : String) : Except UsageFault Unit :=
  if parameter.isPath ∧ word = "" then .error .missingValue
  else if parameter = .capacity ∧ (Decimal.size? word.toList).isNone then
    .error .invalidValue
  else .ok ()

def settle (reading : Reading) (parameter : Parameter) (words : List String) :
    Except UsageFault Reading := do
  if parameter.arity = .one ∧ words = [] then .error .missingValue
  if parameter = .help then .error .helpRequested
  if parameter = .version then .error .versionRequested
  if reading.has parameter ∧ ¬parameter.isRepeatable then .error .conflict
  words.forM (checkWord parameter)
  return { reading with given := reading.given ++ [(parameter, words)] }

def resolve (reading : Reading) : Except UsageFault Reading :=
  match reading.pending with
  | none => .ok { reading with awaiting := false }
  | some (parameter, words) =>
      settle { reading with pending := none, awaiting := false } parameter words

/-- Takes up a parameter that is written as one word with its value, if any. -/
def takeUp (reading : Reading) (parameter : Parameter)
    (attached : Option String) : Except UsageFault Reading := do
  let reading ← reading.resolve
  match attached, parameter.arity with
  | some word, _ => reading.settle parameter [word]
  | none, .flag => reading.settle parameter []
  | none, _ =>
      return { reading with pending := some (parameter, []), awaiting := true }

def readLong (scope : Scope) (reading : Reading) (written : List Char) :
    Except UsageFault Reading :=
  let name := String.ofList (written.takeWhile (· != '='))
  let attached :=
    match written.dropWhile (· != '=') with
    | [] => none
    | _ :: value => some (String.ofList value)
  match scope.byLong? name with
  | none => .error .unknownParameter
  | some parameter =>
      if parameter.arity = .flag ∧ attached.isSome then .error .unexpectedValue
      else reading.takeUp parameter attached

/-- Reads what follows a single hyphen: flags, and last an option whose value
may follow at once, with or without an equals sign. -/
def readShort (scope : Scope) (reading : Reading) :
    List Char → Except UsageFault Reading
  | [] => .ok reading
  | letter :: letters =>
      match scope.byShort? letter with
      | none => .error .unknownParameter
      | some parameter =>
          match parameter.arity, letters with
          | .flag, _ => do
              let reading ← reading.takeUp parameter none
              readShort scope reading letters
          | _, [] => reading.takeUp parameter none
          | _, '=' :: value => reading.takeUp parameter (some (String.ofList value))
          | _, value => reading.takeUp parameter (some (String.ofList value))

/-- Reads the next word as a value of the pending parameter.  One that takes
many words still waits for more. -/
def readValue (reading : Reading) (word : String) : Reading :=
  match reading.pending with
  | none => reading
  | some (parameter, words) =>
      { reading with
        pending := some (parameter, words ++ [word])
        awaiting := parameter.arity = .many }

/-- The fault of a word that no parameter of the scope is for. -/
def superfluous (scope : Scope) (reading : Reading) (word : String) :
    UsageFault :=
  if scope = .program ∧ ¬(reading.trailing ∧ isCommand word) then .unknownCommand
  else .unknownParameter

/-- Whether the parameter of words without a name was taken up already. -/
def hasPositional (reading : Reading) (parameter : Parameter) : Bool :=
  reading.has parameter ∨ reading.pending.any fun (present, _) => present = parameter

/-- Reads a word without a name. -/
def readPositional (scope : Scope) (reading : Reading) (word : String) :
    Except UsageFault Reading :=
  match scope.positional? with
  | none => .error (superfluous scope reading word)
  | some parameter =>
      if reading.hasPositional parameter then .error .unknownParameter
      else do
        let reading ← reading.resolve
        return { reading with pending := some (parameter, [word]) }

/-- Reads one word that names no command.  A single hyphen is a value. -/
def readWord (scope : Scope) (reading : Reading) (word : String) :
    Except UsageFault Reading :=
  if reading.trailing then readPositional scope reading word
  else
    match word.toList with
    | ['-', '-'] => .ok { reading with trailing := true }
    | '-' :: '-' :: written => readLong scope reading written
    | '-' :: letter :: letters => readShort scope reading (letter :: letters)
    | _ =>
        if reading.awaiting then .ok (readValue reading word)
        else readPositional scope reading word

/-- Looks at a scope as a whole: being quiet excludes being verbose, and what a
command needs must be there. -/
def validate (scope : Scope) (reading : Reading) : Except UsageFault Unit :=
  if reading.has .quiet ∧ reading.has .verbose then .error .conflict
  else if scope.required.any fun parameter => !reading.has parameter then
    .error .missingParameter
  else .ok ()

def ofWords (scope : Scope) (words : List String) : Except UsageFault Reading := do
  let reading ← words.foldlM (readWord scope) {}
  let reading ← reading.resolve
  validate scope reading
  return reading

end Reading

end CommandLine

end WorkPackage
