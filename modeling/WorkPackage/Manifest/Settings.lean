import WorkPackage.Manifest
import WorkPackage.Fault
import WorkPackage.Typing
/-!
# Settings

A setting assigns a value to one key of a manifest, in the form `key=value`.
Settings are read one by one and then applied in order, so that the last setting
of a key decides.
-/

namespace WorkPackage

/-- Why a package cannot be configured. -/
inductive ConfigFault where
  /-- A setting has no equals sign. -/
  | settingWithoutValue (written : String)
  | unsupportedKey (key : String)
  | invalidInteger (key value : String)
  | invalidCharacter (key value : String)
  | invalidBoolean (key value : String)
  | noExecutable
  | invalidTypeCodes (fault : Fault)
  | jobWithoutTypeCodes (index : Nat)
  | invalidJob (index : Nat) (fault : TypingFault)
  | delimiterNotAscii (delimiter : Char)
  | tableWithoutTypeCodes
  /-- More jobs were given than the package has slots. -/
  | tooManyJobs (jobs capacity : Nat)
  deriving DecidableEq, Repr

namespace ConfigFault

/-- What is wrong, without the common introduction. -/
def detail : ConfigFault → String
  | settingWithoutValue written =>
      s!"Invalid --set format: '{written}'. Expected KEY=VALUE."
  | unsupportedKey key =>
      s!"Unsupported configuration key for --set: '{key}'"
  | invalidInteger key value => s!"Invalid integer value for {key}: {value}"
  | invalidCharacter key value => s!"Invalid character value for {key}: {value}"
  | invalidBoolean key value => s!"Invalid boolean value for {key}: {value}"
  | noExecutable =>
      "An executable is required, via `executable`, `profile.executable-name` or --executable."
  | invalidTypeCodes fault => s!"Invalid `type-codes`: {fault.message}"
  | jobWithoutTypeCodes index =>
      s!"jobs[{index}] has no `type-codes` and no manifest-wide `type-codes` is set."
  | invalidJob index fault => s!"jobs[{index}]: {fault.message}"
  | delimiterNotAscii delimiter =>
      s!"`csv.delimiter` must be a single ASCII character, got '{delimiter}'."
  | tableWithoutTypeCodes =>
      "A job table requires `type-codes` in the manifest or --type-codes."
  | tooManyJobs jobs capacity =>
      s!"{jobs} jobs were supplied but the capacity is {capacity}."

def message (fault : ConfigFault) : String :=
  "Configuration error: " ++ fault.detail

end ConfigFault

/-- A value for one key of a manifest. -/
inductive Setting where
  | executable (value : String)
  | typeCodes (value : String)
  | capacity (value : Nat)
  | profileName (value : String)
  | profileExecutable (value : String)
  | guiAddress (value : String)
  | controllerAddress (value : String)
  | delimiter (value : Char)
  | hasHeaders (value : Bool)
  deriving DecidableEq, Repr

namespace Setting

def ofKey (key value : String) : Except ConfigFault Setting :=
  match key with
  | "executable" => .ok (executable value)
  | "type-codes" => .ok (typeCodes value)
  | "capacity" =>
      match Decimal.size? value.toList with
      | some size => .ok (capacity size)
      | none => .error (.invalidInteger key value)
  | "profile.name" => .ok (profileName value)
  | "profile.executable-name" => .ok (profileExecutable value)
  | "profile.gui-address" => .ok (guiAddress value)
  | "profile.controller-address" => .ok (controllerAddress value)
  | "csv.delimiter" =>
      match value.toList with
      | [character] => .ok (delimiter character)
      | _ => .error (.invalidCharacter key value)
  | "csv.has-headers" =>
      if value = "true" then .ok (hasHeaders true)
      else if value = "false" then .ok (hasHeaders false)
      else .error (.invalidBoolean key value)
  | _ => .error (.unsupportedKey key)

/-- Reads a setting; the first equals sign parts the key from the value. -/
def read (written : String) : Except ConfigFault Setting :=
  let key := written.toList.takeWhile (· != '=')
  match written.toList.dropWhile (· != '=') with
  | [] => .error (.settingWithoutValue written)
  | _ :: value => ofKey (String.ofList key) (String.ofList value)

/-- The manifest with the setting in place of what it said before. -/
def apply (manifest : Manifest) (setting : Setting) : Manifest :=
  let profile := manifest.profile.getD {}
  let table := manifest.table.getD {}
  match setting with
  | executable value => { manifest with executable := some value }
  | typeCodes value => { manifest with typeCodes := some value }
  | capacity value => { manifest with capacity := some value }
  | profileName value =>
      { manifest with profile := some { profile with name := value } }
  | profileExecutable value =>
      { manifest with profile := some { profile with executable := value } }
  | guiAddress value =>
      { manifest with profile := some { profile with guiAddress := value } }
  | controllerAddress value =>
      { manifest with profile := some { profile with controllerAddress := value } }
  | delimiter value =>
      { manifest with table := some { table with delimiter := some value } }
  | hasHeaders value =>
      { manifest with table := some { table with hasHeaders := some value } }

end Setting

end WorkPackage
