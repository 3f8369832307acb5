import WorkPackage.Manifest
import WorkPackage.Toml.Document
/-!
# Reading manifests

A manifest is a TOML document with a fixed set of keys.  Each section is read
from a table, where no other key may stand, or from an array that lists the
section's members in order.  Whatever does not fit refuses the whole manifest.
-/

namespace WorkPackage.Manifest

open Toml (Value)

/-- Why a manifest cannot be read. -/
inductive ReadFault where
  /-- The bytes are no UTF-8. -/
  | notText
  /-- The text is no TOML, or its content is no manifest. -/
  | malformed
  deriving DecidableEq, Repr

def text? : Value → Option String
  | .string value => some value
  | _ => none

def flag? : Value → Option Bool
  | .boolean value => some value
  | _ => none

/-- A size of at most 64 bits. -/
def size? : Value → Option Nat
  | .integer value =>
      if 0 ≤ value ∧ value ≤ 18446744073709551615 then some value.toNat else none
  | _ => none

def int32? : Value → Option Int32
  | .integer value => Decimal.int32? value
  | _ => none

/-- A string of exactly one character. -/
def character? : Value → Option Char
  | .string value =>
      match value.toList with
      | [character] => some character
      | _ => none
  | _ => none

def items? : Value → Option (List Value)
  | .array items => some items
  | _ => none

/-- The key of a table that stands for a day and time. -/
def dateTimeKey : String := "$__toml_private_datetime"

/-- What stands under `dateTimeKey`, if that is the first key of a table. -/
def underDateTimeKey? : List (String × Value) → Option Value
  | (key, value) :: _ => if key = dateTimeKey then some value else none
  | [] => none

/-- A day and time that is written as a string. -/
def dateTime? (value : Value) : Option Value := do
  let text ← text? value
  return .dateTime (← Toml.DateTime.read? text.toList)

mutual

/-- A value of a job.  Its integers must fit into signed 64-bit words, and its
numbers must have a value.  A table whose first key is `dateTimeKey` becomes the
day and time under that key, and its other entries do not count. -/
def jobValue? : Value → Option Value
  | .integer value => (Decimal.int64? value).map fun _ => .integer value
  | .numeral _ => none
  | .array items => (jobValues? items).map Value.array
  | .table entries =>
      match underDateTimeKey? entries with
      | some value => dateTime? value
      | none => (jobEntries? entries).map Value.table
  | value => some value

def jobValues? : List Value → Option (List Value)
  | [] => some []
  | item :: items => do
      let value ← jobValue? item
      return value :: (← jobValues? items)

def jobEntries? : List (String × Value) → Option (List (String × Value))
  | [] => some []
  | (key, value) :: entries => do
      let value ← jobValue? value
      return (key, value) :: (← jobEntries? entries)

end

/-- The members of a section in the order of their names, as far as they are
there.  An array has to list at least the first `least` of them. -/
def members? (names : List String) (least : Nat) :
    Value → Option (List (Option Value))
  | .table entries =>
      if entries.all fun (key, _) => names.contains key then
        some (names.map fun name => entries.lookup name)
      else
        none
  | .array items =>
      if least ≤ items.length then
        some ((List.range names.length).map fun index => items[index]?)
      else
        none
  | _ => none

def optional? {α : Type} (read : Value → Option α) :
    Option Value → Option (Option α)
  | none => some none
  | some value => (read value).map some

def defaulted? {α : Type} (read : Value → Option α) (absent : α) :
    Option Value → Option α
  | none => some absent
  | some value => read value

def runCommand? (value : Value) : Option RunCommand := do
  let names :=
    ["command", "number-of-copies", "threads-per-copy",
      "override-total-copies", "overridden-number-of-copies", "delay-ms"]
  match ← members? names 1 value with
  | [some command, copies, threads, overrides, overridden, delay] =>
      return {
        command := ← text? command
        copies := ← defaulted? int32? 1 copies
        threads := ← defaulted? int32? 1 threads
        overridesCopies := ← defaulted? flag? false overrides
        overriddenCopies := ← defaulted? int32? 0 overridden
        delay := ← defaulted? int32? 0 delay }
  | _ => none

def profile? (value : Value) : Option Profile := do
  let names :=
    ["name", "executable-name", "gui-address", "controller-address",
      "run-commands"]
  match ← members? names 0 value with
  | [name, executable, guiAddress, controllerAddress, commands] =>
      let commands ← defaulted? items? [] commands
      return {
        name := ← defaulted? text? "" name
        executable := ← defaulted? text? "" executable
        guiAddress := ← defaulted? text? "" guiAddress
        controllerAddress := ← defaulted? text? "" controllerAddress
        commands := ← commands.mapM runCommand? }
  | _ => none

def tableSection? (value : Value) : Option TableSection := do
  match ← members? ["delimiter", "has-headers"] 2 value with
  | [delimiter, hasHeaders] =>
      return {
        delimiter := ← optional? character? delimiter
        hasHeaders := ← optional? flag? hasHeaders }
  | _ => none

def jobEntry? (value : Value) : Option JobEntry := do
  match ← members? ["type-codes", "values"] 2 value with
  | [typeCodes, some values] =>
      let values ← jobValues? (← items? values)
      return { typeCodes := ← optional? text? typeCodes, values }
  | _ => none

def ofDocument? (document : Value) : Option Manifest := do
  let names :=
    ["executable", "capacity", "type-codes", "profile", "csv", "jobs"]
  match ← members? names 0 document with
  | [executable, capacity, typeCodes, profile, table, jobs] =>
      let jobs ← defaulted? items? [] jobs
      return {
        executable := ← optional? text? executable
        capacity := ← optional? size? capacity
        typeCodes := ← optional? text? typeCodes
        profile := ← optional? profile? profile
        table := ← optional? tableSection? table
        jobs := ← jobs.mapM jobEntry? }
  | _ => none

def read (bytes : List UInt8) : Except ReadFault Manifest :=
  match String.fromUTF8? ⟨bytes.toArray⟩ with
  | none => .error .notText
  | some text =>
      match (Toml.Document.read? text).bind ofDocument? with
      | some manifest => .ok manifest
      | none => .error .malformed

end WorkPackage.Manifest
