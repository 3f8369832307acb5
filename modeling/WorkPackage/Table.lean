import WorkPackage.Table.Record
import WorkPackage.Typing
/-!
# Job tables

A job table has one job per record and one column per type code.  Records are
taken in order and the first that cannot be used decides the fault.
-/

namespace WorkPackage

/-- How the records of a table are told apart. -/
structure TableFormat where
  delimiter : UInt8 := 0x2c
  hasHeaders : Bool := true
  deriving DecidableEq, Repr, Inhabited

/-- Why a job table cannot be used. -/
inductive TableFault where
  /-- A record is no text. -/
  | notText
  /-- The record sought from a line on does not fit the type codes. -/
  | row (line : Nat) (fault : TypingFault)
  deriving DecidableEq, Repr

namespace TableFault

/-- The sentence shown to people, where it is ours. -/
def message? : TableFault → Option String
  | notText => none
  | row line fault => some s!"line {line}: {fault.message}"

end TableFault

namespace Table

def fieldTexts? (record : Record) : Option (List String) :=
  record.fields.mapM fun field => String.fromUTF8? ⟨field.toArray⟩

/-- The arguments of one record. -/
def readRecord (codes : List Char) (record : Record) :
    Except TableFault (List Argument) :=
  match fieldTexts? record with
  | none => .error .notText
  | some fields => (Typing.textRow codes fields).mapError (.row record.line)

/-- The rows of a job table.  With headers the first record is not looked at. -/
def read (codes : List Char) (format : TableFormat) (bytes : List UInt8) :
    Except TableFault (List (List Argument)) :=
  let records := records format.delimiter bytes
  (if format.hasHeaders then records.drop 1 else records).mapM
    (readRecord codes)

end Table

end WorkPackage
