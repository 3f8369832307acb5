/-!
# Delimited records

A file is split into records and fields.  A field that opens with a double quote
runs to the closing one, and a quote inside it is written twice; what stands
between the closing quote and the next delimiter is taken as it is.  A record
ends at a line feed or a carriage return, and empty lines are skipped.  Each
record knows the line on which the search for it began.
-/

namespace WorkPackage.Table

/-- A row of raw fields. -/
structure Record where
  line : Nat
  fields : List (List UInt8)
  deriving DecidableEq, Repr

/-- Where a scan stands. -/
inductive Place where
  /-- Between records. -/
  | between
  /-- Between records, behind a carriage return that ended one. -/
  | behindReturn
  /-- At the start of a field. -/
  | fieldStart
  /-- Inside a field or a part of it without quotes. -/
  | plain
  /-- Inside quotes. -/
  | quoted
  /-- Behind a quote that may be the closing one. -/
  | behindQuote
  deriving DecidableEq, Repr

def quote : UInt8 := 0x22

def lineFeed : UInt8 := 0x0a

def carriageReturn : UInt8 := 0x0d

/-- The state of a scan.  `field` holds the bytes of the current field and
`fields` the finished fields of the record, both in reverse. -/
structure Scan where
  place : Place := .between
  field : List UInt8 := []
  fields : List (List UInt8) := []
  /-- The line on which the search for the current record began. -/
  startLine : Nat := 1
  /-- The line of the next byte. -/
  line : Nat := 1
  deriving DecidableEq, Repr

namespace Scan

def record (scan : Scan) : Record :=
  { line := scan.startLine
    fields := (scan.field.reverse :: scan.fields).reverse }

def atLine (place : Place) (line : Nat) : Scan :=
  { place, startLine := line, line }

/-- Ends the current field, at a delimiter. -/
def endField (scan : Scan) : Scan :=
  { scan with
    place := .fieldStart
    field := []
    fields := scan.field.reverse :: scan.fields }

/-- Adds a byte to the current field. -/
def push (scan : Scan) (place : Place) (byte : UInt8) : Scan :=
  { scan with place, field := byte :: scan.field }

/-- A byte outside quotes, other than an opening quote. -/
def stepPlain (delimiter : UInt8) (scan : Scan) (byte : UInt8) :
    Scan × Option Record :=
  if byte = delimiter then (scan.endField, none)
  else if byte = lineFeed then
    (atLine .between scan.line, some scan.record)
  else if byte = carriageReturn then
    (atLine .behindReturn scan.line, some scan.record)
  else (scan.push .plain byte, none)

/-- A byte at the start of a field. -/
def stepFieldStart (delimiter : UInt8) (scan : Scan) (byte : UInt8) :
    Scan × Option Record :=
  if byte = quote then ({ scan with place := .quoted }, none)
  else scan.stepPlain delimiter byte

/-- Reads one byte, which may complete a record. -/
def step (delimiter : UInt8) (scan : Scan) (byte : UInt8) :
    Scan × Option Record :=
  let scan := { scan with line := if byte = lineFeed then scan.line + 1 else scan.line }
  match scan.place with
  | .behindReturn =>
      if byte = lineFeed ∨ byte = carriageReturn then
        ({ scan with place := .between }, none)
      else scan.stepFieldStart delimiter byte
  | .between =>
      if byte = lineFeed ∨ byte = carriageReturn then (scan, none)
      else scan.stepFieldStart delimiter byte
  | .fieldStart => scan.stepFieldStart delimiter byte
  | .plain => scan.stepPlain delimiter byte
  | .quoted =>
      if byte = quote then ({ scan with place := .behindQuote }, none)
      else (scan.push .quoted byte, none)
  | .behindQuote =>
      if byte = quote then (scan.push .quoted byte, none)
      else scan.stepPlain delimiter byte

/-- The record that the end of the file completes, if one was begun. -/
def finish (scan : Scan) : List Record :=
  match scan.place with
  | .between | .behindReturn => []
  | _ => [scan.record]

end Scan

def recordsFrom (delimiter : UInt8) (scan : Scan) : List UInt8 → List Record
  | [] => scan.finish
  | byte :: bytes =>
      match scan.step delimiter byte with
      | (scan, some record) => record :: recordsFrom delimiter scan bytes
      | (scan, none) => recordsFrom delimiter scan bytes

/-- A file without the mark of the byte order that it may start with. -/
def withoutMark : List UInt8 → List UInt8
  | 0xef :: 0xbb :: 0xbf :: bytes => bytes
  | bytes => bytes

def records (delimiter : UInt8) (bytes : List UInt8) : List Record :=
  recordsFrom delimiter {} (withoutMark bytes)

end WorkPackage.Table
