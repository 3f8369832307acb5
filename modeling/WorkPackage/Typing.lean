import WorkPackage.Argument
import WorkPackage.Number.Literal
import WorkPackage.Text.Blank
import WorkPackage.Toml.Printer
/-!
# Typed values from text and TOML

A type code says how a cell of a job table, or a value of a manifest, becomes an
argument.  Numbers and booleans in cells may have blanks around them; text, bytes
and characters are taken as they are.  Integers are never rounded into range:
what does not fit is refused.
-/

namespace WorkPackage

/-- What a type code asks of a value. -/
inductive Expectation where
  | int32
  | int64
  | uint32
  | number
  | truthWord
  | byteCharacter
  | byteNumber
  | byteNumbers
  | tomlString
  | tomlInteger
  | tomlBoolean
  | tomlCharacter
  | tomlBytes
  deriving DecidableEq, Repr

namespace Expectation

def phrase : Expectation → String
  | int32 => "a 32-bit integer"
  | int64 => "a 64-bit integer"
  | uint32 => "an unsigned 32-bit integer"
  | number => "a number"
  | truthWord => "true/false, yes/no or 1/0"
  | byteCharacter => "a single byte character"
  | byteNumber => "a byte in 0..=255"
  | byteNumbers => "an array of bytes in 0..=255"
  | tomlString => "a string"
  | tomlInteger => "an integer"
  | tomlBoolean => "a boolean"
  | tomlCharacter => "a one-character string or a byte"
  | tomlBytes => "a string or an array of bytes"

end Expectation

/-- Why values do not become arguments. -/
inductive TypingFault where
  | unknownTypeCode (code : Char)
  /-- The value as it is written does not meet the expectation. -/
  | invalidValue (code : Char) (written : String) (expectation : Expectation)
  /-- There are more or fewer values than type codes. -/
  | valueCount (codes : String) (expected found : Nat)
  deriving DecidableEq, Repr

namespace TypingFault

def message : TypingFault → String
  | unknownTypeCode code =>
      s!"Unknown type code '{code}'. Expected one of 't', 'i', 'f', 'b', 'l', 'd', 'c', 'u', 'v'."
  | invalidValue code written expectation =>
      s!"Invalid value '{written}' for type code '{code}': expected {expectation.phrase}."
  | valueCount codes expected found =>
      s!"Type codes '{codes}' describe {expected} values, but {found} were given."

end TypingFault

namespace Typing

/-- A word for a truth value, in any case. -/
def truth? (text : List Char) : Option Bool :=
  let word := String.ofList (text.map Char.toLower)
  if word = "true" ∨ word = "yes" ∨ word = "1" then some true
  else if word = "false" ∨ word = "no" ∨ word = "0" then some false
  else none

/-- The only byte of a text that is a single byte long. -/
def onlyByte? (text : String) : Option UInt8 :=
  match text.toUTF8.data.toList with
  | [byte] => some byte
  | _ => none

/-- The argument of a kind that a text stands for, if it does. -/
def fromText? (kind : Kind) (text : String) : Option Argument :=
  let trimmed := Text.trim text.toList
  match kind with
  | .unset => none
  | .text => some (.text text)
  | .integer => ((Decimal.signed? trimmed).bind Decimal.int32?).map .integer
  | .float =>
      (Literal.read? trimmed).map fun literal =>
        .float (UInt32.ofNat (literal.word .single))
  | .boolean => (truth? trimmed).map .boolean
  | .long => ((Decimal.signed? trimmed).bind Decimal.int64?).map .long
  | .double =>
      (Literal.read? trimmed).map fun literal =>
        .double (UInt64.ofNat (literal.word .double))
  | .character => (onlyByte? text).map .character
  | .bytes => some (.bytes text.toUTF8)
  | .unsigned =>
      ((Decimal.unsigned? trimmed).bind fun number =>
        Decimal.uint32? number).map .unsigned

def cellExpectation : Kind → Expectation
  | .integer => .int32
  | .long => .int64
  | .unsigned => .uint32
  | .boolean => .truthWord
  | .character => .byteCharacter
  | _ => .number

def fromText (code : Char) (text : String) : Except TypingFault Argument :=
  match Kind.ofCode? code with
  | none => .error (.unknownTypeCode code)
  | some kind =>
      match fromText? kind text with
      | some argument => .ok argument
      | none => .error (.invalidValue code text (cellExpectation kind))

def written (value : Toml.Value) : String :=
  String.ofList value.render

/-- A value that has to be in range, or the fault that names it. -/
def inRange {α : Type} (code : Char) (value : Toml.Value)
    (expectation : Expectation) (build : α → Argument) :
    Option α → Except TypingFault Argument
  | some content => .ok (build content)
  | none => .error (.invalidValue code (written value) expectation)

def listedBytes (code : Char) : List Toml.Value → Except TypingFault (List UInt8)
  | [] => .ok []
  | item :: items =>
      let byte := match item with
        | .integer number => Decimal.byte? number
        | _ => none
      match byte with
      | some byte => (listedBytes code items).map (byte :: ·)
      | none => .error (.invalidValue code (written item) .byteNumbers)

def fromKindToml (code : Char) (kind : Kind) (value : Toml.Value) :
    Except TypingFault Argument :=
  let refuse (expectation : Expectation) : Except TypingFault Argument :=
    .error (.invalidValue code (written value) expectation)
  match kind, value with
  | .text, .string content => .ok (.text content)
  | .text, _ => refuse .tomlString
  | .integer, .integer number =>
      inRange code value .int32 .integer (Decimal.int32? number)
  | .integer, _ => refuse .tomlInteger
  | .float, .float word =>
      .ok (.float (UInt32.ofNat (Binary.narrow word.toNat)))
  | .float, .integer number =>
      .ok (.float (UInt32.ofNat (Binary.ofInt .single number)))
  | .float, _ => refuse .number
  | .boolean, .boolean content => .ok (.boolean content)
  | .boolean, _ => refuse .tomlBoolean
  | .long, .integer number =>
      inRange code value .int64 .long (Decimal.int64? number)
  | .long, _ => refuse .tomlInteger
  | .double, .float word => .ok (.double word)
  | .double, .integer number =>
      .ok (.double (UInt64.ofNat (Binary.ofInt .double number)))
  | .double, _ => refuse .number
  | .character, .string content =>
      inRange code value .tomlCharacter .character (onlyByte? content)
  | .character, .integer number =>
      inRange code value .byteNumber .character (Decimal.byte? number)
  | .character, _ => refuse .tomlCharacter
  | .unsigned, .integer number =>
      inRange code value .uint32 .unsigned (Decimal.uint32? number)
  | .unsigned, _ => refuse .tomlInteger
  | .bytes, .string content => .ok (.bytes content.toUTF8)
  | .bytes, .array items =>
      (listedBytes code items).map fun bytes => .bytes ⟨bytes.toArray⟩
  | .bytes, _ => refuse .tomlBytes
  | .unset, _ => .error (.unknownTypeCode code)

def fromToml (code : Char) (value : Toml.Value) : Except TypingFault Argument :=
  match Kind.ofCode? code with
  | none => .error (.unknownTypeCode code)
  | some kind => fromKindToml code kind value

/-- The arguments of a row: one value per type code, the first fault decides. -/
def row {α : Type} (convert : Char → α → Except TypingFault Argument)
    (codes : List Char) (values : List α) :
    Except TypingFault (List Argument) :=
  if codes.length ≠ values.length then
    .error (.valueCount (String.ofList codes) codes.length values.length)
  else
    (codes.zip values).mapM fun (code, value) => convert code value

def textRow (codes : List Char) (fields : List String) :
    Except TypingFault (List Argument) :=
  row fromText codes fields

def tomlRow (codes : List Char) (values : List Toml.Value) :
    Except TypingFault (List Argument) :=
  row fromToml codes values

end Typing

end WorkPackage
