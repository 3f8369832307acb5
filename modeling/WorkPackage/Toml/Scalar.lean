import WorkPackage.Toml.Value
import WorkPackage.Toml.Parser
import WorkPackage.Number.Literal
/-!
# Scalars in TOML notation

How a word without quotes is read: as a boolean, an integer in one of four bases,
a float, or a day and time.  Underscores may stand between digits, and decimal
numbers have no leading zeros.  Words that only begin like numbers, and floats
that are too great for their width, are numerals without a value.
-/

namespace WorkPackage.Toml

/-- Digits of a base with single underscores between them, as digits only. -/
def groupedDigits? (isDigit : Char → Bool) : List Char → Option (List Char)
  | [] => none
  | [digit] => if isDigit digit then some [digit] else none
  | digit :: '_' :: rest =>
      if isDigit digit then (groupedDigits? isDigit rest).map (digit :: ·)
      else none
  | digit :: rest =>
      if isDigit digit then (groupedDigits? isDigit rest).map (digit :: ·)
      else none

def valueInBase (base : Nat) (digits : List Char) : Nat :=
  digits.foldl (fun number digit => number * base + digitValue digit) 0
where
  digitValue (digit : Char) : Nat :=
    if digit.isDigit then digit.toNat - 48
    else digit.toLower.toNat - 87

/-- What stands in front of the digits of a decimal number. -/
inductive Lead where
  | nothing
  | sign (negative : Bool)
  /-- A sign with an underscore behind it. -/
  | looseSign (negative : Bool)

def Lead.negative : Lead → Bool
  | nothing => false
  | sign negative | looseSign negative => negative

def splitLead : List Char → Lead × List Char
  | '-' :: '_' :: digits => (.looseSign true, digits)
  | '+' :: '_' :: digits => (.looseSign false, digits)
  | '-' :: digits => (.sign true, digits)
  | '+' :: digits => (.sign false, digits)
  | digits => (.nothing, digits)

/-- Decimal digits, as digits only.  Zeros may lead them only behind a loose
sign. -/
def decimalDigits? (lead : Lead) (text : List Char) : Option (List Char) := do
  let digits ← groupedDigits? Char.isDigit text
  match lead with
  | .looseSign _ => some digits
  | _ =>
      if digits.length > 1 ∧ digits.head? = some '0' then none else some digits

def isHexDigit (character : Char) : Bool :=
  character.isDigit || ('a' ≤ character && character ≤ 'f') ||
    ('A' ≤ character && character ≤ 'F')

/-- An integer: decimal with an optional sign, or in base 16, 8 or 2 behind its
mark. -/
def integer? (text : List Char) : Option Int :=
  match text with
  | '0' :: 'x' :: digits =>
      (groupedDigits? isHexDigit digits).map fun digits =>
        Int.ofNat (valueInBase 16 digits)
  | '0' :: 'o' :: digits =>
      (groupedDigits? (fun digit => '0' ≤ digit && digit ≤ '7') digits).map
        fun digits => Int.ofNat (valueInBase 8 digits)
  | '0' :: 'b' :: digits =>
      (groupedDigits? (fun digit => digit = '0' || digit = '1') digits).map
        fun digits => Int.ofNat (valueInBase 2 digits)
  | _ =>
      let (lead, digits) := splitLead text
      (decimalDigits? lead digits).map fun digits =>
        let magnitude := Int.ofNat (Decimal.value digits)
        if lead.negative then -magnitude else magnitude

/-- The digits of an exponent behind its letter, with its sign. -/
def exponent? (text : List Char) : Option Int :=
  let (negative, digits) := Literal.splitSign text
  (groupedDigits? Char.isDigit digits).map fun digits =>
    let magnitude := Int.ofNat (Decimal.value digits)
    if negative then -magnitude else magnitude

def isExponentMark (character : Char) : Bool :=
  character = 'e' || character = 'E'

/-- A float with a fraction, an exponent or both. -/
def decimalFloat? (text : List Char) : Option Literal := do
  let (lead, rest) := splitLead text
  let significand := rest.takeWhile fun character => !isExponentMark character
  let exponent ←
    match rest.dropWhile fun character => !isExponentMark character with
    | [] => some none
    | _ :: digits => (exponent? digits).map some
  let whole ← decimalDigits? lead (significand.takeWhile (· != '.'))
  let places ←
    match significand.dropWhile (· != '.') with
    | [] => some none
    | _ :: digits => (groupedDigits? Char.isDigit digits).map some
  if exponent.isNone && places.isNone then none
  let fraction := places.getD []
  return .finite lead.negative (Decimal.value (whole ++ fraction))
    (exponent.getD 0 - fraction.length)

/-- A float in digits, or one of the words for infinity and for no number. -/
def float? (text : List Char) : Option Literal :=
  let (negative, rest) := Literal.splitSign text
  if rest = "inf".toList then some (.infinite negative)
  else if rest = "nan".toList then some (.notANumber negative)
  else decimalFloat? text

/-- Is a literal a finite number that has no finite word? -/
def overflows (literal : Literal) : Bool :=
  match literal with
  | .finite .. =>
      literal.word .double % Binary.Format.double.signBit =
        Binary.Format.double.infinity
  | _ => false

/-- Does every underscore stand between hexadecimal digits?  What stands before
the text counts as one. -/
def hasGroups : List Char → Bool
  | [] => true
  | '_' :: next :: rest => isHexDigit next && hasGroups (next :: rest)
  | '_' :: [] => false
  | character :: '_' :: rest => isHexDigit character && hasGroups ('_' :: rest)
  | _ :: rest => hasGroups rest

/-- Does a word begin like a number without being one?  The mark of a base may
lack its digits.  Behind decimal digits with an underscore anything may follow
but a point or an exponent, as long as the underscores have their digits. -/
def isNumeral (text : List Char) : Bool :=
  let digits := (Literal.splitSign text).2
  let rest := digits.dropWhile Char.isDigit
  text = ['0', 'x'] || text = ['0', 'o'] || text = ['0', 'b'] ||
    (rest.head? = some '_' && text.head? != some '_' &&
      digits.head? != some '0' && hasGroups (text.drop 1) &&
      !rest.any fun character => character = '.' || isExponentMark character)

/-- Exactly so many digits. -/
def fixedDigits (count : Nat) : Parser Nat := fun input =>
  let digits := input.take count
  if digits.length = count ∧ digits.all Char.isDigit then
    some (Decimal.value digits, input.drop count)
  else
    none

def isLeapYear (year : Nat) : Bool :=
  year % 4 = 0 && (year % 100 != 0 || year % 400 = 0)

def daysInMonth (year month : Nat) : Nat :=
  if month = 2 then (if isLeapYear year then 29 else 28)
  else if month = 4 || month = 6 || month = 9 || month = 11 then 30
  else 31

def date : Parser Date := do
  let year ← fixedDigits 4
  Parser.character '-'
  let month ← fixedDigits 2
  Parser.character '-'
  let day ← fixedDigits 2
  if month < 1 || 12 < month || day < 1 || daysInMonth year month < day then
    Parser.fail
  return { year, month, day }

/-- The digits behind the point of a second; those beyond billionths are
dropped. -/
def nanoseconds : Parser Nat := do
  Parser.character '.'
  let digits ← Parser.takeWhile Char.isDigit
  if digits.isEmpty then Parser.fail
  let kept := digits.take 9
  return Decimal.value (kept ++ List.replicate (9 - kept.length) '0')

def seconds : Parser (Nat × Nat) := do
  Parser.character ':'
  let second ← fixedDigits 2
  let nanosecond ← Parser.optional nanoseconds
  return (second, nanosecond.getD 0)

/-- A time of day.  Without seconds it is the start of its minute. -/
def time : Parser Time := do
  let hour ← fixedDigits 2
  Parser.character ':'
  let minute ← fixedDigits 2
  let (second, nanosecond) := (← Parser.optional seconds).getD (0, 0)
  if 23 < hour || 59 < minute || 60 < second then Parser.fail
  return { hour, minute, second, nanosecond }

def offset : Parser Offset :=
  let universal : Parser Offset := do
    let letter ← Parser.takeWhile fun character =>
      character = 'Z' || character = 'z'
    if letter.length != 1 then Parser.fail
    return .universal
  let distance : Parser Offset := do
    let sign ← Parser.takeWhile fun character =>
      character = '+' || character = '-'
    if sign.length != 1 then Parser.fail
    let hour ← fixedDigits 2
    Parser.character ':'
    let minute ← fixedDigits 2
    if 23 < hour || 59 < minute then Parser.fail
    let count := Int.ofNat (hour * 60 + minute)
    return .minutes (if sign = ['-'] then -count else count)
  Parser.orElse universal distance

/-- The mark between a day and a time. -/
def dateTimeSeparator : Parser Unit := do
  let mark ← Parser.takeWhile fun character =>
    character = 'T' || character = 't' || character = ' '
  if mark.length != 1 then Parser.fail

/-- A day, a time, or both with an optional offset; nothing stands behind it. -/
def dateTime : Parser DateTime :=
  let full : Parser DateTime := do
    let date ← date
    let time ← Parser.optional do
      dateTimeSeparator
      let time ← time
      return (time, ← Parser.optional offset)
    Parser.ending
    return {
      date := some date
      time := time.map Prod.fst
      offset := time.bind Prod.snd }
  let timeOnly : Parser DateTime := do
    let time ← time
    Parser.ending
    return { time := some time }
  Parser.orElse full timeOnly

/-- Reads a day and time as they are written. -/
def DateTime.read? (text : List Char) : Option DateTime :=
  (dateTime text).map Prod.fst

/-- The value of a word without quotes. -/
def scalar? (text : List Char) : Option Value :=
  if text = "true".toList then some (.boolean true)
  else if text = "false".toList then some (.boolean false)
  else
    let numeral := Value.numeral (String.ofList text)
    let float (literal : Literal) : Value :=
      if overflows literal then numeral
      else .float (UInt64.ofNat (literal.word .double))
    ((integer? text).map Value.integer).or
      (((float? text).map float).or
        (((DateTime.read? text).map Value.dateTime).or
          (if isNumeral text then some numeral else none)))

end WorkPackage.Toml
