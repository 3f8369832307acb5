import WorkPackage.Toml.Value
import WorkPackage.Number.Decimal
import WorkPackage.Number.Shortest
import WorkPackage.Text.Quoted
/-!
# TOML values as text

A value is written on one line in TOML notation, except for the line breaks
inside its strings.  A string takes the plainest quotes that need no escape;
only a string that has no such quotes is written with escapes.
-/

namespace WorkPackage.Toml

/-- At least `width` digits, zeros in front. -/
def padded (width number : Nat) : List Char :=
  let digits := Decimal.digits number
  List.replicate (width - digits.length) '0' ++ digits

def Date.render (date : Date) : List Char :=
  padded 4 date.year ++ '-' :: padded 2 date.month ++ '-' :: padded 2 date.day

/-- The fraction of a second, without the zeros at its end. -/
def renderFraction (nanosecond : Nat) : List Char :=
  if nanosecond = 0 then []
  else
    '.' :: ((padded 9 nanosecond).reverse.dropWhile (· == '0')).reverse

def Time.render (time : Time) : List Char :=
  padded 2 time.hour ++ ':' :: padded 2 time.minute ++
    ':' :: padded 2 time.second ++ renderFraction time.nanosecond

def Offset.render : Offset → List Char
  | universal => ['Z']
  | minutes count =>
      (if count < 0 then '-' else '+') :: padded 2 (count.natAbs / 60) ++
        ':' :: padded 2 (count.natAbs % 60)

/-- The parts that are there; a `T` stands between the day and the time. -/
def DateTime.render (dateTime : DateTime) : List Char :=
  let date := (dateTime.date.map Date.render).getD []
  let time := (dateTime.time.map Time.render).getD []
  let separator :=
    if dateTime.date.isSome && dateTime.time.isSome then ['T'] else []
  date ++ separator ++ time ++ (dateTime.offset.map Offset.render).getD []

def longestRun (character : Char) (text : List Char) : Nat :=
  let step (state : Nat × Nat) (other : Char) : Nat × Nat :=
    if other = character then (state.1 + 1, max state.2 (state.1 + 1))
    else (0, state.2)
  (text.foldl step (0, 0)).2

/-- Is a character one that no quotes can hold as it stands?  Tabs can be held,
and line breaks by triple quotes. -/
def isControl (character : Char) : Bool :=
  (character.toNat < 0x20 && character != '\t' && character != '\n') ||
    character.toNat = 0x7f

def escaped (character : Char) : List Char :=
  match character with
  | '\x22' => ['\\', '\x22']
  | '\\' => ['\\', '\\']
  | '\x08' => ['\\', 'b']
  | '\t' => ['\\', 't']
  | '\n' => ['\\', 'n']
  | '\x0c' => ['\\', 'f']
  | '\r' => ['\\', 'r']
  | other =>
      if other.toNat < 0x20 || other.toNat = 0x7f then
        let digits := (Text.hexDigits other.toNat).map Char.toUpper
        '\\' :: 'u' :: List.replicate (4 - digits.length) '0' ++ digits
      else
        [other]

/-- A text between triple double quotes.  Line breaks stand as they are, and of
the quotes only every third in a row is escaped; `run` counts those before. -/
def escapedLines (run : Nat) : List Char → List Char
  | [] => []
  | '\n' :: rest => '\n' :: escapedLines 0 rest
  | '\x22' :: rest =>
      if run = 2 then escaped '\x22' ++ escapedLines 0 rest
      else '\x22' :: escapedLines (run + 1) rest
  | other :: rest => escaped other ++ escapedLines 0 rest

def renderString (text : List Char) : List Char :=
  let needsEscape := text.any isControl
  let hasBackslash := text.contains '\\'
  let hasLines := text.contains '\n'
  let doubles := longestRun '\x22' text
  let singles := longestRun '\x27' text
  let firstLine := if hasLines then ['\n'] else []
  let basic := '\x22' :: text.flatMap escaped ++ ['\x22']
  let literal := '\x27' :: text ++ ['\x27']
  let basicLines :=
    ['\x22', '\x22', '\x22'] ++ firstLine ++ escapedLines 0 text ++
      ['\x22', '\x22', '\x22']
  let literalLines :=
    ['\x27', '\x27', '\x27'] ++ firstLine ++ text ++ ['\x27', '\x27', '\x27']
  if !needsEscape && !hasBackslash && doubles = 0 && !hasLines then basic
  else if !needsEscape && singles = 0 && !hasLines then literal
  else if !needsEscape && !hasBackslash && doubles ≤ 2 then basicLines
  else if !needsEscape && singles ≤ 2 then literalLines
  else if hasLines then basicLines
  else basic

/-- May a character stand in a key without quotes? -/
def isBareKeyCharacter (character : Char) : Bool :=
  character.isAlphanum || character = '_' || character = '-'

/-- A key, bare where it can be. -/
def renderKey (key : List Char) : List Char :=
  let needsEscape := key.any fun character =>
    isControl character || character = '\n'
  if key ≠ [] ∧ key.all isBareKeyCharacter then key
  else if !needsEscape && !key.contains '\\' && !key.contains '\x22' then
    '\x22' :: key.flatMap escaped ++ ['\x22']
  else if !needsEscape && !key.contains '\x27' then
    '\x27' :: key ++ ['\x27']
  else
    '\x22' :: key.flatMap escaped ++ ['\x22']

/-- A float, always with a point or as one of the words. -/
def renderFloat (word : UInt64) : List Char :=
  match Binary.decode .double word.toNat with
  | .notANumber .. => "nan".toList
  | .infinite negative => if negative then "-inf".toList else "inf".toList
  | .finite .. =>
      let text := Shortest.render .double word.toNat
      if text.contains '.' then text else text ++ ['.', '0']

namespace Value

mutual

def render : Value → List Char
  | .string value => renderString value.toList
  | .integer value => Decimal.ofInt value
  | .float word => renderFloat word
  | .numeral word => word.toList
  | .boolean true => "true".toList
  | .boolean false => "false".toList
  | .dateTime value => value.render
  | .array items =>
      '[' :: List.intercalate [',', ' '] (renderItems items) ++ [']']
  | .table [] => ['\x7b', '\x7d']
  | .table (entry :: entries) =>
      '\x7b' :: ' ' ::
        List.intercalate [',', ' '] (renderEntries (entry :: entries)) ++
        [' ', '\x7d']

def renderItems : List Value → List (List Char)
  | [] => []
  | item :: items => item.render :: renderItems items

def renderEntries : List (String × Value) → List (List Char)
  | [] => []
  | (key, value) :: entries =>
      (renderKey key.toList ++ [' ', '=', ' '] ++ value.render) ::
        renderEntries entries

end

end Value

end WorkPackage.Toml
