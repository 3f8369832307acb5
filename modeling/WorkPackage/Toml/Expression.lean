import WorkPackage.Toml.Scalar
import WorkPackage.Toml.Printer
/-!
# Lines of a TOML document

The grammar of keys, strings, values and lines.  A document is a list of lines
that open a table or assign a value; what the lines amount to together is not
decided here.  Arrays and inline tables may run over several lines and may be
nested at most `nestingLimit` deep; a dotted key has at most as many names.
-/

namespace WorkPackage.Toml

/-- A dotted key: the names from the outermost table to the value. -/
abbrev Path := List String

/-- A value as it is written, before the keys of its inline tables are put in
place. -/
inductive Term where
  | scalar (value : Value)
  | array (items : List Term)
  | inlineTable (entries : List (Path × Term))
  deriving Inhabited

/-- One line of a document. -/
inductive Line where
  | blank
  | tableHeader (path : Path)
  | elementHeader (path : Path)
  | assignment (path : Path) (value : Term)

/-- The greatest depth of arrays and inline tables inside each other, and the
greatest number of names in a dotted key. -/
def nestingLimit : Nat := 80

def isSpace (character : Char) : Bool :=
  character = ' ' || character = '\t'

def spaces : Parser Unit := do
  let _ ← Parser.takeWhile isSpace

def isPlain (character : Char) : Bool :=
  character = '\t' || (0x20 ≤ character.toNat && character.toNat != 0x7f)

def lineBreak : Parser Unit :=
  Parser.orElse (Parser.character '\n') (Parser.text ['\r', '\n'])

def comment : Parser Unit := do
  Parser.character '#'
  let _ ← Parser.takeWhile isPlain

/-- What may stand between the parts of an array or an inline table: spaces, line
breaks and comments up to the end of their line. -/
def gap : Parser Unit := do
  let filler : Parser Unit := do
    let some first ← Parser.peek? | Parser.fail
    if isSpace first then spaces
    else if first = '#' then do
      comment
      lineBreak
    else lineBreak
  let _ ← Parser.many filler

/-- The end of a line: an optional comment, then a line break or the end of the
text. -/
def lineEnd : Parser Unit := do
  spaces
  let _ ← Parser.optional comment
  Parser.orElse lineBreak Parser.ending

/-- A character given by its code point in hexadecimal digits, unless it is
none. -/
def codePoint? (digits : List Char) : Option Char :=
  if digits.all isHexDigit then
    let number := valueInBase 16 digits
    if number.isValidChar then some (Char.ofNat number) else none
  else
    none

/-- A non-empty run of plain characters, some of which are excluded. -/
def plainRun (excluded : List Char) : Parser (List Char) := do
  let run ← Parser.takeWhile fun character =>
    isPlain character && !excluded.contains character
  if run.isEmpty then Parser.fail
  return run

/-- A character by its code point, with exactly so many digits. -/
def codePointEscape (count : Nat) : Parser (List Char) := fun input =>
  let digits := input.take count
  if digits.length = count then
    (codePoint? digits).map fun character => ([character], input.drop count)
  else
    none

def escapeSequence : Parser (List Char) := do
  Parser.character '\\'
  let some letter ← Parser.peek? | Parser.fail
  Parser.character letter
  match letter with
  | 'b' => return ['\x08']
  | 'e' => return ['\x1b']
  | 't' => return ['\t']
  | 'n' => return ['\n']
  | 'f' => return ['\x0c']
  | 'r' => return ['\r']
  | '\x22' => return ['\x22']
  | '\\' => return ['\\']
  | 'x' => codePointEscape 2
  | 'u' => codePointEscape 4
  | 'U' => codePointEscape 8
  | _ => Parser.fail

/-- A backslash at the end of a line: the break and all blanks behind it are
left out. -/
def joinedLine : Parser (List Char) := do
  Parser.character '\\'
  spaces
  lineBreak
  let blank : Parser Unit := do
    let some first ← Parser.peek? | Parser.fail
    if isSpace first then spaces else lineBreak
  let _ ← Parser.many blank
  return []

/-- A line break inside a string, as it stands. -/
def keptLineBreak : Parser (List Char) := fun input =>
  match input with
  | '\n' :: rest => some (['\n'], rest)
  | '\r' :: '\n' :: rest => some (['\r', '\n'], rest)
  | _ => none

/-- One or two quotes inside triple quotes. -/
def innerQuotes (quote : Char) : Parser (List Char) := do
  let quotes ← Parser.takeWhile (· == quote)
  if quotes.length = 1 || quotes.length = 2 then return quotes
  else Parser.fail

/-- The closing triple quotes, with up to two quotes that belong to the text. -/
def closingQuotes (quote : Char) : Parser (List Char) := do
  let quotes ← Parser.takeWhile (· == quote)
  if 3 ≤ quotes.length && quotes.length ≤ 5 then return quotes.drop 3
  else Parser.fail

/-- Text between double quotes, with escapes. -/
def basicString : Parser (List Char) := do
  Parser.character '\x22'
  let pieces ← Parser.many
    (Parser.orElse (plainRun ['\x22', '\\']) escapeSequence)
  Parser.character '\x22'
  return pieces.flatten

/-- Text between single quotes, as it stands. -/
def literalString : Parser (List Char) := do
  Parser.character '\x27'
  let run ← Parser.takeWhile fun character =>
    isPlain character && character != '\x27'
  Parser.character '\x27'
  return run

/-- Lines between triple quotes.  A break right behind the opening quotes does
not belong to the text. -/
def lines (quote : Char) (piece : Parser (List Char)) : Parser (List Char) := do
  Parser.text [quote, quote, quote]
  let _ ← Parser.optional lineBreak
  let pieces ← Parser.many
    (Parser.orElse piece (Parser.orElse keptLineBreak (innerQuotes quote)))
  let last ← closingQuotes quote
  return pieces.flatten ++ last

def basicLines : Parser (List Char) :=
  lines '\x22' (Parser.orElse (plainRun ['\x22', '\\'])
    (Parser.orElse joinedLine escapeSequence))

def literalLines : Parser (List Char) :=
  lines '\x27' (plainRun ['\x27'])

def string : Parser String :=
  String.ofList <$>
    Parser.orElse (Parser.orElse basicLines basicString)
      (Parser.orElse literalLines literalString)

/-- One name of a key, bare or in quotes. -/
def name : Parser String :=
  let bare : Parser (List Char) := do
    let run ← Parser.takeWhile isBareKeyCharacter
    if run.isEmpty then Parser.fail
    return run
  String.ofList <$> Parser.orElse bare (Parser.orElse basicString literalString)

/-- A dotted key; blanks may stand around the dots. -/
def path : Parser Path := do
  let names ← Parser.separated name do
    spaces
    Parser.character '.'
    spaces
  if nestingLimit < names.length then Parser.fail
  return names

/-- May a character stand in a word without quotes?  Quotes may, as long as they
do not come first. -/
def isWordCharacter (character : Char) : Bool :=
  ['=', ',', '[', ']', '\x7b', '\x7d', ' ', '\t', '#', '\r', '\n'].all
    (character != ·)

/-- A word without quotes.  A day and a time may be parted by a blank. -/
def word : Parser (List Char) := fun input =>
  let first := input.takeWhile isWordCharacter
  let rest := input.dropWhile isWordCharacter
  match rest with
  | ' ' :: digit :: _ =>
      if digit.isDigit && (dateOnly first).isSome then
        let second := (rest.drop 1).takeWhile isWordCharacter
        some (first ++ ' ' :: second, (rest.drop 1).dropWhile isWordCharacter)
      else
        some (first, rest)
  | _ => some (first, rest)
where
  dateOnly (text : List Char) : Option Date :=
    (date text).bind fun (day, rest) => if rest.isEmpty then some day else none

def scalar : Parser Value := do
  let text ← word
  match scalar? text with
  | some value => return value
  | none => Parser.fail

/-- A key, the equals sign and a value, with filler around the sign. -/
def keyed {α : Type} (filler : Parser Unit) (value : Parser α) :
    Parser (Path × α) := do
  let path ← path
  filler
  Parser.character '='
  filler
  return (path, ← value)

/-- Items between two marks, parted by commas.  A comma may stand behind the last
one. -/
def enclosed {α : Type} (opening closing : Char) (item : Parser α) :
    Parser (List α) := do
  Parser.character opening
  gap
  let items ← Parser.optional do
    let items ← Parser.separated item do
      gap
      Parser.character ','
      gap
    gap
    let _ ← Parser.optional (Parser.character ',')
    gap
    return items
  Parser.character closing
  return items.getD []

def arrayOf {α : Type} (item : Parser α) : Parser (List α) :=
  enclosed '[' ']' item

def inlineTableOf {α : Type} (value : Parser α) : Parser (List (Path × α)) :=
  enclosed '\x7b' '\x7d' (keyed gap value)

/-- A value with arrays and inline tables nested at most so deep. -/
def term : Nat → Parser Term
  | 0 => plain
  | depth + 1 =>
      Parser.orElse (Term.array <$> arrayOf (term depth))
        (Parser.orElse (Term.inlineTable <$> inlineTableOf (term depth)) plain)
where
  plain : Parser Term :=
    Parser.orElse ((fun text => .scalar (.string text)) <$> string)
      (Term.scalar <$> scalar)

/-- A line without its end. -/
def line : Parser Line := do
  spaces
  let header (opening closing : List Char) : Parser Path := do
    Parser.text opening
    spaces
    let path ← path
    spaces
    Parser.text closing
    return path
  Parser.orElse (Line.elementHeader <$> header ['[', '['] [']', ']'])
    (Parser.orElse (Line.tableHeader <$> header ['['] [']'])
      (Parser.orElse
        ((fun (path, value) => .assignment path value) <$>
          keyed spaces (term nestingLimit))
        (pure .blank)))

/-- The lines of a document, up to its end. -/
def document : Parser (List Line) := do
  let lines ← Parser.many do
    let line ← line
    lineEnd
    return line
  Parser.ending
  return lines

/-- Splits a text into lines, unless it is no TOML.  A mark of the byte order in
front does not belong to the document. -/
def readLines? (text : List Char) : Option (List Line) :=
  let content :=
    match text with
    | '\ufeff' :: rest => rest
    | content => content
  (document content).map Prod.fst

end WorkPackage.Toml
