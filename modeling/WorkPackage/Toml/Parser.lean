/-!
# Parsers over characters

A parser takes a value off the front of a text or does not apply.  Repetition
ends as soon as an item does not apply or takes nothing, so every parser built
here ends on every text.
-/

namespace WorkPackage.Toml

/-- Takes a value off the front of a text, if it is there. -/
abbrev Parser := StateT (List Char) Option

namespace Parser

variable {α : Type}

/-- Does not apply. -/
def fail : Parser α :=
  fun _ => none

/-- The next character, left where it is. -/
def peek? : Parser (Option Char) :=
  fun input => some (input.head?, input)

/-- One given character. -/
def character (expected : Char) : Parser Unit :=
  fun input =>
    match input with
    | first :: rest => if first = expected then some ((), rest) else none
    | [] => none

def text : List Char → Parser Unit
  | [] => pure ()
  | first :: rest => do
      character first
      text rest

/-- The characters up to the first that has not a property. -/
def takeWhile (property : Char → Bool) : Parser (List Char) :=
  fun input => some (input.takeWhile property, input.dropWhile property)

/-- The second parser where the first does not apply. -/
def orElse (first second : Parser α) : Parser α :=
  fun input => (first input).or (second input)

/-- The value, if the parser applies. -/
def optional (item : Parser α) : Parser (Option α) :=
  orElse (some <$> item) (pure none)

def collect (item : Parser α) (input : List Char) : List α × List Char :=
  match item input with
  | none => ([], input)
  | some (first, rest) =>
      if rest.length < input.length then
        let (others, last) := collect item rest
        (first :: others, last)
      else
        ([], input)
termination_by input.length

def many (item : Parser α) : Parser (List α) :=
  fun input => some (collect item input)

/-- One item or more, with a separator between any two. -/
def separated (item : Parser α) (separator : Parser Unit) :
    Parser (List α) := do
  let first ← item
  let others ← many do
    separator
    item
  return first :: others

def ending : Parser Unit :=
  fun input => if input.isEmpty then some ((), []) else none

end Parser

end WorkPackage.Toml
