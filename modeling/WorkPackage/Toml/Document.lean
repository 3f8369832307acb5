import WorkPackage.Toml.Expression
/-!
# TOML documents

What the lines of a document amount to: one table.  A table may be opened once
by its header, a key may be assigned once, and a table that dotted keys have made
cannot be opened again.  `Document.read?` answers for exactly the texts that keep
these rules.
-/

namespace WorkPackage.Toml

/-- How a table came to be. -/
inductive Origin where
  /-- Opened by a header of its own. -/
  | header
  /-- Passed by the header of a table inside it. -/
  | implied
  /-- Made by a dotted key. -/
  | dotted
  deriving DecidableEq

/-- What stands under a key while a document is put together.  A value is
closed: nothing can be added to its arrays and tables. -/
inductive Node where
  | value (value : Value)
  | table (origin : Origin) (entries : List (String × Node))
  | elements (tables : List (List (String × Node)))
  deriving Inhabited

abbrev Entries := List (String × Node)

namespace Entries

/-- Puts a node under a key that has one already, or behind all entries. -/
def put (key : String) (node : Node) : Entries → Entries
  | [] => [(key, node)]
  | entry :: entries =>
      if entry.1 = key then (key, node) :: entries
      else entry :: put key node entries

/-- Changes the table at a path.  Tables on the way that are not there yet are
implied; of an array of tables the last one is meant. -/
def within (change : Entries → Option Entries) :
    Path → Entries → Option Entries
  | [], entries => change entries
  | key :: path, entries =>
      match entries.lookup key with
      | none => do
          let child ← within change path []
          return entries.put key (.table .implied child)
      | some (.table origin child) => do
          let child ← within change path child
          return entries.put key (.table origin child)
      | some (.elements tables) => do
          let child ← within change path (tables.getLast?.getD [])
          return entries.put key (.elements (tables.dropLast ++ [child]))
      | some (.value _) => none

/-- Assigns a value to a dotted key.  The table that takes the value must be the
one the key starts from or one that dotted keys have made. -/
def assign (value : Value) : Path → Entries → Option Entries
  | [], _ => none
  | [key], entries =>
      match entries.lookup key with
      | none => some (entries.put key (.value value))
      | some _ => none
  | key :: next :: path, entries =>
      match entries.lookup key with
      | none => do
          let child ← assign value (next :: path) []
          return entries.put key (.table .dotted child)
      | some (.table origin child) =>
          if origin = .dotted ∨ (origin = .implied ∧ path ≠ []) then do
            let child ← assign value (next :: path) child
            return entries.put key (.table origin child)
          else
            none
      | some (.elements tables) =>
          if path ≠ [] then do
            let child ← assign value (next :: path) (tables.getLast?.getD [])
            return entries.put key (.elements (tables.dropLast ++ [child]))
          else
            none
      | some (.value _) => none

/-- Opens a table by a header; it may only have been implied before. -/
def openTable (key : String) (entries : Entries) : Option Entries :=
  match entries.lookup key with
  | none => some (entries.put key (.table .header []))
  | some (.table .implied child) => some (entries.put key (.table .header child))
  | some _ => none

/-- Adds a table to an array of tables, which may be the first. -/
def openElement (key : String) (entries : Entries) : Option Entries :=
  match entries.lookup key with
  | none => some (entries.put key (.elements [[]]))
  | some (.elements tables) => some (entries.put key (.elements (tables ++ [[]])))
  | some _ => none

end Entries

namespace Node

mutual

def toValue : Node → Value
  | .value closed => closed
  | .table _ entries => .ofEntries (entriesToValues entries)
  | .elements tables => .array (tablesToValues tables)

def entriesToValues : List (String × Node) → List (String × Value)
  | [] => []
  | (key, node) :: entries => (key, node.toValue) :: entriesToValues entries

def tablesToValues : List (List (String × Node)) → List Value
  | [] => []
  | entries :: tables =>
      .ofEntries (entriesToValues entries) :: tablesToValues tables

end

end Node

namespace Term

mutual

/-- The value of a term; the keys of each inline table must agree with one
another. -/
def toValue? : Term → Option Value
  | .scalar value => some value
  | .array items => do
      return .array (← itemsToValues? items)
  | .inlineTable entries => do
      let entries ← assignAll? entries []
      return (Node.table .header entries).toValue

def itemsToValues? : List Term → Option (List Value)
  | [] => some []
  | item :: items => do
      let value ← item.toValue?
      return value :: (← itemsToValues? items)

def assignAll? : List (Path × Term) → Entries → Option Entries
  | [], entries => some entries
  | (path, term) :: rest, entries => do
      let value ← term.toValue?
      assignAll? rest (← entries.assign value path)

end

end Term

namespace Document

/-- Adds the lines of a document, one after the other.  The path is that of the
table which the last header opened. -/
def addLines : List Line → Path → Entries → Option Entries
  | [], _, entries => some entries
  | .blank :: lines, table, entries => addLines lines table entries
  | .tableHeader path :: lines, _, entries => do
      let key ← path.getLast?
      addLines lines path (← entries.within (Entries.openTable key) path.dropLast)
  | .elementHeader path :: lines, _, entries => do
      let key ← path.getLast?
      addLines lines path
        (← entries.within (Entries.openElement key) path.dropLast)
  | .assignment path term :: lines, table, entries => do
      let value ← term.toValue?
      addLines lines table (← entries.within (Entries.assign value path) table)

/-- The table that a text describes, unless it is no TOML. -/
def read? (text : String) : Option Value := do
  let lines ← readLines? text.toList
  let entries ← addLines lines [] []
  return (Node.table .header entries).toValue

end Document

end WorkPackage.Toml
