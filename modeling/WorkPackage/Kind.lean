/-!
# Kinds of arguments

Every argument of a job has one of ten kinds.  A kind has a tag byte on the
wire, a name for people and, unless it is the kind of an empty slot, a one-letter
code.  Tags and codes are read back through `Kind.all`, so each reading is the
inverse of the corresponding writing.
-/

namespace WorkPackage

/-- What an argument slot holds; `unset` is the kind of an empty slot. -/
inductive Kind where
  | unset
  | text
  | integer
  | float
  | boolean
  | long
  | double
  | character
  | bytes
  | unsigned
  deriving DecidableEq, Repr

namespace Kind

/-- Every kind, in the order of the tags. -/
def all : List Kind :=
  [unset, text, integer, float, boolean, long, double, character, bytes,
    unsigned]

/-- The byte that announces an argument of this kind on the wire. -/
def tag : Kind → UInt8
  | unset => 0
  | text => 1
  | integer => 2
  | float => 3
  | boolean => 4
  | long => 5
  | double => 6
  | character => 7
  | bytes => 8
  | unsigned => 9

/-- The kind announced by a tag byte, if there is one. -/
def ofTag? (tag : UInt8) : Option Kind :=
  all.find? fun kind => kind.tag == tag

/-- The letter that stands for this kind in a type-code string.  An empty slot
cannot be asked for, so its kind has no letter. -/
def code? : Kind → Option Char
  | unset => none
  | text => some 't'
  | integer => some 'i'
  | float => some 'f'
  | boolean => some 'b'
  | long => some 'l'
  | double => some 'd'
  | character => some 'c'
  | bytes => some 'v'
  | unsigned => some 'u'

/-- The kind a type code asks for, if it is one of the nine letters. -/
def ofCode? (code : Char) : Option Kind :=
  all.find? fun kind => kind.code? == some code

def name : Kind → String
  | unset => "none"
  | text => "text"
  | integer => "integer"
  | float => "float"
  | boolean => "bool"
  | long => "long"
  | double => "double"
  | character => "char"
  | bytes => "variable-length"
  | unsigned => "unsigned-integer"

/-- The number of payload bytes behind the tag; `none` when the payload carries
its own length. -/
def payloadWidth : Kind → Option Nat
  | unset => some 0
  | boolean | character => some 1
  | integer | float | unsigned => some 4
  | long | double => some 8
  | text | bytes => none

theorem mem_all (kind : Kind) : kind ∈ all := by
  cases kind <;> decide

theorem tag_injective {left right : Kind} (equality : left.tag = right.tag) :
    left = right := by
  revert equality
  cases left <;> cases right <;> decide

/-- A tag byte announces exactly the kind that it is the tag of. -/
theorem ofTag?_eq_some_iff {tag : UInt8} {kind : Kind} :
    ofTag? tag = some kind ↔ kind.tag = tag := by
  constructor
  · intro found
    simpa using List.find?_some found
  · rintro rfl
    cases kind <;> decide

/-- A letter asks for exactly the kind whose code it is. -/
theorem ofCode?_eq_some_iff {code : Char} {kind : Kind} :
    ofCode? code = some kind ↔ kind.code? = some code := by
  constructor
  · intro found
    simpa using List.find?_some found
  · cases kind <;> simp [code?, ofCode?, all] <;> rintro rfl <;> decide

end Kind

end WorkPackage
