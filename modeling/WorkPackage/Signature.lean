import WorkPackage.Argument
/-!
# Signatures

A signature is a string of type codes, one letter per argument.  Binding checks
a row of values against a signature and hands the values on unchanged; the first
rule that is broken decides the fault.
-/

namespace WorkPackage.Signature

def kinds (codes : List Char) : Except Fault (List Kind) :=
  codes.mapM fun code =>
    match Kind.ofCode? code with
    | some kind => .ok kind
    | none => .error (.unknownTypeCode code)

/-- The type codes of a list of arguments; an empty slot is shown as a dash. -/
def ofArguments (arguments : List Argument) : List Char :=
  arguments.map fun argument => argument.kind.code?.getD '-'

/-- The first place where a value has not the kind that is asked for. -/
def firstMismatch? : List Kind → List Argument → Option Fault
  | kind :: kinds, value :: values =>
      if value.kind = kind then firstMismatch? kinds values
      else some (.typeMismatch kind value.kind)
  | _, _ => none

/-- Checks values against type codes: every code must be known, there must be as
many values as codes, and each value must have the kind that its code asks for. -/
def bind (codes : List Char) (values : List Argument) :
    Except Fault (List Argument) := do
  let kinds ← kinds codes
  if kinds.length ≠ values.length then
    .error (.formatArity kinds.length values.length)
  else
    match firstMismatch? kinds values with
    | some fault => .error fault
    | none => .ok values

end WorkPackage.Signature
