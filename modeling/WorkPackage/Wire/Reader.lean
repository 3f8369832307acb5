import WorkPackage.Fault
/-!
# Reading bytes

A reader takes a value off the front of a list of bytes.  Whether it answers or
fails, it says which bytes are left, so that a stream can go on behind a value
that was refused.  Running out of bytes is the only fault that leaves nothing.
-/

namespace WorkPackage.Wire

/-- The outcome of reading: a value or a fault, and the bytes that are left. -/
inductive Reading (α : Type) where
  | value (result : α) (rest : List UInt8)
  | fault (cause : Fault) (rest : List UInt8)
  deriving Repr

def Reading.rest {α : Type} : Reading α → List UInt8
  | .value _ rest => rest
  | .fault _ rest => rest

/-- The same outcome, with more bytes behind those that are left. -/
def Reading.followedBy {α : Type} (reading : Reading α) (more : List UInt8) :
    Reading α :=
  match reading with
  | .value result rest => .value result (rest ++ more)
  | .fault cause rest => .fault cause (rest ++ more)

def Reader (α : Type) :=
  List UInt8 → Reading α

namespace Reader

variable {α β : Type}

def pure (result : α) : Reader α :=
  fun input => .value result input

def fail (cause : Fault) : Reader α :=
  fun input => .fault cause input

/-- Reads a first value, then what it calls for. -/
def bind (first : Reader α) (next : α → Reader β) : Reader β :=
  fun input =>
    match first input with
    | .value result rest => next result rest
    | .fault cause rest => .fault cause rest

instance : Monad Reader where
  pure := Reader.pure
  bind := Reader.bind

def take (count : Nat) : Reader (List UInt8) :=
  fun input =>
    let taken := input.take count
    if taken.length = count then
      .value taken (input.drop count)
    else
      .fault .endOfInput []

/-- Reads so many values, one behind the other. -/
def repeated (item : Reader α) : Nat → Reader (List α)
  | 0 => pure []
  | count + 1 =>
      bind item fun first =>
        bind (repeated item count) fun others => pure (first :: others)

/-- Reads a value from the front of the input, whatever follows it. -/
def front (item : Reader α) (input : List UInt8) : Except Fault α :=
  match item input with
  | .value result _ => .ok result
  | .fault cause _ => .error cause

/-- Reads a value that takes up the whole input. -/
def whole (item : Reader α) (input : List UInt8) : Except Fault α :=
  match item input with
  | .value result [] => .ok result
  | .value _ rest =>
      .error (.frameLengthMismatch input.length (input.length - rest.length))
  | .fault cause _ => .error cause

@[simp] theorem pure_apply (result : α) (input : List UInt8) :
    (Pure.pure result : Reader α) input = .value result input :=
  rfl

@[simp] theorem bind_apply
    (first : Reader α) (next : α → Reader β) (input : List UInt8) :
    (first >>= next) input =
      match first input with
      | .value result rest => next result rest
      | .fault cause rest => .fault cause rest :=
  rfl

end Reader

end WorkPackage.Wire
