import WorkPackage.Argument
import WorkPackage.Number.Decimal
import WorkPackage.Number.Shortest
import WorkPackage.Text.Quoted
/-!
# Arguments as text

An argument is shown in the form that a list of jobs uses: quoted text and
bytes, plain numbers, and only the length of an opaque value.
-/

namespace WorkPackage.Argument

def render : Argument → List Char
  | unset => "<unset>".toList
  | text value => Text.quoted value.toList
  | integer value => Decimal.ofInt value.toInt
  | float word => Shortest.render .single word.toNat
  | boolean true => "true".toList
  | boolean false => "false".toList
  | long value => Decimal.ofInt value.toInt
  | double word => Shortest.render .double word.toNat
  | character value => Text.quotedByte value
  | bytes value => '<' :: Decimal.digits value.size ++ " bytes>".toList
  | unsigned value => Decimal.digits value.toNat

end WorkPackage.Argument
