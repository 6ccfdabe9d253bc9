import Parens.Number.Decimal
import Parens.Number.Shortest

/-!
# Raw Values

A `Value` is what an atom of the notation stands for: nothing, a truth value, an integer of 64
bits, a floating-point number or a text. `Value.render` is its text in the notation.

Two values are compared by `==` as the numbers they are: a NaN differs from itself and the two
zeros agree. Equality of values, `=`, tells all bit patterns apart.
-/

namespace Parens

/-- The raw value of an atom. -/
inductive Value where
  /-- No value. -/
  | null
  /-- A truth value. -/
  | bool (b : Bool)
  /-- An integer of 64 bits. -/
  | int (n : Int64)
  /-- A floating-point number of 64 bits. -/
  | float (x : Float)
  /-- A text. -/
  | text (s : String)
deriving DecidableEq

/-! ### The written form of a floating-point number -/

/-- How a floating-point number is written. A whole number shows all its digits and the
fraction `.0`, so that it does not read back as an integer. Any other number shows the fewest
digits that read back, of two equally near ones the larger, and never an exponent. -/
def renderFloat (x : Float) : List Char :=
  match Number.Binary.ofFloat x with
  | .nan => "NaN".toList
  | .infinite negative => if negative then "-inf".toList else "inf".toList
  | .finite negative mantissa exponent =>
    let body :=
      match Number.whole? mantissa exponent with
      | some n => Nat.toDigits 10 n ++ ['.', '0']
      | none =>
        let (digits, power) := Number.shortest .up mantissa exponent
        Number.Decimal.positional digits power
    if negative then '-' :: body else body

namespace Value

/-- The name of the value's type. -/
def typeName : Value → String
  | null => "Null"
  | bool _ => "Bool"
  | int _ => "Int"
  | float _ => "Float"
  | text _ => "Text"

/-- Whether the value is no value. -/
def isNull : Value → Bool
  | null => true
  | _ => false

/-- The text of a text value. -/
def asText? : Value → Option String
  | text s => some s
  | _ => none

/-- The text of a value in the notation. -/
def render : Value → String
  | null => "null"
  | bool b => if b then "true" else "false"
  | int n => n.toInt.repr
  | float x => String.ofList (renderFloat x)
  | text s => s

/-- Equality as numbers: floating-point numbers are compared by value, and values of
different types differ. -/
protected def beq : Value → Value → Bool
  | null, null => true
  | bool a, bool b => a == b
  | int a, int b => a == b
  | float x, float y => x == y
  | text a, text b => a == b
  | _, _ => false

instance : BEq Value := ⟨Value.beq⟩

end Value

end Parens
