import Parens.Error
import Parens.Number.Reader
import Parens.Text.Blank

/-!
# Scalar Types

The atoms of a tree hold scalars of one type. A `Scalar` type says which raw values it accepts
and how a scalar becomes a raw value again. Raw values themselves are the scalar type that
accepts everything; texts, integers, floating-point numbers and truth values each accept their
own kind of value and what converts to it without loss of meaning.

Numbers are also read from texts, with blanks around them. A text that is no number is reported
with its own characters, any other value with the name of its type.
-/

namespace Parens

/-- A type of scalars that raw values convert to. -/
class Scalar (V : Type) where
  /-- The type name shown for an atom without a value. -/
  nullName : String
  /-- The scalar of a raw value. -/
  ofValue : Value → Except Error V
  /-- The raw value of a scalar. -/
  toValue : V → Value
  /-- The type name of a scalar. -/
  typeName : V → String

namespace Scalar

/-- The error for a value of the wrong type. -/
def refuse {V : Type} (expected : String) (found : Value) : Except Error V :=
  .error (.mismatch expected found.typeName)

instance : Scalar Value where
  nullName := "Null"
  ofValue := .ok
  toValue := id
  typeName := Value.typeName

/-- The text of a text value. -/
def textOf : Value → Except Error String
  | .text s => .ok s
  | v => refuse "Text" v

instance : Scalar String where
  nullName := "Text"
  ofValue := textOf
  toValue := .text
  typeName := fun _ => "Text"

/-- An integer: one as it stands, a truth value as 0 or 1, or a text that holds one. -/
def intOf : Value → Except Error Int64
  | .int n => .ok n
  | .bool b => .ok (if b then 1 else 0)
  | .text s =>
    match Number.readInt64 (Text.trim s.toList) with
    | .ok n => .ok n
    | .error _ => .error (.mismatch "Int" s)
  | v => refuse "Int" v

instance : Scalar Int64 where
  nullName := "Int"
  ofValue := intOf
  toValue := .int
  typeName := fun _ => "Int"

/-- A floating-point number: one as it stands, the one nearest to an integer, or a text that
holds one. -/
def floatOf : Value → Except Error Float
  | .float x => .ok x
  | .int n => .ok (Float.ofInt n.toInt)
  | .text s =>
    match Number.readFloat (Text.trim s.toList) with
    | .ok x => .ok x
    | .error _ => .error (.mismatch "Float" s)
  | v => refuse "Float" v

instance : Scalar Float where
  nullName := "Float"
  ofValue := floatOf
  toValue := .float
  typeName := fun _ => "Float"

/-- The truth value of a truth value. -/
def boolOf : Value → Except Error Bool
  | .bool b => .ok b
  | v => refuse "Bool" v

instance : Scalar Bool where
  nullName := "Bool"
  ofValue := boolOf
  toValue := .bool
  typeName := fun _ => "Bool"

end Scalar

end Parens
