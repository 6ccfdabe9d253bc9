import Parens.Json
import Parens.Number.Decimal
import Parens.Number.Shortest

/-!
# Writing JSON

The compact text of a document: no blanks, members in order, and only those characters escaped
that JSON does not allow inside a text.
-/

namespace Parens.Json

/-! ### Numbers -/

/-- How a floating-point number is written: the fewest digits that read back, of two equally
near ones the even one. Numbers from 1e-5 up to 1e16 are written without an exponent, and
those among them that are whole with the fraction `.0`. An exponent always shows its sign. What
is no finite number is a null. -/
def renderFloat (x : Float) : List Char :=
  match Number.Binary.ofFloat x with
  | .nan => "null".toList
  | .infinite _ => "null".toList
  | .finite negative mantissa exponent =>
    let body :=
      if mantissa = 0 then "0.0".toList
      else
        let (digits, power) := Number.shortest .even mantissa exponent
        let ds := Nat.toDigits 10 digits
        let point : Int := ds.length + power
        if 0 ≤ power && point ≤ 16 then Number.Decimal.positional digits power ++ ['.', '0']
        else if -5 < point && point ≤ 16 then Number.Decimal.positional digits power
        else
          let fraction := if ds.length = 1 then [] else '.' :: ds.drop 1
          let sign := if 0 < point then ['+'] else []
          ds.take 1 ++ fraction ++ 'e' :: sign ++ (point - 1).repr.toList
    if negative then '-' :: body else body

/-! ### Texts -/

/-- The digit of a number below sixteen. -/
def hexDigit (n : Nat) : Char := Nat.digitChar (n % 16)

/-- A character inside a text. -/
def escape (c : Char) : List Char :=
  if c = '"' then ['\\', '"']
  else if c = '\\' then ['\\', '\\']
  else if c = '\x08' then ['\\', 'b']
  else if c = '\x0c' then ['\\', 'f']
  else if c = '\n' then ['\\', 'n']
  else if c = '\r' then ['\\', 'r']
  else if c = '\t' then ['\\', 't']
  else if c.toNat < 0x20 then ['\\', 'u', '0', '0', hexDigit (c.toNat / 16), hexDigit c.toNat]
  else [c]

/-- A text between quotes. -/
def renderText (s : String) : List Char :=
  '"' :: s.toList.flatMap escape ++ ['"']

/-! ### Documents -/

mutual

/-- The compact text of a document. -/
def renderChars : Json → List Char
  | null => "null".toList
  | bool b => if b then "true".toList else "false".toList
  | int n => n.repr.toList
  | float x => renderFloat x
  | text s => renderText s
  | array items => '[' :: renderItems items ++ [']']
  | object members => '\x7b' :: renderMembers members ++ ['\x7d']
  | unusable => "null".toList

/-- The items of an array, with commas between them. -/
def renderItems : List Json → List Char
  | [] => []
  | j :: js => renderChars j ++ (if js.isEmpty then [] else ',' :: renderItems js)

/-- The members of an object, with commas between them. -/
def renderMembers : List (String × Json) → List Char
  | [] => []
  | (key, j) :: ms =>
    renderText key ++ ':' :: renderChars j ++ (if ms.isEmpty then [] else ',' :: renderMembers ms)

end

/-- The compact text of a document. -/
def render (j : Json) : String := String.ofList j.renderChars

end Parens.Json
