import Parens.Json
import Parens.Number.Reader

/-!
# Numbers in JSON Text

The number at the front of a text. One without fraction and exponent that fits 64 bits is kept
as the integer it is. Any other number becomes the float nearest to it, and a number that is
nearer to infinity than to any float is unusable.
-/

namespace Parens.Json

/-- The parts of a number as written. -/
structure Numeral where
  /-- Whether a minus sign stands in front. -/
  negative : Bool
  /-- The digits in front of the point. -/
  whole : List Char
  /-- The digits behind the point. -/
  fraction : List Char
  /-- The sign and the digits of the exponent. -/
  exponent : Option (Bool × List Char)

namespace Numeral

/-- The nearest float, or `none` if it is infinite. -/
def float? (n : Numeral) : Option Float :=
  let digits := Nat.ofDigitChars 10 (n.whole ++ n.fraction) 0
  let power : Int := match n.exponent with
    | none => 0
    | some (negative, ds) =>
      let e : Int := Nat.ofDigitChars 10 ds 0
      if negative then -e else e
  let x := Number.Decimal.toFloat ⟨n.negative, digits, power - n.fraction.length⟩
  if x.isInf then none else some x

/-- The document of a number. -/
def toJson (n : Numeral) : Json :=
  let digits := Nat.ofDigitChars 10 n.whole 0
  let plain := n.fraction.isEmpty && n.exponent.isNone
  if plain && !n.negative && digits < UInt64.size then .int digits
  else if plain && n.negative && 0 < digits && digits ≤ 0x8000000000000000 then .int (-digits)
  else
    match n.float? with
    | some x => .float x
    | none => .unusable

end Numeral

/-- Digits at the front of a text, at least one, and what follows them. -/
def readDigits? (text : List Char) : Option (List Char × List Char) :=
  let ds := text.takeWhile Char.isDigit
  if ds = [] then none else some (ds, text.dropWhile Char.isDigit)

/-- The fraction at the front of a text; it may be missing. -/
def readFraction? : List Char → Option (List Char × List Char)
  | '.' :: cs => readDigits? cs
  | cs => some ([], cs)

/-- The exponent at the front of a text; it may be missing. -/
def readPower? : List Char → Option (Option (Bool × List Char) × List Char)
  | c :: cs =>
    if c = 'e' || c = 'E' then
      let (negative, body) := Number.splitSign cs
      (readDigits? body).map fun (ds, rest) => (some (negative, ds), rest)
    else some (none, c :: cs)
  | [] => some (none, [])

/-- The number at the front of a text. It starts with a digit behind an optional minus sign,
and a zero in front stands alone. -/
def readNumeral? (text : List Char) : Option (Numeral × List Char) :=
  let (negative, body) := match text with
    | '-' :: cs => (true, cs)
    | cs => (false, cs)
  match readDigits? body with
  | none => none
  | some (whole, rest) =>
    if whole.head? = some '0' && 1 < whole.length then none
    else
      match readFraction? rest with
      | none => none
      | some (fraction, rest) =>
        (readPower? rest).map fun (exponent, rest) =>
          (⟨negative, whole, fraction, exponent⟩, rest)

end Parens.Json
