/-!
# Decimal Numbers and the Float Nearest to Them

A `Decimal` is a sign, a whole number of digits and a power of ten. `Decimal.toFloat` is the
floating-point number nearest to it, with ties to the even neighbour, an infinity when it is
too large and a zero of its sign when it is too small. `Decimal.positional` writes it without
an exponent.
-/

namespace Parens.Number

/-- The number `± digits * 10 ^ exponent`. -/
structure Decimal where
  /-- Whether the number carries a minus sign. -/
  negative : Bool
  /-- The digits, read as one whole number. -/
  digits : Nat
  /-- The power of ten that the last digit counts. -/
  exponent : Int
deriving DecidableEq, Repr

/-- Positive infinity. -/
def infinity : Float := Float.ofBits 0x7FF0000000000000

namespace Decimal

/-- The nearest floating-point number to `digits * 10 ^ exponent`.

A number of 310 or more digits in front of the point exceeds every finite float, and one that
starts 324 or more places behind the point is nearer to zero than to any other float. Both are
answered without computing the power of ten, whose exponent the text chooses freely. -/
def magnitude (digits : Nat) (exponent : Int) : Float :=
  let places : Int := (Nat.toDigits 10 digits).length + exponent
  if digits = 0 || places ≤ -324 then 0
  else if 309 < places then infinity
  else Float.ofScientific digits (decide (exponent < 0)) exponent.natAbs

/-- The nearest floating-point number. -/
def toFloat (d : Decimal) : Float :=
  let x := magnitude d.digits d.exponent
  if d.negative then x.neg else x

/-- The digits with a point, and without an exponent. A number below one has a zero in front
of the point, and a number with no fraction has no point. -/
def positional (digits : Nat) (exponent : Int) : List Char :=
  let ds := Nat.toDigits 10 digits
  if 0 ≤ exponent then ds ++ List.replicate exponent.toNat '0'
  else
    let places := (-exponent).toNat
    if places < ds.length then ds.take (ds.length - places) ++ '.' :: ds.drop (ds.length - places)
    else '0' :: '.' :: (List.replicate (places - ds.length) '0' ++ ds)

end Decimal

end Parens.Number
