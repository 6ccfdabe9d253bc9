/-!
# Floating-Point Numbers Taken Apart

A 64-bit floating-point number is a sign and either an infinity or a whole number of units
`2 ^ exponent`; what is left is not a number. `Binary.ofFloat` reads the fields off the bits,
so everything said about the written form of a number can be said about natural numbers.
-/

namespace Parens.Number

/-- What the bits of a floating-point number stand for. -/
inductive Binary where
  /-- Not a number. -/
  | nan
  /-- An infinity. -/
  | infinite (negative : Bool)
  /-- The number `± mantissa * 2 ^ exponent`. -/
  | finite (negative : Bool) (mantissa : Nat) (exponent : Int)
deriving DecidableEq, Repr

namespace Binary

/-- The least exponent, which the numbers too small for a leading one bit share. -/
def minExponent : Int := -1074

/-- The least mantissa of a number with a leading one bit, `2 ^ 52`. -/
def normal : Nat := 0x10000000000000

/-- The fields of a bit pattern: one sign bit, eleven bits of exponent and 52 of fraction. -/
def ofBits (bits : Nat) : Binary :=
  let negative := decide (0x8000000000000000 ≤ bits)
  let field := bits / normal % 0x800
  let fraction := bits % normal
  if field = 2047 then
    if fraction = 0 then .infinite negative else .nan
  else if field = 0 then .finite negative fraction minExponent
  else .finite negative (normal + fraction) (minExponent + (field - 1 : Nat))

/-- A floating-point number taken apart. -/
def ofFloat (x : Float) : Binary :=
  ofBits x.toBits.toNat

end Binary

/-- The number `mantissa * 2 ^ exponent`, if it is whole. -/
def whole? (mantissa : Nat) (exponent : Int) : Option Nat :=
  if 0 ≤ exponent then some (mantissa * Nat.pow 2 exponent.toNat)
  else
    let unit := Nat.pow 2 (-exponent).toNat
    if mantissa % unit = 0 then some (mantissa / unit) else none

/-- A whole number of halves and quarters is whole exactly when nothing is left over. -/
theorem whole?_eq_some_iff {m n : Nat} {q : Int} (hq : q < 0) :
    whole? m q = some n ↔ m = n * Nat.pow 2 (-q).toNat := by
  have hpos : 0 < Nat.pow 2 (-q).toNat := Nat.two_pow_pos _
  rw [whole?, if_neg (by omega)]
  simp only
  constructor
  · intro h
    split at h
    · rename_i hmod
      obtain rfl := Option.some.inj h
      exact (Nat.div_mul_cancel (Nat.dvd_of_mod_eq_zero hmod)).symm
    · simp at h
  · rintro rfl
    rw [Nat.mul_mod_left, if_pos rfl, Nat.mul_div_cancel _ hpos]

end Parens.Number
