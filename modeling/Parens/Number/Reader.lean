import Parens.Number.Decimal

/-!
# Reading Numbers and Truth Values

The readers behind the standard readings of a token's text. Each accepts the whole text or
fails with a cause: integers of 64 bits with an optional sign (`readInt64`), decimal
floating-point numbers (`readFloat`) and the two truth values (`readBool`). Only ASCII digits
count, and nothing is trimmed.

Integers are checked from left to right, so a text with two faults has the one that stands
first: a digit that leaves the range, or a character that is no digit.
-/

namespace Parens.Number

/-! ### Integers -/

/-- Why a text is not an integer of 64 bits. -/
inductive IntegerFault where
  /-- There is no text. -/
  | empty
  /-- A character is no digit, or the sign stands alone. -/
  | invalidDigit
  /-- The number exceeds the largest integer. -/
  | tooLarge
  /-- The number is below the smallest integer. -/
  | tooSmall
deriving DecidableEq, Repr

/-- The wording of a fault. -/
def IntegerFault.message : IntegerFault → String
  | .empty => "cannot parse integer from empty string"
  | .invalidDigit => "invalid digit found in string"
  | .tooLarge => "number too large to fit in target type"
  | .tooSmall => "number too small to fit in target type"

/-- The number that a digit stands for. -/
def digitValue (c : Char) : Nat := c.toNat - '0'.toNat

/-- Appends digits to the number read so far, as long as it stays within `bound`. -/
def readMagnitude (bound : Nat) (overflow : IntegerFault) :
    Nat → List Char → Except IntegerFault Nat
  | n, [] => .ok n
  | n, c :: cs =>
    if c.isDigit then
      if 10 * n + digitValue c ≤ bound then
        readMagnitude bound overflow (10 * n + digitValue c) cs
      else .error overflow
    else .error .invalidDigit

/-- A leading sign, and the text behind it. -/
def splitSign : List Char → Bool × List Char
  | '-' :: cs => (true, cs)
  | '+' :: cs => (false, cs)
  | cs => (false, cs)

/-- An integer of 64 bits: an optional sign and one or more digits. -/
def readInt64 (text : List Char) : Except IntegerFault Int64 :=
  if text = [] then .error .empty
  else
    match splitSign text with
    | (_, []) => .error .invalidDigit
    | (true, ds) => (readMagnitude 0x8000000000000000 .tooSmall 0 ds).map fun n => Int64.ofInt (-n)
    | (false, ds) => (readMagnitude 0x7FFFFFFFFFFFFFFF .tooLarge 0 ds).map fun n => Int64.ofInt n

/-- **Digits that fit are read exactly.** -/
theorem readMagnitude_eq_ok_iff {bound n m : Nat} {overflow : IntegerFault} {ds : List Char}
    (hn : n ≤ bound) :
    readMagnitude bound overflow n ds = .ok m ↔
      (∀ c ∈ ds, c.isDigit) ∧ m = Nat.ofDigitChars 10 ds n ∧ m ≤ bound := by
  induction ds generalizing n with
  | nil =>
    simp only [readMagnitude, Except.ok.injEq, List.not_mem_nil, false_implies, implies_true,
      Nat.ofDigitChars_nil, true_and]
    constructor
    · rintro rfl
      exact ⟨rfl, hn⟩
    · exact fun h => h.1.symm
  | cons c cs ih =>
    have grows : ∀ (l : List Char) (a b : Nat), a ≤ b →
        a ≤ Nat.ofDigitChars 10 l b := by
      intro l
      induction l with
      | nil => simp
      | cons d l ihl =>
        intro a b hab
        rw [Nat.ofDigitChars_cons]
        exact ihl _ _ (by omega)
    rw [readMagnitude, Nat.ofDigitChars_cons]
    by_cases hc : c.isDigit
    · simp only [hc, ↓reduceIte, List.mem_cons, forall_eq_or_imp, true_and]
      change (if 10 * n + (c.toNat - '0'.toNat) ≤ bound then
        readMagnitude bound overflow (10 * n + (c.toNat - '0'.toNat)) cs else _) = _ ↔ _
      split
      · rename_i hb
        exact ih hb
      · rename_i hb
        simp only [reduceCtorEq, false_iff, not_and]
        rintro - rfl hle
        exact hb (Nat.le_trans (grows cs _ _ (Nat.le_refl _)) hle)
    · simp [hc]

/-! ### Floating-point numbers -/

/-- Why a text is not a floating-point number. -/
inductive FloatFault where
  /-- There is no text. -/
  | empty
  /-- The text does not have the form of a number. -/
  | invalid
deriving DecidableEq, Repr

/-- The wording of a fault. -/
def FloatFault.message : FloatFault → String
  | .empty => "cannot parse float from empty string"
  | .invalid => "invalid float literal"

/-- The exponent behind the digits: nothing, or `e` with an optional sign and digits. -/
def readExponent? : List Char → Option Int
  | [] => some 0
  | c :: cs =>
    if c = 'e' || c = 'E' then
      match splitSign cs with
      | (_, []) => none
      | (negative, ds) =>
        if ds.all Char.isDigit then
          let n : Int := Nat.ofDigitChars 10 ds 0
          some (if negative then -n else n)
        else none
    else none

/-- Digits with an optional point and an optional exponent; a digit must stand on one side of
the point at least. -/
def readUnsigned? (text : List Char) : Option (Nat × Int) :=
  let front := text.takeWhile Char.isDigit
  match text.dropWhile Char.isDigit with
  | '.' :: rest =>
    let back := rest.takeWhile Char.isDigit
    if front ++ back = [] then none
    else (readExponent? (rest.dropWhile Char.isDigit)).map fun e =>
      (Nat.ofDigitChars 10 (front ++ back) 0, e - back.length)
  | rest =>
    if front = [] then none
    else (readExponent? rest).map fun e => (Nat.ofDigitChars 10 front 0, e)

/-- The named numbers, written in letters of either case. -/
def readNamed? (text : List Char) : Option Float :=
  let name := text.map Char.toLower
  if name = "nan".toList then some (0 / 0)
  else if name = "inf".toList || name = "infinity".toList then some infinity
  else none

/-- A floating-point number: an optional sign, then a name or a decimal number, which is
rounded to the nearest float. -/
def readFloat (text : List Char) : Except FloatFault Float :=
  if text = [] then .error .empty
  else
    let (negative, body) := splitSign text
    match readNamed? body with
    | some x => .ok (if negative then x.neg else x)
    | none =>
      match readUnsigned? body with
      | some (digits, exponent) => .ok (Decimal.toFloat ⟨negative, digits, exponent⟩)
      | none => .error .invalid

/-! ### Truth values -/

/-- The two truth values by name. -/
def readBool? (text : List Char) : Option Bool :=
  if text = "true".toList then some true
  else if text = "false".toList then some false
  else none

/-- The wording for a text that names neither truth value. -/
def notABool : String := "provided string was not `true` or `false`"

end Parens.Number
