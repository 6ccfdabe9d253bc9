import Parens.Number.Binary

/-!
# The Fewest Digits That Read Back

A positive floating-point number `m * 2 ^ q` is what every real number in an interval around
it rounds to. Among the decimals in that interval, `shortest` picks one on the coarsest grid
of powers of ten that has a point there, and of two such points the nearer one. All tests are
made on natural numbers: the interval is scaled by four, so that its ends, which lie half or a
quarter of a unit away, are whole.

Seventeen digits tell all floating-point numbers apart, so a grid with a point in the interval
is reached after a bounded number of steps.
-/

namespace Parens.Number

/-- What to choose when both neighbours on the grid are equally near. -/
inductive Tie where
  /-- The larger neighbour. -/
  | up
  /-- The neighbour whose last digit is even. -/
  | even
deriving DecidableEq, Repr

/-- A number between two points of a grid, with everything measured in one unit: the number,
the ends of its interval, the mesh of the grid and whether the ends belong to the interval. -/
structure Gap where
  /-- The number itself. -/
  value : Nat
  /-- The lower end of the interval. -/
  low : Nat
  /-- The upper end of the interval. -/
  high : Nat
  /-- The distance between two points of the grid. -/
  mesh : Nat
  /-- Whether the ends belong to the interval. -/
  closed : Bool

namespace Gap

/-- The four times scaled number `m * 2 ^ q` and its interval on the grid of `10 ^ k`. The
interval reaches half a unit up; it reaches half a unit down too, except below a power of two,
where the next smaller number is only half a unit away. -/
def make (m : Nat) (q k : Int) : Gap :=
  let reach := if m = Binary.normal && Binary.minExponent < q then 1 else 2
  let unit := Nat.pow 2 (q - 2).toNat * Nat.pow 10 (-k).toNat
  { value := 4 * m * unit
    low := (4 * m - reach) * unit
    high := (4 * m + 2) * unit
    mesh := Nat.pow 10 k.toNat * Nat.pow 2 (2 - q).toNat
    closed := m % 2 = 0 }

/-- Whether the point number `n` of the grid lies in the interval. -/
def holds (g : Gap) (n : Nat) : Bool :=
  if g.closed then g.low ≤ n * g.mesh && n * g.mesh ≤ g.high
  else g.low < n * g.mesh && n * g.mesh < g.high

/-- The point of the grid to write, if one of the two neighbours of the number lies in the
interval. -/
def pick? (g : Gap) (tie : Tie) : Option Nat :=
  let below := g.value / g.mesh
  match g.holds below, g.holds (below + 1) with
  | false, false => none
  | true, false => some below
  | false, true => some (below + 1)
  | true, true =>
    let down := g.value - below * g.mesh
    let up := (below + 1) * g.mesh - g.value
    if down < up then some below
    else if up < down then some (below + 1)
    else match tie with
      | .up => some (below + 1)
      | .even => if below % 2 = 0 then some below else some (below + 1)

end Gap

/-- Tries the grids of `10 ^ k`, `10 ^ (k - 1)`, … in turn, and writes the number on the first
one that has a point in its interval. -/
def shortestFrom (tie : Tie) (m : Nat) (q : Int) : Nat → Int → Nat × Int
  | 0, k => ((Gap.make m q k).value / (Gap.make m q k).mesh, k)
  | fuel + 1, k =>
    match (Gap.make m q k).pick? tie with
    | some n => (n, k)
    | none => shortestFrom tie m q fuel (k - 1)

/-- The digits and the power of ten of the shortest decimal that reads back as `m * 2 ^ q`.

The first grid tried is that of a power of ten above the number, which has at most one point
in the interval; the last one tried has more than seventeen points below the number. -/
def shortest (tie : Tie) (m : Nat) (q : Int) : Nat × Int :=
  let num := m * Nat.pow 2 q.toNat
  let den := Nat.pow 2 (-q).toNat
  let top : Int :=
    if den ≤ num then (Nat.toDigits 10 (num / den)).length
    else 2 - ((Nat.toDigits 10 (den / num)).length : Int)
  shortestFrom tie m q 24 top

end Parens.Number
