import Parens.Pattern.Program

/-!
# Matching

A program is run on all its ways at once. At every place of the text it stands at some addresses,
in order of preference: those it can get to without reading. A character takes each of them that
reads it to the next address. The length of a match is noted down where an accepting address is
reached, and what is less preferred is given up.

No address is passed twice at one place: a way that comes to an address passed before ends there,
since a preferred way went on from it already. So no repetition goes round without reading.
-/

namespace Parens.Pattern

/-! ### Conditions on a place -/

/-- Whether a character, if there is one, belongs to a word. -/
def inWord (c : Option Char) : Bool := c.any Text.isWord

namespace Assertion

/-- Whether a condition holds between two characters, which are missing at the ends. -/
def holds (before after : Option Char) : Assertion → Bool
  | textStart => before.isNone
  | textEnd => after.isNone
  | lineStart => before.isNone || before == some '\n'
  | lineEnd => after.isNone || after == some '\n'
  | wordEdge => inWord before != inWord after
  | noWordEdge => inWord before == inWord after
  | wordStart => !inWord before && inWord after
  | wordEnd => inWord before && !inWord after

end Assertion

namespace Program

/-! ### Going on without reading -/

/-- The addresses at which a program goes on without reading, where some conditions hold. -/
def successors (program : Program) (holds : Assertion → Bool) (address : Nat) : List Nat :=
  match program[address]? with
  | some (.test condition) => if holds condition then [address + 1] else []
  | some (.jump target) => [target]
  | some (.fork first second) => [first, second]
  | _ => []

/-- All addresses passed from some addresses on, the last one first. The marks say of each address
whether it was passed, and the fuel bounds the number of addresses looked at. -/
def visit (program : Program) (holds : Assertion → Bool) :
    Nat → List Nat → Array Bool → List Nat → List Nat
  | 0, _, _, seen => seen
  | _, [], _, seen => seen
  | fuel + 1, address :: todo, marks, seen =>
    if marks.getD address true then visit program holds fuel todo marks seen
    else
      visit program holds fuel (program.successors holds address ++ todo)
        (marks.setIfInBounds address true) (address :: seen)

/-- The addresses that a program gets to from some addresses without reading, in order of
preference. Each address is passed once and puts two others on the list at most. -/
def reach (program : Program) (holds : Assertion → Bool) (todo : List Nat) : List Nat :=
  let marks := Array.replicate program.size false
  (program.visit holds (todo.length + 2 * program.size) todo marks []).reverse

/-! ### Reading on -/

/-- Whether a program ends with a match at an address. -/
def acceptsAt (program : Program) (address : Nat) : Bool := program[address]? == some .accept

/-- Where a program goes on behind a character that it reads at an address. -/
def afterReading (program : Program) (c : Char) (address : Nat) : Option Nat :=
  match program[address]? with
  | some (.read set) => if set.mem c then some (address + 1) else none
  | _ => none

/-- Runs a program from some addresses on. `count` characters were read, and `best` is the length
of the best match so far. -/
def run (program : Program) :
    List Nat → Option Char → Nat → Option Nat → List Char → Option Nat
  | todo, before, count, best, [] =>
    let places := program.reach (Assertion.holds before none) todo
    if places.any program.acceptsAt then some count else best
  | todo, before, count, best, x :: xs =>
    let places := program.reach (Assertion.holds before (some x)) todo
    let best := if places.any program.acceptsAt then some count else best
    let preferred := places.takeWhile fun a => !program.acceptsAt a
    match preferred.filterMap (program.afterReading x) with
    | [] => best
    | next => run program next (some x) (count + 1) best xs

/-- The text that a program matches at a place: behind a character, if there is one, and at the
front of a text. -/
def matchAt? (program : Program) (before : Option Char) (text : List Char) : Option (List Char) :=
  (program.run [0] before 0 none text).map text.take

/-- The text that a program matches at the first place where it matches, from a place on. -/
def findFrom? (program : Program) : Option Char → List Char → Option (List Char)
  | before, [] => program.matchAt? before []
  | before, x :: xs => program.matchAt? before (x :: xs) <|> findFrom? program (some x) xs

end Program

/-- The text that a pattern matches at the first place of a text where it matches. A pattern that
begins at the beginning of the text is looked for nowhere else. -/
def find? (p : Pattern) (text : List Char) : Option (List Char) :=
  let program := p.program
  if p.isAnchored then program.matchAt? none text else program.findFrom? none text

end Parens.Pattern
