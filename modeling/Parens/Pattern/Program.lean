import Parens.Pattern

/-!
# Programs of Patterns

A pattern is matched by a `Program`: a row of instructions with their place in the row as
address. An instruction reads a character, tests the place in the text, goes on elsewhere or
goes on in two ways, of which the first is preferred. Whatever does not go on elsewhere goes on
at the next address, so the code of a sequence is one code behind the other.

What may be read in rounds that read nothing is repeated by a fork behind it, and the first round
is entered by a fork of its own. Everything else is repeated by a jump back to one fork in front.
-/

namespace Parens.Pattern

/-- A step of matching. -/
inductive Instruction where
  /-- Reads one character of a set. -/
  | read (set : CharSet)
  /-- Goes on where a condition holds. -/
  | test (condition : Assertion)
  /-- Goes on elsewhere. -/
  | jump (target : Nat)
  /-- Goes on in two ways, of which the first is preferred. -/
  | fork (first second : Nat)
  /-- Ends with a match. -/
  | accept
deriving DecidableEq, Repr

/-- The instructions of a pattern, by address. -/
abbrev Program := Array Instruction

namespace Instruction

/-- A fork between one more round and the way out: a greedy repetition prefers the round. -/
def branch (greedy : Bool) (round exit : Nat) : Instruction :=
  if greedy then fork round exit else fork exit round

end Instruction

/-! ### Repetition -/

/-- Code for a number of rounds. -/
def roundsCode (code : Nat → List Instruction) : Nat → Nat → List Instruction
  | 0, _ => []
  | n + 1, address =>
    let round := code address
    round ++ roundsCode code n (address + round.length)

/-- Code for up to a number of rounds, each behind a fork that may leave for `exit`. -/
def optionalCode (code : Nat → List Instruction) (greedy : Bool) (exit : Nat) :
    Nat → Nat → List Instruction
  | 0, _ => []
  | n + 1, address =>
    let round := code (address + 1)
    .branch greedy (address + 1) exit ::
      round ++ optionalCode code greedy exit n (address + 1 + round.length)

/-- Code for one round or more. -/
def someCode (code : Nat → List Instruction) (greedy : Bool) (address : Nat) :
    List Instruction :=
  let round := code address
  round ++ [.branch greedy address (address + round.length + 1)]

/-- Code for any number of rounds. -/
def manyCode (code : Nat → List Instruction) (consumes greedy : Bool) (address : Nat) :
    List Instruction :=
  let round := code (address + 1)
  let exit := address + round.length + 2
  let again := if consumes then .jump address else .branch greedy (address + 1) exit
  .branch greedy (address + 1) exit :: round ++ [again]

/-- Code for a repetition. -/
def timesCode (code : Nat → List Instruction) (consumes : Bool) (least : Nat)
    (most : Option Nat) (greedy : Bool) (address : Nat) : List Instruction :=
  let front := roundsCode code (if most = none then least - 1 else least) address
  let address := address + front.length
  match most with
  | some n =>
    let exit := address + (n - least) * ((code 0).length + 1)
    front ++ optionalCode code greedy exit (n - least) address
  | none =>
    if least = 0 then manyCode code consumes greedy address
    else front ++ someCode code greedy address

/-! ### Patterns -/

/-- The code of a pattern at an address. -/
def code : Pattern → Nat → List Instruction
  | empty, _ => []
  | literal text, _ => text.map fun c => .read (.single c)
  | one set, _ => [.read set]
  | look condition, _ => [.test condition]
  | seq p q, address =>
    let first := p.code address
    first ++ q.code (address + first.length)
  | alt p q, address =>
    let first := p.code (address + 1)
    let middle := address + 1 + first.length
    let second := q.code (middle + 1)
    .fork (address + 1) (middle + 1) :: first ++ .jump (middle + 1 + second.length) :: second
  | times p least most greedy, address =>
    timesCode (fun a => p.code a) p.consumes least most greedy address
  | group _ p, address => p.code address

/-- The program of a pattern. -/
def program (p : Pattern) : Program := (p.code 0 ++ [Instruction.accept]).toArray

end Parens.Pattern
