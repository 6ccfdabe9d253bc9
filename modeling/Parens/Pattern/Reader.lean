import Parens.Pattern.Item

/-!
# Building a Pattern from Its Items

The items of a written pattern are folded over a stack of open groups. Each group keeps its
number, its finished alternatives, the pieces of the alternative at hand and the modes in force.
Numbers go by the order in which groups are opened. A switch of modes holds up to the end of its
group, across bars; it is no piece, so nothing can repeat it.

`Pattern.ofSource?` is the pattern of a written one, and `Pattern.anchored?` the pattern that
the vocabulary uses: the written one, put in a group behind the beginning of the text. The
group is put around the text before it is read (`Pattern.grouped`), so a written pattern with
unbalanced parentheses can close it early.
-/

namespace Parens.Pattern

/-- Which modes are in force. -/
structure Modes where
  /-- Case makes no difference. -/
  caseless : Bool
  /-- Ends of lines count as ends. -/
  multiline : Bool
  /-- The dot matches a line feed. -/
  dotAll : Bool
  /-- Repetitions are lazy, unless marked. -/
  swapGreed : Bool

namespace Modes

/-- No mode is in force. -/
def off : Modes := ⟨false, false, false, false⟩

/-- Switches one mode. -/
def set (m : Modes) : Mode × Bool → Modes
  | (.caseless, b) => { m with caseless := b }
  | (.multiline, b) => { m with multiline := b }
  | (.dotAll, b) => { m with dotAll := b }
  | (.swapGreed, b) => { m with swapGreed := b }

/-- Switches several modes in order. -/
def apply (m : Modes) (switches : Switches) : Modes := switches.foldl set m

end Modes

/-- An open group. -/
structure Group where
  /-- The number, if the group has one. -/
  number : Option Nat
  /-- The modes in force. -/
  modes : Modes
  /-- The finished alternatives as rows of patterns, the last one first. -/
  rows : List (List Pattern)
  /-- The pieces of the alternative at hand, the last one first. A switch of modes leaves a gap,
  which cannot be repeated. -/
  pieces : List (Option Pattern)

namespace Group

/-- A group without content. -/
def start (number : Option Nat) (modes : Modes) : Group := ⟨number, modes, [], []⟩

/-- Puts a piece at the end of the alternative at hand. -/
def push (g : Group) (p : Pattern) : Group := { g with pieces := some p :: g.pieces }

/-- The alternative at hand, as a row of patterns. -/
def row (g : Group) : List Pattern := rowOf (g.pieces.reverse.filterMap id)

/-- Ends the alternative at hand. -/
def bar (g : Group) : Group := { g with rows := g.row :: g.rows, pieces := [] }

/-- The pattern of a group that closes. -/
def close (g : Group) : Pattern :=
  let p := Pattern.alternatives (g.row :: g.rows).reverse
  match g.number with
  | some n => .group n p
  | none => p

/-- Repeats the last piece. -/
def repeatLast? (g : Group) (least : Nat) (most : Option Nat) (greedy : Bool) : Option Group :=
  match g.pieces with
  | some p :: pieces =>
    some { g with pieces := some (p.repeated least most (greedy != g.modes.swapGreed)) :: pieces }
  | _ => none

end Group

/-- The groups open at some point, from the innermost on, with the names and the numbers used so
far. -/
structure Groups where
  /-- The innermost group. -/
  inner : Group
  /-- The groups around it. -/
  outer : List Group
  /-- The names of groups. -/
  names : List (List Char)
  /-- The number of the next group. -/
  next : Nat

namespace Groups

/-- No group is open but the whole pattern. -/
def start : Groups := ⟨.start none .off, [], [], 1⟩

/-- Opens a group. No name may occur twice. -/
def enter? (s : Groups) (label : Label) (switches : Switches) : Option Groups :=
  let modes := s.inner.modes.apply switches
  let outer := s.inner :: s.outer
  match label with
  | .plain => some { s with inner := .start none modes, outer := outer }
  | .numbered => some ⟨.start (some s.next) modes, outer, s.names, s.next + 1⟩
  | .named name =>
    if s.names.contains name then none
    else some ⟨.start (some s.next) modes, outer, name :: s.names, s.next + 1⟩

/-- Takes in one item. -/
def step (s : Groups) : Item → Option Groups
  | .chars set =>
    let set := if s.inner.modes.caseless then set.caseless else set
    some { s with inner := s.inner.push (ofSet set) }
  | .dot =>
    let set := if s.inner.modes.dotAll then CharSet.any else CharSet.notLineFeed
    some { s with inner := s.inner.push (ofSet set) }
  | .caret =>
    let condition := if s.inner.modes.multiline then Assertion.lineStart else .textStart
    some { s with inner := s.inner.push (look condition) }
  | .dollar =>
    let condition := if s.inner.modes.multiline then Assertion.lineEnd else .textEnd
    some { s with inner := s.inner.push (look condition) }
  | .look condition => some { s with inner := s.inner.push (look condition) }
  | .opening label switches => s.enter? label switches
  | .closing =>
    match s.outer with
    | [] => none
    | g :: outer => some { s with inner := g.push s.inner.close, outer := outer }
  | .bar => some { s with inner := s.inner.bar }
  | .switch switches =>
    let inner :=
      { s.inner with
        modes := s.inner.modes.apply switches
        pieces := none :: s.inner.pieces }
    some { s with inner := inner }
  | .repetition least most greedy =>
    (s.inner.repeatLast? least most greedy).map fun g => { s with inner := g }

end Groups

/-- The pattern of a row of items. -/
def ofItems? (items : List Item) : Option Pattern :=
  match items.foldlM Groups.step .start with
  | some ⟨g, [], _, _⟩ => some g.close
  | _ => none

/-- The pattern that a text writes. -/
def ofSource? (source : List Char) : Option Pattern :=
  match readItems? source with
  | some items => ofItems? items
  | none => none

/-- A written pattern, put in a group behind the beginning of the text. -/
def grouped (source : List Char) : List Char := "\\A(?:".toList ++ source ++ [')']

/-- The pattern that a text writes in a group behind the beginning of the text. -/
def anchored? (source : List Char) : Option Pattern := ofSource? (grouped source)

end Parens.Pattern
