import Parens.Pattern.Cut

/-!
# Regular Expressions

The patterns of the vocabulary as data: sets of characters, assertions about the place, and
what sequence, choice and repetition make of them. Choices are ordered. Where several matches
begin at the same place, the first alternative counts, and a repetition takes as many rounds as
it can, or as few if it is lazy.

Patterns are put together by `ofSet`, `concat`, `alternatives` and `repeated`, which leave out what
is of no use and bring patterns into one form: characters in a row make one fixed text, and a
choice between single characters makes one set. Taking out what alternatives have in common at
the front moves the choice between them behind it, and so settles what is preferred: first how the
front is matched, then which alternative.
-/

namespace Parens

namespace Pattern

/-- A condition on a place in a text, which reads nothing. -/
inductive Assertion where
  /-- The beginning of the text. -/
  | textStart
  /-- The end of the text. -/
  | textEnd
  /-- The beginning of a line. -/
  | lineStart
  /-- The end of a line. -/
  | lineEnd
  /-- Between a word and something else. -/
  | wordEdge
  /-- Inside a word, or away from all words. -/
  | noWordEdge
  /-- The beginning of a word. -/
  | wordStart
  /-- The end of a word. -/
  | wordEnd
deriving DecidableEq, Repr

end Pattern

/-- A regular expression. -/
inductive Pattern where
  /-- The empty text. -/
  | empty
  /-- A fixed text. -/
  | literal (text : List Char)
  /-- One character of a set. -/
  | one (set : Pattern.CharSet)
  /-- The empty text where a condition holds. -/
  | look (condition : Pattern.Assertion)
  /-- One text and then another. -/
  | seq (p q : Pattern)
  /-- One text or, failing that, another. -/
  | alt (p q : Pattern)
  /-- Several texts in a row: at least `least`, and at most `most` if there is a bound; as many
  as possible, or as few if the repetition is not greedy. -/
  | times (p : Pattern) (least : Nat) (most : Option Nat) (greedy : Bool)
  /-- A group with a number, which keeps it apart from every other group. -/
  | group (number : Nat) (p : Pattern)
deriving DecidableEq, Repr

namespace Pattern

/-! ### What a pattern reads -/

/-- Whether every match reads something. -/
def consumes : Pattern → Bool
  | empty => false
  | literal text => text ≠ []
  | one _ => true
  | look _ => false
  | seq p q => p.consumes || q.consumes
  | alt p q => p.consumes && q.consumes
  | times p least _ _ => 0 < least && p.consumes
  | group _ p => p.consumes

/-- Whether no match reads anything. -/
def isIdle : Pattern → Bool
  | empty => true
  | literal text => text = []
  | one _ => false
  | look _ => true
  | seq p q => p.isIdle && q.isIdle
  | alt p q => p.isIdle && q.isIdle
  | times p _ most _ => p.isIdle || most == some 0
  | group _ p => p.isIdle

/-- Whether every match begins at the beginning of the text. -/
def isAnchored : Pattern → Bool
  | look condition => condition == .textStart
  | seq p _ => p.isAnchored
  | alt p q => p.isAnchored && q.isAnchored
  | group _ p => p.isAnchored
  | _ => false

/-! ### Sequences -/

/-- One character of a set, or the fixed character of a set of one. -/
def ofSet (set : CharSet) : Pattern :=
  match set.single? with
  | some c => literal [c]
  | none => one set

/-- The patterns that stand one behind the other in a pattern. -/
def parts : Pattern → List Pattern
  | empty => []
  | seq p q => p.parts ++ q.parts
  | p => [p]

/-- Patterns one behind the other. -/
def sequence : List Pattern → Pattern
  | [] => empty
  | [p] => p
  | p :: ps => seq p (sequence ps)

/-- Puts a pattern in front of others; fixed texts in a row make one. -/
def joinText : Pattern → List Pattern → List Pattern
  | literal a, literal b :: ps => literal (a ++ b) :: ps
  | p, ps => p :: ps

/-- The row of the parts of some patterns. -/
def rowOf (ps : List Pattern) : List Pattern := (ps.flatMap parts).foldr joinText []

/-- Patterns one behind the other, as a row of their parts. -/
def concat (ps : List Pattern) : Pattern := sequence (rowOf ps)

/-! ### Alternatives -/

/-- Whether two patterns are the same, however their sets are written. -/
def agrees : Pattern → Pattern → Bool
  | empty, empty => true
  | literal a, literal b => a == b
  | one s, one t => s.agrees t
  | look a, look b => a == b
  | seq p q, seq p' q' => p.agrees p' && q.agrees q'
  | alt p q, alt p' q' => p.agrees p' && q.agrees q'
  | times p least most greedy, times p' least' most' greedy' =>
    least == least' && most == most' && greedy == greedy' && p.agrees p'
  | group n p, group n' p' => n == n' && p.agrees p'
  | _, _ => false

/-- The patterns between which a pattern chooses. -/
def branches : Pattern → List Pattern
  | alt p q => p.branches ++ q.branches
  | p => [p]

/-- A row that is only a choice, as the rows of its alternatives. -/
def spread : List Pattern → List (List Pattern)
  | [p] => p.branches.map parts
  | row => [row]

/-- The set of a row that is only one character. -/
def set? : List Pattern → Option CharSet
  | [literal [c]] => some (.single c)
  | [one set] => some set
  | _ => none

/-- Patterns in order of preference. -/
def choice : List Pattern → Pattern
  | [] => empty
  | [p] => p
  | p :: ps => alt p (choice ps)

/-- A choice between rows, which is a set where all of them are single characters. -/
def choose (rows : List (List Pattern)) : Pattern :=
  match rows.mapM set? with
  | some sets => ofSet (.unions sets)
  | none => choice (rows.map sequence)

/-- What two rows of patterns have in common at the front. -/
def commonFront : List Pattern → List Pattern → List Pattern
  | p :: ps, q :: qs => if p.agrees q then p :: commonFront ps qs else []
  | _, _ => []

/-- What all of several rows have in common at the front, if they have two patterns or more. -/
def front : List (List Pattern) → List Pattern
  | row :: next :: rows =>
    if (row :: next :: rows).all (1 < ·.length) then (next :: rows).foldl commonFront row else []
  | _ => []

/-- Alternatives in order of preference, each of them a row of patterns. What they have in common
at the front is taken out: it is matched once, and the choice lies behind it. -/
def alternatives (rows : List (List Pattern)) : Pattern :=
  let rows := rows.flatMap spread
  match front rows with
  | [] => choose rows
  | shared => concat (shared ++ [choose ((rows.map (·.drop shared.length)).flatMap spread)])

/-! ### Repetitions -/

/-- A repetition. One round of a pattern that reads nothing is as good as many, and exactly one
round is the pattern itself. -/
def repeated (p : Pattern) (least : Nat) (most : Option Nat) (greedy : Bool) : Pattern :=
  let least := if p.isIdle then min least 1 else least
  let most := if p.isIdle then some (min (most.getD 1) 1) else most
  if least = 0 && most = some 0 then empty
  else if least = 1 && most = some 1 then p
  else times p least most greedy

/-- Characters of a set at the beginning of the text: one or more, and as many as there are. -/
def span (set : CharSet) : Pattern := seq (look .textStart) (times (one set) 1 none true)

/-- Patterns in a row are the parts of their sequence, if none of them is a row itself. -/
theorem parts_sequence {ps : List Pattern} (h : ∀ p ∈ ps, p.parts = [p]) :
    (sequence ps).parts = ps := by
  induction ps with
  | nil => rfl
  | cons p ps ih =>
    cases ps with
    | nil => exact h p (by simp)
    | cons q qs =>
      rw [sequence, parts, h p (by simp), ih fun r hr => h r (by simp [hr])]
      rfl
      simp

end Pattern

end Parens
