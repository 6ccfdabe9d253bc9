import Parens.Text.Blank
import Parens.Text.CaseFold
import Parens.Text.Word

/-!
# Sets of Characters

The sets that a regular expression can name: ranges of code points, the classes of Unicode, and
what the set operations make of them. A set is kept as it was written, and `CharSet.mem` says
which characters belong to it.

Matching without regard to case closes the ranges of a set under case (`caseless`). The classes
are closed already, and closed sets stay closed under all set operations, so nothing else has
to be changed.
-/

namespace Parens.Pattern

/-- A set of characters. -/
inductive CharSet where
  /-- No character. -/
  | none
  /-- The characters from one code point to another. -/
  | range (first last : Nat)
  /-- The characters that differ from one in a range in case alone. -/
  | caselessRange (first last : Nat)
  /-- The blanks. -/
  | blank
  /-- The decimal digits. -/
  | digit
  /-- The characters of words. -/
  | word
  /-- What belongs to one set at least. -/
  | union (a b : CharSet)
  /-- What belongs to both sets. -/
  | inter (a b : CharSet)
  /-- What belongs to the first set only. -/
  | diff (a b : CharSet)
  /-- What belongs to exactly one set. -/
  | symmDiff (a b : CharSet)
  /-- What does not belong to a set. -/
  | compl (a : CharSet)
deriving DecidableEq, Repr

namespace CharSet

/-- Whether a number lies in a range. -/
def between (first last n : Nat) : Bool := first ≤ n && n ≤ last

/-- Whether a character belongs to a set. -/
def mem : CharSet → Char → Bool
  | none, _ => false
  | range first last, c => between first last c.toNat
  | caselessRange first last, c => (Text.caseVariants c.toNat).any (between first last)
  | blank, c => Text.isBlank c
  | digit, c => Text.isDecimalDigit c
  | word, c => Text.isWord c
  | union a b, c => a.mem c || b.mem c
  | inter a b, c => a.mem c && b.mem c
  | diff a b, c => a.mem c && !b.mem c
  | symmDiff a b, c => a.mem c != b.mem c
  | compl a, c => !a.mem c

/-- The set without regard to case. A single character that has no variants stays. -/
def caseless : CharSet → CharSet
  | range first last =>
    if first = last && !Text.casePoints.contains first then range first last
    else caselessRange first last
  | union a b => union a.caseless b.caseless
  | inter a b => inter a.caseless b.caseless
  | diff a b => diff a.caseless b.caseless
  | symmDiff a b => symmDiff a.caseless b.caseless
  | compl a => compl a.caseless
  | s => s

/-- The set of one character. -/
def single (c : Char) : CharSet := range c.toNat c.toNat

/-- The union of several sets. -/
def unions : List CharSet → CharSet
  | [] => none
  | [s] => s
  | s :: rest => union s (unions rest)

/-- All characters. -/
def any : CharSet := compl none

/-- All characters but the line feed. -/
def notLineFeed : CharSet := compl (single '\n')

/-- The classes of ASCII, by name. -/
def ascii? (name : List Char) : Option CharSet :=
  let upper := range 0x41 0x5A
  let lower := range 0x61 0x7A
  let digits := range 0x30 0x39
  let classes : List (String × CharSet) :=
    [("alnum", unions [digits, upper, lower]), ("alpha", unions [upper, lower]),
      ("ascii", range 0 0x7F), ("blank", unions [single '\t', single ' ']),
      ("cntrl", unions [range 0 0x1F, single '\x7f']), ("digit", digits),
      ("graph", range 0x21 0x7E), ("lower", lower), ("print", range 0x20 0x7E),
      ("punct", unions [range 0x21 0x2F, range 0x3A 0x40, range 0x5B 0x60, range 0x7B 0x7E]),
      ("space", unions [range 9 13, single ' ']), ("upper", upper),
      ("word", unions [digits, upper, single '_', lower]),
      ("xdigit", unions [digits, range 0x41 0x46, range 0x61 0x66])]
  (classes.find? fun p => p.1.toList == name).map fun p => p.2

/-- Exactly one character belongs to a set of one. -/
@[simp]
theorem mem_single {c d : Char} : (single c).mem d ↔ d = c := by
  simp only [single, mem, between, Bool.and_eq_true, decide_eq_true_eq]
  constructor
  · rintro ⟨h1, h2⟩
    exact Char.toNat_inj.1 (Nat.le_antisymm h2 h1)
  · rintro rfl
    exact ⟨Nat.le_refl _, Nat.le_refl _⟩

end CharSet

end Parens.Pattern
