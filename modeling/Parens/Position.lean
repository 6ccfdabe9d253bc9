import Parens.Text.Bytes

/-!
# Positions in the Source Text

A `Position` is a byte offset together with the line and column a reader would count:
offsets start at 0 and count UTF-8 bytes, lines and columns start at 1 and columns count
characters. Reading a text moves a position by `advance`, and reading two texts one after
the other is reading their concatenation (`advance_append`).
-/

namespace Parens

/-- A place in the source text. Its numbers are unbounded. A count in machine words would overflow
behind a place near the largest word, and such places are left out: reading a text from its
beginning never leads there. -/
structure Position where
  /-- UTF-8 bytes in front of the place. -/
  offset : Nat
  /-- The line, counted from 1. -/
  line : Nat
  /-- The column in characters, counted from 1. -/
  column : Nat
deriving DecidableEq, Repr, Inhabited

namespace Position

/-- The beginning of every text. -/
def start : Position := ⟨0, 1, 1⟩

/-- The place behind one character: a line feed opens a new line. -/
def step (p : Position) (c : Char) : Position :=
  if c = '\n' then ⟨p.offset + c.utf8Size, p.line + 1, 1⟩
  else ⟨p.offset + c.utf8Size, p.line, p.column + 1⟩

/-- The place reached by reading a text from `p` on. -/
def advance (p : Position) (text : List Char) : Position :=
  text.foldl step p

/-- How a position is written in messages. -/
def render (p : Position) : String :=
  "line " ++ p.line.repr ++ ", column " ++ p.column.repr ++ " (offset " ++ p.offset.repr ++ ")"

@[simp]
theorem advance_nil (p : Position) : p.advance [] = p := rfl

@[simp]
theorem advance_cons (p : Position) (c : Char) (cs : List Char) :
    p.advance (c :: cs) = (p.step c).advance cs := rfl

/-- **Reading in pieces** ends where reading at once ends. -/
theorem advance_append (p : Position) (a b : List Char) :
    p.advance (a ++ b) = (p.advance a).advance b :=
  List.foldl_append

/-- A line feed opens a line. -/
theorem step_lineFeed (p : Position) : p.step '\n' = ⟨p.offset + 1, p.line + 1, 1⟩ := rfl

/-- Any other character goes on with the line. -/
theorem step_of_ne {c : Char} (h : c ≠ '\n') (p : Position) :
    p.step c = ⟨p.offset + c.utf8Size, p.line, p.column + 1⟩ :=
  if_neg h

@[simp]
theorem offset_step (p : Position) (c : Char) : (p.step c).offset = p.offset + c.utf8Size := by
  unfold step
  split <;> rfl

/-- The offset grows by the bytes that were read. -/
@[simp]
theorem offset_advance (p : Position) (text : List Char) :
    (p.advance text).offset = p.offset + Text.byteSize text := by
  induction text generalizing p with
  | nil => simp
  | cons c cs ih => simp [ih, Nat.add_assoc]

/-- **Lines are line feeds** read. -/
theorem line_advance (p : Position) (text : List Char) :
    (p.advance text).line = p.line + text.count '\n' := by
  induction text generalizing p with
  | nil => rfl
  | cons c cs ih =>
    rw [advance_cons, ih]
    by_cases hc : c = '\n'
    · rw [hc, step_lineFeed, List.count_cons_self, Nat.add_assoc, Nat.add_comm 1]
    · rw [step_of_ne hc, List.count_cons_of_ne hc]

end Position

end Parens
