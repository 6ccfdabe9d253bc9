import Parens.Text.Ranges

/-!
# Blank Characters

The characters of the Unicode property `White_Space`, which separate tokens, and the removal
of characters from both ends of a text.
-/

namespace Parens.Text

/-- The ranges of the property `White_Space`. -/
def blankRanges : List (Nat × Nat) :=
  [
    (0x9, 0xD), (0x20, 0x20), (0x85, 0x85), (0xA0, 0xA0), (0x1680, 0x1680), (0x2000, 0x200A),
    (0x2028, 0x2029), (0x202F, 0x202F), (0x205F, 0x205F), (0x3000, 0x3000)]

/-- Whether a character is blank. -/
def isBlank (c : Char) : Bool := inRanges blankRanges c.toNat

/-- A text without the characters that satisfy `p` at its two ends. -/
def trimBy (p : Char → Bool) (cs : List Char) : List Char :=
  ((cs.dropWhile p).reverse.dropWhile p).reverse

/-- A text without the blanks at its two ends. -/
def trim (cs : List Char) : List Char :=
  trimBy isBlank cs

/-- Every blank of ASCII is a blank. -/
theorem isBlank_of_isWhitespace {c : Char} (h : c.isWhitespace) : isBlank c := by
  simp only [Char.isWhitespace, Bool.or_eq_true, decide_eq_true_eq] at h
  rcases h with ((rfl | rfl) | rfl) | rfl <;> decide

/-- Nothing is removed from a text whose ends stay. -/
theorem trimBy_eq_self {p : Char → Bool} {cs : List Char}
    (hfirst : ∀ c, cs.head? = some c → p c = false)
    (hlast : ∀ c, cs.getLast? = some c → p c = false) : trimBy p cs = cs := by
  have drop_eq : ∀ {l : List Char}, (∀ c, l.head? = some c → p c = false) →
      l.dropWhile p = l := by
    intro l h
    cases l with
    | nil => rfl
    | cons c l => simp [h c rfl]
  rw [trimBy, drop_eq hfirst, drop_eq, List.reverse_reverse]
  intro c hc
  exact hlast c (by rwa [List.head?_reverse] at hc)

/-- What satisfies `p` around a text is removed with what the text has of it at its ends. -/
theorem trimBy_append {p : Char → Bool} {front cs behind : List Char}
    (hfront : ∀ c ∈ front, p c = true) (hbehind : ∀ c ∈ behind, p c = true) :
    trimBy p (front ++ cs ++ behind) = trimBy p cs := by
  have hreverse : ∀ c ∈ behind.reverse, p c = true := fun c hc =>
    hbehind c (List.mem_reverse.1 hc)
  have hnone : behind.dropWhile p = [] := by
    rw [← List.append_nil behind, List.dropWhile_append_of_pos hbehind, List.dropWhile_nil]
  rw [trimBy, trimBy, List.append_assoc, List.dropWhile_append_of_pos hfront,
    List.dropWhile_append]
  split
  · rename_i hall
    rw [List.isEmpty_iff.1 hall, hnone]
  · rw [List.reverse_append, List.dropWhile_append_of_pos hreverse]

/-- What is removed from a text stood at its ends and satisfies `p`. -/
theorem exists_eq_append_trimBy (p : Char → Bool) (cs : List Char) :
    ∃ front behind, cs = front ++ trimBy p cs ++ behind ∧
      (∀ c ∈ front, p c = true) ∧ ∀ c ∈ behind, p c = true := by
  have hruns : ∀ {l : List Char} {c : Char}, c ∈ l.takeWhile p → p c = true := fun hc =>
    List.all_eq_true.1 List.all_takeWhile _ hc
  refine ⟨cs.takeWhile p, ((cs.dropWhile p).reverse.takeWhile p).reverse, ?_,
    fun c hc => hruns hc, fun c hc => hruns (List.mem_reverse.1 hc)⟩
  rw [trimBy, List.append_assoc, ← List.reverse_append, List.takeWhile_append_dropWhile,
    List.reverse_reverse, List.takeWhile_append_dropWhile]

end Parens.Text
