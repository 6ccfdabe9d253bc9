/-!
# Text Measured in UTF-8 Bytes

Source text is a list of characters, while offsets into it count UTF-8 bytes. This module
holds the few operations that cross from one to the other: the size of a text
(`byteSize`), what lies behind an offset (`dropBytes?`), the piece of a given size
(`takeBytes?`) and the widest piece that fits a budget (`window`).

An offset that falls inside a character, or behind the end of the text, has nothing behind
it: `dropBytes?` and `takeBytes?` are partial, and their value says where the cut is
(`dropBytes?_eq_some_iff`, `takeBytes?_eq_some_iff`). `window` always succeeds, by giving
up the character that would straddle the limit.
-/

namespace Parens.Text

/-- The number of UTF-8 bytes of a text. -/
def byteSize : List Char → Nat
  | [] => 0
  | c :: cs => c.utf8Size + byteSize cs

@[simp]
theorem byteSize_nil : byteSize [] = 0 := rfl

@[simp]
theorem byteSize_cons (c : Char) (cs : List Char) :
    byteSize (c :: cs) = c.utf8Size + byteSize cs := rfl

/-- The size of a text is the sum of the sizes of its pieces. -/
@[simp]
theorem byteSize_append (a b : List Char) : byteSize (a ++ b) = byteSize a + byteSize b := by
  induction a with
  | nil => simp
  | cons c a ih => simp [ih, Nat.add_assoc]

/-- Every character takes at least one byte, so only the empty text has size zero. -/
theorem byteSize_pos {cs : List Char} (h : cs ≠ []) : 0 < byteSize cs := by
  cases cs with
  | nil => exact absurd rfl h
  | cons c cs =>
    have := c.utf8Size_pos
    simp only [byteSize_cons]
    omega

/-! ### Cutting at an offset -/

/-- What is left of a text after its first `n` bytes, if a character ends there. -/
def dropBytes? : Nat → List Char → Option (List Char)
  | 0, cs => some cs
  | _ + 1, [] => none
  | n + 1, c :: cs => if c.utf8Size ≤ n + 1 then dropBytes? (n + 1 - c.utf8Size) cs else none

/-- The first `n` bytes of a text, if a character ends there. -/
def takeBytes? : Nat → List Char → Option (List Char)
  | 0, _ => some []
  | _ + 1, [] => none
  | n + 1, c :: cs =>
    if c.utf8Size ≤ n + 1 then (takeBytes? (n + 1 - c.utf8Size) cs).map (c :: ·) else none

/-- The longest run of leading characters that takes at most `n` bytes. -/
def window : Nat → List Char → List Char
  | _, [] => []
  | n, c :: cs => if c.utf8Size ≤ n then c :: window (n - c.utf8Size) cs else []

/-- Behind a character that fits, the cut is as much further in front. -/
theorem dropBytes?_cons {n : Nat} {c : Char} (h : c.utf8Size ≤ n) (cs : List Char) :
    dropBytes? n (c :: cs) = dropBytes? (n - c.utf8Size) cs := by
  obtain ⟨k, rfl⟩ := Nat.exists_eq_add_one.2 (Nat.lt_of_lt_of_le c.utf8Size_pos h)
  rw [dropBytes?, if_pos h]

/-- Behind some text in front, offsets are counted on from its end. -/
theorem dropBytes?_append (front cs : List Char) (n : Nat) :
    dropBytes? (byteSize front + n) (front ++ cs) = dropBytes? n cs := by
  induction front with
  | nil => rw [byteSize_nil, Nat.zero_add, List.nil_append]
  | cons c front ih =>
    rw [List.cons_append, byteSize_cons, Nat.add_assoc, dropBytes?_cons (Nat.le_add_right _ _),
      Nat.add_sub_cancel_left, ih]

/-- **A cut is a split.** The offset `n` has `rest` behind it exactly when `rest` is preceded
by `n` bytes of text. -/
theorem dropBytes?_eq_some_iff {n : Nat} {cs rest : List Char} :
    dropBytes? n cs = some rest ↔ ∃ front, cs = front ++ rest ∧ byteSize front = n := by
  constructor
  · intro h
    fun_induction dropBytes? n cs with
    | case1 cs => exact ⟨[], Option.some.inj h, rfl⟩
    | case2 => cases h
    | case3 n c cs hle ih =>
      obtain ⟨front, rfl, hn⟩ := ih h
      refine ⟨c :: front, rfl, ?_⟩
      rw [byteSize_cons, hn]
      omega
    | case4 => cases h
  · rintro ⟨front, rfl, rfl⟩
    rw [← Nat.add_zero (byteSize front), dropBytes?_append, dropBytes?]

/-- A character that fits is taken, and as much less of what is behind it. -/
theorem takeBytes?_cons {n : Nat} {c : Char} (h : c.utf8Size ≤ n) (cs : List Char) :
    takeBytes? n (c :: cs) = (takeBytes? (n - c.utf8Size) cs).map (c :: ·) := by
  obtain ⟨k, rfl⟩ := Nat.exists_eq_add_one.2 (Nat.lt_of_lt_of_le c.utf8Size_pos h)
  rw [takeBytes?, if_pos h]

/-- The bytes of some text in front are that text. -/
theorem takeBytes?_append (front cs : List Char) :
    takeBytes? (byteSize front) (front ++ cs) = some front := by
  induction front with
  | nil => rw [byteSize_nil, takeBytes?]
  | cons c front ih =>
    rw [List.cons_append, byteSize_cons, takeBytes?_cons (Nat.le_add_right _ _),
      Nat.add_sub_cancel_left, ih, Option.map_some]

/-- The piece of `n` bytes and what lies behind it make up the text. -/
theorem takeBytes?_eq_some_iff {n : Nat} {cs front : List Char} :
    takeBytes? n cs = some front ↔ ∃ rest, cs = front ++ rest ∧ byteSize front = n := by
  constructor
  · intro h
    fun_induction takeBytes? n cs generalizing front with
    | case1 cs =>
      obtain rfl := Option.some.inj h
      exact ⟨cs, rfl, rfl⟩
    | case2 => cases h
    | case3 n c cs hle ih =>
      obtain ⟨front, hfront, rfl⟩ := Option.map_eq_some_iff.1 h
      obtain ⟨rest, rfl, hn⟩ := ih hfront
      refine ⟨rest, rfl, ?_⟩
      rw [byteSize_cons, hn]
      omega
    | case4 => cases h
  · rintro ⟨rest, rfl, rfl⟩
    exact takeBytes?_append front rest

/-! ### The window -/

/-- A window opens at the front of the text. -/
theorem window_isPrefix (n : Nat) (cs : List Char) : window n cs <+: cs := by
  induction cs generalizing n with
  | nil => simp [window]
  | cons c cs ih =>
    rw [window]
    split
    · exact List.cons_prefix_cons.2 ⟨rfl, ih _⟩
    · exact List.nil_prefix

/-- A window never exceeds its budget. -/
theorem byteSize_window_le (n : Nat) (cs : List Char) : byteSize (window n cs) ≤ n := by
  induction cs generalizing n with
  | nil => simp [window]
  | cons c cs ih =>
    rw [window]
    split
    · have := ih (n - c.utf8Size)
      simp only [byteSize_cons]
      omega
    · simp

end Parens.Text
