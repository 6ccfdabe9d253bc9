/-!
# Sets of Characters as Tables of Ranges

A property of characters that no rule describes is given by a table: the ranges of code points
that have it, each with its first and last member, in ascending order. `inRanges` looks a code
point up and stops at the first range behind it, so that it decides membership in the union of
the ranges whenever the table ascends (`inRanges_eq_any`).
-/

namespace Parens.Text

/-- Whether a number lies in a range of an ascending table. -/
def inRanges : List (Nat × Nat) → Nat → Bool
  | [], _ => false
  | (first, last) :: rest, n =>
    if n < first then false else if n ≤ last then true else inRanges rest n

/-- Whether no range is empty and each begins behind the end of the one before. -/
def Ascending : Nat → List (Nat × Nat) → Prop
  | _, [] => True
  | least, (first, last) :: rest => least ≤ first ∧ first ≤ last ∧ Ascending (last + 1) rest

instance decidableAscending : (least : Nat) → (table : List (Nat × Nat)) →
    Decidable (Ascending least table)
  | _, [] => isTrue trivial
  | least, (first, last) :: rest =>
    have := decidableAscending (last + 1) rest
    inferInstanceAs (Decidable (least ≤ first ∧ first ≤ last ∧ Ascending (last + 1) rest))

/-- No range of an ascending table reaches below its least member. -/
theorem Ascending.not_any_of_lt {least n : Nat} {table : List (Nat × Nat)}
    (h : Ascending least table) (hn : n < least) :
    (table.any fun r => r.1 ≤ n && n ≤ r.2) = false := by
  induction table generalizing least with
  | nil => rfl
  | cons r rest ih =>
    obtain ⟨h1, h2, h3⟩ := h
    have hr : ¬ r.1 ≤ n := by omega
    simp [hr, ih h3 (by omega)]

/-- **Looking up is membership in one of the ranges**, if the table ascends. -/
theorem inRanges_eq_any {least n : Nat} {table : List (Nat × Nat)} (h : Ascending least table) :
    inRanges table n = table.any fun r => r.1 ≤ n && n ≤ r.2 := by
  induction table generalizing least with
  | nil => rfl
  | cons r rest ih =>
    obtain ⟨h1, h2, h3⟩ := h
    rw [inRanges, List.any_cons]
    split
    · rename_i hlt
      have hr : ¬ r.1 ≤ n := by omega
      simp [hr, h3.not_any_of_lt (by omega : n < r.2 + 1)]
    · rename_i hlt
      split
      · rename_i hle
        simp [hle, Nat.le_of_not_lt hlt]
      · rename_i hle
        simp [hle, ih h3]

/-- The numbers at which membership in a table can change: where a range begins, and behind its
end. -/
def rangeCuts (table : List (Nat × Nat)) : List Nat := table.flatMap fun r => [r.1, r.2 + 1]

/-- Neighbours without a cut between them are both in the ranges of a table or both not. -/
theorem inRanges_succ {table : List (Nat × Nat)} {n : Nat} (h : n + 1 ∉ rangeCuts table) :
    inRanges table n = inRanges table (n + 1) := by
  induction table with
  | nil => rfl
  | cons r rest ih =>
    simp only [rangeCuts, List.flatMap_cons, List.mem_append, List.mem_cons, List.not_mem_nil,
      or_false, not_or] at h
    obtain ⟨⟨h1, h2⟩, h3⟩ := h
    have ih := ih h3
    simp only [inRanges]
    grind

end Parens.Text
