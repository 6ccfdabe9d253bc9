import Parens.Pattern.Match

/-!
# Where a Match Stands

A run only counts the characters that it reads, and a match is a text of that length. So it is a
piece of the text (`isInfix_of_find?`), and it stands at the front if the pattern begins at the
beginning of the text (`isPrefix_of_find?`).

A greedy repetition of a set takes the longest run of its characters (`find?_span`), which is how
blanks, names and numbers are recognised.
-/

namespace Parens.Pattern

namespace Program

variable {program : Program} {before : Option Char} {text found : List Char}

/-! ### Lengths -/

/-- The length that a run comes to is the best one so far, or counts some more characters of the
text. -/
theorem run_length {todo : List Nat} {count n : Nat} {best : Option Nat}
    (h : program.run todo before count best text = some n) :
    best = some n ∨ count ≤ n ∧ n ≤ count + text.length := by
  have now (accepts : Bool) (k : Nat) (h : (if accepts then some count else best) = some n) :
      best = some n ∨ count ≤ n ∧ n ≤ count + k := by
    cases accepts with
    | true => exact .inr (by simp at h; omega)
    | false => exact .inl h
  induction text generalizing todo before count best with
  | nil => exact now _ _ h
  | cons x xs ih =>
    simp only [run] at h
    split at h
    · exact now _ _ h
    · rcases ih h (fun accepts k h => by cases accepts <;> simp_all) with h | h
      · exact now _ _ h
      · exact .inr ⟨by omega, by simp; omega⟩

/-! ### Matches as pieces of the text -/

/-- **A match at a place begins there.** -/
theorem isPrefix_of_matchAt? (h : program.matchAt? before text = some found) : found <+: text := by
  obtain ⟨n, -, rfl⟩ := Option.map_eq_some_iff.1 h
  exact List.take_prefix n text

/-- A match that was searched for stands somewhere in the text. -/
theorem isInfix_of_findFrom? (h : program.findFrom? before text = some found) :
    found <:+: text := by
  induction text generalizing before with
  | nil => exact (isPrefix_of_matchAt? h).isInfix
  | cons x xs ih =>
    rw [findFrom?] at h
    cases hm : program.matchAt? before (x :: xs) with
    | some t =>
      rw [hm] at h
      obtain rfl := Option.some.inj h
      exact (isPrefix_of_matchAt? hm).isInfix
    | none =>
      rw [hm] at h
      exact (ih h).trans (List.suffix_cons x xs).isInfix

end Program

/-! ### Patterns -/

/-- **A match is a piece of the text.** -/
theorem isInfix_of_find? {p : Pattern} {text found : List Char} (h : p.find? text = some found) :
    found <:+: text := by
  rw [find?] at h
  split at h
  · exact (Program.isPrefix_of_matchAt? h).isInfix
  · exact Program.isInfix_of_findFrom? h

/-- **A pattern that begins at the beginning of the text** matches at the front. -/
theorem isPrefix_of_find? {p : Pattern} {text found : List Char} (hp : p.isAnchored)
    (h : p.find? text = some found) : found <+: text := by
  rw [find?, if_pos hp] at h
  exact Program.isPrefix_of_matchAt? h

/-! ### Runs of a set -/

/-- The program of a run of a set tests for the beginning of the text, reads the set at address 1,
and forks at address 2 to reading again or to accepting. -/
theorem afterReading_span (set : CharSet) (x : Char) :
    (span set).program.afterReading x 1 = if set.mem x then some 2 else none := rfl

/-- Inside a run, the program goes on to the end of the run. -/
theorem run_span (set : CharSet) (before : Option Char) (count : Nat) (best : Option Nat)
    (text : List Char) :
    (span set).program.run [2] before count best text =
      some (count + (text.takeWhile set.mem).length) := by
  induction text generalizing before count best with
  | nil => rfl
  | cons x xs ih =>
    have places :
        (span set).program.reach (Assertion.holds before (some x)) [2] = [2, 1, 3] := rfl
    have accepts : [2, 1, 3].any (span set).program.acceptsAt = true := rfl
    have preferred :
        [2, 1, 3].takeWhile (fun a => !(span set).program.acceptsAt a) = [2, 1] := rfl
    have forks : (span set).program.afterReading x 2 = none := rfl
    simp only [Program.run, places, accepts, preferred, List.filterMap_cons, forks,
      afterReading_span]
    by_cases hx : set.mem x
    · simp [hx, ih, Nat.add_assoc, Nat.add_comm]
    · simp [hx]

/-- **A greedy repetition of a set takes the longest run**, if there is a run at all. -/
theorem find?_span (set : CharSet) (text : List Char) :
    (span set).find? text =
      if text.takeWhile set.mem = [] then none else some (text.takeWhile set.mem) := by
  cases text with
  | nil => rfl
  | cons x xs =>
    have places :
        (span set).program.reach (Assertion.holds none (some x)) [0] = [0, 1] := rfl
    have accepts : [0, 1].any (span set).program.acceptsAt = false := rfl
    have preferred : [0, 1].takeWhile (fun a => !(span set).program.acceptsAt a) = [0, 1] := rfl
    have tests : (span set).program.afterReading x 0 = none := rfl
    have anchored : (span set).isAnchored = true := rfl
    simp only [find?, anchored, Program.matchAt?, Program.run, places, accepts, preferred,
      List.filterMap_cons, tests, afterReading_span]
    by_cases hx : set.mem x
    · simpa [hx, run_span, Nat.add_comm 1] using
        (List.prefix_iff_eq_take.1 <| List.takeWhile_prefix (l := xs) set.mem).symm
    · simp [hx]

end Parens.Pattern
