import Parens.Lexer.Direct
import Parens.Proofs.Recognition

/-!
# Deciding by the First Character

The lexer that decides by the first character is compared with the one that tries the patterns for
the same kinds in order. Each pattern is brought into the form of a scan first: what it matches is
told by its first character and by a run behind it (`find?_headed`, `find?_quoted`). Then the
branches of `Lexer.dispatch` are the kinds, each tried where those in front of it do not match.

The lexers part on what is no token. There the first takes one character, and the second takes all
up to the next blank.

## Main results

* `find?_headed`, `find?_quoted`: names and quoted texts are matched as they are scanned.
* `dispatch_isPrefix`: the token that begins with a character is what the text begins with.
* `firstOf_eq_dispatch`: **both ways recognise the same**, up to how much of what is unexpected.
-/

namespace Parens

namespace Pattern

/-! ### A character and a run behind it -/

section

/-- A character of one set at the beginning of the text, and then any number of another set. -/
def headed (first later : CharSet) : Pattern :=
  seq (look .textStart) (seq (one first) (times (one later) 0 none true))

variable (first later : CharSet)

/-- The program of a character and a run behind it. The run is a loop from a fork back to it. -/
theorem program_headed :
    (headed first later).program =
      #[.test .textStart, .read first, .fork 3 5, .read later, .jump 2, .accept] := rfl

/-- At the beginning of the text, the program goes on to the first character. -/
theorem reach_headed_start (x : Char) :
    (headed first later).program.reach (Assertion.holds none (some x)) [0] = [0, 1] := rfl

/-- From the fork, the program goes on to the run and to the end. -/
theorem reach_headed_fork (holds : Assertion → Bool) :
    (headed first later).program.reach holds [2] = [2, 3, 5] := by cbv

/-- From the jump, the program goes on to the fork. -/
theorem reach_headed_jump (holds : Assertion → Bool) :
    (headed first later).program.reach holds [4] = [4, 2, 3, 5] := by cbv

/-- In the run, from the fork or from the jump back to it, the program goes on to the end of the
run. -/
theorem run_headed {address : Nat} (haddress : address = 2 ∨ address = 4)
    (before : Option Char) (count : Nat) (best : Option Nat) (text : List Char) :
    (headed first later).program.run [address] before count best text =
      some (count + (text.takeWhile later.mem).length) := by
  induction text generalizing address before count best with
  | nil =>
    obtain rfl | rfl := haddress
    · rw [Program.run, reach_headed_fork]
      rfl
    · rw [Program.run, reach_headed_jump]
      rfl
  | cons x xs ih =>
    have hplaces : ∃ places preferred,
        (headed first later).program.reach (Assertion.holds before (some x)) [address] = places ∧
        places.any (headed first later).program.acceptsAt = true ∧
        (places.takeWhile fun a => !(headed first later).program.acceptsAt a) = preferred ∧
        preferred.filterMap ((headed first later).program.afterReading x) =
          if later.mem x then [4] else [] := by
      obtain rfl | rfl := haddress
      · refine ⟨[2, 3, 5], [2, 3], reach_headed_fork _ _ _, rfl, rfl, ?_⟩
        by_cases hx : later.mem x <;> simp [program_headed, Program.afterReading, hx]
      · refine ⟨[4, 2, 3, 5], [4, 2, 3], reach_headed_jump _ _ _, rfl, rfl, ?_⟩
        by_cases hx : later.mem x <;> simp [program_headed, Program.afterReading, hx]
    obtain ⟨places, preferred, hreach, haccepts, hpreferred, hnext⟩ := hplaces
    simp only [Program.run, hreach, haccepts, hpreferred, hnext]
    by_cases hx : later.mem x
    · simp [hx, ih (.inr rfl), Nat.add_assoc, Nat.add_comm]
    · simp [hx]

/-- **A character and a run behind it** are matched as far as the run goes. -/
theorem find?_headed (x : Char) (xs : List Char) :
    (headed first later).find? (x :: xs) =
      if first.mem x then some (x :: xs.takeWhile later.mem) else none := by
  have hanchored : (headed first later).isAnchored = true := rfl
  have haccepts : [0, 1].any (headed first later).program.acceptsAt = false := rfl
  have hpreferred :
      ([0, 1].takeWhile fun a => !(headed first later).program.acceptsAt a) = [0, 1] := rfl
  have hnext : [0, 1].filterMap ((headed first later).program.afterReading x) =
      if first.mem x then [2] else [] := by
    by_cases hx : first.mem x <;> simp [program_headed, Program.afterReading, hx]
  simp only [find?, hanchored, Program.matchAt?, Program.run, reach_headed_start, haccepts,
    hpreferred, hnext]
  by_cases hx : first.mem x
  · have htake : xs.take (xs.takeWhile later.mem).length = xs.takeWhile later.mem :=
      (List.prefix_iff_eq_take.1 (List.takeWhile_prefix later.mem)).symm
    simp [hx, run_headed, Nat.add_comm 1, htake]
  · simp [hx]

end

/-! ### A text between two quotes -/

section

/-- Any number of characters of a set between two quotes, at the beginning of the text. -/
def quoted (quote : Char) (inner : CharSet) : Pattern :=
  seq (look .textStart)
    (seq (literal [quote]) (seq (times (one inner) 0 none true) (literal [quote])))

variable (quote : Char) (inner : CharSet)

/-- The program of a text between two quotes. The text is a loop from a fork back to it. -/
theorem program_quoted :
    (quoted quote inner).program =
      #[.test .textStart, .read (.single quote), .fork 3 5, .read inner, .jump 2,
        .read (.single quote), .accept] := rfl

/-- At the beginning of the text, the program goes on to the first quote. -/
theorem reach_quoted_start (x : Char) :
    (quoted quote inner).program.reach (Assertion.holds none (some x)) [0] = [0, 1] := rfl

/-- From the fork, the program goes on to the text and to the second quote. -/
theorem reach_quoted_fork (holds : Assertion → Bool) :
    (quoted quote inner).program.reach holds [2] = [2, 3, 5] := by cbv

/-- From the jump, the program goes on to the fork. -/
theorem reach_quoted_jump (holds : Assertion → Bool) :
    (quoted quote inner).program.reach holds [4] = [4, 2, 3, 5] := by cbv

/-- At the end, the program stays. -/
theorem reach_quoted_end (holds : Assertion → Bool) :
    (quoted quote inner).program.reach holds [6] = [6] := rfl

/-- Behind the second quote, the program ends. -/
theorem run_quoted_end (before : Option Char) (count : Nat) (best : Option Nat)
    (text : List Char) :
    (quoted quote inner).program.run [6] before count best text = some count := by
  have haccepts : [6].any (quoted quote inner).program.acceptsAt = true := rfl
  have hpreferred :
      ([6].takeWhile fun a => !(quoted quote inner).program.acceptsAt a) = [] := rfl
  cases text with
  | nil => simp only [Program.run, reach_quoted_end, haccepts, if_true]
  | cons x xs =>
    simp only [Program.run, reach_quoted_end, haccepts, hpreferred, List.filterMap_nil, if_true]

/-- In the text, from the fork or from the jump back to it, the program looks for the second quote
where the text ends. -/
theorem run_quoted (hquote : inner.mem quote = false) {address : Nat}
    (haddress : address = 2 ∨ address = 4) (before : Option Char) (count : Nat)
    (text : List Char) :
    (quoted quote inner).program.run [address] before count none text =
      if (text.dropWhile inner.mem).head? = some quote then
        some (count + (text.takeWhile inner.mem).length + 1) else none := by
  have hreads (x : Char) :
      [2, 3, 5].filterMap ((quoted quote inner).program.afterReading x) =
        if inner.mem x then [4] else if x = quote then [6] else [] := by
    by_cases hx : inner.mem x
    · have hne : x ≠ quote := by
        rintro rfl
        rw [hquote] at hx
        cases hx
      simp [program_quoted, Program.afterReading, CharSet.mem_single, hx, hne]
    · by_cases hq : x = quote
      · subst hq
        simp [program_quoted, Program.afterReading, CharSet.mem_single, hquote]
      · simp [program_quoted, Program.afterReading, CharSet.mem_single, hx, hq]
  induction text generalizing address before count with
  | nil =>
    obtain rfl | rfl := haddress
    · rw [Program.run, reach_quoted_fork]
      rfl
    · rw [Program.run, reach_quoted_jump]
      rfl
  | cons x xs ih =>
    have hplaces : ∃ places,
        (quoted quote inner).program.reach (Assertion.holds before (some x)) [address] = places ∧
        places.any (quoted quote inner).program.acceptsAt = false ∧
        (places.takeWhile fun a => !(quoted quote inner).program.acceptsAt a) = places ∧
        places.filterMap ((quoted quote inner).program.afterReading x) =
          if inner.mem x then [4] else if x = quote then [6] else [] := by
      obtain rfl | rfl := haddress
      · exact ⟨[2, 3, 5], reach_quoted_fork _ _ _, rfl, rfl, hreads x⟩
      · exact ⟨[4, 2, 3, 5], reach_quoted_jump _ _ _, rfl, rfl, hreads x⟩
    obtain ⟨places, hreach, haccepts, hpreferred, hnext⟩ := hplaces
    simp only [Program.run, hreach, haccepts, hpreferred, hnext]
    by_cases hx : inner.mem x
    · simp [hx, ih (.inr rfl), Nat.add_assoc, Nat.add_comm]
    · by_cases hq : x = quote
      · subst hq
        simp [hx, run_quoted_end]
      · simp [hx, hq]

/-- **A text between two quotes** is matched up to the first quote behind it, if there is one. -/
theorem find?_quoted (hquote : inner.mem quote = false) (x : Char) (xs : List Char) :
    (quoted quote inner).find? (x :: xs) =
      if x = quote ∧ (xs.dropWhile inner.mem).head? = some quote then
        some (quote :: (xs.takeWhile inner.mem ++ [quote])) else none := by
  have hanchored : (quoted quote inner).isAnchored = true := rfl
  have haccepts : [0, 1].any (quoted quote inner).program.acceptsAt = false := rfl
  have hpreferred :
      ([0, 1].takeWhile fun a => !(quoted quote inner).program.acceptsAt a) = [0, 1] := rfl
  have hnext : [0, 1].filterMap ((quoted quote inner).program.afterReading x) =
      if x = quote then [2] else [] := by
    by_cases hx : x = quote <;>
      simp [program_quoted, Program.afterReading, CharSet.mem_single, hx]
  simp only [find?, hanchored, Program.matchAt?, Program.run, reach_quoted_start, haccepts,
    hpreferred, hnext]
  by_cases hx : x = quote
  · subst hx
    by_cases hend : (xs.dropWhile inner.mem).head? = some x
    · obtain ⟨rest, hrest⟩ := List.head?_eq_some_iff.1 hend
      have hprefix : xs.takeWhile inner.mem ++ [x] <+: xs := by
        refine ⟨rest, ?_⟩
        rw [List.append_assoc, List.singleton_append, ← hrest, List.takeWhile_append_dropWhile]
      have htake : xs.take ((xs.takeWhile inner.mem).length + 1) =
          xs.takeWhile inner.mem ++ [x] := by
        simpa using (List.prefix_iff_eq_take.1 hprefix).symm
      simp [run_quoted _ _ hquote, hend, Nat.add_comm 1, htake]
    · simp [run_quoted _ _ hquote, hend]
  · simp [hx]

end

end Pattern

namespace Lexer

open Vocabulary

/-! ### Kinds of characters -/

/-- The characters of a range are told by their code points. -/
theorem mem_range {first last : Nat} {c : Char} :
    (Pattern.CharSet.range first last).mem c = true ↔ first ≤ c.toNat ∧ c.toNat ≤ last := by
  simp [Pattern.CharSet.mem, Pattern.CharSet.between]

/-- The digits are those of the set in the pattern. -/
theorem mem_isDigit (c : Char) : (Pattern.CharSet.range 48 57).mem c = c.isDigit := by
  rw [Bool.eq_iff_iff, mem_range]
  simp [Char.isDigit, UInt32.le_iff_toNat_le]

/-- The letters are those of the set in the pattern. -/
theorem mem_isAlpha (c : Char) :
    (Pattern.CharSet.union (.range 65 90) (.range 97 122)).mem c = c.isAlpha := by
  have hupper : (Pattern.CharSet.range 65 90).mem c = c.isUpper := by
    rw [Bool.eq_iff_iff, mem_range]
    change _ ↔ decide ('A'.val ≤ c.val ∧ c.val ≤ 'Z'.val) = true
    simp [UInt32.le_iff_toNat_le]
  have hlower : (Pattern.CharSet.range 97 122).mem c = c.isLower := by
    rw [Bool.eq_iff_iff, mem_range]
    change _ ↔ (decide ('a'.val ≤ c.val) && decide (c.val ≤ 'z'.val)) = true
    simp [UInt32.le_iff_toNat_le]
  rw [Pattern.CharSet.mem, hupper, hlower]
  rfl

/-- A set of one character is told by comparing with it. -/
theorem mem_single_eq_beq (d c : Char) : (Pattern.CharSet.single d).mem c = (c == d) := by
  rw [Bool.eq_iff_iff, beq_iff_eq, Pattern.CharSet.mem_single]

/-- The characters that begin a name are those of the set in the pattern. -/
theorem mem_beginsName (c : Char) :
    (Pattern.CharSet.union (.union (.range 65 90) (.range 97 122)) (.range 95 95)).mem c =
      beginsName c := by
  have hunderscore : (Pattern.CharSet.range 95 95).mem c = (c == '_') := mem_single_eq_beq '_' c
  rw [Pattern.CharSet.mem, mem_isAlpha, hunderscore, beginsName]

/-- The characters that continue a name are those of the set in the pattern. -/
theorem mem_continuesName (c : Char) :
    (Pattern.CharSet.union (.union (.union (.range 65 90) (.range 97 122)) (.range 95 95))
      (.range 48 57)).mem c = continuesName c := by
  rw [Pattern.CharSet.mem, mem_beginsName, mem_isDigit, beginsName, continuesName, Char.isAlphanum]
  ac_rfl

/-! ### Quotes -/

/-- The first character behind a run without quotes is a quote, if there is a quote at all. -/
theorem head?_dropWhile_iff {c : Char} {cs : List Char} :
    (cs.dropWhile (· != c)).head? = some c ↔ cs.contains c = true := by
  induction cs with
  | nil => simp
  | cons d cs ih =>
    by_cases hd : d = c
    · subst hd
      simp
    · have hne : ¬ c = d := fun h => hd h.symm
      simpa [hd, hne] using ih

/-- A text that contains a character is cut by its first occurrence. -/
theorem exists_eq_takeWhile_append {c : Char} {cs : List Char} (h : cs.contains c = true) :
    ∃ rest, cs = cs.takeWhile (· != c) ++ c :: rest := by
  obtain ⟨rest, hrest⟩ := List.head?_eq_some_iff.1 (head?_dropWhile_iff.2 h)
  refine ⟨rest, ?_⟩
  rw [← hrest, List.takeWhile_append_dropWhile]

/-- The characters that are no quotes are those of the set in the pattern. -/
theorem mem_notQuote : (Pattern.CharSet.compl (.range 34 34)).mem = (· != '"') := by
  funext c
  have hquote : (Pattern.CharSet.range 34 34).mem c = (c == '"') := mem_single_eq_beq '"' c
  rw [Pattern.CharSet.mem, hquote]
  rfl

/-! ### What is decided -/

/-- **The token that begins with a character** is what the text begins with. -/
theorem dispatch_isPrefix (c : Char) (cs : List Char) : (dispatch c cs).text <+: c :: cs := by
  have hrun (p : Char → Bool) : c :: cs.takeWhile p <+: c :: cs :=
    List.cons_prefix_cons.2 ⟨rfl, List.takeWhile_prefix p⟩
  have hone : [c] <+: c :: cs := ⟨cs, rfl⟩
  unfold dispatch
  split
  · exact hone
  split
  · exact hone
  split
  · exact hrun _
  split
  · exact hrun _
  split
  · exact hrun _
  split
  · rename_i hquote
    obtain ⟨rest, hrest⟩ := exists_eq_takeWhile_append (Bool.and_eq_true_iff.1 hquote).2
    refine List.cons_prefix_cons.2 ⟨rfl, rest, ?_⟩
    rw [List.append_assoc, List.singleton_append]
    exact hrest.symm
  · exact hone

/-! ### What the patterns match -/

/-- A name is recognised by its first character, as far as it goes. -/
theorem front_identifier (c : Char) (cs : List Char) :
    identifier.front (c :: cs) =
      if beginsName c then c :: cs.takeWhile continuesName else [] := by
  have hfront : identifier.front (c :: cs) =
      ((Pattern.headed (.union (.union (.range 65 90) (.range 97 122)) (.range 95 95))
        (.union (.union (.union (.range 65 90) (.range 97 122)) (.range 95 95))
          (.range 48 57))).find? (c :: cs)).getD [] := rfl
  rw [hfront, Pattern.find?_headed, mem_beginsName, funext mem_continuesName]
  split <;> rfl

/-- A quoted text is recognised by its first character, up to the second quote. -/
theorem front_quotation (c : Char) (cs : List Char) :
    quotation.front (c :: cs) =
      if c = '"' && cs.contains '"' then c :: (cs.takeWhile (· != '"') ++ ['"']) else [] := by
  have hfront : quotation.front (c :: cs) =
      ((Pattern.quoted '"' (.compl (.range 34 34))).find? (c :: cs)).getD [] := rfl
  rw [hfront, Pattern.find?_quoted _ _ (by decide), mem_notQuote]
  simp only [head?_dropWhile_iff, Bool.and_eq_true, decide_eq_true_eq]
  by_cases hquote : c = '"' ∧ cs.contains '"' = true
  · rw [if_pos hquote, if_pos hquote, hquote.1]
    rfl
  · rw [if_neg hquote, if_neg hquote]
    rfl

/-- A whole number is recognised as far as its digits go. -/
theorem front_number (rest : List Char) : number.front rest = rest.takeWhile Char.isDigit := by
  have hspan : number.front rest = rest.takeWhile (Pattern.CharSet.range 48 57).mem :=
    front_span _ rest
  rw [hspan, funext mem_isDigit]

/-! ### Both ways -/

/-- Both ways recognise the same in front of a character that is neither a blank nor a
parenthesis. -/
theorem firstOf_atoms_eq_dispatch {c : Char} {cs : List Char} (hopening : ¬ c = '(')
    (hclosing : ¬ c = ')') (hblank : ¬ Text.isBlank c = true) :
    firstOf [identifier, quotation, number, unexpected] (c :: cs) = some (dispatch c cs) ∨
      ∃ run, unexpected.front (c :: cs) = c :: run ∧
        dispatch c cs = ⟨unexpected, [c], List.cons_ne_nil _ _⟩ ∧
        firstOf [identifier, quotation, number, unexpected] (c :: cs) =
          some ⟨unexpected, c :: run, List.cons_ne_nil _ _⟩ := by
  by_cases hname : beginsName c = true
  · left
    have hfront : identifier.front (c :: cs) = c :: cs.takeWhile continuesName := by
      rw [front_identifier, if_pos hname]
    simp only [dispatch, hopening, hclosing, hblank, hname, Bool.false_eq_true, if_true, if_false]
    exact firstOf_cons_of_ne_nil hfront _
  rw [firstOf_cons_of_eq_nil (by rw [front_identifier, if_neg hname])]
  by_cases hquote : (c = '"' && cs.contains '"') = true
  · left
    have hfront : quotation.front (c :: cs) = c :: (cs.takeWhile (· != '"') ++ ['"']) := by
      rw [front_quotation, if_pos hquote]
    -- The decision asks for digits first, and the patterns for quotes; a quote is no digit.
    have hdigit : ¬ c.isDigit = true := by
      obtain ⟨rfl, -⟩ : c = '"' ∧ cs.contains '"' = true := by simpa using hquote
      decide
    simp only [dispatch, hopening, hclosing, hblank, hname, hdigit, hquote, Bool.false_eq_true,
      if_true, if_false]
    exact firstOf_cons_of_ne_nil hfront _
  rw [firstOf_cons_of_eq_nil (by rw [front_quotation, if_neg hquote])]
  by_cases hdigit : c.isDigit = true
  · left
    have hfront : number.front (c :: cs) = c :: cs.takeWhile Char.isDigit := by
      rw [front_number, List.takeWhile_cons_of_pos hdigit]
    simp only [dispatch, hopening, hclosing, hblank, hname, hdigit, Bool.false_eq_true, if_true,
      if_false]
    exact firstOf_cons_of_ne_nil hfront _
  have hnumber : number.front (c :: cs) = [] := by
    rw [front_number, List.takeWhile_cons_of_neg hdigit]
  have hfront : unexpected.front (c :: cs) = c :: cs.takeWhile fun c => !Text.isBlank c := by
    rw [front_unexpected, List.takeWhile_cons_of_pos (by simp [hblank])]
  refine .inr ⟨_, hfront, ?_, ?_⟩
  · simp only [dispatch, hopening, hclosing, hblank, hname, hdigit, hquote, Bool.false_eq_true,
      if_false]
  · rw [firstOf_cons_of_eq_nil hnumber]
    exact firstOf_cons_of_ne_nil hfront _

/-- **Both ways recognise the same.** The first kind that matches is the one that the first
character decides for, with the same text; only of what is unexpected, the pattern takes all up to
the next blank, and the decision takes one character. -/
theorem firstOf_eq_dispatch (c : Char) (cs : List Char) :
    firstOf (.parens plainAtoms) (c :: cs) = some (dispatch c cs) ∨
      ∃ run, unexpected.front (c :: cs) = c :: run ∧
        dispatch c cs = ⟨unexpected, [c], List.cons_ne_nil _ _⟩ ∧
        firstOf (.parens plainAtoms) (c :: cs) =
          some ⟨unexpected, c :: run, List.cons_ne_nil _ _⟩ := by
  by_cases hopening : c = '('
  · subst hopening
    exact .inl (firstOf_opening plainAtoms cs)
  by_cases hclosing : c = ')'
  · subst hclosing
    exact .inl (firstOf_closing plainAtoms cs)
  by_cases hblank : Text.isBlank c = true
  · left
    have hfront : space.front (c :: cs) = c :: cs.takeWhile Text.isBlank := by
      rw [front_space, List.takeWhile_cons_of_pos hblank]
    simp only [dispatch, hopening, hclosing, hblank, if_true, if_false]
    exact firstOf_cons_of_ne_nil hfront _
  have hatoms : firstOf (.parens plainAtoms) (c :: cs) =
      firstOf [identifier, quotation, number, unexpected] (c :: cs) :=
    firstOf_parens_of_ne (Bool.eq_false_iff.2 hblank) hopening hclosing
  rw [hatoms]
  exact firstOf_atoms_eq_dispatch hopening hclosing hblank

end Lexer

end Parens
