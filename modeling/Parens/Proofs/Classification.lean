import Parens.Proofs.Recognition

/-!
# What a Character Begins

A vocabulary is tried in order, and the first of its kinds that recognises anything at an offset
of the source takes its text (`Vocabulary.Matches`). If there is no such kind, the vocabulary fails
there (`Vocabulary.Fails`). This is said of any offset, inside a character and behind the end too,
where all kinds fail.

The vocabulary of list notation never fails in front of a character, whatever the kinds of atoms
are, and the character tells what is recognised (`Begins`). A blank begins a run of blanks, a
parenthesis stands for itself, and the kinds of atoms have their turn in front of anything else.
Where they fail, everything up to the next blank is unexpected.

## Main results

* `Lexer.matchNext_eq_some_iff`, `Lexer.matchNext_eq_none_iff`: a lexer that tries a vocabulary in
  order does so.
* `Lexer.exists_matchNext_begins`: **every character begins something**, and what it begins.
-/

namespace Parens

/-! ### Kinds in order -/

namespace Vocabulary

/-- **The first match** of a vocabulary at an offset of the source: its kind recognises its text
there, and the kinds in front of it recognise nothing. -/
def Matches (v : Vocabulary) (source : List Char) (offset : Nat) (m : Match) : Prop :=
  ∃ before behind, v = before ++ m.kind :: behind ∧ m.kind.matchAt source offset = m.text ∧
    ∀ k ∈ before, k.matchAt source offset = []

/-- No kind of a vocabulary recognises anything at an offset of the source. -/
def Fails (v : Vocabulary) (source : List Char) (offset : Nat) : Prop :=
  ∀ k ∈ v, k.matchAt source offset = []

variable {v : Vocabulary} {source : List Char} {offset : Nat} {m : Match}

/-- A vocabulary that has a match does not fail. -/
theorem Matches.not_fails (h : v.Matches source offset m) : ¬ v.Fails source offset := by
  obtain ⟨before, behind, rfl, htext, -⟩ := h
  intro hfails
  have hnil : m.kind.matchAt source offset = [] := hfails m.kind (by simp)
  exact m.text_ne_nil (htext.symm.trans hnil)

/-- The first of the matches of the kinds is the first match. -/
theorem findSome?_eq_some_iff :
    (v.findSome? fun k => Match.of? k (k.matchAt source offset)) = some m ↔
      v.Matches source offset m := by
  rw [List.findSome?_eq_some_iff]
  simp only [Match.of?_eq_some_iff, Match.of?_eq_none_iff]
  constructor
  · rintro ⟨before, k, behind, rfl, ⟨rfl, htext⟩, hbefore⟩
    exact ⟨before, behind, rfl, htext.symm, hbefore⟩
  · rintro ⟨before, behind, happ, htext, hbefore⟩
    exact ⟨before, m.kind, behind, happ, ⟨rfl, htext.symm⟩, hbefore⟩

/-- None of the kinds has a match exactly if the vocabulary fails. -/
theorem findSome?_eq_none_iff :
    (v.findSome? fun k => Match.of? k (k.matchAt source offset)) = none ↔
      v.Fails source offset := by
  simp only [List.findSome?_eq_none_iff, Match.of?_eq_none_iff, Fails]

end Vocabulary

namespace Lexer

variable {v atoms : Vocabulary} {source : List Char} {offset : Nat}

/-- A lexer that tries a vocabulary in order matches what the kinds recognise at the offset, also
where the source cannot be cut. -/
theorem matchNext_eq_findSome? (v : Vocabulary) (source : List Char) (offset : Nat) :
    (firstMatch v).matchNext source none offset =
      .ok (v.findSome? fun k => Match.of? k (k.matchAt source offset)) := by
  change Except.ok ((Text.dropBytes? offset source).bind (firstOf v)) = _
  simp only [Rule.matchAt]
  cases Text.dropBytes? offset source with
  | some rest => rfl
  | none =>
    have hnone : (v.findSome? fun k => Match.of? k []) = none :=
      List.findSome?_eq_none_iff.2 fun k _ => Match.of?_eq_none_iff.2 rfl
    simp only [hnone]
    rfl

/-- **A lexer that tries a vocabulary in order** finds the first match. -/
theorem matchNext_eq_some_iff {m : Match} :
    (firstMatch v).matchNext source none offset = .ok (some m) ↔ v.Matches source offset m := by
  rw [matchNext_eq_findSome?, ← Vocabulary.findSome?_eq_some_iff]
  exact ⟨Except.ok.inj, congrArg Except.ok⟩

/-- It finds nothing exactly if the vocabulary fails. -/
theorem matchNext_eq_none_iff :
    (firstMatch v).matchNext source none offset = .ok none ↔ v.Fails source offset := by
  rw [matchNext_eq_findSome?, ← Vocabulary.findSome?_eq_none_iff]
  exact ⟨Except.ok.inj, congrArg Except.ok⟩

/-! ### Characters -/

open Vocabulary

/-- What a character with some text behind it begins at an offset of the source, in list notation
over some kinds of atoms: the kind of a token and its text. -/
inductive Begins (atoms : Vocabulary) (source : List Char) (offset : Nat) (c : Char)
    (rest : List Char) : Kind → List Char → Prop
  /-- A blank begins the longest run of blanks. -/
  | blank : Text.isBlank c = true →
      Begins atoms source offset c rest space ((c :: rest).takeWhile Text.isBlank)
  /-- An opening parenthesis stands for itself. -/
  | opening : c = '(' → Begins atoms source offset c rest opening ['(']
  /-- A closing parenthesis stands for itself. -/
  | closing : c = ')' → Begins atoms source offset c rest closing [')']
  /-- Anything else begins an atom of the first kind that matches. -/
  | atom {m : Match} : Text.isBlank c = false → c ≠ '(' → c ≠ ')' →
      atoms.Matches source offset m → Begins atoms source offset c rest m.kind m.text
  /-- Where no kind matches, the longest run of anything but blanks is unexpected. -/
  | unexpected : Text.isBlank c = false → c ≠ '(' → c ≠ ')' → atoms.Fails source offset →
      Begins atoms source offset c rest unexpected
        ((c :: rest).takeWhile fun d => !Text.isBlank d)

/-- What begins with a blank or a parenthesis is neither an atom nor unexpected. -/
theorem Begins.kind_of_delimiter {c : Char} {rest text : List Char} {k : Kind}
    (h : Begins atoms source offset c rest k text)
    (hc : Text.isBlank c = true ∨ c = '(' ∨ c = ')') :
    k = Vocabulary.space ∨ k = Vocabulary.opening ∨ k = Vocabulary.closing := by
  have hother : Text.isBlank c = false → c ≠ '(' → c ≠ ')' → False := by
    intro hblank hopening hclosing
    obtain hc | hc | hc := hc
    · exact Bool.false_ne_true (hblank.symm.trans hc)
    · exact hopening hc
    · exact hclosing hc
  cases h with
  | blank _ => exact .inl rfl
  | opening _ => exact .inr (.inl rfl)
  | closing _ => exact .inr (.inr rfl)
  | atom hblank hopening hclosing _ => exact (hother hblank hopening hclosing).elim
  | unexpected hblank hopening hclosing _ => exact (hother hblank hopening hclosing).elim

/-- In front of a character that is neither a blank nor a parenthesis, the kinds of atoms are
tried, and then everything up to the next blank is unexpected. -/
theorem exists_firstOf_begins_of_ne {c : Char} {rest : List Char}
    (hahead : Text.dropBytes? offset source = some (c :: rest))
    (hblank : Text.isBlank c = false) (hopening : c ≠ '(') (hclosing : c ≠ ')') :
    ∃ m, firstOf (.parens atoms) (c :: rest) = some m ∧
      Begins atoms source offset c rest m.kind m.text := by
  rw [firstOf_parens_of_ne hblank hopening hclosing]
  have hmatchAt : ∀ k : Kind, k.matchAt source offset = k.front (c :: rest) := fun k => by
    rw [Rule.matchAt, hahead]
  have hatoms : firstOf atoms (c :: rest) =
      atoms.findSome? fun k => Match.of? k (k.matchAt source offset) := by
    simp only [hmatchAt]
    rfl
  have hrun : Vocabulary.unexpected.front (c :: rest) =
      (c :: rest).takeWhile fun d => !Text.isBlank d := front_unexpected _
  have hrun_ne : ((c :: rest).takeWhile fun d => !Text.isBlank d) ≠ [] := by
    rw [List.takeWhile_cons_of_pos (by simp [hblank])]
    exact List.cons_ne_nil _ _
  have happend : firstOf (atoms ++ [Vocabulary.unexpected]) (c :: rest) =
      (firstOf atoms (c :: rest)).or (firstOf [Vocabulary.unexpected] (c :: rest)) :=
    List.findSome?_append
  rw [happend]
  cases hfirst : firstOf atoms (c :: rest) with
  | some m =>
    rw [hatoms, findSome?_eq_some_iff] at hfirst
    exact ⟨m, rfl, .atom hblank hopening hclosing hfirst⟩
  | none =>
    rw [hatoms, findSome?_eq_none_iff] at hfirst
    refine ⟨_, firstOf_cons_of_ne_nil hrun hrun_ne, ?_⟩
    exact .unexpected hblank hopening hclosing hfirst

/-- The first kind of list notation that recognises anything in front of a character is what the
character begins. -/
theorem exists_firstOf_begins (atoms : Vocabulary) {c : Char} {rest : List Char}
    (hahead : Text.dropBytes? offset source = some (c :: rest)) :
    ∃ m, firstOf (.parens atoms) (c :: rest) = some m ∧
      Begins atoms source offset c rest m.kind m.text := by
  cases hblank : Text.isBlank c with
  | true =>
    have hspace : space.front (c :: rest) = (c :: rest).takeWhile Text.isBlank := front_space _
    have hne : (c :: rest).takeWhile Text.isBlank ≠ [] := by
      rw [List.takeWhile_cons_of_pos hblank]
      exact List.cons_ne_nil _ _
    exact ⟨_, firstOf_cons_of_ne_nil hspace hne, .blank hblank⟩
  | false =>
    by_cases hopening : c = '('
    · subst hopening
      exact ⟨_, firstOf_opening atoms rest, .opening rfl⟩
    by_cases hclosing : c = ')'
    · subst hclosing
      exact ⟨_, firstOf_closing atoms rest, .closing rfl⟩
    exact exists_firstOf_begins_of_ne hahead hblank hopening hclosing

/-- **Every character begins something.** In front of any character of a source, the lexer for list
notation over any kinds of atoms recognises what the character begins there: a run of blanks, a
parenthesis, an atom of the first kind that matches, or something unexpected. Where a blank or a
parenthesis stands, it is neither an atom nor unexpected. -/
theorem exists_matchNext_begins (atoms : Vocabulary) (front : List Char) (c : Char)
    (rest : List Char) :
    let source := front ++ c :: rest
    let offset := Text.byteSize front
    ∃ m, (ofAtoms atoms).matchNext source none offset = .ok (some m) ∧
      Begins atoms source offset c rest m.kind m.text ∧
      (Text.isBlank c = true ∨ c = '(' ∨ c = ')' →
        m.kind = space ∨ m.kind = opening ∨ m.kind = closing) := by
  intro source offset
  have hahead : Text.dropBytes? offset source = some (c :: rest) :=
    Text.dropBytes?_eq_some_iff.2 ⟨front, rfl, rfl⟩
  have hmatch : (ofAtoms atoms).matchNext source none offset =
      .ok (firstOf (.parens atoms) (c :: rest)) := by
    change Except.ok ((Text.dropBytes? offset source).bind _) = _
    rw [hahead]
    rfl
  obtain ⟨m, hfirst, hbegins⟩ := exists_firstOf_begins atoms hahead
  exact ⟨m, hmatch.trans (congrArg Except.ok hfirst), hbegins, hbegins.kind_of_delimiter⟩

end Lexer

end Parens
