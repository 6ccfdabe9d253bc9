import Parens.Pattern.Place
import Parens.Proofs.TokenStream

/-!
# What a Lexer for Lists Recognises

A lexer that tries a vocabulary in order sees only what lies ahead of it: `Ahead` says which text
that is, and `Lexer.firstOf` which match the lexer makes of it. The vocabulary of list notation
begins with the blanks and the parentheses, so these are recognised in front of everything else,
whatever the kinds of atoms are.

## Main results

* `Reads.cons_of_firstOf`, `peek_of_insignificant`: the first match is read, or passed over.
* `Reads.exists_firstOf`: what is read was the first match.
* `firstOf_opening`, `firstOf_closing`, `firstOf_space`: the punctuation of list notation.
* `Reads.behind_space`: a space between tokens is passed over.
* `takeWhile_isBlank_of_firstOf`: where anything but blanks is recognised, no blank stands.
-/

namespace Parens

/-! ### What lies ahead -/

/-- At the place `p` the rest of the source lies ahead. -/
def Ahead (source : List Char) (p : Position) (rest : List Char) : Prop :=
  Text.dropBytes? p.offset source = some rest

namespace Ahead

variable {source rest a b : List Char} {p : Position}

/-- The whole source lies ahead of its beginning. -/
theorem start (source : List Char) : Ahead source .start source :=
  Text.dropBytes?_eq_some_iff.2 ⟨[], rfl, rfl⟩

/-- A text lies ahead of where the text in front of it leads to. -/
theorem behind (front rest : List Char) :
    Ahead (front ++ rest) (Position.start.advance front) rest := by
  refine Text.dropBytes?_eq_some_iff.2 ⟨front, rfl, ?_⟩
  rw [Position.offset_advance]
  exact (Nat.zero_add _).symm

/-- A text that lies ahead can be moved past. -/
theorem advance (h : Ahead source p (a ++ b)) : Ahead source (p.advance a) b := by
  obtain ⟨front, rfl, hsize⟩ := Text.dropBytes?_eq_some_iff.1 h
  refine Text.dropBytes?_eq_some_iff.2 ⟨front ++ a, by simp, ?_⟩
  rw [Text.byteSize_append, hsize, Position.offset_advance]

/-- The rest of the source is what its size says. -/
theorem byteSize_eq (h : Ahead source p rest) :
    Text.byteSize source = p.offset + Text.byteSize rest := by
  obtain ⟨front, rfl, hsize⟩ := Text.dropBytes?_eq_some_iff.1 h
  rw [Text.byteSize_append, hsize]

/-- A place with something ahead lies inside the source. -/
theorem offset_lt (h : Ahead source p rest) (hne : rest ≠ []) :
    p.offset < Text.byteSize source := by
  have hsize := h.byteSize_eq
  have hpos := Text.byteSize_pos hne
  omega

end Ahead

namespace Lexer

variable {v atoms : Vocabulary} {source rest : List Char} {p : Position} {m : Match}

/-! ### Peeking at a match -/

/-- Nothing is recognised at the end of the source. -/
theorem peek_of_end {l : Lexer} (h : Ahead source p []) : l.peek source p = (.ok none, p) := by
  have hsize := h.byteSize_eq
  have hend : ¬ p.offset < Text.byteSize source := by
    simp only [Text.byteSize_nil] at hsize
    omega
  rw [peek, next, if_neg hend]

/-- A lexer that tries a vocabulary in order matches what lies ahead. -/
theorem matchNext_of_ahead (h : Ahead source p rest) :
    (firstMatch v).matchNext source none p.offset = .ok (firstOf v rest) := by
  have hmatch : (firstMatch v).matchNext source none p.offset =
      .ok ((Text.dropBytes? p.offset source).bind (firstOf v)) := rfl
  rw [hmatch, h]
  rfl

/-- A lexer that tries a vocabulary in order matches only what lies ahead. -/
theorem exists_firstOf_of_matchNext {offset : Nat}
    (h : (firstMatch v).matchNext source none offset = .ok (some m)) :
    ∃ rest, Text.dropBytes? offset source = some rest ∧ firstOf v rest = some m :=
  Option.bind_eq_some_iff.1 (Except.ok.inj h)

/-- **A significant match is the next token.** -/
theorem peek_of_firstOf (h : Ahead source p rest) (hne : rest ≠ [])
    (hm : firstOf v rest = some m) (hsig : m.kind.significant = true) :
    (firstMatch v).peek source p = (.ok (some ⟨m.kind, m.text, p⟩), p) := by
  have hnext : (firstMatch v).matchNext source none p.offset = .ok (some m) := by
    rw [matchNext_of_ahead h, hm]
  rw [peek, next, if_pos (h.offset_lt hne)]
  simp only [hnext, hsig]
  rfl

/-- **An insignificant match is passed over.** -/
theorem peek_of_insignificant (h : Ahead source p rest) (hne : rest ≠ [])
    (hm : firstOf v rest = some m) (hsig : m.kind.significant = false) :
    (firstMatch v).peek source p = (firstMatch v).peek source (p.advance m.text) := by
  have hnext : (firstMatch v).matchNext source none p.offset = .ok (some m) := by
    rw [matchNext_of_ahead h, hm]
  rw [peek, next, if_pos (h.offset_lt hne)]
  simp only [hnext, hsig]
  obtain ⟨hfound, hplace⟩ := next_congr (firstMatch v) source none true
    (Session.pass ⟨p, #[]⟩ (tokenAt ⟨p, #[]⟩ m)) ⟨p.advance m.text, #[]⟩ rfl
  exact Prod.ext hfound hplace

/-- **A significant match is read** in front of the tokens behind it. -/
theorem Reads.cons_of_firstOf {k : Kind} {text : List Char} {hne : text ≠ []} {ts : List Token}
    {q : Position} (h : Ahead source p (text ++ rest))
    (hm : firstOf v (text ++ rest) = some ⟨k, text, hne⟩) (hsig : k.significant = true)
    (hrest : Ahead source (p.advance text) rest →
      Reads (firstMatch v) source (p.advance text) ts q) :
    Reads (firstMatch v) source p (⟨k, text, p⟩ :: ts) q :=
  .cons (peek_of_firstOf h (List.append_ne_nil_of_left_ne_nil hne _) hm hsig) (hrest h.advance)

/-- **A token that is found** was matched where something lies ahead. -/
theorem exists_firstOf_of_next {s s' : Session} {t : Token}
    (h : (firstMatch v).next source none true s = (.ok (some t), s')) :
    ∃ c cs m, firstOf v (c :: cs) = some m ∧ m.kind = t.kind ∧ m.text = t.text ∧
      t.kind.significant = true := by
  cases settles_of_next h with
  | finds m hinside hm hskip =>
    have hsig : m.kind.significant = true := by simpa using hskip
    obtain ⟨rest, hdrop, hfirst⟩ := exists_firstOf_of_matchNext hm
    cases rest with
    | nil =>
      obtain ⟨front, rfl, hsize⟩ := Text.dropBytes?_eq_some_iff.1 hdrop
      rw [List.append_nil] at hinside
      omega
    | cons c cs => exact ⟨c, cs, m, hfirst, rfl, rfl, hsig⟩

/-- All tokens that are read were matched where something lies ahead. -/
theorem Reads.exists_firstOf {ts : List Token} {q : Position}
    (h : Reads (firstMatch v) source p ts q) {t : Token} (ht : t ∈ ts) :
    ∃ c cs m, firstOf v (c :: cs) = some m ∧ m.kind = t.kind ∧ m.text = t.text ∧
      t.kind.significant = true := by
  induction h with
  | nil p => cases ht
  | cons hpeek _ ih =>
    obtain rfl | hothers := List.mem_cons.1 ht
    · obtain ⟨s', hnext, -⟩ := exists_next_of_peek (s := ⟨_, #[]⟩) hpeek
      exact exists_firstOf_of_next hnext
    · exact ih hothers

/-! ### Kinds in order -/

/-- A kind that matches nothing gives way to the kinds behind it. -/
theorem firstOf_cons_of_eq_nil {k : Kind} (h : k.front rest = []) :
    firstOf (k :: v) rest = firstOf v rest := by
  have hmatch : Match.of? k (k.front rest) = none := Match.of?_eq_none_iff.2 h
  rw [firstOf, List.findSome?_cons, hmatch, firstOf]

/-- A kind that matches something comes before the kinds behind it. -/
theorem firstOf_cons_of_ne_nil {k : Kind} {text : List Char} (h : k.front rest = text)
    (hne : text ≠ []) : firstOf (k :: v) rest = some ⟨k, text, hne⟩ := by
  have hmatch : Match.of? k (k.front rest) = some ⟨k, text, hne⟩ :=
    Match.of?_eq_some_iff.2 ⟨rfl, h.symm⟩
  rw [firstOf, List.findSome?_cons, hmatch]

/-- A greedy repetition of a set is recognised as far as its characters go. -/
theorem front_span {label : String} {written : List Char} {set : Pattern.CharSet}
    (h : Pattern.anchored? written = some (.span set)) (rest : List Char) :
    Rule.front ⟨label, .standard written (.span set) h, none⟩ rest = rest.takeWhile set.mem := by
  have hfront : Rule.front ⟨label, .standard written (.span set) h, none⟩ rest =
      ((Pattern.span set).find? rest).getD [] := rfl
  rw [hfront, Pattern.find?_span]
  split
  · rename_i hnil
    rw [hnil]
    rfl
  · rfl

/-- A kind for one character recognises no other. -/
theorem front_char_of_ne {c d : Char} (h : d ≠ c) (rest : List Char) :
    Rule.front (.char c) (d :: rest) = [] := by
  simp [Rule.front, Rule.char, h]

/-! ### Blanks and parentheses -/

/-- Blanks are recognised as far as they go. -/
theorem front_space (rest : List Char) :
    Vocabulary.space.front rest = rest.takeWhile Text.isBlank :=
  front_span _ rest

/-- What no other kind takes is recognised as far as no blank stands. -/
theorem front_unexpected (rest : List Char) :
    Vocabulary.unexpected.front rest = rest.takeWhile fun c => !Text.isBlank c :=
  front_span _ rest

/-- In front of something that is no blank, the kinds behind the blanks are tried. -/
theorem firstOf_parens (h : rest.takeWhile Text.isBlank = []) :
    firstOf (.parens atoms) rest =
      firstOf (Vocabulary.opening :: Vocabulary.closing :: (atoms ++ [Vocabulary.unexpected]))
        rest :=
  firstOf_cons_of_eq_nil (by rw [front_space, h])

/-- In front of a character that is neither a blank nor a parenthesis, the kinds of atoms are
tried. -/
theorem firstOf_parens_of_ne {c : Char} {cs : List Char} (hblank : Text.isBlank c = false)
    (hopening : c ≠ '(') (hclosing : c ≠ ')') :
    firstOf (.parens atoms) (c :: cs) = firstOf (atoms ++ [Vocabulary.unexpected]) (c :: cs) := by
  have hnone : (c :: cs).takeWhile Text.isBlank = [] :=
    List.takeWhile_cons_of_neg (by rw [hblank]; decide)
  rw [firstOf_parens hnone, firstOf_cons_of_eq_nil (front_char_of_ne hopening cs),
    firstOf_cons_of_eq_nil (front_char_of_ne hclosing cs)]

/-- An opening parenthesis is recognised as such. -/
theorem firstOf_opening (atoms : Vocabulary) (rest : List Char) :
    firstOf (.parens atoms) ('(' :: rest) =
      some ⟨Vocabulary.opening, ['('], List.cons_ne_nil _ _⟩ :=
  firstOf_parens (List.takeWhile_cons_of_neg (by decide))

/-- A closing parenthesis is recognised as such. -/
theorem firstOf_closing (atoms : Vocabulary) (rest : List Char) :
    firstOf (.parens atoms) (')' :: rest) =
      some ⟨Vocabulary.closing, [')'], List.cons_ne_nil _ _⟩ :=
  firstOf_parens (List.takeWhile_cons_of_neg (by decide))

/-- A space in front of something else is recognised alone. -/
theorem firstOf_space (atoms : Vocabulary) (h : rest.takeWhile Text.isBlank = []) :
    firstOf (.parens atoms) (' ' :: rest) =
      some ⟨Vocabulary.space, [' '], List.cons_ne_nil _ _⟩ := by
  have hfront : Vocabulary.space.front (' ' :: rest) = [' '] := by
    rw [front_space, List.takeWhile_cons_of_pos (by decide), h]
  exact firstOf_cons_of_ne_nil hfront _

/-- **A space is passed over** in front of tokens, if no other blank follows it. -/
theorem Reads.behind_space {ts : List Token} {q : Position} (h : Ahead source p (' ' :: rest))
    (hblank : rest.takeWhile Text.isBlank = []) (hts : ts ≠ [])
    (hrest : Ahead source (p.advance [' ']) rest →
      Reads (ofAtoms atoms) source (p.advance [' ']) ts q) :
    Reads (ofAtoms atoms) source p ts q := by
  have hskip : (ofAtoms atoms).peek source p = (ofAtoms atoms).peek source (p.advance [' ']) :=
    peek_of_insignificant h (List.cons_ne_nil _ _) (firstOf_space atoms hblank) rfl
  exact (hrest (h.advance (a := [' ']))).of_peek_eq hts hskip

/-- **Blanks come first**: where something else is recognised, no blank stands. -/
theorem takeWhile_isBlank_of_firstOf (hm : firstOf (.parens atoms) rest = some m)
    (hkind : ¬ m.kind.same Vocabulary.space = true) : rest.takeWhile Text.isBlank = [] := by
  refine Decidable.byContradiction fun hblank => ?_
  have hspace : firstOf (.parens atoms) rest = some ⟨Vocabulary.space, _, hblank⟩ :=
    firstOf_cons_of_ne_nil (front_space rest) hblank
  obtain rfl := Option.some.inj (hm.symm.trans hspace)
  exact hkind (by simp [Kind.same, Rule.same])

end Lexer

end Parens
