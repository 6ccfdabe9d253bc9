import Parens.Session
import Parens.Vocabulary

/-!
# Lexers

A `Lexer` recognises the token at an offset of the source, by whatever means; what it can
recognise is its vocabulary. Asked for a token of one kind, every lexer tries just that kind.

`Lexer.next` looks at the next token without moving past it. Asked to, it first passes over
insignificant tokens, which is why it returns a session too. The recursion ends because no
match is empty: every token passed over moves the session towards the end of the source. The
same measure bounds all loops over `next`, by `offset_lt_of_next`.
-/

namespace Parens

/-- A kind with a text that it recognised. No match is empty. -/
structure Match where
  /-- The kind. -/
  kind : Kind
  /-- The text. -/
  text : List Char
  /-- The text is not empty. -/
  text_ne_nil : text ≠ []

/-- The match of a kind with a text, unless the text is empty. -/
def Match.of? (k : Kind) (text : List Char) : Option Match :=
  if h : text = [] then none else some ⟨k, text, h⟩

/-- The match of a kind and its text is made wherever the text is not empty. -/
theorem Match.of?_eq_some_iff {k : Kind} {text : List Char} {m : Match} :
    Match.of? k text = some m ↔ m.kind = k ∧ m.text = text := by
  unfold Match.of?
  split
  · rename_i hnil
    constructor
    · intro h
      cases h
    · rintro ⟨-, htext⟩
      exact absurd (htext.trans hnil) m.text_ne_nil
  · constructor
    · intro h
      obtain rfl := Option.some.inj h
      exact ⟨rfl, rfl⟩
    · rintro ⟨rfl, rfl⟩
      rfl

/-- There is no match exactly if the text is empty. -/
theorem Match.of?_eq_none_iff {k : Kind} {text : List Char} :
    Match.of? k text = none ↔ text = [] := by
  unfold Match.of?
  split <;> simp_all

/-- A means to recognise tokens. -/
structure Lexer where
  /-- What can be recognised, in order of priority. -/
  vocabulary : Vocabulary
  /-- The token at an offset of the source. -/
  recognize : List Char → Nat → Except Halt (Option Match)

namespace Lexer

/-- The first kind of a vocabulary that recognises something at the front of a text. -/
def firstOf (v : Vocabulary) (rest : List Char) : Option Match :=
  v.findSome? fun k => Match.of? k (k.front rest)

/-- The lexer that tries the kinds of a vocabulary in order. -/
def firstMatch (v : Vocabulary) : Lexer where
  vocabulary := v
  recognize source offset := .ok ((Text.dropBytes? offset source).bind (firstOf v))

/-- The lexer for list notation over some kinds of atoms. -/
def ofAtoms (atoms : Vocabulary) : Lexer := firstMatch (.parens atoms)

/-- The token at an offset of the source, of one kind if a kind is asked for. -/
def matchNext (l : Lexer) (source : List Char) (hint : Option Kind) (offset : Nat) :
    Except Halt (Option Match) :=
  match hint with
  | some k => .ok (Match.of? k (k.matchAt source offset))
  | none => l.recognize source offset

/-- The token of a match, where a session stands. -/
def tokenAt (s : Session) (m : Match) : Token := ⟨m.kind, m.text, s.position⟩

/-- A token of a match takes the session forward. -/
theorem offset_lt_consume (s : Session) (m : Match) :
    s.position.offset < (s.consume (tokenAt s m)).position.offset := by
  have := Text.byteSize_pos m.text_ne_nil
  simp only [Session.position_consume, tokenAt, Position.offset_advance]
  omega

/-- Looks at the next token, of one kind if a kind is asked for. With `skip`, the session moves
past the insignificant tokens in front of it. There is no token at the end of the source, and
none where nothing is recognised. -/
def next (l : Lexer) (source : List Char) (hint : Option Kind) (skip : Bool) (s : Session) :
    Except Halt (Option Token) × Session :=
  if s.position.offset < Text.byteSize source then
    match l.matchNext source hint s.position.offset with
    | .error halt => (.error halt, s)
    | .ok none => (.ok none, s)
    | .ok (some m) =>
      if skip && !m.kind.significant then l.next source hint skip (s.pass (tokenAt s m))
      else (.ok (some (tokenAt s m)), s)
  else (.ok none, s)
termination_by Text.byteSize source - s.position.offset
decreasing_by
  have := offset_lt_consume s m
  simp only [Session.position_consume, Session.position_pass] at this ⊢
  omega

/-- Looks for a token of each kind in turn, and stops at the first one found. -/
def nextAmong (l : Lexer) (source : List Char) (skip : Bool) :
    List Kind → Session → Except Halt (Option Token) × Session
  | [], s => (.ok none, s)
  | k :: ks, s =>
    match l.next source (some k) skip s with
    | (.ok none, s') => l.nextAmong source skip ks s'
    | found => found

/-! ### Progress -/

/-- **A token found can be consumed with progress.** It stands where the session now stands,
inside the source and not in front of where the session stood, and it has a text. -/
theorem next_eq_some {l : Lexer} {source : List Char} {hint : Option Kind} {skip : Bool}
    {s s' : Session} {t : Token} (h : l.next source hint skip s = (.ok (some t), s')) :
    t.position = s'.position ∧ t.text ≠ [] ∧
      s.position.offset ≤ s'.position.offset ∧ s'.position.offset < Text.byteSize source := by
  fun_induction l.next source hint skip s with
  | case1 s hlt halt hm => simp at h
  | case2 s hlt hm => simp at h
  | case3 s hlt m hm hskip ih =>
    have hstep := offset_lt_consume s m
    obtain ⟨h1, h2, h3, h4⟩ := ih h
    simp only [Session.position_consume, Session.position_pass] at hstep h3
    exact ⟨h1, h2, by omega, h4⟩
  | case4 s hlt m hm hskip =>
    simp only [Prod.mk.injEq, Except.ok.injEq, Option.some.injEq] at h
    obtain ⟨rfl, rfl⟩ := h
    exact ⟨rfl, m.text_ne_nil, Nat.le_refl _, hlt⟩
  | case5 s hlt => simp at h

/-- The measure of all loops over `next`: consuming a token found takes the session forward,
from a place inside the source. -/
theorem offset_lt_of_next {l : Lexer} {source : List Char} {hint : Option Kind} {skip : Bool}
    {s s' : Session} {t : Token} (h : l.next source hint skip s = (.ok (some t), s')) :
    s.position.offset < (s'.consume t).position.offset ∧
      s.position.offset < Text.byteSize source := by
  obtain ⟨-, htext, hle, hlt⟩ := next_eq_some h
  have := Text.byteSize_pos htext
  simp only [Session.position_consume, Position.offset_advance]
  omega

end Lexer

end Parens
