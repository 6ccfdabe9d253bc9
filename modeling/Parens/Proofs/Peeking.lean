import Parens.Proofs.Cover

/-!
# Looking Ahead

A search for a token looks ahead. It leaves a significant token where it is, and moves only past
the insignificant ones in front of it, if it was asked to. `Passes` says which these are: the lexer
matches one after the other, and each of them is insignificant. Where a search ends, either nothing
is left to be passed over, or nothing is to be passed over at all. So the same search, made again
from there, finds the same at once (`next_again`).

This is no matter of the vocabulary: it holds of every lexer, and of searches for one kind as well.
What the vocabulary matters for is that a search comes to an answer (`exists_next_of_ahead`). A
lexer that decides by the first character has none at an offset inside a character.

## Main results

* `exists_passes_of_next`: a search moves past insignificant matches only.
* `significant_of_next`, `exists_matchNext_of_next`: what is found is significant, and it is the
  match where the search ends.
* `next_stable`: all of this for the lexers at hand, which come to an answer.
-/

namespace Parens.Lexer

variable {l : Lexer} {source rest : List Char} {hint : Option Kind} {skip : Bool} {s s' : Session}
  {found : Except Halt (Option Token)}

/-! ### Where a search moves -/

/-- From a place on, a lexer passes over insignificant tokens up to another place: each is the match
where the one before it stopped, of one kind if a kind is asked for. -/
inductive Passes (l : Lexer) (source : List Char) (hint : Option Kind) :
    Position → List Token → Position → Prop
  /-- Nothing is passed over. -/
  | nil (p : Position) : Passes l source hint p [] p
  /-- An insignificant match is passed over, and then what stands behind it. -/
  | cons {p q : Position} {m : Match} {ts : List Token} :
      l.matchNext source hint p.offset = .ok (some m) → m.kind.significant = false →
      Passes l source hint (p.advance m.text) ts q →
      Passes l source hint p (⟨m.kind, m.text, p⟩ :: ts) q

/-- **A search moves past insignificant matches only.** -/
theorem exists_passes_of_next (h : l.next source hint skip s = (found, s')) :
    ∃ passed, l.Passes source hint s.position passed s'.position := by
  fun_induction l.next source hint skip s with
  | case3 s hlt m hm hskip ih =>
    obtain ⟨passed, hpassed⟩ := ih h
    have hinsignificant : m.kind.significant = false := by simp_all
    exact ⟨_, .cons hm hinsignificant hpassed⟩
  | case1 | case2 | case4 | case5 =>
    obtain rfl := (Prod.mk.inj h).2
    exact ⟨[], .nil _⟩

/-- A search that passes over nothing leaves the session alone. -/
theorem eq_of_next_false (h : l.next source hint false s = (found, s')) : s' = s := by
  fun_induction l.next source hint false s with
  | case3 s hlt m hm hskip ih => cases hskip
  | case1 | case2 | case4 | case5 => exact (Prod.mk.inj h).2.symm

/-- A search that passes over insignificant tokens finds a significant one. -/
theorem significant_of_next {t : Token} (h : l.next source hint true s = (.ok (some t), s')) :
    t.kind.significant = true := by
  cases settles_of_next h with
  | finds m hinside hm hskip => simpa [tokenAt] using hskip

/-- The token that a search finds is the match where the session then stands. -/
theorem exists_matchNext_of_next {t : Token}
    (h : l.next source hint skip s = (.ok (some t), s')) :
    ∃ m, l.matchNext source hint s'.position.offset = .ok (some m) ∧ t = tokenAt s' m := by
  cases settles_of_next h with
  | finds m hinside hm hskip => exact ⟨m, hm, rfl⟩

/-! ### Coming to an answer -/

/-- A search for a token of one kind comes to an answer, wherever the session stands. -/
theorem exists_next_of_hint (l : Lexer) (source : List Char) (k : Kind) (skip : Bool)
    (s : Session) : ∃ found s', l.next source (some k) skip s = (.ok found, s') := by
  obtain ⟨halt, s', h⟩ | ⟨s', h⟩ | ⟨t, s', h⟩ := l.next_cases source (some k) skip s
  · cases settles_of_next h with
    | halts hinside hm => cases hm
  · exact ⟨none, s', h⟩
  · exact ⟨some t, s', h⟩

/-- **Where the source can be cut, an anchored lexer comes to an answer.** The session goes on to a
place where the source can be cut, and faces the token found. -/
theorem exists_next_of_ahead (hl : l.Anchored) (skip : Bool) (h : Ahead source s.position rest) :
    ∃ found s', l.next source none skip s = (.ok found, s') ∧
      (∃ rest', Ahead source s'.position rest') ∧ ∀ t, found = some t → s'.Faces source t := by
  have hkind : ∀ k, (none : Option Kind) = some k → k.toRule.Anchored := fun k hk => by cases hk
  fun_induction l.next source none skip s generalizing rest with
  | case1 s hlt halt hm =>
    obtain ⟨found, hfound, -⟩ := exists_matchNext_of_ahead hl hkind h
    cases hfound.symm.trans hm
  | case2 | case5 => exact ⟨none, _, rfl, ⟨rest, h⟩, fun t ht => by cases ht⟩
  | case3 s hlt m hm hskip ih =>
    obtain ⟨found, hfound, hmatch⟩ := exists_matchNext_of_ahead hl hkind h
    obtain rfl := Except.ok.inj (hfound.symm.trans hm)
    obtain ⟨behind, rfl⟩ := hmatch m rfl
    exact ih (Ahead.advance h)
  | case4 s hlt m hm hskip =>
    obtain ⟨found, hfound, hmatch⟩ := exists_matchNext_of_ahead hl hkind h
    obtain rfl := Except.ok.inj (hfound.symm.trans hm)
    obtain ⟨behind, rfl⟩ := hmatch m rfl
    refine ⟨_, s, rfl, ⟨_, h⟩, fun t ht => ?_⟩
    obtain rfl := Option.some.inj ht
    exact ⟨rfl, behind, h⟩

/-- A lexer at hand comes to an answer. The one that decides by the first character does so in
front of the end of the source only where the source can be cut, if it is asked for a token of any
kind. -/
theorem exists_next_of_place (hl : l = .direct ∨ ∃ v, l = .firstMatch v) (skip : Bool)
    (hs : l = .direct → hint = none →
      Text.byteSize source ≤ s.position.offset ∨ ∃ rest, Ahead source s.position rest) :
    ∃ found s', l.next source hint skip s = (.ok found, s') := by
  cases hint with
  | some k => exact exists_next_of_hint l source k skip s
  | none =>
    obtain rfl | ⟨v, rfl⟩ := hl
    · obtain hend | ⟨rest, hahead⟩ := hs rfl rfl
      · exact ⟨none, s, by rw [next, if_neg (Nat.not_lt.2 hend)]⟩
      · obtain ⟨found, s', hnext, -⟩ := exists_next_of_ahead anchored_direct skip hahead
        exact ⟨found, s', hnext⟩
    · exact exists_next_firstMatch v source none skip s

/-- **A search looks ahead.** Let a lexer decide by the first character or try a vocabulary in
order, and let it be asked for the next token, of one kind or of any kind, wherever the session
stands. (The one that decides by the first character is not asked for any kind inside a
character.) It comes to an answer. If it is not to pass over anything, the session does not move.
Otherwise it moves only past insignificant matches, and the token found is significant. The token
is the match at the place where the session then stands. Asked again, the lexer gives the same
answer, and the session stays as it is. -/
theorem next_stable (hl : l = .direct ∨ ∃ v, l = .firstMatch v) (hint : Option Kind)
    (skip : Bool)
    (hs : l = .direct → hint = none →
      Text.byteSize source ≤ s.position.offset ∨ ∃ rest, Ahead source s.position rest) :
    ∃ found s', l.next source hint skip s = (.ok found, s') ∧
      (skip = false → s' = s) ∧
      (skip = true → (∃ passed, l.Passes source hint s.position passed s'.position) ∧
        ∀ t, found = some t → t.kind.significant = true) ∧
      (∀ t, found = some t → t.position = s'.position ∧
        ∃ m, l.matchNext source hint s'.position.offset = .ok (some m) ∧ t = tokenAt s' m) ∧
      l.next source hint skip s' = (.ok found, s') := by
  obtain ⟨found, s', hnext⟩ := exists_next_of_place hl skip hs
  refine ⟨found, s', hnext, ?_, ?_, ?_, next_again hnext⟩
  · rintro rfl
    exact eq_of_next_false hnext
  · rintro rfl
    refine ⟨exists_passes_of_next hnext, ?_⟩
    rintro t rfl
    exact significant_of_next hnext
  · rintro t rfl
    exact ⟨(next_eq_some hnext).1, exists_matchNext_of_next hnext⟩

open Vocabulary in
/-- Behind the parenthesis of `( 7` the lexer that decides by the first character passes over the
blank and finds the number, and finds it again from there. -/
theorem next_stable_behind_paren :
    ∃ s s' : Session, s.position = ⟨1, 1, 2⟩ ∧ Ahead ['(', ' ', '7'] s.position [' ', '7'] ∧
      direct.next ['(', ' ', '7'] none true s =
        (.ok (some ⟨number, ['7'], ⟨2, 1, 3⟩⟩), s') ∧
      s'.position = ⟨2, 1, 3⟩ ∧
      direct.next ['(', ' ', '7'] none true s' =
        (.ok (some ⟨number, ['7'], ⟨2, 1, 3⟩⟩), s') := by
  let s : Session := ⟨⟨1, 1, 2⟩, #[]⟩
  have hahead : Ahead ['(', ' ', '7'] s.position [' ', '7'] := rfl
  have hfound : (direct.next ['(', ' ', '7'] none true s).1 =
      .ok (some ⟨number, ['7'], ⟨2, 1, 3⟩⟩) := by
    have hblank : direct.matchNext ['(', ' ', '7'] none s.position.offset =
        .ok (some ⟨space, [' '], List.cons_ne_nil _ _⟩) := rfl
    rw [next, if_pos (by decide), hblank]
    simp only
    rw [next]
    rfl
  have hlexer : direct = .direct ∨ ∃ v, direct = .firstMatch v := .inl rfl
  obtain ⟨found, s', hnext, -, -, htoken, hagain⟩ :=
    next_stable hlexer none true fun _ _ => .inr ⟨_, hahead⟩
  rw [hnext] at hfound
  obtain rfl := Except.ok.inj hfound
  exact ⟨s, s', rfl, hahead, hnext, (htoken _ rfl).1.symm, hagain⟩

end Parens.Lexer
