import Parens.Proofs.Classification
import Parens.Proofs.Fold
import Parens.Proofs.Tiling

/-!
# What a Successful Parse Read

Behind an expression a parse looks for one more token, and succeeds if there is none. There is
none at the end of the source, but also none where the lexer recognises nothing. So a parse that
succeeds read the source up to such a place (`parseUsing_reads_to_end`).

The vocabulary of list notation recognises something in front of every character: blanks, or the
kind of what no other kind took. So does the lexer that decides by the first character
(`Lexer.total_ofAtoms`, `Lexer.total_direct`), and a parse with one of them succeeds only if it
read the whole source. With a vocabulary that leaves something out, significant text behind the
expression may go unnoticed (`exists_parseUsing_stops_short`).

## Main results

* `parseUsing_reads_to_end`: a successful parse read the source up to its end, or up to a place
  where nothing is recognised.
* `exists_parseUsing_stops_short`: the latter happens.
-/

namespace Parens

namespace Lexer

variable {l : Lexer} {source : List Char}

/-- A lexer is total if it recognises something in front of every character. -/
def Total (l : Lexer) : Prop :=
  ∀ source offset c cs, Text.dropBytes? offset source = some (c :: cs) →
    l.recognize source offset ≠ .ok none

/-- Where a search finds nothing, the source ends, or nothing is recognised. -/
theorem next_eq_none {hint : Option Kind} {skip : Bool} {s s' : Session}
    (h : l.next source hint skip s = (.ok none, s')) :
    Text.byteSize source ≤ s'.position.offset ∨
      l.matchNext source hint s'.position.offset = .ok none := by
  cases settles_of_next h with
  | fails hinside hm => exact .inr hm
  | ends hend => exact .inl hend

/-- The lexer for list notation is total, whatever the kinds of atoms are. -/
theorem total_ofAtoms (atoms : Vocabulary) : (ofAtoms atoms).Total := by
  intro source offset c cs hdrop hnone
  obtain ⟨m, hfirst, -⟩ := exists_firstOf_begins atoms hdrop
  simp only [ofAtoms, firstMatch, hdrop] at hnone
  cases hfirst.symm.trans (Except.ok.inj hnone)

/-- The lexer that decides by the first character is total. -/
theorem total_direct : direct.Total := by
  intro source offset c cs hdrop hnone
  simp only [direct, hdrop] at hnone
  cases Except.ok.inj hnone

end Lexer

namespace Parser

variable {E : Type} {p : Parser E} {reduction : Reduction E} {l : Lexer} {source : List Char}

/-- Behind a successful parse the lexer found nothing. -/
theorem exists_next_of_parseUsing {s : Session} {root : E} {st : State E}
    (h : p.parseUsing reduction l source s = (.ok root, st)) :
    ∃ s₀ s₁, l.next source none true s₀ = (.ok none, s₁) ∧
      st.session.position = s₁.position := by
  rw [parseUsing_eq_conclude] at h
  generalize p.run reduction l source (begin l source s) = outcome at h
  obtain ⟨result, st₀⟩ := outcome
  cases result with
  | error halt => cases halt <;> cases (Prod.mk.inj h).1
  | ok node =>
    change finish l source node st₀ = (.ok root, st) at h
    obtain ⟨halt, s₁, hnext⟩ | ⟨s₁, hnext⟩ | ⟨t, s₁, hnext⟩ :=
      l.next_cases source none true st₀.session
    · rw [finish_eq_done node hnext] at h
      cases (Prod.mk.inj h).1
    · rw [finish_eq_ok node hnext] at h
      obtain rfl := (Prod.mk.inj h).2
      exact ⟨_, s₁, hnext, rfl⟩
    · rw [finish_eq_error node hnext] at h
      cases (Prod.mk.inj h).1

/-- **A source that holds the tokens of a tree**, and nothing behind them that is recognised, is
parsed with success, if the reduction has no objection. The lexer stops where it found nothing
more. -/
theorem exists_parseUsing_eq_ok (p : Parser E) (reduction : Reduction E) {s : Session}
    {g : TokenTree} {t : Tree Value} {q stop : Position} {root : E} (hread : g.read = .ok t)
    (hreads : l.Reads source s.position g.flatten q)
    (hend : l.peek source q = (.ok none, stop)) (hlimit : Within p.maxDepth g.depth)
    (hroot : (reduction.fold t).1 = .ok root) :
    ∃ st, p.parseUsing reduction l source s = (.ok root, st) ∧ st.session.position = stop := by
  obtain ⟨st, hrun, hq⟩ : ∃ st, p.run reduction l source (begin l source s) = (.ok root, st) ∧
      st.session.position = q :=
    exists_parseRoot_of_flatten p reduction hread hreads hlimit hroot
  rw [← hq] at hend
  obtain ⟨s', hnext, hs'⟩ := Lexer.exists_next_of_peek hend
  refine ⟨{ st with session := s'.note (.parsed s'.position) }, ?_, hs'⟩
  rw [parseUsing_eq_conclude, hrun]
  exact finish_eq_ok root hnext

/-- **A successful parse reads to the end.** With a lexer at hand, what a successful parse read is
the source up to its end, or else up to a place where the lexer recognises nothing. With a lexer
for list notation, or the one that decides by the first character, it is the whole source. -/
theorem parseUsing_reads_to_end (hl : l.Standard) {root : E} {st : State E}
    (h : p.parseUsing reduction l source .start = (.ok root, st)) :
    st.session.Tiles source ∧
      (st.session.position.offset = Text.byteSize source ∨
        l.recognize source st.session.position.offset = .ok none) ∧
      ((l = .direct ∨ ∃ atoms, l = .ofAtoms atoms) →
        st.session.position.offset = Text.byteSize source ∧ st.session.readText = source) := by
  have htiles : st.session.Tiles source := by
    have hparse : (p.parseUsing reduction l source .start).2.session.Tiles source :=
      (parseUsing_tiles hl.anchored (Session.tiles_start source)).2
    rwa [h] at hparse
  obtain ⟨rest, hahead⟩ := htiles.exists_ahead
  have hsize := hahead.byteSize_eq
  obtain ⟨s₀, s₁, hnext, hplace⟩ := exists_next_of_parseUsing h
  have hstop := Lexer.next_eq_none hnext
  rw [← hplace] at hstop
  have hend : st.session.position.offset = Text.byteSize source ∨
      l.recognize source st.session.position.offset = .ok none :=
    hstop.imp_left fun hle => Nat.le_antisymm (by omega) hle
  refine ⟨htiles, hend, fun hlist => ?_⟩
  have htotal : l.Total := by
    obtain rfl | ⟨atoms, rfl⟩ := hlist
    · exact Lexer.total_direct
    · exact Lexer.total_ofAtoms atoms
  cases rest with
  | nil =>
    refine ⟨hsize.symm, ?_⟩
    have hsource := htiles.source_eq hahead
    rw [List.append_nil] at hsource
    exact hsource.symm
  | cons c cs =>
    obtain hoffset | hnone := hend
    · have hlt := hahead.offset_lt (List.cons_ne_nil c cs)
      omega
    · exact absurd hnone (htotal source _ c cs hahead)

open Vocabulary in
/-- The list `(7)` with a line feed behind it is read to the end. -/
theorem parseUsing_reads_list :
    ∃ st : State (Tree Value),
      (Lexer.ofAtoms [number]).Standard ∧
      (trees Value [number] none).parseUsing (.plain Tree.create) (.ofAtoms [number])
        ['(', '7', ')', '\n'] .start = (.ok (.list [.atom (some (.int 7))]), st) ∧
      st.session.position.offset = 4 ∧ st.session.readText = ['(', '7', ')', '\n'] := by
  have hlexer : (Lexer.ofAtoms [number]).Standard :=
    Lexer.standard_ofAtoms fun k hk => anchored_plainAtoms k (by simp_all [plainAtoms])
  have hreads : (Lexer.ofAtoms [number]).Reads ['(', '7', ')', '\n'] .start
      (TokenTree.flatten (.node ⟨opening, ['('], ⟨0, 1, 1⟩⟩
        [.leaf ⟨number, ['7'], ⟨1, 1, 2⟩⟩ (by decide)] ⟨closing, [')'], ⟨2, 1, 3⟩⟩ rfl rfl))
      ⟨3, 1, 4⟩ := by
    refine .cons_of_firstOf (.start _) rfl rfl fun h => ?_
    refine .cons_of_firstOf h rfl rfl fun h => ?_
    refine .cons_of_firstOf h rfl rfl fun h => ?_
    exact .nil _
  have hahead : Ahead ['(', '7', ')', '\n'] ⟨3, 1, 4⟩ ['\n'] := rfl
  have hfirst : Lexer.firstOf (.parens [number]) ['\n'] =
      some ⟨space, ['\n'], List.cons_ne_nil _ _⟩ := rfl
  have hblank : (Lexer.ofAtoms [number]).peek ['(', '7', ')', '\n'] ⟨3, 1, 4⟩ =
      (Lexer.ofAtoms [number]).peek ['(', '7', ')', '\n'] ⟨4, 2, 1⟩ :=
    Lexer.peek_of_insignificant hahead (List.cons_ne_nil _ _) hfirst rfl
  have hend := hblank.trans (Lexer.peek_of_end rfl)
  obtain ⟨st, hparse, -⟩ := exists_parseUsing_eq_ok (trees Value [number] none)
    (.plain Tree.create) (s := .start) rfl hreads hend (fun n hn => by cases hn) rfl
  obtain ⟨-, -, hall⟩ := parseUsing_reads_to_end hlexer hparse
  obtain ⟨hoffset, hread⟩ := hall (.inr ⟨_, rfl⟩)
  exact ⟨st, hlexer, hparse, hoffset, hread⟩

open Vocabulary in
/-- **A successful parse may stop short.** A vocabulary of parentheses alone is anchored, and with
it `()x` is parsed to an empty list. The lexer stops in front of the `x`. -/
theorem exists_parseUsing_stops_short :
    ∃ (root : Tree Value) (st : State (Tree Value)),
      (Lexer.firstMatch [opening, closing]).Standard ∧
      (trees Value [] none).parseUsing (.plain Tree.create) (.firstMatch [opening, closing])
        ['(', ')', 'x'] .start = (.ok root, st) ∧
      st.session.position.offset ≠ Text.byteSize ['(', ')', 'x'] := by
  have hlexer : (Lexer.firstMatch [opening, closing]).Standard :=
    .firstMatch fun k hk => by
      simp only [List.mem_cons, List.not_mem_nil, or_false] at hk
      obtain rfl | rfl := hk <;> exact Rule.anchored_of_char rfl
  have hreads : (Lexer.firstMatch [opening, closing]).Reads ['(', ')', 'x'] .start
      (TokenTree.flatten (.node ⟨opening, ['('], ⟨0, 1, 1⟩⟩ [] ⟨closing, [')'], ⟨1, 1, 2⟩⟩ rfl rfl))
      ⟨2, 1, 3⟩ := by
    refine .cons_of_firstOf (.start _) rfl rfl fun h => ?_
    refine .cons_of_firstOf h rfl rfl fun h => ?_
    exact .nil _
  have hend : (Lexer.firstMatch [opening, closing]).peek ['(', ')', 'x'] ⟨2, 1, 3⟩ =
      (.ok none, ⟨2, 1, 3⟩) := by
    rw [Lexer.peek, Lexer.next]
    rfl
  obtain ⟨st, hparse, hstop⟩ := exists_parseUsing_eq_ok (trees Value [] none)
    (.plain Tree.create) (s := .start) rfl hreads hend (fun n hn => by cases hn) rfl
  refine ⟨_, st, hlexer, hparse, ?_⟩
  rw [hstop]
  decide

end Parser

end Parens
