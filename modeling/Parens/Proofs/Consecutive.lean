import Parens.Proofs.Grammar

/-!
# Expressions One after the Other

A parser can read one expression and leave the lexer behind it, so that the next expression is read
from there (`Parser.parseRoots`). This works because reading an expression takes exactly its tokens:
the lexer looks no further than the last one, and stops right behind it, in front of the blanks that
may follow. What a scan from there lists are the tokens of the expressions to come.

`Consecutive` says this of one outcome after the other, as long as the tokens ahead begin with those
of token trees. The induction is on the trees, and the step is the run over the tokens of one tree.

## Main results

* `Lexer.Reads.eq_stop`: reading ends where the last token stops.
* `TokenTree.exists_read_of_values`: where all atoms have values, a token tree reads as a tree.
* `parseRoots_consecutive`: **consecutive expressions** are read one after the other.
-/

namespace Parens

/-! ### Where reading ends -/

namespace Lexer

variable {l : Lexer} {source : List Char}

/-- **Reading ends where the last token stops.** -/
theorem Reads.eq_stop {p q : Position} {ts : List Token} (h : l.Reads source p ts q)
    (hts : ts ≠ []) : q = (ts.getLast hts).stop := by
  induction h with
  | nil p => exact absurd rfl hts
  | @cons p q t ts _ hrest ih =>
    cases ts with
    | nil => exact hrest.nil_inv.symm
    | cons u us =>
      rw [List.getLast_cons (List.cons_ne_nil u us)]
      exact ih (List.cons_ne_nil u us)

/-- A scan that succeeds ends at the end of the source. -/
theorem byteSize_le_of_scan {s s' : Session} {tokens : List Token}
    (h : l.scan source s = (.ok tokens, s')) : Text.byteSize source ≤ s'.position.offset := by
  fun_induction l.scan source s generalizing tokens s' with
  | case1 s s₁ halt hnext => cases (Prod.mk.inj h).1
  | case2 s s₁ hnext =>
    obtain ⟨-, rfl⟩ := eq_of_finishScan h
    refine Nat.le_of_not_lt fun hlt => ?_
    rw [finishScan, if_pos hlt] at h
    split at h <;> cases (Prod.mk.inj h).1
  | case3 s t s₁ hnext found s₂ hscan ih =>
    obtain ⟨hfound, rfl⟩ := Prod.mk.inj h
    cases found with
    | error halt => cases hfound
    | ok ts => exact ih hscan

end Lexer

/-! ### Token trees with values -/

namespace TokenTree

mutual

/-- A token tree whose atoms all have values reads as a tree of raw values. -/
theorem exists_read_of_values (g : TokenTree)
    (h : ∀ t ∈ g.flatten, t.IsAtom → ∃ v, t.value = .ok v) :
    ∃ u : Tree Value, g.read = .ok u := by
  cases g with
  | leaf t atom =>
    obtain ⟨v, hv⟩ := h t (by simp [flatten]) atom
    exact Parser.exists_read_leaf atom hv
  | node opening gs closing opens closes =>
    obtain ⟨us, hus⟩ := exists_readAll_of_values gs fun t ht => h t (by simp [flatten, ht])
    refine ⟨.list us, ?_⟩
    rw [read, hus]
    rfl

/-- A row of token trees whose atoms all have values reads as a row of trees. -/
theorem exists_readAll_of_values (gs : List TokenTree)
    (h : ∀ t ∈ flattenAll gs, t.IsAtom → ∃ v, t.value = .ok v) :
    ∃ us : List (Tree Value), readAll gs = .ok us := by
  cases gs with
  | nil => exact ⟨[], rfl⟩
  | cons g gs =>
    obtain ⟨u, hu⟩ := exists_read_of_values g fun t ht => h t (by simp [flattenAll, ht])
    obtain ⟨us, hus⟩ := exists_readAll_of_values gs fun t ht => h t (by simp [flattenAll, ht])
    refine ⟨u :: us, ?_⟩
    rw [readAll, hu, hus]
    rfl

end

/-- Where a token tree stops: where its last token does. -/
def stop (g : TokenTree) : Position := (g.flatten.getLast g.flatten_ne_nil).stop

end TokenTree

namespace Parser

variable {E : Type}

/-! ### One after the other -/

/-- Reads a number of expressions one after the other with the same lexer: what each of them comes
to, and the session behind it. -/
def parseRoots (p : Parser E) (reduction : Reduction E) (l : Lexer) (source : List Char) :
    Nat → Session → List (Except Halt E × Session)
  | 0, _ => []
  | n + 1, s =>
    let (result, st) := p.parseRoot reduction l source s
    (result, st.session) :: p.parseRoots reduction l source n st.session

/-- Some token trees were read one after the other, in front of the rest of the tokens: each of them
with its tree as the result, and behind each of them the lexer stands where its last token stops,
with the tokens of the trees to come and the rest ahead. -/
inductive Consecutive (l : Lexer) (source : List Char) (rest : List Token) :
    List TokenTree → List (Except Halt (Tree Value) × Session) → Prop
  /-- No tree is left. -/
  | nil : Consecutive l source rest [] []
  /-- The next tree is read, and then the others. -/
  | cons {g : TokenTree} {gs : List TokenTree} {t : Tree Value} {s s' : Session}
      {outcomes : List (Except Halt (Tree Value) × Session)} :
      g.read = .ok t → s.position = g.stop →
      l.scan source s = (.ok (TokenTree.flattenAll gs ++ rest), s') →
      Consecutive l source rest gs outcomes →
      Consecutive l source rest (g :: gs) ((.ok t, s) :: outcomes)

/-- **Consecutive expressions.** Where a scan lists the tokens of some token trees and then others,
and the trees keep within the limit and all their atoms have values, as many expressions are read
from the same place on, one after the other with the same lexer and the plain reduction. The results
are the trees of the values in order. Behind each of them the lexer stands right where the last
token stops, so that the tokens still to be read are those of the trees to come and then the
others. -/
theorem parseRoots_consecutive (atoms : Vocabulary) (limit : Option Nat) {l : Lexer}
    {source : List Char} {gs : List TokenTree} {rest : List Token} {s s' : Session}
    (hscan : l.scan source s = (.ok (TokenTree.flattenAll gs ++ rest), s'))
    (hlimit : ∀ g ∈ gs, Within limit g.depth)
    (hvalues : ∀ t ∈ TokenTree.flattenAll gs, t.IsAtom → ∃ v, t.value = .ok v) :
    Consecutive l source rest gs
      ((trees Value atoms limit).parseRoots (.plain Tree.create) l source gs.length s) := by
  induction gs generalizing s s' with
  | nil => exact .nil
  | cons g gs ih =>
    obtain ⟨hg, hgs⟩ := List.forall_mem_cons.1 hlimit
    obtain ⟨t, hread⟩ := g.exists_read_of_values fun t ht =>
      hvalues t (by simp [TokenTree.flattenAll, ht])
    have hend := Lexer.byteSize_le_of_scan hscan
    obtain ⟨q, hreads, hpeek⟩ := Lexer.exists_reads_of_scan hscan
    rw [TokenTree.flattenAll, List.append_assoc] at hreads
    obtain ⟨r, htree, hothers⟩ := hreads.split
    obtain ⟨st, hparse, rfl⟩ := exists_parseRoot_of_flatten (trees Value atoms limit)
      (.plain Tree.create) hread htree hg ((Reduction.fst_fold_plain hread).trans hread)
    obtain ⟨s₁, hscan', -⟩ := Lexer.exists_scan_of_reads hothers hpeek hend
    have hstop : st.session.position = g.stop := htree.eq_stop g.flatten_ne_nil
    rw [List.length_cons, parseRoots, hparse]
    exact .cons hread hstop hscan' (ih hscan' hgs fun t ht =>
      hvalues t (by simp [TokenTree.flattenAll, ht]))

open Vocabulary in
/-- From `(7) 12(`, the list `(7)` is read, and then the number 12. The list still open behind
them is left alone. -/
theorem parseRoots_list_and_number :
    ∃ (s' : Session) (gs : List TokenTree) (rest : List Token),
      (Lexer.ofAtoms [number]).scan ['(', '7', ')', ' ', '1', '2', '('] .start =
        (.ok (TokenTree.flattenAll gs ++ rest), s') ∧
      gs.length = 2 ∧ rest = [⟨opening, ['('], ⟨6, 1, 7⟩⟩] ∧
      Consecutive (.ofAtoms [number]) ['(', '7', ')', ' ', '1', '2', '('] rest gs
        ((trees Value [number] (some 1)).parseRoots (.plain Tree.create) (.ofAtoms [number])
          ['(', '7', ')', ' ', '1', '2', '('] 2 .start) := by
  let list : TokenTree := .node ⟨opening, ['('], ⟨0, 1, 1⟩⟩
    [.leaf ⟨number, ['7'], ⟨1, 1, 2⟩⟩ (by decide)] ⟨closing, [')'], ⟨2, 1, 3⟩⟩ rfl rfl
  let twelve : TokenTree := .leaf ⟨number, ['1', '2'], ⟨4, 1, 5⟩⟩ (by decide)
  have hreads : (Lexer.ofAtoms [number]).Reads ['(', '7', ')', ' ', '1', '2', '('] .start
      (TokenTree.flattenAll [list, twelve] ++ [⟨opening, ['('], ⟨6, 1, 7⟩⟩]) ⟨7, 1, 8⟩ := by
    refine .cons_of_firstOf (.start _) rfl rfl fun h => ?_
    refine .cons_of_firstOf h rfl rfl fun h => ?_
    refine .cons_of_firstOf h rfl rfl fun h => ?_
    refine .behind_space h rfl (List.cons_ne_nil _ _) fun h => ?_
    refine .cons_of_firstOf h rfl rfl fun h => ?_
    refine .cons_of_firstOf h rfl rfl fun h => ?_
    exact .nil _
  obtain ⟨s', hscan, -⟩ := Lexer.exists_scan_of_reads (s := .start) hreads
    (Lexer.peek_of_end rfl) (by decide)
  refine ⟨s', _, _, hscan, rfl, rfl, parseRoots_consecutive [number] (some 1) hscan ?_ ?_⟩
  · intro g hg n hn
    obtain rfl : 1 = n := by simpa using hn
    simp only [List.mem_cons, List.not_mem_nil, or_false] at hg
    obtain rfl | rfl := hg
    · exact Nat.le_refl 1
    · exact Nat.zero_le 1
  · intro t ht atom
    simp only [TokenTree.flattenAll, TokenTree.flatten, list, twelve, List.append_nil,
      List.cons_append, List.nil_append, List.mem_cons, List.not_mem_nil, or_false] at ht
    obtain rfl | rfl | rfl | rfl := ht
    · exact absurd atom (by decide)
    · exact ⟨.int 7, rfl⟩
    · exact absurd atom (by decide)
    · exact ⟨.int 12, rfl⟩

end Parser

end Parens
