import Parens.Proofs.Pass

/-!
# The Grammar of List Notation

The parser accepts exactly the sources whose tokens are those of a token tree that keeps within
the limit and whose leaves all have values, and its result is the tree of these values. A source
that holds such a tree is parsed to it because a run over the tokens of a tree folds the tree
(`Parser.parse_eq_read`). The other way round, tokens that a pass goes through without finding
fault can be cut into trees: up to the end of the innermost open list they are a row of token
trees (`exists_forest`).

## Main results

* `exists_tokenTree`: tokens without fault are those of a token tree.
* `exists_tokenTree_of_parse`: a source that is parsed holds the tokens of a token tree.
* `parse_eq_ok_iff_tokenTree`: **the parser accepts exactly the notation of token trees**.
-/

namespace Parens

/-- A bound that holds of two numbers of nested lists holds of the larger one. -/
theorem Within.max {limit : Option Nat} {d a b : Nat} (ha : Within limit (d + a))
    (hb : Within limit (d + b)) : Within limit (d + max a b) := by
  intro n hn
  have := ha n hn
  have := hb n hn
  omega

namespace Parser

variable {limit : Option Nat} {lists : Nat} {stop : Position}

/-! ### From a pass to trees -/

/-- A pass without fault accepts its first token and goes on. -/
theorem exists_move_of_pass {t : Token} {ts : List Token} (hlimit : Within limit lists)
    (h : (Stage.reading lists).pass limit stop (t :: ts) = .ok ()) :
    ∃ move, verdict limit lists t = .accepted move ∧
      (move.stage lists).pass limit stop ts = .ok () := by
  rw [Stage.pass_cons, take_eq_stageOf t hlimit] at h
  obtain ⟨stage, hstage, hrest⟩ := TokenTree.exists_of_bind_eq_ok h
  cases hverdict : verdict limit lists t with
  | accepted move =>
    rw [hverdict] at hstage
    obtain rfl := Except.ok.inj hstage
    exact ⟨move, rfl, hrest⟩
  | unexpected | tooDeep | unreadable =>
    rw [hverdict] at hstage
    simp [stageOf] at hstage

/-- Every raw value is read as an atom. -/
theorem exists_read_leaf {t : Token} {v : Value} (atom : t.IsAtom) (hv : t.value = .ok v) :
    ∃ u : Tree Value, (TokenTree.leaf t atom).read = .ok u := by
  obtain ⟨u, hu⟩ := plain_total none (.build (.value v))
  refine ⟨u, ?_⟩
  rw [TokenTree.read, hv]
  exact hu

/-- **Tokens inside a list begin with a row of trees**, up to the token that closes the list.
Induction on the number of tokens: behind a list that closes, the row goes on. -/
theorem exists_forest {ts : List Token} (hlimit : Within limit (lists + 1))
    (h : (Stage.reading (lists + 1)).pass limit stop ts = .ok ()) :
    ∃ (gs : List TokenTree) (us : List (Tree Value)) (closing : Token) (rest : List Token),
      ts = TokenTree.flattenAll gs ++ closing :: rest ∧
      closing.is Vocabulary.closing = true ∧
      TokenTree.readAll gs = .ok us ∧
      Within limit (lists + 1 + TokenTree.depthOfAll gs) ∧
      (Stage.behind lists).pass limit stop rest = .ok () := by
  generalize hn : ts.length = n
  induction n using Nat.strongRecOn generalizing ts lists with
  | ind n ih =>
    cases ts with
    | nil =>
      rw [Stage.pass_nil] at h
      simp [Stage.finish] at h
    | cons t ts =>
      subst hn
      obtain ⟨move, hverdict, hrest⟩ := exists_move_of_pass hlimit h
      cases move with
      | closing =>
        obtain ⟨hclosing, -⟩ := verdict_eq_closing_iff.1 hverdict
        exact ⟨[], [], t, ts, rfl, hclosing, rfl, hlimit, hrest⟩
      | atom v =>
        obtain ⟨hatom, hv⟩ := verdict_eq_atom_iff.1 hverdict
        obtain ⟨u, hu⟩ := exists_read_leaf hatom hv
        obtain ⟨gs, us, closing, rest, rfl, hclosing, hus, hdepth, hgo⟩ :=
          ih ts.length (Nat.lt_succ_self _) hlimit hrest rfl
        refine ⟨.leaf t hatom :: gs, u :: us, closing, rest, rfl, hclosing, ?_, ?_, hgo⟩
        · rw [TokenTree.readAll, hu, hus]
          rfl
        · rw [TokenTree.depthOfAll, TokenTree.depth]
          exact Within.max hlimit hdepth
      | opening =>
        -- One row up to the end of the new list, and one behind it up to the end of this list.
        obtain ⟨hopening, hdeeper⟩ := verdict_eq_opening_iff.1 hverdict
        obtain ⟨gs, us, closing, rest, rfl, hclosing, hus, hdepth, hgo⟩ :=
          ih ts.length (Nat.lt_succ_self _) hdeeper hrest rfl
        obtain ⟨gs', us', closing', rest', rfl, hclosing', hus', hdepth', hgo'⟩ :=
          ih rest.length (by simp; omega) hlimit hgo rfl
        refine ⟨.node t gs closing hopening hclosing :: gs', .list us :: us', closing', rest', ?_,
          hclosing', ?_, ?_, hgo'⟩
        · simp [TokenTree.flattenAll, TokenTree.flatten]
        · rw [TokenTree.readAll, TokenTree.read, hus, hus']
          rfl
        · rw [TokenTree.depthOfAll, TokenTree.depth]
          exact Within.max (hdepth.mono (by omega)) hdepth'

/-- A complete expression has nothing behind it. -/
theorem eq_nil_of_pass_complete {ts : List Token}
    (h : Stage.complete.pass limit stop ts = .ok ()) : ts = [] := by
  cases ts with
  | nil => rfl
  | cons t ts =>
    rw [Stage.pass_cons] at h
    obtain ⟨stage, hstage, -⟩ := TokenTree.exists_of_bind_eq_ok h
    simp [Stage.take] at hstage

/-- **Tokens without fault are those of a token tree** that keeps within the limit and whose
leaves have values. -/
theorem exists_tokenTree {tokens : List Token} (h : diagnose limit tokens stop = .ok ()) :
    ∃ (g : TokenTree) (t : Tree Value), g.flatten = tokens ∧ Within limit g.depth ∧
      g.read = .ok t := by
  have hlimit : Within limit 0 := fun n _ => Nat.zero_le n
  cases tokens with
  | nil => cases h
  | cons t ts =>
    obtain ⟨move, hverdict, hrest⟩ := exists_move_of_pass hlimit h
    cases move with
    | closing => exact absurd (verdict_eq_closing_iff.1 hverdict).2 (Nat.lt_irrefl 0)
    | atom v =>
      obtain ⟨hatom, hv⟩ := verdict_eq_atom_iff.1 hverdict
      obtain ⟨u, hu⟩ := exists_read_leaf hatom hv
      obtain rfl := eq_nil_of_pass_complete hrest
      exact ⟨.leaf t hatom, u, rfl, hlimit, hu⟩
    | opening =>
      obtain ⟨hopening, hdeeper⟩ := verdict_eq_opening_iff.1 hverdict
      obtain ⟨gs, us, closing, rest, rfl, hclosing, hus, hdepth, hgo⟩ :=
        exists_forest hdeeper hrest
      obtain rfl := eq_nil_of_pass_complete hgo
      refine ⟨.node t gs closing hopening hclosing, .list us, rfl, ?_, ?_⟩
      · rw [TokenTree.depth]
        exact hdepth.mono (by omega)
      · rw [TokenTree.read, hus]
        rfl

/-! ### From a parse to trees -/

/-- A parse into trees of raw values that succeeds lets the pass over the tokens succeed. -/
theorem diagnose_eq_ok_of_parse {atoms : Vocabulary} {source : List Char} {tokens : List Token}
    {q : Position} {t : Tree Value}
    (hreads : (Lexer.ofAtoms atoms).Reads source .start tokens q)
    (hend : (Lexer.ofAtoms atoms).peek source q = (.ok none, stop))
    (h : (trees Value atoms limit).parse source = .ok t) : diagnose limit tokens stop = .ok () :=
  (exists_eq_ok_iff_of_map_eq
    (map_parseUsing_eq_diagnose (p := trees Value atoms limit) (s := .start) plain_total hreads
      hend)).1 ⟨t, h⟩

/-- **A source that is parsed holds the tokens of a token tree**, and the result is the tree of
its values. -/
theorem exists_tokenTree_of_parse {atoms : Vocabulary} {source : List Char} {tokens : List Token}
    {q : Position} {t : Tree Value}
    (hreads : (Lexer.ofAtoms atoms).Reads source .start tokens q)
    (hend : (Lexer.ofAtoms atoms).peek source q = (.ok none, stop))
    (h : (trees Value atoms limit).parse source = .ok t) :
    ∃ g : TokenTree, g.flatten = tokens ∧ Within limit g.depth ∧ g.read = .ok t := by
  obtain ⟨g, u, rfl, hlimit, hread⟩ := exists_tokenTree (diagnose_eq_ok_of_parse hreads hend h)
  have hparse := parse_eq_read (V := Value) hread hreads hend hlimit
  rw [h, hread] at hparse
  obtain rfl : t = u := Except.ok.inj hparse
  exact ⟨g, rfl, hlimit, hread⟩

/-- **The parser accepts exactly the notation of token trees.** Where the scan of a source lists
its tokens, the parse into trees of raw values succeeds with a tree if and only if the tokens are
those of a token tree, from left to right, that keeps within the limit and that reads as this
tree, so that each of its leaves has a value. -/
theorem parse_eq_ok_iff_tokenTree {atoms : Vocabulary} {source : List Char}
    {tokens : List Token} {s : Session} (limit : Option Nat) (t : Tree Value)
    (hscan : (Lexer.firstMatch (.parens atoms)).scan source .start = (.ok tokens, s)) :
    (trees Value atoms limit).parse source = .ok t ↔
      ∃ g : TokenTree, g.flatten = tokens ∧ Within limit g.depth ∧ g.read = .ok t := by
  obtain ⟨q, hreads, hend⟩ := Lexer.exists_reads_of_scan hscan
  constructor
  · intro h
    exact exists_tokenTree_of_parse hreads hend h
  · rintro ⟨g, rfl, hlimit, hread⟩
    have hparse := parse_eq_read (V := Value) hread hreads hend hlimit
    rw [hparse, hread]
    rfl

open Vocabulary in
/-- The tokens of `(12(7)())` are those of a list with an atom and two lists. -/
theorem parse_eq_list :
    ∃ tokens s,
      (Lexer.firstMatch (.parens [number])).scan
          ['(', '1', '2', '(', '7', ')', '(', ')', ')'] .start = (.ok tokens, s) ∧
      (trees Value [number] (some 2)).parse ['(', '1', '2', '(', '7', ')', '(', ')', ')'] =
        .ok (.list [.atom (some (.int 12)), .list [.atom (some (.int 7))], .list []]) := by
  have hreads : (Lexer.firstMatch (.parens [number])).Reads
      ['(', '1', '2', '(', '7', ')', '(', ')', ')'] .start
      (TokenTree.flatten (.node ⟨opening, ['('], ⟨0, 1, 1⟩⟩
        [.leaf ⟨number, ['1', '2'], ⟨1, 1, 2⟩⟩ (by decide),
          .node ⟨opening, ['('], ⟨3, 1, 4⟩⟩ [.leaf ⟨number, ['7'], ⟨4, 1, 5⟩⟩ (by decide)]
            ⟨closing, [')'], ⟨5, 1, 6⟩⟩ rfl rfl,
          .node ⟨opening, ['('], ⟨6, 1, 7⟩⟩ [] ⟨closing, [')'], ⟨7, 1, 8⟩⟩ rfl rfl]
        ⟨closing, [')'], ⟨8, 1, 9⟩⟩ rfl rfl)) ⟨9, 1, 10⟩ := by
    refine .cons_of_firstOf (.start _) rfl rfl fun h => ?_
    refine .cons_of_firstOf h rfl rfl fun h => ?_
    refine .cons_of_firstOf h rfl rfl fun h => ?_
    refine .cons_of_firstOf h rfl rfl fun h => ?_
    refine .cons_of_firstOf h rfl rfl fun h => ?_
    refine .cons_of_firstOf h rfl rfl fun h => ?_
    refine .cons_of_firstOf h rfl rfl fun h => ?_
    refine .cons_of_firstOf h rfl rfl fun h => ?_
    exact .nil _
  obtain ⟨s, hscan, -⟩ := Lexer.exists_scan_of_reads (s := .start) hreads (Lexer.peek_of_end rfl)
    (by decide)
  exact ⟨_, s, hscan, (parse_eq_ok_iff_tokenTree (some 2) _ hscan).2
    ⟨_, rfl, by simp [Within, TokenTree.depth, TokenTree.depthOfAll], rfl⟩⟩

end Parser

end Parens
