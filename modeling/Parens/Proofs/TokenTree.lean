import Parens.Proofs.Verdict
import Parens.Tree

/-!
# Token Trees

The grammar of list notation, said about tokens alone: a `TokenTree` is an atom, or any number
of token trees between a token that opens a list and one that closes it. The proofs that its
tokens have these parts are part of the tree. Read from left to right it is a row of tokens
(`TokenTree.flatten`), and read as a value it is a tree of the values of its leaves
(`TokenTree.read`), unless one of them has none.
-/

namespace Parens

/-- A tree of tokens as list notation arranges them. -/
inductive TokenTree where
  /-- An atom. -/
  | leaf (t : Token) (atom : t.IsAtom)
  /-- A list, between the tokens that open and close it. -/
  | node (opening : Token) (children : List TokenTree) (closing : Token)
      (opens : opening.is Vocabulary.opening = true) (closes : closing.is Vocabulary.closing = true)

/-- Whether a number of nested lists keeps within a limit, if there is one. -/
def Within (limit : Option Nat) (depth : Nat) : Prop := ∀ n ∈ limit, depth ≤ n

/-- Less nesting keeps within the same limit. -/
theorem Within.mono {limit : Option Nat} {a b : Nat} (h : Within limit b) (hab : a ≤ b) :
    Within limit a :=
  fun n hn => Nat.le_trans hab (h n hn)

/-- Nesting that does not keep within a limit exceeds it. -/
theorem exists_lt_of_not_within {limit : Option Nat} {depth : Nat} (h : ¬ Within limit depth) :
    ∃ n, limit = some n ∧ n < depth := by
  cases limit with
  | none => exact absurd (fun n hn => by cases hn) h
  | some n =>
    refine ⟨n, rfl, Nat.lt_of_not_le fun hle => h fun m hm => ?_⟩
    obtain rfl := Option.some.inj hm
    exact hle

/-! ### What a verdict asks of a token -/

namespace Parser

variable {limit : Option Nat} {depth : Nat} {t : Token}

/-- The part that a token plays in a move. -/
def Move.role : Move → Role
  | .opening => .opening
  | .atom _ => .atom
  | .closing => .closing

/-- The move that a verdict accepts is one that the token can make. -/
theorem role_of_verdict {move : Move} (h : verdict limit depth t = .accepted move) :
    t.role = move.role := by
  unfold verdict at h
  split at h
  · split at h
    · split at h
      · cases h
      · obtain rfl := Verdict.accepted.inj h
        assumption
    · obtain rfl := Verdict.accepted.inj h
      assumption
  · split at h
    · cases h
    · obtain rfl := Verdict.accepted.inj h
      assumption
  · split at h
    · cases h
    · obtain rfl := Verdict.accepted.inj h
      assumption
  · cases h

/-- A list opens where the limit allows one more. -/
theorem verdict_eq_opening_iff :
    verdict limit depth t = .accepted .opening ↔
      t.is Vocabulary.opening = true ∧ Within limit (depth + 1) := by
  rw [← Token.role_eq_opening_iff]
  constructor
  · intro h
    have hrole : t.role = .opening := role_of_verdict h
    refine ⟨hrole, ?_⟩
    rintro n rfl
    simp only [verdict, hrole] at h
    split at h
    · cases h
    · omega
  · rintro ⟨hrole, hlimit⟩
    simp only [verdict, hrole]
    split
    · have := hlimit _ rfl
      rw [if_neg (by omega)]
    · rfl

/-- An atom is read wherever it has a value. -/
theorem verdict_eq_atom_iff {v : Value} :
    verdict limit depth t = .accepted (.atom v) ↔ t.IsAtom ∧ t.value = .ok v := by
  rw [← Token.role_eq_atom_iff]
  constructor
  · intro h
    have hrole : t.role = .atom := role_of_verdict h
    refine ⟨hrole, ?_⟩
    simp only [verdict, hrole] at h
    split at h
    · cases h
    · rename_i w hw
      obtain rfl := Move.atom.inj (Verdict.accepted.inj h)
      exact hw
  · rintro ⟨hrole, hvalue⟩
    simp only [verdict, hrole, hvalue]

/-- A list closes where one is open. -/
theorem verdict_eq_closing_iff :
    verdict limit depth t = .accepted .closing ↔
      t.is Vocabulary.closing = true ∧ 0 < depth := by
  rw [← Token.role_eq_closing_iff]
  constructor
  · intro h
    have hrole : t.role = .closing := role_of_verdict h
    refine ⟨hrole, ?_⟩
    simp only [verdict, hrole] at h
    split at h
    · cases h
    · omega
  · rintro ⟨hrole, hdepth⟩
    simp only [verdict, hrole]
    rw [if_neg (by omega)]

/-- An atom is unreadable where it has no value. -/
theorem verdict_eq_unreadable_iff {e : Error} :
    verdict limit depth t = .unreadable e ↔ t.IsAtom ∧ t.value = .error e := by
  rw [← Token.role_eq_atom_iff]
  constructor
  · intro h
    unfold verdict at h
    split at h
    · split at h
      · split at h <;> cases h
      · cases h
    · split at h
      · rename_i hrole _ e' hvalue
        obtain rfl := Verdict.unreadable.inj h
        exact ⟨hrole, hvalue⟩
      · cases h
    · split at h <;> cases h
    · cases h
  · rintro ⟨hrole, hvalue⟩
    simp only [verdict, hrole, hvalue]

/-- A list too many is too deep. -/
theorem verdict_eq_tooDeep {n : Nat} (hopens : t.is Vocabulary.opening = true) (hn : n ≤ depth) :
    verdict (some n) depth t = .tooDeep n := by
  rw [← Token.role_eq_opening_iff] at hopens
  simp only [verdict, hopens, if_pos hn]

/-- A token that is unexpected has no place in any expression. -/
theorem verdict_of_unexpected (h : t.is Vocabulary.unexpected = true) (limit : Option Nat)
    (depth : Nat) : verdict limit depth t = .unexpected := by
  rw [← Token.role_eq_stray_iff] at h
  simp only [verdict, h]

/-- A token that neither opens a list nor is an atom has no place at the top. -/
theorem verdict_top_eq_unexpected (hopens : ¬ t.is Vocabulary.opening = true) (hatom : ¬ t.IsAtom)
    (limit : Option Nat) : verdict limit 0 t = .unexpected := by
  rw [← Token.role_eq_opening_iff] at hopens
  rw [← Token.role_eq_atom_iff] at hatom
  unfold verdict
  cases hrole : t.role with
  | opening => exact absurd hrole hopens
  | atom => exact absurd hrole hatom
  | closing => rfl
  | stray => rfl

end Parser

/-- The parser for trees of scalars over some kinds of atoms, with a limit on the nesting. -/
def Parser.trees (V : Type) [Scalar V] (atoms : Vocabulary) (limit : Option Nat) :
    Parser (Tree V) :=
  ⟨atoms, Tree.create, limit⟩

namespace TokenTree

variable {V : Type} [Scalar V]

/-! ### Readings of a token tree -/

mutual

/-- The tokens of a tree from left to right. -/
def flatten : TokenTree → List Token
  | leaf t _ => [t]
  | node opening cs closing _ _ => opening :: (flattenAll cs ++ [closing])

/-- The tokens of a row of trees from left to right. -/
def flattenAll : List TokenTree → List Token
  | [] => []
  | g :: gs => g.flatten ++ flattenAll gs

end

mutual

/-- How many lists are nested in each other: none in an atom. -/
def depth : TokenTree → Nat
  | leaf _ _ => 0
  | node _ cs _ _ _ => 1 + depthOfAll cs

/-- The depth of the deepest tree, 0 if there is none. -/
def depthOfAll : List TokenTree → Nat
  | [] => 0
  | g :: gs => max g.depth (depthOfAll gs)

end

mutual

/-- The tree of the values of the leaves. It fails where a leaf has no value, or one that is no
scalar. -/
def read : TokenTree → Except Error (Tree V)
  | leaf t _ => do
    let v ← t.value
    Tree.create (.value v)
  | node _ cs _ _ _ => do
    let ts ← readAll cs
    return .list ts

/-- The trees of a row of token trees. -/
def readAll : List TokenTree → Except Error (List (Tree V))
  | [] => return []
  | g :: gs => do
    let t ← g.read
    let ts ← readAll gs
    return t :: ts

end

/-- No token tree is empty. -/
theorem flatten_ne_nil (g : TokenTree) : g.flatten ≠ [] := by
  cases g <;> simp [flatten]

/-! ### Inversion -/

/-- A sequence that succeeds does so in both parts. -/
theorem exists_of_bind_eq_ok {α β : Type} {x : Except Error α} {f : α → Except Error β} {b : β}
    (h : (x >>= f) = .ok b) : ∃ a, x = .ok a ∧ f a = .ok b := by
  cases x with
  | error e => simp [bind, Except.bind] at h
  | ok a => exact ⟨a, rfl, h⟩

/-- A leaf reads as an atom with its value, or without one if the value is null. -/
theorem read_leaf_eq_ok {t : Token} {h} {u : Tree V} (hread : (leaf t h).read = .ok u) :
    ∃ v, t.value = .ok v ∧ Tree.create (.value v) = .ok u := by
  rw [read] at hread
  exact exists_of_bind_eq_ok hread

/-- A node reads as the list of its children. -/
theorem read_node_eq_ok {opening closing : Token} {cs : List TokenTree} {ho hc} {u : Tree V}
    (hread : (node opening cs closing ho hc).read = .ok u) :
    ∃ ts, readAll cs = .ok ts ∧ u = .list ts := by
  rw [read] at hread
  obtain ⟨ts, hts, hu⟩ := exists_of_bind_eq_ok hread
  exact ⟨ts, hts, (Except.ok.inj hu).symm⟩

/-- An empty row reads as an empty row. -/
theorem readAll_nil_eq_ok {us : List (Tree V)} (hread : readAll [] = .ok us) : us = [] := by
  rw [readAll] at hread
  exact (Except.ok.inj hread).symm

/-- A row reads as the row of its trees. -/
theorem readAll_cons_eq_ok {g : TokenTree} {gs : List TokenTree} {us : List (Tree V)}
    (hread : readAll (g :: gs) = .ok us) :
    ∃ t ts, g.read = .ok t ∧ readAll gs = .ok ts ∧ us = t :: ts := by
  rw [readAll] at hread
  obtain ⟨t, ht, hread⟩ := exists_of_bind_eq_ok hread
  obtain ⟨ts, hts, hus⟩ := exists_of_bind_eq_ok hread
  exact ⟨t, ts, ht, hts, (Except.ok.inj hus).symm⟩

end TokenTree

end Parens
