import Parens.Reduction
import Parens.Scalar
import Parens.Text.Spaced

/-!
# Trees of Scalars

The default result of parsing: a tree whose leaves are **atoms**, each with a scalar or with
nothing, and whose inner nodes are **lists**. A tree has two texts. `Tree.render` is its
notation, which the parser reads back wherever the vocabulary reads the atoms back;
`Tree.describe` is meant for people and names the type of every atom.

Functions on trees go hand in hand with a function on the children of a list, so that both are
plain recursion on the data.
-/

namespace Parens

/-- A tree with scalars of type `V` at its leaves. -/
inductive Tree (V : Type) where
  /-- A leaf, with a scalar or with nothing. -/
  | atom (value : Option V)
  /-- A list of trees. -/
  | list (children : List (Tree V))
deriving Inhabited

namespace Tree

variable {V : Type}

/-! ### Building -/

/-- The node for a raw value or for the nodes of a list. A null value is the leaf without a
scalar, in every scalar type. -/
def create [Scalar V] : Content (Tree V) → Except Error (Tree V)
  | .value .null => .ok (atom none)
  | .value v => (Scalar.ofValue v).map fun s => atom (some s)
  | .list children => .ok (list children)

/-! ### Shape -/

/-- Whether the node is a leaf. -/
def isAtom : Tree V → Bool
  | atom _ => true
  | list _ => false

/-- The children of a list. -/
def children : Tree V → Except Error (List (Tree V))
  | atom _ => .error .notList
  | list cs => .ok cs

/-- The scalar of a leaf, if it has one. -/
def value : Tree V → Except Error (Option V)
  | atom v => .ok v
  | list _ => .error .notAtom

/-- The number of children of a list. -/
def length (t : Tree V) : Except Error Nat :=
  t.children.map List.length

/-- One child of a list, counted from 0. -/
def child (t : Tree V) (index : Nat) : Except Error (Tree V) :=
  match t.children with
  | .error e => .error e
  | .ok cs =>
    match cs[index]? with
    | some c => .ok c
    | none => .error (.outOfBounds index cs.length)

/-- The node that a path of child numbers leads to. -/
def descend (t : Tree V) : List Nat → Except Error (Tree V)
  | [] => .ok t
  | index :: path =>
    match t.child index with
    | .error e => .error e
    | .ok c => c.descend path

mutual

/-- The nesting depth: 0 for a leaf, and one more than the deepest child for a list. -/
def depth : Tree V → Nat
  | atom _ => 0
  | list cs => 1 + depthOfAll cs

/-- The depth of the deepest tree, 0 if there is none. -/
def depthOfAll : List (Tree V) → Nat
  | [] => 0
  | t :: ts => max t.depth (depthOfAll ts)

end

mutual

/-- Equality of trees, with scalars compared by their own `==`. -/
protected def beq [BEq V] : Tree V → Tree V → Bool
  | atom a, atom b => a == b
  | list as, list bs => beqAll as bs
  | _, _ => false

/-- Equality of two rows of trees. -/
def beqAll [BEq V] : List (Tree V) → List (Tree V) → Bool
  | [], [] => true
  | a :: as, b :: bs => Tree.beq a b && beqAll as bs
  | _, _ => false

end

instance [BEq V] : BEq (Tree V) := ⟨Tree.beq⟩

/-! ### Texts -/

/-- The notation of a leaf. -/
def renderAtom [Scalar V] : Option V → String
  | none => "null"
  | some v => (Scalar.toValue v).render

mutual

/-- The notation of a tree: a list stands in parentheses, with single spaces between its
children. -/
def render [Scalar V] : Tree V → String
  | atom v => renderAtom v
  | list cs => "(" ++ Text.spaced (renderAll cs) ++ ")"

/-- The notations of a row of trees. -/
def renderAll [Scalar V] : List (Tree V) → List String
  | [] => []
  | t :: ts => t.render :: renderAll ts

end

/-- The diagnostic text of a leaf: the type of its scalar, and its notation in braces. -/
def describeAtom [Scalar V] : Option V → String
  | none => Scalar.nullName V ++ "\x7bnull\x7d"
  | some v => Scalar.typeName v ++ "\x7b" ++ (Scalar.toValue v).render ++ "\x7d"

mutual

/-- The diagnostic text of a tree: a list stands in parentheses with a space inside each. -/
def describe [Scalar V] : Tree V → String
  | atom v => describeAtom v
  | list cs => "( " ++ Text.spaced (describeAll cs) ++ " )"

/-- The diagnostic texts of a row of trees. -/
def describeAll [Scalar V] : List (Tree V) → List String
  | [] => []
  | t :: ts => t.describe :: describeAll ts

end

/-! ### The companions are maps -/

theorem renderAll_eq_map [Scalar V] (ts : List (Tree V)) : renderAll ts = ts.map render := by
  induction ts with
  | nil => rfl
  | cons t ts ih => rw [renderAll, ih, List.map_cons]

theorem describeAll_eq_map [Scalar V] (ts : List (Tree V)) :
    describeAll ts = ts.map describe := by
  induction ts with
  | nil => rfl
  | cons t ts ih => rw [describeAll, ih, List.map_cons]

/-- A bound holds for a row of trees exactly when it holds for each. -/
theorem depthOfAll_le_iff {ts : List (Tree V)} {n : Nat} :
    depthOfAll ts ≤ n ↔ ∀ t ∈ ts, t.depth ≤ n := by
  induction ts with
  | nil => simp [depthOfAll]
  | cons t ts ih => rw [depthOfAll, Nat.max_le, ih, List.forall_mem_cons]

end Tree

end Parens
