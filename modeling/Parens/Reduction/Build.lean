import Parens.Tree

/-!
# Other Ways to Build Nodes

Two ways to make the nodes of a tree that differ from `Tree.create` in one case each.
-/

namespace Parens.Tree

variable {V : Type} [Scalar V]

/-- Builds every atom from the text of its value, also one without a value. -/
def createFromText : Content (Tree V) → Except Error (Tree V)
  | .value v => create (.value (.text v.render))
  | content => create content

/-- Refuses the empty list. -/
def createNonempty : Content (Tree V) → Except Error (Tree V)
  | .list [] => .error .notAtom
  | content => create content

end Parens.Tree
