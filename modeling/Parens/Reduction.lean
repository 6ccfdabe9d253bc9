import Parens.Error

/-!
# Reductions

Parsing hands every place of the grammar to a `Reduction` twice. First it asks it to **build**
a node from what the source holds there: a raw value, or the finished nodes of a list. Then it
asks it to **finish** the node that was built, and what comes back is the child that the
enclosing list receives.

Each time the reduction is told the nodes that stand in front of this one in the enclosing
list, or `none` if there is no enclosing list. The plain reduction builds by a given function
and leaves built nodes alone.
-/

namespace Parens

/-- What a node is built from. -/
inductive Content (E : Type) where
  /-- The raw value of an atom. -/
  | value (v : Value)
  /-- The finished nodes of a list. -/
  | list (children : List E)

/-- One of the two calls for a place of the grammar. -/
inductive Step (E : Type) where
  /-- Build a node. -/
  | build (content : Content E)
  /-- Finish the node that was built. -/
  | finish (node : E)

/-- How nodes are made: from the finished nodes in front, if a list encloses this place, and
the step to take. -/
abbrev Reduction (E : Type) := Option (List E) → Step E → Except Error E

/-- A call of a reduction. -/
structure Call (E : Type) where
  /-- The nodes in front of this one in the enclosing list. -/
  outer : Option (List E)
  /-- The step to take. -/
  step : Step E

/-- The reduction that builds by `build` and leaves built nodes alone. -/
def Reduction.plain {E : Type} (build : Content E → Except Error E) : Reduction E
  | _, .build content => build content
  | _, .finish node => .ok node

@[simp]
theorem Reduction.plain_build {E : Type} (build : Content E → Except Error E)
    (outer : Option (List E)) (content : Content E) :
    Reduction.plain build outer (.build content) = build content := rfl

@[simp]
theorem Reduction.plain_finish {E : Type} (build : Content E → Except Error E)
    (outer : Option (List E)) (node : E) :
    Reduction.plain build outer (.finish node) = .ok node := rfl

end Parens
