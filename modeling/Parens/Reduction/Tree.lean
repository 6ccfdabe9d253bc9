import Parens.Tree

/-!
# Reductions of Trees

Ready-made reductions over a given way to build nodes. Each changes one case, and leaves the
others to the plain reduction.
-/

namespace Parens.Reduction

variable {V : Type} [Scalar V]

/-- Whether a node is an atom with an integer. -/
def isInt : Tree V → Bool
  | .atom (some v) =>
    match Scalar.toValue v with
    | .int _ => true
    | _ => false
  | _ => false

/-- Builds lists without the integers among their children. -/
def dropInts (build : Content (Tree V) → Except Error (Tree V)) : Reduction (Tree V)
  | _, .build (.list cs) => build (.list (cs.filter fun c => !isInt c))
  | outer, step => plain build outer step

/-- Builds lists back to front. -/
def reversed (build : Content (Tree V) → Except Error (Tree V)) : Reduction (Tree V)
  | _, .build (.list cs) => build (.list cs.reverse)
  | outer, step => plain build outer step

/-- The children of a list, and any other node as it is. -/
def spread : Tree V → List (Tree V)
  | .list cs => cs
  | t => [t]

/-- Builds lists with the children of each child list in place of that list. -/
def splice (build : Content (Tree V) → Except Error (Tree V)) : Reduction (Tree V)
  | _, .build (.list cs) => build (.list (cs.flatMap spread))
  | outer, step => plain build outer step

/-- Appends to every text the number of nodes in front of it. -/
def indexSuffix (build : Content (Tree V) → Except Error (Tree V)) : Reduction (Tree V)
  | outer, .build (.value (.text s)) =>
    build (.value (.text (s ++ ((outer.map List.length).getD 0).repr)))
  | outer, step => plain build outer step

/-- Appends a given text to every text. -/
def suffix (context : String) (build : Content (Tree V) → Except Error (Tree V)) :
    Reduction (Tree V)
  | _, .build (.value (.text s)) => build (.value (.text (s ++ context)))
  | outer, step => plain build outer step

/-- Fails to build a given text. -/
def failToBuild (context : String) (build : Content (Tree V) → Except Error (Tree V)) :
    Reduction (Tree V)
  | outer, .build (.value (.text s)) =>
    if s = context then .error (.unreadable "reducer" s)
    else plain build outer (.build (.value (.text s)))
  | outer, step => plain build outer step

/-- Fails to finish a node with a given notation. -/
def failToFinish (context : String) (build : Content (Tree V) → Except Error (Tree V)) :
    Reduction (Tree V)
  | _, .finish node =>
    if node.render = context then .error (.mismatch context node.describe) else .ok node
  | outer, step => plain build outer step

/-- Finishes a list of one child as that child. -/
def collapse (build : Content (Tree V) → Except Error (Tree V)) : Reduction (Tree V)
  | _, .finish (.list [c]) => .ok c
  | outer, step => plain build outer step

/-- Finishes every node as a list that holds it. -/
def wrap (build : Content (Tree V) → Except Error (Tree V)) : Reduction (Tree V)
  | _, .finish node => .ok (.list [node])
  | outer, step => plain build outer step

/-- Finishes a node that equals one in front of it as an atom without a value. -/
def dedupe [BEq V] (build : Content (Tree V) → Except Error (Tree V)) : Reduction (Tree V)
  | outer, .finish node =>
    if (outer.getD []).any (· == node) then .ok (.atom none) else .ok node
  | outer, step => plain build outer step

/-- Finishes every list inside a list as its first child. -/
def headOnly (build : Content (Tree V) → Except Error (Tree V)) : Reduction (Tree V)
  | some _, .finish (.list cs) => (Tree.list cs).child 0
  | outer, step => plain build outer step

end Parens.Reduction
