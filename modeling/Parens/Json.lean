/-!
# JSON Data

The carrier format of trees and values. A `Json` is a document in memory, with one addition:
`unusable` stands for what is well formed as text but holds nothing, such as a number beyond
every float or a text with half a surrogate pair. Such a piece does no harm where nobody looks
at it.
-/

namespace Parens

/-- A JSON document. -/
inductive Json where
  /-- The null. -/
  | null
  /-- A truth value. -/
  | bool (b : Bool)
  /-- A number written without fraction and exponent. -/
  | int (n : Int)
  /-- Any other number. -/
  | float (x : Float)
  /-- A text. -/
  | text (s : String)
  /-- A row of documents. -/
  | array (items : List Json)
  /-- Named members, in the order written. -/
  | object (members : List (String × Json))
  /-- Well formed, but without a meaning. -/
  | unusable

namespace Json

mutual

/-- How many arrays and objects are open at the deepest place. -/
def nesting : Json → Nat
  | array items => nestingOfItems items + 1
  | object members => nestingOfMembers members + 1
  | _ => 0

/-- The nesting of the deepest item. -/
def nestingOfItems : List Json → Nat
  | [] => 0
  | j :: js => max j.nesting (nestingOfItems js)

/-- The nesting of the deepest member. -/
def nestingOfMembers : List (String × Json) → Nat
  | [] => 0
  | (_, j) :: ms => max j.nesting (nestingOfMembers ms)

end

end Json

end Parens
