import Parens.Lexer.Direct
import Parens.Parser
import Parens.Text.Blank
import Parens.Text.Spaced

/-!
# Markup Documents

A document model read from list notation. A list whose first child is a list of one name is an
**element**: the name is its tag and the other children are its content. Quoted atoms are
**texts**, and texts of blanks only are dropped from lists. The outermost element is wrapped in
a **document**.

All of this happens in `Markup.reduce`, while the lists are read.
-/

namespace Parens.Markup

/-- A node of a markup document. -/
inductive Node where
  /-- A name, or nothing. -/
  | atom (name : Option String)
  /-- A list that is no element. -/
  | list (children : List Node)
  /-- A text. -/
  | text (s : String)
  /-- An element with its tag. -/
  | element (tag : String) (children : List Node)
  /-- A whole document. -/
  | document (root : Node)
deriving Inhabited

namespace Node

/-! ### Shape -/

/-- The node for a raw value or for the nodes of a list. -/
def create : Content Node → Except Error Node
  | .value .null => .ok (atom none)
  | .value (.text s) => .ok (atom (some s))
  | .value v => .ok (atom (some v.render))
  | .list children => .ok (list children)

/-- Whether the node is a name or a text. -/
def isAtom : Node → Bool
  | atom _ => true
  | text _ => true
  | _ => false

/-- The children of a list, of an element or of a document. -/
def children : Node → Except Error (List Node)
  | list cs => .ok cs
  | element _ cs => .ok cs
  | document root => .ok [root]
  | _ => .error .notList

/-- The number of children. -/
def length (n : Node) : Except Error Nat := n.children.map List.length

mutual

/-- The text of a node, with elements between tags. -/
def render : Node → String
  | atom (some name) => name
  | atom none => "null"
  | text s => s
  | list cs => "(" ++ Text.spaced (renderAll cs) ++ ")"
  | element tag cs =>
    if cs.isEmpty then "<" ++ tag ++ "/>"
    else "<" ++ tag ++ ">" ++ String.join (renderAll cs) ++ "</" ++ tag ++ ">"
  | document root => "(" ++ root.render ++ ")"

/-- The texts of a row of nodes. -/
def renderAll : List Node → List String
  | [] => []
  | n :: ns => n.render :: renderAll ns

end

/-- Whether the node is a text of blanks only. -/
def isBlankText : Node → Bool
  | text s => Text.trim s.toList == []
  | _ => false

/-- The name in a list of one name. -/
def tag? : Node → Option String
  | list [atom (some tag)] => some tag
  | _ => none

end Node

/-- A text without the quotes around it. -/
def unquote (s : String) : String := String.ofList (Text.trimBy (· == '"') s.toList)

/-- An element; at the top, a document that holds it. -/
def elementAt (outer : Option (List Node)) (tag : String) (children : List Node) : Node :=
  match outer with
  | none => .document (.element tag children)
  | some _ => .element tag children

/-- The reduction that makes markup documents. -/
def reduce : Reduction Node
  | outer, step =>
    match step with
    | .build (.value (.text s)) =>
      if s.toList.head? = some '"' then .ok (.text (unquote s))
      else .ok (.atom (some s))
    | .build (.list cs) => .ok (.list (cs.filter fun c => !c.isBlankText))
    | .build content => Node.create content
    | .finish (.list (first :: rest)) =>
      match first.tag? with
      | some tag => .ok (elementAt outer tag rest)
      | none => .ok (.list (first :: rest))
    | .finish node => .ok node

/-- Names and quoted texts, both taken as they stand. -/
def atoms : Vocabulary :=
  [{ Vocabulary.identifier with reading := some Reading.verbatim }, Vocabulary.quotation]

/-- The parser for markup documents. -/
def parser : Parser Node := .ofAtoms atoms Node.create

end Parens.Markup
