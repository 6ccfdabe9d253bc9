import Parens.Json
import Parens.Position
import Parens.Tree

/-!
# How Data Looks in JSON

Values, trees, positions and nesting limits as documents, and back.

* A value is an object with one member, named for its type; the null value is the bare name
  `"Null"`, and a member of that name that holds a null is accepted too.
* A tree is an object with one member `Atom` or `List`; an atom without a scalar holds a null.
* A record is an object of its fields in any order, unknown names being passed over, or an
  array of exactly its fields.

Integers must be written as integers; floating-point numbers may be.
-/

namespace Parens

/-! ### Numbers -/

/-- An integer of 64 bits. -/
def Json.int64? : Json → Option Int64
  | .int n =>
    if -0x8000000000000000 ≤ n && n < 0x8000000000000000 then some (Int64.ofInt n) else none
  | _ => none

/-- A natural number of 64 bits. -/
def Json.nat? : Json → Option Nat
  | .int n => if 0 ≤ n && n < UInt64.size then some n.toNat else none
  | _ => none

/-- A floating-point number. -/
def Json.float? : Json → Option Float
  | .float x => some x
  | .int n => some (Float.ofInt n)
  | _ => none

/-! ### Values -/

/-- The document of a value. -/
def Value.toJson : Value → Json
  | .null => .text "Null"
  | .bool b => .object [("Bool", .bool b)]
  | .int n => .object [("Int", .int n.toInt)]
  | .float x => .object [("Float", .float x)]
  | .text s => .object [("Text", .text s)]

/-- The value of a document. -/
def Value.ofJson? : Json → Option Value
  | .text name => if name = "Null" then some .null else none
  | .object [(name, j)] =>
    if name = "Null" then match j with
      | .null => some .null
      | _ => none
    else if name = "Bool" then match j with
      | .bool b => some (.bool b)
      | _ => none
    else if name = "Int" then j.int64?.map .int
    else if name = "Float" then j.float?.map .float
    else if name = "Text" then match j with
      | .text s => some (.text s)
      | _ => none
    else none
  | _ => none

/-! ### Scalars and trees -/

/-- Scalars with a document form. -/
class JsonScalar (V : Type) where
  /-- The document of a scalar. -/
  toJson : V → Json
  /-- The scalar of a document. -/
  ofJson? : Json → Option V

instance : JsonScalar Value := ⟨Value.toJson, Value.ofJson?⟩

instance : JsonScalar Int64 := ⟨fun n => .int n.toInt, Json.int64?⟩

instance : JsonScalar String where
  toJson := .text
  ofJson?
    | .text s => some s
    | _ => none

namespace Tree

variable {V : Type} [JsonScalar V]

mutual

/-- The document of a tree. -/
def toJson : Tree V → Json
  | atom none => .object [("Atom", .null)]
  | atom (some v) => .object [("Atom", JsonScalar.toJson v)]
  | list cs => .object [("List", .array (toJsonAll cs))]

/-- The documents of a row of trees. -/
def toJsonAll : List (Tree V) → List Json
  | [] => []
  | t :: ts => t.toJson :: toJsonAll ts

end

/-- The leaf of a document. -/
def atomOfJson? : Json → Option (Tree V)
  | .null => some (atom none)
  | j => (JsonScalar.ofJson? j).map fun v => atom (some v)

mutual

/-- The tree of a document. -/
def ofJson? : Json → Option (Tree V)
  | .object [(name, j)] =>
    if name = "Atom" then atomOfJson? j
    else if name = "List" then ofList? j
    else none
  | _ => none

/-- The list node of an array of trees. -/
def ofList? : Json → Option (Tree V)
  | .array items => (ofItems? items).map list
  | _ => none

/-- The trees of a row of documents. -/
def ofItems? : List Json → Option (List (Tree V))
  | [] => some []
  | j :: js =>
    match ofJson? j, ofItems? js with
    | some t, some ts => some (t :: ts)
    | _, _ => none

end

end Tree

/-! ### Records -/

/-- The field of a record: absent if no member has the name, and wrong if several have it. -/
def Json.field? (members : List (String × Json)) (name : String) : Option (Option Json) :=
  match members.filter fun m => m.1 == name with
  | [] => some none
  | [m] => some (some m.2)
  | _ => none

/-- The document of a position. -/
def Position.toJson (p : Position) : Json :=
  .object [("offset", .int p.offset), ("line", .int p.line), ("column", .int p.column)]

/-- The position of a document. -/
def Position.ofJson? : Json → Option Position
  | .object members => do
    let offset ← (← (← Json.field? members "offset")).nat?
    let line ← (← (← Json.field? members "line")).nat?
    let column ← (← (← Json.field? members "column")).nat?
    return ⟨offset, line, column⟩
  | .array [offset, line, column] => do
    return ⟨← offset.nat?, ← line.nat?, ← column.nat?⟩
  | _ => none

/-- The document of a nesting limit. -/
def Json.ofLimit (limit : Option Nat) : Json :=
  .object [("max_depth", match limit with
    | some n => .int n
    | none => .null)]

/-- A limit, or a null for none. -/
def Json.bound? : Json → Option (Option Nat)
  | .null => some none
  | j => j.nat?.map some

/-- The nesting limit of a document. A missing field is no limit. -/
def Json.limit? : Json → Option (Option Nat)
  | .object members => do
    match ← Json.field? members "max_depth" with
    | none => return none
    | some j => j.bound?
  | .array [j] => j.bound?
  | _ => none

/-- The deepest nesting of arrays and objects that a value or a tree is read from. -/
def Json.nestingLimit : Nat := 127

/-- The document of a text, if it is not nested too deeply. -/
def Json.shallow? (j : Json) : Option Json :=
  if j.nesting ≤ Json.nestingLimit then some j else none

end Parens
