import Parens.Position
import Parens.Value

/-!
# What Can Go Wrong

An `Error` is a cause. Its wording is `Error.message`, where in the source it arose is
`Error.position?` (the syntax of the source only), and `Error.severity` tells a source that is
no notation from a vocabulary or a tree that was used wrongly.

Where an expression is refused, the cause is the refusal alone. What its dialect has to say about
the fault in the expression is the dialect's own, and is part neither of the cause nor of the
wording.
-/

namespace Parens

/-- A cause of failure. -/
inductive Error where
  /-- The source is no notation: unrecognised text, an open list at the end, or text behind the
  expression. The diagnosis is complete and names the place. -/
  | malformed (diagnosis : String) (position : Position)
  /-- A list would be enclosed in `limit` lists or more. -/
  | tooDeep (limit : Nat) (position : Position)
  /-- A token kind that breaks a rule of construction. -/
  | badKind (label reason : String)
  /-- The pattern of a token kind is no regular expression of its dialect. What is wrong with the
  expression is left out. -/
  | badPattern (label : String)
  /-- The value of a token was asked for whose kind has no reading. -/
  | insignificant (label : String)
  /-- The reading of a token kind refused the text. -/
  | unreadable (label reason : String)
  /-- The value of a list was asked for. -/
  | notAtom
  /-- The children of an atom were asked for. -/
  | notList
  /-- A child was asked for that a list does not have. -/
  | outOfBounds (index length : Nat)
  /-- A value does not fit the scalar type. -/
  | mismatch (expected found : String)
deriving DecidableEq, Repr

/-- Who has to mend a failure. -/
inductive Severity where
  /-- The source: it is no notation. -/
  | fatal
  /-- The caller: the vocabulary or the tree was used wrongly. -/
  | usage
deriving DecidableEq, Repr

namespace Error

/-- The wording of a cause. The wording for an expression that was refused ends with the label, and
the dialect's own words, which go on from there, are left out. -/
def message : Error → String
  | malformed diagnosis _ => diagnosis
  | tooDeep limit position =>
    "nesting too deep: limit of " ++ limit.repr ++ " exceeded at " ++ position.render
  | badKind label reason => "invalid token type '" ++ label ++ "': " ++ reason
  | badPattern label => "invalid pattern for token type '" ++ label ++ "'"
  | insignificant label =>
    "token type '" ++ label ++ "' is non-significant and has no value"
  | unreadable label reason => "cannot map token '" ++ label ++ "': " ++ reason
  | notAtom => "expression is a list, not an atom"
  | notList => "expression is an atom, not a list"
  | outOfBounds index length =>
    "index out of bounds: " ++ index.repr ++ " for list of length " ++ length.repr
  | mismatch expected found =>
    "value conversion failed: expected " ++ expected ++ ", found " ++ found

/-- The place of a fault in the source. -/
def position? : Error → Option Position
  | malformed _ position => some position
  | tooDeep _ position => some position
  | _ => none

/-- Who has to mend the failure. -/
def severity : Error → Severity
  | malformed _ _ => .fatal
  | tooDeep _ _ => .fatal
  | unreadable _ _ => .fatal
  | _ => .usage

end Error

end Parens
