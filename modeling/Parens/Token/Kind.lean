import Parens.Token.Rule

/-!
# Kinds of Tokens

A `Kind` is a rule together with a reading, which makes a value of a piece of source that the
rule recognised. A kind without a reading is **insignificant**: its tokens carry no value, and
lexers pass over them on request.

Readings see a `Lexeme`: the rule, the text and its place. A `Token` is the same with the kind
in place of the rule.
-/

namespace Parens

/-- A piece of the source that a rule recognised. -/
structure Lexeme where
  /-- The rule. -/
  rule : Rule
  /-- The text. -/
  text : List Char
  /-- Where the text begins. -/
  position : Position

/-- A piece of source in messages: its text, or the rule in front of the text. -/
def Lexeme.render (l : Lexeme) : String :=
  if l.rule.isChar then String.ofList l.text
  else if l.rule.isPattern || l.text ≠ [] then l.rule.render ++ " " ++ String.ofList l.text
  else l.rule.render

/-- How a value is made of a piece of source. -/
abbrev Reading := Lexeme → Except Error Value

/-- A kind of tokens. -/
structure Kind extends Rule where
  /-- How a value is made of a token, if it has one. -/
  reading : Option Reading

namespace Kind

/-- The insignificant kind of a rule. -/
def ofRule (r : Rule) : Kind := ⟨r, none⟩

/-- Gives the kind a reading. It needs a label, which errors can name. -/
def withReading (k : Kind) (reading : Reading) : Except Error Kind :=
  if k.label = "" then
    .error (.badKind k.label "a mapped token type needs a non-empty label")
  else .ok { k with reading := some reading }

/-- Whether the tokens of the kind carry a value. -/
def significant (k : Kind) : Bool := k.reading.isSome

/-- Whether two kinds have the same label and recognise the same. -/
def same (a b : Kind) : Bool := a.toRule.same b.toRule

/-- The value of a piece of source by the kind's reading. -/
def valueOf (k : Kind) (l : Lexeme) : Except Error Value :=
  match k.reading with
  | some reading => reading l
  | none => .error (.insignificant k.label)

end Kind

end Parens
