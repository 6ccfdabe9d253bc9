import Parens.Token.Kind

/-!
# Tokens

A token is a piece of the source with its kind and its place.
-/

namespace Parens

/-- A token. -/
structure Token where
  /-- The kind. -/
  kind : Kind
  /-- The text. -/
  text : List Char
  /-- Where the text begins. -/
  position : Position

namespace Token

/-- The token as a piece of source. -/
def lexeme (t : Token) : Lexeme := ⟨t.kind.toRule, t.text, t.position⟩

/-- The token in messages. -/
def render (t : Token) : String := t.lexeme.render

/-- Whether the token is of a kind. -/
def is (t : Token) (k : Kind) : Bool := t.kind.same k

/-- The value of the token. -/
def value (t : Token) : Except Error Value := t.kind.valueOf t.lexeme

/-- Where the source goes on behind the token. -/
def stop (t : Token) : Position := t.position.advance t.text

end Token

end Parens
