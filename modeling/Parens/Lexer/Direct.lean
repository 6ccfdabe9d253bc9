import Parens.Lexer

/-!
# A Lexer That Decides by the First Character

A lexer for identifiers, texts in quotes and whole numbers that tries no pattern: the first
character tells what kind of token it begins, and a simple scan finds the end. The same kinds
are also written as patterns, and both ways are meant to lead to the same trees.

Where nothing else begins, a single character is unexpected. The source is cut at the offset
first, so an offset inside a character is an error of its own.
-/

namespace Parens

namespace Vocabulary

/-- A name: a letter of ASCII or an underscore, then also digits. The name `null` has no
value. -/
def identifier : Kind :=
  ⟨⟨"identifier",
    .standard "[A-Za-z_][A-Za-z_0-9]*".toList
      (.seq (.look .textStart)
        (.seq (.one (.union (.union (.range 65 90) (.range 97 122)) (.range 95 95)))
          (.times
            (.one (.union (.union (.union (.range 65 90) (.range 97 122)) (.range 95 95))
              (.range 48 57)))
            0 none true)))
      (by decide),
    none⟩, some Reading.nullOrText⟩

/-- A text between quotes, which are part of the value. -/
def quotation : Kind :=
  ⟨⟨"text",
    .standard "\"[^\"]*\"".toList
      (.seq (.look .textStart)
        (.seq (.literal ['"'])
          (.seq (.times (.one (.compl (.range 34 34))) 0 none true) (.literal ['"']))))
      (by decide),
    none⟩, some Reading.verbatim⟩

/-- A whole number. -/
def number : Kind :=
  ⟨⟨"number",
    .standard "[0-9]+".toList (.span (.range 48 57)) (by decide),
    none⟩, some Reading.int⟩

/-- Names, quoted texts and whole numbers. -/
def plainAtoms : Vocabulary := [identifier, quotation, number]

end Vocabulary

namespace Lexer

open Vocabulary

/-- Whether a character begins a name. -/
def beginsName (c : Char) : Bool := c.isAlpha || c == '_'

/-- Whether a character continues a name. -/
def continuesName (c : Char) : Bool := c.isAlphanum || c == '_'

/-- The token that begins with a character, given what follows it. -/
def dispatch (c : Char) (cs : List Char) : Match :=
  if c = '(' then ⟨opening, [c], by simp⟩
  else if c = ')' then ⟨closing, [c], by simp⟩
  else if Text.isBlank c then ⟨space, c :: cs.takeWhile Text.isBlank, by simp⟩
  else if beginsName c then ⟨identifier, c :: cs.takeWhile continuesName, by simp⟩
  else if c.isDigit then ⟨number, c :: cs.takeWhile Char.isDigit, by simp⟩
  else if c = '"' && cs.contains '"' then
    ⟨quotation, c :: (cs.takeWhile (· != '"') ++ ['"']), by simp⟩
  else ⟨unexpected, [c], by simp⟩

/-- The lexer that decides by the first character. -/
def direct : Lexer where
  vocabulary := .parens plainAtoms
  recognize source offset :=
    match Text.dropBytes? offset source with
    | none => .error .midCharacter
    | some [] => .ok none
    | some (c :: cs) => .ok (some (dispatch c cs))

end Lexer

end Parens
