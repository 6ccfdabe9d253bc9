import Parens.Token
import Parens.Token.Reading

/-!
# The Vocabulary of Lists

A vocabulary is a row of token kinds in order of priority. The vocabulary of list notation has
blanks first, then the two parentheses, then the caller's kinds of atoms, and last a kind that
takes whatever nothing else took. So atoms never swallow a parenthesis or a blank at the place
where they begin, and every character that is left belongs to some token.
-/

namespace Parens

/-- Kinds of tokens, in order of priority. -/
abbrev Vocabulary := List Kind

namespace Vocabulary

/-- A run of blanks, which is passed over. -/
def space : Kind :=
  ⟨⟨"space",
    .standard "\\s+".toList (.span .blank) (by decide),
    none⟩, none⟩

/-- The parenthesis that opens a list. -/
def opening : Kind := ⟨Rule.char '(', some Reading.verbatim⟩

/-- The parenthesis that closes a list. -/
def closing : Kind := ⟨Rule.char ')', some Reading.verbatim⟩

/-- A run of anything but blanks that no other kind took. -/
def unexpected : Kind :=
  ⟨⟨"unexpected",
    .standard "[^\\s]+".toList (.span (.compl .blank)) (by decide),
    none⟩, some Reading.verbatim⟩

/-- The vocabulary of list notation over some kinds of atoms. -/
def parens (atoms : Vocabulary) : Vocabulary :=
  space :: opening :: closing :: (atoms ++ [unexpected])

end Vocabulary

end Parens
