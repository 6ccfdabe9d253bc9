import Parens.Pattern.Place
import Parens.Pattern.Reader

/-!
# Dialects of Regular Expressions

Which texts are regular expressions, and what they match, is up to a `Dialect`. It reads a written
expression as a search for the first match in a text. All that is asked of it is that a match is a
piece of the text that was searched.

So what is said of all rules holds whatever engine stands behind their expressions, and the same
goes for vocabularies, lexers and parsers. The dialect of a rule is part of the rule, and one
vocabulary may have expressions of several dialects.

## The standard dialect

`Dialect.standard` has the patterns of this library behind it. The fixed kinds of tokens are written
in it, and so is every rule of `Rule.pattern?`. It leaves out some of the usual syntax, which is no
expression to it:

* classes by a property of characters, such as `\pL` and `\p{Greek}`, and their negations;
* the mode `x`, which passes over blanks and comments in the expression, and the mode `R`, for
  which a carriage return ends a line too;
* switching `u` off, which would make classes those of ASCII;
* the conditions `\b{start}`, `\b{end}`, `\b{start-half}` and `\b{end-half}`.

It sets no limit to the size of an expression or to how deep its groups are nested.
-/

namespace Parens

/-- A dialect of regular expressions. -/
structure Dialect where
  /-- The search that a text writes, if the text is an expression. -/
  read? : List Char → Option (List Char → Option (List Char))
  /-- A match is a piece of the text. -/
  isInfix {written : List Char} {find : List Char → Option (List Char)} {text found : List Char} :
    read? written = some find → find text = some found → found <:+: text

namespace Dialect

/-- The dialect whose expressions are the patterns of this library. -/
def standard : Dialect where
  read? written := (Pattern.ofSource? written).map Pattern.find?
  isInfix hread hfound := by
    obtain ⟨p, -, rfl⟩ := Option.map_eq_some_iff.1 hread
    exact Pattern.isInfix_of_find? hfound

/-- An expression of the standard dialect is the search of the pattern that it writes. -/
theorem standard_read? {written : List Char} {p : Pattern}
    (h : Pattern.ofSource? written = some p) : standard.read? written = some p.find? :=
  Option.map_eq_some_iff.2 ⟨p, h, rfl⟩

end Dialect

end Parens
