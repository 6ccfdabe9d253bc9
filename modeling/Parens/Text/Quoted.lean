import Parens.Text.Printable

/-!
# Quoted Text for Inspection

A text between quotes in which everything shows: controls, quotes and backslashes are escaped,
and so is every character that would not be visible on its own.
-/

namespace Parens.Text

/-- A character inside quotes. -/
def escapeFor (quote c : Char) : List Char :=
  if c = quote || c = '\\' then ['\\', c]
  else if c = '\x00' then ['\\', '0']
  else if c = '\t' then ['\\', 't']
  else if c = '\n' then ['\\', 'n']
  else if c = '\r' then ['\\', 'r']
  else if isVisible c then [c]
  else '\\' :: 'u' :: '\x7b' :: Nat.toDigits 16 c.toNat ++ ['\x7d']

/-- A text in double quotes. -/
def quoted (cs : List Char) : List Char :=
  '"' :: cs.flatMap (escapeFor '"') ++ ['"']

/-- A character in single quotes. -/
def quotedChar (c : Char) : List Char :=
  '\'' :: escapeFor '\'' c ++ ['\'']

/-- The space shows, although nothing is printed for it. -/
theorem isVisible_space : isVisible ' ' := by decide

end Parens.Text
