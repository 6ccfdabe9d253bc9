import Parens.Parser
import Parens.Text.Quoted

/-!
# Descriptions for Inspection

The structure of the vocabulary, of positions, lexers and parsers, spelled out for debugging.
Every text is quoted. The description of a rule is itself put in quotes, so texts inside it are
quoted twice.
-/

namespace Parens

/-- A text in quotes. -/
def inspectText (cs : List Char) : String := String.ofList (Text.quoted cs)

/-- A named record of fields. -/
def inspectRecord (name : String) (fields : List (String × String)) : String :=
  name ++ " \x7b " ++
    ", ".intercalate (fields.map fun f => f.1 ++ ": " ++ f.2) ++ " \x7d"

/-- A value that may be missing. -/
def inspectOption (x : Option Nat) : String :=
  match x with
  | some n => "Some(" ++ n.repr ++ ")"
  | none => "None"

/-- A row of things in brackets. -/
def inspectRow (xs : List String) : String := "[" ++ ", ".intercalate xs ++ "]"

/-- A truth value. -/
def inspectBool (b : Bool) : String := if b then "true" else "false"

/-- A mode of comparison. -/
def CaseMode.inspect : CaseMode → String
  | sensitive => "Sensitive"
  | insensitive => "Insensitive"

/-- What a rule recognises. -/
def Recognizer.inspect : Recognizer → String
  | char c => "char " ++ String.ofList (Text.quotedChar c)
  | literal text mode => "literal " ++ inspectText text ++ " (" ++ mode.inspect ++ ")"
  | pattern _ source _ _ => "pattern " ++ inspectText source

/-- A kind of tokens. -/
def Kind.inspect (k : Kind) : String :=
  inspectRecord "TokenType"
    [("label", inspectText k.label.toList), ("rule", inspectText k.recognizer.inspect.toList),
      ("max_length", inspectOption k.maxLength), ("significant", inspectBool k.significant)]

/-- A position. -/
def Position.inspect (p : Position) : String :=
  inspectRecord "SourceInfo"
    [("offset", p.offset.repr), ("line", p.line.repr), ("column", p.column.repr)]

/-- The kinds of a vocabulary in a row. -/
def Vocabulary.inspectRow (v : Vocabulary) : String := Parens.inspectRow (v.map Kind.inspect)

/-- A vocabulary as a record. -/
def Vocabulary.inspect (v : Vocabulary) : String :=
  inspectRecord "Lexicon" [("token_types", v.inspectRow)]

/-- The lexer that tries a vocabulary in order, at some place. -/
def Lexer.inspectFirstMatch (v : Vocabulary) (p : Position) : String :=
  inspectRecord "Scanner" [("lexicon", v.inspect), ("position", p.inspect)]

/-- The lexer for list notation over some kinds of atoms, at some place. -/
def Lexer.inspectOfAtoms (atoms : Vocabulary) (p : Position) : String :=
  inspectRecord "SExprLexer"
    [("token_types", (Vocabulary.parens atoms).inspectRow), ("position", p.inspect)]

/-- A parser. How it builds nodes cannot be shown. -/
def Parser.inspect {E : Type} (p : Parser E) : String :=
  let config := inspectRecord "ParserConfig" [("max_depth", inspectOption p.maxDepth)]
  "SExprParser \x7b atoms: " ++ p.atoms.inspect ++ ", config: " ++ config ++ ", .. \x7d"

end Parens
