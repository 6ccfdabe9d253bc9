import Parens.Error

/-!
# The Record of a Run

What a lexer and a parser note down while they work. An `Event` has a level of detail and
fields, of which the first always says what happened.
-/

namespace Parens

/-- Something that happened in a run. -/
inductive Event where
  /-- Parsing of a source of some size began, with a lexer of some kinds at some place. -/
  | parsing (size kinds : Nat) (start : Position)
  /-- An insignificant token is about to be passed over. -/
  | skipping (label : String) (position : Position)
  /-- The lexer moved past a token. -/
  | consumed (label : String) (text : List Char) (position : Position)
  /-- A fault of the source was diagnosed. -/
  | diagnosed (diagnosis : String)
  /-- Parsing failed. -/
  | failed (message : String)
  /-- Parsing succeeded, and the lexer stands at some place. -/
  | parsed (stop : Position)
deriving DecidableEq, Repr

/-- How much detail an event is. -/
inductive Level where
  /-- Of interest when something goes wrong. -/
  | debug
  /-- Of interest when every step matters. -/
  | trace
deriving DecidableEq, Repr

namespace Event

/-- The level of detail of an event. -/
def level : Event → Level
  | skipping _ _ => .trace
  | consumed _ _ _ => .trace
  | _ => .debug

/-- The fields of an event, by name. -/
def fields : Event → List (String × String)
  | parsing size kinds start =>
    [("message", "parsing"), ("len", size.repr), ("token_types", kinds.repr),
      ("start", start.render)]
  | skipping label position =>
    [("message", "skipping"), ("label", label), ("at", position.render)]
  | consumed label text position =>
    [("message", "consumed"), ("label", label), ("text", String.ofList text),
      ("at", position.render)]
  | diagnosed diagnosis => [("message", "syntax error"), ("message", diagnosis)]
  | failed message => [("message", "parse failed"), ("error", message)]
  | parsed stop => [("message", "parsed"), ("end", stop.render)]

end Event

end Parens
