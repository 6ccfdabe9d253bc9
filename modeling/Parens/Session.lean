import Parens.Event
import Parens.Token

/-!
# Sessions

A `Session` is what a lexer remembers between two calls: where it stands, and what it noted
down. It survives every failure, so a caller can go on after one.

Consuming a token moves the session by the token's text, wherever the token came from.
-/

namespace Parens

/-- The state of a lexer. -/
structure Session where
  /-- Where the lexer stands. -/
  position : Position
  /-- What was noted down, in order. -/
  events : Array Event

/-- Why a call came to no result. -/
inductive Halt where
  /-- There is an error to report. -/
  | failed (e : Error)
  /-- The source was to be cut at an offset inside a character. -/
  | midCharacter
deriving DecidableEq

namespace Session

/-- A session at the beginning of the source. -/
def start : Session := ⟨.start, #[]⟩

/-- Notes down an event. -/
def note (s : Session) (e : Event) : Session := { s with events := s.events.push e }

/-- Moves past the text of a token. -/
def consume (s : Session) (t : Token) : Session :=
  { position := s.position.advance t.text
    events := s.events.push (.consumed t.kind.label t.text t.position) }

/-- Moves past an insignificant token. -/
def pass (s : Session) (t : Token) : Session :=
  (s.note (.skipping t.kind.label t.position)).consume t

/-- The diagnosis of a fault: what was expected, and what was found instead and where. No kind
means that the end of the source was expected, and no token that it was found. -/
def diagnosis (expected : Option Kind) (found : Option Token) (position : Position) : String :=
  let expected := match expected with
    | some k => k.render
    | none => Rule.endOfInput
  let found := match found with
    | some t => t.render
    | none => Rule.endOfInput
  "syntax error: " ++ expected ++ " expected but found " ++ found ++ " at " ++ position.render

/-- Diagnoses a fault at the token found, or where the lexer stands if none was found. -/
def diagnose (s : Session) (found : Option Token) (expected : Option Kind) : Error × Session :=
  let position := match found with
    | some t => t.position
    | none => s.position
  let text := diagnosis expected found position
  (.malformed text position, s.note (.diagnosed text))

@[simp]
theorem position_note (s : Session) (e : Event) : (s.note e).position = s.position := rfl

@[simp]
theorem position_consume (s : Session) (t : Token) :
    (s.consume t).position = s.position.advance t.text := rfl

@[simp]
theorem position_pass (s : Session) (t : Token) :
    (s.pass t).position = s.position.advance t.text := rfl

@[simp]
theorem position_diagnose (s : Session) (found : Option Token) (expected : Option Kind) :
    (s.diagnose found expected).2.position = s.position := rfl

end Session

end Parens
