import Parens.Number.Reader
import Parens.Token.Kind

/-!
# Standard Readings

Ready-made ways to read the text of a token as a value. Those that can fail report the label of
the token's own kind.
-/

namespace Parens.Reading

/-- The text as it stands. -/
def verbatim : Reading := fun l => .ok (.text (String.ofList l.text))

/-- An integer of 64 bits. -/
def int : Reading := fun l =>
  match Number.readInt64 l.text with
  | .ok n => .ok (.int n)
  | .error fault => .error (.unreadable l.rule.label fault.message)

/-- A floating-point number. -/
def float : Reading := fun l =>
  match Number.readFloat l.text with
  | .ok x => .ok (.float x)
  | .error fault => .error (.unreadable l.rule.label fault.message)

/-- A truth value. -/
def bool : Reading := fun l =>
  match Number.readBool? l.text with
  | some b => .ok (.bool b)
  | none => .error (.unreadable l.rule.label Number.notABool)

/-- No value for the word `null`, and any other text as it stands. -/
def nullOrText : Reading := fun l =>
  .ok (if l.text = "null".toList then .null else .text (String.ofList l.text))

/-- The number of bytes. -/
def length : Reading := fun l => .ok (.int (Int64.ofNat (Text.byteSize l.text)))

/-- The label of the kind. -/
def label : Reading := fun l => .ok (.text l.rule.label)

/-- The place of the token. -/
def place : Reading := fun l => .ok (.text l.position.render)

/-- Refuses every token. -/
def refuse : Reading := fun l => .error (.unreadable l.rule.label ("rejected " ++ l.render))

/-- The same value for every token. -/
def const (v : Value) : Reading := fun _ => .ok v

end Parens.Reading
