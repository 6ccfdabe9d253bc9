import Parens.Dialect
import Parens.Error
import Parens.Text.Bytes
import Parens.Text.Lowercase

/-!
# Rules That Recognise Tokens

A `Rule` has a label and says which text at a place of the source is a token of its kind. It
recognises one character, a fixed text with or without regard to case, or a regular expression
behind the place. Only an expression may have its lookahead limited to a window.

An expression is put in a group behind the beginning of the text before its dialect reads it, and is
searched for in what lies ahead.

`Rule.matchAt` is the text that a rule recognises at an offset of the source, and the empty
text stands for no match: no token is empty.
-/

namespace Parens

/-- How a fixed text is compared. -/
inductive CaseMode where
  /-- Character by character. -/
  | sensitive
  /-- By the lower case of both sides. -/
  | insensitive
deriving DecidableEq, Repr

/-- What a rule recognises. -/
inductive Recognizer where
  /-- One character. -/
  | char (c : Char)
  /-- A fixed text. -/
  | literal (text : List Char) (mode : CaseMode)
  /-- A regular expression of some dialect, as written and as read. -/
  | pattern (dialect : Dialect) (source : List Char) (find : List Char → Option (List Char))
      (reads : dialect.read? (Pattern.grouped source) = some find)

namespace Recognizer

/-- A regular expression of the standard dialect, as written and as read. -/
def standard (source : List Char) (compiled : Pattern)
    (h : Pattern.anchored? source = some compiled) : Recognizer :=
  .pattern .standard source compiled.find? (Dialect.standard_read? h)

/-- Whether two recognisers are the same, where an expression counts as it is written. -/
def same : Recognizer → Recognizer → Bool
  | char c, char d => c == d
  | literal text mode, literal text' mode' => text == text' && mode == mode'
  | pattern _ source _ _, pattern _ source' _ _ => source == source'
  | _, _ => false

/-- A recogniser is the same as itself. -/
@[simp]
theorem same_self (r : Recognizer) : r.same r = true := by
  cases r <;> simp [same]

end Recognizer

/-- A way to recognise tokens. -/
structure Rule where
  /-- The name of the kind of token. -/
  label : String
  /-- What is recognised. -/
  recognizer : Recognizer
  /-- The most bytes that a match can take, if bounded. -/
  maxLength : Option Nat

namespace Rule

/-! ### Construction -/

/-- Recognises one character, which is the label too. -/
def char (c : Char) : Rule := ⟨String.singleton c, .char c, some c.utf8Size⟩

/-- Recognises a fixed text, which is the label too. -/
def literal (text : List Char) (mode : CaseMode) : Rule :=
  ⟨String.ofList text, .literal text mode, some (Text.byteSize text)⟩

/-- Recognises a regular expression of a dialect. -/
def expression? (dialect : Dialect) (label : String) (source : List Char) : Except Error Rule :=
  if source = [] then .error (.badKind label "pattern cannot be empty")
  else
    match h : dialect.read? (Pattern.grouped source) with
    | some find => .ok ⟨label, .pattern dialect source find h, none⟩
    | none => .error (.badPattern label)

/-- Recognises a regular expression of the standard dialect. -/
def pattern? (label : String) (source : List Char) : Except Error Rule :=
  expression? .standard label source

/-- Limits how far an expression looks ahead, where 0 sets no limit. Other rules have a fixed
length, which stays. -/
def withMaxLength (r : Rule) (n : Nat) : Rule :=
  match r.recognizer with
  | .pattern _ _ _ _ => { r with maxLength := if n = 0 then none else some n }
  | _ => r

/-! ### Properties -/

/-- The character of a rule for one character. -/
def char? (r : Rule) : Option Char :=
  match r.recognizer with
  | .char c => some c
  | _ => none

/-- The written form of a regular expression. -/
def source? (r : Rule) : Option (List Char) :=
  match r.recognizer with
  | .pattern _ source _ _ => some source
  | _ => none

/-- How a fixed text is compared. -/
def caseMode? (r : Rule) : Option CaseMode :=
  match r.recognizer with
  | .literal _ mode => some mode
  | _ => none

/-- Whether the rule recognises one character. -/
def isChar (r : Rule) : Bool := r.char?.isSome

/-- Whether the rule is a regular expression. -/
def isPattern (r : Rule) : Bool := r.source?.isSome

/-- The words for the end of the source in messages. -/
def endOfInput : String := "end of input"

/-- The rule in messages: its label, or the end of the source for a fixed text without one. -/
def render (r : Rule) : String :=
  if r.label = "" && !r.isPattern then endOfInput else r.label

/-- Whether two rules recognise the same for the same label, whatever their limits. -/
def same (a b : Rule) : Bool :=
  a.label == b.label && a.recognizer.same b.recognizer

variable {a b : Rule}

/-- Rules that are the same have one label. -/
theorem label_eq_of_same (h : a.same b = true) : a.label = b.label := by
  simp only [same, Bool.and_eq_true, beq_iff_eq] at h
  exact h.1

/-- Rules that are the same have one character, if any. -/
theorem char?_eq_of_same (h : a.same b = true) : a.char? = b.char? := by
  simp only [same, Bool.and_eq_true] at h
  revert h
  unfold char?
  cases a.recognizer <;> cases b.recognizer <;> simp [Recognizer.same]

/-- Rules that are the same are written alike, if they are expressions. -/
theorem source?_eq_of_same (h : a.same b = true) : a.source? = b.source? := by
  simp only [same, Bool.and_eq_true] at h
  revert h
  unfold source?
  cases a.recognizer <;> cases b.recognizer <;> simp [Recognizer.same]

/-! ### Matching -/

/-- Whether a text is the fixed one. -/
def agrees : CaseMode → List Char → List Char → Bool
  | .sensitive, text, candidate => candidate == text
  | .insensitive, text, candidate => Text.lowercase candidate == Text.lowercase text

/-- The text that the rule recognises at the front of a text. A fixed text is compared with as
many bytes as it has itself. -/
def front (r : Rule) (rest : List Char) : List Char :=
  match r.recognizer with
  | .char c => if rest.head? = some c then [c] else []
  | .literal text mode =>
    match Text.takeBytes? (Text.byteSize text) rest with
    | some candidate => if agrees mode text candidate then candidate else []
    | none => []
  | .pattern _ _ find _ =>
    let visible := match r.maxLength with
      | some n => Text.window n rest
      | none => rest
    (find visible).getD []

/-- The text that the rule recognises at an offset of the source. Inside a character and
behind the end there is none. -/
def matchAt (r : Rule) (source : List Char) (offset : Nat) : List Char :=
  match Text.dropBytes? offset source with
  | some rest => r.front rest
  | none => []

end Rule

end Parens
