import Parens.Lexer

/-!
# Scanning a Whole Source

`Lexer.scan` reads all significant tokens from where the session stands. It fails where the
vocabulary takes nothing although the source goes on, and reports the run of characters up to
the next blank there, or the blank itself.
-/

namespace Parens.Lexer

/-- The text to report at an offset where nothing is recognised. -/
def strayText (source : List Char) (offset : Nat) : Except Halt (List Char) :=
  match Vocabulary.unexpected.matchAt source offset with
  | [] =>
    match Text.dropBytes? offset source with
    | some rest => .ok (rest.take 1)
    | none => .error .midCharacter
  | text => .ok text

/-- Ends a scan: nothing may be left of the source. -/
def finishScan (source : List Char) (s : Session) : Except Halt (List Token) × Session :=
  if s.position.offset < Text.byteSize source then
    match strayText source s.position.offset with
    | .error halt => (.error halt, s)
    | .ok text =>
      let (e, s) := s.diagnose (some ⟨Vocabulary.unexpected, text, s.position⟩) none
      (.error (.failed e), s)
  else (.ok [], s)

/-- All significant tokens from where the session stands to the end of the source. -/
def scan (l : Lexer) (source : List Char) (s : Session) : Except Halt (List Token) × Session :=
  match _h : l.next source none true s with
  | (.error halt, s') => (.error halt, s')
  | (.ok none, s') => finishScan source s'
  | (.ok (some t), s') =>
    let (tokens, s'') := l.scan source (s'.consume t)
    (tokens.map (t :: ·), s'')
termination_by Text.byteSize source - s.position.offset
decreasing_by
  have := offset_lt_of_next _h
  omega

end Parens.Lexer
