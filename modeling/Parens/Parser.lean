import Parens.Lexer
import Parens.Reduction

/-!
# The Parser

An expression is an atom, or any number of expressions between parentheses. The parser reads
one token after the other and keeps the open lists on a stack, each with the nodes finished so
far. `Parser.step` takes in one token, and `Parser.run` repeats it until an expression is
complete or something is wrong. Nothing recurs on the nesting, so a limit on it is a check like
any other.

What nodes are is up to a `Reduction`, which is called twice for every place, in reading order.
The parser keeps the calls it made. A reduction that fails ends the run.
-/

namespace Parens

/-- The version of the library. -/
def version : String := "1.0.0"

/-- The part that a token plays in list notation. -/
inductive Role where
  /-- It opens a list. -/
  | opening
  /-- It closes a list. -/
  | closing
  /-- It has no place in list notation. -/
  | stray
  /-- It is an atom. -/
  | atom
deriving DecidableEq, Repr

/-- The part that a token plays. -/
def Token.role (t : Token) : Role :=
  if t.is Vocabulary.opening then .opening
  else if t.is Vocabulary.closing then .closing
  else if t.is Vocabulary.unexpected then .stray
  else .atom

/-- A parser for list notation with nodes of type `E`. -/
structure Parser (E : Type) where
  /-- The kinds of atoms. -/
  atoms : Vocabulary
  /-- How the plain reduction builds a node. -/
  build : Content E → Except Error E
  /-- How many lists may be open at once, if there is a limit. -/
  maxDepth : Option Nat

namespace Parser

variable {E : Type}

/-- How many lists may be open at once, unless said otherwise. -/
def defaultMaxDepth : Nat := 256

/-- The parser over some kinds of atoms, with the default limit. -/
def ofAtoms (atoms : Vocabulary) (build : Content E → Except Error E) : Parser E :=
  ⟨atoms, build, some defaultMaxDepth⟩

/-- The parser's own lexer. -/
def lexer (p : Parser E) : Lexer := .ofAtoms p.atoms

/-- The reduction that builds nodes the parser's way. -/
def plain (p : Parser E) : Reduction E := .plain p.build

/-! ### The state of a run -/

/-- What a run has read and made so far. -/
structure State (E : Type) where
  /-- The state of the lexer. -/
  session : Session
  /-- The finished nodes of each open list, from the innermost list on. -/
  stack : List (List E)
  /-- The calls of the reduction, in order. -/
  calls : Array (Call E)

namespace State

/-- The state before the first token. -/
def start (s : Session) : State E := ⟨s, [], #[]⟩

/-- The nodes in front of the next one, if a list is open. -/
def outer (st : State E) : Option (List E) := st.stack.head?

/-- The state after the lexer moved past a token. -/
def consume (st : State E) (t : Token) : State E := { st with session := st.session.consume t }

end State

/-- What a step comes to. -/
inductive Progress (E : Type) where
  /-- The expression is not complete yet. -/
  | more (st : State E)
  /-- The run is over. -/
  | done (result : Except Halt E) (st : State E)

/-! ### One step -/

/-- Makes the node of a place: builds it and finishes it. -/
def reduce (reduction : Reduction E) (outer : Option (List E)) (content : Content E)
    (st : State E) : Except Error E × State E :=
  let st := { st with calls := st.calls.push ⟨outer, .build content⟩ }
  match reduction outer (.build content) with
  | .error e => (.error e, st)
  | .ok node =>
    (reduction outer (.finish node),
      { st with calls := st.calls.push ⟨outer, .finish node⟩ })

/-- Makes a node and puts it where it belongs: behind the nodes of the innermost open list, or
at the top, where it is the result. -/
def attach (reduction : Reduction E) (content : Content E) (st : State E) : Progress E :=
  match reduce reduction st.outer content st with
  | (.error e, st) => .done (.error (.failed e)) st
  | (.ok node, st) =>
    match st.stack with
    | [] => .done (.ok node) st
    | nodes :: stack => .more { st with stack := (nodes ++ [node]) :: stack }

/-- Stops at a token, or at the end, where something else was expected. -/
def complain (found : Option Token) (expected : Kind) (st : State E) : Progress E :=
  let (e, s) := st.session.diagnose found (some expected)
  .done (.error (.failed e)) { st with session := s }

/-- Opens a list, if the limit allows it. -/
def openList (p : Parser E) (t : Token) (st : State E) : Progress E :=
  let opened : Progress E := .more { st.consume t with stack := [] :: st.stack }
  match p.maxDepth with
  | some limit =>
    if limit ≤ st.stack.length then
      .done (.error (.failed (.tooDeep limit t.position))) st
    else opened
  | none => opened

/-- Reads an atom. -/
def readAtom (reduction : Reduction E) (t : Token) (st : State E) : Progress E :=
  match t.value with
  | .error e => .done (.error (.failed e)) (st.consume t)
  | .ok v => attach reduction (.value v) (st.consume t)

/-- Closes the innermost list and makes its node. -/
def closeList (reduction : Reduction E) (t : Token) (nodes : List E) (stack : List (List E))
    (st : State E) : Progress E :=
  attach reduction (.list nodes) { st.consume t with stack := stack }

/-- Takes in the next token. An expression must begin at the top; inside a list, the list may
close instead. -/
def step (p : Parser E) (reduction : Reduction E) (l : Lexer) (source : List Char)
    (st : State E) : Progress E :=
  match l.next source none true st.session with
  | (.error halt, s) => .done (.error halt) { st with session := s }
  | (.ok found, s) =>
    let st := { st with session := s }
    match found, st.stack with
    | none, [] => complain none Vocabulary.opening st
    | none, _ :: _ => complain none Vocabulary.closing st
    | some t, [] =>
      match t.role with
      | .opening => p.openList t st
      | .atom => readAtom reduction t st
      | _ => complain (some t) Vocabulary.opening st
    | some t, nodes :: stack =>
      match t.role with
      | .opening => p.openList t st
      | .atom => readAtom reduction t st
      | .closing => closeList reduction t nodes stack st
      | .stray => complain (some t) Vocabulary.closing st

/-! ### Progress -/

theorem session_reduce (reduction : Reduction E) (outer : Option (List E)) (content : Content E)
    (st : State E) : (reduce reduction outer content st).2.session = st.session := by
  unfold reduce
  simp only
  split <;> rfl

theorem session_of_attach_more {reduction : Reduction E} {content : Content E}
    {st st' : State E} (h : attach reduction content st = .more st') :
    st'.session = st.session := by
  have hs := session_reduce reduction st.outer content st
  unfold attach at h
  split at h
  · simp at h
  · rename_i node st₁ hr
    rw [hr] at hs
    split at h
    · simp at h
    · simp only [Progress.more.injEq] at h
      subst h
      exact hs

theorem session_of_openList_more {p : Parser E} {t : Token} {st st' : State E}
    (h : p.openList t st = .more st') : st'.session = st.session.consume t := by
  unfold openList at h
  simp only at h
  split at h
  · split at h
    · simp at h
    · simp only [Progress.more.injEq] at h
      subst h
      rfl
  · simp only [Progress.more.injEq] at h
    subst h
    rfl

theorem session_of_readAtom_more {reduction : Reduction E} {t : Token} {st st' : State E}
    (h : readAtom reduction t st = .more st') : st'.session = st.session.consume t := by
  unfold readAtom at h
  split at h
  · simp at h
  · exact session_of_attach_more h

/-- **A step that does not end the run consumes the token it looked at.** -/
theorem next_of_step_more {p : Parser E} {reduction : Reduction E} {l : Lexer}
    {source : List Char} {st st' : State E}
    (h : p.step reduction l source st = .more st') :
    ∃ t s, l.next source none true st.session = (.ok (some t), s) ∧
      st'.session = s.consume t := by
  unfold step at h
  split at h
  · simp at h
  · rename_i found s hnext
    simp only at h
    split at h
    · simp [complain] at h
    · simp [complain] at h
    · rename_i t hstack
      refine ⟨t, s, hnext, ?_⟩
      split at h
      · exact session_of_openList_more h
      · exact session_of_readAtom_more h
      · simp [complain] at h
    · rename_i t nodes stack hstack
      refine ⟨t, s, hnext, ?_⟩
      split at h
      · exact session_of_openList_more h
      · exact session_of_readAtom_more h
      · exact session_of_attach_more h
      · simp [complain] at h

/-- A step that does not end the run takes the lexer forward, from a place inside the source. -/
theorem offset_lt_of_step_more {p : Parser E} {reduction : Reduction E} {l : Lexer}
    {source : List Char} {st st' : State E}
    (h : p.step reduction l source st = .more st') :
    st.session.position.offset < st'.session.position.offset ∧
      st.session.position.offset < Text.byteSize source := by
  obtain ⟨t, s, hnext, hs⟩ := next_of_step_more h
  rw [hs]
  exact Lexer.offset_lt_of_next hnext

/-! ### Whole expressions -/

/-- Takes in tokens until an expression is complete or something is wrong. -/
def run (p : Parser E) (reduction : Reduction E) (l : Lexer) (source : List Char)
    (st : State E) : Except Halt E × State E :=
  match _h : p.step reduction l source st with
  | .done result st' => (result, st')
  | .more st' => p.run reduction l source st'
termination_by Text.byteSize source - st.session.position.offset
decreasing_by
  have := offset_lt_of_step_more _h
  omega

/-- Reads one expression from where the session stands, and nothing behind it. -/
def parseRoot (p : Parser E) (reduction : Reduction E) (l : Lexer) (source : List Char)
    (s : Session) : Except Halt E × State E :=
  p.run reduction l source (.start s)

/-- Checks that nothing significant is left of the source behind an expression. -/
def finish (l : Lexer) (source : List Char) (root : E) (st : State E) :
    Except Halt E × State E :=
  match l.next source none true st.session with
  | (.error halt, s) => (.error halt, { st with session := s })
  | (.ok (some t), s) =>
    let (e, s) := s.diagnose (some t) none
    (.error (.failed e), { st with session := s })
  | (.ok none, s) => (.ok root, { st with session := s.note (.parsed s.position) })

/-- Reads the one expression that a source holds from where the session stands. -/
def parseUsing (p : Parser E) (reduction : Reduction E) (l : Lexer) (source : List Char)
    (s : Session) : Except Halt E × State E :=
  let begun := s.note (.parsing (Text.byteSize source) l.vocabulary.length s.position)
  match p.parseRoot reduction l source begun with
  | (.ok root, st) => finish l source root st
  | (.error (.failed e), st) =>
    (.error (.failed e), { st with session := st.session.note (.failed e.message) })
  | (.error .midCharacter, st) => (.error .midCharacter, st)

/-- Reads the one expression that a source holds, with the parser's own lexer. -/
def parseWith (p : Parser E) (reduction : Reduction E) (source : List Char) :
    Except Halt E × State E :=
  p.parseUsing reduction p.lexer source .start

/-- The node of the one expression that a source holds, made the parser's way. -/
def parse (p : Parser E) (source : List Char) : Except Halt E :=
  (p.parseWith p.plain source).1

end Parser

end Parens
