import Parens.Parser
import Parens.Proofs.TokenStream

/-!
# What a Step of the Parser Does

A step of the parser answers two questions apart. What the grammar makes of the next token is a
`Verdict`, and it depends on the token and on the number of open lists, but on no reduction:
either the token is accepted as a `Move`, or the parse ends there. What a move does to the
finished nodes is up to the reduction.

`step_eq_enact` says that this is all: every step looks at the next token and enacts the verdict
on it. So two runs with different reductions can be compared verdict by verdict, and a run can
be compared with a pass over the tokens alone.

## Main results

* `step_eq_enact`, `step_eq_complain`: a step enacts the verdict on the token ahead, and
  complains if there is none.
* `attach_eq_put`, `attach_cases`: a move that makes a node calls the reduction, and the node
  takes its place.
* `run_eq_proceed`: a run is a step and what follows from it.
* `parseUsing_eq_conclude`: a whole parse is a run and what is made of its result.
-/

namespace Parens

/-! ### The roles of tokens -/

namespace Token

variable {t : Token}

/-- A token is an atom if it is of neither kind of punctuation and is not unexpected. -/
def IsAtom (t : Token) : Prop :=
  ¬ t.is Vocabulary.opening = true ∧ ¬ t.is Vocabulary.closing = true ∧
    ¬ t.is Vocabulary.unexpected = true

instance (t : Token) : Decidable t.IsAtom := inferInstanceAs (Decidable (¬ _ ∧ ¬ _ ∧ ¬ _))

/-- A token is of kinds with one label only. -/
theorem label_eq_of_is {a b : Kind} (ha : t.is a = true) (hb : t.is b = true) :
    a.label = b.label :=
  (Rule.label_eq_of_same ha).symm.trans (Rule.label_eq_of_same hb)

/-- A token opens a list if it is of the opening kind. -/
theorem role_eq_opening_iff : t.role = .opening ↔ t.is Vocabulary.opening = true := by
  unfold role
  by_cases ho : t.is Vocabulary.opening = true
  · simp [ho]
  · rw [if_neg ho]
    split
    · simp [ho]
    · split <;> simp [ho]

/-- A token closes a list if it is of the closing kind. -/
theorem role_eq_closing_iff : t.role = .closing ↔ t.is Vocabulary.closing = true := by
  unfold role
  by_cases hc : t.is Vocabulary.closing = true
  · have ho : ¬ t.is Vocabulary.opening = true := fun ho =>
      absurd (label_eq_of_is ho hc) (by decide)
    rw [if_neg ho, if_pos hc]
    simp [hc]
  · rw [if_neg hc]
    split
    · simp [hc]
    · split <;> simp [hc]

/-- A token has no place in list notation if it is of the unexpected kind. -/
theorem role_eq_stray_iff : t.role = .stray ↔ t.is Vocabulary.unexpected = true := by
  unfold role
  by_cases hu : t.is Vocabulary.unexpected = true
  · have ho : ¬ t.is Vocabulary.opening = true := fun ho =>
      absurd (label_eq_of_is ho hu) (by decide)
    have hc : ¬ t.is Vocabulary.closing = true := fun hc =>
      absurd (label_eq_of_is hc hu) (by decide)
    rw [if_neg ho, if_neg hc, if_pos hu]
    simp [hu]
  · rw [if_neg hu]
    split
    · simp [hu]
    · split <;> simp [hu]

/-- A token plays the part of an atom if it is one. -/
theorem role_eq_atom_iff : t.role = .atom ↔ t.IsAtom := by
  unfold role IsAtom
  split
  · simp_all
  · split
    · simp_all
    · split <;> simp_all

end Token

namespace Parser

variable {E : Type}

/-! ### Verdicts -/

/-- What an accepted token does. -/
inductive Move where
  /-- It opens a list. -/
  | opening
  /-- It is an atom with a value. -/
  | atom (v : Value)
  /-- It closes the innermost list. -/
  | closing

/-- What the grammar makes of a token. -/
inductive Verdict where
  /-- The token has no place here. -/
  | unexpected
  /-- The token opens a list too many. -/
  | tooDeep (limit : Nat)
  /-- The token is an atom without a readable value. -/
  | unreadable (e : Error)
  /-- The token is read. -/
  | accepted (move : Move)

/-- The verdict on a token with `depth` lists open. -/
def verdict (limit : Option Nat) (depth : Nat) (t : Token) : Verdict :=
  match t.role with
  | .opening =>
    match limit with
    | some n => if n ≤ depth then .tooDeep n else .accepted .opening
    | none => .accepted .opening
  | .atom =>
    match t.value with
    | .error e => .unreadable e
    | .ok v => .accepted (.atom v)
  | .closing => if depth = 0 then .unexpected else .accepted .closing
  | .stray => .unexpected

/-- What is expected in place of a token that has no place: the beginning of a list if none is
open, and the end of the innermost list otherwise. -/
def expectedKind (depth : Nat) : Kind :=
  if depth = 0 then Vocabulary.opening else Vocabulary.closing

/-- Makes the move of a token that the lexer moved past. A list closes only where one is open. -/
def Move.apply (reduction : Reduction E) (st : State E) : Move → Progress E
  | .opening => .more { st with stack := [] :: st.stack }
  | .atom v => attach reduction (.value v) st
  | .closing => attach reduction (.list (st.stack.headD [])) { st with stack := st.stack.tail }

/-- Carries out the verdict on a token. -/
def enact (reduction : Reduction E) (t : Token) (st : State E) : Verdict → Progress E
  | .unexpected => complain (some t) (expectedKind st.stack.length) st
  | .tooDeep n => .done (.error (.failed (.tooDeep n t.position))) st
  | .unreadable e => .done (.error (.failed e)) (st.consume t)
  | .accepted move => move.apply reduction (st.consume t)

/-- Opening a list enacts the verdict on a token that opens one. -/
theorem openList_eq_enact {p : Parser E} {t : Token} (reduction : Reduction E) (st : State E)
    (h : t.role = .opening) :
    p.openList t st = enact reduction t st (verdict p.maxDepth st.stack.length t) := by
  simp only [openList, verdict, h]
  cases p.maxDepth with
  | none => rfl
  | some n => by_cases hn : n ≤ st.stack.length <;> simp only [hn, if_true, if_false] <;> rfl

/-- Reading an atom enacts the verdict on an atom. -/
theorem readAtom_eq_enact {t : Token} (limit : Option Nat) (reduction : Reduction E)
    (st : State E) (h : t.role = .atom) :
    readAtom reduction t st = enact reduction t st (verdict limit st.stack.length t) := by
  simp only [readAtom, verdict, h]
  cases t.value <;> rfl

variable {p : Parser E} {l : Lexer} {source : List Char} {st : State E}

/-- **A step enacts the verdict** on the token that the lexer finds. -/
theorem step_eq_enact {t : Token} {s : Session} (reduction : Reduction E)
    (h : l.next source none true st.session = (.ok (some t), s)) :
    p.step reduction l source st =
      enact reduction t { st with session := s } (verdict p.maxDepth st.stack.length t) := by
  simp only [step, h]
  have opening (hrole : t.role = .opening) :=
    openList_eq_enact (p := p) reduction { st with session := s } hrole
  have atom (hrole : t.role = .atom) :=
    readAtom_eq_enact p.maxDepth reduction { st with session := s } hrole
  cases hstack : st.stack with
  | nil =>
    rw [hstack] at opening atom
    cases hrole : t.role with
    | opening =>
      simp only [hrole]
      exact opening hrole
    | atom =>
      simp only [hrole]
      exact atom hrole
    | closing => simp [verdict, hrole, enact, expectedKind]
    | stray => simp [verdict, hrole, enact, expectedKind]
  | cons nodes stack =>
    rw [hstack] at opening atom
    cases hrole : t.role with
    | opening =>
      simp only [hrole]
      exact opening hrole
    | atom =>
      simp only [hrole]
      exact atom hrole
    | closing => simp [verdict, hrole, enact, Move.apply, closeList, State.consume]
    | stray => simp [verdict, hrole, enact, expectedKind]

/-- A step that finds no token complains about what is missing. -/
theorem step_eq_complain {s : Session} (reduction : Reduction E)
    (h : l.next source none true st.session = (.ok none, s)) :
    p.step reduction l source st =
      complain none (expectedKind st.stack.length) { st with session := s } := by
  simp only [step, h]
  cases hstack : st.stack <;> rfl

/-- A step in which the lexer halts ends the run. -/
theorem step_eq_done {halt : Halt} {s : Session} (reduction : Reduction E)
    (h : l.next source none true st.session = (.error halt, s)) :
    p.step reduction l source st = .done (.error halt) { st with session := s } := by
  simp only [step, h]

/-! ### Nodes and their places -/

/-- Puts a finished node in its place: behind the nodes of the innermost open list, or at the
top, where it is the result. -/
def put (node : E) (st : State E) : Progress E :=
  match st.stack with
  | [] => .done (.ok node) st
  | nodes :: stack => .more { st with stack := (nodes ++ [node]) :: stack }

/-- A node is made by the reduction, and put in its place unless the reduction fails. -/
theorem attach_eq_put (reduction : Reduction E) (content : Content E) (st : State E) :
    attach reduction content st =
      match reduce reduction st.outer content st with
      | (.error e, st) => .done (.error (.failed e)) st
      | (.ok node, st) => put node st := rfl

/-- The reduction refused the last call that was made, with the error `e`. -/
def State.RefusedBy (reduction : Reduction E) (e : Error) (st : State E) : Prop :=
  ∃ call, st.calls.back? = some call ∧ reduction call.outer call.step = .error e

/-- **Making a node takes two calls**, and then the node is put in its place, unless one of the
calls is refused, which is the last one then. -/
theorem attach_cases (reduction : Reduction E) (content : Content E) (st : State E) :
    (∃ node calls, calls.size = st.calls.size + 2 ∧
      attach reduction content st = put node { st with calls := calls }) ∨
    ∃ e calls, st.calls.size ≤ calls.size ∧ calls.size ≤ st.calls.size + 2 ∧
      State.RefusedBy reduction e { st with calls := calls } ∧
      attach reduction content st = .done (.error (.failed e)) { st with calls := calls } := by
  let first : Call E := ⟨st.outer, .build content⟩
  rw [attach_eq_put]
  cases hbuild : reduction st.outer (.build content) with
  | error e =>
    refine .inr ⟨e, st.calls.push first, ?_, ?_, ⟨first, Array.back?_push, hbuild⟩, ?_⟩
    · simp
    · simp
    · simp only [reduce, hbuild, first]
  | ok built =>
    let second : Call E := ⟨st.outer, .finish built⟩
    cases hfinish : reduction st.outer (.finish built) with
    | error e =>
      refine .inr ⟨e, (st.calls.push first).push second, ?_, ?_,
        ⟨second, Array.back?_push, hfinish⟩, ?_⟩
      · simp only [Array.size_push]
        omega
      · simp
      · simp only [reduce, hbuild, hfinish, first, second]
    | ok node =>
      refine .inl ⟨node, (st.calls.push first).push second, ?_, ?_⟩
      · simp
      · simp only [reduce, hbuild, hfinish, first, second]

/-! ### Runs -/

/-- What follows from the progress made by a step. -/
def proceed (p : Parser E) (reduction : Reduction E) (l : Lexer) (source : List Char) :
    Progress E → Except Halt E × State E
  | .done result st => (result, st)
  | .more st => p.run reduction l source st

/-- **A run is a step and what follows from it.** -/
theorem run_eq_proceed (p : Parser E) (reduction : Reduction E) (l : Lexer) (source : List Char)
    (st : State E) :
    p.run reduction l source st =
      p.proceed reduction l source (p.step reduction l source st) := by
  rw [run]
  split <;> simp_all [proceed]

/-- A run enacts the verdict on the token ahead and goes on from there. The events that the
session noted down on the way do not matter. -/
theorem exists_run_eq_enact {t : Token} (reduction : Reduction E)
    (h : l.peek source st.session.position = (.ok (some t), t.position)) :
    ∃ s : Session, s.position = t.position ∧
      p.run reduction l source st =
        p.proceed reduction l source (enact reduction t { st with session := s }
          (verdict p.maxDepth st.stack.length t)) := by
  obtain ⟨s, hnext, hs⟩ := Lexer.exists_next_of_peek h
  exact ⟨s, hs, by rw [run_eq_proceed, step_eq_enact reduction hnext]⟩

/-- A run with no token ahead complains about what is missing. -/
theorem exists_run_eq_complain {q : Position} (reduction : Reduction E)
    (h : l.peek source st.session.position = (.ok none, q)) :
    ∃ s : Session, s.position = q ∧
      p.run reduction l source st =
        p.proceed reduction l source
          (complain none (expectedKind st.stack.length) { st with session := s }) := by
  obtain ⟨s, hnext, hs⟩ := Lexer.exists_next_of_peek h
  exact ⟨s, hs, by rw [run_eq_proceed, step_eq_complain reduction hnext]⟩

/-- A run that accepts the token ahead moves past it and makes the move. -/
theorem exists_run_of_accepted {t : Token} {move : Move} (reduction : Reduction E)
    (st : State E) (hpeek : l.peek source st.session.position = (.ok (some t), t.position))
    (h : verdict p.maxDepth st.stack.length t = .accepted move) :
    ∃ s : Session, s.position = t.stop ∧
      p.run reduction l source st =
        p.proceed reduction l source (move.apply reduction { st with session := s }) := by
  obtain ⟨s, hs, hrun⟩ := exists_run_eq_enact (p := p) reduction hpeek
  refine ⟨s.consume t, by rw [Session.position_consume, hs, Token.stop], ?_⟩
  rw [hrun, h]
  rfl

/-! ### Behind the expression -/

/-- What a whole parse makes of the result of its run. -/
def conclude (l : Lexer) (source : List Char) :
    Except Halt E × State E → Except Halt E × State E
  | (.ok root, st) => finish l source root st
  | (.error (.failed e), st) =>
    (.error (.failed e), { st with session := st.session.note (.failed e.message) })
  | (.error .midCharacter, st) => (.error .midCharacter, st)

/-- The state in which a whole parse begins its run. -/
def begin (l : Lexer) (source : List Char) (s : Session) : State E :=
  .start (s.note (.parsing (Text.byteSize source) l.vocabulary.length s.position))

/-- **A whole parse is a run and what is made of its result.** -/
theorem parseUsing_eq_conclude (p : Parser E) (reduction : Reduction E) (l : Lexer)
    (source : List Char) (s : Session) :
    p.parseUsing reduction l source s =
      conclude l source (p.run reduction l source (begin l source s)) := rfl

/-- The check behind an expression halts where the lexer does. -/
theorem finish_eq_done {halt : Halt} {s : Session} (root : E)
    (h : l.next source none true st.session = (.error halt, s)) :
    finish l source root st = (.error halt, { st with session := s }) := by
  rw [finish, h]

/-- An expression with nothing behind it is the result. -/
theorem finish_eq_ok {s : Session} (root : E)
    (h : l.next source none true st.session = (.ok none, s)) :
    finish l source root st =
      (.ok root, { st with session := s.note (.parsed s.position) }) := by
  rw [finish, h]

/-- A token behind the expression is an error. -/
theorem finish_eq_error {t : Token} {s : Session} (root : E)
    (h : l.next source none true st.session = (.ok (some t), s)) :
    finish l source root st =
      (.error (.failed (s.diagnose (some t) none).1),
        { st with session := (s.diagnose (some t) none).2 }) := by
  rw [finish, h]

/-- An expression with nothing ahead of it is the result. -/
theorem exists_finish_eq_ok (root : E) (st : State E) {q : Position}
    (h : l.peek source st.session.position = (.ok none, q)) :
    ∃ s, finish l source root st = (.ok root, { st with session := s }) := by
  obtain ⟨s, hnext, -⟩ := Lexer.exists_next_of_peek h
  exact ⟨_, finish_eq_ok root hnext⟩

/-- An expression with a token ahead of it is an error. -/
theorem exists_finish_eq_error (root : E) (st : State E) {t : Token}
    (h : l.peek source st.session.position = (.ok (some t), t.position)) :
    ∃ s st', finish l source root st =
      (.error (.failed (Session.diagnose s (some t) none).1), st') := by
  obtain ⟨s, hnext, -⟩ := Lexer.exists_next_of_peek h
  exact ⟨s, _, finish_eq_error root hnext⟩

end Parser

end Parens
