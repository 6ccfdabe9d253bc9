import Parens.Proofs.Lockstep
import Parens.Proofs.Tiling

/-!
# Runs in Two Places

The same parser can read the same text in two places: at the beginning of a source, and behind
something else. What it finds is the same up to the place, and `Position.shift` says what becomes of
a place: lines go on from the last line in front, and on that line columns go on too.

This is a relation between two runs of a parser. `ShiftsTo` holds of two sessions, of two states, of
what two steps come to, and of two errors, where the second of the two is the first one seen from
another beginning. A run keeps to the relation as long as the lexers on both sides answer every
search alike (`Lexer.Alike`), and this is asked for in the sessions in which the first run searches
(`Looks`), and nowhere else. Where both runs begin at the beginning, nothing is shifted, and the
relation is sameness.

## Main results

* `Position.shift_advance`: **reading goes on in the shifted place** as it does in the other one.
* `Lexer.alike_of_matchNext`: lexers that match the same answer alike.
* `step_shiftsTo`, `conclude_shiftsTo`: steps and whole parses keep to the relation, as long as the
  lexers answer alike.
-/

namespace Parens

/-! ### Places -/

namespace Position

/-- The place that a place at the beginning becomes behind a text that ends at `base`: lines are
counted on from the last line of that text, and on this line columns are counted on too. -/
def shift (base p : Position) : Position where
  offset := base.offset + p.offset
  line := base.line - 1 + p.line
  column := if p.line = 1 then base.column - 1 + p.column else p.column

/-- Behind nothing, places stay. -/
@[simp]
theorem shift_start (p : Position) : start.shift p = p := by
  simp [shift, start]

/-- Lines are counted from 1. -/
theorem line_pos_step {p : Position} (h : 0 < p.line) (c : Char) : 0 < (p.step c).line := by
  unfold step
  split
  · exact Nat.succ_pos _
  · exact h

/-- Lines are counted from 1. -/
theorem line_pos_advance {p : Position} (h : 0 < p.line) (text : List Char) :
    0 < (p.advance text).line := by
  rw [line_advance]
  exact Nat.add_pos_left h _

/-- Columns are counted from 1. -/
theorem column_pos_advance {p : Position} (h : 0 < p.column) (text : List Char) :
    0 < (p.advance text).column := by
  induction text generalizing p with
  | nil => exact h
  | cons c cs ih =>
    refine ih ?_
    unfold step
    split <;> exact Nat.succ_pos _

/-- Reading a character goes on in the shifted place. -/
theorem shift_step (base : Position) {p : Position} (h : 0 < p.line) (c : Char) :
    base.shift (p.step c) = (base.shift p).step c := by
  by_cases hc : c = '\n'
  · have hline : ¬ p.line = 0 := by omega
    simp [step, shift, hc, hline, Nat.add_assoc]
  · by_cases hline : p.line = 1 <;> simp [step, shift, hc, hline, Nat.add_assoc]

/-- **Reading goes on in the shifted place** as it does in the other one. -/
theorem shift_advance (base : Position) {p : Position} (h : 0 < p.line) (text : List Char) :
    base.shift (p.advance text) = (base.shift p).advance text := by
  induction text generalizing p with
  | nil => rfl
  | cons c cs ih => rw [advance_cons, advance_cons, ← shift_step base h, ih (line_pos_step h c)]

/-- The beginning is shifted to where the text in front ends. -/
theorem shift_eq_self (text : List Char) :
    (start.advance text).shift start = start.advance text := by
  have hline : 0 < (start.advance text).line := line_pos_advance Nat.one_pos text
  have hcolumn : 0 < (start.advance text).column := column_pos_advance Nat.one_pos text
  generalize start.advance text = base at hline hcolumn
  obtain ⟨offset, line, column⟩ := base
  simp only at hline hcolumn
  simp only [shift, start, if_true, mk.injEq]
  omega

end Position

/-! ### Tokens -/

namespace Token

/-- The token behind a text that ends at `base`. -/
def shift (base : Position) (t : Token) : Token := { t with position := base.shift t.position }

@[simp]
theorem shift_start (t : Token) : t.shift .start = t := by
  simp [shift]

@[simp]
theorem role_shift (base : Position) (t : Token) : (t.shift base).role = t.role := rfl

end Token

/-! ### Errors -/

/-- The second of two errors is the first one behind a text that ends at `base`. An error about the
source is about the same token in its shifted place. An error that was raised elsewhere is the
same. -/
inductive Error.ShiftsTo (base : Position) (raised : Error → Prop) : Error → Error → Prop
  /-- Something was found in place of what was expected. -/
  | misplaced (expected : String) (found : Option Token) (stop : Position) :
      ShiftsTo base raised (Parens.misplaced expected found stop)
        (Parens.misplaced expected (found.map (Token.shift base)) (base.shift stop))
  /-- A list stands too deep. -/
  | tooDeep (limit : Nat) (place : Position) :
      ShiftsTo base raised (.tooDeep limit place) (.tooDeep limit (base.shift place))
  /-- The error was raised elsewhere. -/
  | raised {e : Error} : raised e → ShiftsTo base raised e e

/-- What is asked of the errors raised elsewhere can be relaxed. -/
theorem Error.ShiftsTo.mono {base : Position} {raised raised' : Error → Prop} {e e' : Error}
    (h : Error.ShiftsTo base raised e e') (himp : ∀ e, raised e → raised' e) :
    Error.ShiftsTo base raised' e e' := by
  cases h with
  | misplaced expected found stop => exact .misplaced expected found stop
  | tooDeep limit place => exact .tooDeep limit place
  | raised h => exact .raised (himp _ h)

/-- Behind nothing, errors stay. -/
theorem Error.ShiftsTo.eq_of_start {raised : Error → Prop} {e e' : Error}
    (h : Error.ShiftsTo .start raised e e') : e' = e := by
  have hshift : Token.shift .start = id := funext Token.shift_start
  cases h with
  | misplaced expected found stop => rw [hshift, Option.map_id, Position.shift_start, id]
  | tooDeep limit place => rw [Position.shift_start]
  | raised h => rfl

/-! ### Sessions -/

/-- The token that an event says was moved past: the label of its kind, its text and its place. -/
def Event.passed? : Event → Option (String × List Char × Position)
  | consumed label text place => some (label, text, place)
  | _ => none

namespace Session

/-- The tokens that a session moved past, in order. -/
def trail (s : Session) : List (String × List Char × Position) :=
  s.events.toList.filterMap Event.passed?

/-- A trail in its shifted place. -/
def shiftTrail (base : Position) (trail : List (String × List Char × Position)) :
    List (String × List Char × Position) :=
  trail.map fun (label, text, place) => (label, text, base.shift place)

@[simp]
theorem trail_note {e : Event} (s : Session) (he : e.passed? = none) :
    (s.note e).trail = s.trail := by
  simp [trail, note, he]

@[simp]
theorem trail_consume (s : Session) (t : Token) :
    (s.consume t).trail = s.trail ++ [(t.kind.label, t.text, t.position)] := by
  simp [trail, consume, Event.passed?]

/-- The second of two sessions is the first one behind a text that ends at `base`: it stands in the
shifted place, and moved past the same tokens in their shifted places. -/
structure ShiftsTo (base : Position) (s s' : Session) : Prop where
  /-- Lines are counted from 1. -/
  line_pos : 0 < s.position.line
  /-- It stands in the shifted place. -/
  position_eq : s'.position = base.shift s.position
  /-- It moved past the same tokens. -/
  trail_eq : s'.trail = shiftTrail base s.trail

namespace ShiftsTo

variable {base : Position} {s s' : Session}

/-- What is noted down does not matter, unless it is a token moved past. -/
theorem note (h : s.ShiftsTo base s') {e e' : Event} (he : e.passed? = none)
    (he' : e'.passed? = none) : (s.note e).ShiftsTo base (s'.note e') where
  line_pos := h.line_pos
  position_eq := h.position_eq
  trail_eq := by rw [trail_note s he, trail_note s' he', h.trail_eq]

/-- Both sessions can move past a token, each in its place. -/
theorem consume (h : s.ShiftsTo base s') (t : Token) :
    (s.consume t).ShiftsTo base (s'.consume (t.shift base)) where
  line_pos := Position.line_pos_advance h.line_pos _
  position_eq := by
    rw [position_consume, position_consume, h.position_eq, Position.shift_advance base h.line_pos]
    rfl
  trail_eq := by
    rw [trail_consume, trail_consume, h.trail_eq]
    simp [shiftTrail, Token.shift]

/-- Both sessions can pass over a token, each in its place. -/
theorem pass (h : s.ShiftsTo base s') (t : Token) :
    (s.pass t).ShiftsTo base (s'.pass (t.shift base)) :=
  (h.note rfl rfl).consume t

/-- Both sessions can diagnose a fault. -/
theorem diagnose (h : s.ShiftsTo base s') (found found' : Option Token)
    (expected : Option Kind) :
    (s.diagnose found expected).2.ShiftsTo base (s'.diagnose found' expected).2 :=
  h.note rfl rfl

/-- Behind nothing, sessions stand in the same place and moved past the same tokens. -/
theorem eq_of_start (h : s.ShiftsTo .start s') : s'.position = s.position ∧ s'.trail = s.trail := by
  refine ⟨by rw [h.position_eq, Position.shift_start], ?_⟩
  rw [h.trail_eq, shiftTrail]
  simp only [Position.shift_start]
  exact List.map_id' _

/-- The token of a match stands where the session does. -/
theorem tokenAt_eq (h : s.ShiftsTo base s') (m : Match) :
    Lexer.tokenAt s' m = (Lexer.tokenAt s m).shift base := by
  rw [Lexer.tokenAt, h.position_eq]
  rfl

end ShiftsTo

end Session

/-! ### What lexers find -/

namespace Lexer

variable {v : Vocabulary}

/-- A match is one of a kind in the vocabulary. -/
theorem kind_mem_of_firstOf {rest : List Char} {m : Match} (h : firstOf v rest = some m) :
    m.kind ∈ v := by
  obtain ⟨k, hk, hmatch⟩ := List.exists_of_findSome?_eq_some h
  rw [(Match.of?_eq_some_iff.1 hmatch).1]
  exact hk

/-- A match is what its kind recognises. -/
theorem front_of_firstOf {rest : List Char} {m : Match} (h : firstOf v rest = some m) :
    m.kind.front rest = m.text := by
  obtain ⟨k, hk, hmatch⟩ := List.exists_of_findSome?_eq_some h
  obtain ⟨rfl, htext⟩ := Match.of?_eq_some_iff.1 hmatch
  exact htext.symm

/-- What a lexer finds that tries a vocabulary in order is of a kind in the vocabulary. -/
theorem kind_mem_of_matchNext {source : List Char} {offset : Nat} {m : Match}
    (h : (firstMatch v).matchNext source none offset = .ok (some m)) : m.kind ∈ v := by
  obtain ⟨rest, -, hfirst⟩ := exists_firstOf_of_matchNext h
  exact kind_mem_of_firstOf hfirst

/-- Two lexers answer alike in two sessions: they find the same token, each in its place, or both
find none. A token found has the same value in both places. -/
def Alike (base : Position) (l l' : Lexer) (source source' : List Char) (s s' : Session) :
    Prop :=
  ∃ found s₁ s₁', l.next source none true s = (.ok found, s₁) ∧
    l'.next source' none true s' = (.ok (found.map (Token.shift base)), s₁') ∧
    s₁.ShiftsTo base s₁' ∧
    ∀ t, found = some t → (t.shift base).value = t.value ∧ t.kind ∈ l.vocabulary

/-- **Lexers that match the same answer alike.** In sessions in relation, let both stand inside
their sources or both behind the end, and let them match the same there, as long as the kind of a
significant match is one that is asked for. Then they answer alike where the first one finds a token
of such a kind, or none. Induction on the search. -/
theorem alike_of_matchNext {base : Position} {v v' : Vocabulary} {source source' : List Char}
    (asked : Kind → Prop) (hvalue : ∀ t : Token, t.kind ∈ v → (t.shift base).value = t.value)
    (hinside : ∀ {s s' : Session}, s.ShiftsTo base s' →
      (s'.position.offset < Text.byteSize source' ↔ s.position.offset < Text.byteSize source))
    (hmatch : ∀ {s s' : Session} {found : Option Match}, s.ShiftsTo base s' →
      s.position.offset < Text.byteSize source →
      (firstMatch v).matchNext source none s.position.offset = .ok found →
      (∀ m, found = some m → m.kind.significant = true → asked m.kind) →
      (firstMatch v').matchNext source' none s'.position.offset = .ok found)
    {s s' : Session} (h : s.ShiftsTo base s')
    (hasked : ∀ t s₁, (firstMatch v).next source none true s = (.ok (some t), s₁) →
      asked t.kind) :
    Alike base (firstMatch v) (firstMatch v') source source' s s' := by
  unfold Alike
  fun_induction (firstMatch v).next source none true s generalizing s' with
  | case1 s hlt halt hm => cases hm
  | case2 s hlt hm =>
    have hm' := hmatch h hlt hm fun m hfound => by cases hfound
    refine ⟨none, s, s', rfl, ?_, h, fun t ht => by cases ht⟩
    rw [next, if_pos ((hinside h).2 hlt), hm']
    rfl
  | case3 s hlt m hm hskip ih =>
    have hm' := hmatch h hlt hm fun m' hfound hsig => by
      obtain rfl := Option.some.inj hfound
      simp [hsig] at hskip
    obtain ⟨found, s₁, s₁', hnext, hnext', hs₁, hfound⟩ := ih (h.pass (tokenAt s m)) hasked
    refine ⟨found, s₁, s₁', hnext, ?_, hs₁, hfound⟩
    rw [next, if_pos ((hinside h).2 hlt), hm']
    simp only [hskip, if_true, h.tokenAt_eq]
    exact hnext'
  | case4 s hlt m hm hskip =>
    have hm' := hmatch h hlt hm fun m' hfound _ => by
      obtain rfl := Option.some.inj hfound
      exact hasked (tokenAt s m) s rfl
    refine ⟨some (tokenAt s m), s, s', rfl, ?_, h, fun t ht => ?_⟩
    · rw [next, if_pos ((hinside h).2 hlt), hm']
      simp only [hskip, h.tokenAt_eq]
      rfl
    · obtain rfl := Option.some.inj ht
      have hkind : m.kind ∈ v := kind_mem_of_matchNext hm
      exact ⟨hvalue _ hkind, hkind⟩
  | case5 s hlt =>
    refine ⟨none, s, s', rfl, ?_, h, fun t ht => by cases ht⟩
    rw [next, if_neg fun hlt' => hlt ((hinside h).1 hlt')]
    rfl

end Lexer

namespace Parser

variable {E : Type} {base : Position} {v : Vocabulary} {reduction : Reduction E}

/-- The second of two states is the first one behind a text that ends at `base`: so is its session,
and its nodes and calls are the same. -/
inductive State.ShiftsTo (base : Position) : State E → State E → Prop
  /-- Only the sessions differ. -/
  | mk {s s' : Session} (stack : List (List E)) (calls : Array (Call E)) :
      s.ShiftsTo base s' → ShiftsTo base ⟨s, stack, calls⟩ ⟨s', stack, calls⟩

/-- An error was raised in a state: the last token that was moved past has no value because of it,
or the reduction refused the last call with it. -/
def State.Raised (v : Vocabulary) (reduction : Reduction E) (st : State E) (e : Error) : Prop :=
  (∃ t : Token, t.kind ∈ v ∧ t.value = .error e ∧
      st.session.trail.getLast? = some (t.kind.label, t.text, t.position)) ∨
    st.RefusedBy reduction e

/-- The progress of two parsers, the second of them behind a text that ends at `base`. -/
inductive Progress.ShiftsTo (base : Position) (v : Vocabulary) (reduction : Reduction E) :
    Progress E → Progress E → Prop
  /-- Both go on. -/
  | more {st st' : State E} :
      st.ShiftsTo base st' → ShiftsTo base v reduction (.more st) (.more st')
  /-- Both complete the same expression. -/
  | complete {st st' : State E} (root : E) :
      st.ShiftsTo base st' →
      ShiftsTo base v reduction (.done (.ok root) st) (.done (.ok root) st')
  /-- Both fail, each in its place. -/
  | failed {st st' : State E} {e e' : Error} :
      e.ShiftsTo base (st.Raised v reduction) e' → st.ShiftsTo base st' →
      ShiftsTo base v reduction (.done (.error (.failed e)) st) (.done (.error (.failed e')) st')

/-- Inversion for whole parses: the sessions are in relation, the calls are the same, and so is the
root, or else the errors are in relation. -/
theorem Progress.ShiftsTo.ended_inv {outcome outcome' : Except Halt E × State E}
    (h : (Progress.ended outcome).ShiftsTo base v reduction (.ended outcome')) :
    outcome.2.session.ShiftsTo base outcome'.2.session ∧ outcome'.2.calls = outcome.2.calls ∧
      ((∃ root, outcome.1 = .ok root ∧ outcome'.1 = .ok root) ∨
        ∃ e e', outcome.1 = .error (.failed e) ∧ outcome'.1 = .error (.failed e') ∧
          e.ShiftsTo base (outcome.2.Raised v reduction) e') := by
  obtain ⟨result, st⟩ := outcome
  obtain ⟨result', st'⟩ := outcome'
  cases h with
  | complete root h =>
    obtain ⟨stack, calls, hs⟩ := h
    exact ⟨hs, rfl, .inl ⟨root, rfl, rfl⟩⟩
  | failed he h =>
    obtain ⟨stack, calls, hs⟩ := h
    exact ⟨hs, rfl, .inr ⟨_, _, rfl, rfl, he⟩⟩

variable {st st' : State E}

/-! ### Steps -/

/-- States in relation have sessions in relation. -/
theorem State.ShiftsTo.session (h : st.ShiftsTo base st') :
    st.session.ShiftsTo base st'.session := by
  obtain ⟨stack, calls, hs⟩ := h
  exact hs

/-- States stay in relation when their sessions change and stay in relation. -/
theorem State.ShiftsTo.withSession (h : st.ShiftsTo base st') {s s' : Session}
    (hs : s.ShiftsTo base s') :
    State.ShiftsTo base { st with session := s } { st' with session := s' } := by
  obtain ⟨stack, calls, -⟩ := h
  exact .mk stack calls hs

/-- What is noted down does not matter to the error that was raised. -/
theorem State.Raised.note {e : Error} (h : st.Raised v reduction e) {event : Event}
    (hevent : event.passed? = none) :
    State.Raised v reduction { st with session := st.session.note event } e := by
  obtain ⟨t, hkind, hvalue, hlast⟩ | hrefused := h
  · refine .inl ⟨t, hkind, hvalue, ?_⟩
    rw [Session.trail_note _ hevent, hlast]
  · exact .inr hrefused

/-- A node takes the same place on both sides. -/
theorem put_shiftsTo (h : st.ShiftsTo base st') (node : E) :
    (put node st).ShiftsTo base v reduction (put node st') := by
  obtain ⟨stack, calls, hs⟩ := h
  cases stack with
  | nil => exact .complete node (.mk [] calls hs)
  | cons nodes stack => exact .more (.mk ((nodes ++ [node]) :: stack) calls hs)

/-- The reduction is called in the same way on both sides. -/
theorem attach_shiftsTo (h : st.ShiftsTo base st') (content : Content E) :
    (attach reduction content st).ShiftsTo base v reduction (attach reduction content st') := by
  obtain ⟨stack, calls, hs⟩ := h
  rw [attach_eq_put, attach_eq_put]
  simp only [reduce, State.outer]
  cases hbuild : reduction stack.head? (.build content) with
  | error e => exact .failed (.raised (.inr ⟨_, Array.back?_push, hbuild⟩)) (.mk stack _ hs)
  | ok built =>
    dsimp only
    cases hfinish : reduction stack.head? (.finish built) with
    | error e => exact .failed (.raised (.inr ⟨_, Array.back?_push, hfinish⟩)) (.mk stack _ hs)
    | ok node => exact put_shiftsTo (.mk stack _ hs) node

/-- Both sides complain about the same token, each in its place. -/
theorem complain_shiftsTo (h : st.ShiftsTo base st') (found : Option Token) (lists : Nat) :
    (complain found (expectedKind lists) st).ShiftsTo base v reduction
      (complain (found.map (Token.shift base)) (expectedKind lists) st') := by
  rw [complain_eq_done, complain_eq_done, h.session.position_eq]
  exact .failed (.misplaced _ _ _) (h.withSession (h.session.diagnose _ _ _))

/-- A move does the same on both sides. -/
theorem apply_shiftsTo (h : st.ShiftsTo base st') (move : Move) :
    (move.apply reduction st).ShiftsTo base v reduction (move.apply reduction st') := by
  obtain ⟨stack, calls, hs⟩ := h
  cases move with
  | opening => exact .more (.mk ([] :: stack) calls hs)
  | atom v => exact attach_shiftsTo (.mk stack calls hs) (.value v)
  | closing => exact attach_shiftsTo (.mk stack.tail calls hs) (.list (stack.headD []))

/-- **A verdict is carried out in the same way on both sides.** -/
theorem enact_shiftsTo (h : st.ShiftsTo base st') {t : Token} (hkind : t.kind ∈ v)
    {verdict : Verdict} (hverdict : ∀ e, verdict = .unreadable e → t.value = .error e) :
    (enact reduction t st verdict).ShiftsTo base v reduction
      (enact reduction (t.shift base) st' verdict) := by
  have hconsume : (st.consume t).ShiftsTo base (st'.consume (t.shift base)) :=
    h.withSession (h.session.consume t)
  cases verdict with
  | unexpected =>
    obtain ⟨stack, calls, hs⟩ := h
    exact complain_shiftsTo (.mk stack calls hs) (some t) stack.length
  | tooDeep n => exact .failed (.tooDeep n t.position) h
  | unreadable e =>
    have hlast : (st.consume t).session.trail.getLast? =
        some (t.kind.label, t.text, t.position) := by
      simp [State.consume]
    exact .failed (.raised (.inl ⟨t, hkind, hverdict e rfl, hlast⟩)) hconsume
  | accepted move => exact apply_shiftsTo hconsume move

/-- The verdict on a token that has the same value in both places is the same. -/
theorem verdict_shift {t : Token} (h : (t.shift base).value = t.value) (limit : Option Nat)
    (depth : Nat) : verdict limit depth (t.shift base) = verdict limit depth t := by
  simp only [verdict, Token.role_shift, h]

variable {p p' : Parser E} {l l' : Lexer} {source source' : List Char}

/-- **A step keeps to the relation** if the lexers answer alike. -/
theorem step_shiftsTo (hlimit : p'.maxDepth = p.maxDepth) (h : st.ShiftsTo base st')
    (halike : l.Alike base l' source source' st.session st'.session) :
    (p.step reduction l source st).ShiftsTo base l.vocabulary reduction
      (p'.step reduction l' source' st') := by
  obtain ⟨found, s, s', hnext, hnext', hs, hvalue⟩ := halike
  obtain ⟨stack, calls, -⟩ := h
  cases found with
  | none =>
    rw [step_eq_complain reduction hnext, step_eq_complain reduction hnext']
    exact complain_shiftsTo (.mk stack calls hs) none stack.length
  | some t =>
    obtain ⟨hsame, hkind⟩ := hvalue t rfl
    rw [step_eq_enact reduction hnext, step_eq_enact reduction hnext', hlimit,
      verdict_shift hsame]
    exact enact_shiftsTo (.mk stack calls hs) hkind fun e he => (verdict_eq_unreadable_iff.1 he).2

/-! ### Whole parses -/

/-- A whole parse that begins its run in some state looks for a token in some session: at the
beginning of a step, or behind the expression. -/
inductive Looks (p : Parser E) (reduction : Reduction E) (l : Lexer) (source : List Char) :
    State E → Session → Prop
  /-- It looks for a token where it stands. -/
  | now (st : State E) : Looks p reduction l source st st.session
  /-- It goes on after a step. -/
  | later {st st₁ : State E} {s : Session} :
      p.step reduction l source st = .more st₁ → Looks p reduction l source st₁ s →
      Looks p reduction l source st s
  /-- It looks for a token behind the expression. -/
  | behind {st st₁ : State E} {root : E} :
      p.step reduction l source st = .done (.ok root) st₁ →
      Looks p reduction l source st st₁.session

/-- The check behind an expression keeps to the relation if the lexers answer alike. -/
theorem finish_shiftsTo (root : E) (h : st.ShiftsTo base st')
    (halike : l.Alike base l' source source' st.session st'.session) :
    (Progress.ended (finish l source root st)).ShiftsTo base v reduction
      (.ended (finish l' source' root st')) := by
  obtain ⟨found, s, s', hnext, hnext', hs, -⟩ := halike
  cases found with
  | none =>
    rw [finish_eq_ok root hnext, finish_eq_ok root hnext']
    exact .complete root (h.withSession (hs.note rfl rfl))
  | some t =>
    rw [finish_eq_error root hnext, finish_eq_error root hnext']
    exact .failed (.misplaced "end of input" (some t) t.position)
      (h.withSession (hs.diagnose _ _ _))

/-- **A whole parse keeps to the relation** if the lexers answer alike in all sessions in which it
looks for a token. Induction on the run. -/
theorem conclude_shiftsTo (p p' : Parser E) (hlimit : p'.maxDepth = p.maxDepth)
    (h : st.ShiftsTo base st')
    (halike : ∀ s s', p.Looks reduction l source st s → s.ShiftsTo base s' →
      l.Alike base l' source source' s s') :
    (Progress.ended (conclude l source (p.run reduction l source st))).ShiftsTo base l.vocabulary
      reduction (.ended (conclude l' source' (p'.run reduction l' source' st'))) := by
  fun_induction p.run reduction l source st generalizing st' with
  | case1 st result st₁ hstep =>
    have hboth : (p.step reduction l source st).ShiftsTo base l.vocabulary reduction
        (p'.step reduction l' source' st') :=
      step_shiftsTo hlimit h (halike _ _ (.now st) h.session)
    rw [run_eq_proceed p']
    rw [hstep] at hboth
    generalize p'.step reduction l' source' st' = progress at hboth
    cases hboth with
    | complete root h => exact finish_shiftsTo root h (halike _ _ (.behind hstep) h.session)
    | failed he h =>
      exact .failed (he.mono fun _ hraised => hraised.note rfl)
        (h.withSession (h.session.note rfl rfl))
  | case2 st st₁ hstep ih =>
    have hboth : (p.step reduction l source st).ShiftsTo base l.vocabulary reduction
        (p'.step reduction l' source' st') :=
      step_shiftsTo hlimit h (halike _ _ (.now st) h.session)
    rw [run_eq_proceed p']
    rw [hstep] at hboth
    generalize p'.step reduction l' source' st' = progress at hboth
    cases hboth with
    | more h => exact ih h fun s s' hlooks => halike s s' (.later hstep hlooks)

end Parser

end Parens
