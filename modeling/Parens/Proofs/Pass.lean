import Parens.Lexer.Direct
import Parens.Proofs.Fold
import Parens.Proofs.Recognition

/-!
# One Pass over the Tokens

Whether a source is list notation, and what is wrong with it if it is not, can be told by going
through its tokens once and counting the open lists. `Stage.take` takes in one token, and
`diagnose` is the pass: the first token that does not fit ends it with its error.

The parser does nothing else as far as the grammar is concerned. `agrees_run` compares a run of
the parser, whose stack is reduced to its height, with the pass. It is stated for every
reduction that never fails; the induction is on the tokens ahead.

## Main results

* `Stage.pass_eq_error_iff`: the pass reports the first token that offends.
* `agrees_run`: a run fails as the pass does, or leaves the tokens on which the pass goes on.
* `map_parseUsing_eq_diagnose`, `parse_eq_first_offence`: a parse comes to what the pass comes to.
-/

namespace Parens

/-- A reduction that never fails. -/
def Reduction.Total {E : Type} (reduction : Reduction E) : Prop :=
  ∀ outer step, ∃ node, reduction outer step = .ok node

/-! ### The pass -/

/-- How far a pass over the tokens of a source has come. -/
inductive Stage where
  /-- Some lists are open. If there is none, nothing was read. -/
  | reading (lists : Nat)
  /-- The expression is complete. -/
  | complete
deriving DecidableEq

/-- The error for a token, or for the end of the source at `stop`, in place of what was
expected. -/
def misplaced (expected : String) (found : Option Token) (stop : Position) : Error :=
  let position := (found.map Token.position).getD stop
  let words := (found.map Token.render).getD "end of input"
  .malformed
    ("syntax error: " ++ expected ++ " expected but found " ++ words ++ " at " ++ position.render)
    position

namespace Stage

/-- The stage behind an expression that some lists enclose. -/
def behind (lists : Nat) : Stage := if lists = 0 then complete else reading lists

/-- What is expected in place of a token that does not fit. -/
def expected (lists : Nat) : String := if lists = 0 then "(" else ")"

/-- Takes in one token, or says what is wrong with it. -/
def take (limit : Option Nat) : Stage → Token → Except Error Stage
  | reading lists, t =>
    match t.role with
    | .opening =>
      if limit = some lists then .error (.tooDeep lists t.position) else .ok (reading (lists + 1))
    | .atom => do
      let _ ← t.value
      return behind lists
    | .closing =>
      if lists = 0 then .error (misplaced (expected lists) (some t) t.position)
      else .ok (behind (lists - 1))
    | .stray => .error (misplaced (expected lists) (some t) t.position)
  | complete, t => .error (misplaced "end of input" (some t) t.position)

/-- Takes in the end of the source. -/
def finish (stop : Position) : Stage → Except Error Unit
  | reading lists => .error (misplaced (expected lists) none stop)
  | complete => .ok ()

/-- The next token offends with an error, or the end of the source at `stop` does. -/
def Offends (limit : Option Nat) (stop : Position) (stage : Stage) : Option Token → Error → Prop
  | some t, e => stage.take limit t = .error e
  | none, e => stage.finish stop = .error e

/-- Goes on with some tokens up to the end of the source. -/
def pass (limit : Option Nat) (stop : Position) (stage : Stage) (tokens : List Token) :
    Except Error Unit := do
  let stage ← tokens.foldlM (take limit) stage
  stage.finish stop

theorem pass_nil (limit : Option Nat) (stop : Position) (stage : Stage) :
    pass limit stop stage [] = stage.finish stop := rfl

theorem pass_cons (limit : Option Nat) (stop : Position) (stage : Stage) (t : Token)
    (ts : List Token) :
    pass limit stop stage (t :: ts) =
      stage.take limit t >>= fun stage => pass limit stop stage ts := by
  rw [pass, List.foldlM_cons]
  cases stage.take limit t <;> rfl

end Stage

/-- **The pass over the tokens of a source** that ends at `stop`. -/
def diagnose (limit : Option Nat) (tokens : List Token) (stop : Position) : Except Error Unit :=
  (Stage.reading 0).pass limit stop tokens

namespace Stage

/-- **The first offender is reported**: a pass fails with an error exactly where some tokens are
taken in and the next one, or the end of the source behind them, offends with that error. -/
theorem pass_eq_error_iff {limit : Option Nat} {stop : Position} {stage : Stage}
    {tokens : List Token} {e : Error} :
    stage.pass limit stop tokens = .error e ↔
      ∃ before rest stage', tokens = before ++ rest ∧
        before.foldlM (take limit) stage = .ok stage' ∧
        stage'.Offends limit stop rest.head? e := by
  induction tokens generalizing stage with
  | nil =>
    rw [pass_nil]
    constructor
    · intro h
      exact ⟨[], [], stage, rfl, rfl, h⟩
    · rintro ⟨before, rest, stage', happ, hbefore, h⟩
      obtain ⟨rfl, rfl⟩ := List.append_eq_nil_iff.1 happ.symm
      obtain rfl := Except.ok.inj hbefore
      exact h
  | cons t ts ih =>
    rw [pass_cons]
    constructor
    · intro h
      cases htake : stage.take limit t with
      | error e' =>
        rw [htake] at h
        obtain rfl : e' = e := Except.error.inj h
        exact ⟨[], t :: ts, stage, rfl, rfl, htake⟩
      | ok next =>
        rw [htake] at h
        obtain ⟨before, rest, stage', rfl, hbefore, hrest⟩ := ih.1 h
        refine ⟨t :: before, rest, stage', rfl, ?_, hrest⟩
        rw [List.foldlM_cons, htake]
        exact hbefore
    · rintro ⟨before, rest, stage', happ, hbefore, h⟩
      cases before with
      | nil =>
        obtain rfl := Except.ok.inj hbefore
        obtain rfl : t :: ts = rest := happ
        have htake : stage.take limit t = .error e := h
        rw [htake]
        rfl
      | cons u before =>
        obtain ⟨rfl, rfl⟩ := List.cons_eq_cons.1 happ
        rw [List.foldlM_cons] at hbefore
        obtain ⟨next, htake, hbefore⟩ := TokenTree.exists_of_bind_eq_ok hbefore
        rw [htake]
        exact ih.2 ⟨before, rest, stage', rfl, hbefore, h⟩

end Stage

namespace Parser

/-! ### The parser makes the pass -/

variable {E : Type}

/-- What was expected is said in the words of a diagnosis. -/
theorem diagnosis_eq_misplaced (s : Session) (found : Option Token) (lists : Nat) :
    (s.diagnose found (some (expectedKind lists))).1 =
      misplaced (Stage.expected lists) found s.position := by
  have hopening : Vocabulary.opening.render = "(" := by decide
  have hclosing : Vocabulary.closing.render = ")" := by decide
  have hrender : (expectedKind lists).render = Stage.expected lists := by
    unfold expectedKind Stage.expected
    by_cases h0 : lists = 0
    · rw [if_pos h0, if_pos h0, hopening]
    · rw [if_neg h0, if_neg h0, hclosing]
  unfold Session.diagnose Session.diagnosis misplaced
  simp only [hrender]
  cases found <;> rfl

/-- A run that stops at what was found says what is misplaced. -/
theorem complain_eq_done (found : Option Token) (lists : Nat) (st : State E) :
    complain found (expectedKind lists) st =
      .done (.error (.failed (misplaced (Stage.expected lists) found st.session.position)))
        { st with session := (st.session.diagnose found (some (expectedKind lists))).2 } := by
  rw [← diagnosis_eq_misplaced]
  rfl

/-- The stage that a move leads to with some lists open. -/
def Move.stage (lists : Nat) : Move → Stage
  | .opening => .reading (lists + 1)
  | .atom _ => .behind lists
  | .closing => .behind (lists - 1)

/-- What the pass makes of the verdict on a token with some lists open. -/
def stageOf (lists : Nat) (t : Token) : Verdict → Except Error Stage
  | .unexpected => .error (misplaced (Stage.expected lists) (some t) t.position)
  | .tooDeep n => .error (.tooDeep n t.position)
  | .unreadable e => .error e
  | .accepted move => .ok (move.stage lists)

/-- **The pass takes in a token by its verdict**, as long as no list too many is open. -/
theorem take_eq_stageOf {limit : Option Nat} {lists : Nat} (t : Token)
    (h : Within limit lists) :
    (Stage.reading lists).take limit t = stageOf lists t (verdict limit lists t) := by
  simp only [Stage.take, verdict]
  cases hrole : t.role with
  | opening =>
    cases limit with
    | none => rfl
    | some n =>
      have hn : lists ≤ n := h n rfl
      by_cases heq : n = lists
      · subst heq
        simp [stageOf]
      · have hlt : ¬ n ≤ lists := by omega
        simp [heq, hlt, stageOf, Move.stage]
  | atom => cases t.value <;> rfl
  | closing => by_cases h0 : lists = 0 <;> simp [h0, stageOf, Move.stage]
  | stray => rfl

/-- A result is what the pass comes to: a failure of the pass, or a complete expression on whose
following tokens, up to the place `q`, the pass goes on. -/
def Agrees (l : Lexer) (source : List Char) (limit : Option Nat) (q stop : Position)
    (outcome : Except Error Unit) : Except Halt E × State E → Prop
  | (.error halt, _) => ∃ e, halt = .failed e ∧ outcome = .error e
  | (.ok _, st) => ∃ rest, l.Reads source st.session.position rest q ∧
      outcome = Stage.complete.pass limit stop rest

variable {p : Parser E} {reduction : Reduction E} {l : Lexer} {source : List Char}
  {q stop : Position}

/-- A reduction that never fails makes a node with two calls, and it is put in its place. -/
theorem exists_put_of_attach (hr : reduction.Total) (content : Content E) (st : State E) :
    ∃ node calls, calls.size = st.calls.size + 2 ∧
      attach reduction content st = put node { st with calls := calls } := by
  obtain hput | ⟨e, calls, -, -, ⟨call, -, hrefused⟩, -⟩ := attach_cases reduction content st
  · exact hput
  · obtain ⟨node, hnode⟩ := hr call.outer call.step
    rw [hnode] at hrefused
    cases hrefused

/-- A node that is made completes the expression, or the run goes on as it does from every state
at the same place with as many open lists. -/
theorem agrees_attach (hr : reduction.Total) {ts : List Token} (content : Content E)
    (st : State E) (hreads : l.Reads source st.session.position ts q)
    (hrun : ∀ st' : State E, st'.session = st.session → st'.stack.length = st.stack.length →
      Agrees l source p.maxDepth q stop
        ((Stage.reading st'.stack.length).pass p.maxDepth stop ts)
        (p.run reduction l source st')) :
    Agrees l source p.maxDepth q stop ((Stage.behind st.stack.length).pass p.maxDepth stop ts)
      (p.proceed reduction l source (attach reduction content st)) := by
  obtain ⟨node, calls, -, hput⟩ := exists_put_of_attach hr content st
  rw [hput]
  unfold put
  cases hstack : st.stack with
  | nil => exact ⟨ts, hreads, rfl⟩
  | cons nodes stack =>
    exact hrun ⟨st.session, (nodes ++ [node]) :: stack, calls⟩ rfl (by rw [hstack]; rfl)

/-- **A run of the parser is the pass over the tokens ahead**, up to the end of an expression.
Induction on the tokens; the stack matters by its height only. -/
theorem agrees_run (hr : reduction.Total) {ts : List Token} (st : State E)
    (hreads : l.Reads source st.session.position ts q) (hend : l.peek source q = (.ok none, stop))
    (hlimit : Within p.maxDepth st.stack.length) :
    Agrees l source p.maxDepth q stop
      ((Stage.reading st.stack.length).pass p.maxDepth stop ts)
      (p.run reduction l source st) := by
  induction ts generalizing st with
  | nil =>
    rw [← hreads.nil_inv] at hend
    obtain ⟨s, hs, hrun⟩ := exists_run_eq_complain (p := p) reduction hend
    rw [hrun, complain_eq_done, hs]
    exact ⟨_, rfl, rfl⟩
  | cons t ts ih =>
    obtain ⟨hpeek, hrest⟩ := hreads.cons_inv
    obtain ⟨s, hs, hrun⟩ := exists_run_eq_enact (p := p) reduction hpeek
    rw [hrun, Stage.pass_cons, take_eq_stageOf t hlimit]
    have hstop : (s.consume t).position = t.stop := by
      rw [Session.position_consume, hs, Token.stop]
    have hbehind : l.Reads source (s.consume t).position ts q := hstop ▸ hrest
    cases hverdict : verdict p.maxDepth st.stack.length t with
    | unexpected =>
      rw [enact, complain_eq_done]
      exact ⟨_, rfl, rfl⟩
    | tooDeep n => exact ⟨_, rfl, rfl⟩
    | unreadable e => exact ⟨_, rfl, rfl⟩
    | accepted move =>
      cases move with
      | opening =>
        exact ih ⟨s.consume t, [] :: st.stack, st.calls⟩ hbehind
          (verdict_eq_opening_iff.1 hverdict).2
      | atom v =>
        refine agrees_attach hr (.value v) ⟨s.consume t, st.stack, st.calls⟩ hbehind ?_
        intro st' hsession hlength
        exact ih st' (hsession ▸ hbehind) (hlength ▸ hlimit)
      | closing =>
        -- The pass counts down where the parser takes the innermost list off its stack.
        have hlength : st.stack.tail.length = st.stack.length - 1 := List.length_tail
        rw [stageOf, Move.stage, ← hlength]
        refine agrees_attach hr (.list (st.stack.headD []))
          ⟨s.consume t, st.stack.tail, st.calls⟩ hbehind ?_
        intro st' hsession hlength'
        exact ih st' (hsession ▸ hbehind) (hlength' ▸ hlimit.mono (by rw [hlength]; omega))

/-! ### Whole sources -/

/-- What follows an expression is checked as the pass checks it. -/
theorem map_finish_eq_pass (limit : Option Nat) {rest : List Token} {root : E} {st : State E}
    (hreads : l.Reads source st.session.position rest q)
    (hend : l.peek source q = (.ok none, stop)) :
    (finish l source root st).1.map (fun _ => ()) =
      (Stage.complete.pass limit stop rest).mapError Halt.failed := by
  cases rest with
  | nil =>
    rw [← hreads.nil_inv] at hend
    obtain ⟨s, hfinish⟩ := exists_finish_eq_ok root st hend
    rw [hfinish]
    rfl
  | cons t rest =>
    obtain ⟨s, st', hfinish⟩ := exists_finish_eq_error root st hreads.cons_inv.1
    rw [hfinish, Stage.pass_cons]
    rfl

/-- **A parse comes to what the pass over the tokens comes to**, whatever the reduction makes of
them as long as it never fails. -/
theorem map_parseUsing_eq_diagnose (hr : reduction.Total) {tokens : List Token} {s : Session}
    (hreads : l.Reads source s.position tokens q) (hend : l.peek source q = (.ok none, stop)) :
    (p.parseUsing reduction l source s).1.map (fun _ => ()) =
      (diagnose p.maxDepth tokens stop).mapError Halt.failed := by
  have hagrees := agrees_run (p := p) hr (begin l source s) hreads hend
    fun n _ => Nat.zero_le n
  rw [parseUsing_eq_conclude]
  generalize p.run reduction l source _ = result at hagrees
  obtain ⟨outcome, st⟩ := result
  change Agrees l source p.maxDepth q stop (diagnose p.maxDepth tokens stop) _ at hagrees
  cases outcome with
  | error halt =>
    obtain ⟨e, rfl, he⟩ := hagrees
    rw [he]
    rfl
  | ok root =>
    obtain ⟨rest, hrest, hpass⟩ := hagrees
    rw [hpass]
    exact map_finish_eq_pass p.maxDepth hrest hend

/-- Every raw value is the scalar of an atom. -/
theorem plain_total : (Reduction.plain (Tree.create (V := Value))).Total := by
  rintro outer (content | node)
  · cases content with
    | value v => cases v <;> exact ⟨_, rfl⟩
    | list ts => exact ⟨_, rfl⟩
  · exact ⟨node, rfl⟩

/-- What comes to the pass succeeds exactly if the pass does. -/
theorem exists_eq_ok_iff_of_map_eq {α : Type} {x : Except Halt α} {y : Except Error Unit}
    (h : x.map (fun _ => ()) = y.mapError Halt.failed) : (∃ a, x = .ok a) ↔ y = .ok () := by
  cases x with
  | ok a =>
    cases y with
    | ok u => exact ⟨fun _ => rfl, fun _ => ⟨a, rfl⟩⟩
    | error e => cases h
  | error halt =>
    cases y with
    | ok u => cases h
    | error e =>
      constructor
      · rintro ⟨a, ha⟩
        cases ha
      · intro h'
        cases h'

/-- What comes to the pass fails with an error exactly if the pass does. -/
theorem eq_error_iff_of_map_eq {α : Type} {x : Except Halt α} {y : Except Error Unit}
    (h : x.map (fun _ => ()) = y.mapError Halt.failed) (e : Error) :
    x = .error (.failed e) ↔ y = .error e := by
  cases x with
  | ok a =>
    cases y with
    | ok u => constructor <;> intro h' <;> cases h'
    | error e' => cases h
  | error halt =>
    cases y with
    | ok u => cases h
    | error e' =>
      obtain rfl : halt = .failed e' := Except.error.inj h
      constructor
      · intro h'
        cases h'
        rfl
      · intro h'
        cases h'
        rfl

/-- **Exact diagnosis at the first offender.** Where the scan of a source lists its tokens, the
parse into trees of raw values comes to what one pass over the tokens comes to, with the place
where the scan ended as the end of the source. So it fails exactly if some token, or the end of
the source, offends, and its error is that of the first to do so. -/
theorem parse_eq_first_offence {atoms : Vocabulary} {source : List Char} {tokens : List Token}
    {s : Session} (limit : Option Nat)
    (hscan : (Lexer.firstMatch (.parens atoms)).scan source .start = (.ok tokens, s)) :
    ((trees Value atoms limit).parse source).map (fun _ => ()) =
        (diagnose limit tokens s.position).mapError Halt.failed ∧
      ∀ e, (trees Value atoms limit).parse source = .error (.failed e) ↔
        ∃ before rest stage, tokens = before ++ rest ∧
          before.foldlM (Stage.take limit) (.reading 0) = .ok stage ∧
          stage.Offends limit s.position rest.head? e := by
  obtain ⟨q, hreads, hend⟩ := Lexer.exists_reads_of_scan hscan
  have hparse : ((trees Value atoms limit).parse source).map (fun _ => ()) =
      (diagnose limit tokens s.position).mapError Halt.failed :=
    map_parseUsing_eq_diagnose plain_total hreads hend
  refine ⟨hparse, fun e => ?_⟩
  rw [← Stage.pass_eq_error_iff]
  change _ ↔ diagnose limit tokens s.position = .error e
  exact eq_error_iff_of_map_eq hparse e

open Vocabulary in
/-- In `(1(2))` the second list is the first offender where only one list may be open, although a
scan finds nothing wrong. -/
theorem parse_eq_tooDeep :
    ∃ tokens s,
      (Lexer.firstMatch (.parens [number])).scan ['(', '1', '(', '2', ')', ')'] .start =
        (.ok tokens, s) ∧
      (trees Value [number] (some 1)).parse ['(', '1', '(', '2', ')', ')'] =
        .error (.failed (.tooDeep 1 ⟨2, 1, 3⟩)) := by
  have hreads : (Lexer.firstMatch (.parens [number])).Reads ['(', '1', '(', '2', ')', ')'] .start
      [⟨opening, ['('], ⟨0, 1, 1⟩⟩, ⟨number, ['1'], ⟨1, 1, 2⟩⟩, ⟨opening, ['('], ⟨2, 1, 3⟩⟩,
        ⟨number, ['2'], ⟨3, 1, 4⟩⟩, ⟨closing, [')'], ⟨4, 1, 5⟩⟩, ⟨closing, [')'], ⟨5, 1, 6⟩⟩]
      ⟨6, 1, 7⟩ := by
    refine .cons_of_firstOf (.start _) rfl rfl fun h => ?_
    refine .cons_of_firstOf h rfl rfl fun h => ?_
    refine .cons_of_firstOf h rfl rfl fun h => ?_
    refine .cons_of_firstOf h rfl rfl fun h => ?_
    refine .cons_of_firstOf h rfl rfl fun h => ?_
    refine .cons_of_firstOf h rfl rfl fun h => ?_
    exact .nil _
  obtain ⟨s, hscan, -⟩ := Lexer.exists_scan_of_reads (s := .start) hreads (Lexer.peek_of_end rfl)
    (by decide)
  exact ⟨_, s, hscan, ((parse_eq_first_offence (some 1) hscan).2 _).2
    ⟨_, _, .reading 1, (List.take_append_drop 2 _).symm, rfl, rfl⟩⟩

end Parser

end Parens
