import Parens.Proofs.Grammar

/-!
# Runs in Lockstep

Two parsers with the same limit that read the same source with different reductions take the
same steps. The nodes that they make have nothing to do with each other, but both stand at the
same token, with as many lists open and after as many calls, until one of the reductions refuses
a call. So what a reduction can do to a parse is to cut it short: next to a reduction that never
fails, a run ends in the same way or is refused before the other one ends.

`InStep` says this of the progress that two parsers have made, where the first never fails.
`State.Precedes` compares states of different parsers by how far they came.

## Main results

* `precedes_run`: a run goes forward.
* `inStep_step`, `inStep_run`: **a step, and a run, keep two parsers in step**.
* `parseWith_eq_fold`: a parse with any reduction is the fold over the tree of the plain parse;
  if there is none, it fails as the plain parse does, unless it is refused earlier.
-/

namespace Parens.Parser

variable {E F G : Type}

/-! ### How far a state is -/

/-- A state is no further than another one: neither in the source nor in the calls made. -/
structure State.Precedes (st : State E) (st' : State F) : Prop where
  /-- It stands no further in the source. -/
  offset_le : st.session.position.offset ≤ st'.session.position.offset
  /-- It comes after no more calls. -/
  calls_le : st.calls.size ≤ st'.calls.size

/-- Every state precedes itself. -/
theorem State.Precedes.refl (st : State E) : st.Precedes st := ⟨Nat.le_refl _, Nat.le_refl _⟩

/-- States are in order. -/
theorem State.Precedes.trans {st : State E} {st' : State F} {st'' : State G}
    (h : st.Precedes st') (h' : st'.Precedes st'') : st.Precedes st'' :=
  ⟨Nat.le_trans h.offset_le h'.offset_le, Nat.le_trans h.calls_le h'.calls_le⟩

/-- The state that a step leads to. -/
def Progress.state : Progress E → State E
  | .more st => st
  | .done _ st => st

/-- The progress that a run has made when it ended. -/
def Progress.ended (result : Except Halt E × State E) : Progress E := .done result.1 result.2

variable {p : Parser E} {reduction : Reduction E} {l : Lexer} {source : List Char}

/-- Looking for a token goes forward. -/
theorem precedes_of_next {st : State E} {found : Except Halt (Option Token)} {s : Session}
    (h : l.next source none true st.session = (found, s)) :
    st.Precedes { st with session := s } :=
  ⟨Lexer.offset_le_of_next h, Nat.le_refl _⟩

/-- Moving past a token goes forward. -/
theorem precedes_consume (t : Token) (st : State E) : st.Precedes (st.consume t) := by
  refine ⟨?_, Nat.le_refl _⟩
  simp [State.consume]

/-- A node that takes its place changes neither the place in the source nor the calls. -/
theorem precedes_put (node : E) (st : State E) : st.Precedes (put node st).state := by
  unfold put
  cases st.stack <;> exact ⟨Nat.le_refl _, Nat.le_refl _⟩

/-- Making a node goes forward. -/
theorem precedes_attach (content : Content E) (st : State E) :
    st.Precedes (attach reduction content st).state := by
  obtain ⟨node, calls, hsize, heq⟩ | ⟨e, calls, hle, -, -, heq⟩ :=
    attach_cases reduction content st
  · have hcalls : st.Precedes { st with calls := calls } :=
      ⟨Nat.le_refl _, by simp only; omega⟩
    rw [heq]
    exact hcalls.trans (precedes_put node _)
  · rw [heq]
    exact ⟨Nat.le_refl _, hle⟩

/-- Every move goes forward. -/
theorem precedes_apply (move : Move) (st : State E) :
    st.Precedes (move.apply reduction st).state := by
  cases move with
  | opening => exact ⟨Nat.le_refl _, Nat.le_refl _⟩
  | atom v => exact precedes_attach _ st
  | closing =>
    have hpop : st.Precedes { st with stack := st.stack.tail } := ⟨Nat.le_refl _, Nat.le_refl _⟩
    exact hpop.trans (precedes_attach _ _)

/-- Every verdict that is carried out goes forward. -/
theorem precedes_enact (t : Token) (st : State E) (verdict : Verdict) :
    st.Precedes (enact reduction t st verdict).state := by
  cases verdict with
  | unexpected => exact ⟨Nat.le_refl _, Nat.le_refl _⟩
  | tooDeep n => exact .refl st
  | unreadable e => exact precedes_consume t st
  | accepted move => exact (precedes_consume t st).trans (precedes_apply move _)

/-- Every step goes forward. -/
theorem precedes_step (p : Parser E) (reduction : Reduction E) (l : Lexer) (source : List Char)
    (st : State E) : st.Precedes (p.step reduction l source st).state := by
  obtain ⟨halt, s, hnext⟩ | ⟨s, hnext⟩ | ⟨t, s, hnext⟩ :=
    l.next_cases source none true st.session
  · rw [step_eq_done reduction hnext]
    exact precedes_of_next hnext
  · rw [step_eq_complain reduction hnext]
    have hlook : st.Precedes { st with session := s } := precedes_of_next hnext
    exact ⟨hlook.offset_le, hlook.calls_le⟩
  · rw [step_eq_enact reduction hnext]
    exact (precedes_of_next hnext).trans (precedes_enact t _ _)

/-- **A run goes forward.** -/
theorem precedes_run (st : State E) :
    st.Precedes (p.run reduction l source st).2 := by
  fun_induction p.run reduction l source st with
  | case1 st result st' hstep =>
    have h := precedes_step p reduction l source st
    rw [hstep] at h
    exact h
  | case2 st st' hstep ih =>
    have h := precedes_step p reduction l source st
    rw [hstep] at h
    exact h.trans ih

/-! ### Two parsers in step -/

/-- Two states in step: what the sessions remember is the same, as many lists are open, and as
many calls were made. -/
structure Lockstep (st : State E) (st' : State F) : Prop where
  /-- The sessions are the same. -/
  session_eq : st'.session = st.session
  /-- As many lists are open. -/
  height_eq : st'.stack.length = st.stack.length
  /-- As many calls were made. -/
  calls_eq : st'.calls.size = st.calls.size

/-- States in step are equally far. -/
theorem Lockstep.precedes {st : State E} {st' : State F} (h : Lockstep st st') :
    st'.Precedes st :=
  ⟨Nat.le_of_eq (by rw [h.session_eq]), Nat.le_of_eq h.calls_eq⟩

/-- States in step stay so when both sessions change in the same way. -/
theorem Lockstep.withSession {st : State E} {st' : State F} (h : Lockstep st st') (s : Session) :
    Lockstep { st with session := s } { st' with session := s } :=
  ⟨rfl, h.height_eq, h.calls_eq⟩

/-- The progress of two parsers in step, where the second one's reduction may have ended its
run. -/
inductive InStep (second : Reduction F) : Progress E → Progress F → Prop
  /-- Both go on. -/
  | more {st : State E} {st' : State F} (h : Lockstep st st') :
      InStep second (.more st) (.more st')
  /-- Both complete an expression. -/
  | complete {root : E} {root' : F} {st : State E} {st' : State F} (h : Lockstep st st') :
      InStep second (.done (.ok root) st) (.done (.ok root') st')
  /-- Both stop for the same reason. -/
  | stopped {halt : Halt} {st : State E} {st' : State F} (h : Lockstep st st') :
      InStep second (.done (.error halt) st) (.done (.error halt) st')
  /-- The second one is refused a call, no further than the first one came. -/
  | refused {progress : Progress E} {e : Error} {st' : State F} (h : st'.RefusedBy second e)
      (hle : st'.Precedes progress.state) :
      InStep second progress (.done (.error (.failed e)) st')

variable {first : Reduction E} {second : Reduction F} {st : State E} {st' : State F}

/-- Nodes that take their places keep two parsers in step. -/
theorem inStep_put (h : Lockstep st st') (node : E) (node' : F) :
    InStep second (put node st) (put node' st') := by
  have hheight := h.height_eq
  unfold put
  cases hstack : st.stack with
  | nil =>
    have hstack' : st'.stack = [] := List.length_eq_zero_iff.1 (by rw [hheight, hstack]; rfl)
    rw [hstack']
    exact .complete h
  | cons nodes stack =>
    rw [hstack] at hheight
    obtain ⟨nodes', stack', hstack'⟩ := List.exists_cons_of_length_eq_add_one hheight
    rw [hstack'] at hheight ⊢
    exact .more ⟨h.session_eq, by simpa using hheight, h.calls_eq⟩

/-- Nodes that are made keep two parsers in step, unless the second one is refused. -/
theorem inStep_attach (hfirst : first.Total) (h : Lockstep st st') (content : Content E)
    (content' : Content F) :
    InStep second (attach first content st) (attach second content' st') := by
  obtain ⟨node, calls, hsize, hput⟩ := exists_put_of_attach hfirst content st
  rw [hput]
  obtain ⟨node', calls', hsize', hput'⟩ | ⟨e, calls', -, hle, hrefused, hdone⟩ :=
    attach_cases second content' st'
  · have hmade : Lockstep { st with calls := calls } { st' with calls := calls' } :=
      ⟨h.session_eq, h.height_eq, by simp only [hsize, hsize', h.calls_eq]⟩
    rw [hput']
    exact inStep_put hmade node node'
  · have hmade : State.Precedes { st' with calls := calls' } { st with calls := calls } :=
      ⟨h.precedes.offset_le, by have := h.calls_eq; simp only; omega⟩
    rw [hdone]
    exact .refused hrefused (hmade.trans (precedes_put node _))

/-- Every move keeps two parsers in step, unless the second one is refused. -/
theorem inStep_apply (hfirst : first.Total) (h : Lockstep st st') (move : Move) :
    InStep second (move.apply first st) (move.apply second st') := by
  cases move with
  | opening => exact .more ⟨h.session_eq, by simp [h.height_eq], h.calls_eq⟩
  | atom v => exact inStep_attach hfirst h _ _
  | closing =>
    have hpop : Lockstep { st with stack := st.stack.tail } { st' with stack := st'.stack.tail } :=
      ⟨h.session_eq, by simp [h.height_eq], h.calls_eq⟩
    exact inStep_attach hfirst hpop _ _

/-- **A verdict that both carry out keeps two parsers in step**, unless the second one is
refused. -/
theorem inStep_enact (hfirst : first.Total) (h : Lockstep st st') (t : Token)
    (verdict : Verdict) :
    InStep second (enact first t st verdict) (enact second t st' verdict) := by
  cases verdict with
  | unexpected =>
    rw [enact, enact, h.height_eq, complain, complain, h.session_eq]
    exact .stopped (h.withSession _)
  | tooDeep n => exact .stopped h
  | unreadable e =>
    rw [enact, enact, State.consume, State.consume, h.session_eq]
    exact .stopped (h.withSession _)
  | accepted move =>
    rw [enact, enact, State.consume, State.consume, h.session_eq]
    exact inStep_apply hfirst (h.withSession _) move

variable {p : Parser E} {p' : Parser F}

/-- **A step keeps two parsers in step**, unless the second one is refused. They look at the same
token and come to the same verdict on it. -/
theorem inStep_step (hfirst : first.Total) (hlimit : p'.maxDepth = p.maxDepth)
    (h : Lockstep st st') :
    InStep second (p.step first l source st) (p'.step second l source st') := by
  have hsession := h.session_eq
  obtain ⟨halt, s, hnext⟩ | ⟨s, hnext⟩ | ⟨t, s, hnext⟩ :=
    l.next_cases source none true st.session
  · rw [step_eq_done first hnext, step_eq_done second (hsession ▸ hnext)]
    exact .stopped (h.withSession s)
  · rw [step_eq_complain first hnext, step_eq_complain second (hsession ▸ hnext), h.height_eq]
    exact .stopped ((h.withSession s).withSession _)
  · rw [step_eq_enact first hnext, step_eq_enact second (hsession ▸ hnext), h.height_eq, hlimit]
    exact inStep_enact hfirst (h.withSession s) t _

/-- **A run keeps two parsers in step**, unless the second one is refused. -/
theorem inStep_run (hfirst : first.Total) (hlimit : p'.maxDepth = p.maxDepth)
    (h : Lockstep st st') :
    InStep second (.ended (p.run first l source st)) (.ended (p'.run second l source st')) := by
  fun_induction p.run first l source st generalizing st' with
  | case1 st result st₁ hstep =>
    have hboth : InStep second (p.step first l source st) (p'.step second l source st') :=
      inStep_step hfirst hlimit h
    rw [run_eq_proceed p']
    rw [hstep] at hboth
    generalize p'.step second l source st' = progress at hboth
    cases hboth with
    | complete h => exact .complete h
    | stopped h => exact .stopped h
    | refused hrefused hle => exact .refused hrefused hle
  | case2 st st₁ hstep ih =>
    have hboth : InStep second (p.step first l source st) (p'.step second l source st') :=
      inStep_step hfirst hlimit h
    rw [run_eq_proceed p']
    rw [hstep] at hboth
    generalize p'.step second l source st' = progress at hboth
    cases hboth with
    | more h => exact ih h
    -- The second run is over, and the first one only moves on from here.
    | refused hrefused hle => exact .refused hrefused (hle.trans (precedes_run st₁))

/-! ### Whole sources -/

/-- Checking what follows an expression goes forward. -/
theorem precedes_finish (root : E) (st : State E) :
    st.Precedes (finish l source root st).2 := by
  obtain ⟨halt, s, hnext⟩ | ⟨s, hnext⟩ | ⟨t, s, hnext⟩ :=
    l.next_cases source none true st.session
  · rw [finish_eq_done root hnext]
    exact precedes_of_next hnext
  · have hle := Lexer.offset_le_of_next hnext
    rw [finish_eq_ok root hnext]
    exact ⟨hle, Nat.le_refl _⟩
  · have hle := Lexer.offset_le_of_next hnext
    rw [finish_eq_error root hnext]
    exact ⟨hle, Nat.le_refl _⟩

/-- Checking what follows an expression keeps two parsers in step. -/
theorem inStep_finish (h : Lockstep st st') (root : E) (root' : F) :
    InStep second (.ended (finish l source root st)) (.ended (finish l source root' st')) := by
  have hsession := h.session_eq
  obtain ⟨halt, s, hnext⟩ | ⟨s, hnext⟩ | ⟨t, s, hnext⟩ :=
    l.next_cases source none true st.session
  · rw [finish_eq_done root hnext, finish_eq_done root' (hsession ▸ hnext)]
    exact .stopped (h.withSession s)
  · rw [finish_eq_ok root hnext, finish_eq_ok root' (hsession ▸ hnext)]
    exact .complete (h.withSession _)
  · rw [finish_eq_error root hnext, finish_eq_error root' (hsession ▸ hnext)]
    exact .stopped (h.withSession _)

/-- What a whole parse makes of the result of its run goes forward. -/
theorem precedes_conclude (result : Except Halt E × State E) :
    result.2.Precedes (conclude l source result).2 := by
  match result with
  | (.ok root, st) => exact precedes_finish root st
  | (.error (.failed e), st) => exact ⟨Nat.le_refl _, Nat.le_refl _⟩
  | (.error .midCharacter, st) => exact .refl st

/-- What whole parses make of the results of their runs keeps two parsers in step. -/
theorem inStep_conclude {result : Except Halt E × State E} {result' : Except Halt F × State F}
    (h : InStep second (.ended result) (.ended result')) :
    InStep second (.ended (conclude l source result)) (.ended (conclude l source result')) := by
  obtain ⟨outcome, st⟩ := result
  obtain ⟨outcome', st'⟩ := result'
  cases h with
  | complete h => exact inStep_finish h _ _
  | @stopped halt _ _ h =>
    cases halt with
    | failed e =>
      have hsession : st'.session = st.session := h.session_eq
      have hnoted : Lockstep { st with session := st.session.note (.failed e.message) }
          { st' with session := st'.session.note (.failed e.message) } :=
        ⟨by rw [hsession], h.height_eq, h.calls_eq⟩
      exact .stopped hnoted
    | midCharacter => exact .stopped h
  | refused hrefused hle =>
    have hlater : st'.Precedes (conclude l source (outcome, st)).2 :=
      hle.trans (precedes_conclude (outcome, st))
    exact .refused hrefused ⟨hlater.offset_le, hlater.calls_le⟩

/-- **A whole parse keeps two parsers in step**, unless the second one is refused. -/
theorem inStep_parseUsing (p : Parser E) (p' : Parser F) (hfirst : first.Total)
    (hlimit : p'.maxDepth = p.maxDepth) (s : Session) :
    InStep second (.ended (p.parseUsing first l source s))
      (.ended (p'.parseUsing second l source s)) := by
  have hbegin : Lockstep (begin l source s : State E) (begin l source s : State F) :=
    ⟨rfl, rfl, rfl⟩
  rw [parseUsing_eq_conclude, parseUsing_eq_conclude]
  exact inStep_conclude (inStep_run hfirst hlimit hbegin)

/-- **Reducing is folding the plain tree.** Where the plain parse of a source succeeds with a
tree, the parse with any reduction, in any context, comes to the fold of the reduction over that
tree, with the same calls in the same order and no others. Where the plain parse fails, the
parse with the reduction fails in the same way, or with an error with which the reduction
refused the last call, and then it came no further than the plain parse, neither in the source
nor in the calls. -/
theorem parseWith_eq_fold {C : Type} (atoms : Vocabulary) (build : Content E → Except Error E)
    (limit : Option Nat) (reduce : C → Reduction E) (context : C) (source : List Char) :
    let plain := (trees Value atoms limit).parseWith (trees Value atoms limit).plain source
    let result := (Parser.mk atoms build limit).parseWith (reduce context) source
    (∀ t, plain.1 = .ok t →
      result.1 = ((reduce context).fold t).1.mapError Halt.failed ∧
        result.2.calls = ((reduce context).fold t).2) ∧
    ∀ halt, plain.1 = .error halt →
      result.1 = .error halt ∨
        ∃ e, result.1 = .error (.failed e) ∧ result.2.RefusedBy (reduce context) e ∧
          result.2.Precedes plain.2 := by
  intro plain result
  constructor
  · intro t ht
    obtain ⟨tokens, q, stop, hreads, hend⟩ := Lexer.exists_reads (.parens atoms) source .start
    obtain ⟨g, rfl, hlimit, hread⟩ := exists_tokenTree_of_parse hreads hend ht
    exact parseUsing_eq_fold _ _ hread hreads hend hlimit
  · intro halt hhalt
    have hboth : InStep (reduce context) (.ended plain) (.ended result) :=
      inStep_parseUsing (trees Value atoms limit) ⟨atoms, build, limit⟩ plain_total rfl .start
    clear_value plain result
    obtain ⟨outcome, st⟩ := plain
    obtain ⟨outcome', st'⟩ := result
    obtain rfl : outcome = .error halt := hhalt
    cases hboth with
    | stopped h => exact .inl rfl
    | refused hrefused hle => exact .inr ⟨_, rfl, hrefused, hle⟩

end Parens.Parser
