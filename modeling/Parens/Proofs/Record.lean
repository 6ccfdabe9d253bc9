import Mathlib.Data.List.Basic
import Parens.Proofs.Exhaustion
import Parens.Proofs.Stopping
import Parens.Proofs.Strides

/-!
# The Record of a Parse

A whole parse notes down that it begins, then every token that it moves past, and then how it ended.
What lies between is a `Walk`: one entry for every token, and for an insignificant one another entry
right in front of it that announces it. Nothing else is noted down on the way, so the record of a
parse is known up to its walk once it is known how the parse ended (`Parser.Ends`).

A fault of the source is diagnosed in two places: inside the expression, where the next token has no
place (`Parser.FindsFault`), and behind it, where there is another token (`Parser.FindsRest`). What
readings and reductions raise is not diagnosed, whatever it looks like. A diagnosis is noted down in
both places. Inside the expression, the failure of the parse is noted down too; behind it, it is
not, and the diagnosis is the last entry (`exists_parseUsing_unclosed`).

## Main results

* `Lexer.walks_next`, `Parser.walks_of_reaches`: searches and runs walk.
* `Parser.walks_or_findsFault_of_run`: a run walks to its end, or it finds a fault.
* `Parser.records_parseUsing`: **the record of a parse** is its beginning, a walk and an end that
  tells the result.
* `Parser.parseUsing_record`: **parses are bracketed in the record**, up to what is said above.
* `Parser.exists_unclosed_of_findsRest`: where another token lies behind the expression, nothing
  says that the parse failed.
-/

namespace Parens

/-! ### Walks -/

/-- What is noted down on the way through a source: every token that is moved past, and every token
that is passed over is announced right in front of that. -/
inductive Walk : List Event → Prop
  /-- Nothing is moved past. -/
  | nil : Walk []
  /-- A token is moved past. -/
  | consumed (label : String) (text : List Char) (place : Position) {events : List Event} :
      Walk events → Walk (.consumed label text place :: events)
  /-- A token is passed over. -/
  | passed (label : String) (text : List Char) (place : Position) {events : List Event} :
      Walk events → Walk (.skipping label place :: .consumed label text place :: events)

/-- Whether an event is the beginning of a parse. -/
def Event.opens : Event → Bool
  | parsing _ _ _ => true
  | _ => false

/-- Whether an event is the end of a parse. -/
def Event.closes : Event → Bool
  | failed _ => true
  | parsed _ => true
  | _ => false

namespace Walk

variable {events events' : List Event}

/-- A walk goes on where another one ended. -/
theorem append (h : Walk events) (h' : Walk events') : Walk (events ++ events') := by
  induction h with
  | nil => exact h'
  | consumed label text place _ ih => exact .consumed label text place ih
  | passed label text place _ ih => exact .passed label text place ih

/-- Every step of a walk is a detail. -/
theorem level_eq_trace (h : Walk events) : ∀ event ∈ events, event.level = .trace := by
  induction h with
  | nil => exact fun event hevent => absurd hevent List.not_mem_nil
  | consumed label text place _ ih => exact List.forall_mem_cons.2 ⟨rfl, ih⟩
  | passed label text place _ ih =>
    exact List.forall_mem_cons.2 ⟨rfl, List.forall_mem_cons.2 ⟨rfl, ih⟩⟩

/-- What is no detail is no step of a walk. -/
theorem not_mem (h : Walk events) {event : Event} (hlevel : event.level = .debug) :
    event ∉ events := by
  intro hevent
  rw [h.level_eq_trace event hevent] at hlevel
  cases hlevel

/-- A walk neither begins nor ends a parse. -/
theorem opens_closes (h : Walk events) {event : Event} (hevent : event ∈ events) :
    event.opens = false ∧ event.closes = false := by
  have hlevel := h.level_eq_trace event hevent
  cases event <;> first | exact ⟨rfl, rfl⟩ | cases hlevel

/-- **A token that is announced is passed over at once**, also where something else is noted down
behind the walk, as long as that announces nothing. Induction on the walk. -/
theorem exists_consumed (h : Walk events) {ending : List Event}
    (hending : ∀ event ∈ ending, event.level = .debug) {before after : List Event} {label : String}
    {place : Position} (heq : events ++ ending = before ++ .skipping label place :: after) :
    ∃ text, after.head? = some (.consumed label text place) := by
  induction h generalizing before with
  | nil =>
    have hmem : Event.skipping label place ∈ ending := by
      rw [← List.nil_append ending, heq]
      exact List.mem_append_right _ List.mem_cons_self
    cases hending _ hmem
  | consumed label' text place' _ ih =>
    cases before with
    | nil => cases heq
    | cons event before => exact ih (List.cons.inj heq).2
  | passed label' text place' _ ih =>
    cases before with
    | nil =>
      obtain ⟨hfirst, rfl⟩ := List.cons.inj heq
      obtain ⟨rfl, rfl⟩ := Event.skipping.inj hfirst
      exact ⟨text, rfl⟩
    | cons event before =>
      cases before with
      | nil => cases (List.cons.inj heq).2
      | cons event' before => exact ih (List.cons.inj (List.cons.inj heq).2).2

/-- A walk ends no parse, so only the last entry of a record does that. -/
theorem closes_dropLast (h : Walk events) {ending : List Event}
    (hending : ∀ event ∈ ending.dropLast, event.closes = false) :
    ∀ event ∈ (events ++ ending).dropLast, event.closes = false := by
  intro event hevent
  obtain rfl | hne := eq_or_ne ending []
  · rw [List.append_nil] at hevent
    exact (h.opens_closes (List.dropLast_subset events hevent)).2
  · rw [List.dropLast_append_of_ne_nil hne] at hevent
    obtain hwalk | hend := List.mem_append.1 hevent
    · exact (h.opens_closes hwalk).2
    · exact hending event hend

end Walk

/-! ### Sessions -/

namespace Session

/-- One session became another by walking. -/
def Walks (s s' : Session) : Prop :=
  ∃ walk, s'.events.toList = s.events.toList ++ walk ∧ Walk walk

variable {s s₁ s' : Session} {t : Token}

theorem toList_events_note (s : Session) (event : Event) :
    (s.note event).events.toList = s.events.toList ++ [event] := Array.toList_push

theorem toList_events_consume (s : Session) (t : Token) :
    (s.consume t).events.toList =
      s.events.toList ++ [.consumed t.kind.label t.text t.position] := Array.toList_push

namespace Walks

/-- A session that stays walks. -/
theorem refl (s : Session) : s.Walks s := ⟨[], (List.append_nil _).symm, .nil⟩

/-- A session walks further. -/
theorem trans (h : s.Walks s₁) (h' : s₁.Walks s') : s.Walks s' := by
  obtain ⟨walk, hevents, hwalk⟩ := h
  obtain ⟨walk', hevents', hwalk'⟩ := h'
  refine ⟨walk ++ walk', ?_, hwalk.append hwalk'⟩
  rw [hevents', hevents, List.append_assoc]

/-- Moving past a token is a step. -/
theorem consume (h : s.Walks s') (t : Token) : s.Walks (s'.consume t) :=
  h.trans ⟨[_], toList_events_consume s' t, .consumed _ _ _ .nil⟩

/-- Passing over a token is a step. -/
theorem pass (s : Session) (t : Token) : s.Walks (s.pass t) := by
  refine ⟨[.skipping t.kind.label t.position, .consumed t.kind.label t.text t.position], ?_,
    .passed _ _ _ .nil⟩
  rw [Session.pass, toList_events_consume, toList_events_note, List.append_assoc]
  rfl

end Walks

end Session

namespace Lexer

/-- **Looking for a token is a walk** past the insignificant ones in front of it. -/
theorem walks_next (l : Lexer) (source : List Char) (hint : Option Kind) (skip : Bool)
    (s : Session) : s.Walks (l.next source hint skip s).2 := by
  fun_induction l.next source hint skip s with
  | case3 s hinside m hm hskip ih => exact (Session.Walks.pass s (tokenAt s m)).trans ih
  | case1 | case2 | case4 | case5 => exact .refl _

end Lexer

namespace Parser

variable {E : Type} {p : Parser E} {reduction : Reduction E} {l : Lexer} {source : List Char}
  {st st' : State E} {e : Error}

/-! ### Faults of the source -/

/-- In a state, the parser complains about the source with an error: the next token has no place
there, or there is none. -/
def Complains (p : Parser E) (l : Lexer) (source : List Char) (st : State E) (e : Error) : Prop :=
  ∃ found s, l.next source none true st.session = (.ok found, s) ∧
    (∀ t ∈ found, verdict p.maxDepth st.stack.length t = .unexpected) ∧
    e = (s.diagnose found (some (expectedKind st.stack.length))).1

/-- A run comes to a state in which the parser complains about the source. -/
def FindsFault (p : Parser E) (reduction : Reduction E) (l : Lexer) (source : List Char)
    (st : State E) (e : Error) : Prop :=
  ∃ st', p.Reaches reduction l source st st' ∧ p.Complains l source st' e

/-- A run completes an expression, and there is another token behind it. The error says so. -/
def FindsRest (p : Parser E) (reduction : Reduction E) (l : Lexer) (source : List Char)
    (st : State E) (e : Error) : Prop :=
  ∃ root st' t s, p.run reduction l source st = (.ok root, st') ∧
    l.next source none true st'.session = (.ok (some t), s) ∧ e = (s.diagnose (some t) none).1

/-- The parser itself finds out what is wrong with the source: inside the expression, or behind
it. -/
def Diagnoses (p : Parser E) (reduction : Reduction E) (l : Lexer) (source : List Char)
    (st : State E) (e : Error) : Prop :=
  p.FindsFault reduction l source st e ∨ p.FindsRest reduction l source st e

/-! ### Steps -/

/-- Noting down a diagnosis is noting down the wording of its error. -/
theorem diagnose_eq_note (s : Session) (found : Option Token) (expected : Option Kind) :
    (s.diagnose found expected).2 = s.note (.diagnosed (s.diagnose found expected).1.message) := rfl

/-- A step that complains walks up to the fault and notes down the diagnosis. -/
theorem exists_step_of_complains (reduction : Reduction E) (h : p.Complains l source st e) :
    ∃ s, st.session.Walks s ∧ p.step reduction l source st =
      .done (.error (.failed e)) { st with session := s.note (.diagnosed e.message) } := by
  obtain ⟨found, s, hnext, hfound, rfl⟩ := h
  refine ⟨s, ?_, ?_⟩
  · have hwalks := l.walks_next source none true st.session
    rwa [hnext] at hwalks
  · rw [← diagnose_eq_note]
    cases found with
    | none =>
      rw [step_eq_complain reduction hnext]
      rfl
    | some t =>
      rw [step_eq_enact reduction hnext, hfound t rfl]
      rfl

/-- **A step walks, or it complains about the source.** -/
theorem walks_or_complains_of_step (p : Parser E) (reduction : Reduction E) (l : Lexer)
    (source : List Char) (st : State E) :
    st.session.Walks (p.step reduction l source st).state.session ∨
      ∃ e st', p.step reduction l source st = .done (.error (.failed e)) st' ∧
        p.Complains l source st e := by
  have hnext := l.walks_next source none true st.session
  obtain ⟨halt, s, h⟩ | ⟨s, h⟩ | ⟨t, s, h⟩ := l.next_cases source none true st.session
  · rw [h] at hnext
    rw [step_eq_done reduction h]
    exact .inl hnext
  · rw [step_eq_complain reduction h]
    exact .inr ⟨_, _, rfl, none, s, h, by simp, rfl⟩
  · rw [h] at hnext
    rw [step_eq_enact reduction h]
    cases hverdict : verdict p.maxDepth st.stack.length t with
    | unexpected =>
      refine .inr ⟨_, _, rfl, some t, s, h, fun t' ht => ?_, rfl⟩
      obtain rfl := Option.some.inj ht
      exact hverdict
    | tooDeep n => exact .inl hnext
    | unreadable e => exact .inl (hnext.consume t)
    | accepted move =>
      rw [enact, session_apply]
      exact .inl (hnext.consume t)

/-- A step that does not end the run walks. -/
theorem walks_of_step_more (h : p.step reduction l source st = .more st') :
    st.session.Walks st'.session := by
  obtain hwalks | ⟨e, st₁, hdone, -⟩ := walks_or_complains_of_step p reduction l source st
  · rwa [h] at hwalks
  · rw [h] at hdone
    cases hdone

/-! ### Runs -/

/-- **A run walks** to every state that it comes to. -/
theorem walks_of_reaches (h : p.Reaches reduction l source st st') :
    st.session.Walks st'.session := by
  induction h with
  | refl => exact .refl _
  | tail _ hstep ih => exact ih.trans (walks_of_step_more hstep)

/-- A run that finds a fault walks up to it, notes down the diagnosis, and fails. -/
theorem exists_run_of_findsFault (h : p.FindsFault reduction l source st e) :
    ∃ s st', st.session.Walks s ∧ st'.session = s.note (.diagnosed e.message) ∧
      p.run reduction l source st = (.error (.failed e), st') := by
  obtain ⟨st₁, hreaches, hcomplains⟩ := h
  obtain ⟨s, hwalks, hstep⟩ := exists_step_of_complains reduction hcomplains
  refine ⟨s, { st₁ with session := s.note (.diagnosed e.message) },
    (walks_of_reaches hreaches).trans hwalks, rfl, ?_⟩
  rw [run_eq_of_reaches hreaches, run_eq_proceed, hstep]
  rfl

/-- **A run walks to its end, or it finds a fault.** Induction on the run. -/
theorem walks_or_findsFault_of_run (p : Parser E) (reduction : Reduction E) (l : Lexer)
    (source : List Char) (st : State E) :
    st.session.Walks (p.run reduction l source st).2.session ∨
      ∃ e, p.FindsFault reduction l source st e := by
  fun_induction p.run reduction l source st with
  | case1 st result st' hstep =>
    obtain hwalks | ⟨e, st₁, -, hcomplains⟩ := walks_or_complains_of_step p reduction l source st
    · rw [hstep] at hwalks
      exact .inl hwalks
    · exact .inr ⟨e, st, .refl, hcomplains⟩
  | case2 st st' hstep ih =>
    obtain hwalks | ⟨e, st₁, hreaches, hcomplains⟩ := ih
    · exact .inl ((walks_of_step_more hstep).trans hwalks)
    · exact .inr ⟨e, st₁, .head hstep hreaches, hcomplains⟩

/-- A run that walks to its end finds no fault: it would have noted it down. -/
theorem not_findsFault_of_walks
    (h : st.session.Walks (p.run reduction l source st).2.session) :
    ¬ p.FindsFault reduction l source st e := by
  intro hfault
  obtain ⟨s, st', ⟨walk, hevents, -⟩, hst', hrun⟩ := exists_run_of_findsFault hfault
  obtain ⟨walk', hevents', hwalk'⟩ := h
  rw [hrun, hst', Session.toList_events_note, hevents, List.append_assoc] at hevents'
  have hdiagnosed : Event.diagnosed e.message ∈ walk' := by
    rw [← List.append_cancel_left hevents']
    exact List.mem_append_right _ List.mem_cons_self
  exact hwalk'.not_mem rfl hdiagnosed

/-- A run walks to its end if it does not fail there, since one that finds a fault does. -/
theorem walks_of_run {result : Except Halt E} (h : p.run reduction l source st = (result, st'))
    (hresult : ∀ e, result ≠ .error (.failed e)) : st.session.Walks st'.session := by
  obtain hwalks | ⟨e, hfault⟩ := walks_or_findsFault_of_run p reduction l source st
  · rwa [h] at hwalks
  · obtain ⟨s, st₁, -, -, hrun⟩ := exists_run_of_findsFault hfault
    rw [h] at hrun
    exact absurd (Prod.mk.inj hrun).1 (hresult e)

/-- A run that fails leaves no expression to look behind. -/
theorem not_findsRest_of_run_eq_error {halt : Halt}
    (h : p.run reduction l source st = (.error halt, st')) :
    ¬ p.FindsRest reduction l source st e := by
  rintro ⟨root, st₁, t, s, hrun, -⟩
  rw [h] at hrun
  cases (Prod.mk.inj hrun).1

/-! ### Whole parses -/

/-- How the record of a whole parse ends behind its walk, by the result of the parse and by what
brought it about. -/
inductive Ends (p : Parser E) (reduction : Reduction E) (l : Lexer) (source : List Char)
    (st : State E) : Except Halt E → Position → List Event → Prop
  /-- The parse succeeds, and the lexer stops somewhere. -/
  | parsed (root : E) (stop : Position) :
      Ends p reduction l source st (.ok root) stop [.parsed stop]
  /-- There is a fault inside the expression. -/
  | fault {e : Error} (stop : Position) :
      p.FindsFault reduction l source st e → ¬ p.FindsRest reduction l source st e →
      Ends p reduction l source st (.error (.failed e)) stop
        [.diagnosed e.message, .failed e.message]
  /-- The parse fails, and no fault is diagnosed. -/
  | raised {e : Error} (stop : Position) :
      ¬ p.FindsFault reduction l source st e → ¬ p.FindsRest reduction l source st e →
      Ends p reduction l source st (.error (.failed e)) stop [.failed e.message]
  /-- There is another token behind the expression. -/
  | rest {e : Error} (stop : Position) :
      p.FindsRest reduction l source st e →
      Ends p reduction l source st (.error (.failed e)) stop [.diagnosed e.message]
  /-- The source was to be cut inside a character. -/
  | cut (stop : Position) : Ends p reduction l source st (.error .midCharacter) stop []

/-- The session in which a whole parse begins its run. -/
def begun (l : Lexer) (source : List Char) (s : Session) : Session :=
  s.note (.parsing (Text.byteSize source) l.vocabulary.length s.position)

/-- What a whole parse comes to noted down a walk behind the beginning, and then an end. -/
def Records (p : Parser E) (reduction : Reduction E) (l : Lexer) (source : List Char) (s : Session)
    (outcome : Except Halt E × State E) : Prop :=
  ∃ walk ending, Walk walk ∧
    outcome.2.session.events.toList = (begun l source s).events.toList ++ (walk ++ ending) ∧
    p.Ends reduction l source (begin l source s) outcome.1 outcome.2.session.position ending

variable {s s' : Session}

/-- A walk from the beginning of a parse, with an end behind it, is a record. -/
theorem records_of_walks {result : Except Halt E} {ending : List Event}
    (hwalks : (begun l source s).Walks s')
    (hevents : st.session.events.toList = s'.events.toList ++ ending)
    (hends : p.Ends reduction l source (begin l source s) result st.session.position ending) :
    p.Records reduction l source s (result, st) := by
  obtain ⟨walk, hwalk, hsteps⟩ := hwalks
  refine ⟨walk, ending, hsteps, ?_, hends⟩
  rw [hevents, hwalk, List.append_assoc]

/-- **A parse that fails inside the expression** notes its failure down, and in front of that the
diagnosis, if there is a fault. -/
theorem records_of_run_eq_error
    (h : p.run reduction l source (begin l source s) = (.error (.failed e), st)) :
    p.Records reduction l source s (p.parseUsing reduction l source s) := by
  have hrest := not_findsRest_of_run_eq_error (e := e) h
  rw [parseUsing_eq_conclude, h]
  obtain hwalks | ⟨e', hfault⟩ := walks_or_findsFault_of_run p reduction l source (begin l source s)
  · have hnone := not_findsFault_of_walks (e := e) hwalks
    rw [h] at hwalks
    exact records_of_walks hwalks (Session.toList_events_note _ _) (.raised _ hnone hrest)
  · obtain ⟨s₁, st₁, hwalks, hst₁, hrun⟩ := exists_run_of_findsFault hfault
    rw [h] at hrun
    obtain ⟨hresult, rfl⟩ := Prod.mk.inj hrun
    obtain rfl := Halt.failed.inj (Except.error.inj hresult)
    refine records_of_walks hwalks ?_ (.fault _ hfault hrest)
    rw [Session.toList_events_note, hst₁, Session.toList_events_note, List.append_assoc]
    rfl

/-- A parse that is cut short inside the expression notes down nothing more. -/
theorem records_of_run_eq_cut
    (h : p.run reduction l source (begin l source s) = (.error .midCharacter, st)) :
    p.Records reduction l source s (p.parseUsing reduction l source s) := by
  have hwalks : (begun l source s).Walks st.session := walks_of_run h (by simp)
  rw [parseUsing_eq_conclude, h]
  exact records_of_walks hwalks (List.append_nil _).symm (.cut _)

/-- A parse that finds another token behind the expression walks up to it, notes down the diagnosis,
and fails. -/
theorem exists_parseUsing_of_findsRest
    (h : p.FindsRest reduction l source (begin l source s) e) :
    ∃ s' st, (begun l source s).Walks s' ∧ st.session = s'.note (.diagnosed e.message) ∧
      p.parseUsing reduction l source s = (.error (.failed e), st) := by
  obtain ⟨root, st, t, s', hrun, hnext, rfl⟩ := h
  have hbefore : (begun l source s).Walks st.session := walks_of_run hrun (by simp)
  have hsearch := l.walks_next source none true st.session
  rw [hnext] at hsearch
  refine ⟨s', { st with session := (s'.diagnose (some t) none).2 }, hbefore.trans hsearch, rfl, ?_⟩
  rw [parseUsing_eq_conclude, hrun]
  exact finish_eq_error root hnext

/-- **A parse that completes the expression** notes down that it is parsed. If there is another
token behind it, the diagnosis is noted down in place of this. -/
theorem records_of_run_eq_ok (hl : l.Orderly) {root : E}
    (h : p.run reduction l source (begin l source s) = (.ok root, st)) :
    p.Records reduction l source s (p.parseUsing reduction l source s) := by
  have hbefore : (begun l source s).Walks st.session := walks_of_run h (by simp)
  have hsearch := l.walks_next source none true st.session
  have hparse : p.parseUsing reduction l source s = finish l source root st := by
    rw [parseUsing_eq_conclude, h]
    rfl
  obtain ⟨halt, s₁, hnext⟩ | ⟨s₁, hnext⟩ | ⟨t, s₁, hnext⟩ :=
    l.next_cases source none true st.session
  · obtain rfl := hl.halt_eq_of_next hnext
    rw [hnext] at hsearch
    rw [hparse, finish_eq_done root hnext]
    exact records_of_walks (hbefore.trans hsearch) (List.append_nil _).symm (.cut _)
  · rw [hnext] at hsearch
    rw [hparse, finish_eq_ok root hnext]
    exact records_of_walks (hbefore.trans hsearch) (Session.toList_events_note _ _) (.parsed _ _)
  · have hrest : p.FindsRest reduction l source (begin l source s)
        (s₁.diagnose (some t) none).1 := ⟨root, st, t, s₁, h, hnext, rfl⟩
    obtain ⟨s', st', hwalks, hst', hfails⟩ := exists_parseUsing_of_findsRest hrest
    rw [hfails]
    refine records_of_walks hwalks ?_ (.rest _ hrest)
    rw [hst', Session.toList_events_note]

/-- **The record of a whole parse** is its beginning, a walk, and an end that tells the result and
what brought it about. -/
theorem records_parseUsing (hl : l.Orderly) (p : Parser E) (reduction : Reduction E)
    (source : List Char) (s : Session) :
    p.Records reduction l source s (p.parseUsing reduction l source s) := by
  cases hrun : p.run reduction l source (begin l source s) with
  | mk result st =>
    obtain halt | root := result
    · cases halt with
      | failed e => exact records_of_run_eq_error hrun
      | midCharacter => exact records_of_run_eq_cut hrun
    · exact records_of_run_eq_ok hl hrun

/-! ### Beginning and end -/

namespace Ends

variable {begin : State E} {result : Except Halt E} {stop : Position} {ending : List Event}

/-- The end of a record is of interest when something goes wrong, and no parse begins there. -/
theorem level_opens (h : p.Ends reduction l source begin result stop ending) :
    ∀ event ∈ ending, event.level = .debug ∧ event.opens = false := by
  cases h with
  | parsed | raised | rest => exact List.forall_mem_cons.2 ⟨⟨rfl, rfl⟩, by simp⟩
  | fault =>
    exact List.forall_mem_cons.2 ⟨⟨rfl, rfl⟩, List.forall_mem_cons.2 ⟨⟨rfl, rfl⟩, by simp⟩⟩
  | cut => simp

/-- Only the last entry ends a parse. -/
theorem closes_dropLast (h : p.Ends reduction l source begin result stop ending) :
    ∀ event ∈ ending.dropLast, event.closes = false := by
  cases h with
  | parsed | raised | rest | cut => simp
  | fault => exact List.forall_mem_cons.2 ⟨rfl, by simp⟩

/-- A parse that succeeds notes down where the lexer stops. -/
theorem getLast?_of_ok (h : p.Ends reduction l source begin result stop ending) {root : E}
    (hresult : result = .ok root) : ending.getLast? = some (.parsed stop) := by
  cases h with
  | parsed => rfl
  | fault | raised | rest | cut => cases hresult

/-- A parse that fails notes its failure down, unless it finds another token behind the
expression. -/
theorem getLast?_of_failed (h : p.Ends reduction l source begin result stop ending)
    (hresult : result = .error (.failed e)) :
    (ending.getLast? = some (.failed e.message) ∧ ¬ p.FindsRest reduction l source begin e) ∨
      (ending.getLast? = some (.diagnosed e.message) ∧
        p.FindsRest reduction l source begin e) := by
  cases h with
  | parsed | cut => cases hresult
  | fault stop hfault hrest =>
    obtain rfl := Halt.failed.inj (Except.error.inj hresult)
    exact .inl ⟨rfl, hrest⟩
  | raised stop hfault hrest =>
    obtain rfl := Halt.failed.inj (Except.error.inj hresult)
    exact .inl ⟨rfl, hrest⟩
  | rest stop hrest =>
    obtain rfl := Halt.failed.inj (Except.error.inj hresult)
    exact .inr ⟨rfl, hrest⟩

/-- A diagnosis is noted down where the parser itself finds out what is wrong. -/
theorem diagnosed_mem_iff (h : p.Ends reduction l source begin result stop ending)
    {text : String} :
    .diagnosed text ∈ ending ↔
      ∃ e, result = .error (.failed e) ∧ e.message = text ∧
        p.Diagnoses reduction l source begin e := by
  cases h with
  | parsed | cut => simp
  | fault stop hfault hrest =>
    simp only [List.mem_cons, Event.diagnosed.injEq, reduceCtorEq, List.not_mem_nil, or_false]
    constructor
    · rintro rfl
      exact ⟨_, rfl, rfl, .inl hfault⟩
    · rintro ⟨e', he', rfl, -⟩
      rw [Halt.failed.inj (Except.error.inj he')]
  | raised stop hfault hrest =>
    simp only [List.mem_cons, reduceCtorEq, List.not_mem_nil, or_false, false_iff]
    rintro ⟨e', he', -, hdiagnoses⟩
    obtain rfl := Halt.failed.inj (Except.error.inj he')
    exact hdiagnoses.elim hfault hrest
  | rest stop hrest =>
    simp only [List.mem_cons, Event.diagnosed.injEq, List.not_mem_nil, or_false]
    constructor
    · rintro rfl
      exact ⟨_, rfl, rfl, .inr hrest⟩
    · rintro ⟨e', he', rfl, -⟩
      rw [Halt.failed.inj (Except.error.inj he')]

end Ends

/-- **Parses are bracketed in the record.** Let a lexer decide by the first character or try a
vocabulary in order. What a whole parse notes down begins with the size of the source and the place
where the lexer stands, and no other parse begins in it. Its last entry is that the source is
parsed, and where the lexer stops, if the parse succeeds, and it is the wording of the error if the
parse fails, unless there is another token behind the expression: then it is the diagnosis. Nothing
before the last entry ends the parse. A diagnosis is noted down exactly if the parser itself found
out what is wrong with the source, and it is the wording of the error returned. A token that is
announced as passed over is passed over in the next entry. -/
theorem parseUsing_record (p : Parser E) (reduction : Reduction E) {l : Lexer}
    (hl : l = .direct ∨ ∃ v, l = .firstMatch v) (source : List Char) (s : Session) :
    ∃ result st log, p.parseUsing reduction l source s = (result, st) ∧
      st.session.events.toList =
        s.events.toList ++
          .parsing (Text.byteSize source) l.vocabulary.length s.position :: log ∧
      (∀ event ∈ log, event.opens = false) ∧
      (∀ event ∈ log.dropLast, event.closes = false) ∧
      (∀ root, result = .ok root → log.getLast? = some (.parsed st.session.position)) ∧
      (∀ e, result = .error (.failed e) →
        (log.getLast? = some (.failed e.message) ∧
            ¬ p.FindsRest reduction l source (begin l source s) e) ∨
          (log.getLast? = some (.diagnosed e.message) ∧
            p.FindsRest reduction l source (begin l source s) e)) ∧
      (∀ text, .diagnosed text ∈ log ↔
        ∃ e, result = .error (.failed e) ∧ e.message = text ∧
          p.Diagnoses reduction l source (begin l source s) e) ∧
      ∀ before label place after, log = before ++ .skipping label place :: after →
        ∃ text, after.head? = some (.consumed label text place) := by
  have horderly : l.Orderly := by
    obtain rfl | ⟨v, rfl⟩ := hl
    · exact Lexer.orderly_direct
    · exact Lexer.orderly_firstMatch v
  have hrecord := records_parseUsing horderly p reduction source s
  cases hparse : p.parseUsing reduction l source s with
  | mk result st =>
    rw [hparse] at hrecord
    obtain ⟨walk, ending, hwalk, hevents, hends⟩ := hrecord
    refine ⟨result, st, walk ++ ending, rfl, ?_, ?_, ?_, fun root hresult => ?_,
      fun e hresult => ?_, fun text => ?_, fun before label place after => ?_⟩
    · rw [hevents, begun, Session.toList_events_note, List.append_assoc]
      rfl
    · refine List.forall_mem_append.2 ⟨fun event hevent => (hwalk.opens_closes hevent).1, ?_⟩
      exact fun event hevent => (hends.level_opens event hevent).2
    · exact hwalk.closes_dropLast hends.closes_dropLast
    · exact List.mem_getLast?_append_of_mem_getLast? (hends.getLast?_of_ok hresult)
    · exact (hends.getLast?_of_failed hresult).imp
        (And.imp_left List.mem_getLast?_append_of_mem_getLast?)
        (And.imp_left List.mem_getLast?_append_of_mem_getLast?)
    · rw [List.mem_append, or_iff_right (hwalk.not_mem rfl)]
      exact hends.diagnosed_mem_iff
    · exact hwalk.exists_consumed fun event hevent => (hends.level_opens event hevent).1

open Vocabulary in
/-- The record of `(7)` ends with the place behind it. -/
theorem parseUsing_record_list :
    ∃ (st : State (Tree Value)) (log : List Event),
      (trees Value [number] none).parseUsing (.plain Tree.create) (.ofAtoms [number])
        ['(', '7', ')'] .start = (.ok (.list [.atom (some (.int 7))]), st) ∧
      st.session.events.toList = .parsing 3 5 .start :: log ∧
      log.getLast? = some (.parsed ⟨3, 1, 4⟩) := by
  have hreads : (Lexer.ofAtoms [number]).Reads ['(', '7', ')'] .start
      (TokenTree.flatten (.node ⟨opening, ['('], ⟨0, 1, 1⟩⟩
        [.leaf ⟨number, ['7'], ⟨1, 1, 2⟩⟩ (by decide)] ⟨closing, [')'], ⟨2, 1, 3⟩⟩ rfl rfl))
      ⟨3, 1, 4⟩ := by
    refine .cons_of_firstOf (.start _) rfl rfl fun h => ?_
    refine .cons_of_firstOf h rfl rfl fun h => ?_
    refine .cons_of_firstOf h rfl rfl fun h => ?_
    exact .nil _
  obtain ⟨st, hparse, hstop⟩ := exists_parseUsing_eq_ok (trees Value [number] none)
    (.plain Tree.create) (s := .start) rfl hreads (Lexer.peek_of_end rfl) (fun n hn => by cases hn)
    rfl
  obtain ⟨result, st', log, hparse', hevents, -, -, hok, -⟩ :=
    parseUsing_record (trees Value [number] none) (.plain Tree.create)
      (l := .ofAtoms [number]) (.inr ⟨_, rfl⟩) ['(', '7', ')'] .start
  rw [hparse] at hparse'
  obtain ⟨rfl, rfl⟩ := Prod.mk.inj hparse'
  rw [hstop] at hok
  exact ⟨st, log, hparse, hevents, hok _ rfl⟩

/-! ### Without an end -/

/-- **A parse that finds another token behind the expression does not note down that it ended.** The
diagnosis is its last entry. -/
theorem exists_unclosed_of_findsRest (h : p.FindsRest reduction l source (begin l source s) e) :
    ∃ st log, p.parseUsing reduction l source s = (.error (.failed e), st) ∧
      st.session.events.toList = (begun l source s).events.toList ++ log ∧
      log.getLast? = some (.diagnosed e.message) ∧ ∀ event ∈ log, event.closes = false := by
  obtain ⟨s', st, ⟨walk, hevents, hwalk⟩, hst, hparse⟩ := exists_parseUsing_of_findsRest h
  refine ⟨st, walk ++ [.diagnosed e.message], hparse, ?_, List.getLast?_concat, ?_⟩
  · rw [hst, Session.toList_events_note, hevents, List.append_assoc]
  · refine List.forall_mem_append.2 ⟨fun event hevent => (hwalk.opens_closes hevent).2, ?_⟩
    exact List.forall_mem_cons.2 ⟨rfl, fun event hevent => absurd hevent List.not_mem_nil⟩

/-- Where the tokens of a tree lie ahead and another one behind them, a parse finds that one. -/
theorem exists_findsRest_of_flatten (p : Parser E) (reduction : Reduction E) {g : TokenTree}
    {t : Tree Value} {q stop : Position} {root : E} {extra : Token} (hread : g.read = .ok t)
    (hreads : l.Reads source s.position g.flatten q)
    (hpeek : l.peek source q = (.ok (some extra), stop)) (hlimit : Within p.maxDepth g.depth)
    (hroot : (reduction.fold t).1 = .ok root) :
    ∃ e, p.FindsRest reduction l source (begin l source s) e := by
  obtain ⟨st, hrun, hq⟩ : ∃ st, p.run reduction l source (begin l source s) = (.ok root, st) ∧
      st.session.position = q :=
    exists_parseRoot_of_flatten p reduction hread hreads hlimit hroot
  rw [← hq] at hpeek
  obtain ⟨s', hnext, -⟩ := Lexer.exists_next_of_peek hpeek
  exact ⟨_, root, st, extra, s', hrun, hnext, rfl⟩

open Vocabulary in
/-- **A parse may fail without a word about its end.** Behind the list of `()x` the `x` is
diagnosed, and that is the last entry: nothing says that the parse failed. -/
theorem exists_parseUsing_unclosed :
    ∃ (e : Error) (st : State (Tree Value)),
      (trees Value [] none).parseUsing (.plain Tree.create) (.ofAtoms []) ['(', ')', 'x'] .start =
        (.error (.failed e), st) ∧
      st.session.events.toList.getLast? = some (.diagnosed e.message) ∧
      ∀ event ∈ st.session.events.toList, event.closes = false := by
  have hreads : (Lexer.ofAtoms []).Reads ['(', ')', 'x'] .start
      (TokenTree.flatten (.node ⟨opening, ['('], ⟨0, 1, 1⟩⟩ [] ⟨closing, [')'], ⟨1, 1, 2⟩⟩ rfl rfl))
      ⟨2, 1, 3⟩ := by
    refine .cons_of_firstOf (.start _) rfl rfl fun h => ?_
    refine .cons_of_firstOf h rfl rfl fun h => ?_
    exact .nil _
  have hahead : Ahead ['(', ')', 'x'] ⟨2, 1, 3⟩ ['x'] := rfl
  have hfirst : Lexer.firstOf (.parens []) ['x'] =
      some ⟨unexpected, ['x'], List.cons_ne_nil _ _⟩ := rfl
  obtain ⟨e, hrest⟩ := exists_findsRest_of_flatten (trees Value [] none)
    (.plain Tree.create) (s := .start) rfl hreads
    (Lexer.peek_of_firstOf hahead (List.cons_ne_nil _ _) hfirst rfl) (fun n hn => by cases hn) rfl
  obtain ⟨st, log, hparse, hevents, hlast, hcloses⟩ := exists_unclosed_of_findsRest hrest
  have hlog : st.session.events.toList = [.parsing 3 4 .start] ++ log := hevents
  refine ⟨e, st, hparse, ?_, ?_⟩
  · rw [hlog]
    exact List.mem_getLast?_append_of_mem_getLast? hlast
  · rw [hlog]
    exact List.forall_mem_cons.2 ⟨rfl, hcloses⟩

end Parser

end Parens
