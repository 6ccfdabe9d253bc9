import Parens.Proofs.Tiling

/-!
# Dialogues with a Lexer

A lexer is asked for one thing after another: to look at the next token, of any kind, of one kind
or of the first of several, to move past the token that it found last, to scan the source, or to
serve a parser. A `Dialogue` is what has to be remembered between two requests: the session, and
the token that may be consumed, since only the token that was just found can be.

Whatever is asked and in whatever order, the tokens tile the source (`converse_tiles`). One request
keeps this up (`ask_sound`), and the induction is on the requests.

## Main results

* `ask_sound`: **a request keeps the tiling**, and so does its failure.
* `converse_tiles`: **tokens tile the source** after any requests.
-/

namespace Parens

/-- What a lexer can be asked for. -/
inductive Request : Type 1 where
  /-- To look at the next token, of one kind if a kind is asked for, with or without passing over
  insignificant tokens. -/
  | next (hint : Option Kind) (skip : Bool)
  /-- To look for a token of each kind in turn. -/
  | among (kinds : List Kind) (skip : Bool)
  /-- To move past the token that was just found. -/
  | consume
  /-- To scan the source from where the session stands. -/
  | scan
  /-- To read one expression. -/
  | parseRoot {E : Type} (p : Parser E) (reduction : Reduction E)
  /-- To read the one expression that the source holds from where the session stands. -/
  | parseUsing {E : Type} (p : Parser E) (reduction : Reduction E)

/-- A request is anchored if the kinds that it names are. -/
def Request.Anchored : Request → Prop
  | next hint _ => ∀ k, hint = some k → k.toRule.Anchored
  | among kinds _ => ∀ k ∈ kinds, k.toRule.Anchored
  | _ => True

/-- The answer to a request: the tokens found. -/
abbrev Answer := Except Halt (List Token)

/-- What is remembered between two requests. -/
structure Dialogue where
  /-- The state of the lexer. -/
  session : Session
  /-- The token that was just found, if the last request was to look for one. -/
  found : Option Token

namespace Dialogue

/-- A dialogue at the beginning of the source. -/
def start : Dialogue := ⟨.start, none⟩

/-- The answer to a search for a token. The token found may be consumed next. -/
def answerSearch : Except Halt (Option Token) × Session → Answer × Dialogue
  | (.ok found, s) => (.ok found.toList, ⟨s, found⟩)
  | (.error halt, s) => (.error halt, ⟨s, none⟩)

/-- The answer to a request of a parser, which keeps its tokens to itself. -/
def answerParse {E : Type} : Except Halt E × Parser.State E → Answer × Dialogue
  | (result, st) => (result.map fun _ => [], ⟨st.session, none⟩)

/-- Asks a lexer for something. Where there is no token to consume, nothing happens. -/
def ask (l : Lexer) (source : List Char) (d : Dialogue) : Request → Answer × Dialogue
  | .next hint skip => answerSearch (l.next source hint skip d.session)
  | .among kinds skip => answerSearch (l.nextAmong source skip kinds d.session)
  | .consume =>
    match d.found with
    | some t => (.ok [], ⟨d.session.consume t, none⟩)
    | none => (.ok [], d)
  | .scan => ((l.scan source d.session).1, ⟨(l.scan source d.session).2, none⟩)
  | .parseRoot p reduction => answerParse (p.parseRoot reduction l source d.session)
  | .parseUsing p reduction => answerParse (p.parseUsing reduction l source d.session)

/-- Asks a lexer for one thing after another. -/
def converse (l : Lexer) (source : List Char) : List Request → Dialogue → List Answer × Dialogue
  | [], d => ([], d)
  | r :: rs, d =>
    let (answer, d) := d.ask l source r
    let (answers, d) := converse l source rs d
    (answer :: answers, d)

/-! ### Soundness -/

/-- The session of a dialogue tiles the source, and faces the token that may be consumed. -/
def Sound (source : List Char) (d : Dialogue) : Prop :=
  d.session.Tiles source ∧ ∀ t, d.found = some t → d.session.Faces source t

end Dialogue

/-- An answer is sound if the source was not cut inside a character and if all tokens found stand
at their places. -/
def Answer.Sound (source : List Char) (answer : Answer) : Prop :=
  answer ≠ .error .midCharacter ∧
    ∀ tokens, answer = .ok tokens → ∀ t ∈ tokens, StandsAt source t.text t.position

namespace Dialogue

variable {l : Lexer} {source : List Char} {d : Dialogue}

/-- The answer to a search that kept the tiling is sound. -/
theorem answerSearch_sound {outcome : Except Halt (Option Token) × Session}
    (h : ∃ found s, outcome = (.ok found, s) ∧ s.Tiles source ∧
      ∀ t, found = some t → s.Faces source t) :
    (answerSearch outcome).1.Sound source ∧ (answerSearch outcome).2.Sound source := by
  obtain ⟨found, s, rfl, htiles, hfaces⟩ := h
  refine ⟨⟨by simp [answerSearch], fun tokens htokens t ht => ?_⟩, htiles, hfaces⟩
  obtain rfl := Except.ok.inj htokens
  exact htiles.standsAt_of_faces (hfaces t (Option.mem_toList.1 ht))

/-- The answer to a request of a parser that kept the tiling is sound. -/
theorem answerParse_sound {E : Type} {outcome : Except Halt E × Parser.State E}
    (h : outcome.1 ≠ .error .midCharacter ∧ outcome.2.session.Tiles source) :
    (answerParse outcome).1.Sound source ∧ (answerParse outcome).2.Sound source := by
  obtain ⟨result, st⟩ := outcome
  obtain ⟨hhalt, htiles⟩ := h
  have hfound : ∀ t, (none : Option Token) = some t → st.session.Faces source t := by
    intro t ht
    cases ht
  cases result with
  | ok root =>
    refine ⟨⟨by simp [answerParse, Except.map], fun tokens htokens t ht => ?_⟩, htiles, hfound⟩
    obtain rfl := Except.ok.inj htokens
    cases ht
  | error halt =>
    refine ⟨⟨?_, fun tokens htokens => by cases htokens⟩, htiles, hfound⟩
    intro hmid
    exact hhalt (congrArg Except.error (Except.error.inj hmid))

/-- **A request keeps the tiling.** Whether it is granted or fails, the answer is sound, and so is
the dialogue afterwards. -/
theorem ask_sound (hl : l.Anchored) (h : d.Sound source) {r : Request} (hr : r.Anchored) :
    (d.ask l source r).1.Sound source ∧ (d.ask l source r).2.Sound source := by
  obtain ⟨htiles, hfaces⟩ := h
  cases r with
  | next hint skip => exact answerSearch_sound (Lexer.exists_next_of_tiles hl hr skip htiles)
  | among kinds skip =>
    exact answerSearch_sound (Lexer.exists_nextAmong_of_tiles hl hr skip htiles)
  | consume =>
    have hnone : Answer.Sound source (.ok []) := by
      refine ⟨by simp, fun tokens htokens t ht => ?_⟩
      obtain rfl := Except.ok.inj htokens
      cases ht
    cases hfound : d.found with
    | none =>
      simp only [ask, hfound]
      exact ⟨hnone, htiles, hfaces⟩
    | some t =>
      simp only [ask, hfound]
      exact ⟨hnone, htiles.consume (hfaces t hfound), fun t ht => by cases ht⟩
  | scan =>
    obtain ⟨hhalt, hend, hstands⟩ := Lexer.scan_tiles hl htiles
    exact ⟨⟨hhalt, hstands⟩, hend, fun t ht => by cases ht⟩
  | parseRoot p reduction => exact answerParse_sound (Parser.run_tiles hl htiles)
  | parseUsing p reduction => exact answerParse_sound (Parser.parseUsing_tiles hl htiles)

/-- Requests one after another keep the tiling. -/
theorem converse_sound (hl : l.Anchored) {requests : List Request}
    (hrequests : ∀ r ∈ requests, r.Anchored) (h : d.Sound source) :
    (∀ answer ∈ (converse l source requests d).1, answer.Sound source) ∧
      (converse l source requests d).2.Sound source := by
  induction requests generalizing d with
  | nil => exact ⟨fun answer hanswer => (List.not_mem_nil hanswer).elim, h⟩
  | cons r rs ih =>
    obtain ⟨hr, hrs⟩ := List.forall_mem_cons.1 hrequests
    obtain ⟨hanswer, hnext⟩ := ask_sound hl h hr
    obtain ⟨hanswers, hend⟩ := ih hrs hnext
    exact ⟨List.forall_mem_cons.2 ⟨hanswer, hanswers⟩, hend⟩

/-- **Tokens tile the source.** A lexer at hand is asked for any things in any order, from the
beginning of the source on. Afterwards the source can be cut where the session stands, what is in
front of the cut is what was read, and the session stands where that leads to; all tokens that were
consumed or passed over stand at their places, and so do all that were returned. No request cut the
source inside a character. -/
theorem converse_tiles (hl : l.Standard) (source : List Char) {requests : List Request}
    (hrequests : ∀ r ∈ requests, r.Anchored) :
    (converse l source requests start).2.session.Tiles source ∧
      ∀ answer ∈ (converse l source requests start).1, answer.Sound source := by
  have hstart : start.Sound source := ⟨Session.tiles_start source, fun t ht => by cases ht⟩
  obtain ⟨hanswers, htiles, -⟩ := converse_sound hl.anchored hrequests hstart
  exact ⟨htiles, hanswers⟩

/-- A lexer for list notation is asked for a number at the beginning of a source of two lines,
which is not there, then for any token, and then to move past it and to scan the rest. -/
theorem converse_tiles_lines :
    ∃ requests : List Request,
      requests = [.next (some Vocabulary.number) false, .next none true, .consume, .scan] ∧
      (Lexer.ofAtoms Vocabulary.plainAtoms).Standard ∧ (∀ r ∈ requests, r.Anchored) ∧
      (converse (.ofAtoms Vocabulary.plainAtoms) ['é', '\n', '(', '1', '2', ')'] requests
        start).2.session.Tiles ['é', '\n', '(', '1', '2', ')'] ∧
      ∀ answer ∈ (converse (.ofAtoms Vocabulary.plainAtoms) ['é', '\n', '(', '1', '2', ')']
        requests start).1, answer.Sound ['é', '\n', '(', '1', '2', ')'] := by
  have hlexer := Lexer.standard_ofAtoms Vocabulary.anchored_plainAtoms
  have hnumber : Vocabulary.number.Anchored :=
    Vocabulary.anchored_plainAtoms _ (by simp [Vocabulary.plainAtoms])
  have hrequests : ∀ r ∈ [Request.next (some Vocabulary.number) false, .next none true, .consume,
      .scan], r.Anchored := by
    intro r hr
    simp only [List.mem_cons, List.not_mem_nil, or_false] at hr
    obtain rfl | rfl | rfl | rfl := hr
    · intro k hk
      obtain rfl := Option.some.inj hk
      exact hnumber
    · intro k hk
      cases hk
    · trivial
    · trivial
  exact ⟨_, rfl, hlexer, hrequests, converse_tiles hlexer _ hrequests⟩

end Dialogue

end Parens
