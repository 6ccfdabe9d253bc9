import Parens.Proofs.Pass
import Parens.Proofs.Tiling

/-!
# Two Lexers for One Notation

A source can be parsed with the lexer that decides by the first character instead of the one that
tries the patterns. Both find the same tokens up to the first stray one (`next_direct_cases`), and
a stray token ends the parse. So the two parses go through the same states, and they differ at
most in the text of the stray token that the error names (`parseUsing_direct_agrees`).

The comparison needs a place where the source can be cut, and this is where the tiling comes in:
it holds at the beginning and is kept by every step. The induction is on the run.

## Main results

* `next_direct_cases`: both lexers find the same token, or both find a stray one.
* `agree_run`: **two runs agree**.
* `parseUsing_direct_agrees`: **two parses agree**, with any reduction and any limit.
-/

namespace Parens

open Vocabulary

namespace Lexer

variable {source : List Char} {s : Session}

/-- In front of the end of the source both lexers recognise the same, or something unexpected, of
which the one that decides by the first character takes just this one. -/
theorem exists_matchNext_direct (h : s.Tiles source)
    (hlt : s.position.offset < Text.byteSize source) :
    ∃ m m', direct.matchNext source none s.position.offset = .ok (some m) ∧
      (ofAtoms plainAtoms).matchNext source none s.position.offset = .ok (some m') ∧
      (m' = m ∨ ∃ c run, unexpected.matchAt source s.position.offset = c :: run ∧
        m = ⟨unexpected, [c], List.cons_ne_nil _ _⟩ ∧
        m' = ⟨unexpected, c :: run, List.cons_ne_nil _ _⟩) := by
  obtain ⟨c, cs, hahead⟩ := h.exists_ahead_cons hlt
  have hdirect : direct.matchNext source none s.position.offset = .ok (some (dispatch c cs)) := by
    simp only [matchNext, direct]
    rw [hahead]
  have hpatterns : (ofAtoms plainAtoms).matchNext source none s.position.offset =
      .ok (firstOf (.parens plainAtoms) (c :: cs)) := matchNext_of_ahead hahead
  obtain hsame | ⟨run, hrun, hstray, hfirst⟩ := firstOf_eq_dispatch c cs
  · rw [hsame] at hpatterns
    exact ⟨_, _, hdirect, hpatterns, .inl rfl⟩
  · rw [hfirst] at hpatterns
    have hmatch : unexpected.matchAt source s.position.offset = c :: run := by
      rw [Rule.matchAt, hahead]
      exact hrun
    exact ⟨_, _, hdirect, hpatterns, .inr ⟨c, run, hmatch, hstray, rfl⟩⟩

/-- **Both lexers find the same token**, and come to the same place, or both find a stray one
there. -/
theorem next_direct_cases (h : s.Tiles source) :
    direct.next source none true s = (ofAtoms plainAtoms).next source none true s ∨
      ∃ c run s', unexpected.matchAt source s'.position.offset = c :: run ∧
        direct.next source none true s = (.ok (some ⟨unexpected, [c], s'.position⟩), s') ∧
        (ofAtoms plainAtoms).next source none true s =
          (.ok (some ⟨unexpected, c :: run, s'.position⟩), s') := by
  have hhint : ∀ k, (none : Option Kind) = some k → k.toRule.Anchored := by
    intro k hk
    cases hk
  fun_induction direct.next source none true s with
  | case1 s hlt halt hm =>
    obtain ⟨m, m', hdirect, -⟩ := exists_matchNext_direct h hlt
    cases hdirect.symm.trans hm
  | case2 s hlt hm =>
    obtain ⟨m, m', hdirect, -⟩ := exists_matchNext_direct h hlt
    cases hdirect.symm.trans hm
  | case3 s hlt m hm hskip ih =>
    obtain ⟨m₀, m', hdirect, hpatterns, halike⟩ := exists_matchNext_direct h hlt
    obtain rfl := Option.some.inj (Except.ok.inj (hdirect.symm.trans hm))
    obtain rfl | ⟨c, run, -, rfl, -⟩ := halike
    · have hpass : (ofAtoms plainAtoms).next source none true s =
          (ofAtoms plainAtoms).next source none true (s.pass (tokenAt s m')) := by
        rw [next.eq_1 (ofAtoms plainAtoms) source none true s, if_pos hlt, hpatterns]
        simp only [hskip, if_true]
      rw [hpass]
      exact ih (h.pass (faces_of_matchNext anchored_direct hhint h hm))
    · cases hskip
  | case4 s hlt m hm hskip =>
    obtain ⟨m₀, m', hdirect, hpatterns, halike⟩ := exists_matchNext_direct h hlt
    obtain rfl := Option.some.inj (Except.ok.inj (hdirect.symm.trans hm))
    have hfound : (ofAtoms plainAtoms).next source none true s =
        if true && !m'.kind.significant then
          (ofAtoms plainAtoms).next source none true (s.pass (tokenAt s m'))
        else (.ok (some (tokenAt s m')), s) := by
      rw [next.eq_1 (ofAtoms plainAtoms) source none true s, if_pos hlt, hpatterns]
    obtain rfl | ⟨c, run, hrun, rfl, rfl⟩ := halike
    · rw [hfound, if_neg hskip]
      exact .inl rfl
    · exact .inr ⟨c, run, s, hrun, rfl, hfound⟩
  | case5 s hlt =>
    rw [next.eq_1 (ofAtoms plainAtoms) source none true s, if_neg hlt]
    exact .inl rfl

end Lexer

namespace Parser

variable {E : Type} {p : Parser E} {reduction : Reduction E} {source : List Char} {st : State E}

/-! ### Two parses -/

/-- What two parses come to if they agree: the same, down to the state, or an error about a stray
token at the same place, of which the first one names the first character only. -/
inductive Agree (source : List Char) :
    Except Halt E × State E → Except Halt E × State E → Prop
  /-- Both come to the same. -/
  | same {result : Except Halt E} (st : State E) :
      result ≠ .error .midCharacter → Agree source (result, st) (result, st)
  /-- Both come to a stray token. -/
  | stray {c : Char} {run : List Char} {position : Position} {st st' : State E}
      (expected : String) :
      unexpected.matchAt source position.offset = c :: run →
      st.session.position = st'.session.position →
      Agree source
        (.error (.failed (misplaced expected (some ⟨unexpected, [c], position⟩) position)), st)
        (.error (.failed (misplaced expected (some ⟨unexpected, c :: run, position⟩) position)),
          st')

/-- A step that finds a stray token complains about it, at its place. -/
theorem exists_step_eq_stray (p : Parser E) (reduction : Reduction E) {l : Lexer}
    {text : List Char} {s : Session}
    (h : l.next source none true st.session =
      (.ok (some ⟨unexpected, text, s.position⟩), s)) :
    ∃ st' : State E, st'.session.position = s.position ∧
      p.step reduction l source st =
        .done (.error (.failed (misplaced (Stage.expected st.stack.length)
          (some ⟨unexpected, text, s.position⟩) s.position))) st' := by
  have hverdict : verdict p.maxDepth st.stack.length ⟨unexpected, text, s.position⟩ =
      .unexpected := rfl
  rw [step_eq_enact reduction h, hverdict, ← diagnosis_eq_misplaced]
  exact ⟨_, rfl, rfl⟩

/-- A check behind an expression that finds a stray token complains about it, at its place. -/
theorem exists_finish_eq_stray {l : Lexer} {text : List Char} {s : Session} (root : E)
    (h : l.next source none true st.session =
      (.ok (some ⟨unexpected, text, s.position⟩), s)) :
    ∃ st' : State E, st'.session.position = s.position ∧
      finish l source root st =
        (.error (.failed (misplaced "end of input" (some ⟨unexpected, text, s.position⟩)
          s.position)), st') := by
  rw [finish_eq_error root h]
  exact ⟨_, rfl, rfl⟩

/-- Two lexers that find the same make the parser take the same step. -/
theorem step_congr {l l' : Lexer}
    (h : l.next source none true st.session = l'.next source none true st.session) :
    p.step reduction l source st = p.step reduction l' source st := by
  simp only [step, h]

/-- Two lexers that find the same lead to the same check behind an expression. -/
theorem finish_congr {l l' : Lexer} (root : E)
    (h : l.next source none true st.session = l'.next source none true st.session) :
    finish l source root st = finish l' source root st := by
  simp only [finish, h]

/-- **Two runs agree.** Step by step they find the same token and make the same progress, until
they are done or a stray token ends both. -/
theorem agree_run (h : st.session.Tiles source) :
    Agree source (p.run reduction .direct source st)
      (p.run reduction (.ofAtoms plainAtoms) source st) := by
  fun_induction p.run reduction .direct source st with
  | case1 st result st' hstep =>
    have hprogress : (p.step reduction .direct source st).Tiles source :=
      step_tiles Lexer.anchored_direct h
    rw [run_eq_proceed]
    obtain hsame | ⟨c, run, s, hmatch, hdirect, hpatterns⟩ := Lexer.next_direct_cases h
    · rw [← step_congr hsame, hstep]
      rw [hstep] at hprogress
      exact .same st' hprogress.1
    · obtain ⟨st₁, hst₁, hstep₁⟩ := exists_step_eq_stray p reduction hdirect
      obtain ⟨st₂, hst₂, hstep₂⟩ :=
        exists_step_eq_stray p reduction hpatterns
      obtain ⟨rfl, rfl⟩ := Progress.done.inj (hstep.symm.trans hstep₁)
      rw [hstep₂]
      exact .stray _ hmatch (hst₁.trans hst₂.symm)
  | case2 st st' hstep ih =>
    have hprogress : (p.step reduction .direct source st).Tiles source :=
      step_tiles Lexer.anchored_direct h
    obtain hsame | ⟨c, run, s, -, hdirect, -⟩ := Lexer.next_direct_cases h
    · rw [run_eq_proceed p reduction (.ofAtoms plainAtoms), ← step_congr hsame, hstep]
      rw [hstep] at hprogress
      exact ih hprogress
    · obtain ⟨st₁, -, hstep₁⟩ := exists_step_eq_stray p reduction hdirect
      cases hstep.symm.trans hstep₁

/-- The checks behind an expression agree. -/
theorem agree_finish (root : E) (h : st.session.Tiles source) :
    Agree source (finish .direct source root st)
      (finish (.ofAtoms plainAtoms) source root st) := by
  have hhalt := (finish_tiles Lexer.anchored_direct root h).1
  obtain hsame | ⟨c, run, s, hmatch, hdirect, hpatterns⟩ := Lexer.next_direct_cases h
  · rw [← finish_congr root hsame]
    exact .same _ hhalt
  · obtain ⟨st₁, hst₁, hfinish₁⟩ := exists_finish_eq_stray root hdirect
    obtain ⟨st₂, hst₂, hfinish₂⟩ := exists_finish_eq_stray root hpatterns
    rw [hfinish₁, hfinish₂]
    exact .stray _ hmatch (hst₁.trans hst₂.symm)

/-- What is made of the results of two runs agrees. -/
theorem agree_conclude {outcome outcome' : Except Halt E × State E}
    (h : Agree source outcome outcome') (htiles : outcome.2.session.Tiles source) :
    Agree source (conclude .direct source outcome)
      (conclude (.ofAtoms plainAtoms) source outcome') := by
  cases h with
  | same st hhalt =>
    rename_i result
    cases result with
    | ok root => exact agree_finish root htiles
    | error halt =>
      cases halt with
      | failed e => exact .same _ hhalt
      | midCharacter => exact absurd rfl hhalt
  | stray expected hmatch hplace => exact .stray expected hmatch hplace

/-- **The lexer that decides by the first character agrees with the patterns.** Whatever nodes are
made and whatever the limit is, parsing a source with either lexer ends at the same place. Both
parses come to the same root, or fail with the same error, or fail over a stray token: then the
errors say the same of the same place, up to the text of the token, which is a run of unexpected
characters for the patterns and its first character for the other lexer. -/
theorem parseUsing_direct_agrees (build : Content E → Except Error E) (limit : Option Nat)
    (reduction : Reduction E) (source : List Char) :
    let p : Parser E := ⟨plainAtoms, build, limit⟩
    let outcome := p.parseUsing reduction .direct source .start
    let outcome' := p.parseUsing reduction p.lexer source .start
    outcome.2.session.position = outcome'.2.session.position ∧
      ((∃ root, outcome.1 = .ok root ∧ outcome'.1 = .ok root) ∨
        (∃ e, outcome.1 = .error (.failed e) ∧ outcome'.1 = .error (.failed e)) ∨
        ∃ expected c run position, unexpected.matchAt source position.offset = c :: run ∧
          outcome.1 = .error (.failed
            (misplaced expected (some ⟨unexpected, [c], position⟩) position)) ∧
          outcome'.1 = .error (.failed
            (misplaced expected (some ⟨unexpected, c :: run, position⟩) position))) := by
  intro p outcome outcome'
  have hbegin : (begin .direct source .start : State E).session.Tiles source :=
    (Session.tiles_start source).note fun _ _ _ => Event.noConfusion
  have hrun : Agree source (p.run reduction .direct source (begin .direct source .start))
      (p.run reduction (.ofAtoms plainAtoms) source (begin .direct source .start)) :=
    agree_run hbegin
  have hagree : Agree source outcome outcome' :=
    agree_conclude hrun (run_tiles Lexer.anchored_direct hbegin).2
  generalize outcome = a, outcome' = b at hagree
  cases hagree with
  | same st hhalt =>
    rename_i result
    refine ⟨rfl, ?_⟩
    cases result with
    | ok root => exact .inl ⟨root, rfl, rfl⟩
    | error halt =>
      cases halt with
      | failed e => exact .inr (.inl ⟨e, rfl, rfl⟩)
      | midCharacter => exact absurd rfl hhalt
  | stray expected hmatch hplace =>
    exact ⟨hplace, .inr (.inr ⟨expected, _, _, _, hmatch, rfl, rfl⟩)⟩

end Parser

end Parens
