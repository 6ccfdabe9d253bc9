import Parens.Proofs.Translation

/-!
# Strides

Every loop over a lexer ends, because every token that is moved past lies inside the source and
takes at least one byte of it. Nothing else is asked of the lexer: it may find texts that are not at
the place where it stands, and its session may stand inside a character, or behind the end.

`Strides` says this about the trail of a session, in which all tokens are noted down that it moved
past, one after the other, and `Session.Advances` says that one session became another in such a
way. Passing over insignificant tokens keeps to it, so looking for a token does, and with it
scanning and the steps of the parser. As no byte is taken twice, the bytes left of the source
bound the number of tokens.

## Main results

* `Strides.length_le`: **no more tokens than bytes**.
* `Lexer.advances_next`, `Lexer.advances_scan`, `Parser.advances_run`, `Parser.advances_parseUsing`:
  searches, scans, runs and whole parses move past one token after the other.
-/

namespace Parens

/-! ### Strides through a source -/

/-- A row of tokens that are moved past one after the other, from one place to another: each of them
stands where the last one stopped, inside the source, and its text takes the place forward. -/
inductive Strides (source : List Char) :
    Position → List (String × List Char × Position) → Position → Prop
  /-- No token is moved past. -/
  | nil (p : Position) : Strides source p [] p
  /-- One token is moved past, and then some others. -/
  | cons {p q : Position} {label : String} {text : List Char}
      {steps : List (String × List Char × Position)} :
      p.offset < Text.byteSize source → p.offset + 1 ≤ (p.advance text).offset →
      Strides source (p.advance text) steps q → Strides source p ((label, text, p) :: steps) q

namespace Strides

variable {source : List Char} {p q r : Position}
  {steps steps' : List (String × List Char × Position)}

/-- Strides go on where others stopped. -/
theorem append (h : Strides source p steps q) (h' : Strides source q steps' r) :
    Strides source p (steps ++ steps') r := by
  induction h with
  | nil p => exact h'
  | cons hinside hforward _ ih => exact .cons hinside hforward (ih h')

/-- **No more tokens are moved past than there are bytes left.** -/
theorem length_le (h : Strides source p steps q) :
    steps.length ≤ Text.byteSize source - p.offset := by
  induction h with
  | nil p => exact Nat.zero_le _
  | cons hinside hforward _ ih =>
    rw [List.length_cons]
    omega

end Strides

/-! ### Sessions -/

namespace Session

/-- One session became another by moving past tokens, one after the other. -/
def Advances (source : List Char) (s s' : Session) : Prop :=
  ∃ steps, s'.trail = s.trail ++ steps ∧ Strides source s.position steps s'.position

namespace Advances

variable {source : List Char} {s s₁ s' : Session} {t : Token}

/-- A session that stays advances. -/
theorem refl (source : List Char) (s : Session) : s.Advances source s :=
  ⟨[], (List.append_nil _).symm, .nil _⟩

/-- A session advances further. -/
theorem trans (h : s.Advances source s₁) (h' : s₁.Advances source s') : s.Advances source s' := by
  obtain ⟨steps, htrail, hsteps⟩ := h
  obtain ⟨steps', htrail', hsteps'⟩ := h'
  refine ⟨steps ++ steps', ?_, hsteps.append hsteps'⟩
  rw [htrail', htrail, List.append_assoc]

/-- What is noted down about anything else does not matter. -/
theorem note (h : s.Advances source s') {e : Event} (he : e.passed? = none) :
    s.Advances source (s'.note e) := by
  obtain ⟨steps, htrail, hsteps⟩ := h
  exact ⟨steps, by rw [trail_note s' he, htrail], hsteps⟩

/-- A token that stands where the session does, inside the source, and that has a text can be moved
past. -/
theorem consume (h : s.Advances source s') (hplace : t.position = s'.position) (htext : t.text ≠ [])
    (hinside : s'.position.offset < Text.byteSize source) :
    s.Advances source (s'.consume t) := by
  refine h.trans ⟨[(t.kind.label, t.text, t.position)], trail_consume s' t, ?_⟩
  rw [hplace]
  refine .cons hinside ?_ (.nil _)
  have := Text.byteSize_pos htext
  rw [Position.offset_advance]
  omega

/-- **A session moves past no more tokens than there are bytes left.** -/
theorem length_trail_le (h : s.Advances source s') :
    s'.trail.length ≤ s.trail.length + (Text.byteSize source - s.position.offset) := by
  obtain ⟨steps, htrail, hsteps⟩ := h
  rw [htrail, List.length_append]
  exact Nat.add_le_add_left hsteps.length_le _

end Advances

end Session

/-! ### Searches and scans -/

namespace Lexer

variable {source : List Char} {s s' : Session} {t : Token}

/-- **Looking for a token moves past one insignificant token after the other.** -/
theorem advances_next (l : Lexer) (source : List Char) (hint : Option Kind) (skip : Bool)
    (s : Session) : s.Advances source (l.next source hint skip s).2 := by
  fun_induction l.next source hint skip s with
  | case1 s hinside halt hm => exact .refl source s
  | case2 s hinside hm => exact .refl source s
  | case3 s hinside m hm hskip ih =>
    have hpass : s.Advances source (s.pass (tokenAt s m)) :=
      ((Session.Advances.refl source s).note (e := .skipping m.kind.label s.position) rfl).consume
        rfl m.text_ne_nil hinside
    exact hpass.trans ih
  | case4 s hinside m hm hskip => exact .refl source s
  | case5 s hinside => exact .refl source s

/-- A token that was found can be moved past. -/
theorem advances_consume {l : Lexer} {hint : Option Kind} {skip : Bool}
    (h : l.next source hint skip s = (.ok (some t), s')) :
    s.Advances source (s'.consume t) := by
  obtain ⟨hplace, htext, -, hinside⟩ := next_eq_some h
  have hnext := l.advances_next source hint skip s
  rw [h] at hnext
  exact hnext.consume hplace htext hinside

/-- The check at the end of a scan moves past nothing. -/
theorem advances_finishScan (source : List Char) (s : Session) :
    s.Advances source (finishScan source s).2 := by
  unfold finishScan
  split
  · split
    · exact .refl source s
    · exact (Session.Advances.refl source s).note rfl
  · exact .refl source s

/-- **A scan moves past one token after the other.** -/
theorem advances_scan (l : Lexer) (source : List Char) (s : Session) :
    s.Advances source (l.scan source s).2 := by
  have hnext := l.advances_next source none true s
  fun_induction l.scan source s with
  | case1 s halt s' h =>
    rw [h] at hnext
    exact hnext
  | case2 s s' h =>
    rw [h] at hnext
    exact hnext.trans (advances_finishScan source s')
  | case3 s t s' h tokens s'' hrest ih =>
    rw [hrest] at ih
    exact (advances_consume h).trans (ih (l.advances_next source none true _))

end Lexer

/-! ### Runs and whole parses -/

namespace Parser

variable {E : Type} {l : Lexer} {source : List Char} {s : Session} {st : State E}

/-- Making a node leaves the session alone. -/
theorem session_attach (reduction : Reduction E) (content : Content E) (st : State E) :
    (attach reduction content st).state.session = st.session := by
  obtain ⟨node, calls, -, heq⟩ | ⟨e, calls, -, -, -, heq⟩ := attach_cases reduction content st
  · rw [heq, put]
    split <;> rfl
  · rw [heq]
    rfl

/-- A move leaves the session alone. -/
theorem session_apply (reduction : Reduction E) (st : State E) (move : Move) :
    (move.apply reduction st).state.session = st.session := by
  cases move with
  | opening => rfl
  | atom v => exact session_attach reduction _ st
  | closing => exact session_attach reduction _ _

/-- **A step moves past the token ahead**, or past nothing but what stands in front of it. -/
theorem advances_step (p : Parser E) (reduction : Reduction E) (l : Lexer) (source : List Char)
    (st : State E) :
    st.session.Advances source (p.step reduction l source st).state.session := by
  have hnext := l.advances_next source none true st.session
  obtain ⟨halt, s, h⟩ | ⟨s, h⟩ | ⟨t, s, h⟩ := l.next_cases source none true st.session
  · rw [h] at hnext
    rw [step_eq_done reduction h]
    exact hnext
  · rw [h] at hnext
    rw [step_eq_complain reduction h]
    exact hnext.note rfl
  · have hconsume := Lexer.advances_consume h
    rw [h] at hnext
    rw [step_eq_enact reduction h]
    cases verdict p.maxDepth st.stack.length t with
    | unexpected => exact hnext.note rfl
    | tooDeep n => exact hnext
    | unreadable e => exact hconsume
    | accepted move =>
      rw [enact, session_apply]
      exact hconsume

/-- **A run moves past one token after the other.** -/
theorem advances_run (p : Parser E) (reduction : Reduction E) (l : Lexer) (source : List Char)
    (st : State E) :
    st.session.Advances source (p.run reduction l source st).2.session := by
  have hstep := p.advances_step reduction l source st
  fun_induction p.run reduction l source st with
  | case1 st result st' h =>
    rw [h] at hstep
    exact hstep
  | case2 st st' h ih =>
    rw [h] at hstep
    exact hstep.trans (ih (p.advances_step reduction l source st'))

/-- The check behind an expression moves past insignificant tokens at most. -/
theorem advances_finish (l : Lexer) (source : List Char) (root : E) (st : State E) :
    st.session.Advances source (finish l source root st).2.session := by
  have hnext := l.advances_next source none true st.session
  obtain ⟨halt, s, h⟩ | ⟨s, h⟩ | ⟨t, s, h⟩ := l.next_cases source none true st.session
  · rw [h] at hnext
    rw [finish_eq_done root h]
    exact hnext
  · rw [h] at hnext
    rw [finish_eq_ok root h]
    exact hnext.note rfl
  · rw [h] at hnext
    rw [finish_eq_error root h]
    exact hnext.note rfl

/-- **A whole parse moves past one token after the other.** -/
theorem advances_parseUsing (p : Parser E) (reduction : Reduction E) (l : Lexer)
    (source : List Char) (s : Session) :
    s.Advances source (p.parseUsing reduction l source s).2.session := by
  have hrun : s.Advances source _ :=
    ((Session.Advances.refl source s).note
      (e := .parsing (Text.byteSize source) l.vocabulary.length s.position) rfl).trans
      (p.advances_run reduction l source (begin l source s))
  rw [parseUsing_eq_conclude]
  generalize p.run reduction l source (begin l source s) = outcome at hrun
  obtain ⟨halt | root, st⟩ := outcome
  · cases halt with
    | failed e => exact hrun.note rfl
    | midCharacter => exact hrun
  · exact hrun.trans (advances_finish l source root st)

end Parser

end Parens
