import Mathlib.Logic.Relation
import Parens.Proofs.Translation

/-!
# Where a Failure Leaves the Lexer

A session survives every failure, so a caller can report where it stands, or go on from there. What
is wrong with the source is found when the parser looks at a token, and the parser does not move
past a token that is wrong, whatever it was doing (`Session.StopsAt`). So the lexer stands in front
of it, where the error says. An atom without a value is another matter: its value is asked for
behind the atom, and there the lexer stands.

`Failure` has one constructor for each way in which a run can fail, and `failure_of_run` says that
there is no other. What the readings of tokens and the reduction raise is theirs; if they do not
themselves speak of a place in the source (`Vocabulary.Placeless`, `Reduction.Placeless`), the place
that an error names tells where the lexer stands.

## Main results

* `peek_of_next_ok`: where a search stops, it would begin again with the same token.
* `failure_of_run`, `failure_of_parseUsing`: **the three ways to fail**, and where the lexer stands
  in each of them.
* `exists_parseRoot_of_stumbles`: a run that comes to an atom without a value fails behind it.
* `failed_parse_stops`: **a failed parse or scan stops at its error.**
-/

namespace Parens

/-! ### Errors without a place -/

/-- The readings of a vocabulary raise no error about a place in the source. -/
def Vocabulary.Placeless (v : Vocabulary) : Prop :=
  ∀ k ∈ v, ∀ lexeme e, k.valueOf lexeme = .error e → e.position? = none

/-- A reduction raises no error about a place in the source. -/
def Reduction.Placeless {E : Type} (reduction : Reduction E) : Prop :=
  ∀ outer step e, reduction outer step = .error e → e.position? = none

/-- A reduction that never fails raises no error. -/
theorem Reduction.Total.placeless {E : Type} {reduction : Reduction E} (h : reduction.Total) :
    reduction.Placeless := by
  intro outer step e he
  obtain ⟨node, hnode⟩ := h outer step
  rw [hnode] at he
  cases he

namespace Vocabulary

/-- Around the atoms, list notation adds no reading that raises an error about a place. -/
theorem Placeless.parens {atoms : Vocabulary} (h : atoms.Placeless) :
    (parens atoms).Placeless := by
  intro k hk lexeme e he
  simp only [Vocabulary.parens, List.mem_cons, List.mem_append, List.not_mem_nil, or_false] at hk
  obtain rfl | rfl | rfl | hatom | rfl := hk
  · obtain rfl := Except.error.inj he
    rfl
  · cases he
  · cases he
  · exact h k hatom lexeme e he
  · cases he

/-- The readings of names, quoted texts and whole numbers raise no error about a place. -/
theorem placeless_plainAtoms : plainAtoms.Placeless := by
  intro k hk lexeme e he
  simp only [plainAtoms, List.mem_cons, List.not_mem_nil, or_false] at hk
  obtain rfl | rfl | rfl := hk
  · cases he
  · cases he
  · change Reading.int lexeme = .error e at he
    unfold Reading.int at he
    split at he
    · cases he
    · obtain rfl := Except.error.inj he
      rfl

end Vocabulary

/-! ### Searches -/

namespace Lexer

variable {l : Lexer} {source : List Char}

/-- A lexer is orderly if it recognises only what is in its vocabulary, and has no errors of its own
to report. -/
structure Orderly (l : Lexer) : Prop where
  /-- What is recognised is of a kind in the vocabulary. -/
  kind_mem : ∀ {source offset m}, l.recognize source offset = .ok (some m) → m.kind ∈ l.vocabulary
  /-- The lexer halts only at an offset inside a character. -/
  halt_eq : ∀ {source offset halt}, l.recognize source offset = .error halt → halt = .midCharacter

/-- A lexer that tries a vocabulary in order is orderly. -/
theorem orderly_firstMatch (v : Vocabulary) : (firstMatch v).Orderly where
  kind_mem := kind_mem_of_matchNext
  halt_eq h := by cases h

/-- What the first character decides on is a kind of list notation. -/
theorem kind_mem_dispatch (c : Char) (cs : List Char) :
    (dispatch c cs).kind ∈ Vocabulary.parens Vocabulary.plainAtoms := by
  unfold dispatch
  repeat' split
  all_goals simp [Vocabulary.parens, Vocabulary.plainAtoms]

/-- The lexer that decides by the first character is orderly. -/
theorem orderly_direct : direct.Orderly where
  kind_mem {source offset m} h := by
    simp only [direct] at h ⊢
    split at h
    · cases h
    · cases h
    · obtain rfl := Option.some.inj (Except.ok.inj h)
      exact kind_mem_dispatch _ _
  halt_eq {source offset halt} h := by
    simp only [direct] at h
    split at h
    · exact (Except.error.inj h).symm
    · cases h
    · cases h

/-- A token found is of a kind in the vocabulary. -/
theorem Orderly.kind_mem_of_next (hl : l.Orderly) {s s' : Session} {t : Token}
    (h : l.next source none true s = (.ok (some t), s')) : t.kind ∈ l.vocabulary := by
  cases settles_of_next h with
  | finds m hinside hm hskip => exact hl.kind_mem hm

/-- A search that halts came to an offset inside a character. -/
theorem Orderly.halt_eq_of_next (hl : l.Orderly) {s s' : Session} {halt : Halt}
    (h : l.next source none true s = (.error halt, s')) : halt = .midCharacter := by
  cases settles_of_next h with
  | halts hinside hm => exact hl.halt_eq hm

/-- **Where a search stops, it would begin again with the same token**: everything insignificant in
front of the token was passed over, and the token was not. -/
theorem peek_of_next_ok {s s' : Session} {found : Option Token}
    (h : l.next source none true s = (.ok found, s')) :
    l.peek source s'.position = (.ok found, s'.position) :=
  peek_of_next (next_again h)

/-- The text to report is cut off at an offset inside a character, or not at all. -/
theorem halt_eq_of_strayText {offset : Nat} {halt : Halt}
    (h : strayText source offset = .error halt) : halt = .midCharacter := by
  unfold strayText at h
  split at h
  · split at h
    · cases h
    · exact (Except.error.inj h).symm
  · cases h

/-- **A failed scan stops where it finds nothing more**, and its error names the place. -/
theorem stops_of_scan (hl : l.Orderly) {s s' : Session} {e : Error}
    (h : l.scan source s = (.error (.failed e), s')) :
    e.position? = some s'.position ∧ l.peek source s'.position = (.ok none, s'.position) ∧
      s'.position.offset < Text.byteSize source := by
  fun_induction l.scan source s generalizing s' with
  | case1 s s₁ halt hnext =>
    obtain rfl := Except.error.inj (Prod.mk.inj h).1
    cases hl.halt_eq_of_next hnext
  | case2 s s₁ hnext =>
    have hpeek := peek_of_next_ok hnext
    unfold finishScan at h
    split at h
    · rename_i hlt
      split at h
      · rename_i halt hstray
        obtain rfl := Except.error.inj (Prod.mk.inj h).1
        cases halt_eq_of_strayText hstray
      · obtain ⟨he, rfl⟩ := Prod.mk.inj h
        obtain rfl := Halt.failed.inj (Except.error.inj he)
        exact ⟨rfl, hpeek, hlt⟩
    · cases (Prod.mk.inj h).1
  | case3 s t s₁ hnext found s₂ hscan ih =>
    obtain ⟨hfound, rfl⟩ := Prod.mk.inj h
    cases found with
    | ok ts => cases hfound
    | error halt =>
      obtain rfl := Except.error.inj hfound
      exact ih hscan

end Lexer

/-! ### Errors and what they concern -/

/-- An error concerns what a lexer found at a place, a token or nothing: something else was expected
there, or the token opens a list that stands too deep. -/
inductive Error.Concerns (place : Position) : Option Token → Error → Prop
  /-- Something else was expected. -/
  | misplaced (expected : String) {found : Option Token} :
      (∀ t ∈ found, t.position = place) → Concerns place found (misplaced expected found place)
  /-- A list stands too deep. -/
  | tooDeep (limit : Nat) {t : Token} :
      t.position = place → Concerns place (some t) (.tooDeep limit place)

/-- An error that concerns what was found at a place names the place. -/
theorem Error.Concerns.position? {place : Position} {found : Option Token} {e : Error}
    (h : e.Concerns place found) : e.position? = some place := by
  cases h with
  | misplaced expected hfound =>
    cases found with
    | none => rfl
    | some t =>
      rw [← hfound t rfl]
      rfl
  | tooDeep limit ht => rfl

/-- A session stops at an error: it stands right in front of what the error concerns. -/
def Session.StopsAt (l : Lexer) (source : List Char) (e : Error) (s : Session) : Prop :=
  ∃ found, l.peek source s.position = (.ok found, s.position) ∧ e.Concerns s.position found

namespace Parser

variable {E : Type} {p : Parser E} {reduction : Reduction E} {l : Lexer} {source : List Char}
  {st st₁ st' : State E} {e : Error}

/-! ### Ways to fail -/

/-- A run that begins in one state comes to another one. -/
def Reaches (p : Parser E) (reduction : Reduction E) (l : Lexer) (source : List Char) :
    State E → State E → Prop :=
  Relation.ReflTransGen fun st st' => p.step reduction l source st = .more st'

/-- A run comes to an atom that has no value because of an error. -/
def Stumbles (p : Parser E) (reduction : Reduction E) (l : Lexer) (source : List Char)
    (st : State E) (t : Token) (e : Error) : Prop :=
  ∃ st' s, p.Reaches reduction l source st st' ∧
    l.next source none true st'.session = (.ok (some t), s) ∧ t.IsAtom ∧ t.value = .error e

/-- A run that begins in some state failed with an error, and left the parser in another state. -/
inductive Failure (p : Parser E) (reduction : Reduction E) (l : Lexer) (source : List Char)
    (st : State E) (e : Error) (st' : State E) : Prop
  /-- Something is wrong with the source, and the lexer stands in front of it. -/
  | fault : st'.session.StopsAt l source e → Failure p reduction l source st e st'
  /-- The value of an atom was refused, and the lexer stands behind the atom. -/
  | valueless (t : Token) :
      p.Stumbles reduction l source st t e → st'.session.position = t.stop →
      Failure p reduction l source st e st'
  /-- The reduction refused the last call. -/
  | refused : st'.RefusedBy reduction e → Failure p reduction l source st e st'

/-- Whatever a run comes to, it came to from the state before. -/
theorem Failure.of_step (hstep : p.step reduction l source st = .more st₁)
    (h : p.Failure reduction l source st₁ e st') : p.Failure reduction l source st e st' := by
  cases h with
  | fault h => exact .fault h
  | valueless t h hstop =>
    obtain ⟨st₂, s, hreaches, hnext⟩ := h
    exact .valueless t ⟨st₂, s, .head hstep hreaches, hnext⟩ hstop
  | refused h => exact .refused h

/-- What is noted down after a failure does not matter. -/
theorem Failure.note (h : p.Failure reduction l source st e st') (event : Event) :
    p.Failure reduction l source st e { st' with session := st'.session.note event } := by
  cases h with
  | fault h => exact .fault h
  | valueless t h hstop => exact .valueless t h hstop
  | refused h => exact .refused h

/-! ### Steps -/

/-- Making a node fails only if the reduction refuses a call. -/
theorem refusedBy_of_attach {content : Content E}
    (h : attach reduction content st = .done (.error (.failed e)) st') :
    st'.RefusedBy reduction e := by
  obtain ⟨node, calls, -, heq⟩ | ⟨e', calls, -, -, hrefused, heq⟩ :=
    attach_cases reduction content st
  · rw [heq, put] at h
    split at h <;> cases h
  · rw [heq] at h
    cases h
    exact hrefused

/-- A move fails only if the reduction refuses a call. -/
theorem refusedBy_of_apply {move : Move}
    (h : move.apply reduction st = .done (.error (.failed e)) st') :
    st'.RefusedBy reduction e := by
  cases move with
  | opening => cases h
  | atom v => exact refusedBy_of_attach h
  | closing => exact refusedBy_of_attach h

/-- A complaint about what the lexer found leaves the lexer in front of it. -/
theorem stopsAt_of_complain {found : Option Token} {lists : Nat}
    (hpeek : l.peek source st.session.position = (.ok found, st.session.position))
    (hfound : ∀ t ∈ found, t.position = st.session.position)
    (h : complain found (expectedKind lists) st = .done (.error (.failed e)) st') :
    st'.session.StopsAt l source e := by
  rw [complain_eq_done] at h
  cases h
  exact ⟨found, hpeek, .misplaced _ hfound⟩

/-- **A step that fails does so in one of three ways.** -/
theorem failure_of_step (hl : l.Orderly)
    (h : p.step reduction l source st = .done (.error (.failed e)) st') :
    p.Failure reduction l source st e st' := by
  obtain ⟨halt, s, hnext⟩ | ⟨s, hnext⟩ | ⟨t, s, hnext⟩ :=
    l.next_cases source none true st.session
  · rw [step_eq_done reduction hnext] at h
    cases h
    cases hl.halt_eq_of_next hnext
  · rw [step_eq_complain reduction hnext] at h
    exact .fault (stopsAt_of_complain (Lexer.peek_of_next_ok hnext) (fun t ht => by cases ht) h)
  · have hpeek := Lexer.peek_of_next_ok hnext
    have hplace : t.position = s.position := (Lexer.next_eq_some hnext).1
    rw [step_eq_enact reduction hnext] at h
    cases hverdict : verdict p.maxDepth st.stack.length t with
    | unexpected =>
      rw [hverdict] at h
      refine .fault (stopsAt_of_complain hpeek (fun t' ht => ?_) h)
      obtain rfl := Option.some.inj ht
      exact hplace
    | tooDeep n =>
      rw [hverdict] at h
      cases h
      refine .fault ⟨some t, hpeek, ?_⟩
      rw [hplace]
      exact .tooDeep n hplace
    | unreadable e' =>
      rw [hverdict] at h
      cases h
      refine .valueless t ⟨st, s, .refl, hnext, verdict_eq_unreadable_iff.1 hverdict⟩ ?_
      rw [Token.stop, hplace]
      rfl
    | accepted move =>
      rw [hverdict] at h
      exact .refused (refusedBy_of_apply h)

/-! ### Runs -/

/-- **A run that fails does so in one of three ways.** Induction on the run. -/
theorem failure_of_run (hl : l.Orderly)
    (h : p.run reduction l source st = (.error (.failed e), st')) :
    p.Failure reduction l source st e st' := by
  fun_induction p.run reduction l source st with
  | case1 st result st₁ hstep =>
    obtain ⟨rfl, rfl⟩ := Prod.mk.inj h
    exact failure_of_step hl hstep
  | case2 st st₁ hstep ih => exact (ih h).of_step hstep

/-- A run goes on from every state that it comes to. -/
theorem run_eq_of_reaches (h : p.Reaches reduction l source st st') :
    p.run reduction l source st = p.run reduction l source st' := by
  induction h with
  | refl => rfl
  | tail _ hstep ih =>
    rw [ih, run_eq_proceed, hstep]
    rfl

/-- **A run that comes to an atom without a value fails** with the error of the value, and the lexer
stands behind the atom. -/
theorem exists_parseRoot_of_stumbles {s : Session} {t : Token}
    (h : p.Stumbles reduction l source (.start s) t e) :
    ∃ st, p.parseRoot reduction l source s = (.error (.failed e), st) ∧
      st.session.position = t.stop := by
  obtain ⟨st, s₁, hreaches, hnext, hvalue⟩ := h
  refine ⟨({ st with session := s₁ } : State E).consume t, ?_, (Lexer.peek_token_of_next hnext).2⟩
  rw [parseRoot, run_eq_of_reaches hreaches, run_eq_proceed, step_eq_enact reduction hnext,
    verdict_eq_unreadable_iff.2 hvalue]
  rfl

/-! ### Whole parses -/

/-- **A whole parse that fails does so in one of three ways.** Behind the expression, the only one
is that there is something else. -/
theorem failure_of_parseUsing (hl : l.Orderly) {s : Session}
    (h : p.parseUsing reduction l source s = (.error (.failed e), st')) :
    p.Failure reduction l source (begin l source s) e st' := by
  rw [parseUsing_eq_conclude] at h
  cases hrun : p.run reduction l source (begin l source s) with
  | mk result st =>
    rw [hrun] at h
    obtain halt | root := result
    · obtain e' | _ := halt
      · obtain ⟨he, rfl⟩ := Prod.mk.inj h
        obtain rfl := Halt.failed.inj (Except.error.inj he)
        exact (failure_of_run hl hrun).note _
      · cases (Prod.mk.inj h).1
    · change finish l source root st = _ at h
      obtain ⟨halt, s₁, hnext⟩ | ⟨s₁, hnext⟩ | ⟨t, s₁, hnext⟩ :=
        l.next_cases source none true st.session
      · rw [finish_eq_done root hnext] at h
        obtain rfl := Except.error.inj (Prod.mk.inj h).1
        cases hl.halt_eq_of_next hnext
      · rw [finish_eq_ok root hnext] at h
        cases (Prod.mk.inj h).1
      · have hpeek := Lexer.peek_of_next_ok hnext
        rw [finish_eq_error root hnext] at h
        obtain ⟨he, rfl⟩ := Prod.mk.inj h
        obtain rfl := Halt.failed.inj (Except.error.inj he)
        refine .fault ⟨some t, hpeek, .misplaced "end of input" fun t' ht => ?_⟩
        obtain rfl := Option.some.inj ht
        exact (Lexer.next_eq_some hnext).1

/-! ### Errors with a place -/

/-- A failure with an error about a place is a fault of the source, unless readings or the reduction
speak of places themselves. The lexer stands at the place. -/
theorem Failure.stopsAt (h : p.Failure reduction l source st e st') (hl : l.Orderly)
    (hv : l.vocabulary.Placeless) (hr : reduction.Placeless) {place : Position}
    (hplace : e.position? = some place) :
    st'.session.position = place ∧ st'.session.StopsAt l source e := by
  cases h with
  | fault h =>
    obtain ⟨found, hpeek, hconcerns⟩ := h
    rw [hconcerns.position?] at hplace
    exact ⟨Option.some.inj hplace, found, hpeek, hconcerns⟩
  | valueless t h =>
    obtain ⟨st₁, s, -, hnext, -, hvalue⟩ := h
    rw [hv t.kind (hl.kind_mem_of_next hnext) t.lexeme e hvalue] at hplace
    cases hplace
  | refused h =>
    obtain ⟨call, -, hcall⟩ := h
    rw [hr call.outer call.step e hcall] at hplace
    cases hplace

/-- **A failed parse or scan stops at its error.** Let a lexer decide by the first character or try
a vocabulary in order, and let neither its readings nor the reduction raise errors about places.
Wherever the session stands in the beginning, when one expression or a whole source is parsed and
the error names a place, then the lexer stands at this place afterwards, in front of what it would
find there. When a scan fails, the lexer stands at the place of its error too, inside the source,
and would find nothing there. When a run comes to an atom without a value, it fails with the error
of the value, and the lexer stands where the atom stops. -/
theorem failed_parse_stops (p : Parser E) {reduction : Reduction E} {l : Lexer}
    (hl : l = .direct ∨ ∃ v, l = .firstMatch v) (hv : l.vocabulary.Placeless)
    (hr : reduction.Placeless) (source : List Char) (s : Session) :
    (∀ e place st, p.parseRoot reduction l source s = (.error (.failed e), st) →
        e.position? = some place →
        st.session.position = place ∧ st.session.StopsAt l source e) ∧
      (∀ e place st, p.parseUsing reduction l source s = (.error (.failed e), st) →
        e.position? = some place →
        st.session.position = place ∧ st.session.StopsAt l source e) ∧
      (∀ e s', l.scan source s = (.error (.failed e), s') →
        e.position? = some s'.position ∧ l.peek source s'.position = (.ok none, s'.position) ∧
          s'.position.offset < Text.byteSize source) ∧
      ∀ t e, p.Stumbles reduction l source (.start s) t e →
        ∃ st, p.parseRoot reduction l source s = (.error (.failed e), st) ∧
          st.session.position = t.stop := by
  have horderly : l.Orderly := by
    obtain rfl | ⟨v, rfl⟩ := hl
    · exact Lexer.orderly_direct
    · exact Lexer.orderly_firstMatch v
  refine ⟨fun e place st h hplace => ?_, fun e place st h hplace => ?_,
    fun e s' => Lexer.stops_of_scan horderly, fun t e => exists_parseRoot_of_stumbles⟩
  · exact (failure_of_run horderly h).stopsAt horderly hv hr hplace
  · exact (failure_of_parseUsing horderly h).stopsAt horderly hv hr hplace

open Vocabulary in
/-- In `(7 ` the closing parenthesis is missing, and the lexer stands at the end, where it is
missed. -/
theorem failed_parse_stops_at_end :
    ∃ st : State (Tree Value),
      (Lexer.ofAtoms [number]).vocabulary.Placeless ∧
      (Reduction.plain (Tree.create (V := Value))).Placeless ∧
      (trees Value [number] none).parseUsing (.plain Tree.create) (.ofAtoms [number])
        ['(', '7', ' '] .start = (.error (.failed (misplaced ")" none ⟨3, 1, 4⟩)), st) ∧
      st.session.position = ⟨3, 1, 4⟩ := by
  have hv : (Lexer.ofAtoms [number]).vocabulary.Placeless :=
    Placeless.parens fun k hk => placeless_plainAtoms k (by simp_all [plainAtoms])
  have hr : (Reduction.plain (Tree.create (V := Value))).Placeless := plain_total.placeless
  have hreads : (Lexer.ofAtoms [number]).Reads ['(', '7', ' '] .start
      [⟨opening, ['('], ⟨0, 1, 1⟩⟩, ⟨number, ['7'], ⟨1, 1, 2⟩⟩] ⟨2, 1, 3⟩ := by
    refine .cons_of_firstOf (.start _) rfl rfl fun h => ?_
    refine .cons_of_firstOf h rfl rfl fun h => ?_
    exact .nil _
  have hahead : Ahead ['(', '7', ' '] ⟨2, 1, 3⟩ [' '] := rfl
  have hfirst : Lexer.firstOf (.parens [number]) [' '] =
      some ⟨space, [' '], List.cons_ne_nil _ _⟩ := rfl
  have hend : (Lexer.ofAtoms [number]).peek ['(', '7', ' '] ⟨2, 1, 3⟩ = (.ok none, ⟨3, 1, 4⟩) :=
    (Lexer.peek_of_insignificant hahead (List.cons_ne_nil _ _) hfirst rfl).trans
      (Lexer.peek_of_end rfl)
  have hparse : ((trees Value [number] none).parseUsing (.plain Tree.create) (.ofAtoms [number])
      ['(', '7', ' '] .start).1 = .error (.failed (misplaced ")" none ⟨3, 1, 4⟩)) :=
    (eq_error_iff_of_map_eq (map_parseUsing_eq_diagnose plain_total hreads hend) _).2 rfl
  obtain ⟨-, hwhole, -⟩ := failed_parse_stops (trees Value [number] none)
    (.inr ⟨_, rfl⟩ : Lexer.ofAtoms [number] = .direct ∨ ∃ v, Lexer.ofAtoms [number] = .firstMatch v)
    hv hr ['(', '7', ' '] .start
  exact ⟨_, hv, hr, Prod.ext hparse rfl, (hwhole _ _ _ (Prod.ext hparse rfl) rfl).1⟩

end Parser

end Parens
