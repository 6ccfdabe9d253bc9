import Parens.Proofs.Peeking

/-!
# Looking for One of Several Kinds

A lexer can be asked to look for a token of one of several kinds. The candidates are tried in order,
each by a search for that kind alone. If insignificant tokens are to be passed over, then such a
candidate is passed over by its own search, and the next one is tried from behind it. So the
candidates need not be judged at one place, and no candidate is tried again where a later one moved
to.

What the answer should be is what the first candidate that matches finds where the session then
stands (`firstAmong`). It is exactly then that the same call made again gives the same answer
without moving (`nextAmong_stable_iff`). This is so if at most the first candidate is insignificant.
Otherwise there may be no answer in front of a token of one of the candidates, and calling again
finds it (`exists_nextAmong_unstable`).

## Main results

* `nextAmong_of_fails`, `nextAmong_of_matches`, `offset_lt_nextAmong`: what a call does where no
  candidate matches, where the first match is to be found, and where it is to be passed over.
* `nextAmong_again_iff`: which calls give the same answer again.
* `nextAmong_stable_iff`: **where a call is stable**.
* `exists_nextAmong_unstable`: a call that is not.
-/

namespace Parens.Lexer

variable {l : Lexer} {source : List Char} {skip : Bool} {s s' : Session} {k : Kind} {m : Match}
  {ks : Vocabulary}

/-! ### One candidate -/

/-- Where a kind recognises nothing, a search for it finds nothing and does not move. -/
theorem next_of_matchAt_eq_nil (h : k.matchAt source s.position.offset = []) :
    l.next source (some k) skip s = (.ok none, s) := by
  have hmatch : l.matchNext source (some k) s.position.offset = .ok none :=
    congrArg Except.ok (Match.of?_eq_none_iff.2 h)
  rw [next]
  split
  · rw [hmatch]
  · rfl

/-- A place where a kind recognises something lies inside the source. -/
theorem offset_lt_of_matchAt {offset : Nat} (h : k.matchAt source offset = m.text) :
    offset < Text.byteSize source := by
  refine Nat.lt_of_not_le fun hle => m.text_ne_nil ?_
  rw [← h]
  exact Vocabulary.fails_of_byteSize_le hle k (List.mem_singleton.2 rfl)

/-- Where a kind recognises something, a search for it finds this, unless it is to be passed over.
-/
theorem next_of_matchAt (h : m.kind.matchAt source s.position.offset = m.text)
    (hskip : (skip && !m.kind.significant) = false) :
    l.next source (some m.kind) skip s = (.ok (some (tokenAt s m)), s) := by
  have hmatch : l.matchNext source (some m.kind) s.position.offset = .ok (some m) :=
    congrArg Except.ok (Match.of?_eq_some_iff.2 ⟨rfl, h.symm⟩)
  rw [next, if_pos (offset_lt_of_matchAt h), hmatch]
  simp [hskip]

/-- Where a kind recognises something that is to be passed over, a search for it moves. -/
theorem offset_lt_of_next_passed {found : Except Halt (Option Token)}
    (h : m.kind.matchAt source s.position.offset = m.text)
    (hskip : (skip && !m.kind.significant) = true)
    (hnext : l.next source (some m.kind) skip s = (found, s')) :
    s.position.offset < s'.position.offset := by
  have hmatch : l.matchNext source (some m.kind) s.position.offset = .ok (some m) :=
    congrArg Except.ok (Match.of?_eq_some_iff.2 ⟨rfl, h.symm⟩)
  rw [next, if_pos (offset_lt_of_matchAt h), hmatch] at hnext
  simp only [hskip, if_true] at hnext
  have hpass := offset_lt_consume s m
  have hrest := offset_le_of_next hnext
  simp only [Session.position_consume, Session.position_pass] at hpass hrest
  omega

/-! ### Candidates in order -/

/-- Candidates that recognise nothing where the session stands are tried in vain. -/
theorem nextAmong_append_of_fails {before : Vocabulary}
    (h : before.Fails source s.position.offset) (behind : Vocabulary) :
    l.nextAmong source skip (before ++ behind) s = l.nextAmong source skip behind s := by
  induction before with
  | nil => rfl
  | cons k ks ih =>
    obtain ⟨hk, hks⟩ := List.forall_mem_cons.1 h
    rw [List.cons_append, nextAmong, next_of_matchAt_eq_nil hk]
    exact ih hks

/-- **Where no candidate matches**, there is no answer, and the session does not move. -/
theorem nextAmong_of_fails (h : ks.Fails source s.position.offset) :
    l.nextAmong source skip ks s = (.ok none, s) := by
  have happend : l.nextAmong source skip (ks ++ []) s = l.nextAmong source skip [] s :=
    nextAmong_append_of_fails h []
  rwa [List.append_nil] at happend

/-- **Where the first match among the candidates is to be found**, it is, and the session does not
move. -/
theorem nextAmong_of_matches (h : ks.Matches source s.position.offset m)
    (hskip : (skip && !m.kind.significant) = false) :
    l.nextAmong source skip ks s = (.ok (some (tokenAt s m)), s) := by
  obtain ⟨before, behind, rfl, htext, hbefore⟩ := h
  rw [nextAmong_append_of_fails hbefore, nextAmong, next_of_matchAt htext hskip]

/-- Looking for one of several kinds takes a session forward only. -/
theorem offset_le_of_nextAmong {found : Except Halt (Option Token)}
    (h : l.nextAmong source skip ks s = (found, s')) : s.position.offset ≤ s'.position.offset := by
  induction ks generalizing s with
  | nil =>
    cases h
    exact Nat.le_refl _
  | cons k ks ih =>
    rw [nextAmong] at h
    split at h
    · rename_i s₁ hnext
      exact Nat.le_trans (offset_le_of_next hnext) (ih h)
    · exact offset_le_of_next h

/-- **Where the first match among the candidates is to be passed over**, the session moves. -/
theorem offset_lt_nextAmong {found : Except Halt (Option Token)}
    (h : ks.Matches source s.position.offset m) (hskip : (skip && !m.kind.significant) = true)
    (hcall : l.nextAmong source skip ks s = (found, s')) :
    s.position.offset < s'.position.offset := by
  obtain ⟨before, behind, rfl, htext, hbefore⟩ := h
  rw [nextAmong_append_of_fails hbefore, nextAmong] at hcall
  split at hcall
  · rename_i s₁ hnext
    exact Nat.lt_of_lt_of_le (offset_lt_of_next_passed htext hskip hnext)
      (offset_le_of_nextAmong hcall)
  · exact offset_lt_of_next_passed htext hskip hcall

/-- A call comes to an answer. If insignificant tokens are passed over, the token found is
significant. -/
theorem exists_nextAmong (l : Lexer) (source : List Char) (skip : Bool) (ks : Vocabulary)
    (s : Session) :
    ∃ found s', l.nextAmong source skip ks s = (.ok found, s') ∧
      ∀ t, found = some t → (skip && !t.kind.significant) = false := by
  induction ks generalizing s with
  | nil => exact ⟨none, s, rfl, fun t ht => by cases ht⟩
  | cons k ks ih =>
    obtain ⟨found, s₁, hnext⟩ := exists_next_of_hint l source k skip s
    rw [nextAmong, hnext]
    cases found with
    | none => exact ih s₁
    | some t =>
      refine ⟨some t, s₁, rfl, fun t' ht => ?_⟩
      obtain rfl := Option.some.inj ht
      cases skip with
      | false => rfl
      | true => simp [significant_of_next hnext]

/-! ### Calling again -/

/-- What the first of some candidates that matches where a session stands finds there. -/
def firstAmong (source : List Char) (ks : Vocabulary) (s : Session) : Option Token :=
  (ks.findSome? fun k => Match.of? k (k.matchAt source s.position.offset)).map (tokenAt s)

/-- None of the candidates finds anything exactly if all of them fail. -/
theorem firstAmong_eq_none_iff :
    firstAmong source ks s = none ↔ ks.Fails source s.position.offset := by
  rw [firstAmong, Option.map_eq_none_iff, Vocabulary.findSome?_eq_none_iff]

/-- **Which calls give the same answer again**: those whose answer is what the first candidate that
matches finds where the session then stands. -/
theorem nextAmong_again_iff {found : Option Token}
    (hfound : ∀ t, found = some t → (skip && !t.kind.significant) = false) :
    l.nextAmong source skip ks s = (.ok found, s) ↔ found = firstAmong source ks s := by
  cases hfirst : ks.findSome? fun k => Match.of? k (k.matchAt source s.position.offset) with
  | none =>
    have hanswer : firstAmong source ks s = none := by rw [firstAmong, hfirst, Option.map_none]
    rw [nextAmong_of_fails (Vocabulary.findSome?_eq_none_iff.1 hfirst), hanswer]
    constructor
    · intro h
      exact (Except.ok.inj (Prod.mk.inj h).1).symm
    · rintro rfl
      rfl
  | some m =>
    have hmatches := Vocabulary.findSome?_eq_some_iff.1 hfirst
    have hanswer : firstAmong source ks s = some (tokenAt s m) := by
      rw [firstAmong, hfirst, Option.map_some]
    rw [hanswer]
    cases hskip : skip && !m.kind.significant with
    | false =>
      rw [nextAmong_of_matches hmatches hskip]
      constructor
      · intro h
        exact (Except.ok.inj (Prod.mk.inj h).1).symm
      · rintro rfl
        rfl
    | true =>
      constructor
      · intro h
        exact absurd (offset_lt_nextAmong hmatches hskip h) (Nat.lt_irrefl _)
      · rintro rfl
        exact absurd ((hfound _ rfl).symm.trans hskip) Bool.false_ne_true

/-- A search for a kind that is not to be passed over does not move. -/
theorem eq_of_next_significant {found : Except Halt (Option Token)}
    (hk : skip = true → k.significant = true)
    (h : l.next source (some k) skip s = (found, s')) : s' = s := by
  cases hmatch : Match.of? k (k.matchAt source s.position.offset) with
  | none =>
    rw [next_of_matchAt_eq_nil (Match.of?_eq_none_iff.1 hmatch)] at h
    exact (Prod.mk.inj h).2.symm
  | some m =>
    obtain ⟨rfl, htext⟩ := Match.of?_eq_some_iff.1 hmatch
    rw [next_of_matchAt htext.symm (by cases skip <;> simp_all)] at h
    exact (Prod.mk.inj h).2.symm

/-- Looking for one of several kinds, none of which is to be passed over, does not move. -/
theorem eq_of_nextAmong_significant {found : Except Halt (Option Token)}
    (hks : skip = true → ∀ k ∈ ks, k.significant = true)
    (h : l.nextAmong source skip ks s = (found, s')) : s' = s := by
  induction ks generalizing s with
  | nil => exact (Prod.mk.inj h).2.symm
  | cons k ks ih =>
    have hk : skip = true → k.significant = true := fun hskip => hks hskip k (by simp)
    rw [nextAmong] at h
    split at h
    · rename_i s₁ hnext
      obtain rfl := eq_of_next_significant hk hnext
      exact ih (fun hskip k' hk' => hks hskip k' (List.mem_cons_of_mem _ hk')) h
    · exact eq_of_next_significant hk h

/-- **If at most the first candidate is to be passed over**, a call gives the same answer again. The
search for the first candidate is the only one that moves. -/
theorem nextAmong_again_of_tail {found : Option Token}
    (hks : skip = true → ∀ k ∈ ks.tail, k.significant = true)
    (h : l.nextAmong source skip ks s = (.ok found, s')) :
    l.nextAmong source skip ks s' = (.ok found, s') := by
  cases ks with
  | nil =>
    obtain ⟨hfound, -⟩ := Prod.mk.inj h
    exact Prod.ext hfound rfl
  | cons k ks =>
    rw [nextAmong] at h
    split at h
    · rename_i s₁ hnext
      obtain rfl := eq_of_nextAmong_significant hks h
      rw [nextAmong, next_again hnext]
      exact h
    · rename_i hsome
      rw [nextAmong, next_again h]
      cases found with
      | none => exact absurd h (hsome s')
      | some t => rfl

/-- **Where a call is stable.** A lexer that is asked for a token of one of several kinds comes to
an answer. Asked again, it gives the same answer without moving exactly if this answer is what the
first candidate that matches finds where the session stands. If no insignificant token is to be
passed over, or if no candidate behind the first is insignificant, then it does so, and if there
was no answer, then no candidate recognises anything there. -/
theorem nextAmong_stable_iff (l : Lexer) (source : List Char) (skip : Bool) (ks : Vocabulary)
    (s : Session) :
    ∃ found s', l.nextAmong source skip ks s = (.ok found, s') ∧
      (l.nextAmong source skip ks s' = (.ok found, s') ↔ found = firstAmong source ks s') ∧
      ((skip = true → ∀ k ∈ ks.tail, k.significant = true) →
        l.nextAmong source skip ks s' = (.ok found, s') ∧
          (found = none → ks.Fails source s'.position.offset)) := by
  obtain ⟨found, s', hcall, hfound⟩ := exists_nextAmong l source skip ks s
  refine ⟨found, s', hcall, nextAmong_again_iff hfound, fun hks => ?_⟩
  have hagain := nextAmong_again_of_tail hks hcall
  refine ⟨hagain, ?_⟩
  rintro rfl
  exact firstAmong_eq_none_iff.1 ((nextAmong_again_iff hfound).1 hagain).symm

open Vocabulary in
/-- In front of ` 7`, blanks are passed over first and then a number is found. It is found again
from there. -/
theorem nextAmong_stable_blank_first :
    ∃ s : Session, s.position = ⟨1, 1, 2⟩ ∧
      (ofAtoms [number]).nextAmong [' ', '7'] true [space, number] .start =
        (.ok (some ⟨number, ['7'], ⟨1, 1, 2⟩⟩), s) ∧
      (ofAtoms [number]).nextAmong [' ', '7'] true [space, number] s =
        (.ok (some ⟨number, ['7'], ⟨1, 1, 2⟩⟩), s) := by
  have hblank : (ofAtoms [number]).next [' ', '7'] (some space) true .start =
      (.ok none, Session.start.pass ⟨space, [' '], .start⟩) := by
    rw [next]
    exact next_of_matchAt_eq_nil rfl
  have hfound : (ofAtoms [number]).nextAmong [' ', '7'] true [space, number] .start =
      (.ok (some ⟨number, ['7'], ⟨1, 1, 2⟩⟩), Session.start.pass ⟨space, [' '], .start⟩) := by
    rw [nextAmong, hblank]
    exact nextAmong_of_matches (m := ⟨number, ['7'], by simp⟩) ⟨[], [], rfl, rfl, by simp⟩ rfl
  obtain ⟨found, s', hcall, -, hstable⟩ :=
    nextAmong_stable_iff (ofAtoms [number]) [' ', '7'] true [space, number] .start
  obtain ⟨hanswer, rfl⟩ := Prod.mk.inj (hfound.symm.trans hcall)
  obtain rfl := Except.ok.inj hanswer
  exact ⟨_, rfl, hcall, (hstable (by simp [number, Kind.significant])).1⟩

open Vocabulary in
/-- **A call may be unstable.** In front of ` 7` a number is looked for first, and then blanks.
There is no number, and the blank is passed over, so there is no answer. But now the number stands
where the session does, and asked again the lexer finds it. -/
theorem exists_nextAmong_unstable :
    ∃ s : Session, number.significant = true ∧
      (ofAtoms [number]).nextAmong [' ', '7'] true [number, space] .start = (.ok none, s) ∧
      number.matchAt [' ', '7'] s.position.offset = ['7'] ∧
      (ofAtoms [number]).nextAmong [' ', '7'] true [number, space] s =
        (.ok (some ⟨number, ['7'], ⟨1, 1, 2⟩⟩), s) := by
  have hblank : (ofAtoms [number]).next [' ', '7'] (some space) true .start =
      (.ok none, Session.start.pass ⟨space, [' '], .start⟩) := by
    rw [next]
    exact next_of_matchAt_eq_nil rfl
  refine ⟨Session.start.pass ⟨space, [' '], .start⟩, rfl, ?_, rfl, ?_⟩
  · have hvain : (ofAtoms [number]).nextAmong [' ', '7'] true [number, space] .start =
        (ofAtoms [number]).nextAmong [' ', '7'] true [space] .start := by
      rw [nextAmong, next_of_matchAt_eq_nil rfl]
    rw [hvain, nextAmong, hblank]
    rfl
  · exact nextAmong_of_matches (m := ⟨number, ['7'], by simp⟩)
      ⟨[], [space], rfl, rfl, by simp⟩ rfl

end Parens.Lexer
