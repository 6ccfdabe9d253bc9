import Parens.Proofs.Peeking

/-!
# Skipping Is Filtering

All tokens from some place on can be had in two ways. Looking for each of them without passing
over anything, a lexer returns the insignificant ones too, and they can be left out afterwards. Or
the lexer passes over them while it looks. The two step through the source at different rates,
since passing over tokens is hidden in a search, and such a search may end behind some of them
with nothing found. `Lexer.drain` is either way of reading on until there is no token, and both
come to the same tokens and to the same place (`drain_true`), also where the lexer halts.

## Main results

* `next_true_eq`: a search that passes over insignificant tokens is one that does not, and goes on
  behind an insignificant token.
* `drain_true`: **skipping is filtering**, for every lexer.
* `scan_of_drain`: a scan drains the source in front of the check at its end.
* `drain_skip_eq_filter`: skipping is filtering, and both ways come to an answer.
-/

namespace Parens.Lexer

variable {l : Lexer} {source rest : List Char} {skip : Bool} {s s' : Session} {t : Token}

/-- All tokens from where a session stands. Each is looked for, with or without passing over
insignificant ones, and then moved past, until none is found. -/
def drain (l : Lexer) (source : List Char) (skip : Bool) (s : Session) :
    Except Halt (List Token) × Session :=
  match _h : l.next source none skip s with
  | (.error halt, s') => (.error halt, s')
  | (.ok none, s') => (.ok [], s')
  | (.ok (some t), s') =>
    let (tokens, s'') := l.drain source skip (s'.consume t)
    (tokens.map (t :: ·), s'')
termination_by Text.byteSize source - s.position.offset
decreasing_by
  have := offset_lt_of_next _h
  omega

/-! ### Token by token -/

/-- Where a search halts, so does draining. -/
theorem drain_of_next_error {halt : Halt} (h : l.next source none skip s = (.error halt, s')) :
    l.drain source skip s = (.error halt, s') := by
  rw [drain]
  split <;> simp_all

/-- Where a search finds no token, there are none. -/
theorem drain_of_next_none (h : l.next source none skip s = (.ok none, s')) :
    l.drain source skip s = (.ok [], s') := by
  rw [drain]
  split <;> simp_all

/-- The token that a search finds stands in front of those behind it. -/
theorem drain_of_next_some (h : l.next source none skip s = (.ok (some t), s')) :
    l.drain source skip s =
      ((l.drain source skip (s'.consume t)).1.map (t :: ·),
        (l.drain source skip (s'.consume t)).2) := by
  rw [drain]
  split <;> simp_all

/-- Where two searches come to the same, the tokens are the same. -/
theorem drain_eq_of_next_eq (h : l.next source none skip s = l.next source none skip s') :
    l.drain source skip s = l.drain source skip s' := by
  obtain ⟨halt, s₁, hnext⟩ | ⟨s₁, hnext⟩ | ⟨t, s₁, hnext⟩ := l.next_cases source none skip s
  · rw [drain_of_next_error hnext, drain_of_next_error (h.symm.trans hnext)]
  · rw [drain_of_next_none hnext, drain_of_next_none (h.symm.trans hnext)]
  · rw [drain_of_next_some hnext, drain_of_next_some (h.symm.trans hnext)]

/-- What a session finds is found by every other session at the same place. -/
theorem exists_next_of_position_eq {found : Except Halt (Option Token)} {s₁ : Session}
    (h : s.position = s'.position) (hnext : l.next source none skip s = (found, s₁)) :
    ∃ s₂, l.next source none skip s' = (found, s₂) ∧ s₁.position = s₂.position := by
  obtain ⟨hfound, hplace⟩ := next_congr l source none skip s s' h
  rw [hnext] at hfound hplace
  exact ⟨(l.next source none skip s').2, Prod.ext hfound.symm rfl, hplace⟩

/-- Two sessions at one place drain a source alike. -/
theorem drain_congr (l : Lexer) (source : List Char) (skip : Bool) (s s' : Session)
    (h : s.position = s'.position) :
    (l.drain source skip s).1 = (l.drain source skip s').1 ∧
      (l.drain source skip s).2.position = (l.drain source skip s').2.position := by
  fun_induction l.drain source skip s generalizing s' with
  | case1 s halt s₁ hnext =>
    obtain ⟨s₂, hnext', hplace⟩ := exists_next_of_position_eq h hnext
    rw [drain_of_next_error hnext']
    exact ⟨rfl, hplace⟩
  | case2 s s₁ hnext =>
    obtain ⟨s₂, hnext', hplace⟩ := exists_next_of_position_eq h hnext
    rw [drain_of_next_none hnext']
    exact ⟨rfl, hplace⟩
  | case3 s t s₁ hnext tokens s₃ hdrain ih =>
    obtain ⟨s₂, hnext', hplace⟩ := exists_next_of_position_eq h hnext
    rw [hdrain] at ih
    obtain ⟨htokens, hstop⟩ := ih (s₂.consume t) (by simp [hplace])
    rw [drain_of_next_some hnext']
    exact ⟨congrArg (Except.map (t :: ·)) htokens, hstop⟩

/-! ### With and without passing over -/

/-- **A search that passes over insignificant tokens** finds what one that does not would find. If
that is insignificant, it goes on behind it. -/
theorem next_true_eq (l : Lexer) (source : List Char) (hint : Option Kind) (s : Session) :
    l.next source hint true s =
      match l.next source hint false s with
      | (.ok (some t), s') =>
        if t.kind.significant then (.ok (some t), s') else l.next source hint true (s'.pass t)
      | outcome => outcome := by
  rw [next, next.eq_1 l source hint false s]
  by_cases hlt : s.position.offset < Text.byteSize source
  · rw [if_pos hlt, if_pos hlt]
    cases hmatch : l.matchNext source hint s.position.offset with
    | error halt => rfl
    | ok found =>
      cases found with
      | none => rfl
      | some m => cases hm : m.kind.significant <;> simp [hm, tokenAt]
  · rw [if_neg hlt, if_neg hlt]

/-- **Skipping is filtering.** Whatever a lexer recognises and wherever a session stands, the tokens
that are found by passing over insignificant ones are those that are found otherwise without the
insignificant ones. Both ways of reading on come to the same place. Induction on the tokens found
without passing over any. -/
theorem drain_true (l : Lexer) (source : List Char) (s : Session) :
    (l.drain source true s).1 =
        (l.drain source false s).1.map (·.filter (·.kind.significant)) ∧
      (l.drain source true s).2.position = (l.drain source false s).2.position := by
  fun_induction l.drain source false s with
  | case1 s halt s₁ hnext =>
    rw [drain_of_next_error (by rw [next_true_eq, hnext])]
    exact ⟨rfl, rfl⟩
  | case2 s s₁ hnext =>
    rw [drain_of_next_none (by rw [next_true_eq, hnext])]
    exact ⟨rfl, rfl⟩
  | case3 s t s₁ hnext tokens s₂ hdrain ih =>
    rw [hdrain] at ih
    obtain ⟨htokens, hstop⟩ := ih
    have htrue := next_true_eq l source none s
    rw [hnext] at htrue
    cases hsignificant : t.kind.significant with
    | true =>
      simp only [hsignificant, if_true] at htrue
      rw [drain_of_next_some htrue]
      refine ⟨?_, hstop⟩
      simp only [htokens]
      cases tokens <;> simp [Except.map, hsignificant]
    | false =>
      simp only [hsignificant] at htrue
      rw [drain_eq_of_next_eq htrue]
      obtain ⟨hpass, hplace⟩ := drain_congr l source true (s₁.pass t) (s₁.consume t) rfl
      refine ⟨?_, hplace.trans hstop⟩
      rw [hpass, htokens]
      cases tokens <;> simp [Except.map, hsignificant]

/-- **A scan drains the source**, passing over insignificant tokens, and makes its check where this
ends. -/
theorem scan_of_drain {tokens : List Token} (h : l.drain source true s = (.ok tokens, s')) :
    l.scan source s =
      ((finishScan source s').1.map (tokens ++ ·), (finishScan source s').2) := by
  fun_induction l.drain source true s generalizing tokens s' with
  | case1 s halt s₁ hnext => cases (Prod.mk.inj h).1
  | case2 s s₁ hnext =>
    cases h
    rw [scan_of_next_none hnext]
    obtain ⟨result, s₂⟩ := finishScan source s₁
    cases result <;> rfl
  | case3 s t s₁ hnext drained s₂ hdrain ih =>
    obtain ⟨hmap, rfl⟩ := Prod.mk.inj h
    cases drained with
    | error halt => cases hmap
    | ok ts =>
      obtain rfl := Except.ok.inj hmap
      rw [scan_of_next_some hnext (ih hdrain)]
      cases (finishScan source s₂).1 <;> rfl

/-! ### Coming to an answer -/

/-- An anchored lexer drains a source from every place where the source can be cut. -/
theorem exists_drain_of_ahead (hl : l.Anchored) (skip : Bool) (h : Ahead source s.position rest) :
    ∃ tokens s', l.drain source skip s = (.ok tokens, s') := by
  fun_induction l.drain source skip s generalizing rest with
  | case1 s halt s₁ hnext =>
    obtain ⟨found, s', hfound, -⟩ := exists_next_of_ahead hl skip h
    cases (Prod.mk.inj (hfound.symm.trans hnext)).1
  | case2 s s₁ hnext => exact ⟨[], s₁, rfl⟩
  | case3 s t s₁ hnext tokens s₂ hdrain ih =>
    obtain ⟨found, s', hfound, -, hfaces⟩ := exists_next_of_ahead hl skip h
    obtain ⟨hsome, rfl⟩ := Prod.mk.inj (hfound.symm.trans hnext)
    obtain ⟨-, behind, hahead⟩ := hfaces t (Except.ok.inj hsome)
    obtain ⟨ts, s'', hts⟩ := ih (Ahead.advance hahead)
    obtain ⟨rfl, rfl⟩ := Prod.mk.inj (hdrain.symm.trans hts)
    exact ⟨_, _, rfl⟩

/-- **Skipping is filtering.** From every place where the source can be cut, a lexer at hand finds
all tokens one after the other without passing over any, until it finds none. If it passes over
insignificant tokens, it finds the same ones without those that are insignificant, and stops at the
same place. -/
theorem drain_skip_eq_filter (hl : l.Standard) (h : Ahead source s.position rest) :
    ∃ tokens s₁ s₂, l.drain source false s = (.ok tokens, s₁) ∧
      l.drain source true s = (.ok (tokens.filter (·.kind.significant)), s₂) ∧
      s₂.position = s₁.position := by
  obtain ⟨tokens, s₁, hall⟩ := exists_drain_of_ahead hl.anchored false h
  obtain ⟨htokens, hplace⟩ := drain_true l source s
  rw [hall] at htokens hplace
  exact ⟨tokens, s₁, _, hall, Prod.ext htokens rfl, hplace⟩

open Vocabulary in
/-- Behind the parenthesis of `( 7 ` there are a blank, a number and another blank, and the number
alone if blanks are passed over. -/
theorem drain_skip_eq_filter_blanks :
    ∃ s s₁ s₂ : Session, s.position = ⟨1, 1, 2⟩ ∧
      direct.Standard ∧ Ahead ['(', ' ', '7', ' '] s.position [' ', '7', ' '] ∧
      direct.drain ['(', ' ', '7', ' '] false s =
        (.ok [⟨space, [' '], ⟨1, 1, 2⟩⟩, ⟨number, ['7'], ⟨2, 1, 3⟩⟩, ⟨space, [' '], ⟨3, 1, 4⟩⟩],
          s₁) ∧
      direct.drain ['(', ' ', '7', ' '] true s = (.ok [⟨number, ['7'], ⟨2, 1, 3⟩⟩], s₂) ∧
      s₂.position = s₁.position := by
  let s : Session := ⟨⟨1, 1, 2⟩, #[]⟩
  have hahead : Ahead ['(', ' ', '7', ' '] s.position [' ', '7', ' '] := rfl
  have hall : (direct.drain ['(', ' ', '7', ' '] false s).1 =
      .ok [⟨space, [' '], ⟨1, 1, 2⟩⟩, ⟨number, ['7'], ⟨2, 1, 3⟩⟩, ⟨space, [' '], ⟨3, 1, 4⟩⟩] := by
    rw [drain_of_next_some (t := ⟨space, [' '], ⟨1, 1, 2⟩⟩) (by rw [next]; rfl)]
    rw [drain_of_next_some (t := ⟨number, ['7'], ⟨2, 1, 3⟩⟩) (by rw [next]; rfl)]
    rw [drain_of_next_some (t := ⟨space, [' '], ⟨3, 1, 4⟩⟩) (by rw [next]; rfl)]
    rw [drain_of_next_none (by rw [next]; rfl)]
    rfl
  obtain ⟨tokens, s₁, s₂, hfalse, htrue, hplace⟩ := drain_skip_eq_filter .direct hahead
  rw [hfalse] at hall
  obtain rfl := Except.ok.inj hall
  exact ⟨s, s₁, s₂, rfl, .direct, hahead, hfalse, htrue, hplace⟩

end Parens.Lexer
