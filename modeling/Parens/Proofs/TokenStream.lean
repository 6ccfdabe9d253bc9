import Parens.Lexer.Scan

/-!
# The Tokens Ahead of a Lexer

What a lexer finds depends on where it stands and on nothing else that a session remembers. So
the significant tokens of a source, from any place on, are a fact about the lexer and the
source: `Lexer.peek` is the next of them, and `Lexer.Reads` chains them, each beginning the
search where the one before it ended.

## Main results

* `settles_of_next`, `next_again`: where a search ends, and that it ends there again.
* `peek_of_next`, `exists_next_of_peek`: looking at the next token in a session is peeking from
  where the session stands.
* `Reads.split`: tokens that are read one after the other can be read in two pieces.
* `exists_reads_of_scan`, `exists_scan_of_reads`: a scan that succeeds lists the tokens ahead and
  ends behind them.
* `exists_reads`: a lexer that tries a vocabulary in order always reads on to a place where it
  finds nothing more.
-/

namespace Parens.Lexer

variable {l : Lexer} {source : List Char}

/-! ### Sessions remember more than matters -/

/-- Two sessions at one place find the same and come to one place. -/
theorem next_congr (l : Lexer) (source : List Char) (hint : Option Kind) (skip : Bool)
    (s s' : Session) (h : s.position = s'.position) :
    (l.next source hint skip s).1 = (l.next source hint skip s').1 ∧
      (l.next source hint skip s).2.position = (l.next source hint skip s').2.position := by
  fun_induction l.next source hint skip s generalizing s' with
  | case1 s hlt halt hm =>
    rw [h] at hlt hm
    rw [next, if_pos hlt, hm]
    exact ⟨rfl, h⟩
  | case2 s hlt hm =>
    rw [h] at hlt hm
    rw [next, if_pos hlt, hm]
    exact ⟨rfl, h⟩
  | case3 s hlt m hm hskip ih =>
    rw [h] at hlt hm
    rw [next.eq_1 l source hint skip s', if_pos hlt, hm]
    simp only [hskip, if_true]
    exact ih _ (by simp [tokenAt, h])
  | case4 s hlt m hm hskip =>
    rw [h] at hlt hm
    rw [next, if_pos hlt, hm]
    simp only [hskip]
    exact ⟨by simp [tokenAt, h], h⟩
  | case5 s hlt =>
    rw [h] at hlt
    rw [next, if_neg hlt]
    exact ⟨rfl, h⟩

/-- Looking for a token takes a session forward only. -/
theorem offset_le_of_next {hint : Option Kind} {skip : Bool} {s s' : Session}
    {found : Except Halt (Option Token)} (h : l.next source hint skip s = (found, s')) :
    s.position.offset ≤ s'.position.offset := by
  fun_induction l.next source hint skip s with
  | case3 s hlt m hm hskip ih =>
    have hpass := offset_lt_consume s m
    have hrest := ih h
    simp only [Session.position_consume, Session.position_pass] at hpass hrest
    omega
  | case1 | case2 | case4 | case5 =>
    obtain rfl := (Prod.mk.inj h).2
    exact Nat.le_refl _

/-- A lexer halts, finds nothing or finds a token. -/
theorem next_cases (l : Lexer) (source : List Char) (hint : Option Kind) (skip : Bool)
    (s : Session) :
    (∃ halt s', l.next source hint skip s = (.error halt, s')) ∨
      (∃ s', l.next source hint skip s = (.ok none, s')) ∨
      ∃ t s', l.next source hint skip s = (.ok (some t), s') := by
  obtain ⟨halt | found, s'⟩ := l.next source hint skip s
  · exact .inl ⟨halt, s', rfl⟩
  · cases found with
    | none => exact .inr (.inl ⟨s', rfl⟩)
    | some t => exact .inr (.inr ⟨t, s', rfl⟩)

/-! ### Where a search ends -/

/-- A search ends where a session stands, with nothing to be passed over there. -/
inductive Settles (l : Lexer) (source : List Char) (hint : Option Kind) (skip : Bool)
    (s : Session) : Except Halt (Option Token) → Prop
  /-- The lexer halts. -/
  | halts {halt : Halt} :
      s.position.offset < Text.byteSize source →
      l.matchNext source hint s.position.offset = .error halt →
      Settles l source hint skip s (.error halt)
  /-- Nothing is recognised. -/
  | fails :
      s.position.offset < Text.byteSize source →
      l.matchNext source hint s.position.offset = .ok none →
      Settles l source hint skip s (.ok none)
  /-- A token is found. -/
  | finds (m : Match) :
      s.position.offset < Text.byteSize source →
      l.matchNext source hint s.position.offset = .ok (some m) →
      (skip && !m.kind.significant) = false →
      Settles l source hint skip s (.ok (some (tokenAt s m)))
  /-- The source is at its end. -/
  | ends :
      Text.byteSize source ≤ s.position.offset → Settles l source hint skip s (.ok none)

/-- **A search ends somewhere**, whatever it passes over on the way. Induction on the search. -/
theorem settles_of_next {hint : Option Kind} {skip : Bool} {s s' : Session}
    {found : Except Halt (Option Token)} (h : l.next source hint skip s = (found, s')) :
    l.Settles source hint skip s' found := by
  fun_induction l.next source hint skip s with
  | case1 s hinside halt hm =>
    cases h
    exact .halts hinside hm
  | case2 s hinside hm =>
    cases h
    exact .fails hinside hm
  | case3 s hinside m hm hskip ih => exact ih h
  | case4 s hinside m hm hskip =>
    cases h
    exact .finds m hinside hm (Bool.eq_false_iff.2 hskip)
  | case5 s hinside =>
    cases h
    exact .ends (Nat.le_of_not_lt hinside)

/-- A search from where it ends finds the same, and does not move. -/
theorem Settles.next_eq {hint : Option Kind} {skip : Bool} {s : Session}
    {found : Except Halt (Option Token)} (h : l.Settles source hint skip s found) :
    l.next source hint skip s = (found, s) := by
  cases h with
  | halts hinside hm => rw [next, if_pos hinside, hm]
  | fails hinside hm => rw [next, if_pos hinside, hm]
  | finds m hinside hm hskip =>
    rw [next, if_pos hinside, hm]
    simp only [hskip]
    rfl
  | ends hend => rw [next, if_neg (Nat.not_lt.2 hend)]

/-- **A search made again finds the same**, and does not move. -/
theorem next_again {hint : Option Kind} {skip : Bool} {s s' : Session}
    {found : Except Halt (Option Token)} (h : l.next source hint skip s = (found, s')) :
    l.next source hint skip s' = (found, s') :=
  (settles_of_next h).next_eq

/-! ### Peeking -/

/-- The next significant token from a place on, and the place that a lexer comes to when it
looks for one. -/
def peek (l : Lexer) (source : List Char) (p : Position) : Except Halt (Option Token) × Position :=
  ((l.next source none true ⟨p, #[]⟩).1, (l.next source none true ⟨p, #[]⟩).2.position)

/-- Looking at the next token in a session is peeking from where the session stands. -/
theorem peek_of_next {s s' : Session} {found : Except Halt (Option Token)}
    (h : l.next source none true s = (found, s')) :
    l.peek source s.position = (found, s'.position) := by
  obtain ⟨hfound, hplace⟩ := next_congr l source none true ⟨s.position, #[]⟩ s rfl
  rw [peek, hfound, hplace, h]

/-- What is peeked is found in every session that stands at the place. -/
theorem exists_next_of_peek {s : Session} {found : Except Halt (Option Token)} {p : Position}
    (h : l.peek source s.position = (found, p)) :
    ∃ s', l.next source none true s = (found, s') ∧ s'.position = p := by
  have hpeek : l.peek source s.position =
      ((l.next source none true s).1, (l.next source none true s).2.position) := peek_of_next rfl
  rw [h] at hpeek
  obtain ⟨hfound, hplace⟩ := Prod.mk.inj hpeek
  exact ⟨_, Prod.ext hfound.symm rfl, hplace.symm⟩

/-- A token found in a session is peeked at its own place, and the session that moves past it
stands where the token stops. -/
theorem peek_token_of_next {s s' : Session} {t : Token}
    (h : l.next source none true s = (.ok (some t), s')) :
    l.peek source s.position = (.ok (some t), t.position) ∧ (s'.consume t).position = t.stop := by
  have hpos := (next_eq_some h).1
  refine ⟨?_, ?_⟩
  · rw [hpos]
    exact peek_of_next h
  · rw [Session.position_consume, Token.stop, hpos]

/-! ### Reading token after token -/

/-- Reading on from `p`, the lexer finds exactly the given tokens one after the other, and
stands at `q` when it moved past the last of them. -/
inductive Reads (l : Lexer) (source : List Char) : Position → List Token → Position → Prop
  /-- No token was read. -/
  | nil (p : Position) : Reads l source p [] p
  /-- A token is found ahead, and the others behind it. -/
  | cons {p q : Position} {t : Token} {ts : List Token} :
      l.peek source p = (.ok (some t), t.position) → Reads l source t.stop ts q →
      Reads l source p (t :: ts) q

/-- Inversion at a first token. -/
theorem Reads.cons_inv {p q : Position} {t : Token} {ts : List Token}
    (h : Reads l source p (t :: ts) q) :
    l.peek source p = (.ok (some t), t.position) ∧ Reads l source t.stop ts q := by
  cases h with
  | cons hpeek hrest => exact ⟨hpeek, hrest⟩

/-- Inversion where nothing was read. -/
theorem Reads.nil_inv {p q : Position} (h : Reads l source p [] q) : p = q := by
  cases h
  rfl

/-- Tokens are read in pieces as they are read at once. -/
theorem Reads.append {p q r : Position} {ts us : List Token} (hts : Reads l source p ts q)
    (hus : Reads l source q us r) : Reads l source p (ts ++ us) r := by
  induction hts with
  | nil p => exact hus
  | cons hpeek _ ih => exact .cons hpeek (ih hus)

/-- **Reading in pieces**: between two pieces of the tokens read there is a place where the
first ends and the second begins. -/
theorem Reads.split {p r : Position} {ts us : List Token}
    (h : Reads l source p (ts ++ us) r) :
    ∃ q, Reads l source p ts q ∧ Reads l source q us r := by
  induction ts generalizing p with
  | nil => exact ⟨p, .nil p, h⟩
  | cons t ts ih =>
    obtain ⟨hpeek, hrest⟩ := h.cons_inv
    obtain ⟨q, hts, hus⟩ := ih hrest
    exact ⟨q, .cons hpeek hts, hus⟩

/-- A place in front of insignificant text is as good as the place behind it, as long as a token
follows. -/
theorem Reads.of_peek_eq {p p' q : Position} {ts : List Token} (hts : ts ≠ [])
    (hpeek : l.peek source p = l.peek source p') (h : Reads l source p' ts q) :
    Reads l source p ts q := by
  cases h with
  | nil => exact absurd rfl hts
  | cons hp hrest => exact .cons (hpeek.trans hp) hrest

/-! ### All tokens of a source -/

/-- A scan that ends well leaves the session alone. -/
theorem eq_of_finishScan {s s' : Session} {tokens : List Token}
    (h : finishScan source s = (.ok tokens, s')) : tokens = [] ∧ s = s' := by
  unfold finishScan at h
  split at h
  · split at h <;> simp at h
  · simp only [Prod.mk.injEq, Except.ok.injEq] at h
    exact ⟨h.1.symm, h.2⟩

/-- **A scan lists the tokens ahead**: it reads them all, and behind them it comes to the place
where the scan ends without finding another. -/
theorem exists_reads_of_scan {s s' : Session} {tokens : List Token}
    (h : l.scan source s = (.ok tokens, s')) :
    ∃ q, Reads l source s.position tokens q ∧
      l.peek source q = (.ok none, s'.position) := by
  fun_induction l.scan source s generalizing tokens s' with
  | case1 s s₁ halt hnext => simp at h
  | case2 s s₁ hnext =>
    obtain ⟨rfl, rfl⟩ := eq_of_finishScan h
    exact ⟨s.position, .nil _, peek_of_next hnext⟩
  | case3 s s₁ t hnext tokens' s₂ hscan ih =>
    simp only [Prod.mk.injEq] at h
    obtain ⟨hmap, rfl⟩ := h
    cases tokens' with
    | error halt => simp [Except.map] at hmap
    | ok ts =>
      simp only [Except.map, Except.ok.injEq] at hmap
      subst hmap
      obtain ⟨q, hreads, hend⟩ := ih hscan
      obtain ⟨hpeek, hstop⟩ := peek_token_of_next hnext
      rw [hstop] at hreads
      exact ⟨q, .cons hpeek hreads, hend⟩

/-- A scan lists the token that it finds in front of those behind it. -/
theorem scan_of_next_some {s s₁ s₂ : Session} {t : Token} {found : Except Halt (List Token)}
    (hnext : l.next source none true s = (.ok (some t), s₁))
    (hscan : l.scan source (s₁.consume t) = (found, s₂)) :
    l.scan source s = (found.map (t :: ·), s₂) := by
  rw [scan]
  split <;> simp_all

/-- A scan that finds no token ends. -/
theorem scan_of_next_none {s s₁ : Session}
    (hnext : l.next source none true s = (.ok none, s₁)) :
    l.scan source s = finishScan source s₁ := by
  rw [scan]
  split <;> simp_all

/-- **The tokens ahead are what a scan lists**, if behind them it comes to the end of the source.
This is the converse of `exists_reads_of_scan`. -/
theorem exists_scan_of_reads {tokens : List Token} {s : Session} {q stop : Position}
    (hreads : l.Reads source s.position tokens q) (hend : l.peek source q = (.ok none, stop))
    (hstop : Text.byteSize source ≤ stop.offset) :
    ∃ s', l.scan source s = (.ok tokens, s') ∧ s'.position = stop := by
  induction tokens generalizing s with
  | nil =>
    rw [← hreads.nil_inv] at hend
    obtain ⟨s', hnext, hs'⟩ := exists_next_of_peek hend
    refine ⟨s', ?_, hs'⟩
    rw [scan_of_next_none hnext, finishScan, if_neg (by rw [hs']; omega)]
  | cons t ts ih =>
    obtain ⟨hpeek, hrest⟩ := hreads.cons_inv
    obtain ⟨s₁, hnext, hs₁⟩ := exists_next_of_peek hpeek
    rw [Token.stop, ← hs₁, ← Session.position_consume] at hrest
    obtain ⟨s', hscan, hs'⟩ := ih hrest
    refine ⟨s', ?_, hs'⟩
    rw [scan_of_next_some hnext hscan]
    rfl

/-- A lexer that tries a vocabulary in order never halts. -/
theorem exists_next_firstMatch (v : Vocabulary) (source : List Char) (hint : Option Kind)
    (skip : Bool) (s : Session) :
    ∃ found s', (firstMatch v).next source hint skip s = (.ok found, s') := by
  obtain ⟨halt, s', h⟩ | ⟨s', h⟩ | ⟨t, s', h⟩ := (firstMatch v).next_cases source hint skip s
  · cases settles_of_next h with
    | halts _ hm => cases hint <;> cases hm
  · exact ⟨none, s', h⟩
  · exact ⟨some t, s', h⟩

/-- **Every source is read to an end**: from any place on, a lexer that tries a vocabulary in
order finds some tokens and then nothing. Induction on what is left of the source. -/
theorem exists_reads (v : Vocabulary) (source : List Char) (p : Position) :
    ∃ tokens q stop, Reads (firstMatch v) source p tokens q ∧
      (firstMatch v).peek source q = (.ok none, stop) := by
  generalize hn : Text.byteSize source - p.offset = n
  induction n using Nat.strongRecOn generalizing p with
  | ind n ih =>
    obtain ⟨found, s', hnext⟩ := exists_next_firstMatch v source none true ⟨p, #[]⟩
    cases found with
    | none => exact ⟨[], p, s'.position, .nil p, peek_of_next hnext⟩
    | some t =>
      obtain ⟨hpeek, hstop⟩ := peek_token_of_next hnext
      have hlt := offset_lt_of_next hnext
      rw [hstop] at hlt
      have hless : Text.byteSize source - t.stop.offset < n := by
        simp only at hlt
        omega
      obtain ⟨tokens, q, stop, hreads, hend⟩ := ih _ hless t.stop rfl
      exact ⟨t :: tokens, q, stop, .cons hpeek hreads, hend⟩

end Parens.Lexer
