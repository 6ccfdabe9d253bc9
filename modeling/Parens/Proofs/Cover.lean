import Parens.Proofs.Classification
import Parens.Proofs.Tiling

/-!
# Covering a Source by First Matches

A vocabulary covers a source from left to right: wherever it stands it takes its first match and
goes on behind it (`Vocabulary.Covers`). There is never a choice, so there is one place where this
ends, which is the end of the source or a place where no kind recognises anything
(`Covers.unique`). A vocabulary fails behind the end of a source as well, so both are places where
it fails.

A scan does nothing else (`exists_covers_of_scan`): the tokens that it lists are the significant
ones among those that cover the source, and the insignificant ones are passed over on the way. If
the vocabulary is anchored, the covering ends between two characters, so a scan that gets stuck can
say what stands there.

## Main results

* `Covers.unique`: **a vocabulary covers a source in one way**.
* `Lexer.exists_covers_of_next`, `Lexer.exists_covers_of_scan`: a search goes on with the covering,
  and a scan goes through with it.
* `Lexer.scan_iff_covers`: a scan succeeds exactly if the whole source is covered, and otherwise
  reports the place where the covering is stuck.
-/

namespace Parens

/-! ### Coverings -/

namespace Vocabulary

/-- Taking its first match at each place, a vocabulary covers the source from a place on with some
tokens, up to another place. -/
inductive Covers (v : Vocabulary) (source : List Char) :
    Position → List Token → Position → Prop
  /-- Nothing was taken yet. -/
  | nil (p : Position) : Covers v source p [] p
  /-- The first match is taken, and the covering goes on behind it. -/
  | cons {p q : Position} {m : Match} {ts : List Token} :
      v.Matches source p.offset m → Covers v source (p.advance m.text) ts q →
      Covers v source p (⟨m.kind, m.text, p⟩ :: ts) q

variable {v : Vocabulary} {source : List Char} {p q r : Position} {ts us : List Token}

/-- There is only one first match. -/
theorem Matches.unique {offset : Nat} {m m' : Match} (h : v.Matches source offset m)
    (h' : v.Matches source offset m') : m = m' := by
  have hfirst := Lexer.matchNext_eq_some_iff.2 h
  have hfirst' := Lexer.matchNext_eq_some_iff.2 h'
  exact Option.some.inj (Except.ok.inj (hfirst.symm.trans hfirst'))

/-- Nothing is recognised at the end of the source and behind it. -/
theorem fails_of_byteSize_le {offset : Nat} (h : Text.byteSize source ≤ offset) :
    v.Fails source offset := by
  intro k _
  rw [Rule.matchAt]
  cases hdrop : Text.dropBytes? offset source with
  | none => rfl
  | some rest =>
    obtain ⟨front, rfl, rfl⟩ := Text.dropBytes?_eq_some_iff.1 hdrop
    cases rest with
    | nil => exact List.infix_nil.1 (k.front_isInfix [])
    | cons c cs =>
      have hsize := Text.byteSize_pos (List.cons_ne_nil c cs)
      rw [Text.byteSize_append] at h
      omega

namespace Covers

/-- Coverings are joined where one ends and the other begins. -/
theorem append (hts : v.Covers source p ts q) (hus : v.Covers source q us r) :
    v.Covers source p (ts ++ us) r := by
  induction hts with
  | nil p => exact hus
  | cons hm _ ih => exact .cons hm (ih hus)

/-- **A vocabulary covers a source in one way.** Two coverings from the same place that both end
where the vocabulary fails are the same. -/
theorem unique (hts : v.Covers source p ts q) (hq : v.Fails source q.offset)
    (hus : v.Covers source p us r) (hr : v.Fails source r.offset) : ts = us ∧ q = r := by
  induction hts generalizing us with
  | nil p =>
    cases hus with
    | nil => exact ⟨rfl, rfl⟩
    | cons hm => exact absurd hq hm.not_fails
  | cons hm _ ih =>
    cases hus with
    | nil => exact absurd hr hm.not_fails
    | cons hm' hus =>
      obtain rfl := hm.unique hm'
      obtain ⟨rfl, rfl⟩ := ih hq hus
      exact ⟨rfl, rfl⟩

/-- **An anchored vocabulary covers a source by its text**: wherever the covering comes to, it is
the place where some text in front leads to. -/
theorem exists_front (hv : v.Anchored) {front rest : List Char}
    (h : v.Covers (front ++ rest) (Position.start.advance front) ts q) :
    ∃ front' rest', front ++ rest = front' ++ rest' ∧ q = Position.start.advance front' := by
  generalize hsource : front ++ rest = source at h
  generalize hp : Position.start.advance front = p at h
  induction h generalizing front rest with
  | nil p => exact ⟨front, rest, hsource.symm, hp.symm⟩
  | @cons p q m ts hm _ ih =>
    obtain ⟨before, behind, rfl, htext, -⟩ := hm
    have hahead : Ahead source p rest := by
      rw [← hsource, ← hp]
      exact .behind front rest
    have hfront : m.kind.front rest = m.text := by
      rw [← htext, Rule.matchAt, hahead]
    obtain ⟨rest', rfl⟩ : m.text <+: rest := hfront ▸ hv m.kind (by simp) rest
    have happ : front ++ m.text ++ rest' = source := by
      rw [List.append_assoc]
      exact hsource
    have hplace : Position.start.advance (front ++ m.text) = p.advance m.text := by
      rw [Position.advance_append, hp]
    exact ih happ hplace

end Covers

end Vocabulary

/-! ### Scanning -/

namespace Lexer

variable {v : Vocabulary} {source : List Char} {s s' : Session}

open Vocabulary

/-- **A search goes on with the covering.** It passes over the insignificant tokens that come next,
up to a significant one, which is the first match there, or to where the vocabulary fails. -/
theorem exists_covers_of_next {found : Option Token}
    (h : (firstMatch v).next source none true s = (.ok found, s')) :
    ∃ passed, v.Covers source s.position passed s'.position ∧
      (∀ t ∈ passed, t.kind.significant = false) ∧
      (found = none → v.Fails source s'.position.offset) ∧
      ∀ t, found = some t → t.kind.significant = true ∧
        v.Covers source s'.position [t] (s'.consume t).position := by
  fun_induction (firstMatch v).next source none true s with
  | case1 s hinside halt hm => cases (Prod.mk.inj h).1
  | case2 s hinside hm =>
    obtain ⟨hfound, rfl⟩ := Prod.mk.inj h
    obtain rfl := Except.ok.inj hfound
    exact ⟨[], .nil _, by simp, fun _ => matchNext_eq_none_iff.1 hm, by simp⟩
  | case3 s hinside m hm hskip ih =>
    obtain ⟨passed, hcovers, hpassed, hend⟩ := ih h
    have hinsignificant : m.kind.significant = false := by simpa using hskip
    exact ⟨tokenAt s m :: passed, .cons (matchNext_eq_some_iff.1 hm) hcovers,
      List.forall_mem_cons.2 ⟨hinsignificant, hpassed⟩, hend⟩
  | case4 s hinside m hm hskip =>
    obtain ⟨hfound, rfl⟩ := Prod.mk.inj h
    obtain rfl := Except.ok.inj hfound
    refine ⟨[], .nil _, by simp, by simp, fun t ht => ?_⟩
    obtain rfl := Option.some.inj ht
    exact ⟨by simpa [tokenAt] using hskip, .cons (matchNext_eq_some_iff.1 hm) (.nil _)⟩
  | case5 s hend =>
    obtain ⟨hfound, rfl⟩ := Prod.mk.inj h
    obtain rfl := Except.ok.inj hfound
    exact ⟨[], .nil _, by simp, fun _ => fails_of_byteSize_le (Nat.le_of_not_lt hend), by simp⟩

/-- There is nothing significant among insignificant tokens. -/
theorem filter_significant_eq_nil {tokens : List Token}
    (h : ∀ t ∈ tokens, t.kind.significant = false) :
    tokens.filter (·.kind.significant) = [] := by
  rw [List.filter_eq_nil_iff]
  intro t ht
  simp [h t ht]

/-- **A scan goes through with the covering** to where the vocabulary fails, and ends there. In
front of what the end of the scan adds, it lists the significant tokens. -/
theorem exists_covers_of_scan (v : Vocabulary) (source : List Char) (s : Session) :
    ∃ tiles s₁, v.Covers source s.position tiles s₁.position ∧
      v.Fails source s₁.position.offset ∧
      (firstMatch v).scan source s =
        ((finishScan source s₁).1.map (tiles.filter (·.kind.significant) ++ ·),
          (finishScan source s₁).2) := by
  fun_induction (firstMatch v).scan source s with
  | case1 s s₁ halt hnext =>
    obtain ⟨found, s', hfound⟩ := exists_next_firstMatch v source none true s
    cases hfound.symm.trans hnext
  | case2 s s₁ hnext =>
    obtain ⟨passed, hcovers, hpassed, hfails, -⟩ := exists_covers_of_next hnext
    refine ⟨passed, s₁, hcovers, hfails rfl, ?_⟩
    rw [filter_significant_eq_nil hpassed]
    cases finishScan source s₁ with
    | mk result s₂ => cases result <;> rfl
  | case3 s t s₁ hnext tokens s₂ hscan ih =>
    obtain ⟨passed, hcovers, hpassed, -, hfound⟩ := exists_covers_of_next hnext
    obtain ⟨hsignificant, htoken⟩ := hfound t rfl
    obtain ⟨tiles, s₃, htiles, hfails, hrest⟩ := ih
    refine ⟨passed ++ ([t] ++ tiles), s₃, hcovers.append (htoken.append htiles), hfails, ?_⟩
    have hfilter : (passed ++ ([t] ++ tiles)).filter (·.kind.significant) =
        t :: tiles.filter (·.kind.significant) := by
      rw [List.filter_append, filter_significant_eq_nil hpassed, List.nil_append,
        List.singleton_append, List.filter_cons_of_pos (by simpa using hsignificant)]
    obtain ⟨rfl, rfl⟩ := Prod.mk.inj (hscan.symm.trans hrest)
    rw [hfilter]
    cases (finishScan source s₃).1 <;> rfl

/-- What stands where a vocabulary fails: the longest run of anything but blanks, or the one blank
in front of the rest. -/
def stray (c : Char) (rest : List Char) : List Char :=
  if Text.isBlank c then [c] else (c :: rest).takeWhile fun d => !Text.isBlank d

/-- At the end of the source a scan ends well. -/
theorem finishScan_eq_ok (h : Text.byteSize source ≤ s.position.offset) :
    finishScan source s = (.ok [], s) := by
  rw [finishScan, if_neg (by omega)]

/-- In front of a character a scan reports what stands there. -/
theorem strayText_eq_stray {offset : Nat} {c : Char} {rest : List Char}
    (h : Text.dropBytes? offset source = some (c :: rest)) :
    strayText source offset = .ok (stray c rest) := by
  have hrun : unexpected.matchAt source offset =
      (c :: rest).takeWhile fun d => !Text.isBlank d := by
    rw [Rule.matchAt, h]
    exact front_unexpected _
  rw [strayText, hrun, stray]
  cases hblank : Text.isBlank c with
  | true =>
    rw [List.takeWhile_cons_of_neg (by simp [hblank]), h]
    rfl
  | false =>
    rw [List.takeWhile_cons_of_pos (by simp [hblank])]
    rfl

/-- The words for what a scan reports. -/
theorem diagnosis_stray (text : List Char) (p : Position) :
    Session.diagnosis none (some ⟨unexpected, text, p⟩) p =
      "syntax error: end of input expected but found unexpected " ++ String.ofList text ++
        " at " ++ p.render := by
  have hdiagnosis (t : Token) : Session.diagnosis none (some t) p =
      "syntax error: " ++ Rule.endOfInput ++ " expected but found " ++ t.render ++ " at " ++
        p.render := rfl
  have hrender : Token.render ⟨unexpected, text, p⟩ =
      "unexpected" ++ " " ++ String.ofList text := rfl
  have hwords : "syntax error: end of input expected but found unexpected " =
      "syntax error: " ++ Rule.endOfInput ++ " expected but found " ++ ("unexpected" ++ " ") := by
    decide
  rw [hdiagnosis, hrender, hwords]
  simp only [String.append_assoc]

/-- **A scan lists the significant tokens** of a covering of the whole source. -/
theorem fst_scan_of_covers {tiles : List Token} {q : Position}
    (h : v.Covers source s.position tiles q) (hq : q.offset = Text.byteSize source) :
    ((firstMatch v).scan source s).1 = .ok (tiles.filter (·.kind.significant)) := by
  have hend : Text.byteSize source ≤ q.offset := Nat.le_of_eq hq.symm
  obtain ⟨tiles', s₁, hcovers, hfails, hscan⟩ := exists_covers_of_scan v source s
  obtain ⟨rfl, rfl⟩ := h.unique (fails_of_byteSize_le hend) hcovers hfails
  rw [hscan, finishScan_eq_ok hend]
  exact congrArg Except.ok (List.append_nil _)

/-- The error for what stands in front of the rest of a source. -/
def strayError (c : Char) (rest : List Char) (p : Position) : Error :=
  .malformed
    ("syntax error: end of input expected but found unexpected " ++ String.ofList (stray c rest) ++
      " at " ++ p.render)
    p

/-- **A scan reports where the covering is stuck** in front of a character. -/
theorem fst_scan_of_stuck {tiles : List Token} {q : Position} {c : Char} {rest : List Char}
    (h : v.Covers source s.position tiles q) (hahead : Ahead source q (c :: rest))
    (hq : v.Fails source q.offset) :
    ((firstMatch v).scan source s).1 = .error (.failed (strayError c rest q)) := by
  obtain ⟨tiles', s₁, hcovers, hfails, hscan⟩ := exists_covers_of_scan v source s
  obtain ⟨-, rfl⟩ := h.unique hq hcovers hfails
  rw [hscan, finishScan, if_pos (hahead.offset_lt (List.cons_ne_nil c rest)),
    strayText_eq_stray hahead, strayError, ← diagnosis_stray]
  rfl

/-- **An anchored vocabulary covers a whole source, or is stuck in front of a character.** -/
theorem covers_or_stuck (hv : v.Anchored) (source : List Char) :
    (∃ tiles q, v.Covers source .start tiles q ∧ q.offset = Text.byteSize source) ∨
      ∃ tiles front c rest, source = front ++ c :: rest ∧
        v.Covers source .start tiles (Position.start.advance front) ∧
        v.Fails source (Position.start.advance front).offset := by
  obtain ⟨tiles, s, hcovers, hfails, -⟩ := exists_covers_of_scan v source .start
  have hall : v.Covers ([] ++ source) (Position.start.advance []) tiles s.position := hcovers
  obtain ⟨front, rest, hsource, hplace⟩ := hall.exists_front hv
  obtain rfl : source = front ++ rest := hsource
  rw [hplace] at hcovers hfails
  cases rest with
  | nil =>
    refine .inl ⟨tiles, _, hcovers, ?_⟩
    rw [Position.offset_advance, List.append_nil]
    exact Nat.zero_add _
  | cons c rest => exact .inr ⟨tiles, front, c, rest, rfl, hcovers, hfails⟩

/-- **Every source is scanned to its end** by a lexer for list notation, if the kinds of atoms are
anchored. -/
theorem exists_scan_ofAtoms {atoms : Vocabulary} (h : atoms.Anchored) (source : List Char) :
    ∃ tokens s, (ofAtoms atoms).scan source .start = (.ok tokens, s) := by
  obtain ⟨tiles, q, hcovers, hq⟩ | ⟨tiles, front, c, rest, rfl, -, hfails⟩ :=
    covers_or_stuck (anchored_parens h) source
  · exact ⟨_, _, Prod.ext (fst_scan_of_covers hcovers hq) rfl⟩
  · have hahead : Ahead (front ++ c :: rest) (Position.start.advance front) (c :: rest) :=
      .behind front _
    obtain ⟨m, hm, -⟩ := exists_firstOf_begins atoms hahead
    have hmatch := (matchNext_of_ahead hahead).trans (congrArg Except.ok hm)
    cases hmatch.symm.trans (matchNext_eq_none_iff.2 hfails)

/-- **A scan is exact.** With an anchored vocabulary, a scan from the beginning of a source succeeds
exactly if taking the first match again and again covers the whole source, and lists the significant
tokens of the covering. It fails exactly if the covering gets stuck in front of some character where
no kind recognises anything, and reports what stands there, at this place. So it never tries to cut
the source inside a character. -/
theorem scan_iff_covers (hv : v.Anchored) (source : List Char) :
    (∀ tokens, ((firstMatch v).scan source .start).1 = .ok tokens ↔
      ∃ tiles q, v.Covers source .start tiles q ∧ q.offset = Text.byteSize source ∧
        tokens = tiles.filter (·.kind.significant)) ∧
    ∀ halt, ((firstMatch v).scan source .start).1 = .error halt ↔
      ∃ tiles front c rest, source = front ++ c :: rest ∧
        v.Covers source .start tiles (Position.start.advance front) ∧
        v.Fails source (Position.start.advance front).offset ∧
        halt = .failed (strayError c rest (Position.start.advance front)) := by
  constructor
  · intro tokens
    constructor
    · intro hok
      obtain ⟨tiles, q, hcovers, hq⟩ | ⟨tiles, front, c, rest, rfl, hcovers, hfails⟩ :=
        covers_or_stuck hv source
      · rw [fst_scan_of_covers hcovers hq] at hok
        exact ⟨tiles, q, hcovers, hq, (Except.ok.inj hok).symm⟩
      · rw [fst_scan_of_stuck hcovers (.behind front _) hfails] at hok
        cases hok
    · rintro ⟨tiles, q, hcovers, hq, rfl⟩
      exact fst_scan_of_covers hcovers hq
  · intro halt
    constructor
    · intro herror
      obtain ⟨tiles, q, hcovers, hq⟩ | ⟨tiles, front, c, rest, rfl, hcovers, hfails⟩ :=
        covers_or_stuck hv source
      · rw [fst_scan_of_covers hcovers hq] at herror
        cases herror
      · rw [fst_scan_of_stuck hcovers (.behind front _) hfails] at herror
        exact ⟨tiles, front, c, rest, rfl, hcovers, hfails, (Except.error.inj herror).symm⟩
    · rintro ⟨tiles, front, c, rest, rfl, hcovers, hfails, rfl⟩
      exact fst_scan_of_stuck hcovers (.behind front _) hfails

/-- Names and blanks do not cover `ab é!`. A scan passes over the blank, gets stuck behind it, and
reports the rest of the source. -/
theorem scan_names_iff_covers :
    ∃ v : Vocabulary, v = [space, identifier] ∧ v.Anchored ∧
      ((firstMatch v).scan ['a', 'b', ' ', 'é', '!'] .start).1 = .error (.failed (.malformed
        "syntax error: end of input expected but found unexpected é! at line 1, column 4 (offset 3)"
        ⟨3, 1, 4⟩)) := by
  have hanchored : Vocabulary.Anchored [space, identifier] := by
    intro k hk
    have hparens := anchored_parens anchored_plainAtoms
    simp only [List.mem_cons, List.not_mem_nil, or_false] at hk
    obtain rfl | rfl := hk
    · exact hparens _ (by simp [parens])
    · exact hparens _ (by simp [parens, plainAtoms])
  have hcovers : Covers [space, identifier] ['a', 'b', ' ', 'é', '!'] .start
      [⟨identifier, ['a', 'b'], ⟨0, 1, 1⟩⟩, ⟨space, [' '], ⟨2, 1, 3⟩⟩] ⟨3, 1, 4⟩ := by
    refine .cons (m := ⟨identifier, ['a', 'b'], by simp⟩) ⟨[space], [], rfl, rfl, ?_⟩ ?_
    · intro k hk
      obtain rfl := List.mem_singleton.1 hk
      rfl
    · exact .cons (m := ⟨space, [' '], by simp⟩) ⟨[], [identifier], rfl, rfl, by simp⟩ (.nil _)
  have hfails : Fails [space, identifier] ['a', 'b', ' ', 'é', '!'] 3 := by
    intro k hk
    simp only [List.mem_cons, List.not_mem_nil, or_false] at hk
    obtain rfl | rfl := hk <;> rfl
  have hwords : strayError 'é' ['!'] ⟨3, 1, 4⟩ = .malformed
      "syntax error: end of input expected but found unexpected é! at line 1, column 4 (offset 3)"
      ⟨3, 1, 4⟩ := by decide
  have hscan : ((firstMatch [space, identifier]).scan ['a', 'b', ' ', 'é', '!'] .start).1 =
      .error (.failed (strayError 'é' ['!'] ⟨3, 1, 4⟩)) :=
    ((scan_iff_covers hanchored _).2 _).2
      ⟨_, ['a', 'b', ' '], 'é', ['!'], rfl, hcovers, hfails, rfl⟩
  rw [hwords] at hscan
  exact ⟨_, rfl, hanchored, hscan⟩

end Lexer

end Parens
