import Parens.Proofs.Nesting
import Parens.Proofs.Peeking
import Parens.Proofs.Stopping

/-!
# Closing What Was Left Open

A source that ends inside a list lacks closing parentheses. How many it lacks can be told from its
tokens: as many as more of them open a list than close one. With that many put behind the source, it
is parsed; with fewer, it still ends inside a list.

Two things are to be seen. Closing parentheses behind the source change none of its tokens: names,
numbers and blanks end in front of them, and a quoted text has ended before
(`firstOf_append_closing`). An unexpected token would take them in, but then the error would have
been another. And the pass over the tokens, which has come to the end with some lists open, goes on
with the closing parentheses and counts down (`Stage.foldlM_take_closing`).

## Main results

* `Lexer.Reads.append_closing`: **closing parentheses change no token** in front of them.
* `Stage.exists_reading_of_diagnose`: a pass that misses a closing parenthesis at the end has taken
  in all tokens, and some lists are open.
* `Parser.parse_completed`: a source that ends inside a list is parsed with the parentheses that it
  lacks behind it, and with no fewer.
-/

namespace Parens

/-- The error of a source that ends inside a list. -/
def unterminated (stop : Position) : Error := misplaced ")" none stop

/-- What lies ahead is longer in a source that is longer. -/
theorem Ahead.append {source rest : List Char} {p : Position} (h : Ahead source p rest)
    (tail : List Char) : Ahead (source ++ tail) p (rest ++ tail) := by
  obtain ⟨front, rfl, hsize⟩ := Text.dropBytes?_eq_some_iff.1 h
  exact Text.dropBytes?_eq_some_iff.2 ⟨front, by simp, hsize⟩

namespace Lexer

open Vocabulary

variable {source rest tail : List Char} {p q stop : Position}

/-! ### Tokens in front of closing parentheses -/

/-- A run of other characters ends in front of closing parentheses. -/
theorem takeWhile_append_closing (htail : ∀ c ∈ tail, c = ')') {p : Char → Bool}
    (hp : p ')' = false) (cs : List Char) : (cs ++ tail).takeWhile p = cs.takeWhile p := by
  induction cs with
  | nil =>
    cases tail with
    | nil => rfl
    | cons d tail =>
      obtain rfl := htail d List.mem_cons_self
      exact List.takeWhile_cons_of_neg (by simp [hp])
  | cons c cs ih => by_cases hc : p c <;> simp [hc, ih]

/-- Deciding by the first character comes to the same token in front of closing parentheses. -/
theorem dispatch_append_closing (htail : ∀ c ∈ tail, c = ')') (c : Char) (cs : List Char) :
    dispatch c (cs ++ tail) = dispatch c cs := by
  have hcontains : (cs ++ tail).contains '"' = cs.contains '"' := by
    have hquote : '"' ∉ tail := fun h => absurd (htail _ h) (by decide)
    simp [hquote]
  have hblanks : (cs ++ tail).takeWhile Text.isBlank = cs.takeWhile Text.isBlank :=
    takeWhile_append_closing htail (by decide) cs
  have hname : (cs ++ tail).takeWhile continuesName = cs.takeWhile continuesName :=
    takeWhile_append_closing htail (by decide) cs
  have hdigits : (cs ++ tail).takeWhile Char.isDigit = cs.takeWhile Char.isDigit :=
    takeWhile_append_closing htail (by decide) cs
  by_cases hquote : cs.contains '"' = true
  · -- The quote that ends the text stands in front of the parentheses.
    have hrun : (cs ++ tail).takeWhile (· != '"') = cs.takeWhile (· != '"') := by
      obtain ⟨behind, hcs⟩ := exists_eq_takeWhile_append hquote
      rw [hcs]
      have hall : ∀ d ∈ cs.takeWhile (· != '"'), (d != '"') = true := fun d hd =>
        List.all_eq_true.1 List.all_takeWhile d hd
      simp [List.takeWhile_append_of_pos hall]
    simp only [dispatch, hcontains, hblanks, hname, hdigits, hrun]
  · simp only [dispatch, hcontains, hblanks, hname, hdigits, hquote, Bool.and_false,
      Bool.false_eq_true, if_false]

/-- **The first match is the same in front of closing parentheses**, unless it is unexpected. -/
theorem firstOf_append_closing (htail : ∀ c ∈ tail, c = ')') {m : Match} (hne : rest ≠ [])
    (h : firstOf (.parens plainAtoms) rest = some m) (hm : m.kind ≠ unexpected) :
    firstOf (.parens plainAtoms) (rest ++ tail) = some m := by
  obtain ⟨c, cs, rfl⟩ := List.exists_cons_of_ne_nil hne
  rw [List.cons_append]
  obtain hfirst | ⟨run, -, -, hfirst⟩ := firstOf_eq_dispatch c cs
  · obtain rfl := Option.some.inj (hfirst.symm.trans h)
    obtain hlong | ⟨run, -, hdispatch, -⟩ := firstOf_eq_dispatch c (cs ++ tail)
    · rw [hlong, dispatch_append_closing htail]
    · rw [dispatch_append_closing htail] at hdispatch
      exact absurd (congrArg Match.kind hdispatch) hm
  · obtain rfl := Option.some.inj (hfirst.symm.trans h)
    exact absurd rfl hm

/-- The first match can be moved past. -/
theorem exists_ahead_of_firstOf (h : Ahead source p rest) {m : Match}
    (hm : firstOf (.parens plainAtoms) rest = some m) :
    ∃ behind, rest = m.text ++ behind ∧ Ahead source (p.advance m.text) behind := by
  obtain ⟨behind, rfl⟩ := isPrefix_of_firstOf (anchored_parens anchored_plainAtoms) hm
  exact ⟨behind, rfl, h.advance⟩

/-- What is passed over is passed over in front of closing parentheses as well, so that a search
from in front of it is a search from behind it. -/
theorem Passes.append_closing (htail : ∀ c ∈ tail, c = ')') {passed : List Token}
    (h : (ofAtoms plainAtoms).Passes source none p passed q) (hahead : Ahead source p rest) :
    (∃ behind, Ahead source q behind) ∧
      (ofAtoms plainAtoms).peek (source ++ tail) p =
        (ofAtoms plainAtoms).peek (source ++ tail) q := by
  induction h generalizing rest with
  | nil p => exact ⟨⟨rest, hahead⟩, rfl⟩
  | @cons p q m passed hm hsig _ ih =>
    have hfirst : firstOf (.parens plainAtoms) rest = some m :=
      Except.ok.inj ((matchNext_of_ahead hahead).symm.trans hm)
    obtain ⟨behind, rfl, hbehind⟩ := exists_ahead_of_firstOf hahead hfirst
    obtain ⟨hplace, hpeek⟩ := ih hbehind
    have hne : m.text ++ behind ≠ [] := List.append_ne_nil_of_left_ne_nil m.text_ne_nil _
    have hkind : m.kind ≠ unexpected := by
      rintro hkind
      rw [hkind] at hsig
      cases hsig
    have hlong := firstOf_append_closing htail hne hfirst hkind
    refine ⟨hplace, Eq.trans ?_ hpeek⟩
    exact peek_of_insignificant (hahead.append tail) (List.append_ne_nil_of_left_ne_nil hne _)
      hlong hsig

/-- **The next token is the same in front of closing parentheses**, unless it is unexpected. -/
theorem peek_append_closing (htail : ∀ c ∈ tail, c = ')') (hahead : Ahead source p rest)
    {t : Token} (h : (ofAtoms plainAtoms).peek source p = (.ok (some t), t.position))
    (ht : ¬ t.is unexpected = true) :
    (ofAtoms plainAtoms).peek (source ++ tail) p = (.ok (some t), t.position) ∧
      ∃ behind, Ahead source t.stop behind := by
  obtain ⟨s, hnext, hs⟩ := exists_next_of_peek (s := ⟨p, #[]⟩) h
  obtain ⟨passed, hpasses⟩ := exists_passes_of_next hnext
  obtain ⟨⟨rest', hahead'⟩, hpeek⟩ := hpasses.append_closing htail hahead
  rw [hpeek]
  cases settles_of_next hnext with
  | finds m hinside hm hskip =>
    have hsig : m.kind.significant = true := by simpa using hskip
    have hfirst : firstOf (.parens plainAtoms) rest' = some m :=
      Except.ok.inj ((matchNext_of_ahead hahead').symm.trans hm)
    obtain ⟨behind, rfl, hbehind⟩ := exists_ahead_of_firstOf hahead' hfirst
    have hne : m.text ++ behind ≠ [] := List.append_ne_nil_of_left_ne_nil m.text_ne_nil _
    have hkind : m.kind ≠ unexpected := by
      rintro hkind
      refine ht ?_
      rw [Token.is, tokenAt, hkind]
      rfl
    have hlong := firstOf_append_closing htail hne hfirst hkind
    exact ⟨peek_of_firstOf (hahead'.append tail) (List.append_ne_nil_of_left_ne_nil hne _) hlong
      hsig, behind, hbehind⟩

/-- **Where no token is left, nothing is left**, and with closing parentheses behind the source, the
search for a token comes to the first of them. -/
theorem peek_append_closing_of_end (htail : ∀ c ∈ tail, c = ')') (hahead : Ahead source p rest)
    (h : (ofAtoms plainAtoms).peek source p = (.ok none, stop)) :
    Ahead source stop [] ∧
      (ofAtoms plainAtoms).peek (source ++ tail) p =
        (ofAtoms plainAtoms).peek (source ++ tail) stop := by
  obtain ⟨s, hnext, rfl⟩ := exists_next_of_peek (s := ⟨p, #[]⟩) h
  obtain ⟨passed, hpasses⟩ := exists_passes_of_next hnext
  obtain ⟨⟨rest', hahead'⟩, hpeek⟩ := hpasses.append_closing htail hahead
  refine ⟨?_, hpeek⟩
  have hnil : rest' = [] := by
    refine Decidable.byContradiction fun hne => ?_
    obtain ⟨c, cs, rfl⟩ := List.exists_cons_of_ne_nil hne
    obtain ⟨m, hm, -⟩ := exists_firstOf_begins plainAtoms hahead'
    have hmatch := (matchNext_of_ahead hahead').trans (congrArg Except.ok hm)
    cases settles_of_next hnext with
    | fails hinside hfails => cases hfails.symm.trans hmatch
    | ends hend => exact absurd (hahead'.offset_lt hne) (Nat.not_lt.2 hend)
  rwa [hnil] at hahead'

/-- **Closing parentheses change no token** in front of them, if none is unexpected. -/
theorem Reads.append_closing (htail : ∀ c ∈ tail, c = ')') {tokens : List Token}
    (h : (ofAtoms plainAtoms).Reads source p tokens q) (hahead : Ahead source p rest)
    (htokens : ∀ t ∈ tokens, ¬ t.is unexpected = true) :
    (ofAtoms plainAtoms).Reads (source ++ tail) p tokens q ∧ ∃ behind, Ahead source q behind := by
  induction h generalizing rest with
  | nil p => exact ⟨.nil p, rest, hahead⟩
  | cons hpeek _ ih =>
    obtain ⟨hlong, behind, hbehind⟩ :=
      peek_append_closing htail hahead hpeek (htokens _ List.mem_cons_self)
    obtain ⟨hreads, hplace⟩ := ih hbehind fun t ht => htokens t (List.mem_cons_of_mem _ ht)
    exact ⟨.cons hlong hreads, hplace⟩

/-- Closing parentheses are read one after the other. -/
theorem exists_reads_closing (atoms : Vocabulary) (htail : ∀ c ∈ tail, c = ')')
    (hahead : Ahead source p tail) :
    ∃ ts, (ofAtoms atoms).Reads source p ts (p.advance tail) ∧ ts.length = tail.length ∧
      (∀ t ∈ ts, t.is closing = true) ∧ Ahead source (p.advance tail) [] := by
  induction tail generalizing p with
  | nil => exact ⟨[], .nil p, rfl, by simp, hahead⟩
  | cons c tail ih =>
    obtain rfl := htail c List.mem_cons_self
    have hrest : Ahead source (p.advance [')']) tail := Ahead.advance (a := [')']) hahead
    obtain ⟨ts, hreads, hlength, hts, hend⟩ :=
      ih (fun d hd => htail d (List.mem_cons_of_mem _ hd)) hrest
    have hfirst : firstOf (.parens atoms) ([')'] ++ tail) =
        some ⟨closing, [')'], List.cons_ne_nil _ _⟩ := firstOf_closing atoms tail
    refine ⟨⟨closing, [')'], p⟩ :: ts, ?_, ?_, ?_, hend⟩
    · exact .cons_of_firstOf hahead hfirst rfl fun _ => hreads
    · rw [List.length_cons, List.length_cons, hlength]
    · exact List.forall_mem_cons.2 ⟨rfl, hts⟩

/-- **A source with closing parentheses behind it** has its tokens and those of the parentheses. -/
theorem exists_reads_append_closing (htail : ∀ c ∈ tail, c = ')') {tokens : List Token}
    (h : (ofAtoms plainAtoms).Reads source .start tokens q)
    (hend : (ofAtoms plainAtoms).peek source q = (.ok none, stop))
    (htokens : ∀ t ∈ tokens, ¬ t.is unexpected = true) :
    ∃ ts q', (ofAtoms plainAtoms).Reads (source ++ tail) .start (tokens ++ ts) q' ∧
      (ofAtoms plainAtoms).peek (source ++ tail) q' = (.ok none, stop.advance tail) ∧
      ts.length = tail.length ∧ ∀ t ∈ ts, t.is closing = true := by
  obtain ⟨hreads, behind, hbehind⟩ := h.append_closing htail (.start source) htokens
  obtain ⟨hstop, hpeek⟩ := peek_append_closing_of_end htail hbehind hend
  obtain ⟨ts, hts, hlength, hclosing, hlast⟩ :=
    exists_reads_closing plainAtoms htail (hstop.append tail)
  refine ⟨ts, ?_⟩
  by_cases hnil : ts = []
  · subst hnil
    rw [← hts.nil_inv] at hlast ⊢
    refine ⟨q, by rwa [List.append_nil], ?_, hlength, hclosing⟩
    rw [hpeek]
    exact peek_of_end hlast
  · exact ⟨_, hreads.append (.of_peek_eq hnil hpeek hts), peek_of_end hlast, hlength, hclosing⟩

end Lexer

/-! ### Passes that end inside a list -/

namespace Stage

variable {limit : Option Nat} {stage stage' : Stage} {t : Token} {tokens ts : List Token}
  {stop p : Position} {d : Nat}

/-- A token that is unexpected is not taken in. -/
theorem not_unexpected_of_take (h : stage.take limit t = .ok stage') :
    ¬ t.is Vocabulary.unexpected = true := by
  intro ht
  obtain ⟨n, rfl⟩ := exists_reading_of_take h
  rw [← Token.role_eq_stray_iff] at ht
  simp only [take, ht] at h
  cases h

/-- No unexpected token is taken in on the way. -/
theorem not_unexpected_of_foldlM (h : tokens.foldlM (take limit) stage = .ok stage') :
    ∀ t ∈ tokens, ¬ t.is Vocabulary.unexpected = true := by
  induction tokens generalizing stage with
  | nil => simp
  | cons t ts ih =>
    rw [List.foldlM_cons] at h
    obtain ⟨next, htake, hrest⟩ := TokenTree.exists_of_bind_eq_ok h
    exact List.forall_mem_cons.2 ⟨not_unexpected_of_take htake, ih hrest⟩

/-- **Closing parentheses count down**, as long as there are open lists. -/
theorem foldlM_take_closing (hts : ∀ t ∈ ts, t.is Vocabulary.closing = true)
    (hlength : ts.length ≤ d) :
    ts.foldlM (take limit) (behind d) = .ok (behind (d - ts.length)) := by
  induction ts generalizing d with
  | nil => rfl
  | cons t ts ih =>
    rw [List.length_cons] at hlength
    have hrole : t.role = .closing := Token.role_eq_closing_iff.2 (hts t List.mem_cons_self)
    have htake : (behind d).take limit t = .ok (behind (d - 1)) := by
      have hd : d ≠ 0 := by omega
      simp only [behind, if_neg hd, take, hrole]
    rw [List.foldlM_cons, htake, List.length_cons, Nat.add_comm, ← Nat.sub_sub]
    exact ih (fun u hu => hts u (List.mem_cons_of_mem _ hu)) (by omega)

/-- A pass that has come to the end of a source goes on with the closing parentheses behind it. -/
theorem pass_append_closing (h : tokens.foldlM (take limit) stage = .ok (reading d)) (hd : 0 < d)
    (hts : ∀ t ∈ ts, t.is Vocabulary.closing = true) (hlength : ts.length ≤ d) :
    stage.pass limit stop (tokens ++ ts) = (behind (d - ts.length)).finish stop := by
  have hbehind : behind d = reading d := if_neg (by omega)
  have hfold : (tokens ++ ts).foldlM (take limit) stage = .ok (behind (d - ts.length)) := by
    rw [List.foldlM_append, h]
    change ts.foldlM (take limit) (reading d) = _
    rw [← hbehind]
    exact foldlM_take_closing hts hlength
  rw [pass, hfold]
  rfl

/-! ### The words of the error -/

/-- What the words of an error of a source that ends inside a list begin with, behind the words that
all such errors share. -/
theorem words_of_misplaced {expected : String} {found : Option Token}
    (h : misplaced expected found stop = unterminated p) :
    ∃ front behind : List Char, expected.toList ++
      (" expected but found ".toList ++ (((found.map Token.render).getD "end of input").toList ++
        front)) = ')' :: (" expected but found ".toList ++ ("end of input".toList ++ behind)) := by
  have htext := congrArg String.toList (Error.malformed.inj h).1
  simp only [String.toList_append, List.append_assoc, List.append_cancel_left_eq] at htext
  exact ⟨_, _, htext⟩

/-- A token without a place in list notation is called so. -/
theorem exists_render_of_unexpected (h : t.is Vocabulary.unexpected = true) :
    ∃ behind, t.render.toList = 'u' :: behind := by
  have hchar : t.kind.toRule.isChar = false := by
    rw [Rule.isChar, Rule.char?_eq_of_same h]
    rfl
  have hpattern : t.kind.toRule.isPattern = true := by
    rw [Rule.isPattern, Rule.source?_eq_of_same h]
    rfl
  have hrule : t.kind.toRule.render = "unexpected" := by
    rw [Rule.render, Rule.label_eq_of_same h, hpattern]
    decide
  have hrender : t.render = "unexpected" ++ " " ++ String.ofList t.text := by
    change Lexeme.render ⟨t.kind.toRule, t.text, t.position⟩ = _
    simp [Lexeme.render, hchar, hpattern, hrule]
  exact ⟨_, by rw [hrender, String.toList_append, String.toList_append]; rfl⟩

/-- What is expected where some lists are open is a closing parenthesis if there are any. -/
theorem pos_of_misplaced {found : Option Token}
    (h : misplaced (expected d) found stop = unterminated p) : 0 < d := by
  refine Nat.pos_of_ne_zero ?_
  rintro rfl
  obtain ⟨front, behind, hwords⟩ := words_of_misplaced h
  cases hwords

/-- **No token brings about the error of a source that ends inside a list**, if readings do not
speak of places. -/
theorem take_ne_unterminated (hvalue : ∀ e, t.value = .error e → e.position? = none) :
    stage.take limit t ≠ .error (unterminated p) := by
  intro h
  cases stage with
  | complete =>
    obtain ⟨front, behind, hwords⟩ := words_of_misplaced (Except.error.inj h)
    cases hwords
  | reading d =>
    simp only [take] at h
    cases hrole : t.role with
    | opening =>
      simp only [hrole] at h
      split at h <;> cases h
    | atom =>
      simp only [hrole] at h
      cases hresult : t.value with
      | ok v =>
        rw [hresult] at h
        cases h
      | error e =>
        rw [hresult] at h
        obtain rfl := Except.error.inj h
        cases hvalue _ hresult
    | closing =>
      simp only [hrole] at h
      split at h
      · rename_i hd
        exact absurd hd (Nat.pos_iff_ne_zero.1 (pos_of_misplaced (Except.error.inj h)))
      · cases h
    | stray =>
      simp only [hrole] at h
      have hd := pos_of_misplaced (Except.error.inj h)
      obtain ⟨words, hrender⟩ :=
        exists_render_of_unexpected (Token.role_eq_stray_iff.1 hrole)
      obtain ⟨front, behind, hwords⟩ := words_of_misplaced (Except.error.inj h)
      have hexpected : (expected d).toList = [')'] := by
        rw [expected, if_neg (by omega)]
        rfl
      simp only [hexpected, Option.map_some, Option.getD_some, hrender, List.cons_append,
        List.nil_append, List.cons.injEq, true_and, List.append_cancel_left_eq] at hwords
      cases hwords

/-- **A pass that misses a closing parenthesis at the end** has taken in all tokens, and some lists
are open. -/
theorem exists_reading_of_diagnose
    (hvalue : ∀ t ∈ tokens, ∀ e, t.value = .error e → e.position? = none)
    (h : diagnose limit tokens stop = .error (unterminated p)) :
    ∃ d, tokens.foldlM (take limit) (reading 0) = .ok (reading d) ∧ 0 < d ∧ p = stop := by
  obtain ⟨before, rest, stage, rfl, hbefore, hoffends⟩ := pass_eq_error_iff.1 h
  cases rest with
  | cons t rest => exact absurd hoffends (take_ne_unterminated (hvalue t (by simp)))
  | nil =>
    cases stage with
    | complete => cases hoffends
    | reading d =>
      have herror := Except.error.inj hoffends
      rw [List.append_nil]
      exact ⟨d, hbefore, pos_of_misplaced herror, (Error.malformed.inj herror).2.symm⟩

end Stage

namespace Parser

open Vocabulary

variable {limit : Option Nat} {source tail : List Char} {tokens : List Token} {q stop : Position}
  {d : Nat}

/-- The values of tokens that are read speak of no place. -/
theorem position?_of_value (hreads : (Lexer.ofAtoms plainAtoms).Reads source .start tokens q) :
    ∀ t ∈ tokens, ∀ e, t.value = .error e → e.position? = none := by
  have hplaceless : (Vocabulary.parens plainAtoms).Placeless := .parens placeless_plainAtoms
  intro t ht e he
  obtain ⟨c, cs, m, hm, hkind, -, -⟩ := hreads.exists_firstOf ht
  exact hplaceless t.kind (hkind ▸ Lexer.kind_mem_of_firstOf hm) t.lexeme e he

/-- **With closing parentheses behind it**, but not too many, a source whose tokens leave `d` lists
open is parsed as the pass over them says that goes on with these parentheses. -/
theorem map_parse_append_closing (hreads : (Lexer.ofAtoms plainAtoms).Reads source .start tokens q)
    (hend : (Lexer.ofAtoms plainAtoms).peek source q = (.ok none, stop))
    (hfold : tokens.foldlM (Stage.take limit) (.reading 0) = .ok (.reading d)) (hd : 0 < d)
    (htail : ∀ c ∈ tail, c = ')') (hlength : tail.length ≤ d) :
    ((trees Value plainAtoms limit).parse (source ++ tail)).map (fun _ => ()) =
      ((Stage.behind (d - tail.length)).finish (stop.advance tail)).mapError Halt.failed := by
  obtain ⟨ts, q', hreads', hend', hts, hclosing⟩ :=
    Lexer.exists_reads_append_closing htail hreads hend (Stage.not_unexpected_of_foldlM hfold)
  rw [← hts] at hlength ⊢
  rw [← Stage.pass_append_closing hfold hd hclosing hlength]
  exact map_parseUsing_eq_diagnose plain_total hreads' hend'

/-- **A source that ends inside a list can be completed.** If the parse of a source misses a closing
parenthesis at its end, then its scan lists some tokens. So many more of them open a list than close
one, namely `d`, and there is such a list. With `d` closing parentheses behind it, the source is
parsed. With fewer, the parse misses a closing parenthesis at the end again. -/
theorem parse_completed (limit : Option Nat) (source : List Char) (stop : Position)
    (h : (trees Value plainAtoms limit).parse source = .error (.failed (unterminated stop))) :
    ∃ tokens s d, (Lexer.firstMatch (.parens plainAtoms)).scan source .start = (.ok tokens, s) ∧
      tokens.countP (·.is opening) = tokens.countP (·.is closing) + d ∧ 1 ≤ d ∧
      (∃ t, (trees Value plainAtoms limit).parse (source ++ List.replicate d ')') = .ok t) ∧
      ∀ k < d, (trees Value plainAtoms limit).parse (source ++ List.replicate k ')') =
        .error (.failed (unterminated (stop.advance (List.replicate k ')')))) := by
  obtain ⟨tokens, s, hscan⟩ := Lexer.exists_scan_ofAtoms anchored_plainAtoms source
  obtain ⟨q, hreads, hend⟩ := Lexer.exists_reads_of_scan hscan
  obtain ⟨d, hfold, hd, rfl⟩ := Stage.exists_reading_of_diagnose (position?_of_value hreads)
    ((parse_eq_error_iff limit hreads hend _).1 h)
  have hbehind (k : Nat) (hk : k ≤ d) :
      ((trees Value plainAtoms limit).parse (source ++ List.replicate k ')')).map (fun _ => ()) =
        ((Stage.behind (d - k)).finish (s.position.advance (List.replicate k ')'))).mapError
          Halt.failed := by
    have hlength : (List.replicate k ')').length = k := List.length_replicate
    have hparse := map_parse_append_closing hreads hend hfold hd
      (fun c hc => List.eq_of_mem_replicate hc) (by rwa [hlength])
    rwa [hlength] at hparse
  refine ⟨tokens, s, d, hscan, (Stage.enclosedIn_iff_of_foldlM hfold).2 rfl, hd, ?_, fun k hk => ?_⟩
  · refine (exists_eq_ok_iff_of_map_eq (hbehind d (Nat.le_refl d))).2 ?_
    rw [Nat.sub_self]
    rfl
  · refine (eq_error_iff_of_map_eq (hbehind k (Nat.le_of_lt hk)) _).2 ?_
    have hopen : d - k ≠ 0 := by omega
    rw [Stage.behind, if_neg hopen, Stage.finish, Stage.expected, if_neg hopen, unterminated]

/-- In `((7 ` two lists are open, and two closing parentheses complete it. -/
theorem parse_completed_two :
    (trees Value plainAtoms none).parse ['(', '(', '7', ' '] =
        .error (.failed (unterminated ⟨4, 1, 5⟩)) ∧
      ∃ t, (trees Value plainAtoms none).parse ['(', '(', '7', ' ', ')', ')'] = .ok t := by
  have hreads : (Lexer.ofAtoms plainAtoms).Reads ['(', '(', '7', ' '] .start
      [⟨opening, ['('], ⟨0, 1, 1⟩⟩, ⟨opening, ['('], ⟨1, 1, 2⟩⟩, ⟨number, ['7'], ⟨2, 1, 3⟩⟩]
      ⟨3, 1, 4⟩ := by
    refine .cons_of_firstOf (.start _) rfl rfl fun h => ?_
    refine .cons_of_firstOf h rfl rfl fun h => ?_
    refine .cons_of_firstOf h rfl rfl fun h => ?_
    exact .nil _
  have hahead : Ahead ['(', '(', '7', ' '] ⟨3, 1, 4⟩ [' '] := rfl
  have hend : (Lexer.ofAtoms plainAtoms).peek ['(', '(', '7', ' '] ⟨3, 1, 4⟩ =
      (.ok none, ⟨4, 1, 5⟩) :=
    (Lexer.peek_of_insignificant (m := ⟨space, [' '], List.cons_ne_nil _ _⟩) hahead
      (List.cons_ne_nil _ _) rfl rfl).trans (Lexer.peek_of_end rfl)
  have hparse : (trees Value plainAtoms none).parse ['(', '(', '7', ' '] =
      .error (.failed (unterminated ⟨4, 1, 5⟩)) :=
    (parse_eq_error_iff none hreads hend _).2 rfl
  obtain ⟨tokens, s, d, hscan, hcount, -, hcompleted, -⟩ := parse_completed none _ _ hparse
  obtain ⟨s', hscan', -⟩ := Lexer.exists_scan_of_reads (s := .start) hreads hend (by decide)
  obtain rfl := Except.ok.inj (Prod.mk.inj (hscan.symm.trans hscan')).1
  have hopen : 2 = 0 + d := hcount
  obtain rfl : 2 = d := hopen.trans (Nat.zero_add d)
  exact ⟨hparse, hcompleted⟩

end Parser

end Parens
