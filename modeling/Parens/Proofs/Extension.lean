import Parens.Proofs.Exhaustion
import Parens.Proofs.Translation

/-!
# More Kinds of Atoms

Further kinds of atoms behind the others are tried where no other kind matched, in front of the
kind that takes what is left. So they change what a lexer finds only where it found something
unexpected (`firstOf_parens_append`). A parse that does not come across such a token goes the same
way with the further kinds, whatever they match. This is the relation between two runs in different
places, for two runs in the same place.

A parse that succeeds does not come across anything unexpected (`Looks.not_unexpected`). A parse
that fails may have, and then the further kinds can make a difference.

## Main results

* `Lexer.alike_append_atoms`: a lexer with further kinds of atoms answers alike, unless something
  unexpected is found.
* `parseWith_append`: **further kinds of atoms change nothing** in such a parse.
-/

namespace Parens

open Vocabulary

namespace Lexer

variable {atoms : Vocabulary} {source : List Char}

/-- A vocabulary is tried in front of what stands behind it. -/
theorem firstOf_append (v w : Vocabulary) (rest : List Char) :
    firstOf (v ++ w) rest = (firstOf v rest).or (firstOf w rest) :=
  List.findSome?_append

/-- **Further kinds of atoms take nothing from the other kinds.** They are tried only where nothing
but the kind of what is left would match. -/
theorem firstOf_parens_append (more : Vocabulary) {rest : List Char} {m : Match}
    (h : firstOf (.parens atoms) rest = some m) (hm : m.kind ≠ unexpected) :
    firstOf (.parens (atoms ++ more)) rest = some m := by
  have hparens : Vocabulary.parens atoms =
      (space :: opening :: closing :: atoms) ++ [unexpected] := rfl
  have hparens' : Vocabulary.parens (atoms ++ more) =
      (space :: opening :: closing :: atoms) ++ (more ++ [unexpected]) := by
    simp [Vocabulary.parens]
  rw [hparens, firstOf_append, Option.or_eq_some_iff] at h
  rw [hparens', firstOf_append, Option.or_eq_some_iff]
  obtain hfirst | ⟨-, hlast⟩ := h
  · exact .inl hfirst
  · exact absurd (List.mem_singleton.1 (kind_mem_of_firstOf hlast)) hm

/-- Inside the source, a lexer for list notation recognises nothing only inside a character. -/
theorem dropBytes?_of_matchNext_eq_none {offset : Nat} (hinside : offset < Text.byteSize source)
    (h : (ofAtoms atoms).matchNext source none offset = .ok none) :
    Text.dropBytes? offset source = none := by
  cases hdrop : Text.dropBytes? offset source with
  | none => rfl
  | some rest =>
    cases rest with
    | nil =>
      obtain ⟨front, rfl, rfl⟩ := Text.dropBytes?_eq_some_iff.1 hdrop
      simp at hinside
    | cons c cs => exact absurd h (total_ofAtoms atoms source offset c cs hdrop)

/-- Where a lexer recognises nothing, or nothing unexpected, it recognises the same with further
kinds of atoms. -/
theorem matchNext_append_atoms (more : Vocabulary) {offset : Nat} {found : Option Match}
    (hinside : offset < Text.byteSize source)
    (h : (ofAtoms atoms).matchNext source none offset = .ok found)
    (hfound : ∀ m, found = some m → m.kind.significant = true →
      ¬ m.kind.same unexpected = true) :
    (ofAtoms (atoms ++ more)).matchNext source none offset = .ok found := by
  cases found with
  | none =>
    have hdrop := dropBytes?_of_matchNext_eq_none hinside h
    simp only [matchNext, ofAtoms, firstMatch, hdrop]
    rfl
  | some m =>
    obtain ⟨rest, hdrop, hfirst⟩ := exists_firstOf_of_matchNext h
    have hkind : m.kind ≠ unexpected := by
      intro hkind
      have hsame := hfound m rfl (by rw [hkind]; rfl)
      rw [hkind] at hsame
      exact hsame (by decide)
    simp only [matchNext, ofAtoms, firstMatch, hdrop]
    exact congrArg Except.ok (firstOf_parens_append more hfirst hkind)

/-- **A lexer answers alike with further kinds of atoms**, unless it finds something unexpected. -/
theorem alike_append_atoms (more : Vocabulary) {s s' : Session} (h : s.ShiftsTo .start s')
    (hfound : ∀ t s₁, (ofAtoms atoms).next source none true s = (.ok (some t), s₁) →
      ¬ t.is unexpected = true) :
    Alike .start (ofAtoms atoms) (ofAtoms (atoms ++ more)) source source s s' := by
  refine alike_of_matchNext (fun k => ¬ k.same unexpected = true)
    (fun t _ => by rw [Token.shift_start]) ?_ ?_ h hfound
  · intro s s' h
    rw [h.eq_of_start.1]
  · intro s s' found h hlt hm hasked
    rw [h.eq_of_start.1]
    exact matchNext_append_atoms more hlt hm hasked

end Lexer

namespace Vocabulary

/-- A run of anything but blanks, as a kind of atoms. It takes parentheses too. -/
def word : Kind :=
  ⟨⟨"word", .standard "\\S+".toList (.span (.compl .blank)) (by decide), none⟩,
    some Reading.verbatim⟩

end Vocabulary

namespace Parser

variable {E : Type} {p : Parser E} {reduction : Reduction E} {l : Lexer} {source : List Char}

/-- **A parse that succeeds finds nothing unexpected**, wherever it looks for a token. -/
theorem Looks.not_unexpected {st st' : State E} {s s₁ : Session} {t : Token} {root : E}
    (hlooks : p.Looks reduction l source st s)
    (hok : conclude l source (p.run reduction l source st) = (.ok root, st'))
    (hnext : l.next source none true s = (.ok (some t), s₁)) : ¬ t.is unexpected = true := by
  intro ht
  induction hlooks with
  | now st =>
    rw [run_eq_proceed, step_eq_enact reduction hnext, verdict_of_unexpected ht] at hok
    cases (Prod.mk.inj hok).1
  | later hstep _ ih =>
    rw [run_eq_proceed, hstep] at hok
    exact ih hok hnext
  | behind hstep =>
    rw [run_eq_proceed, hstep] at hok
    change finish l source _ _ = _ at hok
    rw [finish_eq_error _ hnext] at hok
    cases (Prod.mk.inj hok).1

/-- A whole parse of a source peeks at a token: it looks for a token and finds this one. -/
def Peeks (p : Parser E) (reduction : Reduction E) (source : List Char) (t : Token) : Prop :=
  ∃ s s₁, p.Looks reduction p.lexer source (begin p.lexer source .start) s ∧
    p.lexer.next source none true s = (.ok (some t), s₁)

/-- **Further kinds of atoms behind the others change nothing** in a parse that succeeds, nor in
one that fails without having peeked at anything unexpected. With any reduction and in any context,
the parse comes to the same result, which may be the same error with the same message about the
same place. It ends in the same place, moved past the same tokens and made the same calls. -/
theorem parseWith_append {C : Type} (atoms more : Vocabulary) (build : Content E → Except Error E)
    (limit : Option Nat) (reduce : C → Reduction E) (context : C) (source : List Char)
    (h : (∃ root, ((Parser.mk atoms build limit).parseWith (reduce context) source).1 = .ok root) ∨
      ∀ t, (Parser.mk atoms build limit).Peeks (reduce context) source t →
        ¬ t.is unexpected = true) :
    let outcome := (Parser.mk atoms build limit).parseWith (reduce context) source
    let outcome' := (Parser.mk (atoms ++ more) build limit).parseWith (reduce context) source
    outcome'.1 = outcome.1 ∧
      outcome'.2.session.position = outcome.2.session.position ∧
      outcome'.2.session.trail = outcome.2.session.trail ∧
      outcome'.2.calls = outcome.2.calls := by
  intro outcome outcome'
  have hpeeks : ∀ t, (Parser.mk atoms build limit).Peeks (reduce context) source t →
      ¬ t.is unexpected = true := by
    obtain ⟨root, hok⟩ | hnone := h
    · rintro t ⟨s, s₁, hlooks, hnext⟩
      exact hlooks.not_unexpected (Prod.ext hok rfl) hnext
    · exact hnone
  have hbegin : State.ShiftsTo .start (begin (.ofAtoms atoms) source .start : State E)
      (begin (.ofAtoms (atoms ++ more)) source .start) := by
    have hstart : Session.start.ShiftsTo .start .start := ⟨Nat.one_pos, rfl, rfl⟩
    exact .mk [] #[] (hstart.note rfl rfl)
  have hboth : (Progress.ended outcome).ShiftsTo .start (parens atoms) (reduce context)
      (.ended outcome') :=
    conclude_shiftsTo ⟨atoms, build, limit⟩ ⟨atoms ++ more, build, limit⟩ rfl hbegin
      fun s s' hlooks h =>
        Lexer.alike_append_atoms more h fun t s₁ hnext => hpeeks t ⟨s, s₁, hlooks, hnext⟩
  obtain ⟨hs, hcalls, hresult⟩ := hboth.ended_inv
  obtain ⟨hposition, htrail⟩ := hs.eq_of_start
  refine ⟨?_, hposition, htrail, hcalls⟩
  obtain ⟨root, hroot, hroot'⟩ | ⟨e, e', he, he', hshift⟩ := hresult
  · rw [hroot, hroot']
  · rw [he, he', hshift.eq_of_start]

/-- In `( 7 (8) )`, a word from the `8` on would be longer than the number there. Words added to
the kinds of atoms leave the lists and the numbers as they are. -/
theorem parseWith_append_word :
    word.front ['8', ')', ' ', ')'] = ['8', ')'] ∧
      (∃ root, ((trees Value [number] none).parseWith (.plain Tree.create)
        ['(', ' ', '7', ' ', '(', '8', ')', ' ', ')']).1 = .ok root) ∧
      ((trees Value [number, word] none).parseWith (.plain Tree.create)
        ['(', ' ', '7', ' ', '(', '8', ')', ' ', ')']).1 =
          .ok (.list [.atom (some (.int 7)), .list [.atom (some (.int 8))]]) := by
  have hreads : (Lexer.ofAtoms [number]).Reads
      ['(', ' ', '7', ' ', '(', '8', ')', ' ', ')'] .start
      (TokenTree.flatten (.node ⟨opening, ['('], ⟨0, 1, 1⟩⟩
        [.leaf ⟨number, ['7'], ⟨2, 1, 3⟩⟩ (by decide),
          .node ⟨opening, ['('], ⟨4, 1, 5⟩⟩ [.leaf ⟨number, ['8'], ⟨5, 1, 6⟩⟩ (by decide)]
            ⟨closing, [')'], ⟨6, 1, 7⟩⟩ rfl rfl]
        ⟨closing, [')'], ⟨8, 1, 9⟩⟩ rfl rfl)) ⟨9, 1, 10⟩ := by
    refine .cons_of_firstOf (.start _) rfl rfl fun h => ?_
    refine .behind_space h rfl (List.cons_ne_nil _ _) fun h => ?_
    refine .cons_of_firstOf h rfl rfl fun h => ?_
    refine .behind_space h rfl (List.cons_ne_nil _ _) fun h => ?_
    refine .cons_of_firstOf h rfl rfl fun h => ?_
    refine .cons_of_firstOf h rfl rfl fun h => ?_
    refine .cons_of_firstOf h rfl rfl fun h => ?_
    refine .behind_space h rfl (List.cons_ne_nil _ _) fun h => ?_
    refine .cons_of_firstOf h rfl rfl fun h => ?_
    exact .nil _
  obtain ⟨st, hparse, -⟩ := exists_parseUsing_eq_ok (trees Value [number] none)
    (.plain Tree.create) (s := .start) rfl hreads (Lexer.peek_of_end rfl)
    (fun n hn => by cases hn) rfl
  have hok := congrArg Prod.fst hparse
  obtain ⟨hresult, -⟩ := parseWith_append [number] [word] Tree.create none
    (fun _ : Unit => .plain Tree.create) () ['(', ' ', '7', ' ', '(', '8', ')', ' ', ')']
    (.inl ⟨_, hok⟩)
  exact ⟨Lexer.front_span _ _, ⟨_, hok⟩, hresult.trans hok⟩

end Parser

end Parens
