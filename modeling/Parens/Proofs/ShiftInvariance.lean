import Parens.Proofs.Exhaustion
import Parens.Proofs.Translation

/-!
# Text in Front Does Not Matter

A rule sees what lies ahead of the offset where it is asked, and nothing in front of it
(`Rule.matchAt_append`). So a lexer that begins behind some text finds what it would find if the
text were not there, each token in its shifted place, and a parse goes the same way.

This is said of kinds of atoms whose readings do not look at the place of a token
(`Kind.IgnoresPlace`). A reduction is not told places in the first place.

## Main results

* `Lexer.alike_append`: a lexer that tries a vocabulary in order answers alike behind some text.
* `parseUsing_shift`: **a parse behind some text is the parse without it, shifted**.
-/

namespace Parens

open Vocabulary

/-- The value of a token of the kind does not depend on the place of the token. -/
def Kind.IgnoresPlace (k : Kind) : Prop :=
  ∀ text place place', Token.value ⟨k, text, place⟩ = Token.value ⟨k, text, place'⟩

/-- **A rule sees nothing in front of the offset** where it is asked. -/
theorem Rule.matchAt_append (r : Rule) (front source : List Char) (offset : Nat) :
    r.matchAt (front ++ source) (Text.byteSize front + offset) = r.matchAt source offset := by
  rw [matchAt, matchAt, Text.dropBytes?_append]

/-- The kinds of list notation ignore places if the kinds of atoms do. -/
theorem Vocabulary.ignoresPlace_parens {atoms : Vocabulary} (h : ∀ k ∈ atoms, k.IgnoresPlace) :
    ∀ k ∈ parens atoms, k.IgnoresPlace := by
  intro k hk
  simp only [parens, List.mem_cons, List.mem_append, List.not_mem_nil, or_false] at hk
  obtain rfl | rfl | rfl | hk | rfl := hk
  · exact fun _ _ _ => rfl
  · exact fun _ _ _ => rfl
  · exact fun _ _ _ => rfl
  · exact h k hk
  · exact fun _ _ _ => rfl

namespace Lexer

variable {v : Vocabulary} {source : List Char}

/-- A lexer recognises the same behind some text. -/
theorem matchNext_append (front : List Char) (offset : Nat) :
    (firstMatch v).matchNext (front ++ source) none (Text.byteSize front + offset) =
      (firstMatch v).matchNext source none offset := by
  simp only [matchNext, firstMatch, Text.dropBytes?_append]

/-- **A lexer answers alike behind some text**, if the values of its tokens do not depend on
places. -/
theorem alike_append {front : List Char} {s s' : Session} (hplace : ∀ k ∈ v, k.IgnoresPlace)
    (h : s.ShiftsTo (Position.start.advance front) s') :
    Alike (Position.start.advance front) (firstMatch v) (firstMatch v) source
      (front ++ source) s s' := by
  have hoffset {s s' : Session} (h : s.ShiftsTo (Position.start.advance front) s') :
      s'.position.offset = Text.byteSize front + s.position.offset := by
    simp [h.position_eq, Position.shift, Position.start]
  refine alike_of_matchNext (fun _ => True) (fun t ht => hplace t.kind ht t.text _ _) ?_ ?_ h
    fun _ _ _ => trivial
  · intro s s' h
    rw [hoffset h, Text.byteSize_append]
    omega
  · intro s s' found h hlt hm _
    rw [hoffset h, matchNext_append, hm]

end Lexer

namespace Parser

variable {E : Type}

/-- **Text in front of the beginning does not matter.** Let the readings of the atoms ignore places.
A parse that begins behind some text goes like the parse of what follows that text by itself: it
moves past the same tokens, calls the reduction in the same way and ends with the same root, or
with the same error about the same token, or with the same error of a reading or of the reduction.
All places are shifted: the place where it ends, those of the tokens, and those that an error about
the source names. No rule ever sees the text in front. -/
theorem parseUsing_shift {atoms : Vocabulary} (hplace : ∀ k ∈ atoms, k.IgnoresPlace)
    (p : Parser E) (reduction : Reduction E) (front source : List Char) :
    let base := Position.start.advance front
    let outcome := p.parseUsing reduction (.ofAtoms atoms) source .start
    let outcome' := p.parseUsing reduction (.ofAtoms atoms) (front ++ source) ⟨base, #[]⟩
    outcome'.2.session.position = base.shift outcome.2.session.position ∧
      outcome'.2.session.trail = Session.shiftTrail base outcome.2.session.trail ∧
      outcome'.2.calls = outcome.2.calls ∧
      ((∃ root, outcome.1 = .ok root ∧ outcome'.1 = .ok root) ∨
        ∃ e e', outcome.1 = .error (.failed e) ∧ outcome'.1 = .error (.failed e') ∧
          e.ShiftsTo base (outcome.2.Raised (parens atoms) reduction) e') ∧
      ∀ (k : Kind) (offset : Nat),
        k.matchAt (front ++ source) (base.offset + offset) = k.matchAt source offset := by
  intro base outcome outcome'
  have hstart : Session.start.ShiftsTo base ⟨base, #[]⟩ :=
    ⟨Nat.one_pos, (Position.shift_eq_self front).symm, rfl⟩
  have hbegin : State.ShiftsTo base (begin (.ofAtoms atoms) source .start : State E)
      (begin (.ofAtoms atoms) (front ++ source) ⟨base, #[]⟩) :=
    .mk [] #[] (hstart.note rfl rfl)
  have hboth : (Progress.ended outcome).ShiftsTo base (parens atoms) reduction (.ended outcome') :=
    conclude_shiftsTo p p rfl hbegin fun s s' _ h =>
      Lexer.alike_append (ignoresPlace_parens hplace) h
  obtain ⟨hs, hcalls, hresult⟩ := hboth.ended_inv
  have hbase : base.offset = Text.byteSize front := by simp [base, Position.start]
  refine ⟨hs.position_eq, hs.trail_eq, hcalls, hresult, fun k offset => ?_⟩
  rw [hbase, Rule.matchAt_append]

open Vocabulary in
/-- The list `(7)` on the second line, behind a space, is the list that it is by itself. It ends on
the second line. -/
theorem parseUsing_shift_list :
    ∃ st : State (Tree Value),
      (∀ k ∈ [number], k.IgnoresPlace) ∧
      (trees Value [number] none).parseUsing (.plain Tree.create) (.ofAtoms [number])
        (['a', '\n', ' '] ++ ['(', '7', ')']) ⟨Position.start.advance ['a', '\n', ' '], #[]⟩ =
          (.ok (.list [.atom (some (.int 7))]), st) ∧
      st.session.position = ⟨6, 2, 5⟩ := by
  have hplace : ∀ k ∈ [number], k.IgnoresPlace := by
    intro k hk
    obtain rfl := List.mem_singleton.1 hk
    exact fun _ _ _ => rfl
  have hreads : (Lexer.ofAtoms [number]).Reads ['(', '7', ')'] .start
      (TokenTree.flatten (.node ⟨opening, ['('], ⟨0, 1, 1⟩⟩
        [.leaf ⟨number, ['7'], ⟨1, 1, 2⟩⟩ (by decide)] ⟨closing, [')'], ⟨2, 1, 3⟩⟩ rfl rfl))
      ⟨3, 1, 4⟩ := by
    refine .cons_of_firstOf (.start _) rfl rfl fun h => ?_
    refine .cons_of_firstOf h rfl rfl fun h => ?_
    refine .cons_of_firstOf h rfl rfl fun h => ?_
    exact .nil _
  obtain ⟨st, hparse, hstop⟩ := exists_parseUsing_eq_ok (trees Value [number] none)
    (.plain Tree.create) (s := .start) rfl hreads (Lexer.peek_of_end rfl)
    (fun n hn => by cases hn) rfl
  obtain ⟨hposition, -, -, hresult, -⟩ := parseUsing_shift hplace (trees Value [number] none)
    (.plain Tree.create) ['a', '\n', ' '] ['(', '7', ')']
  rw [hparse] at hposition hresult
  obtain ⟨root, hroot, hroot'⟩ | ⟨e, e', he, -, -⟩ := hresult
  · obtain rfl := Except.ok.inj hroot
    exact ⟨_, hplace, Prod.ext hroot' rfl, by rw [hposition, hstop]; rfl⟩
  · cases he

end Parser

end Parens
