import Mathlib.Data.List.Induction
import Parens.Proofs.RoundTrip

/-!
# The Limit on the Nesting

A limit on the nesting does one thing to a parse: the first list that stands in as many open lists
as the limit allows ends it. Which list that is can be told from the tokens alone, by counting the
parentheses in front of it (`EnclosedIn`, `OpensAt`). The pass over the tokens with the limit and
the pass without it go together up to that token, since the limit is looked at nowhere else.

A tree that was parsed without a limit is as deep as its token tree, so a list that stands too deep
exists exactly if the tree exceeds the limit.

## Main results

* `Stage.enclosedIn_iff_of_foldlM`: the stage of a pass counts the lists that are open.
* `Stage.foldlM_take_limited`, `Stage.pass_eq_tooDeep`: **a limited pass goes as far as the first
  list that stands too deep**.
* `parse_limited_by_depth`: a limited parse comes to what the unlimited one comes to, or to that
  list.
-/

namespace Parens

/-- The next token behind some others is enclosed in a number of lists: so many more of the tokens
open a list than close one. -/
def EnclosedIn (lists : Nat) (before : List Token) : Prop :=
  before.countP (·.is Vocabulary.opening) = before.countP (·.is Vocabulary.closing) + lists

/-- The first of some tokens that opens a list, and that is enclosed in exactly so many lists,
stands at a place. -/
def OpensAt (lists : Nat) (tokens : List Token) (place : Position) : Prop :=
  ∃ before t rest, tokens = before ++ t :: rest ∧ t.is Vocabulary.opening = true ∧
    EnclosedIn lists before ∧ t.position = place ∧
    ∀ before' t' rest', before = before' ++ t' :: rest' → t'.is Vocabulary.opening = true →
      ¬ EnclosedIn lists before'

/-- Where some token opens a list in so many lists, there is a first one. Induction on how many
tokens stand in front of it. -/
theorem exists_opensAt {lists : Nat} {tokens before rest : List Token} {t : Token}
    (happ : tokens = before ++ t :: rest) (ht : t.is Vocabulary.opening = true)
    (hlists : EnclosedIn lists before) : ∃ place, OpensAt lists tokens place := by
  generalize hn : before.length = n
  induction n using Nat.strongRecOn generalizing before t rest with
  | ind n ih =>
    by_cases hearlier : ∃ before' t' rest', before = before' ++ t' :: rest' ∧
        t'.is Vocabulary.opening = true ∧ EnclosedIn lists before'
    · obtain ⟨before', t', rest', rfl, ht', hlists'⟩ := hearlier
      rw [List.length_append, List.length_cons] at hn
      exact ih before'.length (by omega) (by simpa using happ) ht' hlists' rfl
    · refine ⟨t.position, before, t, rest, happ, ht, hlists, rfl, ?_⟩
      intro before' t' rest' happ' ht' hlists'
      exact hearlier ⟨before', t', rest', happ', ht', hlists'⟩

/-- Where no token opens a list in so many lists, none does so further in front either. -/
theorem OpensAt.append {lists : Nat} {tokens : List Token} {place : Position}
    (h : OpensAt lists tokens place) (rest : List Token) :
    OpensAt lists (tokens ++ rest) place := by
  obtain ⟨before, t, behind, rfl, h⟩ := h
  exact ⟨before, t, behind ++ rest, by simp, h⟩

namespace Stage

variable {limit : Option Nat} {n : Nat} {stage stage' : Stage} {t : Token}
  {before rest tokens : List Token} {stop : Position}

/-! ### Counting open lists -/

/-- How many lists are open. -/
def lists : Stage → Nat
  | reading n => n
  | complete => 0

@[simp]
theorem lists_reading (n : Nat) : (reading n).lists = n := rfl

@[simp]
theorem lists_behind (n : Nat) : (behind n).lists = n := by
  unfold behind
  split
  · rename_i h0
    exact h0.symm
  · rfl

/-- Nothing is taken in behind a complete expression. -/
theorem exists_reading_of_take (h : stage.take limit t = .ok stage') :
    ∃ n, stage = reading n := by
  cases stage with
  | complete => cases h
  | reading n => exact ⟨n, rfl⟩

/-- **A token that is taken in** opens a list, closes one, or does neither. -/
theorem lists_of_take (h : stage.take limit t = .ok stage') :
    stage.lists + [t].countP (·.is Vocabulary.opening) =
      [t].countP (·.is Vocabulary.closing) + stage'.lists := by
  obtain ⟨n, rfl⟩ := exists_reading_of_take h
  simp only [take] at h
  have hopening := Token.role_eq_opening_iff (t := t)
  have hclosing := Token.role_eq_closing_iff (t := t)
  cases hrole : t.role with
  | opening =>
    simp only [hrole] at h hopening hclosing
    split at h
    · cases h
    · obtain rfl := Except.ok.inj h
      simp_all
  | atom =>
    simp only [hrole] at h hopening hclosing
    obtain ⟨v, -, hstage⟩ := TokenTree.exists_of_bind_eq_ok h
    obtain rfl := Except.ok.inj hstage
    simp_all
  | closing =>
    simp only [hrole] at h hopening hclosing
    split at h
    · cases h
    · obtain rfl := Except.ok.inj h
      simp_all
      omega
  | stray =>
    simp only [hrole] at h
    cases h

/-- **The stage of a pass counts the lists that are open**, together with those that were open
before. -/
theorem lists_of_foldlM (h : before.foldlM (take limit) stage = .ok stage') :
    stage.lists + before.countP (·.is Vocabulary.opening) =
      before.countP (·.is Vocabulary.closing) + stage'.lists := by
  induction before generalizing stage with
  | nil =>
    obtain rfl := Except.ok.inj h
    simp
  | cons t ts ih =>
    rw [List.foldlM_cons] at h
    obtain ⟨next, htake, hrest⟩ := TokenTree.exists_of_bind_eq_ok h
    have hfirst := lists_of_take htake
    have hothers := ih hrest
    rw [← List.singleton_append, List.countP_append, List.countP_append]
    omega

/-- From the beginning of a pass, its stage says in how many lists the next token is enclosed. -/
theorem enclosedIn_iff_of_foldlM (h : before.foldlM (take limit) (reading 0) = .ok stage) :
    EnclosedIn n before ↔ stage.lists = n := by
  have hlists := lists_of_foldlM h
  rw [lists_reading] at hlists
  constructor
  · intro henclosed
    rw [EnclosedIn] at henclosed
    omega
  · rintro rfl
    rw [EnclosedIn]
    omega

/-! ### With the limit and without -/

/-- **The limit is looked at where a list opens**, and only there. -/
theorem take_limited (n : Nat) (stage : Stage) (t : Token) :
    stage.take (some n) t = stage.take none t ∨
      stage = reading n ∧ t.is Vocabulary.opening = true ∧
        stage.take (some n) t = .error (.tooDeep n t.position) := by
  cases stage with
  | complete => exact .inl rfl
  | reading m =>
    cases hrole : t.role with
    | opening =>
      by_cases hm : n = m
      · subst hm
        exact .inr ⟨rfl, Token.role_eq_opening_iff.1 hrole, by simp [take, hrole]⟩
      · left
        simp [take, hrole, hm]
    | atom | closing | stray =>
      left
      simp [take, hrole]

/-- Where no list stands too deep, tokens that are taken in without a limit are taken in with it.
Induction on the tokens from the last one back: the stage in front of it is that of all others. -/
theorem foldlM_take_limited (h : before.foldlM (take none) (reading 0) = .ok stage)
    (hnone : ¬ ∃ place, OpensAt n before place) :
    before.foldlM (take (some n)) (reading 0) = .ok stage := by
  induction before using List.reverseRecOn generalizing stage with
  | nil => exact h
  | append_singleton before t ih =>
    rw [List.foldlM_append] at h ⊢
    obtain ⟨stage', hbefore, hlast⟩ := TokenTree.exists_of_bind_eq_ok h
    have hnone' : ¬ ∃ place, OpensAt n before place := by
      rintro ⟨place, hplace⟩
      exact hnone ⟨place, hplace.append [t]⟩
    rw [ih hbefore hnone']
    obtain hsame | ⟨rfl, hopens, -⟩ := take_limited n stage' t
    · change [t].foldlM (take (some n)) stage' = _
      rw [← hlast, List.foldlM_cons, List.foldlM_cons, hsame]
      rfl
    · exact absurd (exists_opensAt rfl hopens ((enclosedIn_iff_of_foldlM hbefore).2 rfl)) hnone

/-- **The first list that stands too deep ends a pass with the limit**, if the pass without it
comes so far. -/
theorem pass_eq_tooDeep {place : Position}
    (h : before.foldlM (take none) (reading 0) = .ok stage) (hplace : OpensAt n before place) :
    (reading 0).pass (some n) stop (before ++ rest) = .error (.tooDeep n place) := by
  obtain ⟨front, t, behind, rfl, hopens, henclosed, rfl, hfirst⟩ := hplace
  rw [List.foldlM_append] at h
  obtain ⟨stage', hfront, hbehind⟩ := TokenTree.exists_of_bind_eq_ok h
  rw [List.foldlM_cons] at hbehind
  obtain ⟨next, htake, -⟩ := TokenTree.exists_of_bind_eq_ok hbehind
  obtain ⟨m, rfl⟩ := exists_reading_of_take htake
  obtain rfl : m = n := (enclosedIn_iff_of_foldlM hfront).1 henclosed
  have hnone : ¬ ∃ place, OpensAt m front place := by
    rintro ⟨place, front', t', behind', rfl, hopens', henclosed', -⟩
    exact hfirst front' t' behind' rfl hopens' henclosed'
  rw [pass_eq_error_iff]
  refine ⟨front, t :: (behind ++ rest), reading m, by simp, foldlM_take_limited hfront hnone, ?_⟩
  have hrole := Token.role_eq_opening_iff.2 hopens
  simp [Offends, take, hrole]

/-- What offends without a limit offends with it in the same way. -/
theorem Offends.limited {found : Option Token} {e : Error} (h : stage.Offends none stop found e) :
    stage.Offends (some n) stop found e := by
  cases found with
  | none => exact h
  | some t =>
    obtain hsame | ⟨rfl, hopens, -⟩ := take_limited n stage t
    · exact hsame.trans h
    · have hrole := Token.role_eq_opening_iff.2 hopens
      simp [Offends, take, hrole] at h

end Stage

namespace Parser

variable {atoms : Vocabulary} {source : List Char} {tokens : List Token} {q stop : Position}

/-- A parse into trees of raw values fails with an error exactly if the pass over the tokens
does. -/
theorem parse_eq_error_iff (limit : Option Nat)
    (hreads : (Lexer.ofAtoms atoms).Reads source .start tokens q)
    (hend : (Lexer.ofAtoms atoms).peek source q = (.ok none, stop)) (e : Error) :
    (trees Value atoms limit).parse source = .error (.failed e) ↔
      diagnose limit tokens stop = .error e :=
  eq_error_iff_of_map_eq
    (map_parseUsing_eq_diagnose (p := trees Value atoms limit) (s := .start) plain_total hreads
      hend) e

/-- A parse into trees of raw values that fails has an error to report, which is that of the pass
over the tokens. -/
theorem exists_diagnose_eq_error {limit : Option Nat} {halt : Halt}
    (hreads : (Lexer.ofAtoms atoms).Reads source .start tokens q)
    (hend : (Lexer.ofAtoms atoms).peek source q = (.ok none, stop))
    (h : (trees Value atoms limit).parse source = .error halt) :
    ∃ e, halt = .failed e ∧ diagnose limit tokens stop = .error e := by
  have hmap : ((trees Value atoms limit).parse source).map (fun _ => ()) =
      (diagnose limit tokens stop).mapError Halt.failed :=
    map_parseUsing_eq_diagnose plain_total hreads hend
  rw [h] at hmap
  cases hdiagnose : diagnose limit tokens stop with
  | ok u =>
    rw [hdiagnose] at hmap
    cases hmap
  | error e =>
    rw [hdiagnose] at hmap
    exact ⟨e, Except.error.inj hmap, rfl⟩

/-- **A tree that is too deep** has a list that stands too deep among the tokens it was parsed
from. -/
theorem exists_opensAt_of_parse {n : Nat} {t : Tree Value}
    (hreads : (Lexer.ofAtoms atoms).Reads source .start tokens q)
    (hend : (Lexer.ofAtoms atoms).peek source q = (.ok none, stop))
    (h : (trees Value atoms none).parse source = .ok t) (hdepth : n < t.depth) :
    ∃ place, OpensAt n tokens place := by
  have hdiagnose := diagnose_eq_ok_of_parse hreads hend h
  obtain ⟨stage, htokens, hfinish⟩ := TokenTree.exists_of_bind_eq_ok hdiagnose
  refine Classical.byContradiction fun hnone => ?_
  -- Then the limit lets all tokens pass, and they are those of a tree that is not too deep.
  have hlimited : diagnose (some n) tokens stop = .ok () := by
    rw [diagnose, Stage.pass, Stage.foldlM_take_limited htokens hnone]
    exact hfinish
  obtain ⟨g, u, rfl, hwithin, hread⟩ := exists_tokenTree hlimited
  have hunlimited : Within none g.depth := fun m hm => by cases hm
  have hparse := parse_eq_read (V := Value) hread hreads hend hunlimited
  rw [h, hread] at hparse
  obtain rfl : t = u := Except.ok.inj hparse
  have hle := hwithin n rfl
  rw [TokenTree.depth_of_read hread] at hle
  omega

/-- **A limited pass over tokens that offend** without the limit reports the same offence, or the
first list in front of it that stands too deep. -/
theorem parse_limited_of_offends {n : Nat} {before rest : List Token} {stage : Stage} {e : Error}
    (hreads : (Lexer.ofAtoms atoms).Reads source .start (before ++ rest) q)
    (hend : (Lexer.ofAtoms atoms).peek source q = (.ok none, stop))
    (hbefore : before.foldlM (Stage.take none) (.reading 0) = .ok stage)
    (hoffends : stage.Offends none stop rest.head? e) :
    ((¬ ∃ place, OpensAt n before place) ∧
        (trees Value atoms (some n)).parse source = .error (.failed e)) ∨
      ∃ place, OpensAt n before place ∧
        (trees Value atoms (some n)).parse source = .error (.failed (.tooDeep n place)) := by
  by_cases hdeep : ∃ place, OpensAt n before place
  · obtain ⟨place, hplace⟩ := hdeep
    refine .inr ⟨place, hplace, ?_⟩
    rw [parse_eq_error_iff (some n) hreads hend]
    exact Stage.pass_eq_tooDeep hbefore hplace
  · refine .inl ⟨hdeep, ?_⟩
    rw [parse_eq_error_iff (some n) hreads hend]
    exact Stage.pass_eq_error_iff.2
      ⟨before, rest, stage, rfl, Stage.foldlM_take_limited hbefore hdeep, hoffends.limited⟩

/-- **The limit on the nesting is exactly a limit on the depth.** Let the tokens of a source be
given, up to the place `stop` where the lexer finds no more. Where the parse without a limit
succeeds with a tree, the parse with the limit `n` comes to the same tree if its depth is at most
`n`, and otherwise reports the first token that opens a list in exactly `n` open lists. Where the
parse without a limit fails, it fails over an offender behind some tokens, and the parse with the
limit reports the same error, or the first token in front of the offender that opens a list in
exactly `n` open lists, if there is one. -/
theorem parse_limited_by_depth (atoms : Vocabulary) (source : List Char) (n : Nat) :
    let unlimited := (trees Value atoms none).parse source
    let limited := (trees Value atoms (some n)).parse source
    ∃ tokens q stop, (Lexer.ofAtoms atoms).Reads source .start tokens q ∧
      (Lexer.ofAtoms atoms).peek source q = (.ok none, stop) ∧
      (∀ t, unlimited = .ok t →
        (t.depth ≤ n → limited = .ok t) ∧
        (n < t.depth → ∃ place, OpensAt n tokens place ∧
          limited = .error (.failed (.tooDeep n place)))) ∧
      ∀ halt, unlimited = .error halt →
        ∃ e before rest stage, halt = .failed e ∧ tokens = before ++ rest ∧
          before.foldlM (Stage.take none) (.reading 0) = .ok stage ∧
          stage.Offends none stop rest.head? e ∧
          (((¬ ∃ place, OpensAt n before place) ∧ limited = .error (.failed e)) ∨
            ∃ place, OpensAt n before place ∧
              limited = .error (.failed (.tooDeep n place))) := by
  intro unlimited limited
  obtain ⟨tokens, q, stop, hreads, hend⟩ := Lexer.exists_reads (.parens atoms) source .start
  refine ⟨tokens, q, stop, hreads, hend, ?_, ?_⟩
  · intro t ht
    constructor
    · intro hdepth
      obtain ⟨g, rfl, -, hread⟩ := exists_tokenTree_of_parse hreads hend ht
      rw [← TokenTree.depth_of_read hread] at hdepth
      have hwithin : Within (some n) g.depth := by
        intro m hm
        obtain rfl := Option.some.inj hm
        exact hdepth
      have hparse := parse_eq_read (V := Value) hread hreads hend hwithin
      rw [hread] at hparse
      exact hparse
    · intro hdepth
      obtain ⟨place, hplace⟩ := exists_opensAt_of_parse hreads hend ht hdepth
      obtain ⟨stage, htokens, -⟩ :=
        TokenTree.exists_of_bind_eq_ok (diagnose_eq_ok_of_parse hreads hend ht)
      refine ⟨place, hplace, (parse_eq_error_iff (some n) hreads hend _).2 ?_⟩
      have hpass : (Stage.reading 0).pass (some n) stop (tokens ++ []) =
          .error (.tooDeep n place) := Stage.pass_eq_tooDeep htokens hplace
      rwa [List.append_nil] at hpass
  · intro halt hhalt
    obtain ⟨e, rfl, hdiagnose⟩ := exists_diagnose_eq_error hreads hend hhalt
    obtain ⟨before, rest, stage, rfl, hbefore, hoffends⟩ := Stage.pass_eq_error_iff.1 hdiagnose
    exact ⟨e, before, rest, stage, rfl, rfl, hbefore, hoffends,
      parse_limited_of_offends hreads hend hbefore hoffends⟩

end Parser

end Parens
