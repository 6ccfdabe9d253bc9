import Parens.Proofs.Anchoring
import Parens.Proofs.Dispatch
import Parens.Proofs.Verdict

/-!
# Tokens Tile the Source

A lexer moves through the source by the texts of the tokens that it consumes, those that it passes
over included. So what a session read is the source up to where it stands, and its place is the
one that reading that text leads to (`Session.Tiles`). Every token found stands where the session
stands, and has what lies ahead there as its text (`Session.Faces`).

A session of its own accord can go astray: `Session.consume` takes any token. What keeps it on the
source is that the lexer is anchored (`Lexer.Anchored`), so that a token found faces the session
that found it. The lexers at hand are (`Standard.anchored`). Then the tiling survives every search
for a token, every scan and every parse, also where they fail, and the source is never cut inside
a character.

## Main results

* `Tiles.consume`: moving past a token that is faced goes on with the tiling.
* `exists_next_of_tiles`: **a search keeps the tiling**, and what it finds is faced.
* `scan_tiles`, `run_tiles`, `parseUsing_tiles`: so do a scan, a run and a whole parse.
-/

namespace Parens

/-! ### What was read -/

/-- The text that an event says was read. -/
def Event.readText : Event → List Char
  | consumed _ text _ => text
  | _ => []

/-- A text stands at a place: it follows some text in the source, and reading that from the
beginning leads to the place. -/
def StandsAt (source text : List Char) (p : Position) : Prop :=
  ∃ front rest, source = front ++ (text ++ rest) ∧ p = Position.start.advance front

namespace Session

/-- What a session read: the texts of all tokens that it moved past, in order. -/
def readText (s : Session) : List Char := s.events.toList.flatMap Event.readText

@[simp]
theorem readText_note (s : Session) (e : Event) :
    (s.note e).readText = s.readText ++ e.readText := by
  simp [readText, note]

@[simp]
theorem readText_consume (s : Session) (t : Token) :
    (s.consume t).readText = s.readText ++ t.text := by
  simp [readText, consume, Event.readText]

/-- A session tiles the source: what it read is the source up to its place, its place is where
that text leads to, and every token that it moved past stands where it was noted down. -/
structure Tiles (source : List Char) (s : Session) : Prop where
  /-- What was read is the source up to the offset. -/
  takeBytes?_eq : Text.takeBytes? s.position.offset source = some s.readText
  /-- The place is where it leads to. -/
  position_eq : s.position = Position.start.advance s.readText
  /-- Tokens stand where they were noted down. -/
  standsAt : ∀ label text p, .consumed label text p ∈ s.events → StandsAt source text p

/-- A session faces a token: the token stands where the session stands, and its text lies ahead. -/
def Faces (source : List Char) (s : Session) (t : Token) : Prop :=
  t.position = s.position ∧ ∃ rest, Ahead source s.position (t.text ++ rest)

variable {source rest : List Char} {s : Session} {t : Token}

/-- A session at the beginning read nothing. -/
theorem tiles_start (source : List Char) : start.Tiles source where
  takeBytes?_eq := Text.takeBytes?_eq_some_iff.2 ⟨source, rfl, rfl⟩
  position_eq := rfl
  standsAt label text p h := by simp [start] at h

/-- What lies ahead is the source without what was read. -/
theorem Tiles.source_eq (h : s.Tiles source) (hahead : Ahead source s.position rest) :
    source = s.readText ++ rest := by
  obtain ⟨front, hsource, hsize⟩ := Text.dropBytes?_eq_some_iff.1 hahead
  have htake := Text.takeBytes?_eq_some_iff.2 ⟨rest, hsource, hsize⟩
  obtain rfl := Option.some.inj (htake.symm.trans h.takeBytes?_eq)
  exact hsource

/-- The source can be cut where a session stands. -/
theorem Tiles.exists_ahead (h : s.Tiles source) : ∃ rest, Ahead source s.position rest := by
  obtain ⟨rest, hsource, hsize⟩ := Text.takeBytes?_eq_some_iff.1 h.takeBytes?_eq
  exact ⟨rest, Text.dropBytes?_eq_some_iff.2 ⟨s.readText, hsource, hsize⟩⟩

/-- A session in front of the end of the source has a character ahead. -/
theorem Tiles.exists_ahead_cons (h : s.Tiles source)
    (hlt : s.position.offset < Text.byteSize source) :
    ∃ c cs, Ahead source s.position (c :: cs) := by
  obtain ⟨rest, hahead⟩ := h.exists_ahead
  cases rest with
  | nil =>
    have hsize := hahead.byteSize_eq
    simp only [Text.byteSize_nil] at hsize
    omega
  | cons c cs => exact ⟨c, cs, hahead⟩

/-- A token that is faced stands at its place. -/
theorem Tiles.standsAt_of_faces (h : s.Tiles source) (ht : s.Faces source t) :
    StandsAt source t.text t.position := by
  obtain ⟨hplace, rest, hahead⟩ := ht
  exact ⟨s.readText, rest, h.source_eq hahead, hplace.trans h.position_eq⟩

/-- Noting down anything but a token consumed keeps the tiling. -/
theorem Tiles.note (h : s.Tiles source) {e : Event}
    (he : ∀ label text p, e ≠ .consumed label text p) : (s.note e).Tiles source := by
  have hread : e.readText = [] := by
    cases e with
    | consumed label text p => exact absurd rfl (he label text p)
    | parsing | skipping | diagnosed | failed | parsed => rfl
  refine ⟨?_, ?_, ?_⟩
  · rw [position_note, readText_note, hread, List.append_nil]
    exact h.takeBytes?_eq
  · rw [position_note, readText_note, hread, List.append_nil]
    exact h.position_eq
  · intro label text p hmem
    obtain hmem | heq := Array.mem_push.1 hmem
    · exact h.standsAt label text p hmem
    · exact absurd heq.symm (he label text p)

/-- **Moving past a token that is faced** goes on with the tiling. -/
theorem Tiles.consume (h : s.Tiles source) (ht : s.Faces source t) :
    (s.consume t).Tiles source := by
  have hstands := h.standsAt_of_faces ht
  obtain ⟨hplace, rest, hahead⟩ := ht
  refine ⟨?_, ?_, ?_⟩
  · rw [readText_consume]
    refine Text.takeBytes?_eq_some_iff.2 ⟨rest, ?_, ?_⟩
    · rw [List.append_assoc]
      exact h.source_eq hahead
    · obtain ⟨-, -, hsize⟩ := Text.takeBytes?_eq_some_iff.1 h.takeBytes?_eq
      simp [hsize]
  · rw [readText_consume, Position.advance_append, ← h.position_eq, position_consume]
  · intro label text p hmem
    obtain hmem | heq := Array.mem_push.1 hmem
    · exact h.standsAt label text p hmem
    · obtain ⟨rfl, rfl, rfl⟩ := Event.consumed.inj heq
      exact hstands

/-- Passing over a token that is faced goes on with the tiling. -/
theorem Tiles.pass (h : s.Tiles source) (ht : s.Faces source t) : (s.pass t).Tiles source :=
  (h.note fun _ _ _ => Event.noConfusion).consume ht

/-- A diagnosis keeps the tiling. -/
theorem Tiles.diagnose (h : s.Tiles source) (found : Option Token) (expected : Option Kind) :
    (s.diagnose found expected).2.Tiles source :=
  h.note fun _ _ _ => Event.noConfusion

end Session

/-! ### Anchored lexers -/

namespace Lexer

/-- A lexer is anchored if at every place of the source it recognises nothing but what lies
ahead. -/
def Anchored (l : Lexer) : Prop :=
  ∀ source offset rest, Text.dropBytes? offset source = some rest →
    ∃ found, l.recognize source offset = .ok found ∧ ∀ m, found = some m → m.text <+: rest

/-- The lexers at hand: those that try the kinds of an anchored vocabulary in order, and the one
that decides by the first character. -/
inductive Standard : Lexer → Prop
  /-- A lexer that tries the kinds of a vocabulary. -/
  | firstMatch {v : Vocabulary} : v.Anchored → Standard (firstMatch v)
  /-- The lexer that decides by the first character. -/
  | direct : Standard direct

/-- The lexer for list notation is one of them if the kinds of atoms are anchored. -/
theorem standard_ofAtoms {atoms : Vocabulary} (h : atoms.Anchored) : (ofAtoms atoms).Standard :=
  .firstMatch (Vocabulary.anchored_parens h)

/-- The match of an anchored kind is what a text begins with. -/
theorem isPrefix_of_of? {k : Kind} {rest : List Char} {m : Match} (hk : k.toRule.Anchored)
    (h : Match.of? k (k.front rest) = some m) : m.text <+: rest := by
  rw [(Match.of?_eq_some_iff.1 h).2]
  exact hk rest

/-- The first match of an anchored vocabulary is what a text begins with. -/
theorem isPrefix_of_firstOf {v : Vocabulary} (hv : v.Anchored) {rest : List Char} {m : Match}
    (h : firstOf v rest = some m) : m.text <+: rest := by
  obtain ⟨k, hk, hmatch⟩ := List.exists_of_findSome?_eq_some h
  exact isPrefix_of_of? (hv k hk) hmatch

/-- A lexer that tries an anchored vocabulary in order is anchored. -/
theorem anchored_firstMatch {v : Vocabulary} (hv : v.Anchored) : (firstMatch v).Anchored := by
  intro source offset rest hrest
  refine ⟨firstOf v rest, ?_, fun m hm => isPrefix_of_firstOf hv hm⟩
  simp only [firstMatch, hrest]
  rfl

/-- The lexer that decides by the first character is anchored. -/
theorem anchored_direct : direct.Anchored := by
  intro source offset rest hrest
  cases rest with
  | nil =>
    refine ⟨none, ?_, fun m h => by cases h⟩
    simp only [direct, hrest]
  | cons c cs =>
    refine ⟨some (dispatch c cs), ?_, ?_⟩
    · simp only [direct, hrest]
    · rintro m hm
      obtain rfl := Option.some.inj hm
      exact dispatch_isPrefix c cs

/-- **The lexers at hand are anchored.** -/
theorem Standard.anchored {l : Lexer} (h : l.Standard) : l.Anchored := by
  cases h with
  | firstMatch hv => exact anchored_firstMatch hv
  | direct => exact anchored_direct

/-! ### Searching for a token -/

variable {l : Lexer} {source : List Char} {s : Session}

/-- An anchored lexer, asked for a token of any kind or of an anchored one, comes to an answer,
and the token lies ahead. -/
theorem exists_matchNext_of_ahead (hl : l.Anchored) {hint : Option Kind}
    (hhint : ∀ k, hint = some k → k.toRule.Anchored) {p : Position} {rest : List Char}
    (h : Ahead source p rest) :
    ∃ found, l.matchNext source hint p.offset = .ok found ∧
      ∀ m, found = some m → m.text <+: rest := by
  cases hint with
  | none => exact hl source p.offset rest h
  | some k =>
    refine ⟨_, rfl, fun m hm => ?_⟩
    have hfront : k.matchAt source p.offset = k.front rest := by
      rw [Rule.matchAt, h]
    rw [hfront] at hm
    exact isPrefix_of_of? (hhint k rfl) hm

/-- A session that tiles the source faces the token of a match at its place. -/
theorem faces_of_matchNext (hl : l.Anchored) {hint : Option Kind}
    (hhint : ∀ k, hint = some k → k.toRule.Anchored) (h : s.Tiles source) {m : Match}
    (hm : l.matchNext source hint s.position.offset = .ok (some m)) :
    s.Faces source (tokenAt s m) := by
  obtain ⟨rest, hahead⟩ := h.exists_ahead
  obtain ⟨found, hfound, hmatch⟩ := exists_matchNext_of_ahead hl hhint hahead
  obtain rfl := Except.ok.inj (hfound.symm.trans hm)
  obtain ⟨behind, hbehind⟩ := hmatch m rfl
  refine ⟨rfl, behind, ?_⟩
  rw [tokenAt, hbehind]
  exact hahead

/-- **A search keeps the tiling.** Where a session tiles the source, an anchored lexer comes to an
answer, the session goes on to tile the source, and it faces the token found. -/
theorem exists_next_of_tiles (hl : l.Anchored) {hint : Option Kind}
    (hhint : ∀ k, hint = some k → k.toRule.Anchored) (skip : Bool) (h : s.Tiles source) :
    ∃ found s', l.next source hint skip s = (.ok found, s') ∧ s'.Tiles source ∧
      ∀ t, found = some t → s'.Faces source t := by
  fun_induction l.next source hint skip s with
  | case1 s hlt halt hm =>
    obtain ⟨rest, hahead⟩ := h.exists_ahead
    obtain ⟨found, hfound, -⟩ := exists_matchNext_of_ahead hl hhint hahead
    cases hfound.symm.trans hm
  | case2 s hlt hm => exact ⟨none, s, rfl, h, fun t ht => by cases ht⟩
  | case3 s hlt m hm hskip ih => exact ih (h.pass (faces_of_matchNext hl hhint h hm))
  | case4 s hlt m hm hskip =>
    refine ⟨some (tokenAt s m), s, rfl, h, fun t ht => ?_⟩
    obtain rfl := Option.some.inj ht
    exact faces_of_matchNext hl hhint h hm
  | case5 s hlt => exact ⟨none, s, rfl, h, fun t ht => by cases ht⟩

/-- A search for any significant token keeps the tiling. -/
theorem exists_next_none_of_tiles (hl : l.Anchored) (h : s.Tiles source) :
    ∃ found s', l.next source none true s = (.ok found, s') ∧ s'.Tiles source ∧
      ∀ t, found = some t → s'.Faces source t :=
  exists_next_of_tiles hl (fun k hk => by cases hk) true h

/-- A search for a token of one of several anchored kinds keeps the tiling. -/
theorem exists_nextAmong_of_tiles (hl : l.Anchored) {kinds : List Kind}
    (hkinds : ∀ k ∈ kinds, k.toRule.Anchored) (skip : Bool) (h : s.Tiles source) :
    ∃ found s', l.nextAmong source skip kinds s = (.ok found, s') ∧ s'.Tiles source ∧
      ∀ t, found = some t → s'.Faces source t := by
  induction kinds generalizing s with
  | nil => exact ⟨none, s, rfl, h, fun t ht => by cases ht⟩
  | cons k ks ih =>
    obtain ⟨hk, hks⟩ := List.forall_mem_cons.1 hkinds
    have hhint : ∀ k', some k = some k' → k'.toRule.Anchored := by
      rintro k' hk'
      obtain rfl := Option.some.inj hk'
      exact hk
    obtain ⟨found, s', hnext, htiles, hfaces⟩ := exists_next_of_tiles hl hhint skip h
    rw [nextAmong, hnext]
    cases found with
    | none => exact ih hks htiles
    | some t => exact ⟨some t, s', rfl, htiles, hfaces⟩

/-! ### Scanning -/

/-- Where the source can be cut, there is a text to report. -/
theorem exists_strayText_of_tiles (h : s.Tiles source) :
    ∃ text, strayText source s.position.offset = .ok text := by
  obtain ⟨rest, hahead⟩ := h.exists_ahead
  unfold strayText
  split
  · rw [hahead]
    exact ⟨_, rfl⟩
  · exact ⟨_, rfl⟩

/-- The end of a scan keeps the tiling. -/
theorem finishScan_tiles (h : s.Tiles source) :
    (finishScan source s).1 ≠ .error .midCharacter ∧ (finishScan source s).2.Tiles source := by
  obtain ⟨text, htext⟩ := exists_strayText_of_tiles h
  unfold finishScan
  split
  · rw [htext]
    exact ⟨by simp [Session.diagnose], h.diagnose _ _⟩
  · exact ⟨by simp, h⟩

/-- **A scan keeps the tiling**, and the tokens that it lists stand at their places. -/
theorem scan_tiles (hl : l.Anchored) (h : s.Tiles source) :
    (l.scan source s).1 ≠ .error .midCharacter ∧ (l.scan source s).2.Tiles source ∧
      ∀ tokens, (l.scan source s).1 = .ok tokens →
        ∀ t ∈ tokens, StandsAt source t.text t.position := by
  fun_induction l.scan source s with
  | case1 s s₁ halt hnext =>
    obtain ⟨found, s', hnext', -⟩ := exists_next_none_of_tiles hl h
    cases (Prod.mk.inj (hnext'.symm.trans hnext)).1
  | case2 s s₁ hnext =>
    obtain ⟨found, s', hnext', htiles, -⟩ := exists_next_none_of_tiles hl h
    obtain ⟨-, rfl⟩ := Prod.mk.inj (hnext'.symm.trans hnext)
    obtain ⟨hhalt, hend⟩ := finishScan_tiles htiles
    refine ⟨hhalt, hend, fun tokens htokens t ht => ?_⟩
    obtain ⟨rfl, -⟩ := eq_of_finishScan (Prod.ext htokens rfl)
    cases ht
  | case3 s t s₁ hnext tokens s₂ hscan ih =>
    obtain ⟨found, s', hnext', htiles, hfaces⟩ := exists_next_none_of_tiles hl h
    obtain ⟨hfound, rfl⟩ := Prod.mk.inj (hnext'.symm.trans hnext)
    obtain rfl := Except.ok.inj hfound
    have hface := hfaces t rfl
    obtain ⟨hhalt, hend, hstands⟩ := ih (htiles.consume hface)
    rw [hscan] at hhalt hend hstands
    cases tokens with
    | error halt =>
      refine ⟨?_, hend, fun tokens htokens => by cases htokens⟩
      intro hmid
      exact hhalt (congrArg Except.error (Except.error.inj hmid))
    | ok ts =>
      refine ⟨by simp [Except.map], hend, fun tokens htokens => ?_⟩
      obtain rfl := Except.ok.inj htokens
      exact List.forall_mem_cons.2 ⟨htiles.standsAt_of_faces hface, hstands ts rfl⟩

end Lexer

/-! ### Parsing -/

namespace Parser

variable {E : Type} {source : List Char}

/-- The session tiles the source after some progress, and the lexer did not halt. -/
def Progress.Tiles (source : List Char) : Progress E → Prop
  | .more st => st.session.Tiles source
  | .done result st => result ≠ .error .midCharacter ∧ st.session.Tiles source

variable {p : Parser E} {reduction : Reduction E} {l : Lexer} {st : State E}

/-- Putting a node in its place does not touch the session. -/
theorem put_tiles (node : E) (h : st.session.Tiles source) : (put node st).Tiles source := by
  unfold put
  split
  · exact ⟨by simp, h⟩
  · exact h

/-- Making a node does not touch the session. -/
theorem attach_tiles (content : Content E) (h : st.session.Tiles source) :
    (attach reduction content st).Tiles source := by
  obtain ⟨node, calls, -, hattach⟩ | ⟨e, calls, -, -, -, hattach⟩ :=
    attach_cases reduction content st
  · rw [hattach]
    exact put_tiles node h
  · rw [hattach]
    exact ⟨by simp, h⟩

/-- A complaint keeps the tiling. -/
theorem complain_tiles (found : Option Token) (expected : Kind) (h : st.session.Tiles source) :
    (complain found expected st).Tiles source :=
  ⟨by simp, h.diagnose found (some expected)⟩

/-- A verdict on a token that is faced is enacted with the tiling kept. -/
theorem enact_tiles {t : Token} (h : st.session.Tiles source) (ht : st.session.Faces source t)
    (verdict : Verdict) : (enact reduction t st verdict).Tiles source := by
  cases verdict with
  | unexpected => exact complain_tiles _ _ h
  | tooDeep n => exact ⟨by simp, h⟩
  | unreadable e => exact ⟨by simp, h.consume ht⟩
  | accepted move =>
    cases move with
    | opening => exact h.consume ht
    | atom v => exact attach_tiles _ (h.consume ht)
    | closing => exact attach_tiles _ (h.consume ht)

/-- **A step of the parser keeps the tiling.** -/
theorem step_tiles (hl : l.Anchored) (h : st.session.Tiles source) :
    (p.step reduction l source st).Tiles source := by
  obtain ⟨found, s, hnext, htiles, hfaces⟩ := Lexer.exists_next_none_of_tiles hl h
  cases found with
  | none =>
    rw [step_eq_complain reduction hnext]
    exact complain_tiles _ _ htiles
  | some t =>
    rw [step_eq_enact reduction hnext]
    exact enact_tiles htiles (hfaces t rfl) _

/-- **A run keeps the tiling.** -/
theorem run_tiles (hl : l.Anchored) (h : st.session.Tiles source) :
    (p.run reduction l source st).1 ≠ .error .midCharacter ∧
      (p.run reduction l source st).2.session.Tiles source := by
  fun_induction p.run reduction l source st with
  | case1 st result st' hstep =>
    have hprogress : (p.step reduction l source st).Tiles source := step_tiles hl h
    rw [hstep] at hprogress
    exact hprogress
  | case2 st st' hstep ih =>
    have hprogress : (p.step reduction l source st).Tiles source := step_tiles hl h
    rw [hstep] at hprogress
    exact ih hprogress

/-- The check behind an expression keeps the tiling. -/
theorem finish_tiles (hl : l.Anchored) (root : E) (h : st.session.Tiles source) :
    (finish l source root st).1 ≠ .error .midCharacter ∧
      (finish l source root st).2.session.Tiles source := by
  obtain ⟨found, s, hnext, htiles, -⟩ := Lexer.exists_next_none_of_tiles hl h
  cases found with
  | none =>
    rw [finish_eq_ok root hnext]
    exact ⟨by simp, htiles.note fun _ _ _ => Event.noConfusion⟩
  | some t =>
    rw [finish_eq_error root hnext]
    exact ⟨by simp [Session.diagnose], htiles.diagnose _ _⟩

/-- What is made of the result of a run keeps the tiling. -/
theorem conclude_tiles (hl : l.Anchored) {outcome : Except Halt E × State E}
    (hhalt : outcome.1 ≠ .error .midCharacter) (h : outcome.2.session.Tiles source) :
    (conclude l source outcome).1 ≠ .error .midCharacter ∧
      (conclude l source outcome).2.session.Tiles source := by
  obtain ⟨result, st⟩ := outcome
  cases result with
  | ok root => exact finish_tiles hl root h
  | error halt =>
    cases halt with
    | failed e => exact ⟨by simp [conclude], h.note fun _ _ _ => Event.noConfusion⟩
    | midCharacter => exact absurd rfl hhalt

/-- **A whole parse keeps the tiling.** -/
theorem parseUsing_tiles (hl : l.Anchored) {s : Session} (h : s.Tiles source) :
    (p.parseUsing reduction l source s).1 ≠ .error .midCharacter ∧
      (p.parseUsing reduction l source s).2.session.Tiles source := by
  have hbegin : (begin l source s : State E).session.Tiles source :=
    h.note fun _ _ _ => Event.noConfusion
  obtain ⟨hhalt, hrun⟩ := run_tiles (p := p) hl hbegin
  rw [parseUsing_eq_conclude]
  exact conclude_tiles hl hhalt hrun

end Parser

end Parens
