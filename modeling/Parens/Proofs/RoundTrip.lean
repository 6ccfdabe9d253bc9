import Parens.Proofs.Dispatch
import Parens.Proofs.Grammar

/-!
# Reading Back What Was Written

The notation of a tree is parsed to the tree, wherever the lexer reads its atoms back. The printer
and the parser meet in the lexer: the notation of a tree, with any text behind it in which an atom
can end, is read as the tokens of a token tree (`exists_reads_render`), and this token tree reads
as the tree. The induction is on the tree; the place in the source and the text behind it are
arbitrary, so that it goes through the children of a list one after the other.

## Main results

* `survives_of_isDigit`: whole numbers survive.
* `exists_reads_render`: **the tokens of a notation are those of a tree**.
* `parse_render`: the notation of a tree is parsed to the tree.
-/

namespace Parens

variable {V : Type} [Scalar V]

/-! ### Token trees that were read -/

namespace TokenTree

mutual

/-- What reads as a tree of any scalars reads as a tree of raw values. -/
theorem exists_read_of_read {g : TokenTree} {t : Tree V} (hread : g.read = .ok t) :
    ∃ u : Tree Value, g.read = .ok u := by
  cases g with
  | leaf token atom =>
    obtain ⟨v, hv, -⟩ := read_leaf_eq_ok hread
    exact Parser.exists_read_leaf atom hv
  | node opening gs closing opens closes =>
    obtain ⟨ts, hts, -⟩ := read_node_eq_ok hread
    obtain ⟨us, hus⟩ := exists_readAll_of_readAll hts
    refine ⟨.list us, ?_⟩
    rw [read, hus]
    rfl

/-- What reads as a row of trees of any scalars reads as a row of trees of raw values. -/
theorem exists_readAll_of_readAll {gs : List TokenTree} {ts : List (Tree V)}
    (hread : readAll gs = .ok ts) : ∃ us : List (Tree Value), readAll gs = .ok us := by
  cases gs with
  | nil => exact ⟨[], rfl⟩
  | cons g gs =>
    obtain ⟨t, ts, ht, hts, -⟩ := readAll_cons_eq_ok hread
    obtain ⟨u, hu⟩ := exists_read_of_read ht
    obtain ⟨us, hus⟩ := exists_readAll_of_readAll hts
    refine ⟨u :: us, ?_⟩
    rw [readAll, hu, hus]
    rfl

end

/-- What is built of a value has no depth. -/
theorem depth_of_create {v : Value} {t : Tree V} (h : Tree.create (.value v) = .ok t) :
    t.depth = 0 := by
  unfold Tree.create at h
  split at h
  · obtain rfl := Except.ok.inj h
    rfl
  · rename_i w hw hvalue
    cases hs : Scalar.ofValue (V := V) w with
    | error e => simp [hs, Except.map] at h
    | ok s =>
      rw [hs] at h
      obtain rfl := Except.ok.inj h
      rfl
  · simp_all

mutual

/-- A token tree is as deep as the tree that it reads as. -/
theorem depth_of_read {g : TokenTree} {t : Tree V} (hread : g.read = .ok t) :
    g.depth = t.depth := by
  cases g with
  | leaf token atom =>
    obtain ⟨v, -, hcreate⟩ := read_leaf_eq_ok hread
    rw [depth, depth_of_create hcreate]
  | node opening gs closing opens closes =>
    obtain ⟨ts, hts, rfl⟩ := read_node_eq_ok hread
    rw [depth, Tree.depth, depthOfAll_of_readAll hts]

/-- A row of token trees is as deep as the row of trees that it reads as. -/
theorem depthOfAll_of_readAll {gs : List TokenTree} {ts : List (Tree V)}
    (hread : readAll gs = .ok ts) : depthOfAll gs = Tree.depthOfAll ts := by
  cases gs with
  | nil =>
    obtain rfl := readAll_nil_eq_ok hread
    rfl
  | cons g gs =>
    obtain ⟨t, ts, ht, hts, rfl⟩ := readAll_cons_eq_ok hread
    rw [depthOfAll, Tree.depthOfAll, depth_of_read ht, depthOfAll_of_readAll hts]

end

/-- A row that reads as something has tokens. -/
theorem flattenAll_ne_nil_of_readAll {gs : List TokenTree} {t : Tree V} {ts : List (Tree V)}
    (hread : readAll gs = .ok (t :: ts)) : flattenAll gs ≠ [] := by
  cases gs with
  | nil => cases readAll_nil_eq_ok hread
  | cons g gs =>
    rw [flattenAll]
    exact List.append_ne_nil_of_left_ne_nil g.flatten_ne_nil _

end TokenTree

/-! ### Atoms that survive -/

namespace Tree

mutual

/-- The atoms of a tree from left to right. -/
def atoms : Tree V → List (Option V)
  | atom a => [a]
  | list cs => atomsOfAll cs

/-- The atoms of a row of trees from left to right. -/
def atomsOfAll : List (Tree V) → List (Option V)
  | [] => []
  | t :: ts => t.atoms ++ atomsOfAll ts

end

/-- The notation of a list, character by character. -/
theorem toList_render_list (cs : List (Tree V)) :
    (list cs).render.toList = '(' :: ((Text.spaced (renderAll cs)).toList ++ [')']) := by
  simp [render]

/-- The notation of a row of several trees, character by character. -/
theorem toList_spaced_renderAll (t u : Tree V) (ts : List (Tree V)) :
    (Text.spaced (renderAll (t :: u :: ts))).toList =
      t.render.toList ++ ' ' :: (Text.spaced (renderAll (u :: ts))).toList := by
  simp [renderAll]

end Tree

/-- An atom can end in front of a text: it is empty, or begins with a space or with a parenthesis
that closes a list. -/
def Delimits (rest : List Char) : Prop := ∀ c, rest.head? = some c → c = ' ' ∨ c = ')'

/-- An atom survives being written. Wherever it can end, the lexer recognises exactly its
notation, as a significant kind that is not one of the fixed kinds, and the value of such a token,
wherever it stands, is built to the atom. -/
def Survives (atoms : Vocabulary) (a : Option V) : Prop :=
  ∀ rest, Delimits rest → ∃ m,
    (Lexer.ofAtoms atoms).matchNext ((Tree.renderAtom a).toList ++ rest) none 0 =
        .ok (some m) ∧
      m.text = (Tree.renderAtom a).toList ∧ m.kind.significant = true ∧
      (∀ k ∈ [Vocabulary.space, Vocabulary.opening, Vocabulary.closing, Vocabulary.unexpected],
        ¬ m.kind.same k = true) ∧
      ∀ position, ∃ w, Token.value ⟨m.kind, m.text, position⟩ = .ok w ∧
        Tree.create (.value w) = .ok (Tree.atom a)

namespace Delimits

/-- An atom can end where the source does. -/
theorem nil : Delimits [] := fun _ h => by cases h

/-- An atom can end in front of a space. -/
theorem space (rest : List Char) : Delimits (' ' :: rest) :=
  fun _ h => .inl (Option.some.inj h).symm

/-- An atom can end in front of the end of its list. -/
theorem closing (rest : List Char) : Delimits (')' :: rest) :=
  fun _ h => .inr (Option.some.inj h).symm

/-- No run of characters goes on where an atom can end, unless spaces or closing parentheses
belong to it. -/
theorem takeWhile_eq_nil {rest : List Char} (h : Delimits rest) {p : Char → Bool}
    (hspace : p ' ' = false) (hclosing : p ')' = false) : rest.takeWhile p = [] := by
  cases rest with
  | nil => rfl
  | cons c cs =>
    obtain rfl | rfl := h c rfl
    · exact List.takeWhile_cons_of_neg (by simp [hspace])
    · exact List.takeWhile_cons_of_neg (by simp [hclosing])

end Delimits

variable {atoms : Vocabulary} {rest : List Char}

/-- What the lexer makes of a surviving atom. -/
theorem Survives.exists_firstOf {a : Option V} (h : Survives atoms a) (hrest : Delimits rest) :
    ∃ m, Lexer.firstOf (.parens atoms) ((Tree.renderAtom a).toList ++ rest) = some m ∧
      m.text = (Tree.renderAtom a).toList ∧ m.kind.significant = true ∧
      (∀ k ∈ [Vocabulary.space, Vocabulary.opening, Vocabulary.closing, Vocabulary.unexpected],
        ¬ m.kind.same k = true) ∧
      ∀ position, ∃ w, Token.value ⟨m.kind, m.text, position⟩ = .ok w ∧
        Tree.create (.value w) = .ok (Tree.atom a) := by
  obtain ⟨m, hmatch, hm⟩ := h rest hrest
  have hfirst := Lexer.matchNext_of_ahead (v := .parens atoms)
    (Ahead.start ((Tree.renderAtom a).toList ++ rest))
  exact ⟨m, Except.ok.inj (hfirst.symm.trans hmatch), hm⟩

/-- No notation begins with a blank. -/
theorem takeWhile_isBlank_render {t : Tree V} (hatoms : ∀ a ∈ t.atoms, Survives atoms a)
    (hrest : Delimits rest) : (t.render.toList ++ rest).takeWhile Text.isBlank = [] := by
  cases t with
  | atom a =>
    obtain ⟨m, hm, -, -, hkinds, -⟩ := (hatoms a (by simp [Tree.atoms])).exists_firstOf hrest
    exact Lexer.takeWhile_isBlank_of_firstOf hm (hkinds _ (by simp))
  | list cs =>
    rw [Tree.toList_render_list]
    exact List.takeWhile_cons_of_neg (by decide)

/-- No notation of a row of trees begins with a blank. -/
theorem takeWhile_isBlank_renderAll {t : Tree V} {ts : List (Tree V)}
    (hatoms : ∀ a ∈ Tree.atomsOfAll (t :: ts), Survives atoms a) :
    ((Text.spaced (Tree.renderAll (t :: ts))).toList ++ ')' :: rest).takeWhile Text.isBlank =
      [] := by
  have hfirst : ∀ a ∈ t.atoms, Survives atoms a := fun a ha =>
    hatoms a (by simp [Tree.atomsOfAll, ha])
  cases ts with
  | nil => exact takeWhile_isBlank_render hfirst (.closing rest)
  | cons u ts =>
    rw [Tree.toList_spaced_renderAll, List.append_assoc, List.cons_append]
    exact takeWhile_isBlank_render hfirst (.space _)

/-! ### Whole numbers survive -/

/-- A digit is one of ten characters. -/
theorem between_of_isDigit {c : Char} (h : c.isDigit = true) : 48 ≤ c.toNat ∧ c.toNat ≤ 57 := by
  simp only [Char.isDigit, Bool.and_eq_true, decide_eq_true_eq] at h
  exact ⟨h.1, h.2⟩

/-- No digit is a blank. -/
theorem isBlank_of_isDigit {c : Char} (h : c.isDigit = true) : Text.isBlank c = false := by
  have hascending : Text.Ascending 0 Text.blankRanges := by decide
  obtain ⟨hfirst, hlast⟩ := between_of_isDigit h
  rw [Text.isBlank, Text.inRanges_eq_any hascending]
  simp [Text.blankRanges]
  omega

/-- A run of digits is recognised as a number where an atom can end behind it. -/
theorem firstOf_number {digits rest : List Char} (hne : digits ≠ [])
    (hdigits : ∀ c ∈ digits, c.isDigit = true) (hrest : Delimits rest) :
    Lexer.firstOf (.parens [Vocabulary.number]) (digits ++ rest) =
      some ⟨Vocabulary.number, digits, hne⟩ := by
  have hrun : Vocabulary.number.front (digits ++ rest) = digits := by
    have hends : rest.takeWhile Char.isDigit = [] := hrest.takeWhile_eq_nil rfl rfl
    rw [Lexer.front_number, List.takeWhile_append_of_pos hdigits, hends, List.append_nil]
  obtain ⟨d, ds, rfl⟩ := List.exists_cons_of_ne_nil hne
  have hd := hdigits d List.mem_cons_self
  have hopening : d ≠ '(' := by rintro rfl; cases hd
  have hclosing : d ≠ ')' := by rintro rfl; cases hd
  rw [List.cons_append, Lexer.firstOf_parens_of_ne (isBlank_of_isDigit hd) hopening hclosing]
  exact Lexer.firstOf_cons_of_ne_nil hrun hne

/-- A value that is written in digits and read back from them survives where numbers are the only
kind of atoms. -/
theorem survives_of_isDigit {v : Value} (hne : v.render.toList ≠ [])
    (hdigits : ∀ c ∈ v.render.toList, c.isDigit = true)
    (hvalue : ∀ position, Token.value ⟨Vocabulary.number, v.render.toList, position⟩ = .ok v)
    (hcreate : Tree.create (.value v) = .ok (Tree.atom (some v))) :
    Survives [Vocabulary.number] (some v) := by
  intro rest hrest
  have hfirst := firstOf_number hne hdigits hrest
  have hkinds : ∀ k ∈ [Vocabulary.space, Vocabulary.opening, Vocabulary.closing,
      Vocabulary.unexpected], ¬ Vocabulary.number.same k = true := by
    decide
  refine ⟨⟨Vocabulary.number, v.render.toList, hne⟩, ?_, rfl, rfl, hkinds, ?_⟩
  · rw [← hfirst]
    exact Lexer.matchNext_of_ahead (.start _)
  · exact fun position => ⟨v, hvalue position, hcreate⟩

/-! ### The tokens of a notation -/

mutual

/-- **The tokens of a notation are those of a tree**, which reads as the tree that was written. -/
theorem exists_reads_render {source rest : List Char} {p : Position} (t : Tree V)
    (hatoms : ∀ a ∈ t.atoms, Survives atoms a)
    (hahead : Ahead source p (t.render.toList ++ rest)) (hrest : Delimits rest) :
    ∃ (g : TokenTree) (q : Position), (Lexer.ofAtoms atoms).Reads source p g.flatten q ∧
      g.read = .ok t ∧ Ahead source q rest := by
  cases t with
  | atom a =>
    obtain ⟨m, hm, htext, hsig, hkinds, hvalue⟩ :=
      (hatoms a (by simp [Tree.atoms])).exists_firstOf hrest
    obtain ⟨w, hw, hcreate⟩ := hvalue p
    rw [Tree.render, ← htext] at hahead
    rw [← htext] at hm
    have hatom : Token.IsAtom ⟨m.kind, m.text, p⟩ :=
      ⟨hkinds _ (by simp), hkinds _ (by simp), hkinds _ (by simp)⟩
    refine ⟨.leaf ⟨m.kind, m.text, p⟩ hatom, p.advance m.text,
      .cons_of_firstOf hahead hm hsig fun _ => .nil _, ?_, hahead.advance⟩
    rw [TokenTree.read, hw]
    exact hcreate
  | list cs =>
    have hopen : Ahead source p (['('] ++ ((Text.spaced (Tree.renderAll cs)).toList ++
        ([')'] ++ rest))) := by
      simpa [Tree.toList_render_list] using hahead
    obtain ⟨gs, q, hreads, hread, hclose⟩ := exists_reads_renderAll cs hatoms hopen.advance
    have hopens : Token.is ⟨Vocabulary.opening, ['('], p⟩ Vocabulary.opening = true := rfl
    have hcloses : Token.is ⟨Vocabulary.closing, [')'], q⟩ Vocabulary.closing = true := rfl
    have hlast : (Lexer.ofAtoms atoms).Reads source q [⟨Vocabulary.closing, [')'], q⟩]
        (q.advance [')']) :=
      .cons_of_firstOf hclose (Lexer.firstOf_closing atoms _) rfl fun _ => .nil _
    refine ⟨.node _ gs _ hopens hcloses, q.advance [')'],
      .cons_of_firstOf hopen (Lexer.firstOf_opening atoms _) rfl fun _ => hreads.append hlast, ?_,
      hclose.advance⟩
    rw [TokenTree.read, hread]
    rfl

/-- The tokens of the notation of a row of trees, in a list that closes behind it, are those of a
row of trees. -/
theorem exists_reads_renderAll {source rest : List Char} {p : Position} (ts : List (Tree V))
    (hatoms : ∀ a ∈ Tree.atomsOfAll ts, Survives atoms a)
    (hahead : Ahead source p ((Text.spaced (Tree.renderAll ts)).toList ++ ')' :: rest)) :
    ∃ (gs : List TokenTree) (q : Position),
      (Lexer.ofAtoms atoms).Reads source p (TokenTree.flattenAll gs) q ∧
      TokenTree.readAll gs = .ok ts ∧ Ahead source q ([')'] ++ rest) := by
  cases ts with
  | nil => exact ⟨[], p, .nil p, rfl, hahead⟩
  | cons t ts =>
    have hfirst : ∀ a ∈ t.atoms, Survives atoms a := fun a ha =>
      hatoms a (by simp [Tree.atomsOfAll, ha])
    have hothers : ∀ a ∈ Tree.atomsOfAll ts, Survives atoms a := fun a ha =>
      hatoms a (by simp [Tree.atomsOfAll, ha])
    cases ts with
    | nil =>
      obtain ⟨g, q, hreads, hread, hbehind⟩ :=
        exists_reads_render t hfirst hahead (.closing rest)
      refine ⟨[g], q, ?_, ?_, hbehind⟩
      · rw [TokenTree.flattenAll, TokenTree.flattenAll, List.append_nil]
        exact hreads
      · rw [TokenTree.readAll, hread]
        rfl
    | cons u ts =>
      rw [Tree.toList_spaced_renderAll, List.append_assoc, List.cons_append] at hahead
      obtain ⟨g, q, hreads, hread, hspace⟩ := exists_reads_render t hfirst hahead (.space _)
      obtain ⟨gs, r, hreads', hreadAll, hclose⟩ :=
        exists_reads_renderAll (u :: ts) hothers (hspace.advance (a := [' ']))
      refine ⟨g :: gs, r, ?_, ?_, hclose⟩
      · rw [TokenTree.flattenAll]
        -- The next tree does not begin with a blank, so the space in front of it stands alone.
        exact hreads.append (.behind_space hspace (takeWhile_isBlank_renderAll hothers)
          (TokenTree.flattenAll_ne_nil_of_readAll hreadAll) fun _ => hreads')
      · rw [TokenTree.readAll, hread, hreadAll]
        rfl

end

/-- **Reading back what was written.** Where every atom of a tree survives, and the limit allows
the depth of the tree, the notation of the tree is parsed to the tree. -/
theorem Parser.parse_render {limit : Option Nat} {t : Tree V} (hlimit : Within limit t.depth)
    (hatoms : ∀ a ∈ t.atoms, Survives atoms a) :
    (trees V atoms limit).parse t.render.toList = .ok t := by
  have hahead : Ahead t.render.toList .start (t.render.toList ++ []) := by
    rw [List.append_nil]
    exact .start _
  obtain ⟨g, q, hreads, hread, hend⟩ := exists_reads_render t hatoms hahead .nil
  obtain ⟨u, hu⟩ := TokenTree.exists_read_of_read hread
  rw [← TokenTree.depth_of_read hread] at hlimit
  rw [parse_eq_read hu hreads (Lexer.peek_of_end hend) hlimit, hread]
  rfl

/-- The list `(12 (7) ())` is parsed back to what it was written from. -/
theorem Parser.parse_render_list :
    ∃ t : Tree Value, t = .list [.atom (some (.int 12)), .list [.atom (some (.int 7))], .list []] ∧
      Within (some 2) t.depth ∧ (∀ a ∈ t.atoms, Survives [Vocabulary.number] a) ∧
      (trees Value [Vocabulary.number] (some 2)).parse t.render.toList = .ok t := by
  have htwelve : Survives [Vocabulary.number] (some (Value.int 12)) := by
    have hrender : (Value.int 12).render.toList = ['1', '2'] := rfl
    exact survives_of_isDigit (by simp [hrender]) (by simp [hrender]) (fun _ => rfl) rfl
  have hseven : Survives [Vocabulary.number] (some (Value.int 7)) := by
    have hrender : (Value.int 7).render.toList = ['7'] := rfl
    exact survives_of_isDigit (by simp [hrender]) (by simp [hrender]) (fun _ => rfl) rfl
  have hdepth : Within (some 2) (Tree.depth (.list
      [.atom (some (.int 12)), .list [.atom (some (.int 7))], .list []] : Tree Value)) := by
    simp [Within, Tree.depth, Tree.depthOfAll]
  have hatoms : ∀ a ∈ Tree.atoms (.list
      [.atom (some (.int 12)), .list [.atom (some (.int 7))], .list []] : Tree Value),
      Survives [Vocabulary.number] a := by
    intro a ha
    simp only [Tree.atoms, Tree.atomsOfAll, List.append_nil, List.cons_append, List.nil_append,
      List.mem_cons, List.not_mem_nil, or_false] at ha
    obtain rfl | rfl := ha
    · exact htwelve
    · exact hseven
  exact ⟨_, rfl, hdepth, hatoms, parse_render hdepth hatoms⟩

end Parens
