import Mathlib.Data.List.TakeWhile
import Parens.Proofs.Numerals

/-!
# The Notation as a Normal Form

Over names, quoted texts and whole numbers, a source can be written in many ways: with blanks of
any kind or none between the tokens, and with zeros in front of a number. The notation of the tree
that a source is parsed to is one of them, and it is parsed to the same tree. So it is a normal
form: writing what was parsed, and parsing and writing it again, changes nothing more.

All atoms of a tree that was parsed are values of words (`Word`), and the notation of such a value
is a word again: the same one for a name and a quoted text, and the digits without zeros in front
of them for a number. A word is recognised in front of everything in front of which an atom can
end (`Word.firstOf`), so these atoms survive.

## Main results

* `word_of_reads`, `Word.firstOf`: **the words are the tokens that are atoms**.
* `Word.survives`: **the value of a word survives being written**.
* `Parser.parse_render_of_parse`: the notation of what was parsed is parsed to the same.
-/

namespace Parens

open Vocabulary

/-! ### Digits -/

namespace Number

/-- **A number that was read in digits is written in digits**, which are read as the same
number. -/
theorem readInt64_repr_of_readInt64 {digits : List Char} {n : Int64}
    (hdigits : ∀ c ∈ digits, c.isDigit = true) (h : readInt64 digits = .ok n) :
    n.toInt.repr.toList ≠ [] ∧ (∀ c ∈ n.toInt.repr.toList, c.isDigit = true) ∧
      readInt64 n.toInt.repr.toList = .ok n := by
  have hvalue : n.toInt = (Nat.ofDigitChars 10 digits 0 : Int) := by
    obtain ⟨negative, ds, hsplit, -, -, hn⟩ := numeral_iff.1 (readInt64_eq_ok_iff.1 h)
    obtain ⟨rfl, rfl⟩ := Prod.mk.inj ((splitSign_of_isDigit hdigits).symm.trans hsplit)
    exact hn
  have hrepr : n.toInt.repr.toList = Nat.toDigits 10 (Nat.ofDigitChars 10 digits 0) := by
    rw [hvalue]
    exact Nat.toList_repr
  have hread : readInt64 n.toInt.repr.toList = .ok n :=
    readInt64_eq_ok_iff.2 (numeral_repr n.toInt)
  rw [hrepr] at hread ⊢
  exact ⟨Nat.toDigits_ne_nil, isDigit_of_mem_toDigits, hread⟩

end Number

/-! ### Words -/

/-- The words of the plain kinds of atoms. -/
inductive Word : Kind → List Char → Prop
  /-- A name. -/
  | name {c : Char} {run : List Char} : Lexer.beginsName c = true →
      (∀ d ∈ run, Lexer.continuesName d = true) → Word identifier (c :: run)
  /-- A text between quotes, with no quote in it. -/
  | quoted {inner : List Char} : (∀ d ∈ inner, d ≠ '"') → Word quotation ('"' :: (inner ++ ['"']))
  /-- Digits. -/
  | digits {c : Char} {run : List Char} : (∀ d ∈ c :: run, d.isDigit = true) →
      Word number (c :: run)

namespace Lexer

/-- The characters that begin a name are letters of ASCII and the underscore. -/
theorem beginsName_iff {c : Char} : beginsName c = true ↔
    (65 ≤ c.toNat ∧ c.toNat ≤ 90 ∨ 97 ≤ c.toNat ∧ c.toNat ≤ 122) ∨
      95 ≤ c.toNat ∧ c.toNat ≤ 95 := by
  rw [← mem_beginsName]
  simp [Pattern.CharSet.mem, Pattern.CharSet.between]

/-- No character that begins a name is a blank. -/
theorem isBlank_of_beginsName {c : Char} (h : beginsName c = true) : Text.isBlank c = false := by
  have hascending : Text.Ascending 0 Text.blankRanges := by decide
  have hranges := beginsName_iff.1 h
  rw [Text.isBlank, Text.inRanges_eq_any hascending]
  simp [Text.blankRanges]
  omega

/-- No digit begins a name. -/
theorem beginsName_of_isDigit {c : Char} (h : c.isDigit = true) : beginsName c = false := by
  obtain ⟨hfirst, hlast⟩ := between_of_isDigit h
  rw [Bool.eq_false_iff, ne_eq, beginsName_iff]
  omega

end Lexer

/-- **Every atom is a word.** What the first character decides for is of one of the fixed kinds, or
a word. -/
theorem dispatch_cases (c : Char) (cs : List Char) :
    (Lexer.dispatch c cs).kind ∈ [space, opening, closing, unexpected] ∨
      Word (Lexer.dispatch c cs).kind (Lexer.dispatch c cs).text := by
  unfold Lexer.dispatch
  split
  · exact .inl (by simp)
  split
  · exact .inl (by simp)
  split
  · exact .inl (by simp)
  split
  · rename_i hname
    exact .inr (.name hname fun d hd => List.mem_takeWhile_imp hd)
  split
  · rename_i hdigit
    refine .inr (.digits fun d hd => ?_)
    obtain rfl | hrun := List.mem_cons.1 hd
    · exact hdigit
    · exact List.mem_takeWhile_imp hrun
  split
  · rename_i hquote
    obtain ⟨rfl, -⟩ : c = '"' ∧ cs.contains '"' = true := by simpa using hquote
    refine .inr (.quoted fun d hd => ?_)
    simpa using List.mem_takeWhile_imp hd
  · exact .inl (by simp)

namespace Word

variable {k : Kind} {text rest : List Char}

/-- A word is not empty. -/
theorem ne_nil (h : Word k text) : text ≠ [] := by
  cases h <;> exact List.cons_ne_nil _ _

/-- The kind of a word is significant. -/
theorem significant (h : Word k text) : k.significant = true := by
  cases h <;> rfl

/-- The kind of a word is none of the fixed kinds. -/
theorem not_same (h : Word k text) :
    ∀ fixed ∈ [space, opening, closing, unexpected], ¬ k.same fixed = true := by
  cases h <;> decide

/-- The kind of a word is not the one of what is left. -/
theorem ne_unexpected (h : Word k text) : k ≠ unexpected := by
  rintro rfl
  exact h.not_same unexpected (by simp) (by decide)

/-- A word that the first character decides for is recognised. -/
theorem firstOf_of_dispatch {c : Char} {cs : List Char} (h : Word k text)
    (hdispatch : Lexer.dispatch c cs = ⟨k, text, h.ne_nil⟩) :
    Lexer.firstOf (.parens plainAtoms) (c :: cs) = some ⟨k, text, h.ne_nil⟩ := by
  obtain hsame | ⟨run, -, hrest, -⟩ := Lexer.firstOf_eq_dispatch c cs
  · rw [hsame, hdispatch]
  · have hkind : k = unexpected := congrArg Match.kind (hdispatch.symm.trans hrest)
    exact absurd hkind h.ne_unexpected

/-- **A word is recognised** in front of everything in front of which an atom can end. -/
theorem firstOf (h : Word k text) (hrest : Delimits rest) :
    Lexer.firstOf (.parens plainAtoms) (text ++ rest) = some ⟨k, text, h.ne_nil⟩ := by
  cases h with
  | @name c run hc hrun =>
    refine firstOf_of_dispatch (.name hc hrun) ?_
    have hopening : c ≠ '(' := by rintro rfl; cases hc
    have hclosing : c ≠ ')' := by rintro rfl; cases hc
    have htake : (run ++ rest).takeWhile Lexer.continuesName = run := by
      rw [List.takeWhile_append_of_pos hrun, hrest.takeWhile_eq_nil rfl rfl, List.append_nil]
    simp [Lexer.dispatch, hopening, hclosing, Lexer.isBlank_of_beginsName hc, hc, htake]
  | @quoted inner hinner =>
    refine firstOf_of_dispatch (.quoted hinner) ?_
    have hblank : Text.isBlank '"' = false := by decide
    have hname : Lexer.beginsName '"' = false := by decide
    have htake : (inner ++ '"' :: rest).takeWhile (· != '"') = inner := by
      rw [List.takeWhile_append_of_pos (by simpa using hinner),
        List.takeWhile_cons_of_neg (by decide), List.append_nil]
    simp [Lexer.dispatch, hblank, hname, htake]
  | @digits c run hdigits =>
    refine firstOf_of_dispatch (.digits hdigits) ?_
    have hc := hdigits c List.mem_cons_self
    have hopening : c ≠ '(' := by rintro rfl; cases hc
    have hclosing : c ≠ ')' := by rintro rfl; cases hc
    have htake : (run ++ rest).takeWhile Char.isDigit = run := by
      rw [List.takeWhile_append_of_pos fun d hd => hdigits d (List.mem_cons_of_mem c hd),
        hrest.takeWhile_eq_nil rfl rfl, List.append_nil]
    simp [Lexer.dispatch, hopening, hclosing, isBlank_of_isDigit hc,
      Lexer.beginsName_of_isDigit hc, hc, htake]

/-- Digits are a word. -/
theorem of_isDigit (hne : text ≠ []) (hdigits : ∀ d ∈ text, d.isDigit = true) :
    Word number text := by
  obtain ⟨c, run, rfl⟩ := List.exists_cons_of_ne_nil hne
  exact .digits hdigits

/-- The value of a number is what its text is read as. -/
theorem value_eq_int_iff {v : Value} {position : Position} :
    Token.value ⟨number, text, position⟩ = .ok v ↔
      ∃ n, Number.readInt64 text = .ok n ∧ v = .int n := by
  have hvalue : Token.value ⟨number, text, position⟩ =
      Reading.int ⟨number.toRule, text, position⟩ := rfl
  rw [hvalue, Reading.int]
  cases Number.readInt64 text with
  | ok n => simp [eq_comm]
  | error fault => simp

/-- A word that is the notation of its own value survives. -/
theorem survives_of_render {v : Value} {a : Option Value} (h : Word k text)
    (hvalue : ∀ position, Token.value ⟨k, text, position⟩ = .ok v)
    (hcreate : Tree.create (.value v) = .ok (Tree.atom a))
    (hrender : (Tree.renderAtom a).toList = text) : Survives plainAtoms a := by
  intro rest hrest
  refine ⟨⟨k, text, h.ne_nil⟩, ?_, hrender.symm, h.significant, h.not_same, ?_⟩
  · rw [hrender, ← h.firstOf hrest]
    exact Lexer.matchNext_of_ahead (.start _)
  · exact fun position => ⟨v, hvalue position, hcreate⟩

/-- **The value of a word survives being written.** A name and a quoted text are written as they
were read, and a number is written in its digits. -/
theorem survives {v : Value} {a : Option Value} {position : Position} (h : Word k text)
    (hvalue : Token.value ⟨k, text, position⟩ = .ok v)
    (hcreate : Tree.create (.value v) = .ok (Tree.atom a)) : Survives plainAtoms a := by
  cases h with
  | @name c run hc hrun =>
    have hname : Word identifier (c :: run) := .name hc hrun
    by_cases hnull : c :: run = "null".toList
    · have hread (p : Position) : Token.value ⟨identifier, c :: run, p⟩ = .ok .null :=
        congrArg Except.ok (if_pos hnull)
      obtain rfl := Except.ok.inj ((hread position).symm.trans hvalue)
      obtain rfl := Tree.atom.inj (Except.ok.inj hcreate)
      exact hname.survives_of_render hread hcreate hnull.symm
    · have hread (p : Position) : Token.value ⟨identifier, c :: run, p⟩ =
          .ok (.text (String.ofList (c :: run))) :=
        congrArg Except.ok (if_neg hnull)
      obtain rfl := Except.ok.inj ((hread position).symm.trans hvalue)
      obtain rfl := Tree.atom.inj (Except.ok.inj hcreate)
      exact hname.survives_of_render hread hcreate String.toList_ofList
  | @quoted inner hinner =>
    have hread (p : Position) : Token.value ⟨quotation, '"' :: (inner ++ ['"']), p⟩ =
        .ok (.text (String.ofList ('"' :: (inner ++ ['"'])))) := rfl
    obtain rfl := Except.ok.inj ((hread position).symm.trans hvalue)
    obtain rfl := Tree.atom.inj (Except.ok.inj hcreate)
    exact (Word.quoted hinner).survives_of_render hread hcreate String.toList_ofList
  | @digits c run hdigits =>
    obtain ⟨n, hn, rfl⟩ := value_eq_int_iff.1 hvalue
    obtain rfl := Tree.atom.inj (Except.ok.inj hcreate)
    obtain ⟨hne, hagain, hread⟩ :=
      Number.readInt64_repr_of_readInt64 hdigits hn
    exact (Word.of_isDigit hne hagain).survives_of_render
      (fun _ => value_eq_int_iff.2 ⟨n, hread, rfl⟩) hcreate rfl

end Word

/-! ### The atoms of what was parsed -/

namespace TokenTree

mutual

/-- Every atom of a tree is the value of a token that it was read from. -/
theorem exists_token_of_mem_atoms {g : TokenTree} {t : Tree Value} {a : Option Value}
    (hread : g.read = .ok t) (ha : a ∈ t.atoms) :
    ∃ token ∈ g.flatten, token.IsAtom ∧ ∃ v, token.value = .ok v ∧
      Tree.create (.value v) = .ok (Tree.atom a) := by
  cases g with
  | leaf token atom =>
    obtain ⟨v, hv, hcreate⟩ := read_leaf_eq_ok hread
    obtain ⟨b, rfl, -⟩ := Tree.getD_of_create hcreate
    obtain rfl := List.mem_singleton.1 ha
    exact ⟨token, List.mem_singleton.2 rfl, atom, v, hv, hcreate⟩
  | node opening gs closing opens closes =>
    obtain ⟨ts, hts, rfl⟩ := read_node_eq_ok hread
    obtain ⟨token, htoken, h⟩ := exists_token_of_mem_atomsOfAll hts ha
    refine ⟨token, ?_, h⟩
    rw [flatten]
    simp [htoken]

/-- Every atom of a row of trees is the value of a token that they were read from. -/
theorem exists_token_of_mem_atomsOfAll {gs : List TokenTree} {ts : List (Tree Value)}
    {a : Option Value} (hread : readAll gs = .ok ts) (ha : a ∈ Tree.atomsOfAll ts) :
    ∃ token ∈ flattenAll gs, token.IsAtom ∧ ∃ v, token.value = .ok v ∧
      Tree.create (.value v) = .ok (Tree.atom a) := by
  cases gs with
  | nil =>
    obtain rfl := readAll_nil_eq_ok hread
    cases ha
  | cons g gs =>
    obtain ⟨t, ts, ht, hts, rfl⟩ := readAll_cons_eq_ok hread
    rw [Tree.atomsOfAll, List.mem_append] at ha
    rw [flattenAll]
    obtain hfirst | hothers := ha
    · obtain ⟨token, htoken, h⟩ := exists_token_of_mem_atoms ht hfirst
      exact ⟨token, List.mem_append_left _ htoken, h⟩
    · obtain ⟨token, htoken, h⟩ := exists_token_of_mem_atomsOfAll hts hothers
      exact ⟨token, List.mem_append_right _ htoken, h⟩

end

end TokenTree

/-- A token that was read and is an atom is a word. -/
theorem word_of_reads {source : List Char} {p q : Position} {tokens : List Token}
    (hreads : (Lexer.ofAtoms plainAtoms).Reads source p tokens q) {t : Token} (ht : t ∈ tokens)
    (hatom : t.IsAtom) : Word t.kind t.text := by
  obtain ⟨c, cs, m, hfirst, hkind, htext, hsig⟩ := hreads.exists_firstOf ht
  obtain ⟨hopening, hclosing, hunexpected⟩ := hatom
  rw [← hkind] at hsig
  rw [Token.is, ← hkind] at hopening hclosing hunexpected
  rw [← hkind, ← htext]
  obtain hsame | ⟨run, -, -, hrest⟩ := Lexer.firstOf_eq_dispatch c cs
  · obtain rfl := Option.some.inj (hsame.symm.trans hfirst)
    obtain hfixed | hword := dispatch_cases c cs
    · simp only [List.mem_cons, List.not_mem_nil, or_false] at hfixed
      obtain h | h | h | h := hfixed
      · rw [h] at hsig
        cases hsig
      · exact absurd (by rw [h]; decide) hopening
      · exact absurd (by rw [h]; decide) hclosing
      · exact absurd (by rw [h]; decide) hunexpected
    · exact hword
  · obtain rfl := Option.some.inj (hrest.symm.trans hfirst)
    have hself : unexpected.same unexpected = true := by decide
    exact absurd hself hunexpected

namespace Parser

/-- A tree that was parsed keeps within the limit, and all its atoms survive being written. -/
theorem survives_of_parse {source : List Char} {limit : Option Nat} {t : Tree Value}
    (h : (trees Value plainAtoms limit).parse source = .ok t) :
    Within limit t.depth ∧ ∀ a ∈ t.atoms, Survives plainAtoms a := by
  obtain ⟨tokens, q, stop, hreads, hend⟩ :=
    Lexer.exists_reads (.parens plainAtoms) source .start
  obtain ⟨g, rfl, hlimit, hread⟩ := exists_tokenTree_of_parse hreads hend h
  rw [TokenTree.depth_of_read hread] at hlimit
  refine ⟨hlimit, fun a ha => ?_⟩
  obtain ⟨token, htoken, hatom, v, hv, hcreate⟩ := TokenTree.exists_token_of_mem_atoms hread ha
  exact (word_of_reads hreads htoken hatom).survives hv hcreate

/-- **The notation is a normal form.** Over names, quoted texts and whole numbers, and under any
limit, let a source be parsed to a tree. Then the notation of this tree is parsed to the same tree,
and so the notation of what it is parsed to is itself. -/
theorem parse_render_of_parse {source : List Char} {limit : Option Nat} {t : Tree Value}
    (h : (trees Value plainAtoms limit).parse source = .ok t) :
    (trees Value plainAtoms limit).parse t.render.toList = .ok t ∧
      ((trees Value plainAtoms limit).parse t.render.toList).map Tree.render = .ok t.render := by
  obtain ⟨hlimit, hatoms⟩ := survives_of_parse h
  have hparse : (trees Value plainAtoms limit).parse t.render.toList = .ok t :=
    parse_render hlimit hatoms
  exact ⟨hparse, congrArg (Except.map Tree.render) hparse⟩

/-- The list `(007"a(b"null)` is written as `(7 "a(b" null)`, which is parsed to the same list. -/
theorem parse_render_of_parse_list :
    ∃ t : Tree Value,
      t = .list [.atom (some (.int 7)), .atom (some (.text "\"a(b\"")), .atom none] ∧
      (trees Value plainAtoms (some 1)).parse "(007\"a(b\"null)".toList = .ok t ∧
      t.render = "(7 \"a(b\" null)" ∧
      (trees Value plainAtoms (some 1)).parse t.render.toList = .ok t := by
  have hreads : (Lexer.ofAtoms plainAtoms).Reads "(007\"a(b\"null)".toList .start
      (TokenTree.flatten (.node ⟨opening, ['('], ⟨0, 1, 1⟩⟩
        [.leaf ⟨number, ['0', '0', '7'], ⟨1, 1, 2⟩⟩ (by decide),
          .leaf ⟨quotation, ['"', 'a', '(', 'b', '"'], ⟨4, 1, 5⟩⟩ (by decide),
          .leaf ⟨identifier, ['n', 'u', 'l', 'l'], ⟨9, 1, 10⟩⟩ (by decide)]
        ⟨closing, [')'], ⟨13, 1, 14⟩⟩ rfl rfl))
      ⟨14, 1, 15⟩ := by
    refine .cons_of_firstOf (.start _) rfl rfl fun h => ?_
    refine .cons_of_firstOf h rfl rfl fun h => ?_
    refine .cons_of_firstOf h rfl rfl fun h => ?_
    refine .cons_of_firstOf h rfl rfl fun h => ?_
    refine .cons_of_firstOf h rfl rfl fun h => ?_
    exact .nil _
  have hparse : (trees Value plainAtoms (some 1)).parse "(007\"a(b\"null)".toList = _ :=
    parse_eq_read (V := Value) rfl hreads (Lexer.peek_of_end rfl) fun n hn => by
      obtain rfl := Option.some.inj hn
      decide
  exact ⟨_, rfl, hparse, by decide, (parse_render_of_parse hparse).1⟩

end Parser

end Parens
