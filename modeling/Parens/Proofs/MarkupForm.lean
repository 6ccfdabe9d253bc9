import Parens.Markup
import Parens.Proofs.Cover
import Parens.Proofs.Grammar
import Parens.Proofs.Translation

/-!
# The Form of Markup Documents

What becomes of a list of markup is decided in two steps: blank texts are dropped when it is built,
and what its first child then is decides, when it is finished, whether it is an element. So the
document is told by recursion on the tree of tokens (`TokenTree.markup`): the children of a list
first, then those that are kept (`Node.kept`), then what the list is closed to (`Node.close`). The
parser makes just this node (`foldM_eq_markup`).

What is said about documents is then said about this recursion. Of a node inside a list,
`Node.Inner` says what form it has. It is no document, no blank text stands in a list or an element,
and every list that could be an element is one. Of the whole result, `Node.Whole` says the same, but
there an element is wrapped in a document.

Nothing is lost on the way but blank texts in lists. The leaves of the document are names, among
them the tags, and texts, and the tokens say them in the same order (`leavesFrom`).

## Main results

* `foldM_eq_markup`, `parseWith_eq_markup`: **the parser makes the document** that the tree of
  tokens stands for.
* `inner_markup`, `whole_markup`: the document has its form.
* `leavesFrom_flatten`: **the leaves of the document are those that the tokens say**.
* `parse_normal`: all of this for a source that is parsed.
-/

namespace Parens

namespace Markup

/-! ### Leaves -/

/-- A leaf of a document, or the tag of an element. -/
inductive Leaf where
  /-- A name. -/
  | name (s : String)
  /-- A text. -/
  | text (s : String)
deriving DecidableEq

namespace Node

mutual

/-- The leaves of a node from left to right, the tag of an element in front of its children. -/
def leaves : Node → List Leaf
  | atom name => name.toList.map .name
  | text s => [.text s]
  | list cs => leavesAll cs
  | element tag cs => .name tag :: leavesAll cs
  | document root => root.leaves

/-- The leaves of a row of nodes from left to right. -/
def leavesAll : List Node → List Leaf
  | [] => []
  | n :: ns => n.leaves ++ leavesAll ns

end

/-! ### Forms -/

/-- The form of a node inside a list. Names are there, and texts hold no quotes. No child is a blank
text. A list whose first child is a list of one name is an element. -/
inductive Inner : Node → Prop
  /-- A name. -/
  | atom (name : String) : Inner (.atom (some name))
  /-- A text. -/
  | text {s : String} : '"' ∉ s.toList → Inner (.text s)
  /-- A list that is no element. -/
  | list {cs : List Node} : (∀ c ∈ cs, Inner c) → (∀ c ∈ cs, c.isBlankText = false) →
      (∀ c, cs.head? = some c → c.tag? = none) → Inner (.list cs)
  /-- An element. -/
  | element {tag : String} {cs : List Node} : (∀ c ∈ cs, Inner c) →
      (∀ c ∈ cs, c.isBlankText = false) → Inner (.element tag cs)

/-- The form of a whole result: an element in a document, or anything else as it is inside a
list. -/
inductive Whole : Node → Prop
  /-- A document. -/
  | document {tag : String} {cs : List Node} :
      Inner (.element tag cs) → Whole (.document (.element tag cs))
  /-- Anything but an element. -/
  | other {n : Node} : Inner n → (∀ tag cs, n ≠ .element tag cs) → Whole n

/-! ### Closing a list -/

/-- The children that a list keeps: all but the blank texts. -/
def kept (nodes : List Node) : List Node := nodes.filter fun c => !c.isBlankText

/-- What a list with the given children is closed to, inside another list or at the top. -/
def close (enclosed : Bool) : List Node → Node
  | [] => .list []
  | first :: rest =>
    match first.tag? with
    | some tag => if enclosed then .element tag rest else .document (.element tag rest)
    | none => .list (first :: rest)

variable {n first : Node} {cs rest : List Node} {tag : String} {enclosed : Bool}

/-- A node with a tag is the list of its name. -/
theorem tag?_eq_some_iff : n.tag? = some tag ↔ n = .list [.atom (some tag)] := by
  constructor
  · intro h
    unfold tag? at h
    split at h
    · obtain rfl := Option.some.inj h
      rfl
    · cases h
  · rintro rfl
    rfl

/-- A list that begins with a tag is closed to an element. -/
theorem close_of_tag (h : first.tag? = some tag) : close enclosed (first :: rest) =
    if enclosed then .element tag rest else .document (.element tag rest) := by
  rw [close, h]

/-- A list that does not begin with a tag stays what it is. -/
theorem close_of_head? (h : ∀ c, cs.head? = some c → c.tag? = none) :
    close enclosed cs = .list cs := by
  cases cs with
  | nil => rfl
  | cons first rest => rw [close, h first rfl]

/-- A list begins with a tag or it does not. -/
theorem head?_cases (cs : List Node) :
    (∃ first tag rest, cs = first :: rest ∧ first.tag? = some tag) ∨
      ∀ c, cs.head? = some c → c.tag? = none := by
  cases cs with
  | nil => exact .inr fun c hc => by cases hc
  | cons first rest =>
    cases htag : first.tag? with
    | some tag => exact .inl ⟨first, tag, rest, rfl, htag⟩
    | none =>
      refine .inr fun c hc => ?_
      obtain rfl := Option.some.inj hc
      exact htag

/-- **A list is closed to a node of its form**, inside a list as well as at the top, whatever nodes
of their form it is given. -/
theorem inner_close {nodes : List Node} (hnodes : ∀ c ∈ nodes, c.Inner) :
    (close true (kept nodes)).Inner ∧ (close false (kept nodes)).Whole := by
  have hcs : ∀ c ∈ kept nodes, c.Inner := fun c hc => hnodes c (List.mem_filter.1 hc).1
  have hblank : ∀ c ∈ kept nodes, c.isBlankText = false := fun c hc => by
    simpa using (List.mem_filter.1 hc).2
  generalize kept nodes = cs at hcs hblank
  obtain ⟨first, tag, rest, rfl, htag⟩ | hhead := head?_cases cs
  · have helement : (Node.element tag rest).Inner :=
      .element (fun c hc => hcs c (List.mem_cons_of_mem _ hc)) fun c hc =>
        hblank c (List.mem_cons_of_mem _ hc)
    rw [close_of_tag htag, close_of_tag htag]
    exact ⟨helement, .document helement⟩
  · have hlist : (Node.list cs).Inner := .list hcs hblank hhead
    rw [close_of_head? hhead, close_of_head? hhead]
    exact ⟨hlist, .other hlist fun tag cs h => by cases h⟩

/-- **A list is closed without loss**: the tag is the one leaf of the first child. -/
theorem leaves_close (enclosed : Bool) (cs : List Node) :
    (close enclosed cs).leaves = leavesAll cs := by
  obtain ⟨first, tag, rest, rfl, htag⟩ | hhead := head?_cases cs
  · obtain rfl := tag?_eq_some_iff.1 htag
    rw [close_of_tag htag]
    cases enclosed <;> simp [leaves, leavesAll]
  · rw [close_of_head? hhead, leaves]

/-- What a list is closed to is no text. -/
theorem isBlankText_close (enclosed : Bool) (cs : List Node) :
    (close enclosed cs).isBlankText = false := by
  obtain ⟨first, tag, rest, rfl, htag⟩ | hhead := head?_cases cs
  · rw [close_of_tag htag]
    cases enclosed <;> rfl
  · rw [close_of_head? hhead]
    rfl

end Node

/-! ### Tokens of names and texts -/

/-- A quoted text without its two quotes. -/
def inner (text : List Char) : List Char := text.tail.dropLast

/-- How names and quoted texts are written. A name does not begin with a quote. A text stands
between two quotes and holds none. The value is the text of the token as it stands. -/
inductive Written : Token → Prop
  /-- A name. -/
  | name {t : Token} : t.is Vocabulary.quotation = false → t.text.head? ≠ some '"' →
      t.value = .ok (.text (String.ofList t.text)) → Written t
  /-- A quoted text. -/
  | quoted {t : Token} (s : List Char) : t.is Vocabulary.quotation = true →
      t.text = '"' :: (s ++ ['"']) → '"' ∉ s →
      t.value = .ok (.text (String.ofList t.text)) → Written t

/-- Between its quotes stands the text. -/
theorem inner_quoted (s : List Char) : inner ('"' :: (s ++ ['"'])) = s := by
  simp [inner]

/-- Without the quotes around it, a quoted text is what stands between them. -/
theorem unquote_quoted {s : List Char} (h : '"' ∉ s) :
    unquote (String.ofList ('"' :: (s ++ ['"']))) = String.ofList s := by
  have hquote : ∀ c ∈ ['"'], (c == '"') = true := by simp
  have hstay : ∀ c ∈ s, (c == '"') = false := by
    rintro c hc
    refine Bool.eq_false_iff.2 fun heq => ?_
    rw [beq_iff_eq.1 heq] at hc
    exact h hc
  have htrim : Text.trimBy (· == '"') (['"'] ++ s ++ ['"']) = s := by
    rw [Text.trimBy_append hquote hquote]
    exact Text.trimBy_eq_self (fun c hc => hstay c (List.mem_of_head? hc)) fun c hc =>
      hstay c (List.mem_of_getLast? hc)
  rw [unquote, String.toList_ofList]
  exact congrArg String.ofList htrim

/-- The node of a token. -/
def leafNode (t : Token) : Node :=
  if t.is Vocabulary.quotation then .text (String.ofList (inner t.text))
  else .atom (some (String.ofList t.text))

/-- What a token of a name or a text says, or nothing if it is a blank text in a list. -/
def leafOf (enclosed : Bool) (t : Token) : List Leaf :=
  if t.is Vocabulary.quotation then
    if enclosed && Text.trim (inner t.text) == [] then []
    else [.text (String.ofList (inner t.text))]
  else [.name (String.ofList t.text)]

/-- **What tokens say** in as many open lists: their names and, without quotes, their texts, except
for blank texts in lists. -/
def leavesFrom (lists : Nat) : List Token → List Leaf
  | [] => []
  | t :: ts =>
    match t.role with
    | .opening => leavesFrom (lists + 1) ts
    | .closing => leavesFrom (lists - 1) ts
    | .stray => leavesFrom lists ts
    | .atom => leafOf (decide (0 < lists)) t ++ leavesFrom lists ts

/-- The leaves of a node, or nothing if it is a blank text in a list. -/
def keptLeaves (enclosed : Bool) (n : Node) : List Leaf :=
  if enclosed && n.isBlankText then [] else n.leaves

/-- A token says what its node has for leaves. -/
theorem leafOf_eq_keptLeaves (enclosed : Bool) (t : Token) :
    leafOf enclosed t = keptLeaves enclosed (leafNode t) := by
  unfold leafOf leafNode
  split
  · simp [keptLeaves, Node.isBlankText, Node.leaves]
  · simp [keptLeaves, Node.isBlankText, Node.leaves]

/-- The leaves of what a list keeps are the kept leaves of its nodes. -/
theorem leavesAll_kept_cons (n : Node) (ns : List Node) :
    Node.leavesAll (Node.kept (n :: ns)) =
      keptLeaves true n ++ Node.leavesAll (Node.kept ns) := by
  cases hblank : n.isBlankText <;> simp [Node.kept, keptLeaves, hblank, Node.leavesAll]

/-- The node of a name or a text has its form. -/
theorem inner_leafNode {t : Token} (h : Written t) : (leafNode t).Inner := by
  cases h with
  | name hname _ _ =>
    rw [leafNode, hname]
    exact .atom _
  | quoted s hquoted htext hs _ =>
    rw [leafNode, hquoted, htext, inner_quoted]
    exact .text (by rwa [String.toList_ofList])

end Markup

/-! ### The document of a token tree -/

namespace TokenTree

open Markup

mutual

/-- The document that a tree of tokens stands for, inside a list or at the top. -/
def markup (enclosed : Bool) : TokenTree → Node
  | leaf t _ => leafNode t
  | node _ gs _ _ _ => Node.close enclosed (Node.kept (markupAll gs))

/-- The nodes of a row of trees in a list. -/
def markupAll : List TokenTree → List Node
  | [] => []
  | g :: gs => g.markup true :: markupAll gs

end

mutual

/-- **The document of a tree has its form** inside a list. -/
theorem inner_markup (g : TokenTree) (hwritten : ∀ t ∈ g.flatten, t.IsAtom → Written t) :
    (g.markup true).Inner := by
  cases g with
  | leaf t atom => exact inner_leafNode (hwritten t (by simp [flatten]) atom)
  | node opening gs closing opens closes =>
    exact (Node.inner_close
      (inner_markupAll gs fun t ht => hwritten t (by simp [flatten, ht]))).1

/-- The nodes of a row of trees have their form. -/
theorem inner_markupAll (gs : List TokenTree)
    (hwritten : ∀ t ∈ flattenAll gs, t.IsAtom → Written t) : ∀ n ∈ markupAll gs, n.Inner := by
  cases gs with
  | nil => simp [markupAll]
  | cons g gs =>
    rw [markupAll]
    exact List.forall_mem_cons.2
      ⟨inner_markup g fun t ht => hwritten t (by simp [flattenAll, ht]),
        inner_markupAll gs fun t ht => hwritten t (by simp [flattenAll, ht])⟩

end

/-- **The document of a tree has its form** at the top. -/
theorem whole_markup (g : TokenTree) (hwritten : ∀ t ∈ g.flatten, t.IsAtom → Written t) :
    (g.markup false).Whole := by
  cases g with
  | leaf t atom =>
    refine .other (inner_leafNode (hwritten t (by simp [flatten]) atom)) fun tag cs h => ?_
    simp only [markup, leafNode] at h
    split at h <;> cases h
  | node opening gs closing opens closes =>
    exact (Node.inner_close
      (inner_markupAll gs fun t ht => hwritten t (by simp [flatten, ht]))).2

mutual

/-- **The leaves of a document are those that the tokens say**, whatever tokens stand behind. -/
theorem leavesFrom_flatten (g : TokenTree) (lists : Nat) (rest : List Token) :
    leavesFrom lists (g.flatten ++ rest) =
      keptLeaves (decide (0 < lists)) (g.markup (decide (0 < lists))) ++
        leavesFrom lists rest := by
  cases g with
  | leaf t atom =>
    rw [flatten, List.singleton_append, leavesFrom, Token.role_eq_atom_iff.2 atom, markup,
      ← leafOf_eq_keptLeaves]
  | node opening gs closing opens closes =>
    have hopening : opening.role = .opening := Token.role_eq_opening_iff.2 opens
    have hclosing : closing.role = .closing := Token.role_eq_closing_iff.2 closes
    rw [flatten, List.cons_append, List.append_assoc, leavesFrom, hopening]
    change leavesFrom (lists + 1) (flattenAll gs ++ (closing :: rest)) = _
    rw [leavesFrom_flattenAll gs lists, leavesFrom, hclosing, markup, keptLeaves,
      Node.isBlankText_close, Bool.and_false, Node.leaves_close]
    rfl

/-- The leaves of what a list keeps are those that the tokens in the list say. -/
theorem leavesFrom_flattenAll (gs : List TokenTree) (lists : Nat) (rest : List Token) :
    leavesFrom (lists + 1) (flattenAll gs ++ rest) =
      Node.leavesAll (Node.kept (markupAll gs)) ++ leavesFrom (lists + 1) rest := by
  cases gs with
  | nil => rfl
  | cons g gs =>
    have henclosed : decide (0 < lists + 1) = true := by simp
    rw [flattenAll, List.append_assoc, leavesFrom_flatten g (lists + 1), henclosed,
      leavesFrom_flattenAll gs lists, markupAll, leavesAll_kept_cons, List.append_assoc]

end

end TokenTree

namespace Markup

open Vocabulary

/-! ### What the reduction makes -/

/-- The reduction never fails. -/
theorem reduce_total : Reduction.Total reduce := by
  rintro outer (content | node)
  · cases content with
    | value v =>
      cases v with
      | text s =>
        by_cases hquote : s.toList.head? = some '"'
        · exact ⟨_, if_pos hquote⟩
        · exact ⟨_, if_neg hquote⟩
      | null | bool | int | float => exact ⟨_, rfl⟩
    | list cs => exact ⟨_, rfl⟩
  · cases node with
    | list cs =>
      cases cs with
      | nil => exact ⟨_, rfl⟩
      | cons first rest =>
        simp only [reduce]
        cases first.tag? <;> exact ⟨_, rfl⟩
    | atom | text | element | document => exact ⟨_, rfl⟩

/-- A list is made of the children that it keeps. -/
theorem makeM_list (outer : Option (List Node)) (nodes : List Node) :
    Tree.makeM reduce outer (.list nodes) =
      .ok (Node.close outer.isSome (Node.kept nodes)) := by
  change reduce outer (.finish (.list (Node.kept nodes))) = _
  generalize Node.kept nodes = cs
  cases cs with
  | nil => rfl
  | cons first rest =>
    simp only [reduce, Node.close]
    cases first.tag? with
    | none => rfl
    | some tag => cases outer <;> rfl

/-- A name or a text is made of its token. -/
theorem makeM_value {t : Token} (h : Written t) (outer : Option (List Node)) :
    Tree.makeM reduce outer (.value (.text (String.ofList t.text))) = .ok (leafNode t) := by
  cases h with
  | name hname hhead _ =>
    have hbuild : reduce outer (.build (.value (.text (String.ofList t.text)))) =
        .ok (.atom (some (String.ofList t.text))) := by
      simp only [reduce, String.toList_ofList, if_neg hhead]
    rw [Tree.makeM, hbuild, leafNode, hname]
    rfl
  | quoted s hquoted htext hs _ =>
    have hbuild : reduce outer (.build (.value (.text (String.ofList t.text)))) =
        .ok (.text (String.ofList s)) := by
      simp only [reduce, String.toList_ofList, htext, List.head?_cons, if_true, unquote_quoted hs]
    rw [Tree.makeM, hbuild, leafNode, hquoted, htext, inner_quoted]
    rfl

mutual

/-- **The reduction makes the document** that a tree of tokens stands for. -/
theorem foldM_eq_markup {g : TokenTree} {u : Tree Value} (hread : g.read = .ok u)
    (hwritten : ∀ t ∈ g.flatten, t.IsAtom → Written t) (outer : Option (List Node)) :
    u.foldM reduce outer = .ok (g.markup outer.isSome) := by
  cases g with
  | leaf t atom =>
    have ht := hwritten t (by simp [TokenTree.flatten]) atom
    have hvalue : t.value = .ok (.text (String.ofList t.text)) := by
      cases ht with
      | name _ _ hvalue => exact hvalue
      | quoted _ _ _ _ hvalue => exact hvalue
    obtain ⟨v, hv, hcreate⟩ := TokenTree.read_leaf_eq_ok hread
    obtain rfl := Except.ok.inj (hvalue.symm.trans hv)
    obtain ⟨a, rfl, ha⟩ := Tree.getD_of_create hcreate
    rw [Tree.foldM, ha, makeM_value ht, TokenTree.markup]
  | node opening gs closing opens closes =>
    obtain ⟨us, hus, rfl⟩ := TokenTree.read_node_eq_ok hread
    rw [Tree.foldM, foldAllM_eq_markupAll hus
      (fun t ht => hwritten t (by simp [TokenTree.flatten, ht])) [], TokenTree.markup]
    exact makeM_list outer _

/-- The reduction makes the nodes of a row of trees, behind those made already. -/
theorem foldAllM_eq_markupAll {gs : List TokenTree} {us : List (Tree Value)}
    (hread : TokenTree.readAll gs = .ok us)
    (hwritten : ∀ t ∈ TokenTree.flattenAll gs, t.IsAtom → Written t) (nodes : List Node) :
    Tree.foldAllM reduce nodes us = .ok (nodes ++ TokenTree.markupAll gs) := by
  cases gs with
  | nil =>
    obtain rfl := TokenTree.readAll_nil_eq_ok hread
    simp [Tree.foldAllM, TokenTree.markupAll, pure, Except.pure]
  | cons g gs =>
    obtain ⟨u, us, hu, hus, rfl⟩ := TokenTree.readAll_cons_eq_ok hread
    rw [Tree.foldAllM, foldM_eq_markup hu
      (fun t ht => hwritten t (by simp [TokenTree.flattenAll, ht])) (some nodes)]
    change Tree.foldAllM reduce (nodes ++ [g.markup true]) us = _
    rw [foldAllM_eq_markupAll hus
      (fun t ht => hwritten t (by simp [TokenTree.flattenAll, ht])), TokenTree.markupAll,
      List.append_assoc, List.singleton_append]

end

/-! ### Sources -/

/-- Names and quoted texts are what the source begins with. -/
theorem anchored_atoms : Markup.atoms.Anchored := by
  intro k hk
  simp only [Markup.atoms, List.mem_cons, List.not_mem_nil, or_false] at hk
  obtain rfl | rfl := hk
  · exact anchored_plainAtoms identifier (by simp [plainAtoms])
  · exact anchored_plainAtoms quotation (by simp [plainAtoms])

/-- **The names and texts of a source** are written as such. -/
theorem written_of_reads {source : List Char} {tokens : List Token} {p q : Position}
    (hreads : (Lexer.ofAtoms Markup.atoms).Reads source p tokens q) :
    ∀ t ∈ tokens, t.IsAtom → Written t := by
  rintro ⟨kind, text, position⟩ ht hatom
  obtain ⟨c, cs, ⟨kind', text', hne⟩, hm, hkind, htext, hsig⟩ := hreads.exists_firstOf ht
  obtain rfl : kind' = kind := hkind
  obtain rfl : text' = text := htext
  have hmem : kind' ∈ Vocabulary.parens Markup.atoms := Lexer.kind_mem_of_firstOf hm
  have hfront : kind'.front (c :: cs) = text' := Lexer.front_of_firstOf hm
  simp only [Vocabulary.parens, Markup.atoms, List.cons_append, List.nil_append, List.mem_cons,
    List.not_mem_nil, or_false] at hmem
  obtain rfl | rfl | rfl | rfl | rfl | rfl := hmem
  · cases hsig
  · exact absurd rfl hatom.1
  · exact absurd rfl hatom.2.1
  · change identifier.front (c :: cs) = text' at hfront
    rw [Lexer.front_identifier] at hfront
    split at hfront
    · rename_i hbegins
      obtain rfl := hfront
      refine .name rfl (fun hhead => ?_) rfl
      rw [Option.some.inj hhead] at hbegins
      exact absurd hbegins (by decide)
    · exact absurd hfront.symm hne
  · rw [Lexer.front_quotation] at hfront
    split at hfront
    · rename_i hquote
      obtain rfl : c = '"' := by simpa using (Bool.and_eq_true_iff.1 hquote).1
      refine .quoted _ rfl hfront.symm (fun hmem => ?_) rfl
      exact absurd (List.all_eq_true.1 List.all_takeWhile _ hmem) (by decide)
    · exact absurd hfront.symm hne
  · exact absurd rfl hatom.2.2

/-- **A source that holds the tokens of a tree** is parsed to the document of the tree. -/
theorem parseWith_eq_markup {source : List Char} {g : TokenTree} {u : Tree Value}
    {q stop : Position} (hread : g.read = .ok u)
    (hreads : (Lexer.ofAtoms Markup.atoms).Reads source .start g.flatten q)
    (hend : (Lexer.ofAtoms Markup.atoms).peek source q = (.ok none, stop))
    (hlimit : Within parser.maxDepth g.depth) :
    (parser.parseWith reduce source).1 = .ok (g.markup false) := by
  have hfold := (Parser.parseUsing_eq_fold parser reduce (s := .start) hread hreads hend hlimit).1
  rw [Reduction.fold, Tree.fst_foldM, foldM_eq_markup hread (written_of_reads hreads) none] at hfold
  exact hfold

/-- A text that tokens say stands between the quotes of one of them. -/
theorem exists_quoted_of_mem_leavesFrom {tokens : List Token} {lists : Nat} {s : String}
    (hwritten : ∀ t ∈ tokens, t.IsAtom → Written t) (h : .text s ∈ leavesFrom lists tokens) :
    ∃ t ∈ tokens, t.is quotation = true ∧ t.text = '"' :: (s.toList ++ ['"']) := by
  induction tokens generalizing lists with
  | nil => cases h
  | cons t ts ih =>
    have hbehind : ∀ {lists : Nat}, .text s ∈ leavesFrom lists ts →
        ∃ u ∈ t :: ts, u.is quotation = true ∧ u.text = '"' :: (s.toList ++ ['"']) := by
      intro lists hmem
      obtain ⟨u, hu, htext⟩ := ih (fun u hu => hwritten u (List.mem_cons_of_mem _ hu)) hmem
      exact ⟨u, List.mem_cons_of_mem _ hu, htext⟩
    rw [leavesFrom] at h
    cases hrole : t.role with
    | opening | closing | stray =>
      rw [hrole] at h
      exact hbehind h
    | atom =>
      rw [hrole] at h
      obtain hleaf | hmem := List.mem_append.1 h
      · refine ⟨t, List.mem_cons_self, ?_⟩
        cases hwritten t List.mem_cons_self (Token.role_eq_atom_iff.1 hrole) with
        | name hname _ _ => simp [leafOf, hname] at hleaf
        | quoted cs hquoted htext _ _ =>
          rw [leafOf, if_pos hquoted, htext, inner_quoted] at hleaf
          split at hleaf
          · cases hleaf
          · obtain rfl := Leaf.text.inj (List.mem_singleton.1 hleaf)
            exact ⟨hquoted, by rw [htext, String.toList_ofList]⟩
      · exact hbehind hmem

/-- **Markup comes to its form, and nothing is lost.** If the markup of a source is accepted, then
the result is a document with an element, or anything but an element. No node within is a document.
No list and no element has a child that is a blank text, and no list begins with a list of one name.
No text holds a quote. The scan of the source lists tokens, and the leaves of the result, the tag of
an element in front of its children, are what the names and the quoted texts among them say, without
the quotes and without the blank texts in lists. Every text is the text of a token without its two
quotes. -/
theorem parse_normal (source : List Char) (root : Node)
    (h : (parser.parseWith reduce source).1 = .ok root) :
    root.Whole ∧ ∃ tokens s,
      (Lexer.firstMatch (.parens Markup.atoms)).scan source .start = (.ok tokens, s) ∧
      root.leaves = leavesFrom 0 tokens ∧
      ∀ s, .text s ∈ root.leaves →
        ∃ t ∈ tokens, t.is quotation = true ∧ t.text = '"' :: (s.toList ++ ['"']) := by
  obtain ⟨tokens, s, hscan⟩ := Lexer.exists_scan_ofAtoms anchored_atoms source
  obtain ⟨q, hreads, hend⟩ := Lexer.exists_reads_of_scan hscan
  have hwritten := written_of_reads hreads
  have hdiagnose := (Parser.exists_eq_ok_iff_of_map_eq (Parser.map_parseUsing_eq_diagnose
    (p := parser) (s := .start) reduce_total hreads hend)).1 ⟨root, h⟩
  obtain ⟨g, u, rfl, hlimit, hread⟩ := Parser.exists_tokenTree hdiagnose
  obtain rfl :=
    Except.ok.inj (h.symm.trans (parseWith_eq_markup hread hreads hend hlimit))
  have hleaves : (g.markup false).leaves = leavesFrom 0 g.flatten := by
    have hsaid := g.leavesFrom_flatten 0 []
    rw [List.append_nil, leavesFrom, List.append_nil] at hsaid
    exact hsaid.symm
  refine ⟨g.whole_markup hwritten, g.flatten, s, hscan, hleaves, fun s hs => ?_⟩
  rw [hleaves] at hs
  exact exists_quoted_of_mem_leavesFrom hwritten hs

/-- In `((p)" ""a")` the blank text is dropped, and the list is an element, which a document
wraps. -/
theorem parse_normal_element :
    let source := ['(', '(', 'p', ')', '"', ' ', '"', '"', 'a', '"', ')']
    let root := Node.document (.element "p" [.text "a"])
    (parser.parseWith reduce source).1 = .ok root ∧ root.Whole ∧
      ∃ tokens s, (Lexer.firstMatch (.parens Markup.atoms)).scan source .start = (.ok tokens, s) ∧
        leavesFrom 0 tokens = [.name "p", .text "a"] := by
  intro source root
  let name : Kind := { identifier with reading := some Reading.verbatim }
  let g : TokenTree := .node ⟨opening, ['('], ⟨0, 1, 1⟩⟩
    [.node ⟨opening, ['('], ⟨1, 1, 2⟩⟩ [.leaf ⟨name, ['p'], ⟨2, 1, 3⟩⟩ (by decide)]
        ⟨closing, [')'], ⟨3, 1, 4⟩⟩ rfl rfl,
      .leaf ⟨quotation, ['"', ' ', '"'], ⟨4, 1, 5⟩⟩ (by decide),
      .leaf ⟨quotation, ['"', 'a', '"'], ⟨7, 1, 8⟩⟩ (by decide)]
    ⟨closing, [')'], ⟨10, 1, 11⟩⟩ rfl rfl
  have hreads : (Lexer.ofAtoms Markup.atoms).Reads source .start g.flatten ⟨11, 1, 12⟩ := by
    refine .cons_of_firstOf (.start _) rfl rfl fun h => ?_
    refine .cons_of_firstOf h rfl rfl fun h => ?_
    refine .cons_of_firstOf h rfl rfl fun h => ?_
    refine .cons_of_firstOf h rfl rfl fun h => ?_
    refine .cons_of_firstOf h rfl rfl fun h => ?_
    refine .cons_of_firstOf h rfl rfl fun h => ?_
    refine .cons_of_firstOf h rfl rfl fun h => ?_
    exact .nil _
  have hlimit : Within parser.maxDepth g.depth := fun n hn => by
    obtain rfl := Option.some.inj hn
    decide
  have hparse : (parser.parseWith reduce source).1 = .ok root :=
    parseWith_eq_markup rfl hreads (Lexer.peek_of_end rfl) hlimit
  obtain ⟨hwhole, tokens, s, hscan, hleaves, -⟩ := parse_normal source root hparse
  exact ⟨hparse, hwhole, tokens, s, hscan, hleaves.symm⟩

end Markup

end Parens
