import Parens.Proofs.TokenTree

/-!
# Folding a Tree by a Reduction

What a reduction makes of a whole tree, without a parser: `Tree.foldM` goes through the tree from
left to right, children before their list, and calls the reduction twice for every node. It is
written for any monad. In `Recorded` it can fail and remembers the calls that were made, which
is all that can be seen of a reduction.

The parser folds what it reads: over the tokens of a token tree its run comes to what the fold
over the tree of their values comes to (`realizes_flatten`). The induction is on the token tree;
the stack, the tokens behind the tree and the calls made before are arbitrary.

## Main results

* `realizes_flatten`: **a run over the tokens of a tree folds it**.
* `exists_parseRoot_of_flatten`: **an expression is read with exactly its tokens**, by any reduction
  that has no objection.
* `foldM_plain`: the plain reduction rebuilds a tree.
-/

namespace Parens

/-! ### The fold -/

/-- Computations that may fail and that record the calls of a reduction. -/
abbrev Recorded (E : Type) := ExceptT Error (StateM (Array (Call E)))

/-- A reduction that records its calls. A call is recorded also if it fails. -/
def Reduction.recorded {E : Type} (reduction : Reduction E) (outer : Option (List E))
    (step : Step E) : Recorded E E :=
  ExceptT.mk fun calls => (reduction outer step, calls.push ⟨outer, step⟩)

namespace Tree

section

variable {m : Type → Type} [Monad m] {E : Type}

/-- Both calls for one node: what is built is finished. -/
def makeM (reduce : Option (List E) → Step E → m E) (outer : Option (List E))
    (content : Content E) : m E := do
  let node ← reduce outer (.build content)
  reduce outer (.finish node)

mutual

/-- The node that a reduction makes of a tree with the nodes `outer` in front of it, if a list
encloses it. -/
def foldM (reduce : Option (List E) → Step E → m E) (outer : Option (List E)) :
    Tree Value → m E
  | atom v => makeM reduce outer (.value (v.getD .null))
  | list cs => do
    let nodes ← foldAllM reduce [] cs
    makeM reduce outer (.list nodes)

/-- The nodes that a reduction makes of the trees in a list, behind those made already. -/
def foldAllM (reduce : Option (List E) → Step E → m E) (nodes : List E) :
    List (Tree Value) → m (List E)
  | [] => return nodes
  | t :: ts => do
    let node ← foldM reduce (some nodes) t
    foldAllM reduce (nodes ++ [node]) ts

end

end

/-- The raw value of an atom, back from the atom that was built of it. -/
theorem getD_of_create {v : Value} {u : Tree Value} (h : create (.value v) = .ok u) :
    ∃ a, u = atom a ∧ a.getD .null = v := by
  cases v <;> obtain rfl := Except.ok.inj h <;> exact ⟨_, rfl, rfl⟩

/-! ### Forgetting the calls -/

/-- A recorded sequence comes to what the sequence comes to. -/
theorem fst_bind {E α β : Type} {x : Recorded E α} {f : α → Recorded E β} {y : Except Error α}
    {g : α → Except Error β} {calls : Array (Call E)} (hx : (x calls).1 = y)
    (hf : ∀ a calls, (f a calls).1 = g a) : ((x >>= f) calls).1 = y >>= g := by
  have hbind : (x >>= f) calls = ExceptT.bindCont f (x calls).1 (x calls).2 := rfl
  rw [hbind, hx]
  cases y with
  | error e => rfl
  | ok a => exact hf a _

/-- A recorded pair of calls makes the node that the calls make. -/
theorem fst_makeM {E : Type} (reduction : Reduction E) (outer : Option (List E))
    (content : Content E) (calls : Array (Call E)) :
    (makeM reduction.recorded outer content calls).1 = makeM reduction outer content :=
  fst_bind rfl fun _ _ => rfl

mutual

/-- **A recorded fold makes the node that the fold makes.** -/
theorem fst_foldM {E : Type} (reduction : Reduction E) (outer : Option (List E))
    (t : Tree Value) (calls : Array (Call E)) :
    (t.foldM reduction.recorded outer calls).1 = t.foldM reduction outer := by
  cases t with
  | atom v => exact fst_makeM reduction outer _ calls
  | list ts =>
    rw [foldM, foldM]
    exact fst_bind (fst_foldAllM reduction [] ts calls) fun nodes calls =>
      fst_makeM reduction outer (.list nodes) calls

/-- A recorded fold of a row makes the nodes that the fold makes. -/
theorem fst_foldAllM {E : Type} (reduction : Reduction E) (nodes : List E)
    (ts : List (Tree Value)) (calls : Array (Call E)) :
    (foldAllM reduction.recorded nodes ts calls).1 = foldAllM reduction nodes ts := by
  cases ts with
  | nil => rfl
  | cons t ts =>
    rw [foldAllM, foldAllM]
    exact fst_bind (fst_foldM reduction (some nodes) t calls) fun node calls =>
      fst_foldAllM reduction (nodes ++ [node]) ts calls

end

/-! ### The plain reduction -/

variable {V : Type} [Scalar V]

/-- The plain reduction makes the node that is built. -/
theorem makeM_plain (outer : Option (List (Tree V))) (content : Content (Tree V)) :
    makeM (Reduction.plain create) outer content = create content := by
  rw [makeM, Reduction.plain_build]
  cases create content <;> rfl

mutual

/-- **The plain reduction rebuilds a tree** of raw values as the tree that its tokens read as. -/
theorem foldM_plain {g : TokenTree} {t : Tree Value} (hread : g.read = .ok t)
    (outer : Option (List (Tree V))) :
    t.foldM (Reduction.plain create) outer = g.read (V := V) := by
  cases g with
  | leaf token atom =>
    obtain ⟨v, hv, hcreate⟩ := TokenTree.read_leaf_eq_ok hread
    obtain ⟨a, rfl, ha⟩ := getD_of_create hcreate
    rw [foldM, makeM_plain, ha, TokenTree.read, hv]
    rfl
  | node opening gs closing opens closes =>
    obtain ⟨ts, hts, rfl⟩ := TokenTree.read_node_eq_ok hread
    rw [foldM, TokenTree.read, foldAllM_plain hts []]
    cases TokenTree.readAll (V := V) gs with
    | error e => rfl
    | ok us => exact makeM_plain outer (.list us)

/-- The plain reduction rebuilds a row of trees behind the nodes made already. -/
theorem foldAllM_plain {gs : List TokenTree} {ts : List (Tree Value)}
    (hread : TokenTree.readAll gs = .ok ts) (nodes : List (Tree V)) :
    foldAllM (Reduction.plain create) nodes ts =
      (TokenTree.readAll (V := V) gs).map (nodes ++ ·) := by
  cases gs with
  | nil =>
    obtain rfl := TokenTree.readAll_nil_eq_ok hread
    simp [foldAllM, TokenTree.readAll, Except.map, pure, Except.pure]
  | cons g gs =>
    obtain ⟨t, ts, ht, hts, rfl⟩ := TokenTree.readAll_cons_eq_ok hread
    rw [foldAllM, TokenTree.readAll, foldM_plain ht]
    cases g.read (V := V) with
    | error e => rfl
    | ok u =>
      change foldAllM (Reduction.plain create) (nodes ++ [u]) ts = _
      rw [foldAllM_plain hts]
      cases TokenTree.readAll (V := V) gs with
      | error e => rfl
      | ok us => simp [Except.map, bind, Except.bind, pure, Except.pure]

end

end Tree

/-- What a reduction makes of a whole tree, and the calls that it takes. -/
def Reduction.fold {E : Type} (reduction : Reduction E) (t : Tree Value) :
    Except Error E × Array (Call E) :=
  t.foldM reduction.recorded none #[]

/-- What the plain reduction makes of a whole tree is the tree that its tokens read as. -/
theorem Reduction.fst_fold_plain {V : Type} [Scalar V] {g : TokenTree} {t : Tree Value}
    (hread : g.read = .ok t) :
    ((Reduction.plain (Tree.create (V := V))).fold t).1 = g.read (V := V) := by
  rw [Reduction.fold, Tree.fst_foldM, Tree.foldM_plain hread]

namespace Parser

variable {E : Type} {α β : Type}

/-! ### Runs that carry out a computation -/

/-- A result is what a computation comes to, given its outcome and the calls recorded: where
the computation fails, the run failed with the same error after the same calls, and otherwise
it went on from the place `q`. -/
def Realizes (q : Position) (go : α → Session → Array (Call E) → Except Halt E × State E)
    (result : Except Halt E × State E) : Except Error α × Array (Call E) → Prop
  | (.error e, calls) => ∃ st, st.calls = calls ∧ result = (.error (.failed e), st)
  | (.ok a, calls) => ∃ s : Session, s.position = q ∧ result = go a s calls

/-- What goes on by carrying out a second computation carries out both. -/
theorem Realizes.bind {q r : Position} {result : Except Halt E × State E}
    {go : α → Session → Array (Call E) → Except Halt E × State E}
    {go' : β → Session → Array (Call E) → Except Halt E × State E}
    {x : Recorded E α} {f : α → Recorded E β} {calls : Array (Call E)}
    (hx : Realizes q go result (x calls))
    (hf : ∀ a s calls, s.position = q → Realizes r go' (go a s calls) (f a calls)) :
    Realizes r go' result ((x >>= f) calls) := by
  have hbind : (x >>= f) calls = ExceptT.bindCont f (x calls).1 (x calls).2 := rfl
  rw [hbind]
  generalize x calls = outcome at hx
  obtain ⟨found, calls⟩ := outcome
  cases found with
  | error e => exact hx
  | ok a =>
    obtain ⟨s, hs, rfl⟩ := hx
    exact hf a s calls hs

/-- Making a node calls the reduction twice, and records both calls. -/
theorem reduce_eq_makeM (reduction : Reduction E) (outer : Option (List E)) (content : Content E)
    (st : State E) :
    reduce reduction outer content st =
      ((Tree.makeM reduction.recorded outer content st.calls).1,
        { st with calls := (Tree.makeM reduction.recorded outer content st.calls).2 }) := by
  have hmake : Tree.makeM reduction.recorded outer content st.calls =
      ExceptT.bindCont (fun node => reduction.recorded outer (.finish node))
        (reduction outer (.build content)) (st.calls.push ⟨outer, .build content⟩) := rfl
  rw [hmake]
  unfold reduce
  simp only
  cases reduction outer (.build content) <;> rfl

/-- Making a node and putting it in its place carries out the calls for the node. -/
theorem realizes_attach (p : Parser E) (reduction : Reduction E) (l : Lexer) (source : List Char)
    (content : Content E) (st : State E) :
    Realizes st.session.position
      (fun node s calls => p.proceed reduction l source (put node ⟨s, st.stack, calls⟩))
      (p.proceed reduction l source (attach reduction content st))
      (Tree.makeM reduction.recorded st.outer content st.calls) := by
  rw [attach_eq_put, reduce_eq_makeM]
  generalize Tree.makeM reduction.recorded st.outer content st.calls = outcome
  obtain ⟨made, calls⟩ := outcome
  cases made with
  | error e => exact ⟨_, rfl, rfl⟩
  | ok node => exact ⟨st.session, rfl, rfl⟩

/-! ### The run over a token tree -/

mutual

/-- **A run over the tokens of a tree folds it.** The node that the fold makes is put in its
place, and the run goes on behind the tree. -/
theorem realizes_flatten {p : Parser E} {reduction : Reduction E} {l : Lexer}
    {source : List Char} {g : TokenTree} {t : Tree Value} {q : Position} (st : State E)
    (hread : g.read = .ok t) (hreads : l.Reads source st.session.position g.flatten q)
    (hlimit : Within p.maxDepth (st.stack.length + g.depth)) :
    Realizes q (fun node s calls => p.proceed reduction l source (put node ⟨s, st.stack, calls⟩))
      (p.run reduction l source st) (t.foldM reduction.recorded st.outer st.calls) := by
  cases g with
  | leaf token atom =>
    obtain ⟨v, hv, hcreate⟩ := TokenTree.read_leaf_eq_ok hread
    obtain ⟨a, rfl, ha⟩ := Tree.getD_of_create hcreate
    obtain ⟨hpeek, hrest⟩ := hreads.cons_inv
    obtain rfl := hrest.nil_inv
    obtain ⟨s, hs, hrun⟩ :=
      exists_run_of_accepted (p := p) reduction st hpeek (verdict_eq_atom_iff.2 ⟨atom, hv⟩)
    rw [hrun, Tree.foldM, ha, ← hs]
    exact realizes_attach p reduction l source (.value v) { st with session := s }
  | node opening cs closing opens closes =>
    obtain ⟨ts, hts, rfl⟩ := TokenTree.read_node_eq_ok hread
    obtain ⟨hpeek, hrest⟩ := hreads.cons_inv
    obtain ⟨r, hchildren, hlast⟩ := hrest.split
    obtain ⟨hpeek', hrest'⟩ := hlast.cons_inv
    obtain rfl := hrest'.nil_inv
    rw [TokenTree.depth] at hlimit
    obtain ⟨s, hs, hrun⟩ := exists_run_of_accepted reduction st hpeek
      (verdict_eq_opening_iff.2 ⟨opens, hlimit.mono (by omega)⟩)
    rw [hrun, Tree.foldM]
    rw [← hs] at hchildren
    -- The children are folded on top of the stack as it is, and the closing token takes them off.
    refine Realizes.bind
      (realizes_flattenAll st.stack hts hchildren
        (hlimit.mono (by omega))) ?_
    intro nodes s calls hs
    rw [← hs] at hpeek'
    obtain ⟨s', hs', hrun'⟩ := exists_run_of_accepted (p := p) reduction
      ⟨s, nodes :: st.stack, calls⟩ hpeek' (verdict_eq_closing_iff.2 ⟨closes, Nat.succ_pos _⟩)
    rw [hrun', ← hs']
    exact realizes_attach p reduction l source (.list nodes) ⟨s', st.stack, calls⟩

/-- A run over the tokens of a row of trees in a list folds them behind the nodes made
already. -/
theorem realizes_flattenAll {p : Parser E} {reduction : Reduction E} {l : Lexer}
    {source : List Char} {gs : List TokenTree} {ts : List (Tree Value)} {q : Position}
    {s : Session} {nodes : List E} (stack : List (List E)) {calls : Array (Call E)}
    (hread : TokenTree.readAll gs = .ok ts)
    (hreads : l.Reads source s.position (TokenTree.flattenAll gs) q)
    (hlimit : Within p.maxDepth (stack.length + 1 + TokenTree.depthOfAll gs)) :
    Realizes q (fun nodes s calls => p.run reduction l source ⟨s, nodes :: stack, calls⟩)
      (p.run reduction l source ⟨s, nodes :: stack, calls⟩)
      (Tree.foldAllM reduction.recorded nodes ts calls) := by
  cases gs with
  | nil =>
    obtain rfl := TokenTree.readAll_nil_eq_ok hread
    exact ⟨s, hreads.nil_inv, rfl⟩
  | cons g gs =>
    obtain ⟨t, ts, ht, hts, rfl⟩ := TokenTree.readAll_cons_eq_ok hread
    obtain ⟨r, htree, hrest⟩ := hreads.split
    rw [TokenTree.depthOfAll] at hlimit
    rw [Tree.foldAllM]
    refine Realizes.bind
      (realizes_flatten ⟨s, nodes :: stack, calls⟩ ht htree
        (hlimit.mono (by simp only [List.length_cons]; omega))) ?_
    intro node s calls hs
    rw [← hs] at hrest
    exact realizes_flattenAll stack hts hrest (hlimit.mono (by omega))

end

/-! ### Expressions and whole sources -/

/-- **An expression is read with exactly its tokens.** Where the tokens of a tree lie ahead, and the
reduction has no objection, the result is the node that the reduction makes of the tree, and the
lexer stands where the tokens end. -/
theorem exists_parseRoot_of_flatten (p : Parser E) (reduction : Reduction E) {l : Lexer}
    {source : List Char} {s : Session} {g : TokenTree} {t : Tree Value} {q : Position} {root : E}
    (hread : g.read = .ok t) (hreads : l.Reads source s.position g.flatten q)
    (hlimit : Within p.maxDepth g.depth) (hroot : (reduction.fold t).1 = .ok root) :
    ∃ st, p.parseRoot reduction l source s = (.ok root, st) ∧ st.session.position = q := by
  have hrealizes : Realizes q _ (p.parseRoot reduction l source s) (reduction.fold t) :=
    realizes_flatten (.start s) hread hreads (hlimit.mono (by simp [State.start]))
  generalize reduction.fold t = outcome at hrealizes hroot
  obtain ⟨made, calls⟩ := outcome
  obtain rfl : made = .ok root := hroot
  obtain ⟨s', hs', hrun⟩ := hrealizes
  exact ⟨_, hrun, hs'⟩

/-- **A source that holds the tokens of a tree** is parsed to the fold over the tree, with the
same calls. -/
theorem parseUsing_eq_fold (p : Parser E) (reduction : Reduction E) {l : Lexer}
    {source : List Char} {g : TokenTree} {t : Tree Value} {q stop : Position} {s : Session}
    (hread : g.read = .ok t) (hreads : l.Reads source s.position g.flatten q)
    (hend : l.peek source q = (.ok none, stop)) (hlimit : Within p.maxDepth g.depth) :
    (p.parseUsing reduction l source s).1 = (reduction.fold t).1.mapError Halt.failed ∧
      (p.parseUsing reduction l source s).2.calls = (reduction.fold t).2 := by
  have hrealizes : Realizes q _ (p.run reduction l source (begin l source s))
      (reduction.fold t) :=
    realizes_flatten (begin l source s) hread hreads (hlimit.mono (by simp [begin, State.start]))
  rw [parseUsing_eq_conclude]
  generalize p.run reduction l source _ = result at hrealizes
  generalize reduction.fold t = outcome at hrealizes
  obtain ⟨made, calls⟩ := outcome
  cases made with
  | error e =>
    obtain ⟨st, rfl, rfl⟩ := hrealizes
    exact ⟨rfl, rfl⟩
  | ok root =>
    obtain ⟨s', hs', rfl⟩ := hrealizes
    rw [← hs'] at hend
    obtain ⟨s'', hfinish⟩ := exists_finish_eq_ok root ⟨s', [], calls⟩ hend
    change (finish l source root ⟨s', [], calls⟩).1 = _ ∧
      (finish l source root ⟨s', [], calls⟩).2.calls = _
    rw [hfinish]
    exact ⟨rfl, rfl⟩

/-- **A source that holds the tokens of a tree** is parsed to the tree of scalars that the tokens
read as. -/
theorem parse_eq_read {V : Type} [Scalar V] {atoms : Vocabulary} {limit : Option Nat}
    {source : List Char} {g : TokenTree} {t : Tree Value} {q stop : Position}
    (hread : g.read = .ok t)
    (hreads : (Lexer.ofAtoms atoms).Reads source .start g.flatten q)
    (hend : (Lexer.ofAtoms atoms).peek source q = (.ok none, stop))
    (hlimit : Within limit g.depth) :
    (trees V atoms limit).parse source = g.read.mapError Halt.failed := by
  have hparse : (trees V atoms limit).parse source =
      ((Reduction.plain Tree.create).fold t).1.mapError Halt.failed :=
    (parseUsing_eq_fold (trees V atoms limit) (trees V atoms limit).plain (s := .start) hread
      hreads hend hlimit).1
  rw [hparse, Reduction.fst_fold_plain hread]

end Parser

end Parens
