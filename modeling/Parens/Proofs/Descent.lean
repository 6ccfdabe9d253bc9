import Parens.Proofs.Strides

/-!
# The Parser as a Recursion

The parser keeps the open lists on a stack. The grammar suggests a recursion instead: a call reads
one expression, and where it opens a list, it calls itself for one node of the list after the other.
`Descends` is what such a call comes to, and how many calls are nested in it at most, itself
included. `Gathers` is the loop over the nodes of a list, inside a call.

What the recursion comes to, a run of the parser comes to as well, by induction on the recursion
(`Descends.resumes`): the open lists on the stack belong to the calls that are not over yet. And
the recursion comes to something wherever it begins, by induction on what is left of the source
(`exists_gathers`). So it ends, and a limit on the open lists is a limit on the nested calls.

## Main results

* `Descends.resumes`, `Gathers.resumes`: **a run does what the recursion does**.
* `exists_descends`, `exists_gathers`: the recursion ends.
* `Descends.nested_le`: at most one call more is nested than lists may be open.
* `loops_end`: searches, scans and parses end, after no more tokens than bytes.
-/

namespace Parens.Parser

variable {E α : Type}

/-! ### The recursion -/

/-- What a node that was made, or refused, is to the call that asked for it. -/
def made : Except Error E × State E → Except Halt E × State E
  | (.ok node, st) => (.ok node, st)
  | (.error e, st) => (.error (.failed e), st)

mutual

/-- A call for one expression, inside of `lists` lists and behind the nodes `outer` of the innermost
one, with the token `found` ahead: what it comes to, and how many calls are nested at most. -/
inductive Descends (p : Parser E) (reduction : Reduction E) (l : Lexer) (source : List Char) :
    Nat → Option (List E) → Option Token → State E → Except Halt E × State E → Nat → Prop
  /-- No expression begins here. -/
  | misplaced {lists : Nat} {outer : Option (List E)} {found : Option Token} {st st' : State E}
      {halt : Halt} :
      (∀ t ∈ found, ¬ t.is Vocabulary.opening = true ∧ ¬ t.IsAtom) →
      complain found Vocabulary.opening st = .done (.error halt) st' →
      Descends p reduction l source lists outer found st (.error halt, st') 1
  /-- A list stands too deep. -/
  | tooDeep {lists limit : Nat} {outer : Option (List E)} {t : Token} {st : State E} :
      t.is Vocabulary.opening = true → p.maxDepth = some limit → limit ≤ lists →
      Descends p reduction l source lists outer (some t) st
        (.error (.failed (.tooDeep limit t.position)), st) 1
  /-- The value of an atom is refused. -/
  | valueless {lists : Nat} {outer : Option (List E)} {t : Token} {st : State E} {e : Error} :
      t.IsAtom → t.value = .error e →
      Descends p reduction l source lists outer (some t) st (.error (.failed e), st.consume t) 1
  /-- An atom is read. -/
  | atom {lists : Nat} {outer : Option (List E)} {t : Token} {st : State E} {v : Value} :
      t.IsAtom → t.value = .ok v →
      Descends p reduction l source lists outer (some t) st
        (made (reduce reduction outer (.value v) (st.consume t))) 1
  /-- Something is wrong inside of a list. -/
  | broken {lists n : Nat} {outer : Option (List E)} {t : Token} {st st' : State E} {halt : Halt} :
      t.is Vocabulary.opening = true → Within p.maxDepth (lists + 1) →
      Gathers p reduction l source (lists + 1) [] (st.consume t) (.error halt, st') n →
      Descends p reduction l source lists outer (some t) st (.error halt, st') (n + 1)
  /-- A list is read. -/
  | list {lists n : Nat} {outer : Option (List E)} {t : Token} {st st' : State E}
      {nodes : List E} :
      t.is Vocabulary.opening = true → Within p.maxDepth (lists + 1) →
      Gathers p reduction l source (lists + 1) [] (st.consume t) (.ok nodes, st') n →
      Descends p reduction l source lists outer (some t) st
        (made (reduce reduction outer (.list nodes) st')) (n + 1)

/-- The loop over the nodes of a list, inside of `lists` lists and behind the nodes read already:
what it comes to, and how many calls are nested in it at most. -/
inductive Gathers (p : Parser E) (reduction : Reduction E) (l : Lexer) (source : List Char) :
    Nat → List E → State E → Except Halt (List E) × State E → Nat → Prop
  /-- The lexer halts. -/
  | halts {lists : Nat} {nodes : List E} {st : State E} {halt : Halt} {s : Session} :
      l.next source none true st.session = (.error halt, s) →
      Gathers p reduction l source lists nodes st (.error halt, { st with session := s }) 0
  /-- The list closes. -/
  | closed {lists : Nat} {nodes : List E} {st : State E} {t : Token} {s : Session} :
      l.next source none true st.session = (.ok (some t), s) → t.is Vocabulary.closing = true →
      Gathers p reduction l source lists nodes st
        (.ok nodes, ({ st with session := s } : State E).consume t) 0
  /-- The list neither closes nor goes on. -/
  | unclosed {lists : Nat} {nodes : List E} {st st' : State E} {found : Option Token} {s : Session}
      {halt : Halt} :
      l.next source none true st.session = (.ok found, s) →
      (∀ t ∈ found, t.is Vocabulary.unexpected = true) →
      complain found Vocabulary.closing { st with session := s } = .done (.error halt) st' →
      Gathers p reduction l source lists nodes st (.error halt, st') 0
  /-- Something is wrong with the next node. -/
  | broken {lists n : Nat} {nodes : List E} {st st' : State E} {t : Token} {s : Session}
      {halt : Halt} :
      l.next source none true st.session = (.ok (some t), s) →
      ¬ t.is Vocabulary.closing = true → ¬ t.is Vocabulary.unexpected = true →
      Descends p reduction l source lists (some nodes) (some t) { st with session := s }
        (.error halt, st') n →
      Gathers p reduction l source lists nodes st (.error halt, st') n
  /-- The next node is read, and then the others. -/
  | node {lists m n : Nat} {nodes : List E} {st st₁ : State E} {t : Token} {s : Session} {node : E}
      {outcome : Except Halt (List E) × State E} :
      l.next source none true st.session = (.ok (some t), s) →
      ¬ t.is Vocabulary.closing = true → ¬ t.is Vocabulary.unexpected = true →
      Descends p reduction l source lists (some nodes) (some t) { st with session := s }
        (.ok node, st₁) m →
      Gathers p reduction l source lists (nodes ++ [node]) st₁ outcome n →
      Gathers p reduction l source lists nodes st outcome (max m n)

end

variable {p : Parser E} {reduction : Reduction E} {l : Lexer} {source : List Char}
  {lists limit n : Nat} {outer : Option (List E)} {found : Option Token} {nodes : List E}
  {st st' : State E}

/-! ### Nested calls -/

mutual

/-- **At most one call more is nested than lists may still be opened.** -/
theorem Descends.nested_le {lists n : Nat} {outer : Option (List E)} {found : Option Token}
    {st : State E} {outcome : Except Halt E × State E} (hlimit : p.maxDepth = some limit)
    (h : p.Descends reduction l source lists outer found st outcome n) :
    n ≤ limit - lists + 1 := by
  match h with
  | .misplaced _ _ | .tooDeep _ _ _ | .valueless _ _ | .atom _ _ => omega
  | .broken _ hwithin hgathers | .list _ hwithin hgathers =>
    have hroom : lists + 1 ≤ limit := hwithin limit hlimit
    have := hgathers.nested_le hlimit
    omega

/-- The loop over the nodes of a list nests no more calls than one for an expression in it. -/
theorem Gathers.nested_le {lists n : Nat} {nodes : List E} {st : State E}
    {outcome : Except Halt (List E) × State E} (hlimit : p.maxDepth = some limit)
    (h : p.Gathers reduction l source lists nodes st outcome n) : n ≤ limit - lists + 1 := by
  match h with
  | .halts _ | .closed _ _ | .unclosed _ _ _ => omega
  | .broken _ _ _ hdescends => exact hdescends.nested_le hlimit
  | .node _ _ _ hdescends hgathers =>
    have := hdescends.nested_le hlimit
    have := hgathers.nested_le hlimit
    omega

end

/-! ### The run of the parser -/

/-- The state with other open lists. -/
def State.under (stack : List (List E)) (st : State E) : State E := { st with stack := stack }

/-- A run does what a call does: it goes on with what the call came to, or fails as the call did,
and leaves some lists open then. -/
def Resumes (go : α → State E → Except Halt E × State E) (result : Except Halt E × State E) :
    Except Halt α × State E → Prop
  | (.ok a, st) => result = go a st
  | (.error halt, st) => ∃ left, result = (.error halt, st.under left)

/-- A run enacts the verdict on the token ahead, and goes on from there. -/
theorem run_of_next (p : Parser E) (reduction : Reduction E) {t : Token} {s s' : Session}
    (stack : List (List E)) (calls : Array (Call E))
    (hnext : l.next source none true s = (.ok (some t), s')) :
    p.run reduction l source ⟨s, stack, calls⟩ =
      p.proceed reduction l source
        (enact reduction t ⟨s', stack, calls⟩ (verdict p.maxDepth stack.length t)) := by
  have hsession : l.next source none true (State.session ⟨s, stack, calls⟩) = _ := hnext
  rw [run_eq_proceed, step_eq_enact reduction hsession]

/-- A complaint leaves the open lists alone. -/
theorem complain_under {kind : Kind} {halt : Halt} (stack : List (List E))
    (h : complain found kind st = .done (.error halt) st') :
    complain found kind (st.under stack) = .done (.error halt) (st'.under stack) := by
  cases h
  rfl

/-- Making a node and putting it in its place goes on with the node that was made. -/
theorem resumes_attach (p : Parser E) (reduction : Reduction E) (l : Lexer) (source : List Char)
    (stack : List (List E)) (content : Content E) (st : State E) :
    Resumes (fun node st => p.proceed reduction l source (put node (st.under stack)))
      (p.proceed reduction l source (attach reduction content (st.under stack)))
      (made (reduce reduction stack.head? content st)) := by
  rw [attach_eq_put]
  simp only [reduce, State.under, State.outer]
  cases reduction stack.head? (.build content) with
  | error e => exact ⟨stack, rfl⟩
  | ok built =>
    simp only
    cases reduction stack.head? (.finish built) with
    | error e => exact ⟨stack, rfl⟩
    | ok node => rfl

/-- A run that finds nothing that it can go on with fails with a complaint. -/
theorem resumes_complain {halt : Halt} {s : Session} {go : α → State E → Except Halt E × State E}
    (stack : List (List E)) (st : State E)
    (hnext : l.next source none true s = (.ok found, st.session))
    (hfound : ∀ t ∈ found, verdict p.maxDepth stack.length t = .unexpected)
    (hcomplain : complain found (expectedKind stack.length) st = .done (.error halt) st') :
    Resumes go (p.run reduction l source ⟨s, stack, st.calls⟩) (.error halt, st') := by
  have hfails : complain found (expectedKind stack.length) (st.under stack) = _ :=
    complain_under stack hcomplain
  refine ⟨stack, ?_⟩
  rw [run_eq_proceed]
  cases found with
  | none =>
    rw [step_eq_complain reduction hnext]
    exact congrArg (p.proceed reduction l source) hfails
  | some t =>
    rw [step_eq_enact reduction hnext, hfound t rfl]
    exact congrArg (p.proceed reduction l source) hfails

mutual

/-- **A run does what a call for an expression does**, where the open lists are those that the call
stands in. -/
theorem Descends.resumes {lists n : Nat} {outer : Option (List E)} {found : Option Token}
    {st : State E} {s : Session} {outcome : Except Halt E × State E} (stack : List (List E))
    (hlists : lists = stack.length) (houter : outer = stack.head?)
    (hnext : l.next source none true s = (.ok found, st.session))
    (hbegins : stack = [] ∨
      ∃ t ∈ found, ¬ t.is Vocabulary.closing = true ∧ ¬ t.is Vocabulary.unexpected = true)
    (h : p.Descends reduction l source lists outer found st outcome n) :
    Resumes (fun node st => p.proceed reduction l source (put node (st.under stack)))
      (p.run reduction l source ⟨s, stack, st.calls⟩) outcome := by
  match h with
  | .misplaced hfound hcomplain =>
    obtain rfl | ⟨t, ht, hcloses, hunexpected⟩ := hbegins
    · exact resumes_complain [] st hnext (fun t ht =>
        verdict_top_eq_unexpected (hfound t ht).1 (hfound t ht).2 _) hcomplain
    · obtain ⟨hopens, hatom⟩ := hfound t ht
      exact absurd ⟨hopens, hcloses, hunexpected⟩ hatom
  | .tooDeep hopens hlimit htoo =>
    rw [hlists] at htoo
    rw [p.run_of_next reduction stack st.calls hnext, hlimit, verdict_eq_tooDeep hopens htoo]
    exact ⟨stack, rfl⟩
  | .valueless hatom hvalue =>
    rw [p.run_of_next reduction stack st.calls hnext,
      verdict_eq_unreadable_iff.2 ⟨hatom, hvalue⟩]
    exact ⟨stack, rfl⟩
  | .atom hatom hvalue =>
    rw [p.run_of_next reduction stack st.calls hnext, verdict_eq_atom_iff.2 ⟨hatom, hvalue⟩,
      houter]
    exact resumes_attach p reduction l source stack _ _
  | .broken hopens hwithin hgathers =>
    rw [hlists] at hwithin
    rw [p.run_of_next reduction stack st.calls hnext,
      verdict_eq_opening_iff.2 ⟨hopens, hwithin⟩]
    exact hgathers.resumes stack (by rw [hlists])
  | .list hopens hwithin hgathers =>
    rw [hlists] at hwithin
    rw [p.run_of_next reduction stack st.calls hnext,
      verdict_eq_opening_iff.2 ⟨hopens, hwithin⟩, houter]
    have hlist : p.run reduction l source ((st.consume _).under ([] :: stack)) = _ :=
      hgathers.resumes stack (by rw [hlists])
    change Resumes _ (p.run reduction l source ((st.consume _).under ([] :: stack))) _
    rw [hlist]
    exact resumes_attach p reduction l source stack _ _

/-- **A run does what the loop over the nodes of a list does**, where this list is the innermost
open one. -/
theorem Gathers.resumes {lists n : Nat} {nodes : List E} {st : State E}
    {outcome : Except Halt (List E) × State E} (stack : List (List E))
    (hlists : lists = stack.length + 1)
    (h : p.Gathers reduction l source lists nodes st outcome n) :
    Resumes (fun nodes st =>
        p.proceed reduction l source (attach reduction (.list nodes) (st.under stack)))
      (p.run reduction l source ⟨st.session, nodes :: stack, st.calls⟩) outcome := by
  match h with
  | .halts hnext =>
    have hhalts :
        l.next source none true (State.session ⟨st.session, nodes :: stack, st.calls⟩) = _ := hnext
    rw [run_eq_proceed, step_eq_done reduction hhalts]
    exact ⟨nodes :: stack, rfl⟩
  | .closed hnext hcloses =>
    have hopen : 0 < (nodes :: stack).length := Nat.succ_pos _
    rw [p.run_of_next reduction (nodes :: stack) st.calls hnext,
      verdict_eq_closing_iff.2 ⟨hcloses, hopen⟩]
    rfl
  | .unclosed (s := s) hnext hfound hcomplain =>
    exact resumes_complain (nodes :: stack) { st with session := s } hnext
      (fun t ht => verdict_of_unexpected (hfound t ht) _ _) hcomplain
  | .broken hnext hcloses hunexpected hdescends =>
    exact hdescends.resumes (nodes :: stack) hlists rfl hnext (.inr ⟨_, rfl, hcloses, hunexpected⟩)
  | .node hnext hcloses hunexpected hdescends hgathers =>
    have hnode : p.run reduction l source ⟨st.session, nodes :: stack, st.calls⟩ = _ :=
      hdescends.resumes (nodes :: stack) hlists rfl hnext (.inr ⟨_, rfl, hcloses, hunexpected⟩)
    have hothers := hgathers.resumes stack hlists
    rw [hnode]
    exact hothers

end

/-! ### The recursion ends -/

/-- A result leaves the lexer at some offset or behind it. -/
def ComesTo (offset : Nat) : Except Halt α × State E → Prop
  | (.ok _, st) => offset ≤ st.session.position.offset
  | (.error _, _) => True

/-- A result behind an offset is behind every earlier one. -/
theorem ComesTo.mono {offset offset' : Nat} {outcome : Except Halt α × State E}
    (h : ComesTo offset outcome) (hle : offset' ≤ offset) : ComesTo offset' outcome := by
  obtain ⟨halt | a, st⟩ := outcome
  · trivial
  · exact Nat.le_trans hle h

/-- Moving past a text takes the lexer forward. -/
theorem offset_lt_consume {t : Token} (st : State E) (htext : t.text ≠ []) :
    st.session.position.offset < (st.consume t).session.position.offset := by
  have := Text.byteSize_pos htext
  simp only [State.consume, Session.position_consume, Position.offset_advance]
  omega

/-- Making a node leaves the lexer where it stands. -/
theorem comesTo_made {offset : Nat} (reduction : Reduction E) (outer : Option (List E))
    (content : Content E) (h : offset ≤ st.session.position.offset) :
    ComesTo offset (made (reduce reduction outer content st)) := by
  have hsession := session_reduce reduction outer content st
  generalize reduce reduction outer content st = outcome at hsession
  obtain ⟨e | node, st₁⟩ := outcome
  · trivial
  · change offset ≤ st₁.session.position.offset
    rw [hsession]
    exact h

/-- **A call for an expression ends** if the loop over the nodes of a list does. If it comes to a
node, it went forward. -/
theorem exists_descends (p : Parser E) (reduction : Reduction E) (l : Lexer) (source : List Char)
    (lists : Nat) (outer : Option (List E)) (found : Option Token) (st : State E)
    (htext : ∀ t ∈ found, t.text ≠ [])
    (hgathers : ∀ t ∈ found, ∃ outcome n,
      p.Gathers reduction l source (lists + 1) [] (st.consume t) outcome n ∧
        ComesTo (st.consume t).session.position.offset outcome) :
    ∃ outcome n, p.Descends reduction l source lists outer found st outcome n ∧
      ComesTo (st.session.position.offset + 1) outcome := by
  cases found with
  | none => exact ⟨_, _, .misplaced (fun t ht => by cases ht) rfl, trivial⟩
  | some t =>
    have hforward := offset_lt_consume st (htext t rfl)
    by_cases hopens : t.is Vocabulary.opening = true
    · by_cases hwithin : Within p.maxDepth (lists + 1)
      · obtain ⟨⟨halt | nodes, st₁⟩, n, hlist, hcomes⟩ := hgathers t rfl
        · exact ⟨_, _, .broken hopens hwithin hlist, trivial⟩
        · exact ⟨_, _, .list hopens hwithin hlist,
            comesTo_made reduction outer _ (Nat.le_trans hforward hcomes)⟩
      · obtain ⟨limit, hlimit, htoo⟩ := exists_lt_of_not_within hwithin
        exact ⟨_, _, .tooDeep hopens hlimit (Nat.le_of_lt_succ htoo), trivial⟩
    · by_cases hatom : t.IsAtom
      · cases hvalue : t.value with
        | error e => exact ⟨_, _, .valueless hatom hvalue, trivial⟩
        | ok v => exact ⟨_, _, .atom hatom hvalue, comesTo_made reduction outer _ hforward⟩
      · refine ⟨_, _, .misplaced (fun t' ht => ?_) rfl, trivial⟩
        obtain rfl := Option.some.inj ht
        exact ⟨hopens, hatom⟩

/-- **The loop over the nodes of a list ends**, and goes forward. Induction on what is left of the
source. -/
theorem exists_gathers (p : Parser E) (reduction : Reduction E) (l : Lexer) (source : List Char)
    (lists : Nat) (nodes : List E) (st : State E) :
    ∃ outcome n, p.Gathers reduction l source lists nodes st outcome n ∧
      ComesTo st.session.position.offset outcome := by
  generalize hleft : Text.byteSize source - st.session.position.offset = left
  induction left using Nat.strongRecOn generalizing lists nodes st with
  | ind left ih =>
    obtain ⟨halt, s, hnext⟩ | ⟨s, hnext⟩ | ⟨t, s, hnext⟩ :=
      l.next_cases source none true st.session
    · exact ⟨_, _, .halts hnext, trivial⟩
    · exact ⟨_, _, .unclosed hnext (fun t ht => by cases ht) rfl, trivial⟩
    · obtain ⟨-, htext, hle, hinside⟩ := Lexer.next_eq_some hnext
      let st₁ : State E := { st with session := s }
      have hforward : s.position.offset < (st₁.consume t).session.position.offset :=
        offset_lt_consume st₁ htext
      by_cases hcloses : t.is Vocabulary.closing = true
      · refine ⟨_, _, .closed hnext hcloses, ?_⟩
        change _ ≤ (st₁.consume t).session.position.offset
        omega
      · by_cases hunexpected : t.is Vocabulary.unexpected = true
        · refine ⟨_, _, .unclosed hnext (fun t' ht => ?_) rfl, trivial⟩
          obtain rfl := Option.some.inj ht
          exact hunexpected
        · -- The next node is read behind the token, and the others behind the node.
          have htexts : ∀ t' ∈ some t, t'.text ≠ [] := by
            intro t' ht
            obtain rfl := Option.some.inj ht
            exact htext
          obtain ⟨⟨halt | node, st₂⟩, m, hdescends, hcomes⟩ :=
            p.exists_descends reduction l source lists (some nodes) (some t) st₁ htexts
              fun t' ht => by
                obtain rfl := Option.some.inj ht
                exact ih _ (by omega) (lists + 1) [] _ rfl
          · exact ⟨_, _, .broken hnext hcloses hunexpected hdescends, trivial⟩
          · have hbehind : s.position.offset + 1 ≤ st₂.session.position.offset := hcomes
            obtain ⟨outcome, n, hothers, hfurther⟩ :=
              ih _ (by omega) lists (nodes ++ [node]) st₂ rfl
            exact ⟨_, _, .node hnext hcloses hunexpected hdescends hothers,
              hfurther.mono (by omega)⟩

/-- **Parsing an expression is a call of the recursion**, which ends. -/
theorem exists_descends_parseRoot (p : Parser E) (reduction : Reduction E) {s s₁ : Session}
    (hnext : l.next source none true s = (.ok found, s₁)) :
    ∃ result st n left,
      p.Descends reduction l source 0 none found (.start s₁) (result, st) n ∧
        p.parseRoot reduction l source s = (result, st.under left) := by
  have htext : ∀ t ∈ found, t.text ≠ [] := by
    rintro t rfl
    exact (Lexer.next_eq_some hnext).2.1
  obtain ⟨⟨result, st⟩, n, hdescends, -⟩ :=
    p.exists_descends reduction l source 0 none found (.start s₁) htext fun t _ =>
      p.exists_gathers reduction l source 1 [] _
  have hresumes := hdescends.resumes [] rfl rfl hnext (.inl rfl)
  cases result with
  | error halt =>
    obtain ⟨left, hrun⟩ := hresumes
    exact ⟨_, st, n, left, hdescends, hrun⟩
  | ok node => exact ⟨_, st, n, [], hdescends, hresumes⟩

/-- **Every loop ends.** Let a lexer try a vocabulary in order, whatever its kinds match, and let
a session stand anywhere, also inside a character or behind the end. When a token is looked for,
when all tokens are scanned, and when an expression is parsed, the lexer moves past one token
after the other, each of them inside the source and at least a byte long, and so past no more
tokens than there are bytes left. Parsing an expression is a call of the recursion over the
grammar, and it ends. If there is a limit on the open lists, no more calls are nested than one
more than the limit. -/
theorem loops_end (p : Parser E) (reduction : Reduction E) (v : Vocabulary) (source : List Char)
    (s : Session) :
    (∀ hint skip, s.Advances source ((Lexer.firstMatch v).next source hint skip s).2) ∧
      s.Advances source ((Lexer.firstMatch v).scan source s).2 ∧
      s.Advances source (p.parseRoot reduction (.firstMatch v) source s).2.session ∧
      (∀ s', s.Advances source s' →
        s'.trail.length ≤ s.trail.length + (Text.byteSize source - s.position.offset)) ∧
      ∃ found s₁, (Lexer.firstMatch v).next source none true s = (.ok found, s₁) ∧
        (∃ result st n left,
          p.Descends reduction (.firstMatch v) source 0 none found (.start s₁) (result, st) n ∧
            p.parseRoot reduction (.firstMatch v) source s = (result, st.under left)) ∧
        ∀ outcome n,
          p.Descends reduction (.firstMatch v) source 0 none found (.start s₁) outcome n →
            ∀ limit ∈ p.maxDepth, n ≤ limit + 1 := by
  obtain ⟨found, s₁, hnext⟩ := Lexer.exists_next_firstMatch v source none true s
  refine ⟨fun hint skip => Lexer.advances_next _ source hint skip s, Lexer.advances_scan _ source s,
    p.advances_run reduction _ source (.start s), fun s' h => h.length_trail_le, found, s₁, hnext,
    p.exists_descends_parseRoot reduction hnext, fun outcome n h limit hlimit => ?_⟩
  exact h.nested_le hlimit

open Vocabulary in
/-- In `((`, if one list may be open, two calls are nested, as many as may be. The second one comes
to a list that stands too deep, when the lexer moved past one token. -/
theorem loops_end_too_deep :
    ∃ (st : State (Tree Value)) (left : List (List (Tree Value))),
      (trees Value [] (some 1)).Descends (.plain Tree.create) (.ofAtoms []) ['(', '('] 0 none
        (some ⟨opening, ['('], .start⟩) (.start .start)
        (.error (.failed (.tooDeep 1 ⟨1, 1, 2⟩)), st) 2 ∧
      2 ≤ 1 + 1 ∧
      (trees Value [] (some 1)).parseRoot (.plain Tree.create) (.ofAtoms []) ['(', '('] .start =
        (.error (.failed (.tooDeep 1 ⟨1, 1, 2⟩)), st.under left) ∧
      st.session.trail = [("(", ['('], .start)] ∧
      Session.start.Advances ['(', '('] st.session := by
  let t : Token := ⟨opening, ['('], .start⟩
  have hfirst : (Lexer.ofAtoms []).next ['(', '('] none true .start = (.ok (some t), .start) := by
    rw [Lexer.next]
    rfl
  have hsecond : (Lexer.ofAtoms []).next ['(', '('] none true (Session.start.consume t) =
      (.ok (some ⟨opening, ['('], ⟨1, 1, 2⟩⟩), Session.start.consume t) := by
    rw [Lexer.next]
    rfl
  have hdescends : (trees Value [] (some 1)).Descends (.plain Tree.create) (.ofAtoms [])
      ['(', '('] 0 none (some t) (.start .start)
      (.error (.failed (.tooDeep 1 ⟨1, 1, 2⟩)), (State.start .start).consume t) 2 :=
    .broken rfl (fun n hn => by cases hn; exact Nat.le_refl 1)
      (.broken hsecond (by decide) (by decide) (.tooDeep rfl rfl (Nat.le_refl 1)))
  obtain ⟨left, hrun⟩ := hdescends.resumes [] rfl rfl hfirst (.inl rfl)
  obtain ⟨-, -, hadvances, -, found, s₁, hnext, -, hnested⟩ :=
    loops_end (trees Value [] (some 1)) (.plain Tree.create) (parens []) ['(', '('] .start
  obtain ⟨hfound, rfl⟩ := Prod.mk.inj (hfirst.symm.trans hnext)
  obtain rfl := Except.ok.inj hfound
  refine ⟨_, left, hdescends, hnested _ _ hdescends 1 rfl, hrun, rfl, ?_⟩
  have hparse : (trees Value [] (some 1)).parseRoot (.plain Tree.create) (.firstMatch (parens []))
      ['(', '('] .start = _ := hrun
  rw [hparse] at hadvances
  exact hadvances

end Parens.Parser
