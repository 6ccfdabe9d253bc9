import Parens.Lexer.Direct
import Parens.Pattern.Place
import Parens.Proofs.PatternReaders

/-!
# Where Rules Match

A rule is asked what it recognises at an offset of the source, and it is meant to answer with a
text that begins there (`Rule.Anchored`). One character and a fixed text are recognised at the
front of what lies ahead. A regular expression is put in a group behind the beginning of the text,
and if it is a regular expression by itself (`Rule.Balanced`), then all its matches begin there.
That is a property of its dialect, which has to keep groups together (`Dialect.KeepsGroups`), and
the standard dialect has it.

The group is put around the written expression before it is read. So an expression with unbalanced
parentheses, such as `a)|(?:b`, can close the group early, and is accepted all the same. Its last
alternative is no part of the group, and matches further ahead (`exists_matchAt_further_ahead`).

## Main results

* `isAnchored_of_ofSource?`: a pattern in a group begins at the beginning of the text.
* `Dialect.keepsGroups_standard`: **the standard dialect keeps groups together**.
* `Rule.balanced_standard_iff`: which rules of the standard dialect are balanced.
* `Rule.matchAt_isPrefix_of_balanced`: **rules match where they are asked**, if they are balanced.
* `exists_matchAt_further_ahead`: a rule that is not balanced may match elsewhere.
-/

namespace Parens

namespace Pattern

/-! ### Building in a group -/

/-- The groups open at some point, all of them inside one more group. -/
def Groups.inside (s : Groups) (g : Group) : Groups := { s with outer := s.outer ++ [g] }

/-- An item that is taken in is taken in inside another group too: it closes one of the groups
inside. -/
theorem step_inside {s s' : Groups} {item : Item} (g : Group) (h : s.step item = some s') :
    (s.inside g).step item = some (s'.inside g) := by
  cases item with
  | opening label switches =>
    cases label with
    | plain | numbered =>
      obtain rfl := Option.some.inj h
      rfl
    | named name =>
      simp only [Groups.step, Groups.enter?] at h ⊢
      split at h
      · simp at h
      · rename_i hname
        obtain rfl := Option.some.inj h
        exact if_neg hname
  | closing =>
    cases houter : s.outer with
    | nil => simp [Groups.step, houter] at h
    | cons g' outer =>
      simp only [Groups.step, houter] at h
      obtain rfl := Option.some.inj h
      simp [Groups.step, Groups.inside, houter]
  | repetition least most greedy =>
    obtain ⟨g', hg', rfl⟩ := Option.map_eq_some_iff.1 h
    simp [Groups.step, Groups.inside, hg']
  | chars | dot | caret | dollar | look | bar | switch =>
    obtain rfl := Option.some.inj h
    rfl

/-- Items that are taken in are taken in inside another group too. -/
theorem foldlM_step_inside {s s' : Groups} {items : List Item} (g : Group)
    (h : items.foldlM Groups.step s = some s') :
    items.foldlM Groups.step (s.inside g) = some (s'.inside g) := by
  induction items generalizing s with
  | nil =>
    obtain rfl := Option.some.inj h
    rfl
  | cons item items ih =>
    rw [List.foldlM_cons] at h ⊢
    obtain ⟨s₁, hstep, hrest⟩ := Option.bind_eq_some_iff.1 h
    rw [step_inside g hstep]
    exact ih hrest

/-- The pieces of a row that begins with a condition begin with it. -/
theorem rowOf_look (condition : Assertion) (p : Pattern) :
    ∃ row, rowOf [look condition, p] = look condition :: row := by
  refine ⟨p.parts.foldr joinText [], ?_⟩
  simp [rowOf, parts, joinText]

/-- What stands behind the beginning of the text begins there. -/
theorem isAnchored_alternatives (row : List Pattern) :
    (alternatives [look .textStart :: row]).isAnchored = true := by
  cases row with
  | nil => rfl
  | cons p row => rfl

/-- The items of a text, between those of a group behind the beginning of the text, make the
pattern that stands behind the beginning of the text. -/
theorem ofItems?_group {items : List Item} {p : Pattern} (h : ofItems? items = some p) :
    ofItems? (.look .textStart :: .opening .plain [] :: (items ++ [.closing])) =
      some (alternatives [rowOf [look .textStart, p]]) := by
  unfold ofItems? at h
  split at h
  · rename_i g names next hgroups
    obtain rfl := Option.some.inj h
    let top : Group := (Group.start none .off).push (look .textStart)
    have hinside := foldlM_step_inside top hgroups
    have hall : (Item.look .textStart :: .opening .plain [] :: (items ++ [.closing])).foldlM
        Groups.step .start = some ⟨top.push g.close, [], names, next⟩ := by
      change (items ++ [Item.closing]).foldlM Groups.step (Groups.start.inside top) = _
      rw [List.foldlM_append, hinside]
      rfl
    rw [ofItems?, hall]
    rfl
  · simp at h

/-- **A pattern in a group begins at the beginning of the text.** Where a text is a pattern by
itself, the vocabulary takes it, and its matches begin where they are looked for. -/
theorem isAnchored_of_ofSource? {source : List Char} {p : Pattern}
    (h : ofSource? source = some p) :
    ∃ q, anchored? source = some q ∧ q.isAnchored = true := by
  unfold ofSource? at h
  split at h
  · rename_i items hitems
    obtain ⟨row, hrow⟩ := rowOf_look .textStart p
    refine ⟨alternatives [look .textStart :: row], ?_, isAnchored_alternatives row⟩
    rw [anchored?, ofSource?, readItems?_group hitems]
    dsimp only
    rw [ofItems?_group h, hrow]
  · simp at h

end Pattern

namespace Dialect

/-- A dialect keeps groups together if what is an expression by itself matches at the front only,
when it is put in a group behind the beginning of the text. -/
def KeepsGroups (d : Dialect) : Prop :=
  ∀ written alone find text found, d.read? written = some alone →
    d.read? (Pattern.grouped written) = some find → find text = some found → found <+: text

/-- **The standard dialect keeps groups together.** -/
theorem keepsGroups_standard : standard.KeepsGroups := by
  intro written alone find text found halone hfind hfound
  obtain ⟨p, hp, -⟩ := Option.map_eq_some_iff.1 halone
  obtain ⟨q, hq, hanchored⟩ := Pattern.isAnchored_of_ofSource? hp
  obtain rfl := Option.some.inj ((standard_read? hq).symm.trans hfind)
  exact Pattern.isPrefix_of_find? hanchored hfound

end Dialect

namespace Rule

/-! ### Rules at the front of a text -/

/-- A rule is anchored if it recognises nothing but what a text begins with. -/
def Anchored (r : Rule) : Prop := ∀ rest, r.front rest <+: rest

/-- A rule is balanced if its regular expression, if it has one, is a regular expression by itself
and not only in a group, in a dialect that keeps groups together. -/
def Balanced (r : Rule) : Prop :=
  match r.recognizer with
  | .pattern dialect source _ _ =>
    dialect.KeepsGroups ∧ ∃ alone, dialect.read? source = some alone
  | _ => True

/-- **In the standard dialect, a rule is balanced** if its regular expression is a pattern by
itself, and in no other case. -/
theorem balanced_standard_iff {r : Rule} {source : List Char}
    {find : List Char → Option (List Char)}
    {reads : Dialect.standard.read? (Pattern.grouped source) = some find}
    (h : r.recognizer = .pattern .standard source find reads) :
    r.Balanced ↔ ∃ p, Pattern.ofSource? source = some p := by
  simp only [Balanced, h]
  constructor
  · rintro ⟨-, alone, halone⟩
    obtain ⟨p, hp, -⟩ := Option.map_eq_some_iff.1 halone
    exact ⟨p, hp⟩
  · rintro ⟨p, hp⟩
    exact ⟨Dialect.keepsGroups_standard, p.find?, Dialect.standard_read? hp⟩

/-- What a rule for a regular expression sees of a text: its window, if it has one. -/
def visible (r : Rule) (rest : List Char) : List Char :=
  match r.maxLength with
  | some n => Text.window n rest
  | none => rest

/-- What is seen of a text is what the text begins with. -/
theorem visible_isPrefix (r : Rule) (rest : List Char) : r.visible rest <+: rest := by
  unfold visible
  split
  · exact Text.window_isPrefix _ rest
  · exact List.prefix_refl rest

/-- A rule for one character is anchored. -/
theorem anchored_of_char {r : Rule} {c : Char} (h : r.recognizer = .char c) : r.Anchored := by
  intro rest
  simp only [front, h]
  cases rest with
  | nil => simp
  | cons d rest =>
    by_cases hd : d = c
    · simp [hd]
    · simp [hd]

/-- A rule for a fixed text is anchored, however texts are compared. -/
theorem anchored_of_literal {r : Rule} {text : List Char} {mode : CaseMode}
    (h : r.recognizer = .literal text mode) : r.Anchored := by
  intro rest
  simp only [front, h]
  split
  · rename_i candidate htake
    obtain ⟨behind, rfl, -⟩ := Text.takeBytes?_eq_some_iff.1 htake
    split
    · exact List.prefix_append candidate behind
    · exact List.nil_prefix
  · exact List.nil_prefix

section

variable {r : Rule} {dialect : Dialect} {source : List Char}
  {find : List Char → Option (List Char)}
  {reads : dialect.read? (Pattern.grouped source) = some find}

/-- A rule for a regular expression recognises the first match in what it sees. -/
theorem front_pattern (h : r.recognizer = .pattern dialect source find reads) (rest : List Char) :
    r.front rest = (find (r.visible rest)).getD [] := by
  simp only [front, h]
  rfl

/-- A rule for a regular expression is anchored if all matches are what the searched text begins
with. -/
theorem anchored_of_isPrefix (h : r.recognizer = .pattern dialect source find reads)
    (hfind : ∀ text found, find text = some found → found <+: text) : r.Anchored := by
  intro rest
  rw [front_pattern h]
  cases hfound : find (r.visible rest) with
  | none => exact List.nil_prefix
  | some found => exact (hfind _ found hfound).trans (r.visible_isPrefix rest)

end

/-- **Balanced rules are anchored.** -/
theorem Balanced.anchored {r : Rule} (h : r.Balanced) : r.Anchored := by
  cases hr : r.recognizer with
  | char c => exact anchored_of_char hr
  | literal text mode => exact anchored_of_literal hr
  | pattern dialect source find reads =>
    simp only [Balanced, hr] at h
    obtain ⟨hkeeps, alone, halone⟩ := h
    exact anchored_of_isPrefix hr fun text found => hkeeps source alone find text found halone reads

/-- Whatever a rule recognises is a piece of the text. -/
theorem front_isInfix (r : Rule) (rest : List Char) : r.front rest <:+: rest := by
  cases hr : r.recognizer with
  | char c => exact (anchored_of_char hr rest).isInfix
  | literal text mode => exact (anchored_of_literal hr rest).isInfix
  | pattern dialect source find reads =>
    rw [front_pattern hr]
    cases hfound : find (r.visible rest) with
    | none => exact List.nil_infix
    | some found => exact (dialect.isInfix reads hfound).trans (r.visible_isPrefix rest).isInfix

/-! ### Rules at an offset of the source -/

/-- **Rules match where they are asked.** At any offset, inside a character or behind the end of
the source too, a rule recognises nothing, or a piece of what lies ahead of the offset; and a rule
that is balanced recognises what lies ahead from the offset on. These are all rules: those for one
character and for a fixed text are balanced in any case, and those of the standard dialect if their
expression is one by itself (`balanced_standard_iff`). -/
theorem matchAt_isPrefix_of_balanced (r : Rule) (source : List Char) (offset : Nat) :
    r.matchAt source offset = [] ∨
      ∃ rest, Text.dropBytes? offset source = some rest ∧ r.matchAt source offset <:+: rest ∧
        (r.Balanced → r.matchAt source offset <+: rest) := by
  unfold matchAt
  cases Text.dropBytes? offset source with
  | none => exact .inl rfl
  | some rest => exact .inr ⟨rest, rfl, r.front_isInfix rest, fun h => h.anchored rest⟩

/-- The rule for numbers is balanced. Behind the parenthesis of `(12a` it recognises the number
that stands there. -/
theorem matchAt_number_isPrefix :
    Vocabulary.number.Balanced ∧ Vocabulary.number.matchAt ['(', '1', '2', 'a'] 1 = ['1', '2'] ∧
      ∃ rest, Text.dropBytes? 1 ['(', '1', '2', 'a'] = some rest ∧
        Vocabulary.number.matchAt ['(', '1', '2', 'a'] 1 <+: rest := by
  have hbalanced : Vocabulary.number.Balanced := (balanced_standard_iff rfl).2 ⟨_, rfl⟩
  have hmatch : Vocabulary.number.matchAt ['(', '1', '2', 'a'] 1 = ['1', '2'] := rfl
  refine ⟨hbalanced, hmatch, ?_⟩
  obtain hnone | ⟨rest, hrest, -, hprefix⟩ :=
    matchAt_isPrefix_of_balanced Vocabulary.number.toRule ['(', '1', '2', 'a'] 1
  · rw [hmatch] at hnone
    cases hnone
  · exact ⟨rest, hrest, hprefix hbalanced⟩

/-- **A rule that is not balanced may match further ahead.** The expression `a)|(?:b` is accepted,
and at the beginning of `cb` it recognises the second character. -/
theorem exists_matchAt_further_ahead :
    ∃ r, pattern? "ab" "a)|(?:b".toList = .ok r ∧
      ¬ (r.matchAt ['c', 'b'] 0 = [] ∨
        ∃ rest, Text.dropBytes? 0 ['c', 'b'] = some rest ∧ r.matchAt ['c', 'b'] 0 <+: rest) := by
  refine ⟨_, rfl, ?_⟩
  rintro (hnone | ⟨rest, hrest, hprefix⟩)
  · cases hnone
  · obtain rfl := Option.some.inj hrest
    revert hprefix
    decide

end Rule

/-! ### Anchored vocabularies -/

namespace Vocabulary

/-- A vocabulary is anchored if all its kinds are. -/
def Anchored (v : Vocabulary) : Prop := ∀ k ∈ v, k.toRule.Anchored

/-- The vocabulary of list notation is anchored if the kinds of atoms are. -/
theorem anchored_parens {atoms : Vocabulary} (h : atoms.Anchored) : (parens atoms).Anchored := by
  intro k hk
  simp only [parens, List.mem_cons, List.mem_append, List.not_mem_nil, or_false] at hk
  obtain rfl | rfl | rfl | hk | rfl := hk
  · exact Rule.anchored_of_isPrefix rfl fun _ _ => Pattern.isPrefix_of_find? rfl
  · exact Rule.anchored_of_char rfl
  · exact Rule.anchored_of_char rfl
  · exact h k hk
  · exact Rule.anchored_of_isPrefix rfl fun _ _ => Pattern.isPrefix_of_find? rfl

/-- The kinds for names, quoted texts and whole numbers are anchored. -/
theorem anchored_plainAtoms : plainAtoms.Anchored := by
  intro k hk
  simp only [plainAtoms, List.mem_cons, List.not_mem_nil, or_false] at hk
  obtain rfl | rfl | rfl := hk <;>
    exact Rule.anchored_of_isPrefix rfl fun _ _ => Pattern.isPrefix_of_find? rfl

end Vocabulary

end Parens
