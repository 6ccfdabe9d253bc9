import Parens.Pattern.Reader

/-!
# Readers in Front of a Parenthesis

A text that is a pattern by itself is read in a group as it is read alone. Every reader of a
written pattern stops in front of the parenthesis that closes the group, as it stops at the end of
the text: `Unmoved` says this of a reader, and there is one lemma for each of them. So the
parenthesis is one more item behind the items of the text.

A reader that fails alone may well succeed in front of a parenthesis: `[a-` is no class, and nor
is `[a-)`, but for another reason. So all lemmas are about readers that succeed, and the few
readers that others fall back on are covered by equations.

## Main results

* `unmoved_readItem?`: **an item ends where it ends alone**.
* `readItems?_group`: the items of a text in a group are those of the text, between those of the
  group.
-/

namespace Parens.Pattern

/-! ### Readers in front of a parenthesis -/

/-- What is read of a text alone is also read of it in front of a closing parenthesis, which is
left over. -/
def Unmoved {α : Type} (read : List Char → Option (α × List Char)) : Prop :=
  ∀ cs x rest, read cs = some (x, rest) → read (cs ++ [')']) = some (x, rest ++ [')'])

/-- A run that a parenthesis does not belong to stays as it is. -/
theorem takeWhile_append_paren {p : Char → Bool} (hp : p ')' = false) (cs : List Char) :
    (cs ++ [')']).takeWhile p = cs.takeWhile p := by
  rw [List.takeWhile_append]
  split
  · rename_i h
    rw [List.takeWhile_cons_of_neg (by simp [hp]), List.append_nil]
    exact (List.takeWhile_prefix p).eq_of_length h |>.symm
  · rfl

/-- Behind a run that a parenthesis does not belong to, the parenthesis is left over. -/
theorem dropWhile_append_paren {p : Char → Bool} (hp : p ')' = false) (cs : List Char) :
    (cs ++ [')']).dropWhile p = cs.dropWhile p ++ [')'] := by
  rw [List.dropWhile_append]
  split
  · rename_i h
    rw [List.isEmpty_iff.1 h, List.dropWhile_cons_of_neg (by simp [hp]), List.nil_append]
  · rfl

/-- A run with something behind it stays as it is. -/
theorem takeWhile_append_of_dropWhile {p : Char → Bool} {cs rest : List Char} {c : Char}
    (h : cs.dropWhile p = c :: rest) (ds : List Char) :
    (cs ++ ds).takeWhile p = cs.takeWhile p := by
  rw [List.takeWhile_append, if_neg]
  intro hall
  have hrun : cs.takeWhile p = cs := (List.takeWhile_prefix p).eq_of_length hall
  have hsplit := List.takeWhile_append_dropWhile (p := p) (l := cs)
  rw [hrun, h] at hsplit
  simp at hsplit

/-- What stands behind a run goes on as the text does. -/
theorem dropWhile_append_of_dropWhile {p : Char → Bool} {cs rest : List Char} {c : Char}
    (h : cs.dropWhile p = c :: rest) (ds : List Char) :
    (cs ++ ds).dropWhile p = c :: (rest ++ ds) := by
  rw [List.dropWhile_append, h]
  rfl

/-! ### Escapes -/

/-- The digits of a code point end where they end alone. -/
theorem unmoved_readHex? (width : Nat) : Unmoved (readHex? width) := by
  intro cs e rest h
  unfold readHex? at h
  split at h
  · rename_i ds
    split at h
    · rename_i d behind hbehind
      rw [List.cons_append]
      simp only [readHex?, takeWhile_append_of_dropWhile hbehind,
        dropWhile_append_of_dropWhile hbehind]
      obtain ⟨c, hc, heq⟩ := Option.map_eq_some_iff.1 h
      obtain ⟨rfl, rfl⟩ := Prod.mk.inj heq
      rw [hc]
      rfl
    · simp at h
  · rename_i hbrace
    split at h
    · simp at h
    · rename_i hwidth
      have hle : width ≤ cs.length := Nat.le_of_not_lt hwidth
      obtain ⟨c, hc, heq⟩ := Option.map_eq_some_iff.1 h
      obtain ⟨rfl, rfl⟩ := Prod.mk.inj heq
      have hlonger : ¬ (cs ++ [')']).length < width := by
        rw [List.length_append]
        omega
      unfold readHex?
      split
      · rename_i ds hds
        cases cs with
        | nil => simp at hds
        | cons d cs =>
          obtain ⟨rfl, -⟩ := List.cons_eq_cons.1 hds
          exact absurd rfl (hbrace _)
      · rw [if_neg hlonger, List.take_append_of_le_length hle, List.drop_append_of_le_length hle,
          hc]
        rfl

/-- An escape ends where it ends alone. -/
theorem unmoved_readEscape? : Unmoved readEscape? := by
  intro cs e rest h
  unfold readEscape? at h
  split at h
  · simp at h
  · rename_i c cs
    rw [List.cons_append]
    unfold readEscape?
    dsimp only
    split at h
    · rename_i hc
      rw [if_pos hc]
      simp_all
    · rename_i hc
      rw [if_neg hc]
      split at h
      case h_1 | h_2 | h_3 => exact unmoved_readHex? _ _ _ _ h
      all_goals simp_all

/-! ### Classes -/

/-- A mark for negation is read off as it is read off alone. -/
theorem dropCaret_append_paren (cs : List Char) :
    ((cs ++ [')']).head? == some '^') = (cs.head? == some '^') ∧
      (if cs.head? == some '^' then (cs ++ [')']).drop 1 else cs ++ [')']) =
        (if cs.head? == some '^' then cs.drop 1 else cs) ++ [')'] := by
  cases cs with
  | nil => exact ⟨rfl, rfl⟩
  | cons c cs =>
    refine ⟨rfl, ?_⟩
    split <;> rfl

/-- A bracket begins as it begins alone. -/
theorem begin_append_paren (cs : List Char) :
    Bracket.begin (cs ++ [')']) = ((Bracket.begin cs).1, (Bracket.begin cs).2 ++ [')']) := by
  obtain ⟨hhead, hdrop⟩ := dropCaret_append_paren cs
  unfold Bracket.begin
  simp only [hhead, hdrop]
  generalize (if cs.head? == some '^' then cs.drop 1 else cs) = ds
  rw [takeWhile_append_paren (by decide), dropWhile_append_paren (by decide)]
  generalize ds.takeWhile (· == '-') = hyphens
  generalize ds.dropWhile (· == '-') = ds
  cases hyphens with
  | cons c hyphens => rfl
  | nil =>
    cases ds with
    | nil => rfl
    | cons c ds =>
      rw [List.cons_append]
      split <;> simp_all

/-- A class of ASCII is named as it is named alone, or not at all. -/
theorem readNamedClass?_append_paren (cs : List Char) :
    readNamedClass? (cs ++ [')']) =
      (readNamedClass? cs).map fun (s, rest) => (s, rest ++ [')']) := by
  cases cs with
  | nil => rfl
  | cons c cs =>
    by_cases hc : c = ':'
    · subst hc
      obtain ⟨hhead, hdrop⟩ := dropCaret_append_paren cs
      unfold readNamedClass?
      simp only [List.cons_append, hhead, hdrop]
      generalize (if cs.head? == some '^' then cs.drop 1 else cs) = ds
      cases hrest : ds.dropWhile (· != ':') with
      | nil =>
        rw [List.dropWhile_append, hrest]
        rfl
      | cons d rest =>
        rw [dropWhile_append_of_dropWhile hrest, takeWhile_append_of_dropWhile hrest]
        cases rest with
        | nil => simp
        | cons e rest =>
          by_cases hclosing : d = ':' ∧ e = ']'
          · obtain ⟨rfl, rfl⟩ := hclosing
            simp only [List.cons_append, Option.map_map]
            rfl
          · simp only [List.cons_append]
            split
            · simp_all
            · split
              · simp_all
              · rfl
    · unfold readNamedClass?
      simp [hc]

/-- An element of a class ends where it ends alone. -/
theorem unmoved_readClassElement? : Unmoved readClassElement? := by
  intro cs e rest h
  unfold readClassElement? at h
  split at h
  · simp at h
  · exact unmoved_readEscape? _ _ _ h
  · rename_i c cs hc
    obtain ⟨rfl, rfl⟩ := Prod.mk.inj (Option.some.inj h)
    simp [readClassElement?]

/-- An item of a class ends where it ends alone: a hyphen at the end of the text makes no range. -/
theorem unmoved_readClassItem? : Unmoved readClassItem? := by
  intro cs set rest h
  unfold readClassItem? at h
  simp only at h
  split at h
  · simp at h
  · rename_i e behind hfirst
    unfold readClassItem?
    rw [unmoved_readClassElement? _ _ _ hfirst]
    cases behind with
    | nil => cases e <;> simp [readClassElement?] at h
    | cons d behind =>
      have hhead : (d :: (behind ++ [')'])).head? = (d :: behind).head? := rfl
      simp only [List.cons_append, hhead]
      split at h
      · rename_i hlone
        rw [if_pos hlone]
        obtain ⟨s, hs, heq⟩ := Option.map_eq_some_iff.1 h
        obtain ⟨rfl, rfl⟩ := Prod.mk.inj heq
        rw [hs]
        rfl
      · rename_i hrange
        rw [if_neg hrange]
        split at h
        · rename_i a b behind' hlast
          have hsecond := unmoved_readClassElement? _ _ _ hlast
          rw [List.cons_append] at hsecond
          rw [hsecond]
          split at h
          · rename_i hle
            obtain ⟨rfl, rfl⟩ := Prod.mk.inj (Option.some.inj h)
            simp [hle]
          · simp at h
        · simp at h
  · rename_i e behind hhyphen hfirst
    unfold readClassItem?
    rw [unmoved_readClassElement? _ _ _ hfirst]
    obtain ⟨s, hs, heq⟩ := Option.map_eq_some_iff.1 h
    obtain ⟨rfl, rfl⟩ := Prod.mk.inj heq
    cases behind with
    | nil => simp [hs]
    | cons d behind =>
      have hd : d ≠ '-' := by
        rintro rfl
        exact hhyphen _ rfl
      simp [hs, hd]

/-- What does not begin with a character alone does not begin with it in front of a parenthesis. -/
theorem append_paren_ne_cons {c : Char} (hc : c ≠ ')') {cs : List Char}
    (h : ∀ ds, cs ≠ c :: ds) (ds : List Char) : cs ++ [')'] ≠ c :: ds := by
  intro hds
  cases cs with
  | nil => exact hc (List.cons.inj hds).1.symm
  | cons a cs => exact h cs (congrArg (· :: cs) (List.cons.inj hds).1)

/-- Nor does it begin with two characters in front of a parenthesis, if it does not alone. -/
theorem append_paren_ne_cons_cons {c d : Char} (hc : c ≠ ')') (hd : d ≠ ')') {cs : List Char}
    (h : ∀ ds, cs ≠ c :: d :: ds) (ds : List Char) : cs ++ [')'] ≠ c :: d :: ds := by
  intro hds
  cases cs with
  | nil => exact hc (List.cons.inj hds).1.symm
  | cons a cs =>
    obtain ⟨rfl, hrest⟩ := List.cons.inj hds
    exact append_paren_ne_cons hd (fun ds' hds' => h ds' (congrArg (a :: ·) hds')) ds hrest

/-- A bracket inside a class names a class of ASCII or begins a class. -/
theorem readClass?_bracket (fuel : Nat) (b : Bracket) (outer : List Bracket) (cs : List Char) :
    readClass? (fuel + 1) b outer ('[' :: cs) =
      match readNamedClass? cs with
      | some (s, rest) => readClass? fuel (b.add s) outer rest
      | none => readClass? fuel (Bracket.begin cs).1 (b :: outer) (Bracket.begin cs).2 := rfl

/-- **A class ends where it ends alone.** The fuel only has to suffice. -/
theorem readClass?_append_paren {fuel fuel' : Nat} {b : Bracket} {outer : List Bracket}
    {cs rest : List Char} {set : CharSet} (hfuel : fuel ≤ fuel')
    (h : readClass? fuel b outer cs = some (set, rest)) :
    readClass? fuel' b outer (cs ++ [')']) = some (set, rest ++ [')']) := by
  induction fuel generalizing fuel' b outer cs with
  | zero => simp [readClass?] at h
  | succ fuel ih =>
    obtain ⟨fuel', rfl⟩ := Nat.exists_eq_add_one_of_ne_zero (n := fuel') (by omega)
    have hless : fuel ≤ fuel' := by omega
    unfold readClass? at h
    split at h
    · simp at h
    · rename_i ds
      have hnamed := readNamedClass?_append_paren ds
      rw [List.cons_append, readClass?_bracket, hnamed]
      split at h
      · rename_i s behind hclass
        rw [hclass]
        exact ih hless h
      · rename_i hclass
        rw [hclass, begin_append_paren]
        exact ih hless h
    · cases outer with
      | nil =>
        obtain ⟨rfl, rfl⟩ := Prod.mk.inj (Option.some.inj h)
        rfl
      | cons b' outer => exact @ih fuel' _ _ _ hless h
    · exact @ih fuel' _ _ _ hless h
    · exact @ih fuel' _ _ _ hless h
    · exact @ih fuel' _ _ _ hless h
    · rename_i hopen hclose hinter hdiff hsymm
      split at h
      · rename_i s behind hitem
        have hitem' := unmoved_readClassItem? _ _ _ hitem
        unfold readClass?
        split
        · rename_i hnil
          simp at hnil
        · rename_i hds
          exact absurd hds (append_paren_ne_cons (by decide) hopen _)
        · rename_i hds
          exact absurd hds (append_paren_ne_cons (by decide) hclose _)
        · rename_i hds
          exact absurd hds (append_paren_ne_cons_cons (by decide) (by decide) hinter _)
        · rename_i hds
          exact absurd hds (append_paren_ne_cons_cons (by decide) (by decide) hdiff _)
        · rename_i hds
          exact absurd hds (append_paren_ne_cons_cons (by decide) (by decide) hsymm _)
        · rw [hitem']
          exact ih hless h
      · simp at h

/-! ### Groups -/

/-- The name of a group ends where it ends alone. -/
theorem unmoved_readNamedGroup? : Unmoved readNamedGroup? := by
  intro cs item rest h
  unfold readNamedGroup? at h
  simp only at h
  split at h
  · rename_i d behind hbehind
    unfold readNamedGroup?
    simp only [takeWhile_append_of_dropWhile hbehind, dropWhile_append_of_dropWhile hbehind]
    split at h
    · rename_i hname
      rw [if_pos hname]
      obtain ⟨rfl, rfl⟩ := Prod.mk.inj (Option.some.inj h)
      rfl
    · simp at h
  · simp at h

/-- Behind a question mark that begins no name, the letters up to a colon or the end of the group
switch modes. -/
theorem readGroup?_switches {cs : List Char} (hnamed : ∀ ds, cs ≠ 'P' :: '<' :: ds)
    (hangle : ∀ ds, cs ≠ '<' :: ds) :
    readGroup? ('?' :: cs) =
      match readSwitches? (cs.takeWhile fun c => c != ':' && c != ')'),
        cs.dropWhile fun c => c != ':' && c != ')' with
      | some switches, ':' :: rest => some (.opening .plain switches, rest)
      | some switches, _ :: rest =>
        if (cs.takeWhile fun c => c != ':' && c != ')') = [] then none
        else some (.switch switches, rest)
      | _, _ => none := by
  unfold readGroup?
  split
  · rename_i hcs
    exact absurd (List.cons.inj hcs).2 (hnamed _)
  · rename_i hcs
    exact absurd (List.cons.inj hcs).2 (hangle _)
  · rename_i hcs
    obtain rfl := (List.cons.inj hcs).2
    rfl
  · rename_i hother
    exact absurd rfl (hother _)

/-- A group that switches modes begins as it begins alone. -/
theorem readGroup?_switches_append_paren {cs rest : List Char} {item : Item}
    (hnamed : ∀ ds, cs ≠ 'P' :: '<' :: ds) (hangle : ∀ ds, cs ≠ '<' :: ds)
    (h : readGroup? ('?' :: cs) = some (item, rest)) :
    readGroup? ('?' :: (cs ++ [')'])) = some (item, rest ++ [')']) := by
  rw [readGroup?_switches hnamed hangle] at h
  rw [readGroup?_switches (append_paren_ne_cons_cons (by decide) (by decide) hnamed)
    (append_paren_ne_cons (by decide) hangle), takeWhile_append_paren (by decide),
    dropWhile_append_paren (by decide)]
  generalize (cs.takeWhile fun c => c != ':' && c != ')') = letters at h ⊢
  generalize (cs.dropWhile fun c => c != ':' && c != ')') = behind at h ⊢
  cases hletters : readSwitches? letters with
  | none => simp [hletters] at h
  | some switches =>
    cases behind with
    | nil => simp [hletters] at h
    | cons d behind =>
      simp only [hletters, List.cons_append] at h ⊢
      by_cases hcolon : d = ':'
      · subst hcolon
        obtain ⟨rfl, rfl⟩ := Prod.mk.inj (Option.some.inj h)
        rfl
      · simp only at h ⊢
        split at h
        · simp at h
        · rename_i hsome
          rw [if_neg hsome]
          obtain ⟨rfl, rfl⟩ := Prod.mk.inj (Option.some.inj h)
          rfl

/-- **A group begins as it begins alone.** -/
theorem unmoved_readGroup? : Unmoved readGroup? := by
  intro cs item rest h
  have hgroup := h
  unfold readGroup? at h
  split at h
  · exact unmoved_readNamedGroup? _ _ _ h
  · rename_i ds
    cases ds with
    | nil => simp [readNamedGroup?] at h
    | cons d ds =>
      split at h
      · simp at h
      · rename_i hlook
        change (if (d :: ds).head? == some '=' || (d :: ds).head? == some '!' then none
          else readNamedGroup? (d :: ds ++ [')'])) = _
        rw [if_neg hlook]
        exact unmoved_readNamedGroup? _ _ _ h
  · rename_i hnamed hangle
    exact readGroup?_switches_append_paren hnamed hangle hgroup
  · rename_i hnamed hangle hmark
    obtain ⟨rfl, rfl⟩ := Prod.mk.inj (Option.some.inj h)
    cases cs with
    | nil => rfl
    | cons c cs =>
      have hc : c ≠ '?' := by
        rintro rfl
        exact hmark _ rfl
      simp [readGroup?, hc]

/-! ### Repetitions -/

/-- A repetition mark ends where it ends alone. -/
theorem lazyMark_append_paren (least : Nat) (most : Option Nat) (cs : List Char) :
    lazyMark least most (cs ++ [')']) =
      ((lazyMark least most cs).1, (lazyMark least most cs).2 ++ [')']) := by
  cases cs with
  | nil => rfl
  | cons c cs =>
    by_cases hc : c = '?'
    · subst hc
      rfl
    · simp [lazyMark, hc]

/-- The end of a repetition mark is a reader like the others. -/
theorem unmoved_lazyMark (least : Nat) (most : Option Nat) :
    Unmoved fun cs => some (lazyMark least most cs) := by
  intro cs item rest h
  simp only [lazyMark_append_paren, Option.some.inj h]

/-- A count ends where it ends alone. -/
theorem unmoved_readCount? : Unmoved readCount? := by
  intro cs n rest h
  unfold readCount? skipBlanks at h ⊢
  rw [dropWhile_append_paren (by decide)]
  simp only [takeWhile_append_paren (p := Char.isDigit) (by decide),
    dropWhile_append_paren (p := Char.isDigit) (by decide),
    dropWhile_append_paren (p := Text.isBlank) (by decide)] at h ⊢
  split at h
  · simp at h
  · rename_i hcount
    rw [if_neg hcount]
    obtain ⟨rfl, rfl⟩ := Prod.mk.inj (Option.some.inj h)
    rfl

/-- A counted repetition ends where it ends alone. -/
theorem unmoved_readCounted? : Unmoved readCounted? := by
  intro cs item rest h
  unfold readCounted? at h
  split at h
  · simp at h
  · rename_i least behind hcount
    unfold readCounted?
    rw [unmoved_readCount? _ _ _ hcount]
    exact unmoved_lazyMark _ _ _ _ _ h
  · rename_i least behind hcount
    unfold readCounted?
    rw [unmoved_readCount? _ _ _ hcount]
    split at h
    · exact unmoved_lazyMark _ _ _ _ _ h
    · rename_i hclose
      split at h
      · rename_i most behind' hcount'
        split at h
        · rename_i hle
          simp only [List.cons_append]
          split
          · rename_i hds
            exact absurd hds (append_paren_ne_cons (by decide) hclose _)
          · rw [unmoved_readCount? _ _ _ hcount']
            simp only [List.cons_append, if_pos hle]
            exact unmoved_lazyMark _ _ _ _ _ h
        · simp at h
      · simp at h
  · simp at h

/-! ### Items -/

/-- **An item ends where it ends alone.** -/
theorem unmoved_readItem? : Unmoved readItem? := by
  intro cs item rest h
  unfold readItem? at h
  split at h
  · simp at h
  · rename_i c cs
    rw [List.cons_append]
    unfold readItem?
    dsimp only
    split at h
    case h_1 => exact unmoved_readGroup? _ _ _ h
    case h_4 =>
      obtain ⟨⟨set, behind⟩, hclass, heq⟩ := Option.map_eq_some_iff.1 h
      obtain ⟨rfl, rfl⟩ := Prod.mk.inj heq
      have hclass' : readClass? ((Bracket.begin cs).2.length + 1) (Bracket.begin cs).1 []
          (Bracket.begin cs).2 = some (set, behind) := hclass
      rw [begin_append_paren]
      dsimp only
      rw [readClass?_append_paren (by simp) hclass']
      rfl
    case h_5 | h_6 | h_7 => exact unmoved_lazyMark _ _ _ _ _ h
    case h_8 => exact unmoved_readCounted? _ _ _ h
    case h_12 =>
      obtain ⟨⟨e, behind⟩, hescape, heq⟩ := Option.map_eq_some_iff.1 h
      obtain ⟨rfl, rfl⟩ := Prod.mk.inj heq
      rw [unmoved_readEscape? _ _ _ hescape]
      rfl
    all_goals
      obtain ⟨rfl, rfl⟩ := Prod.mk.inj (Option.some.inj h)
      rfl

/-- No items are read of nothing. -/
theorem readItemsWithin?_nil (fuel : Nat) : readItemsWithin? fuel [] = some [] := by
  cases fuel <;> rfl

/-- Items are read one after the other. -/
theorem readItemsWithin?_of_readItem? {fuel : Nat} {cs rest : List Char} {item : Item}
    (h : readItem? cs = some (item, rest)) :
    readItemsWithin? (fuel + 1) cs = (readItemsWithin? fuel rest).map (item :: ·) := by
  cases cs with
  | nil => simp [readItem?] at h
  | cons c cs => simp only [readItemsWithin?, h]

/-- Inversion: a row of items is empty, or begins with the item at the front of the text. -/
theorem readItemsWithin?_inv {fuel : Nat} {cs : List Char} {items : List Item}
    (h : readItemsWithin? fuel cs = some items) :
    cs = [] ∧ items = [] ∨
      ∃ fuel' item rest items', fuel = fuel' + 1 ∧ readItem? cs = some (item, rest) ∧
        readItemsWithin? fuel' rest = some items' ∧ items = item :: items' := by
  unfold readItemsWithin? at h
  split at h
  · exact .inl ⟨rfl, (Option.some.inj h).symm⟩
  · simp at h
  · rename_i fuel' hne
    split at h
    · simp at h
    · rename_i item rest hitem
      obtain ⟨items', hitems, rfl⟩ := Option.map_eq_some_iff.1 h
      exact .inr ⟨fuel', item, rest, items', rfl, hitem, hitems, rfl⟩

/-- The items of a text are read in front of a closing parenthesis, which is one more item. The
fuel only has to suffice. -/
theorem readItemsWithin?_append_paren {fuel fuel' : Nat} {cs : List Char} {items : List Item}
    (hfuel : fuel < fuel') (h : readItemsWithin? fuel cs = some items) :
    readItemsWithin? fuel' (cs ++ [')']) = some (items ++ [.closing]) := by
  induction fuel generalizing fuel' cs items with
  | zero =>
    obtain ⟨fuel', rfl⟩ := Nat.exists_eq_add_one_of_ne_zero (Nat.ne_zero_of_lt hfuel)
    obtain ⟨rfl, rfl⟩ | ⟨_, _, _, _, hzero, -⟩ := readItemsWithin?_inv h
    · have hclosing : readItem? [')'] = some (.closing, []) := rfl
      rw [List.nil_append, readItemsWithin?_of_readItem? hclosing, readItemsWithin?_nil]
      rfl
    · cases hzero
  | succ fuel ih =>
    obtain ⟨fuel', rfl⟩ := Nat.exists_eq_add_one_of_ne_zero (Nat.ne_zero_of_lt hfuel)
    obtain ⟨rfl, rfl⟩ | ⟨_, item, rest, items, hsucc, hitem, hitems, rfl⟩ := readItemsWithin?_inv h
    · exact ih (Nat.lt_of_succ_lt hfuel) (readItemsWithin?_nil fuel)
    · obtain rfl := Nat.succ.inj hsucc
      rw [readItemsWithin?_of_readItem? (unmoved_readItem? _ _ _ hitem),
        ih (Nat.lt_of_succ_lt_succ hfuel) hitems]
      rfl

/-- A text in a group has five characters in front of it and one behind it. -/
theorem grouped_eq (source : List Char) :
    grouped source = '\\' :: 'A' :: '(' :: '?' :: ':' :: (source ++ [')']) := rfl

/-- **A text in a group behind the beginning of the text** has the items of the text in between
those of the group. -/
theorem readItems?_group {source : List Char} {items : List Item}
    (h : readItems? source = some items) :
    readItems? (grouped source) =
      some (.look .textStart :: .opening .plain [] :: (items ++ [.closing])) := by
  have hinner : readItemsWithin? (source.length + 4) (source ++ [')']) =
      some (items ++ [.closing]) :=
    readItemsWithin?_append_paren (by omega) h
  have hsize : (grouped source).length = source.length + 4 + 1 + 1 := by simp [grouped_eq]
  have hlook (cs : List Char) : readItem? ('\\' :: 'A' :: cs) = some (.look .textStart, cs) := rfl
  have hopening (cs : List Char) :
      readItem? ('(' :: '?' :: ':' :: cs) = some (.opening .plain [], cs) := rfl
  rw [readItems?, hsize, grouped_eq, readItemsWithin?_of_readItem? (hlook _),
    readItemsWithin?_of_readItem? (hopening _), hinner]
  rfl

end Parens.Pattern
