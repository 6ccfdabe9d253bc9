import Parens.Pattern.CharSet

/-!
# Cuts of Sets of Characters

The same set can be written in many ways. Membership changes from one character to the next at
few places, the **cuts** of the set: where a range begins, and behind its end. So a property of
characters that depends on some sets is found at a cut or nowhere, and to compare two sets it is
enough to compare them there (`agrees_iff`).
-/

namespace Parens.Pattern.CharSet

/-- The first character with a property among code points. -/
def pick? (p : Char → Bool) (ns : List Nat) : Option Char := (ns.map Char.ofNat).find? p

/-- The first character with a property among the cuts of the decimal digits. -/
def pickDigit? (p : Char → Bool) : Option Char := Text.zeros.findSome? fun z => pick? p [z, z + 10]

/-- The first character with a property among the cuts of a set. -/
def findCut? (p : Char → Bool) : CharSet → Option Char
  | none => .none
  | range first last => pick? p [first, last + 1]
  | caselessRange first last =>
    (pick? p [first, last + 1]).or <| Text.casePoints.findSome? fun n =>
      if (Text.caseVariants n).any (between first last) then pick? p [n, n + 1] else .none
  | blank => pick? p (Text.rangeCuts Text.blankRanges)
  | digit => pickDigit? p
  | word =>
    (pick? p (Text.rangeCuts Text.letterRanges)).or
      ((pickDigit? p).or (pick? p (Text.rangeCuts Text.joiningRanges)))
  | union a b => (a.findCut? p).or (b.findCut? p)
  | inter a b => (a.findCut? p).or (b.findCut? p)
  | diff a b => (a.findCut? p).or (b.findCut? p)
  | symmDiff a b => (a.findCut? p).or (b.findCut? p)
  | compl a => a.findCut? p

/-- The first character with a property that depends on two sets: at a cut, or where a row of
characters begins. -/
def witness? (s t : CharSet) (p : Char → Bool) : Option Char :=
  (pick? p [0, 0xE000]).or ((s.findCut? p).or (t.findCut? p))

/-- Whether two sets have the same characters, however they are written. -/
def agrees (s t : CharSet) : Bool := (witness? s t fun c => s.mem c != t.mem c).isNone

/-- The character of a set that has only one. -/
def single? (s : CharSet) : Option Char :=
  (witness? s s s.mem).filter fun c => s.agrees (single c)

/-! ### Membership between cuts -/

section

variable {p : Char → Bool} {c d : Char}

/-- A code point that was passed over is not that of a character with the property. -/
theorem toNat_notMem_of_pick?_eq_none {ns : List Nat} (hp : p d) (h : pick? p ns = .none) :
    d.toNat ∉ ns := by
  intro hd
  have := List.find?_eq_none.1 h _ (List.mem_map_of_mem hd)
  simp [Char.ofNat_toNat, hp] at this

theorem between_next {first last : Nat} (hcd : d.toNat = c.toNat + 1) (hp : p d)
    (h : pick? p [first, last + 1] = .none) :
    between first last c.toNat = between first last d.toNat := by
  have := toNat_notMem_of_pick?_eq_none hp h
  simp only [List.mem_cons, List.not_mem_nil, or_false, not_or] at this
  rw [Bool.eq_iff_iff]
  simp only [between, Bool.and_eq_true, decide_eq_true_eq]
  omega

theorem inRanges_next {table : List (Nat × Nat)} (hcd : d.toNat = c.toNat + 1) (hp : p d)
    (h : pick? p (Text.rangeCuts table) = .none) :
    Text.inRanges table c.toNat = Text.inRanges table d.toNat := by
  rw [hcd]
  exact Text.inRanges_succ (hcd ▸ toNat_notMem_of_pick?_eq_none hp h)

theorem isDecimalDigit_next (hcd : d.toNat = c.toNat + 1) (hp : p d)
    (h : pickDigit? p = .none) : Text.isDecimalDigit c = Text.isDecimalDigit d := by
  rw [Text.isDecimalDigit, Text.isDecimalDigit, Bool.eq_iff_iff, List.any_eq_true, List.any_eq_true]
  refine exists_congr fun z => and_congr_right fun hz => ?_
  have := toNat_notMem_of_pick?_eq_none hp (List.findSome?_eq_none_iff.1 h z hz)
  simp only [List.mem_cons, List.not_mem_nil, or_false, not_or] at this
  simp only [Bool.and_eq_true, decide_eq_true_eq]
  omega

/-- Without regard to case, a code point without a cut belongs to a range as it does with regard
to case, or not at all. -/
theorem caseVariants_next {first last : Nat} (hcd : d.toNat = c.toNat + 1) (hp : p d)
    (h : (caselessRange first last).findCut? p = .none) :
    (caselessRange first last).mem c = (caselessRange first last).mem d := by
  simp only [findCut?, Option.or_eq_none_iff, List.findSome?_eq_none_iff] at h
  have plain := between_next hcd hp h.1
  have self (n : Nat) (hn : between first last n) :
      (Text.caseVariants n).any (between first last) :=
    List.any_eq_true.2 ⟨n, List.mem_cons_self, hn⟩
  have still (n : Nat) (hn : n = d.toNat ∨ n + 1 = d.toNat)
      (hv : (Text.caseVariants n).any (between first last)) : between first last n := by
    by_cases hn' : n ∈ Text.casePoints
    · have := h.2 n hn'
      rw [if_pos hv] at this
      have := toNat_notMem_of_pick?_eq_none hp this
      simp only [List.mem_cons, List.not_mem_nil, or_false, not_or] at this
      omega
    · obtain ⟨v, hv, hb⟩ := List.any_eq_true.1 hv
      exact Text.eq_of_mem_caseVariants hn' hv ▸ hb
  rw [mem, mem, Bool.eq_iff_iff]
  constructor
  · exact fun hv => self _ (plain ▸ still _ (.inr hcd.symm) hv)
  · exact fun hv => self _ (plain ▸ still _ (.inl rfl) hv)

/-- **Membership changes at cuts only.** -/
theorem mem_next {s : CharSet} (hcd : d.toNat = c.toNat + 1) (hp : p d)
    (h : s.findCut? p = .none) : s.mem c = s.mem d := by
  induction s with
  | none => rfl
  | range => exact between_next hcd hp h
  | caselessRange => exact caseVariants_next hcd hp h
  | blank => exact inRanges_next hcd hp h
  | digit => exact isDecimalDigit_next hcd hp h
  | word =>
    simp only [findCut?, Option.or_eq_none_iff] at h
    simp only [mem, Text.isWord, Text.isLetter, inRanges_next hcd hp h.1,
      isDecimalDigit_next hcd hp h.2.1, inRanges_next hcd hp h.2.2]
  | compl a ha => simp only [mem, ha h]
  | union a b ha hb | inter a b ha hb | diff a b ha hb | symmDiff a b ha hb =>
    simp only [findCut?, Option.or_eq_none_iff] at h
    simp only [mem, ha h.1, hb h.2]

end

/-! ### Equal sets -/

/-- A character other than the first of a row has one in front of it. -/
theorem exists_previous {d : Char} (h0 : d.toNat ≠ 0) (h1 : d.toNat ≠ 0xE000) :
    ∃ c : Char, d.toNat = c.toNat + 1 := by
  have hd : d.toNat.isValidChar := d.valid
  have hc : (d.toNat - 1).isValidChar := by
    unfold Nat.isValidChar at hd ⊢
    omega
  have : (Char.ofNatAux (d.toNat - 1) hc).toNat = d.toNat - 1 := UInt32.toNat_ofNatLT
  exact ⟨Char.ofNatAux (d.toNat - 1) hc, by omega⟩

theorem of_pick? {p : Char → Bool} {ns : List Nat} {c : Char} (h : pick? p ns = some c) : p c :=
  List.find?_some h

theorem of_pickDigit? {p : Char → Bool} {c : Char} (h : pickDigit? p = some c) : p c :=
  let ⟨_, _, h⟩ := List.exists_of_findSome?_eq_some h
  of_pick? h

/-- What was found at a cut has the property. -/
theorem of_findCut? {p : Char → Bool} {s : CharSet} {c : Char} (h : s.findCut? p = some c) :
    p c := by
  induction s with
  | none => simp [findCut?] at h
  | range => exact of_pick? h
  | blank => exact of_pick? h
  | digit => exact of_pickDigit? h
  | caselessRange first last =>
    rcases Option.or_eq_some_iff.1 h with h | ⟨-, h⟩
    · exact of_pick? h
    · obtain ⟨n, -, h⟩ := List.exists_of_findSome?_eq_some h
      split at h
      · exact of_pick? h
      · simp at h
  | word =>
    rcases Option.or_eq_some_iff.1 h with h | ⟨-, h⟩
    · exact of_pick? h
    · exact (Option.or_eq_some_iff.1 h).elim of_pickDigit? fun h => of_pick? h.2
  | compl a ha => exact ha h
  | union a b ha hb | inter a b ha hb | diff a b ha hb | symmDiff a b ha hb =>
    exact (Option.or_eq_some_iff.1 h).elim ha fun h => hb h.2

/-- What is found has the property. -/
theorem of_witness? {s t : CharSet} {p : Char → Bool} {c : Char}
    (h : witness? s t p = some c) : p c := by
  rcases Option.or_eq_some_iff.1 h with h | ⟨-, h⟩
  · exact of_pick? h
  · exact (Option.or_eq_some_iff.1 h).elim of_findCut? fun h => of_findCut? h.2

/-- **A property that depends on two sets is found or does not occur.** -/
theorem eq_false_of_witness?_eq_none {s t : CharSet} {p : Char → Bool}
    (hp : ∀ c d, s.mem c = s.mem d → t.mem c = t.mem d → p c = p d)
    (h : witness? s t p = .none) (c : Char) : p c = false := by
  simp only [witness?, Option.or_eq_none_iff] at h
  induction hn : c.toNat generalizing c with
  | zero =>
    have := fun hc => toNat_notMem_of_pick?_eq_none (d := c) hc h.1
    simpa [hn] using this
  | succ n ih =>
    cases hc : p c with
    | false => rfl
    | true =>
      have := toNat_notMem_of_pick?_eq_none hc h.1
      simp only [List.mem_cons, List.not_mem_nil, or_false, not_or] at this
      obtain ⟨b, hb⟩ := exists_previous this.1 this.2
      rw [← hc, ← hp b c (mem_next hb hc h.2.1) (mem_next hb hc h.2.2), ih b (by omega)]

/-- **Two sets agree exactly if they have the same characters.** -/
theorem agrees_iff {s t : CharSet} : s.agrees t ↔ ∀ c, s.mem c = t.mem c := by
  rw [agrees, Option.isNone_iff_eq_none]
  constructor
  · intro h c
    simpa using eq_false_of_witness?_eq_none (by simp +contextual) h c
  · intro h
    cases hw : witness? s t fun c => s.mem c != t.mem c with
    | none => rfl
    | some c => simpa [h c] using of_witness? hw

/-- **The only character of a set** is found. -/
theorem single?_eq_some_iff {s : CharSet} {c : Char} :
    s.single? = some c ↔ ∀ d, s.mem d ↔ d = c := by
  rw [single?, Option.filter_eq_some_iff, agrees_iff]
  constructor
  · rintro ⟨-, h⟩ d
    rw [h, mem_single]
  · intro h
    refine ⟨?_, fun d => by rw [Bool.eq_iff_iff, h, mem_single]⟩
    cases hw : witness? s s s.mem with
    | some d => rw [(h d).1 (of_witness? hw)]
    | none => simpa [(h c).2 rfl] using eq_false_of_witness?_eq_none (fun _ _ h _ => h) hw c

end Parens.Pattern.CharSet
