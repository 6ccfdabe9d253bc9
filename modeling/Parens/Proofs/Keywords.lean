import Parens.Proofs.Anchoring

/-!
# Keywords

A fixed text is recognised without regard to case by cutting the text ahead to as many bytes as the
fixed text has, and comparing the lower cases of both. Lower case is that of Unicode: the Kelvin
sign has `k` as its lower case, the capital I with a dot has `i` and a dot, and the number of bytes
changes with both.

A fixed text of ASCII characters alone, such as a keyword, is recognised in its ASCII spellings and
in no others (`Rule.matchAt_keyword`). Nothing but counting keeps the look-alikes out: a character
outside ASCII takes two bytes or more, and has a lower case of one character, or one that leaves
ASCII. So a text with such a character in it has an ASCII lower case with fewer characters than the
text has bytes (`Text.isAscii_or_length_lt`), and a keyword has as many characters as bytes.

## Main results

* `Text.isAscii_or_length_lt`: a lower case in ASCII is that of an ASCII text, or too short.
* `Text.lowercase_eq_iff`: texts of a size with the lower case of a keyword are its spellings.
* `Rule.matchAt_keyword`: **a keyword is recognised in its ASCII spellings only.**
-/

namespace Parens

namespace Text

/-! ### ASCII -/

/-- A text is ASCII if all its characters are. -/
def IsAscii (cs : List Char) : Prop := ∀ c ∈ cs, c.toNat < 128

instance (cs : List Char) : Decidable (IsAscii cs) :=
  List.decidableBAll (fun c : Char => c.toNat < 128) cs

/-- A character takes one byte if it is in ASCII. -/
theorem utf8Size_eq_one_iff {c : Char} : c.utf8Size = 1 ↔ c.toNat < 128 := by
  rw [Char.utf8Size_eq_one_iff, UInt32.le_iff_toNat_le]
  exact Nat.lt_succ_iff.symm

/-- An ASCII text has as many bytes as characters. -/
theorem IsAscii.byteSize_eq {cs : List Char} (h : IsAscii cs) : byteSize cs = cs.length := by
  induction cs with
  | nil => rfl
  | cons c cs ih =>
    obtain ⟨hc, hcs⟩ := List.forall_mem_cons.1 h
    rw [byteSize_cons, utf8Size_eq_one_iff.2 hc, ih hcs, List.length_cons, Nat.add_comm]

/-- Small letters of ASCII are in ASCII. -/
theorem IsAscii.map_toLower {cs : List Char} (h : IsAscii cs) : IsAscii (cs.map Char.toLower) := by
  have hall : ∀ n < 128, (Char.ofNat n).toLower.toNat < 128 := by decide
  refine List.forall_mem_map.2 fun c hc => ?_
  have hc := hall c.toNat (h c hc)
  rwa [Char.ofNat_toNat] at hc

/-! ### Lower case in ASCII -/

/-- In ASCII, case maps move the capital letters. The first run does, and all others lie behind. -/
theorem mapCase_of_lt {n : Nat} (h : n < 128) :
    mapCase lowerRuns n = if 65 ≤ n ∧ n ≤ 90 then n + 32 else n := by
  have hbehind : lowerRuns.tail.all (fun r => 128 ≤ r.first) = true := by decide
  have hnone : lowerRuns.tail.findSome? (fun r => r.image? n) = none := by
    refine List.findSome?_eq_none_iff.2 fun r hr => ?_
    have hfirst : 128 ≤ r.first := of_decide_eq_true (List.all_eq_true.1 hbehind r hr)
    have hnot : ¬ r.first ≤ n := by omega
    simp [CaseRun.image?, CaseRun.holds, hnot]
  have hcons : lowerRuns = ⟨0x41, 0x5A, 1, 32⟩ :: lowerRuns.tail := rfl
  rw [mapCase, hcons, List.findSome?_cons, hnone]
  by_cases hn : 65 ≤ n ∧ n ≤ 90
  · have hmoved : ((n : Int) + 32).toNat = n + 32 := by omega
    simp [CaseRun.image?, CaseRun.holds, hn, Nat.mod_one, hmoved]
  · simp [CaseRun.image?, CaseRun.holds, hn]

/-- In ASCII, the lower case of a character is the one small letter. -/
theorem lowerChar_of_ascii {c : Char} (h : c.toNat < 128) : lowerChar c = [c.toLower] := by
  have hall : ∀ n < 128,
      Char.ofNat (if 65 ≤ n ∧ n ≤ 90 then n + 32 else n) = (Char.ofNat n).toLower := by
    decide
  rw [lowerChar, if_neg (by omega), mapCase_of_lt h, hall c.toNat h, Char.ofNat_toNat]

/-- A character outside ASCII takes more bytes than its lower case has characters, if that is in
ASCII. -/
theorem length_lowerChar_lt {c : Char} (hc : ¬ c.toNat < 128) (h : IsAscii (lowerChar c)) :
    (lowerChar c).length < c.utf8Size := by
  by_cases hdot : c.toNat = 0x130
  · rw [lowerChar, if_pos hdot] at h
    exact absurd (h (Char.ofNat 0x307) (by simp)) (by decide)
  · have hpos := c.utf8Size_pos
    have hone := mt utf8Size_eq_one_iff.1 hc
    rw [lowerChar, if_neg hdot, List.length_singleton]
    omega

/-- The lower case of a character between others: a capital sigma looks at them. -/
def lowerAt (before : List Char) (c : Char) (cs : List Char) : List Char :=
  if c.toNat = 0x3A3 then
    if startsCased before && !startsCased cs then [Char.ofNat 0x3C2] else [Char.ofNat 0x3C3]
  else lowerChar c

theorem lowerAfter_cons (before : List Char) (c : Char) (cs : List Char) :
    lowerAfter before (c :: cs) = lowerAt before c cs ++ lowerAfter (c :: before) cs := rfl

/-- In ASCII there is no sigma. -/
theorem lowerAt_of_ascii {c : Char} (h : c.toNat < 128) (before cs : List Char) :
    lowerAt before c cs = [c.toLower] := by
  rw [lowerAt, if_neg (by omega), lowerChar_of_ascii h]

/-- A character outside ASCII takes more bytes than its lower case has characters, if that is in
ASCII. Neither small sigma is. -/
theorem length_lowerAt_lt {before cs : List Char} {c : Char} (hc : ¬ c.toNat < 128)
    (h : IsAscii (lowerAt before c cs)) : (lowerAt before c cs).length < c.utf8Size := by
  by_cases hsigma : c.toNat = 0x3A3
  · rw [lowerAt, if_pos hsigma] at h
    split at h
    · exact absurd (h (Char.ofNat 0x3C2) (by simp)) (by decide)
    · exact absurd (h (Char.ofNat 0x3C3) (by simp)) (by decide)
  · rw [lowerAt, if_neg hsigma] at h ⊢
    exact length_lowerChar_lt hc h

/-- The lower case of an ASCII text has its small letters one by one. -/
theorem lowerAfter_of_isAscii {cs : List Char} (h : IsAscii cs) (before : List Char) :
    lowerAfter before cs = cs.map Char.toLower := by
  induction cs generalizing before with
  | nil => rfl
  | cons c cs ih =>
    obtain ⟨hc, hcs⟩ := List.forall_mem_cons.1 h
    rw [lowerAfter_cons, lowerAt_of_ascii hc, ih hcs]
    rfl

/-- **A lower case in ASCII is that of an ASCII text, or too short**: it has fewer characters than
the text has bytes. Induction on the text. -/
theorem isAscii_or_length_lt {before cs : List Char} (h : IsAscii (lowerAfter before cs)) :
    IsAscii cs ∨ (lowerAfter before cs).length < byteSize cs := by
  induction cs generalizing before with
  | nil => exact .inl h
  | cons c cs ih =>
    rw [lowerAfter_cons] at h ⊢
    obtain ⟨hfirst, hrest⟩ := List.forall_mem_append.1 h
    rw [List.length_append, byteSize_cons]
    by_cases hc : c.toNat < 128
    · rw [lowerAt_of_ascii hc, List.length_singleton, utf8Size_eq_one_iff.2 hc]
      obtain hcs | hlt := ih hrest
      · exact .inl (List.forall_mem_cons.2 ⟨hc, hcs⟩)
      · exact .inr (by omega)
    · have hlt : (lowerAt before c cs).length < c.utf8Size := length_lowerAt_lt hc hfirst
      have hle : (lowerAfter (c :: before) cs).length ≤ byteSize cs := by
        obtain hcs | hlt := ih hrest
        · have heq : (lowerAfter (c :: before) cs).length = byteSize cs := by
            rw [lowerAfter_of_isAscii hcs, List.length_map, hcs.byteSize_eq]
          exact Nat.le_of_eq heq
        · exact Nat.le_of_lt hlt
      exact .inr (by omega)

/-! ### Spellings -/

/-- A text is a spelling of a keyword: an ASCII text of the same number of bytes, and the same up to
the case of ASCII letters. -/
structure IsSpelling (keyword text : List Char) : Prop where
  /-- Both take the same number of bytes. -/
  byteSize_eq : byteSize text = byteSize keyword
  /-- All characters are in ASCII. -/
  isAscii : IsAscii text
  /-- The letters are the same, small or capital. -/
  letters_eq : text.map Char.toLower = keyword.map Char.toLower

/-- **Texts with the lower case of a keyword** that take the same number of bytes are its
spellings. -/
theorem lowercase_eq_iff {keyword text : List Char} (hk : IsAscii keyword)
    (hsize : byteSize text = byteSize keyword) :
    lowercase text = lowercase keyword ↔ IsSpelling keyword text := by
  have hkeyword : lowercase keyword = keyword.map Char.toLower := lowerAfter_of_isAscii hk []
  constructor
  · intro h
    have hlower : IsAscii (lowercase text) := by
      rw [h, hkeyword]
      exact hk.map_toLower
    have hascii : IsAscii text := by
      refine (isAscii_or_length_lt hlower).resolve_right fun hlt => ?_
      rw [← lowercase, h, hkeyword, List.length_map, hsize, hk.byteSize_eq] at hlt
      exact Nat.lt_irrefl _ hlt
    refine ⟨hsize, hascii, ?_⟩
    rw [← hkeyword, ← h]
    exact (lowerAfter_of_isAscii hascii []).symm
  · intro h
    rw [hkeyword, ← h.letters_eq]
    exact lowerAfter_of_isAscii h.isAscii []

end Text

namespace Rule

/-! ### Recognising keywords -/

variable {keyword rest text : List Char}

/-- What lies ahead is cut to the size of a fixed text, and compared with it. -/
theorem front_literal (keyword : List Char) (mode : CaseMode) (rest : List Char) :
    (literal keyword mode).front rest =
      match Text.takeBytes? (Text.byteSize keyword) rest with
      | some text => if agrees mode keyword text then text else []
      | none => [] := rfl

/-- A spelling of a keyword is recognised. -/
theorem front_of_isSpelling (hk : Text.IsAscii keyword) (hbegins : text <+: rest)
    (h : Text.IsSpelling keyword text) : (literal keyword .insensitive).front rest = text := by
  obtain ⟨behind, rfl⟩ := hbegins
  have htake : Text.takeBytes? (Text.byteSize keyword) (text ++ behind) = some text :=
    Text.takeBytes?_eq_some_iff.2 ⟨behind, rfl, h.byteSize_eq⟩
  have hagrees : agrees .insensitive keyword text = true :=
    beq_iff_eq.2 ((Text.lowercase_eq_iff hk h.byteSize_eq).2 h)
  rw [front_literal, htake]
  exact if_pos hagrees

/-- What is recognised as a keyword is one of its spellings. -/
theorem isSpelling_of_front (hk : Text.IsAscii keyword)
    (h : (literal keyword .insensitive).front rest ≠ []) :
    Text.IsSpelling keyword ((literal keyword .insensitive).front rest) := by
  rw [front_literal] at h ⊢
  cases htake : Text.takeBytes? (Text.byteSize keyword) rest with
  | none => simp [htake] at h
  | some text =>
    obtain ⟨-, -, hsize⟩ := Text.takeBytes?_eq_some_iff.1 htake
    simp only [htake] at h ⊢
    split at h
    · rename_i hagrees
      rw [if_pos hagrees]
      exact (Text.lowercase_eq_iff hk hsize).1 (beq_iff_eq.1 hagrees)
    · exact absurd rfl h

/-- **A keyword is recognised in its ASCII spellings only.** Let a fixed text of ASCII characters be
looked for without regard to case, at an offset of any source. Something is recognised exactly if
the source goes on with a spelling of the keyword: with as many bytes, all of them ASCII, that are
the same up to the case of letters. Then this spelling is recognised as it stands in the source. No
character outside ASCII is ever part of what is recognised. -/
theorem matchAt_keyword {keyword : List Char} (hne : keyword ≠ [])
    (hk : Text.IsAscii keyword) {source rest : List Char} {offset : Nat}
    (hrest : Text.dropBytes? offset source = some rest) :
    ((literal keyword .insensitive).matchAt source offset ≠ [] ↔
        ∃ text, text <+: rest ∧ Text.IsSpelling keyword text) ∧
      (∀ text, text <+: rest → Text.IsSpelling keyword text →
        (literal keyword .insensitive).matchAt source offset = text) ∧
      Text.IsAscii ((literal keyword .insensitive).matchAt source offset) := by
  have hfront : (literal keyword .insensitive).matchAt source offset =
      (literal keyword .insensitive).front rest := by
    rw [matchAt, hrest]
  have hbegins : (literal keyword .insensitive).front rest <+: rest :=
    anchored_of_literal rfl rest
  rw [hfront]
  refine ⟨⟨fun h => ⟨_, hbegins, isSpelling_of_front hk h⟩, ?_⟩,
    fun text => front_of_isSpelling hk, ?_⟩
  · rintro ⟨text, htext, hspelling⟩ hnil
    rw [front_of_isSpelling hk htext hspelling] at hnil
    have hpos : 0 < Text.byteSize text := hspelling.byteSize_eq ▸ Text.byteSize_pos hne
    rw [hnil, Text.byteSize_nil] at hpos
    exact Nat.lt_irrefl 0 hpos
  · by_cases h : (literal keyword .insensitive).front rest = []
    · rw [h]
      exact fun c hc => absurd hc List.not_mem_nil
    · exact (isSpelling_of_front hk h).isAscii

/-- Behind the parenthesis of `(NIL)` the keyword `nil` is recognised, in capital letters. -/
theorem matchAt_keyword_capitals :
    ['n', 'i', 'l'] ≠ [] ∧ Text.IsAscii ['n', 'i', 'l'] ∧
      Text.dropBytes? 1 ['(', 'N', 'I', 'L', ')'] = some ['N', 'I', 'L', ')'] ∧
      (literal ['n', 'i', 'l'] .insensitive).matchAt ['(', 'N', 'I', 'L', ')'] 1 =
        ['N', 'I', 'L'] := by
  have hne : ['n', 'i', 'l'] ≠ [] := List.cons_ne_nil _ _
  have hk : Text.IsAscii ['n', 'i', 'l'] := by decide
  have hrest : Text.dropBytes? 1 ['(', 'N', 'I', 'L', ')'] = some ['N', 'I', 'L', ')'] := rfl
  obtain ⟨-, hspellings, -⟩ := matchAt_keyword hne hk hrest
  exact ⟨hne, hk, hrest, hspellings ['N', 'I', 'L'] ⟨[')'], rfl⟩ ⟨rfl, by decide, by decide⟩⟩

/-- The Kelvin sign takes three bytes, and its lower case is a single `k`. -/
example : (literal ['k', 'k', 'k'] .insensitive).matchAt ['\u212a'] 0 = [] := by decide

end Rule

end Parens
