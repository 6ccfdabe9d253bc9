import Mathlib.Algebra.Ring.Int.Defs
import Parens.Proofs.RoundTrip

/-!
# Texts That Spell an Integer

A `Numeral` of an integer is an optional sign and one or more digits, as many zeros in front of them
as one likes. A text spells an integer if it is a numeral of it with blanks in front and behind
(`Spells`). No blank belongs to a numeral, so the blanks that are removed from both ends of a text
are those around the numeral, and the two ways to say it are one (`spells_iff`).

The reader of integers checks the range digit by digit, against a bound that is larger by one behind
a minus sign. What it accepts are the numerals of the integers of 64 bits (`readInt64_eq_ok_iff`),
up to both ends of their range.

## Main results

* `readInt64_eq_ok_iff`: **the reader of integers reads numerals**, and all that fit.
* `numeral_repr`: an integer is written as a numeral of it.
* `Scalar.ofValue_text_exact`: **a text converts to an integer** exactly if it spells it.
-/

namespace Parens

namespace Number

/-! ### Numerals -/

/-- The numerals of integers, with the value of their digits. -/
inductive Numeral : List Char → Int → Prop
  /-- Digits. -/
  | digits {ds : List Char} : ds ≠ [] → (∀ c ∈ ds, c.isDigit = true) →
      Numeral ds (Nat.ofDigitChars 10 ds 0)
  /-- Digits behind a plus sign. -/
  | plus {ds : List Char} : ds ≠ [] → (∀ c ∈ ds, c.isDigit = true) →
      Numeral ('+' :: ds) (Nat.ofDigitChars 10 ds 0)
  /-- Digits behind a minus sign, which negates them. -/
  | minus {ds : List Char} : ds ≠ [] → (∀ c ∈ ds, c.isDigit = true) →
      Numeral ('-' :: ds) (-Nat.ofDigitChars 10 ds 0)

/-- A text spells an integer: it is a numeral of it with blanks in front and behind. -/
def Spells (text : List Char) (i : Int) : Prop :=
  ∃ front numeral behind, text = front ++ numeral ++ behind ∧
    (∀ c ∈ front, Text.isBlank c = true) ∧ (∀ c ∈ behind, Text.isBlank c = true) ∧
    Numeral numeral i

/-- A numeral is made of digits and signs. -/
theorem Numeral.isDigit_or_sign {text : List Char} {i : Int} (h : Numeral text i) {c : Char}
    (hc : c ∈ text) : c.isDigit = true ∨ c = '-' ∨ c = '+' := by
  cases h with
  | digits hne hdigits => exact .inl (hdigits c hc)
  | plus hne hdigits =>
    obtain rfl | hc := List.mem_cons.1 hc
    · exact .inr (.inr rfl)
    · exact .inl (hdigits c hc)
  | minus hne hdigits =>
    obtain rfl | hc := List.mem_cons.1 hc
    · exact .inr (.inl rfl)
    · exact .inl (hdigits c hc)

/-- No blank belongs to a numeral. -/
theorem Numeral.isBlank_eq_false {text : List Char} {i : Int} (h : Numeral text i) {c : Char}
    (hc : c ∈ text) : Text.isBlank c = false := by
  obtain hdigit | rfl | rfl := h.isDigit_or_sign hc
  · exact isBlank_of_isDigit hdigit
  · decide
  · decide

/-- Removing blanks leaves a numeral as it is. -/
theorem Numeral.trim_eq_self {text : List Char} {i : Int} (h : Numeral text i) :
    Text.trim text = text :=
  Text.trimBy_eq_self (fun _ hc => h.isBlank_eq_false (List.mem_of_head? hc))
    fun _ hc => h.isBlank_eq_false (List.mem_of_getLast? hc)

/-- **A text spells an integer** exactly if it is a numeral of it when the blanks at its two ends
are removed. -/
theorem spells_iff {text : List Char} {i : Int} :
    Spells text i ↔ Numeral (Text.trim text) i := by
  constructor
  · rintro ⟨front, numeral, behind, rfl, hfront, hbehind, hnumeral⟩
    have htrim : Text.trim (front ++ numeral ++ behind) = Text.trim numeral :=
      Text.trimBy_append hfront hbehind
    rw [htrim, hnumeral.trim_eq_self]
    exact hnumeral
  · intro h
    obtain ⟨front, behind, htext, hfront, hbehind⟩ :=
      Text.exists_eq_append_trimBy Text.isBlank text
    exact ⟨front, _, behind, htext, hfront, hbehind, h⟩

/-! ### Reading -/

/-- The largest magnitude behind a sign. -/
def largest (negative : Bool) : Nat :=
  if negative then 0x8000000000000000 else 0x7FFFFFFFFFFFFFFF

/-- The integer of a magnitude behind a sign. -/
def signed (negative : Bool) (n : Nat) : Int := if negative then -n else n

/-- Digits have no sign in front of them. -/
theorem splitSign_of_isDigit {ds : List Char} (hdigits : ∀ c ∈ ds, c.isDigit = true) :
    splitSign ds = (false, ds) := by
  unfold splitSign
  split
  · exact absurd (hdigits '-' List.mem_cons_self) (by decide)
  · exact absurd (hdigits '+' List.mem_cons_self) (by decide)
  · rfl

/-- A numeral is a sign, if there is one, and digits. -/
theorem numeral_iff {text : List Char} {i : Int} :
    Numeral text i ↔ ∃ negative ds, splitSign text = (negative, ds) ∧ ds ≠ [] ∧
      (∀ c ∈ ds, c.isDigit = true) ∧ i = signed negative (Nat.ofDigitChars 10 ds 0) := by
  constructor
  · intro h
    cases h with
    | digits hne hdigits => exact ⟨_, _, splitSign_of_isDigit hdigits, hne, hdigits, rfl⟩
    | plus hne hdigits => exact ⟨false, _, rfl, hne, hdigits, rfl⟩
    | minus hne hdigits => exact ⟨true, _, rfl, hne, hdigits, rfl⟩
  · rintro ⟨negative, ds, hsplit, hne, hdigits, rfl⟩
    unfold splitSign at hsplit
    split at hsplit
    · obtain ⟨rfl, rfl⟩ := Prod.mk.inj hsplit
      exact .minus hne hdigits
    · obtain ⟨rfl, rfl⟩ := Prod.mk.inj hsplit
      exact .plus hne hdigits
    · obtain ⟨rfl, rfl⟩ := Prod.mk.inj hsplit
      exact .digits hne hdigits

/-- A magnitude that is not too large behind its sign is the one of an integer of 64 bits. -/
theorem le_largest_iff {negative : Bool} {m : Nat} {n : Int64} :
    m ≤ largest negative ∧ Int64.ofInt (signed negative m) = n ↔ n.toInt = signed negative m := by
  have hrange : m ≤ largest negative →
      (Int64.ofInt (signed negative m)).toInt = signed negative m := by
    intro hle
    cases negative with
    | true =>
      simp only [largest, if_true, signed] at hle ⊢
      exact Int64.toInt_ofInt_of_le (by omega) (by omega)
    | false =>
      simp only [largest, Bool.false_eq_true, if_false, signed] at hle ⊢
      exact Int64.toInt_ofInt_of_le (by omega) (by omega)
  constructor
  · rintro ⟨hle, rfl⟩
    exact hrange hle
  · intro h
    have hfirst := n.le_toInt
    have hlast := n.toInt_lt
    refine ⟨?_, by rw [← h, Int64.ofInt_toInt]⟩
    rw [h] at hfirst hlast
    cases negative with
    | true =>
      simp only [largest, if_true, signed] at hfirst ⊢
      omega
    | false =>
      simp only [largest, Bool.false_eq_true, if_false, signed] at hlast ⊢
      omega

/-- The fault of a magnitude that is too large behind a sign. -/
def overflow (negative : Bool) : IntegerFault := if negative then .tooSmall else .tooLarge

/-- Behind a sign, digits are read up to the largest magnitude. -/
theorem readInt64_eq_map {text ds : List Char} {negative : Bool}
    (hsplit : splitSign text = (negative, ds)) (hne : ds ≠ []) :
    readInt64 text = (readMagnitude (largest negative) (overflow negative) 0 ds).map
      fun m => Int64.ofInt (signed negative m) := by
  have htext : text ≠ [] := by
    rintro rfl
    exact hne (Prod.mk.inj hsplit).2.symm
  obtain ⟨c, cs, rfl⟩ := List.exists_cons_of_ne_nil hne
  rw [readInt64, if_neg htext, hsplit]
  cases negative with
  | true =>
    change ((readMagnitude (largest true) (overflow true) 0 (c :: cs)) >>= _).map _ = _
    cases readMagnitude (largest true) (overflow true) 0 (c :: cs) <;> rfl
  | false =>
    change ((readMagnitude (largest false) (overflow false) 0 (c :: cs)) >>= _).map _ = _
    cases readMagnitude (largest false) (overflow false) 0 (c :: cs) <;> rfl

/-- Without digits nothing is read. -/
theorem readInt64_ne_ok_of_splitSign {text : List Char} {negative : Bool}
    (hsplit : splitSign text = (negative, [])) (n : Int64) : readInt64 text ≠ .ok n := by
  unfold readInt64
  split
  · simp
  · rw [hsplit]
    simp

/-- **The reader of integers reads numerals**: it accepts exactly the numerals of integers of 64
bits, as these integers. -/
theorem readInt64_eq_ok_iff {text : List Char} {n : Int64} :
    readInt64 text = .ok n ↔ Numeral text n.toInt := by
  rw [numeral_iff]
  constructor
  · intro h
    rcases hsplit : splitSign text with ⟨negative, ds⟩
    have hne : ds ≠ [] := by
      rintro rfl
      exact readInt64_ne_ok_of_splitSign hsplit n h
    rw [readInt64_eq_map hsplit hne] at h
    cases hm : readMagnitude (largest negative) (overflow negative) 0 ds with
    | error fault =>
      rw [hm] at h
      cases h
    | ok m =>
      obtain ⟨hdigits, rfl, hle⟩ := (readMagnitude_eq_ok_iff (Nat.zero_le _)).1 hm
      rw [hm] at h
      exact ⟨negative, ds, rfl, hne, hdigits, le_largest_iff.1 ⟨hle, Except.ok.inj h⟩⟩
  · rintro ⟨negative, ds, hsplit, hne, hdigits, hn⟩
    obtain ⟨hle, rfl⟩ := le_largest_iff.2 hn
    rw [readInt64_eq_map hsplit hne,
      (readMagnitude_eq_ok_iff (Nat.zero_le _)).2 ⟨hdigits, rfl, hle⟩]
    rfl

/-! ### Writing -/

/-- The digits of a number are digits. -/
theorem isDigit_of_mem_toDigits {n : Nat} : ∀ c ∈ Nat.toDigits 10 n, c.isDigit = true :=
  fun _ hc => Nat.isDigit_of_mem_toDigits (by decide) (by decide) hc

/-- **An integer is written as a numeral of it.** -/
theorem numeral_repr (i : Int) : Numeral i.repr.toList i := by
  have hvalue (m : Nat) : Nat.ofDigitChars 10 (Nat.toDigits 10 m) 0 = m :=
    Nat.ofDigitChars_ten_toDigits
  cases i with
  | ofNat m =>
    have hrepr : (Int.ofNat m).repr.toList = Nat.toDigits 10 m := Nat.toList_repr
    have hnumeral := Numeral.digits Nat.toDigits_ne_nil (isDigit_of_mem_toDigits (n := m))
    rw [hvalue] at hnumeral
    rw [hrepr]
    exact hnumeral
  | negSucc m =>
    have hrepr : (Int.negSucc m).repr.toList = '-' :: Nat.toDigits 10 (m + 1) := by
      have hsign : (Int.negSucc m).repr = "-" ++ (m + 1).repr := rfl
      rw [hsign, String.toList_append, Nat.toList_repr]
      rfl
    have hnumeral := Numeral.minus Nat.toDigits_ne_nil (isDigit_of_mem_toDigits (n := m + 1))
    rw [hvalue] at hnumeral
    rw [hrepr]
    exact hnumeral

end Number

/-! ### Converting -/

namespace Scalar

open Number

/-- A text converts to an integer as its reader reads it without the blanks around it. -/
theorem ofValue_text (s : String) :
    (Scalar.ofValue (.text s) : Except Error Int64) =
      (readInt64 (Text.trim s.toList)).mapError fun _ => .mismatch "Int" s := by
  change intOf (.text s) = _
  rw [intOf]
  cases readInt64 (Text.trim s.toList) <;> rfl

/-- A text converts to an integer exactly if it spells it. -/
theorem ofValue_text_eq_ok_iff {s : String} {n : Int64} :
    Scalar.ofValue (.text s) = .ok n ↔ Spells s.toList n.toInt := by
  rw [spells_iff, ← readInt64_eq_ok_iff, ofValue_text]
  cases readInt64 (Text.trim s.toList) <;> simp [Except.mapError]

/-- A text that does not convert to an integer is reported with its own characters. -/
theorem ofValue_text_eq_error {s : String} (h : ∀ n : Int64, ¬ Spells s.toList n.toInt) :
    (Scalar.ofValue (.text s) : Except Error Int64) = .error (.mismatch "Int" s) := by
  rw [ofValue_text]
  cases hread : readInt64 (Text.trim s.toList) with
  | ok n => exact absurd (spells_iff.2 (readInt64_eq_ok_iff.1 hread)) (h n)
  | error fault => rfl

/-- **A text converts to an integer** exactly if it spells an integer from `-2 ^ 63` on up to
`2 ^ 63 - 1`, namely to this one. Any other text is refused, and reported with its own characters.
So what an integer is written as converts back to it, with any blanks in front and behind. -/
theorem ofValue_text_exact (s : String) :
    (∀ n : Int64, Scalar.ofValue (.text s) = .ok n ↔
      ∃ i, Spells s.toList i ∧ -2 ^ 63 ≤ i ∧ i < 2 ^ 63 ∧ n.toInt = i) ∧
    ((¬ ∃ i, Spells s.toList i ∧ -2 ^ 63 ≤ i ∧ i < 2 ^ 63) →
      (Scalar.ofValue (.text s) : Except Error Int64) = .error (.mismatch "Int" s)) ∧
    ∀ (n : Int64) (u w : String), (∀ c ∈ u.toList, Text.isBlank c = true) →
      (∀ c ∈ w.toList, Text.isBlank c = true) →
      Scalar.ofValue (.text (u ++ (Value.int n).render ++ w)) = .ok n := by
  refine ⟨fun n => ?_, fun hnone => ?_, fun n u w hu hw => ?_⟩
  · rw [ofValue_text_eq_ok_iff]
    constructor
    · intro h
      exact ⟨n.toInt, h, n.le_toInt, n.toInt_lt, rfl⟩
    · rintro ⟨i, h, -, -, rfl⟩
      exact h
  · refine ofValue_text_eq_error fun n h => hnone ⟨n.toInt, h, n.le_toInt, n.toInt_lt⟩
  · rw [ofValue_text_eq_ok_iff, String.toList_append, String.toList_append]
    exact ⟨_, _, _, rfl, hu, hw, numeral_repr n.toInt⟩

/-- The least integer is read between blanks and with a zero in front, the number behind the largest
integer is refused, and `-7` is read back between blanks. -/
theorem ofValue_text_exact_limits :
    Scalar.ofValue (.text "\u3000-09223372036854775808\n") = .ok Int64.minValue ∧
      (Scalar.ofValue (.text "9223372036854775808") : Except Error Int64) =
        .error (.mismatch "Int" "9223372036854775808") ∧
      Scalar.ofValue (.text ("\t" ++ (Value.int (-7)).render ++ "\u00a0")) = .ok (-7 : Int64) := by
  have hleast : Spells "\u3000-09223372036854775808\n".toList (-9223372036854775808) :=
    ⟨['\u3000'], _, ['\n'], rfl, List.all_eq_true.1 rfl, List.all_eq_true.1 rfl,
      @Numeral.minus "09223372036854775808".toList (by decide) (List.all_eq_true.1 rfl)⟩
  have hbeyond : ¬ ∃ i, Spells "9223372036854775808".toList i ∧ -2 ^ 63 ≤ i ∧ i < 2 ^ 63 := by
    rintro ⟨i, hspells, -, hlt⟩
    obtain ⟨negative, ds, hsplit, -, -, rfl⟩ := numeral_iff.1 (spells_iff.1 hspells)
    obtain ⟨rfl, rfl⟩ : false = negative ∧ "9223372036854775808".toList = ds :=
      Prod.mk.inj hsplit
    exact absurd hlt (by decide)
  exact ⟨((ofValue_text_exact _).1 _).2 ⟨_, hleast, by decide, by decide, by decide⟩,
    (ofValue_text_exact _).2.1 hbeyond,
    (ofValue_text_exact "").2.2 (-7) "\t" "\u00a0" (List.all_eq_true.1 rfl)
      (List.all_eq_true.1 rfl)⟩

end Scalar

end Parens
