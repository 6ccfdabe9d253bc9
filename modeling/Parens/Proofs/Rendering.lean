import Mathlib.Algebra.Field.Rat
import Mathlib.Algebra.GroupWithZero.Basic
import Mathlib.Data.Rat.Cast.CharZero
import Mathlib.Tactic.Ring
import Parens.Proofs.Numerals

/-!
# Written Numbers Keep Their Kind

A floating-point number is written with a point, also when it is whole, and an integer without one.
So the written form of a value tells a floating-point number from an integer, and from everything
else that is not a text (`Value.writtenType`).

For a whole number the point is put there. For any other number it has to come from the search for
the fewest digits. The number is an odd multiple of some `2 ^ q` below one, and every whole number
is a multiple of `2 ^ q` as well. The interval around the number reaches half of `2 ^ q` to each side,
so no whole number lies in it, and the search comes to a grid finer than the whole numbers
(`shortest_snd_neg`).

That the digits found are as few as can be is not needed for this, and not shown here.

## Main results

* `shortest_snd_neg`: **a number that is not whole** is written on a grid finer than the whole
  numbers.
* `renderFloat_pointed`: **a finite number** is written with a point between digits.
* `Value.writtenType_render`: **the written form tells the type** of a value that is no text.
* `Value.render_keeps_type`: the last two in one, with the digits of whole numbers.
-/

namespace Parens

namespace Number

/-! ### Whole numbers -/

/-- `whole?` finds the natural number that a number is. -/
theorem whole?_eq_some_iff_cast {m n : Nat} {q : Int} :
    whole? m q = some n ↔ (m : ℚ) * 2 ^ q = n := by
  by_cases hq : 0 ≤ q
  · obtain ⟨k, rfl⟩ := Int.eq_ofNat_of_zero_le hq
    rw [whole?, if_pos hq, zpow_natCast]
    simp only [Int.toNat_natCast, Option.some.injEq]
    norm_cast
  · obtain ⟨k, rfl⟩ : ∃ k : Nat, q = -k := ⟨(-q).toNat, by omega⟩
    rw [whole?_eq_some_iff (Int.not_le.1 hq), zpow_neg, zpow_natCast,
      mul_inv_eq_iff_eq_mul₀ (pow_ne_zero k two_ne_zero)]
    simp only [neg_neg, Int.toNat_natCast]
    norm_cast

/-! ### Grids without a point -/

/-- A point of a grid of whole numbers that lies in the interval around a number is that number. -/
theorem Gap.whole?_of_holds {m n : Nat} {q k : Int} (hq : q < 0) (hk : 0 ≤ k)
    (h : (Gap.make m q k).holds n = true) : ∃ i, whole? m q = some i := by
  obtain ⟨a, rfl⟩ := Int.eq_ofNat_of_zero_le hk
  obtain ⟨b, rfl⟩ : ∃ b : Nat, q = -b := ⟨(-q).toNat, by omega⟩
  refine ⟨n * 10 ^ a, (whole?_eq_some_iff hq).2 ?_⟩
  -- The unit is one quarter of `2 ^ q`, and the mesh is a multiple of four units.
  have hunit : Nat.pow 2 (-(b : Int) - 2).toNat * Nat.pow 10 (-(a : Int)).toNat = 1 := by
    rw [show (-(b : Int) - 2).toNat = 0 by omega, show (-(a : Int)).toNat = 0 by omega]
  have hmesh : n * (Nat.pow 10 (a : Int).toNat * Nat.pow 2 (2 - -(b : Int)).toNat) =
      4 * (n * 10 ^ a * 2 ^ b) := by
    rw [show (2 - -(b : Int)).toNat = b + 2 by omega, Int.toNat_natCast]
    change n * (10 ^ a * 2 ^ (b + 2)) = _
    rw [Nat.pow_add]
    ring
  have hends : 4 * m - 2 ≤ 4 * (n * 10 ^ a * 2 ^ b) ∧ 4 * (n * 10 ^ a * 2 ^ b) ≤ 4 * m + 2 := by
    simp only [Gap.holds, Gap.make, hunit, hmesh, Nat.mul_one] at h
    split at h <;> split at h <;> grind
  have hexp : (-(-(b : Int))).toNat = b := by omega
  rw [hexp]
  change m = n * 10 ^ a * 2 ^ b
  omega

/-- On a grid without a point in the interval nothing is picked. -/
theorem Gap.pick?_eq_none {g : Gap} {tie : Tie} (h : ∀ n, g.holds n = false) :
    g.pick? tie = none := by
  simp [Gap.pick?, h]

/-- If no grid of whole numbers has a point in the interval, then the search, if it goes on for long
enough, comes to a finer one. -/
theorem shortestFrom_snd_neg {tie : Tie} {m : Nat} {q : Int}
    (h : ∀ k : Int, 0 ≤ k → (Gap.make m q k).pick? tie = none) {fuel : Nat} {k : Int}
    (hfuel : k < fuel) : (shortestFrom tie m q fuel k).2 < 0 := by
  induction fuel generalizing k with
  | zero => exact hfuel
  | succ fuel ih =>
    rw [shortestFrom]
    split
    · rename_i n hpick
      refine Int.lt_of_not_ge fun hk => ?_
      rw [h k hk] at hpick
      cases hpick
    · exact ih (by omega)

/-- **A number that is not whole** is written on a grid finer than the whole numbers. -/
theorem shortest_snd_neg {tie : Tie} {m : Nat} {q : Int} (hm : m < 10 ^ 16) (hq : q < 0)
    (h : whole? m q = none) : (shortest tie m q).2 < 0 := by
  refine shortestFrom_snd_neg (fun k hk => Gap.pick?_eq_none fun n => ?_) ?_
  · refine Bool.eq_false_iff.2 fun hholds => ?_
    obtain ⟨i, hi⟩ := Gap.whole?_of_holds hq hk hholds
    rw [hi] at h
    cases h
  · have hnum : m * Nat.pow 2 q.toNat = m := by
      rw [show q.toNat = 0 by omega]
      exact Nat.mul_one m
    rw [hnum]
    have hlen : (Nat.toDigits 10 (m / Nat.pow 2 (-q).toNat)).length ≤ 16 :=
      (Nat.length_toDigits_le_iff (by decide) (by decide)).2
        (Nat.lt_of_le_of_lt (Nat.div_le_self _ _) hm)
    split <;> omega

/-! ### Digits around a point -/

/-- A text has digits, a point and digits again. -/
def Pointed (text : List Char) : Prop :=
  ∃ whole fraction, text = whole ++ '.' :: fraction ∧ whole ≠ [] ∧ fraction ≠ [] ∧
    (∀ c ∈ whole, c.isDigit = true) ∧ ∀ c ∈ fraction, c.isDigit = true

/-- Digits that do not all stand in front of the point have a point between them. -/
theorem pointed_positional {n : Nat} {k : Int} (hk : k < 0) :
    Pointed (Decimal.positional n k) := by
  have hlen : 0 < (Nat.toDigits 10 n).length := Nat.length_toDigits_pos
  unfold Decimal.positional
  rw [if_neg (by omega)]
  simp only
  split
  · rename_i hplaces
    refine ⟨_, _, rfl, ?_, ?_, fun c hc => isDigit_of_mem_toDigits c (List.mem_of_mem_take hc),
      fun c hc => isDigit_of_mem_toDigits c (List.mem_of_mem_drop hc)⟩
    · exact List.ne_nil_of_length_pos (by rw [List.length_take]; omega)
    · exact List.ne_nil_of_length_pos (by rw [List.length_drop]; omega)
  · refine ⟨['0'], _, rfl, by simp, by simp, List.forall_mem_singleton.2 rfl, fun c hc => ?_⟩
    obtain hc | hc := List.mem_append.1 hc
    · rw [List.eq_of_mem_replicate hc]
      decide
    · exact isDigit_of_mem_toDigits c hc

/-- A whole number with the fraction `.0` has a point between its digits. -/
theorem pointed_toDigits (n : Nat) : Pointed (Nat.toDigits 10 n ++ ['.', '0']) :=
  ⟨_, ['0'], rfl, Nat.toDigits_ne_nil, by simp, isDigit_of_mem_toDigits,
    List.forall_mem_singleton.2 rfl⟩

/-- The mantissa of a finite number has at most 53 bits. -/
theorem Binary.mantissa_lt {bits m : Nat} {negative : Bool} {q : Int}
    (h : Binary.ofBits bits = .finite negative m q) : m < 2 ^ 53 := by
  have hfraction : bits % normal < 2 ^ 52 := Nat.mod_lt _ (by decide)
  have hnormal : normal = 2 ^ 52 := rfl
  unfold Binary.ofBits at h
  simp only at h
  split at h
  · split at h <;> cases h
  · split at h
    · obtain ⟨rfl, rfl, rfl⟩ := Binary.finite.inj h
      omega
    · obtain ⟨rfl, rfl, rfl⟩ := Binary.finite.inj h
      omega

end Number

open Number

/-! ### Floating-point numbers -/

/-- The sign in front of a number. -/
def signText (negative : Bool) : List Char := if negative then ['-'] else []

/-- A whole number shows all its digits and the fraction `.0`. -/
theorem renderFloat_of_whole {x : Float} {negative : Bool} {m n : Nat} {q : Int}
    (hx : Binary.ofFloat x = .finite negative m q) (hn : whole? m q = some n) :
    renderFloat x = signText negative ++ (Nat.toDigits 10 n ++ ['.', '0']) := by
  rw [renderFloat, hx]
  simp only [hn]
  cases negative <;> rfl

/-- **A finite number** is written with a point between digits, behind its sign. -/
theorem renderFloat_pointed {x : Float} {negative : Bool} {m : Nat} {q : Int}
    (hx : Binary.ofFloat x = .finite negative m q) :
    ∃ body, renderFloat x = signText negative ++ body ∧ Pointed body := by
  cases hwhole : whole? m q with
  | some n => exact ⟨_, renderFloat_of_whole hx hwhole, pointed_toDigits n⟩
  | none =>
    have hq : q < 0 := by
      refine Int.lt_of_not_ge fun hq => ?_
      rw [whole?, if_pos hq] at hwhole
      cases hwhole
    have hm : m < 10 ^ 16 := Nat.lt_trans (Binary.mantissa_lt hx) (by decide)
    refine ⟨Decimal.positional (shortest .up m q).1 (shortest .up m q).2, ?_,
      pointed_positional (shortest_snd_neg hm hq hwhole)⟩
    rw [renderFloat, hx]
    simp only [hwhole]
    cases negative <;> rfl

namespace Value

/-! ### The type of a written value -/

/-- The type of the value that a text is the written form of, if it is one of a value that is no
text. -/
def writtenType (text : List Char) : String :=
  if text = "null".toList then "Null"
  else if text = "true".toList || text = "false".toList then "Bool"
  else if text.all fun c => c.isDigit || c == '-' || c == '+' then "Int"
  else "Float"

/-- A text with a point in it is the written form of a floating-point number. -/
theorem writtenType_of_mem {text : List Char} (h : '.' ∈ text) : writtenType text = "Float" := by
  have hne : ∀ word : List Char, '.' ∉ word → text ≠ word := by
    rintro word hword rfl
    exact hword h
  have hall : ¬ (text.all fun c => c.isDigit || c == '-' || c == '+') = true := fun hall =>
    absurd (List.all_eq_true.1 hall '.' h) (by decide)
  rw [writtenType, if_neg (hne _ (by decide)), if_neg, if_neg hall]
  simp only [Bool.or_eq_true, decide_eq_true_eq, not_or]
  exact ⟨hne _ (by decide), hne _ (by decide)⟩

/-- A text of digits and signs is the written form of an integer. -/
theorem writtenType_of_all {text : List Char}
    (h : ∀ c ∈ text, c.isDigit = true ∨ c = '-' ∨ c = '+') : writtenType text = "Int" := by
  have hne : ∀ word : List Char, ∀ c ∈ word, ¬ (c.isDigit = true ∨ c = '-' ∨ c = '+') →
      text ≠ word := by
    rintro word c hc hnot rfl
    exact hnot (h c hc)
  rw [writtenType, if_neg (hne _ 'n' (by decide) (by decide)), if_neg, if_pos]
  · refine List.all_eq_true.2 fun c hc => ?_
    simpa [or_assoc] using h c hc
  · simp only [Bool.or_eq_true, decide_eq_true_eq, not_or]
    exact ⟨hne _ 't' (by decide) (by decide), hne _ 'f' (by decide) (by decide)⟩

/-- **The written form tells the type** of a value that is no text. -/
theorem writtenType_render {v : Value} (hv : v.asText? = none) :
    writtenType v.render.toList = v.typeName := by
  cases v with
  | null => decide
  | bool b => cases b <;> decide
  | int n => exact writtenType_of_all fun c hc => (numeral_repr n.toInt).isDigit_or_sign hc
  | text s => cases hv
  | float x =>
    change writtenType (String.ofList (renderFloat x)).toList = "Float"
    rw [String.toList_ofList]
    cases hx : Binary.ofFloat x with
    | nan =>
      rw [renderFloat, hx]
      decide
    | infinite negative =>
      rw [renderFloat, hx]
      cases negative <;> decide
    | finite negative m q =>
      obtain ⟨body, hrender, whole, fraction, rfl, -⟩ := renderFloat_pointed hx
      refine writtenType_of_mem ?_
      rw [hrender]
      simp

/-- **Written values keep their kind.** Values of different types are written differently, if none
of them is a text. A finite floating-point number shows a minus sign or nothing, and then digits, a
point and digits; if it is whole, then these are all the digits of the whole number and `.0`. -/
theorem render_keeps_type :
    (∀ v w : Value, v.asText? = none → w.asText? = none → v.typeName ≠ w.typeName →
      v.render ≠ w.render) ∧
    ∀ (x : Float) (negative : Bool) (m : Nat) (q : Int),
      Binary.ofFloat x = .finite negative m q →
      (∃ whole fraction, (float x).render.toList =
          (if negative then ['-'] else []) ++ whole ++ '.' :: fraction ∧
        whole ≠ [] ∧ fraction ≠ [] ∧
        (∀ c ∈ whole, c.isDigit = true) ∧ ∀ c ∈ fraction, c.isDigit = true) ∧
      ∀ n : Nat, (m : ℚ) * 2 ^ q = n → (float x).render.toList =
        (if negative then ['-'] else []) ++ Nat.toDigits 10 n ++ ['.', '0'] := by
  refine ⟨fun v w hv hw hne heq => ?_, fun x negative m q hx => ⟨?_, fun n hn => ?_⟩⟩
  · rw [← writtenType_render hv, ← writtenType_render hw, heq] at hne
    exact hne rfl
  · obtain ⟨body, hrender, whole, fraction, rfl, hwhole⟩ := renderFloat_pointed hx
    refine ⟨whole, fraction, ?_, hwhole⟩
    rw [render, String.toList_ofList, hrender, signText, List.append_assoc]
  · rw [render, String.toList_ofList, renderFloat_of_whole hx (whole?_eq_some_iff_cast.2 hn),
      signText, List.append_assoc]

/-- The number one is written differently as an integer and as a floating-point number, a tenth has
a point between digits, and the negative zero shows its sign. -/
theorem render_keeps_type_one :
    (int 1).render ≠ (float (Float.ofBits 0x3FF0000000000000)).render ∧
      (∃ whole fraction, (float (Float.ofBits 0x3FB999999999999A)).render.toList =
          [] ++ whole ++ '.' :: fraction ∧ whole ≠ [] ∧ fraction ≠ [] ∧
        (∀ c ∈ whole, c.isDigit = true) ∧ ∀ c ∈ fraction, c.isDigit = true) ∧
      (float (Float.ofBits 0x8000000000000000)).render.toList = ['-', '0', '.', '0'] :=
  ⟨render_keeps_type.1 _ _ rfl rfl (by decide),
    (render_keeps_type.2 _ false 0x1999999999999A (-56) (by decide)).1,
    (render_keeps_type.2 _ true 0 (-1074) (by decide)).2 0 (by simp)⟩

end Value

end Parens
