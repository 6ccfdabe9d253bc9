import Mathlib.Order.Bounds.Basic
import Parens.Proofs.Anchoring

/-!
# Windows

A rule for a regular expression may have its lookahead limited to a number of bytes. It then sees a
window of the text ahead. The limit can fall inside a character, and the window ends in front of
that character: it is the widest piece that fits (`Text.isGreatest_window`). So a limited rule
recognises what the same rule without a limit would recognise if the source ended with the window.

The length of one character and of a fixed text is known, and no limit changes it. Which limit a
kind of tokens has in the end is up to the order in which it was built (`Kind.Built`), and all that
counts is said by `Rule.Measured`: the limit of one character and of a fixed text is its size, and
a regular expression is one that was built without a limit, up to its limit.

## Main results

* `Text.isGreatest_window`: **the window is the widest piece that fits.**
* `Kind.Built.measured`: building keeps limits in order.
* `Kind.Built.matchAt_windowed`: **a match stays within the declared limit**, and a limit is the end
  of the source to an expression.
-/

namespace Parens

namespace Text

/-! ### The widest piece that fits -/

/-- A text has a boundary behind so many bytes if one of its characters ends there, or if it begins
there. -/
def IsBoundary (cs : List Char) (n : Nat) : Prop :=
  ∃ front, front <+: cs ∧ byteSize front = n

/-- Whatever a text begins with is in its window, if it fits. -/
theorem isPrefix_window {n : Nat} {front cs : List Char} (h : front <+: cs)
    (hn : byteSize front ≤ n) : front <+: window n cs := by
  induction front generalizing n cs with
  | nil => exact List.nil_prefix
  | cons c front ih =>
    obtain ⟨behind, rfl⟩ := h
    rw [byteSize_cons] at hn
    rw [List.cons_append, window, if_pos (by omega)]
    exact List.cons_prefix_cons.2 ⟨rfl, ih (List.prefix_append front behind) (by omega)⟩

/-- A piece is no wider than the text that it is a piece of. -/
theorem byteSize_le_of_isInfix {piece cs : List Char} (h : piece <:+: cs) :
    byteSize piece ≤ byteSize cs := by
  obtain ⟨front, behind, rfl⟩ := h
  rw [byteSize_append, byteSize_append]
  omega

/-- **The window is the widest piece that fits.** It ends at the last boundary within the limit. -/
theorem isGreatest_window (n : Nat) (cs : List Char) :
    IsGreatest {k | k ≤ n ∧ IsBoundary cs k} (byteSize (window n cs)) := by
  refine ⟨⟨byteSize_window_le n cs, _, window_isPrefix n cs, rfl⟩, ?_⟩
  rintro k ⟨hk, front, hfront, rfl⟩
  exact byteSize_le_of_isInfix (isPrefix_window hfront hk).isInfix

/-- A source can be cut behind any piece that it goes on with at an offset, and then this piece is
all that lies ahead of the offset. -/
theorem exists_takeBytes?_of_isPrefix {offset : Nat} {source rest piece : List Char}
    (hrest : dropBytes? offset source = some rest) (h : piece <+: rest) :
    ∃ cut, takeBytes? (offset + byteSize piece) source = some cut ∧
      dropBytes? offset cut = some piece := by
  obtain ⟨front, rfl, rfl⟩ := dropBytes?_eq_some_iff.1 hrest
  obtain ⟨behind, rfl⟩ := h
  refine ⟨front ++ piece, ?_, dropBytes?_eq_some_iff.2 ⟨front, rfl, rfl⟩⟩
  exact takeBytes?_eq_some_iff.2 ⟨behind, by rw [List.append_assoc], byteSize_append front piece⟩

end Text

namespace Rule

/-! ### Setting a limit -/

variable {d dialect : Dialect} {r : Rule} {source : List Char}
  {find : List Char → Option (List Char)}
  {reads : dialect.read? (Pattern.grouped source) = some find}

/-- An expression has the limit that was set, and zero is no limit. -/
theorem withMaxLength_pattern (h : r.recognizer = .pattern dialect source find reads) (n : Nat) :
    r.withMaxLength n = { r with maxLength := if n = 0 then none else some n } := by
  rw [withMaxLength, h]

/-- Rules that are no expressions stay as they are. -/
theorem withMaxLength_eq_self (h : r.source? = none) (n : Nat) : r.withMaxLength n = r := by
  cases hr : r.recognizer with
  | char c | literal text mode => rw [withMaxLength, hr]
  | pattern dialect source find reads => simp [source?, hr] at h

/-- A limit says nothing about what is recognised. -/
theorem recognizer_withMaxLength (r : Rule) (n : Nat) :
    (r.withMaxLength n).recognizer = r.recognizer := by
  cases hr : r.recognizer with
  | char c | literal text mode => rw [withMaxLength_eq_self (by simp [source?, hr]), hr]
  | pattern dialect source find reads => rw [withMaxLength_pattern hr, hr]

/-- The last limit that was set counts. -/
theorem withMaxLength_withMaxLength (r : Rule) (m n : Nat) :
    (r.withMaxLength m).withMaxLength n = r.withMaxLength n := by
  cases h : r.recognizer with
  | char c | literal text mode =>
    rw [withMaxLength_eq_self (by simp [source?, h]) m]
  | pattern dialect source find reads =>
    have hm : (r.withMaxLength m).recognizer = .pattern dialect source find reads :=
      (r.recognizer_withMaxLength m).trans h
    rw [withMaxLength_pattern hm, withMaxLength_pattern h, withMaxLength_pattern h]

/-- Without a limit, an expression sees all that lies ahead. -/
theorem visible_withMaxLength_zero (h : r.recognizer = .pattern dialect source find reads)
    (rest : List Char) : (r.withMaxLength 0).visible rest = rest := by
  rw [withMaxLength_pattern h]
  rfl

/-- With a limit, an expression sees a window. -/
theorem visible_withMaxLength_pos (h : r.recognizer = .pattern dialect source find reads) {n : Nat}
    (hn : 1 ≤ n) (rest : List Char) : (r.withMaxLength n).visible rest = Text.window n rest := by
  rw [withMaxLength_pattern h, if_neg (by omega)]
  rfl

/-- **A limit is the end of the text** to an expression: it recognises what it would recognise in
the window without a limit. -/
theorem front_withMaxLength (h : r.recognizer = .pattern dialect source find reads) {n : Nat}
    (hn : 1 ≤ n) (rest : List Char) :
    (r.withMaxLength n).front rest = (r.withMaxLength 0).front (Text.window n rest) := by
  rw [front_pattern ((r.recognizer_withMaxLength n).trans h),
    front_pattern ((r.recognizer_withMaxLength 0).trans h), visible_withMaxLength_pos h hn,
    visible_withMaxLength_zero h]

/-! ### Limits in order -/

/-- The limit of a rule is in order: that of one character and of a fixed text is its size, and an
expression without its limit is one that was built from its written form, in the dialect `d`. -/
def Measured (d : Dialect) (r : Rule) : Prop :=
  match r.recognizer with
  | .char c => r.maxLength = some c.utf8Size
  | .literal text _ => r.maxLength = some (Text.byteSize text)
  | .pattern _ source _ _ => expression? d r.label source = .ok (r.withMaxLength 0)

/-- An expression is built without a limit. -/
theorem measured_of_expression? {label : String} (h : expression? d label source = .ok r) :
    r.Measured d := by
  have hbuilt := h
  unfold expression? at h
  split at h
  · cases h
  · split at h
    · obtain rfl := Except.ok.inj h
      exact hbuilt
    · cases h

/-- Setting a limit keeps limits in order. -/
theorem Measured.withMaxLength (h : r.Measured d) (n : Nat) :
    (r.withMaxLength n).Measured d := by
  cases hr : r.recognizer with
  | char c | literal text mode =>
    rw [withMaxLength_eq_self (by simp [source?, hr])]
    exact h
  | pattern dialect source find reads =>
    simp only [Measured, hr] at h
    simp only [Measured, recognizer_withMaxLength, hr, withMaxLength_withMaxLength]
    rw [withMaxLength_pattern hr]
    exact h

/-- A character is recognised as it is. -/
theorem byteSize_front_char_le {c : Char} (h : r.recognizer = .char c) (rest : List Char) :
    Text.byteSize (r.front rest) ≤ c.utf8Size := by
  simp only [front, h]
  split
  · simp
  · exact Nat.zero_le _

/-- A fixed text is recognised in what takes the same number of bytes. -/
theorem byteSize_front_literal_le {text : List Char} {mode : CaseMode}
    (h : r.recognizer = .literal text mode) (rest : List Char) :
    Text.byteSize (r.front rest) ≤ Text.byteSize text := by
  simp only [front, h]
  split
  · rename_i candidate htake
    obtain ⟨-, -, hsize⟩ := Text.takeBytes?_eq_some_iff.1 htake
    split
    · exact Nat.le_of_eq hsize
    · exact Nat.zero_le _
  · exact Nat.zero_le _

/-- An expression recognises a piece of its window. -/
theorem byteSize_front_pattern_le (h : r.recognizer = .pattern dialect source find reads) {m : Nat}
    (hm : r.maxLength = some m) (rest : List Char) : Text.byteSize (r.front rest) ≤ m := by
  have hwindow : r.visible rest = Text.window m rest := by rw [visible, hm]
  rw [front_pattern h, hwindow]
  cases hfound : find (Text.window m rest) with
  | none => exact Nat.zero_le m
  | some found =>
    exact Nat.le_trans (Text.byteSize_le_of_isInfix (dialect.isInfix reads hfound))
      (Text.byteSize_window_le m rest)

/-- **A match stays within the limit** of a rule whose limit is in order. -/
theorem Measured.byteSize_front_le (h : r.Measured d) {m : Nat} (hm : r.maxLength = some m)
    (rest : List Char) : Text.byteSize (r.front rest) ≤ m := by
  cases hr : r.recognizer with
  | char c =>
    obtain rfl : m = c.utf8Size := by simpa only [Measured, hr, hm, Option.some.injEq] using h
    exact byteSize_front_char_le hr rest
  | literal text mode =>
    obtain rfl : m = Text.byteSize text := by
      simpa only [Measured, hr, hm, Option.some.injEq] using h
    exact byteSize_front_literal_le hr rest
  | pattern dialect source find reads => exact byteSize_front_pattern_le hr hm rest

/-- At any offset, a match stays within the limit. -/
theorem Measured.byteSize_matchAt_le (h : r.Measured d) {m : Nat} (hm : r.maxLength = some m)
    (source : List Char) (offset : Nat) : Text.byteSize (r.matchAt source offset) ≤ m := by
  unfold matchAt
  cases Text.dropBytes? offset source with
  | none => exact Nat.zero_le m
  | some rest => exact h.byteSize_front_le hm rest

/-- **A limit is the end of the source** to an expression: behind a boundary, it recognises what it
would recognise without a limit if the source were cut at the last boundary within the limit. -/
theorem exists_matchAt_withMaxLength (h : r.recognizer = .pattern dialect source find reads)
    {n : Nat} (hn : 1 ≤ n) {text rest : List Char} {offset : Nat}
    (hrest : Text.dropBytes? offset text = some rest) :
    ∃ width cut, IsGreatest {k | k ≤ n ∧ Text.IsBoundary rest k} width ∧
      Text.takeBytes? (offset + width) text = some cut ∧
      (r.withMaxLength n).matchAt text offset = (r.withMaxLength 0).matchAt cut offset := by
  obtain ⟨cut, hcut, hahead⟩ :=
    Text.exists_takeBytes?_of_isPrefix hrest (Text.window_isPrefix n rest)
  refine ⟨_, cut, Text.isGreatest_window n rest, hcut, ?_⟩
  rw [matchAt, hrest, matchAt, hahead]
  exact front_withMaxLength h hn rest

end Rule

namespace Kind

/-! ### Building kinds -/

/-- The kinds that can be built with a dialect: a rule is made for one character, for a fixed text
or for a regular expression, and then limits are set and readings are given, in any order and any
number of times. -/
inductive Built (d : Dialect) : Kind → Prop
  /-- A kind for one character. -/
  | char (c : Char) : Built d (.ofRule (.char c))
  /-- A kind for a fixed text. -/
  | literal (text : List Char) (mode : CaseMode) : Built d (.ofRule (.literal text mode))
  /-- A kind for a regular expression. -/
  | pattern {label : String} {source : List Char} {r : Rule} :
      Rule.expression? d label source = .ok r → Built d (.ofRule r)
  /-- A limit is set. -/
  | limited {k : Kind} (n : Nat) : Built d k → Built d { k with toRule := k.withMaxLength n }
  /-- A reading is given. -/
  | withReading {k k' : Kind} {reading : Reading} :
      Built d k → k.withReading reading = .ok k' → Built d k'

variable {d : Dialect}

/-- A reading says nothing about the rule. -/
theorem toRule_of_withReading {k k' : Kind} {reading : Reading}
    (h : k.withReading reading = .ok k') : k'.toRule = k.toRule := by
  unfold withReading at h
  split at h
  · cases h
  · obtain rfl := Except.ok.inj h
    rfl

/-- **Building keeps limits in order.** Induction on how the kind was built. -/
theorem Built.measured {k : Kind} (h : k.Built d) : k.Measured d := by
  induction h with
  | char c => exact (rfl : (Rule.char c).maxLength = some c.utf8Size)
  | literal text mode =>
    exact (rfl : (Rule.literal text mode).maxLength = some (Text.byteSize text))
  | pattern hr => exact Rule.measured_of_expression? hr
  | limited n _ ih => exact ih.withMaxLength n
  | withReading _ hk ih =>
    rw [toRule_of_withReading hk]
    exact ih

/-- **A match stays within the declared limit.** However a kind was built, and with whichever
dialect, where it declares a limit no match takes more bytes, at any offset of any source. If its
rule is a regular expression, then a limit of one byte or more is the end of the source to it:
behind a boundary, it recognises what it would recognise without a limit if the source were cut at
the last boundary within the limit. A limit of zero makes it the rule that is built from the written
expression, with no limit at all. Other rules do not change. -/
theorem Built.matchAt_windowed {k : Kind} (h : k.Built d) :
    (∀ m, k.maxLength = some m →
        ∀ source offset, Text.byteSize (k.matchAt source offset) ≤ m) ∧
      (∀ written, k.source? = some written →
        (∀ n source offset rest, 1 ≤ n → Text.dropBytes? offset source = some rest →
          ∃ width cut, IsGreatest {b | b ≤ n ∧ Text.IsBoundary rest b} width ∧
            Text.takeBytes? (offset + width) source = some cut ∧
            (k.withMaxLength n).matchAt source offset =
              (k.withMaxLength 0).matchAt cut offset) ∧
          Rule.expression? d k.label written = .ok (k.withMaxLength 0) ∧
          (k.withMaxLength 0).maxLength = none) ∧
      (k.source? = none → ∀ n, k.withMaxLength n = k.toRule) := by
  have hmeasured := h.measured
  refine ⟨fun m hm => hmeasured.byteSize_matchAt_le hm, fun written hwritten => ?_,
    Rule.withMaxLength_eq_self⟩
  cases hr : k.recognizer with
  | char c | literal text mode => simp [Rule.source?, hr] at hwritten
  | pattern dialect source find reads =>
    obtain rfl : source = written := by simpa [Rule.source?, hr] using hwritten
    refine ⟨fun n text offset rest hn => Rule.exists_matchAt_withMaxLength hr hn, ?_, ?_⟩
    · simpa only [Rule.Measured, hr] using hmeasured
    · rw [Rule.withMaxLength_pattern hr]
      rfl

/-- A limit of two bytes falls into the second character of `aé`, and only the first one is
recognised. -/
theorem Built.matchAt_windowed_straddling :
    Vocabulary.unexpected.Built .standard ∧
      (Vocabulary.unexpected.withMaxLength 2).matchAt ['a', '\u00e9'] 0 = ['a'] ∧
      (Vocabulary.unexpected.withMaxLength 0).matchAt ['a', '\u00e9'] 0 = ['a', '\u00e9'] := by
  have hrule : Rule.pattern? "unexpected" "[^\\s]+".toList = .ok Vocabulary.unexpected.toRule := rfl
  have hreading : (ofRule Vocabulary.unexpected.toRule).withReading Reading.verbatim =
      .ok Vocabulary.unexpected := rfl
  have hbuilt : Vocabulary.unexpected.Built .standard := .withReading (.pattern hrule) hreading
  obtain ⟨-, hpattern, -⟩ := hbuilt.matchAt_windowed
  obtain ⟨hlimited, -, -⟩ := hpattern _ rfl
  obtain ⟨width, cut, hwidth, hcut, hmatch⟩ :=
    hlimited 2 ['a', '\u00e9'] 0 ['a', '\u00e9'] (by decide) rfl
  obtain rfl : width = 1 := hwidth.unique (Text.isGreatest_window 2 ['a', '\u00e9'])
  obtain rfl := Option.some.inj hcut
  exact ⟨hbuilt, hmatch.trans rfl, rfl⟩

end Kind

end Parens
