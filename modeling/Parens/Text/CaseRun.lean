/-!
# Case Maps as Runs

A map between upper and lower case moves whole rows of characters by the same distance, or
every second one of a row where the cases alternate. A `CaseRun` is such a row, and a case map
is a list of runs.
-/

namespace Parens.Text

/-- A row of code points `first`, `first + stride`, … up to `last`, moved by `shift`. -/
structure CaseRun where
  /-- The first code point of the row. -/
  first : Nat
  /-- The last code point of the row. -/
  last : Nat
  /-- The distance of neighbours in the row. -/
  stride : Nat
  /-- How far the row is moved. -/
  shift : Int

namespace CaseRun

/-- Whether a code point belongs to the row. -/
def holds (r : CaseRun) (n : Nat) : Bool :=
  r.first ≤ n && n ≤ r.last && (n - r.first) % r.stride == 0

/-- The image of a code point of the row. -/
def image? (r : CaseRun) (n : Nat) : Option Nat :=
  if r.holds n then some (n + r.shift).toNat else none

/-- The code point of the row that is moved to `n`. -/
def source? (r : CaseRun) (n : Nat) : Option Nat :=
  if r.image? (n - r.shift).toNat = some n then some (n - r.shift).toNat else none

/-- What is moved to `n` is the source of `n`. -/
theorem image?_of_source? {r : CaseRun} {m n : Nat} (h : r.source? n = some m) :
    r.image? m = some n := by
  unfold source? at h
  split at h
  · rename_i himage
    obtain rfl := Option.some.inj h
    exact himage
  · simp at h

/-- The code points of the row. -/
def row (r : CaseRun) : List Nat :=
  (List.range ((r.last - r.first) / r.stride + 1)).map fun i => r.first + r.stride * i

/-- The code points of the row, and what they are moved to. -/
def support (r : CaseRun) : List Nat := r.row ++ r.row.map fun (n : Nat) => (n + r.shift).toNat

theorem mem_row_of_holds {r : CaseRun} {n : Nat} (h : r.holds n) : n ∈ r.row := by
  simp only [holds, Bool.and_eq_true, decide_eq_true_eq, beq_iff_eq] at h
  obtain ⟨⟨h1, h2⟩, h3⟩ := h
  refine List.mem_map.2 ⟨(n - r.first) / r.stride, ?_, ?_⟩
  · have := Nat.div_le_div_right (c := r.stride) (Nat.sub_le_sub_right h2 r.first)
    exact List.mem_range.2 (by omega)
  · have := Nat.div_add_mod (n - r.first) r.stride
    omega

/-- What a run moves, and what it is moved to, belongs to its support. -/
theorem mem_support_of_image? {r : CaseRun} {m n : Nat} (h : r.image? m = some n) :
    m ∈ r.support ∧ n ∈ r.support := by
  unfold image? at h
  split at h
  · rename_i hr
    obtain rfl := Option.some.inj h
    have := mem_row_of_holds hr
    exact ⟨List.mem_append_left _ this, List.mem_append_right _ (List.mem_map_of_mem this)⟩
  · simp at h

end CaseRun

/-- The image of a code point under a case map; what is in no run stays. -/
def mapCase (runs : List CaseRun) (n : Nat) : Nat :=
  (runs.findSome? fun r => r.image? n).getD n

end Parens.Text
