import Parens.Json.Shape

/-!
# Trees and Their Documents

The document of a tree nests two kinds of tags. Each node is an object with one member, named for
what the node is, and so is each value but the null one, which is the bare name `"Null"`. In
between, an atom without a scalar is a JSON null. So a text of the user never stands where a tag is
looked for, and nothing is ambiguous as long as no scalar has the JSON null as its document
(`LawfulJsonScalar`).

What is said here is about documents in memory. As text, a document has no place for a number that
is not finite, and it is read up to some depth of nesting only.

## Main results

* `Tree.ofJson?_toJson`: **a tree is read back from its document.** Induction on the tree.
* `Tree.toJson_injective`: different trees have different documents.
* `Tree.toJson_faithful`: both for trees of raw values, where what looks like a null stays apart.
-/

namespace Parens

/-! ### Scalars -/

/-- Scalars that are read back from their documents, none of which is the JSON null. -/
class LawfulJsonScalar (V : Type) [JsonScalar V] : Prop where
  /-- A scalar is read back from its document. -/
  ofJson?_toJson : ∀ v : V, JsonScalar.ofJson? (JsonScalar.toJson v) = some v
  /-- The JSON null is no document of a scalar. -/
  toJson_ne_null : ∀ v : V, JsonScalar.toJson v ≠ .null

/-- An integer of 64 bits is read back from the integer that it is. -/
theorem Json.int64?_toInt (n : Int64) : (Json.int n.toInt).int64? = some n := by
  have hleast := n.le_toInt
  have hgreatest := n.toInt_lt
  have hfits : (-0x8000000000000000 ≤ n.toInt && n.toInt < 0x8000000000000000) = true := by
    rw [Bool.and_eq_true, decide_eq_true_eq, decide_eq_true_eq]
    omega
  rw [Json.int64?, if_pos hfits, Int64.ofInt_toInt]

/-- A value is read back from its document. Its type is its tag. -/
theorem Value.ofJson?_toJson (v : Value) : Value.ofJson? v.toJson = some v := by
  cases v with
  | null | bool b | float x | text s => rfl
  | int n =>
    change (Json.int n.toInt).int64?.map Value.int = some (.int n)
    rw [Json.int64?_toInt]
    rfl

instance : LawfulJsonScalar Value where
  ofJson?_toJson := Value.ofJson?_toJson
  toJson_ne_null v h := by cases v <;> cases h

instance : LawfulJsonScalar Int64 where
  ofJson?_toJson := Json.int64?_toInt
  toJson_ne_null v h := by cases h

instance : LawfulJsonScalar String where
  ofJson?_toJson _ := rfl
  toJson_ne_null v h := by cases h

/-! ### Trees -/

namespace Tree

variable {V : Type} [JsonScalar V]

/-- A leaf with a scalar is read back from the document of the scalar, which is not the null of a
leaf without one. -/
theorem atomOfJson?_toJson [LawfulJsonScalar V] (v : V) :
    atomOfJson? (JsonScalar.toJson v) = some (atom (some v)) := by
  unfold atomOfJson?
  split
  · rename_i h
    exact absurd h (LawfulJsonScalar.toJson_ne_null v)
  · rw [LawfulJsonScalar.ofJson?_toJson]
    rfl

mutual

/-- **A tree is read back from its document.** Induction on the tree. -/
theorem ofJson?_toJson [LawfulJsonScalar V] (t : Tree V) : ofJson? t.toJson = some t := by
  cases t with
  | atom v =>
    cases v with
    | none => rfl
    | some v => exact atomOfJson?_toJson v
  | list cs =>
    change (ofItems? (toJsonAll cs)).map list = some (list cs)
    rw [ofItems?_toJsonAll cs]
    rfl

/-- A row of trees is read back from its documents. -/
theorem ofItems?_toJsonAll [LawfulJsonScalar V] (ts : List (Tree V)) :
    ofItems? (toJsonAll ts) = some ts := by
  cases ts with
  | nil => rfl
  | cons t ts => rw [toJsonAll, ofItems?, ofJson?_toJson t, ofItems?_toJsonAll ts]

end

/-- **Different trees have different documents.** -/
theorem toJson_injective [LawfulJsonScalar V] : Function.Injective (toJson : Tree V → Json) := by
  intro t u h
  have hread := ofJson?_toJson t
  rw [h, ofJson?_toJson u] at hread
  exact (Option.some.inj hread).symm

/-- **Trees of raw values and their documents correspond.** Every tree is read back from its
document, bit by bit of its numbers and to any depth, and two different trees have different
documents. In particular, four trees that hold nothing much stay apart: the leaf without a value,
the leaf with the null value, the leaf with the name of the null value as its text, and the empty
list. -/
theorem toJson_faithful :
    (∀ t : Tree Value, ofJson? t.toJson = some t) ∧
      (∀ t u : Tree Value, t ≠ u → t.toJson ≠ u.toJson) ∧
      ([atom none, atom (some .null), atom (some (.text "Null")), list []] :
        List (Tree Value)).Pairwise fun t u => t.toJson ≠ u.toJson := by
  have hinjective : ∀ t u : Tree Value, t ≠ u → t.toJson ≠ u.toJson := fun t u =>
    toJson_injective.ne
  refine ⟨ofJson?_toJson, hinjective, ?_⟩
  have hdifferent : ([atom none, atom (some .null), atom (some (.text "Null")), list []] :
      List (Tree Value)).Pairwise (· ≠ ·) := by
    simp
  exact hdifferent.imp (hinjective _ _)

end Tree

end Parens
