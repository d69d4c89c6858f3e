import Mathlib.Algebra.BigOperators.Group.List.Basic
import Mathlib.Algebra.Order.BigOperators.Group.List
import Mathlib.Data.Nat.SuccPred
import Mathlib.Order.CompletePartialOrder
import Mathlib.Order.Interval.Set.Union
import Mathlib.Order.SuccPred.IntervalSucc

/-!
# Packed records

The fields of a record lie one behind the other: each starts where the sizes before it end. So the
fields are disjoint and fill the record.
-/

namespace Layout

/-- Where field `i` starts. -/
def offset (sizes : List ℕ) (i : ℕ) : ℕ := (sizes.take i).sum

def offsets (sizes : List ℕ) : List ℕ := (List.range sizes.length).map (offset sizes)

/-- The positions of field `i`; past the last field there are none. -/
def range (sizes : List ℕ) (i : ℕ) : Set ℕ := Set.Ico (offset sizes i) (offset sizes (i + 1))

@[simp] theorem offset_zero (sizes : List ℕ) : offset sizes 0 = 0 := rfl

theorem offset_succ {sizes : List ℕ} {i : ℕ} (hi : i < sizes.length) :
    offset sizes (i + 1) = offset sizes i + sizes[i] :=
  List.sum_take_succ _ _ hi

theorem offset_of_le {sizes : List ℕ} {i : ℕ} (hi : sizes.length ≤ i) :
    offset sizes i = sizes.sum := by
  rw [offset, List.take_of_length_le hi]

theorem monotone_offset (sizes : List ℕ) : Monotone (offset sizes) := List.monotone_sum_take sizes

theorem offset_le_sum (sizes : List ℕ) (i : ℕ) : offset sizes i ≤ sizes.sum := by
  rw [← offset_of_le (le_max_right i sizes.length)]
  exact monotone_offset sizes (le_max_left _ _)

theorem offsets_snoc (sizes : List ℕ) (size : ℕ) :
    offsets (sizes ++ [size]) = offsets sizes ++ [sizes.sum] := by
  have hbefore : ∀ i ∈ List.range sizes.length, offset (sizes ++ [size]) i = offset sizes i := by
    intro i hi
    rw [offset, offset, List.take_append_of_le_length (List.mem_range.mp hi).le]
  rw [offsets, offsets, List.length_append, List.length_singleton, List.range_succ, List.map_append,
    List.map_congr_left hbefore, List.map_singleton, offset, List.take_left]

theorem range_of_le {sizes : List ℕ} {i : ℕ} (hi : sizes.length ≤ i) : range sizes i = ∅ := by
  rw [range, offset_of_le hi, offset_of_le (hi.trans i.le_succ), Set.Ico_self]

theorem disjoint_range (sizes : List ℕ) {i j : ℕ} (hne : i ≠ j) :
    Disjoint (range sizes i) (range sizes j) :=
  (monotone_offset sizes).pairwise_disjoint_on_Ico_succ hne

/-- The fields fill the record. -/
theorem iUnion_range (sizes : List ℕ) : ⋃ i, range sizes i = Set.Ico 0 sizes.sum := by
  apply Set.Subset.antisymm
  · apply Set.iUnion_subset
    intro i p hp
    exact ⟨p.zero_le, hp.2.trans_le (offset_le_sum sizes _)⟩
  · have hfill := Ico_subset_biUnion_Ico sizes.length (offset sizes)
    rw [offset_zero, offset_of_le le_rfl] at hfill
    exact hfill.trans (Set.iUnion₂_subset_iUnion _ _)

end Layout
