import Mathlib.Data.List.Sort

/-!
# Ranks in sorted lists

How many members are below a member of a sorted list is known from its index. So a list that is
sorted answers questions about shares of its members by their indices.
-/

namespace Ranks

variable {α : Type*} [LinearOrder α] {sorted : List α}

/-- The members up to an index are at most the one at it. -/
theorem index_lt_countP_le (ordered : sorted.SortedLE) {index : ℕ}
    (within : index < sorted.length) : index < sorted.countP (· ≤ sorted[index]) := by
  have all : ∀ member ∈ sorted.take (index + 1), decide (member ≤ sorted[index]) = true := by
    intro member mem
    obtain ⟨position, before, rfl⟩ := List.mem_take_iff_getElem.mp mem
    exact decide_eq_true (ordered.getElem_le_getElem_of_le (by omega))
  have length : (sorted.take (index + 1)).length = index + 1 := by
    rw [List.length_take]
    omega
  have first := List.countP_eq_length.mpr all
  have rest : (sorted.take (index + 1)).countP (· ≤ sorted[index]) ≤
      sorted.countP (· ≤ sorted[index]) := (List.take_sublist _ _).countP_le
  omega

/-- The members that are less than the one at an index come before it. -/
theorem countP_lt_le_index (ordered : sorted.SortedLE) {index : ℕ}
    (within : index < sorted.length) : sorted.countP (· < sorted[index]) ≤ index := by
  have none : (sorted.drop index).countP (· < sorted[index]) = 0 := by
    rw [List.countP_eq_zero]
    intro member mem
    obtain ⟨position, before, rfl⟩ := List.mem_drop_iff_getElem.mp mem
    rw [decide_eq_true_iff, not_lt]
    exact ordered.getElem_le_getElem_of_le (by omega)
  calc sorted.countP (· < sorted[index])
      = (sorted.take index ++ sorted.drop index).countP (· < sorted[index]) := by
        rw [List.take_append_drop]
    _ = (sorted.take index).countP (· < sorted[index]) := by
        rw [List.countP_append, none, Nat.add_zero]
    _ ≤ (sorted.take index).length := List.countP_le_length
    _ ≤ index := List.length_take_le _ _

/-- Lists with the same members, equally often, are sorted alike. -/
theorem insertionSort_perm {members members' : List α} (same : members.Perm members') :
    members.insertionSort (· ≤ ·) = members'.insertionSort (· ≤ ·) := by
  refine List.Perm.eq_of_sortedLE List.sortedLE_insertionSort List.sortedLE_insertionSort ?_
  exact ((List.perm_insertionSort _ members).trans same).trans
    (List.perm_insertionSort _ members').symm

end Ranks
