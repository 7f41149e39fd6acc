import Mathlib.Data.List.Perm.Subperm
import Mathlib.Data.List.Sort
import Mathlib.Order.Basic

/-!
# The largest elements of a list

What is left when all but the largest elements of a list are dropped.

* `above` — how many elements are above one.
* `surplus`, `mem_surplus_iff` — what is dropped: the elements below sufficiently many others.
* `length_le_of_not_mem_surplus` — what stays is no more than what was to be kept.

Nothing here names a program.
-/

namespace Cliptown.Lib

variable {α : Type*} [LinearOrder α]

/-- How many elements of a list are above `a`. -/
def above (l : List α) (a : α) : ℕ := l.countP fun b => decide (a < b)

/-- What comes after the first `keep` elements when the largest come first. -/
def surplus (keep : ℕ) (l : List α) : List α := (l.insertionSort (· ≥ ·)).drop keep

theorem above_cons (l : List α) (a b : α) : above (b :: l) a = above l a + if a < b then 1 else 0 := by
  rw [above, List.countP_cons, above]
  simp only [decide_eq_true_eq]

theorem above_perm {l l' : List α} (h : l.Perm l') (a : α) : above l a = above l' a :=
  h.countP_eq _

/-- What is above `a` is counted by the lists that it comes from. -/
theorem above_le {l new old : List α} {a : α} (hnodup : l.Nodup) (h : ∀ b ∈ l, a < b → b ∈ new ∨ b ∈ old) :
    above l a ≤ new.length + above old a := by
  rw [above, above, List.countP_eq_length_filter, List.countP_eq_length_filter, ← List.length_append]
  refine ((hnodup.filter _).subperm fun b hb => ?_).length_le
  rw [List.mem_filter, decide_eq_true_eq] at hb
  rw [List.mem_append, List.mem_filter, decide_eq_true_eq]
  exact (h b hb.1 hb.2).imp_right fun hold => ⟨hold, hb.2⟩

/-- In a falling list, the elements from the `keep`-th on are those with as many above them. -/
theorem mem_drop_iff {l : List α} (hfalling : l.Pairwise (· > ·)) (keep : ℕ) (a : α) :
    a ∈ l.drop keep ↔ a ∈ l ∧ keep ≤ above l a := by
  induction l generalizing keep with
  | nil => simp
  | cons b l ih =>
      rw [List.pairwise_cons] at hfalling
      cases keep with
      | zero => simp
      | succ keep =>
          rw [List.drop_succ_cons, ih hfalling.2, List.mem_cons, above_cons]
          constructor
          · rintro ⟨ha, hkeep⟩
            exact ⟨.inr ha, by rw [if_pos (hfalling.1 a ha)]; omega⟩
          · rintro ⟨rfl | ha, hkeep⟩
            -- nothing is above the head
            · have hnone : above l a = 0 := by
                rw [above, List.countP_eq_zero]
                intro c hc
                simpa using (hfalling.1 c hc).le
              rw [hnone, if_neg (lt_irrefl a)] at hkeep
              omega
            · rw [if_pos (hfalling.1 a ha)] at hkeep
              exact ⟨ha, by omega⟩

theorem sorted_falling {l : List α} (hnodup : l.Nodup) : (l.insertionSort (· ≥ ·)).Pairwise (· > ·) := by
  have hne : (l.insertionSort (· ≥ ·)).Pairwise (· ≠ ·) := (List.perm_insertionSort _ l).nodup_iff.mpr hnodup
  refine ((List.pairwise_insertionSort (· ≥ ·) l).and hne).imp fun h => ?_
  exact lt_of_le_of_ne h.1 h.2.symm

/-- **What is dropped** is what is below sufficiently many others. -/
theorem mem_surplus_iff {l : List α} (hnodup : l.Nodup) (keep : ℕ) (a : α) :
    a ∈ surplus keep l ↔ a ∈ l ∧ keep ≤ above l a := by
  rw [surplus, mem_drop_iff (sorted_falling hnodup), List.mem_insertionSort,
    above_perm (List.perm_insertionSort _ _)]

/-- **What is not dropped** is no more than what was to be kept. -/
theorem length_le_of_not_mem_surplus {l l' : List α} {keep : ℕ} (hnodup : l'.Nodup)
    (h : ∀ a ∈ l', a ∈ l ∧ a ∉ surplus keep l) : l'.length ≤ keep := by
  have hsub : l' ⊆ (l.insertionSort (· ≥ ·)).take keep := by
    intro a ha
    obtain ⟨hmem, hstays⟩ := h a ha
    rw [← List.mem_insertionSort (· ≥ ·), ← List.take_append_drop keep (l.insertionSort (· ≥ ·)),
      List.mem_append] at hmem
    exact hmem.resolve_right hstays
  exact (hnodup.subperm hsub).length_le.trans (List.length_take_le keep _)

end Cliptown.Lib
