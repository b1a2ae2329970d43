namespace CrateUsage.Text

/-- Texts in ascending order of their code points, each as often as it is given. -/
def sorted (ss : List String) : List String := ss.mergeSort fun a b => decide (a ≤ b)

theorem sorted_perm (ss : List String) : (sorted ss).Perm ss := List.mergeSort_perm ss _

@[simp] theorem mem_sorted {s : String} {ss : List String} : s ∈ sorted ss ↔ s ∈ ss :=
  (sorted_perm ss).mem_iff

theorem nodup_sorted {ss : List String} (h : ss.Nodup) : (sorted ss).Nodup :=
  (sorted_perm ss).nodup_iff.mpr h

theorem pairwise_le_sorted (ss : List String) : (sorted ss).Pairwise (· ≤ ·) := by
  have h : (sorted ss).Pairwise fun a b => decide (a ≤ b) = true := by
    refine List.pairwise_mergeSort ?_ ?_ ss
    · intro a b c hab hbc
      exact decide_eq_true (String.le_trans (of_decide_eq_true hab) (of_decide_eq_true hbc))
    · intro a b
      simpa using String.le_total a b
  exact h.imp of_decide_eq_true

/-- Texts that differ ascend strictly. -/
theorem pairwise_lt_sorted {ss : List String} (h : ss.Nodup) : (sorted ss).Pairwise (· < ·) := by
  refine ((pairwise_le_sorted ss).and (nodup_sorted h)).imp ?_
  rintro a b ⟨hle, hne⟩
  exact String.not_le.mp fun hge => hne (String.le_antisymm hle hge)

/-- The order in which texts are given makes no difference. -/
theorem sorted_eq_of_perm {ss ts : List String} (h : ss.Perm ts) : sorted ss = sorted ts := by
  have hperm : (sorted ss).Perm (sorted ts) :=
    (sorted_perm ss).trans (h.trans (sorted_perm ts).symm)
  apply hperm.eq_of_pairwise _ (pairwise_le_sorted ss) (pairwise_le_sorted ts)
  intro a b _ _ hab hba
  exact String.le_antisymm hab hba

end CrateUsage.Text
