import Mathlib.Tactic.Lemma
import SaltConventions.Linter

/-!
# The order of findings

Findings of a file are sorted by line and code, and findings of one line and code stay in the order
in which they were reported. Sorting in this way has no effect on which findings are kept: leaving
some out can be done before or after it. `StablySorted` says what the result is without saying how
it is computed.
-/

namespace SaltConventions

/-! ### Sorting and leaving out -/

section MergeSort

variable {α : Type} {le : α → α → Bool}
  (htrans : ∀ a b c, le a b = true → le b c = true → le a c = true)
  (htotal : ∀ a b, (le a b || le b a) = true)

include htrans htotal

/-- Sorting puts the first element between those that have to come before it and all others. -/
lemma mergeSort_cons_eq (a : α) (l : List α) :
    (a :: l).mergeSort le =
      (l.mergeSort le).filter (fun b => !le a b) ++ a :: (l.mergeSort le).filter (fun b => le a b) := by
  obtain ⟨before, after, hsort, hl, hbefore⟩ := List.mergeSort_cons htrans htotal a l
  have hafter : ∀ b ∈ after, le a b = true := by
    have hpair := List.pairwise_mergeSort htrans htotal (a :: l)
    rw [hsort, List.pairwise_append, List.pairwise_cons] at hpair
    exact hpair.2.1.1
  have hkeep : before.filter (fun b => !le a b) = before := List.filter_eq_self.mpr hbefore
  have hdrop : before.filter (fun b => le a b) = [] := by
    rw [List.filter_eq_nil_iff]
    intro b hb
    simpa using hbefore b hb
  have hnone : after.filter (fun b => !le a b) = [] := by
    rw [List.filter_eq_nil_iff]
    intro b hb
    simpa using hafter b hb
  have hall : after.filter (fun b => le a b) = after := List.filter_eq_self.mpr hafter
  rw [hsort, hl, List.filter_append, List.filter_append, hkeep, hdrop, hnone, hall, List.append_nil,
    List.nil_append]

theorem mergeSort_filter (keep : α → Bool) (l : List α) :
    (l.filter keep).mergeSort le = (l.mergeSort le).filter keep := by
  induction l with
  | nil => simp
  | cons a l ih =>
    by_cases ha : keep a
    · rw [List.filter_cons_of_pos ha, mergeSort_cons_eq htrans htotal, mergeSort_cons_eq htrans htotal,
        ih, List.filter_append, List.filter_cons_of_pos ha]
      simp only [List.filter_filter, Bool.and_comm]
    · obtain ⟨before, after, hsort, hl, -⟩ := List.mergeSort_cons htrans htotal a l
      rw [List.filter_cons_of_neg ha, hsort, List.filter_append, List.filter_cons_of_neg ha,
        ← List.filter_append, ← hl, ih]

/-- Elements that may stand in either order keep the order they have. -/
lemma mergeSort_filter_of_tied {tied : α → Bool} (h : ∀ a b, tied a → tied b → le a b = true)
    (l : List α) : (l.mergeSort le).filter tied = l.filter tied := by
  rw [← mergeSort_filter htrans htotal]
  apply List.mergeSort_of_pairwise
  apply List.pairwise_of_forall_mem_list
  intro a ha b hb
  exact h a b (List.mem_filter.mp ha).2 (List.mem_filter.mp hb).2

end MergeSort

/-! ### Findings by line and code -/

namespace Linter

lemma beforeInFile_iff {a b : Diagnostic} :
    beforeInFile a b = true ↔ a.line < b.line ∨ a.line = b.line ∧ a.code ≤ b.code := by
  have hcode : (!decide (b.code < a.code)) = true ↔ a.code ≤ b.code := by
    rw [Bool.not_eq_true', decide_eq_false_iff_not, String.not_lt]
  rw [beforeInFile, Bool.or_eq_true, Bool.and_eq_true, decide_eq_true_iff, beq_iff_eq, hcode]

lemma beforeInFile_trans (a b c : Diagnostic) (hab : beforeInFile a b = true)
    (hbc : beforeInFile b c = true) : beforeInFile a c = true := by
  rw [beforeInFile_iff] at hab hbc ⊢
  rcases hab with hab | ⟨hab, hcode⟩
  · rcases hbc with hbc | ⟨hbc, -⟩
    · exact .inl (Nat.lt_trans hab hbc)
    · exact .inl (hbc ▸ hab)
  · rcases hbc with hbc | ⟨hbc, hcode'⟩
    · exact .inl (hab ▸ hbc)
    · exact .inr ⟨hab.trans hbc, String.le_trans hcode hcode'⟩

lemma beforeInFile_total (a b : Diagnostic) : (beforeInFile a b || beforeInFile b a) = true := by
  rw [Bool.or_eq_true, beforeInFile_iff, beforeInFile_iff]
  rcases Nat.lt_trichotomy a.line b.line with h | h | h
  · exact .inl (.inl h)
  · rcases String.le_total a.code b.code with hcode | hcode
    · exact .inl (.inr ⟨h, hcode⟩)
    · exact .inr (.inr ⟨h.symm, hcode⟩)
  · exact .inr (.inl h)

end Linter

/-- The findings `found` in order of line and code, those of one line and code in the order they
have in `found`. -/
structure StablySorted (found sorted : List Diagnostic) : Prop where
  ordered : sorted.Pairwise fun a b => a.line < b.line ∨ a.line = b.line ∧ a.code ≤ b.code
  stable : ∀ line code, sorted.filter (fun d => d.line == line && d.code == code) =
    found.filter fun d => d.line == line && d.code == code

theorem stablySorted_mergeSort (found : List Diagnostic) :
    StablySorted found (found.mergeSort Linter.beforeInFile) where
  ordered := by
    have hpair := List.pairwise_mergeSort Linter.beforeInFile_trans Linter.beforeInFile_total found
    exact hpair.imp Linter.beforeInFile_iff.mp
  stable line code := by
    apply mergeSort_filter_of_tied Linter.beforeInFile_trans Linter.beforeInFile_total
    intro a b ha hb
    simp only [Bool.and_eq_true, beq_iff_eq] at ha hb
    rw [Linter.beforeInFile_iff]
    exact .inr ⟨ha.1.trans hb.1.symm, ha.2 ▸ hb.2 ▸ String.le_refl _⟩

end SaltConventions
