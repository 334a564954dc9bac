import Mathlib.Tactic.Lemma
import SaltConventions.Report

/-!
# The order of paths

Paths are compared component by component. This is a total order on lists of components, so that two
paths tie exactly when they have the same components, however they are spelled. In a sorted list of
paths one pass over neighbours leaves one spelling of each, in strictly increasing order.
-/

namespace SaltConventions

namespace Component

/-- The text that tells names apart; other components have none. -/
def nameText : Component → String
  | name text => text
  | _ => ""

lemma order_eq_compareLex : order = compareLex (compareOn rank) (compareOn nameText) := by
  funext a b
  cases a <;> cases b <;> rfl

instance : Std.TransCmp order := by
  rw [order_eq_compareLex]
  infer_instance

instance : Std.LawfulEqCmp order where
  compare_self := Std.ReflCmp.compare_self
  eq_of_compare {a b} h := by
    cases a with
    | name m =>
      cases b with
      | name n =>
        have hmn : compare m n = .eq := h
        rw [Std.LawfulEqOrd.eq_of_compare hmn]
      | _ => cases h
    | _ => cases b <;> first | rfl | cases h

end Component

namespace Path

lemma orderComponents_eq_compareLex : orderComponents = List.compareLex Component.order := by
  funext as bs
  induction as generalizing bs with
  | nil => cases bs <;> rfl
  | cons a as ih =>
    cases bs with
    | nil => rfl
    | cons b bs => rw [orderComponents, ih, List.compareLex_cons_cons]

instance : Std.TransCmp orderComponents := by
  rw [orderComponents_eq_compareLex]
  infer_instance

instance : Std.LawfulEqCmp orderComponents := by
  rw [orderComponents_eq_compareLex]
  infer_instance

instance : Std.TransCmp order where
  eq_swap {p q} := by
    unfold order
    exact Std.OrientedCmp.eq_swap
  isLE_trans {p q r} hpq hqr := by
    unfold order at *
    exact Std.TransCmp.isLE_trans hpq hqr

theorem order_eq_iff {p q : Path} : p.order q = .eq ↔ p.components = q.components := by
  unfold order
  exact Std.LawfulEqCmp.compare_eq_iff_eq

lemma before_trans (p q r : Path) (hpq : (p.order q != .gt) = true)
    (hqr : (q.order r != .gt) = true) : (p.order r != .gt) = true := by
  simp only [bne_iff_ne, ne_eq, ← Ordering.isLE_iff_ne_gt] at hpq hqr ⊢
  exact Std.TransCmp.isLE_trans hpq hqr

lemma before_total (p q : Path) : (p.order q != .gt || q.order p != .gt) = true := by
  have hswap : q.order p = (p.order q).swap := Std.OrientedCmp.eq_swap
  rw [hswap]
  cases p.order q <;> rfl

end Path

namespace Report

section Dedup

variable {α : Type} {cmp : α → α → Ordering} [Std.TransCmp cmp]

lemma dedupFrom_sublist (same : α → α → Bool) (kept : α) (l : List α) :
    (dedupFrom same kept l).Sublist l := by
  induction l generalizing kept with
  | nil => exact .slnil
  | cons a later ih =>
    rw [dedupFrom]
    split
    · exact (ih kept).cons a
    · exact (ih a).cons_cons a

/-- What a pass over a sorted list keeps increases strictly, starting above the element kept before.
-/
lemma pairwise_dedupFrom {kept : α} {l : List α}
    (h : (kept :: l).Pairwise fun a b => (cmp a b).isLE = true) :
    (kept :: dedupFrom (fun a b => cmp a b == .eq) kept l).Pairwise fun a b => cmp a b = .lt := by
  induction l generalizing kept with
  | nil => exact List.pairwise_singleton _ _
  | cons a later ih =>
    obtain ⟨hkept, hrest⟩ := List.pairwise_cons.mp h
    rw [dedupFrom]
    split
    · exact ih (List.pairwise_cons.mpr
        ⟨fun b hb => hkept b (List.mem_cons_of_mem a hb), (List.pairwise_cons.mp hrest).2⟩)
    next hne =>
      have hlt : cmp kept a = .lt := by
        have hle := hkept a List.mem_cons_self
        revert hle hne
        cases cmp kept a <;> simp
      refine List.pairwise_cons.mpr ⟨fun b hb => ?_, ih hrest⟩
      rcases List.mem_cons.mp hb with rfl | hb
      · exact hlt
      · exact Std.TransCmp.lt_trans hlt ((List.pairwise_cons.mp (ih hrest)).1 b hb)

lemma exists_mem_dedupFrom (kept : α) (l : List α) {a : α} (ha : a ∈ kept :: l) :
    ∃ b ∈ kept :: dedupFrom (fun a b => cmp a b == .eq) kept l, cmp b a = .eq := by
  induction l generalizing kept with
  | nil =>
    obtain rfl := List.mem_singleton.mp ha
    exact ⟨a, List.mem_cons_self, Std.ReflCmp.compare_self⟩
  | cons c later ih =>
    rw [dedupFrom]
    split
    next hsame =>
      rcases List.mem_cons.mp ha with rfl | ha
      · exact ih a List.mem_cons_self
      · rcases List.mem_cons.mp ha with rfl | ha
        · exact ⟨kept, List.mem_cons_self, by simpa using hsame⟩
        · exact ih kept (List.mem_cons_of_mem kept ha)
    next =>
      rcases List.mem_cons.mp ha with rfl | ha
      · exact ⟨a, List.mem_cons_self, Std.ReflCmp.compare_self⟩
      · obtain ⟨b, hb, hba⟩ := ih c ha
        exact ⟨b, List.mem_cons_of_mem kept hb, hba⟩

end Dedup

/-- The source files among those that some paths name or hold, as they are met. -/
def foundFiles (tree : FileTree) (paths : List Path) : List Path :=
  (paths.flatMap tree.filesUnder).filter (Path.hasExtension "py")

lemma collectFiles_eq (tree : FileTree) (paths : List Path) :
    collectFiles tree paths = dedup (fun p q => p.order q == .eq)
      ((foundFiles tree paths).mergeSort fun p q => p.order q != .gt) := rfl

/-- Of every file found one spelling is collected, and the collected files increase strictly. -/
theorem collectFiles_spec (tree : FileTree) (paths : List Path) :
    (collectFiles tree paths).Pairwise (fun p q => p.order q = .lt) ∧
    (∀ p ∈ collectFiles tree paths, p ∈ foundFiles tree paths) ∧
    ∀ p ∈ foundFiles tree paths, ∃ q ∈ collectFiles tree paths, q.order p = .eq := by
  have hperm : ((foundFiles tree paths).mergeSort fun p q => p.order q != .gt).Perm
      (foundFiles tree paths) := List.mergeSort_perm _ _
  have hsorted : ((foundFiles tree paths).mergeSort fun p q => p.order q != .gt).Pairwise
      fun p q => (p.order q).isLE = true :=
    (List.pairwise_mergeSort Path.before_trans Path.before_total _).imp fun h => by
      simpa [Ordering.isLE_iff_ne_gt] using h
  rw [collectFiles_eq]
  revert hperm hsorted
  cases (foundFiles tree paths).mergeSort fun p q => p.order q != .gt with
  | nil =>
    intro hperm _
    rw [← hperm.nil_eq]
    simp [dedup]
  | cons p later =>
    intro hperm hsorted
    refine ⟨pairwise_dedupFrom hsorted, fun q hq => ?_, fun q hq => ?_⟩
    · exact hperm.mem_iff.mp (((dedupFrom_sublist _ p later).cons_cons p).subset hq)
    · exact exists_mem_dedupFrom p later (hperm.mem_iff.mpr hq)

end Report

end SaltConventions
