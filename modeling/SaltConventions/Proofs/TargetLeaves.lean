import Mathlib.Tactic.Lemma
import SaltConventions.Rules.PatchedModules

/-!
# Leaves of assignment targets

A tuple on the left of an assignment is taken apart, however deep its tuples are nested. What is
left are the leaves, and what is found about a target is found about its leaves, from left to right.
-/

namespace SaltConventions

mutual

def Expr.leaves : Expr → List Expr
  | .tuple _ items => leavesOf items
  | target => [target]

def leavesOf : List Expr → List Expr
  | [] => []
  | target :: later => target.leaves ++ leavesOf later

end

def Expr.IsTuple (e : Expr) : Prop :=
  ∃ span items, e = .tuple span items

lemma not_isTuple_of_mem_leavesOf {targets : List Expr} {leaf : Expr}
    (h : leaf ∈ leavesOf targets) : ¬leaf.IsTuple := by
  refine leavesOf.induct (fun target => leaf ∈ target.leaves → ¬leaf.IsTuple)
    (fun targets => leaf ∈ leavesOf targets → ¬leaf.IsTuple) ?_ ?_ ?_ ?_ targets h
  · intro span items ih h
    rw [Expr.leaves] at h
    exact ih h
  · intro target htuple h
    rw [Expr.leaves.eq_2 _ htuple] at h
    obtain rfl := List.mem_singleton.mp h
    rintro ⟨span, items, rfl⟩
    exact htuple span items rfl
  · intro h
    cases h
  · intro target later htarget hlater h
    rw [leavesOf] at h
    exact (List.mem_append.mp h).elim htarget hlater

namespace PatchedModules

theorem checkTargets_eq_flatMap (ctx : FileContext) (imports : Bindings) (targets : List Expr) :
    checkTargets ctx imports targets = (leavesOf targets).flatMap (checkTarget ctx imports) := by
  refine leavesOf.induct
    (fun target => checkTarget ctx imports target =
      target.leaves.flatMap (checkTarget ctx imports))
    (fun targets => checkTargets ctx imports targets =
      (leavesOf targets).flatMap (checkTarget ctx imports)) ?_ ?_ ?_ ?_ targets
  · intro span items ih
    rw [checkTarget, Expr.leaves, ih]
  · intro target htuple
    rw [Expr.leaves.eq_2 _ htuple, List.flatMap_singleton]
  · rfl
  · intro target later htarget hlater
    rw [checkTargets, leavesOf, List.flatMap_append, htarget, hlater]

end PatchedModules

end SaltConventions
