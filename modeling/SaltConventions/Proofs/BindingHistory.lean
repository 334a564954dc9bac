import Mathlib.Data.List.DropRight
import Mathlib.Tactic.ByContra
import SaltConventions.Proofs.BoundNames

/-!
# Histories of bindings

A table of bindings is filled by single bindings and by imports, and is cleared in between. What it
answers depends on the names bound since it was last cleared, in the order they were bound: the
first binding of a name decides what the name stands for, and the longest bound prefix decides what
a dotted name stands for.
-/

namespace SaltConventions.Bindings

/-- A change of a table of bindings. -/
inductive Change where
  | bind (name target : String)
  | bindImport (keep : String → Bool) (names : List Alias)
  | bindFrom (module : String) (names : List Alias)
  | clear

namespace Change

/-- Whether a change clears the table. -/
def isClear : Change → Bool
  | clear => true
  | _ => false

/-- The table after a change. -/
def make (b : Bindings) : Change → Bindings
  | bind name target => b.bind name target
  | bindImport keep names => b.bindImport keep names
  | bindFrom module names => b.bindFrom module names
  | clear => empty

/-- The names that a change offers with what they are to stand for, in order. A star is no name, and
an empty module leaves a name as it is. -/
def pairs : Change → List (String × String)
  | bind name target => [(name, target)]
  | bindImport keep names =>
    (names.filter fun a => keep a.name).map fun a => (a.asName.getD a.name, a.name)
  | bindFrom module names =>
    (names.filter (·.name != "*")).map fun a =>
      (a.asName.getD a.name, if module = "" then a.name else module ++ "." ++ a.name)
  | clear => []

/-- What some changes have offered since the table was last cleared. -/
def pairsSinceClear (changes : List Change) : List (String × String) :=
  (changes.rtakeWhile (!·.isClear)).flatMap pairs

lemma make_of_not_isClear {change : Change} (h : change.isClear = false) (b : Bindings) :
    change.make b = b.bindAll change.pairs := by
  cases change with
  | bind name target => rfl
  | bindImport keep names => exact bindImport_eq_bindAll b keep names
  | bindFrom module names => exact bindFrom_eq_bindAll b module names
  | clear => cases h

lemma pairsSinceClear_append_clear (earlier : List Change) :
    pairsSinceClear (earlier ++ [clear]) = [] := by
  rw [pairsSinceClear, List.rtakeWhile_concat_neg, List.flatMap_nil]
  simp [isClear]

lemma pairsSinceClear_append {change : Change} (h : change.isClear = false)
    (earlier : List Change) :
    pairsSinceClear (earlier ++ [change]) = pairsSinceClear earlier ++ change.pairs := by
  rw [pairsSinceClear, List.rtakeWhile_concat_pos, List.flatMap_append, List.flatMap_singleton,
    pairsSinceClear]
  simp [h]

/-- A run leaves the table that binds what was offered since the last clear. -/
lemma foldl_make (changes : List Change) :
    changes.foldl make empty = empty.bindAll (pairsSinceClear changes) := by
  induction changes using List.reverseRecOn with
  | nil => simp [pairsSinceClear, bindAll]
  | append_singleton earlier change ih =>
    rw [List.foldl_append, ih]
    by_cases hclear : change.isClear = true
    · obtain rfl : change = clear := by
        cases change with
        | clear => rfl
        | _ => cases hclear
      rw [pairsSinceClear_append_clear]
      rfl
    · rw [Bool.not_eq_true] at hclear
      rw [pairsSinceClear_append hclear, bindAll_append]
      exact make_of_not_isClear hclear _

end Change

/-- A name stands for what it was offered first since the last clear, and a dotted name for what its
longest bound prefix stands for, with the rest behind it. -/
theorem first_offer_since_clear_decides (changes : List Change) :
    let table := changes.foldl Change.make empty
    let offered := Change.pairsSinceClear changes
    (∀ name target, table.get? name = some target ↔ FirstBinding offered name target) ∧
      (∀ name, table.get? name = none ↔ ∀ target, (name, target) ∉ offered) ∧
      (∀ dotted module, table.qualify? dotted = some module ↔
        ∃ name rest target, DottedCut dotted name rest ∧ table.get? name = some target ∧
          module = target ++ rest ∧
          ∀ longer rest', DottedCut dotted longer rest' → name.length < longer.length →
            table.get? longer = none) ∧
      ∀ dotted, table.qualify? dotted = none ↔
        ∀ name rest, DottedCut dotted name rest → table.get? name = none := by
  intro table offered
  have htable : table = empty.bindAll offered := Change.foldl_make changes
  have hunbound : ∀ name, table.get? name = none ↔ ∀ target, (name, target) ∉ offered := by
    intro name
    rw [htable, get?_eq_none_iff]
  have hbound : ∀ name target,
      table.get? name = some target ↔ FirstBinding offered name target := by
    intro name target
    rw [htable, get?_eq_some_iff]
  refine ⟨hbound, hunbound, ?_, ?_⟩
  · intro dotted module
    rw [htable, qualify?_eq_some_iff, ← htable]
    constructor
    · rintro ⟨name, rest, target, hcut, hfirst, hlongest, hmodule⟩
      refine ⟨name, rest, target, hcut, (hbound name target).mpr hfirst, hmodule, ?_⟩
      intro longer rest' hcut' hlonger
      rw [hunbound]
      intro target' hmem
      exact absurd (hlongest longer rest' target' hcut' hmem) (Nat.not_le_of_lt hlonger)
    · rintro ⟨name, rest, target, hcut, hget, hmodule, hlonger⟩
      refine ⟨name, rest, target, hcut, (hbound name target).mp hget, ?_, hmodule⟩
      intro other rest' target' hcut' hmem
      by_contra hlength
      have hnone := hlonger other rest' hcut' (Nat.lt_of_not_le hlength)
      exact (hunbound other).mp hnone target' hmem
  · intro dotted
    rw [htable, qualify?_eq_none_iff, ← htable]
    constructor
    · intro hnone name rest hcut
      rw [hunbound]
      exact fun target hmem => hnone ⟨name, rest, target, hcut, hmem⟩
    · rintro hall ⟨name, rest, target, hcut, hmem⟩
      exact (hunbound name).mp (hall name rest hcut) target hmem

end SaltConventions.Bindings
