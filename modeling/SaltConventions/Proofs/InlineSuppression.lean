import Mathlib.Tactic.ByContra
import SaltConventions.Proofs.Dispatch
import SaltConventions.Proofs.PhysicalLines
import SaltConventions.Proofs.StableOrder

/-!
# Directives act on their own line

The directives of a source are collected by enumerating its lines, the lines of findings are found
in a table of byte offsets. Both count physical lines, so a directive switches off findings of the
line it stands on and of no other.
-/

namespace SaltConventions

namespace Suppression

/-- The keys that the line with a number switches off. There is no line 0. -/
def keysAt (source : String) : Nat → List String
  | 0 => []
  | index + 1 => ((Text.lines source.toList)[index]?.map keysOfLine).getD []

lemma keysAt_succ {source : String} {index : Nat} {line : List Char}
    (h : (Text.lines source.toList)[index]? = some line) :
    keysAt source (index + 1) = keysOfLine line := by
  simp [keysAt, h]

/-- The table of all directives has an entry for a line exactly if the line switches something off,
and the entry has the keys of the line. -/
lemma mem_all {source : String} {number : Nat} {keys : List String} :
    (number, keys) ∈ all source ↔ keysAt source number ≠ [] ∧
      keys = (keysAt source number).eraseDups.mergeSort fun a b => !decide (b < a) := by
  simp only [all, List.mem_filterMap, Prod.exists, List.mk_mem_zipIdx_iff_getElem?]
  constructor
  · rintro ⟨line, index, hline, hentry⟩
    by_cases hkeys : keysOfLine line = []
    · simp [hkeys] at hentry
    · simp only [List.isEmpty_iff, hkeys, if_false, Option.some.injEq, Prod.mk.injEq] at hentry
      obtain ⟨rfl, rfl⟩ := hentry
      rw [keysAt_succ hline]
      exact ⟨hkeys, rfl⟩
  · rintro ⟨hne, rfl⟩
    cases number with
    | zero => simp [keysAt] at hne
    | succ index =>
      cases hline : (Text.lines source.toList)[index]? with
      | none => simp [keysAt, hline] at hne
      | some line =>
        rw [keysAt_succ hline] at hne ⊢
        exact ⟨line, index, hline, by simp [hne]⟩

lemma covers_congr {keys keys' : List String} (h : ∀ key, key ∈ keys ↔ key ∈ keys')
    (d : Diagnostic) : covers keys d = covers keys' d := by
  simp only [covers, List.contains_eq_mem, h]

/-- A finding is left out exactly if its own line switches it off. -/
theorem apply_eq_filter (source : String) (found : List Diagnostic) :
    apply source found = found.filter fun d => !covers (keysAt source d.line) d := by
  apply List.filter_congr
  intro d _
  cases hentry : (all source).find? (·.1 == d.line) with
  | none =>
    have hkeys : keysAt source d.line = [] := by
      by_contra hne
      have hother := List.find?_eq_none.mp hentry _ (mem_all.mpr ⟨hne, rfl⟩)
      simp at hother
    simp [hkeys, covers]
  | some entry =>
    obtain ⟨number, keys⟩ := entry
    obtain rfl : number = d.line := by simpa using List.find?_some hentry
    obtain ⟨-, rfl⟩ := mem_all.mp (List.mem_of_find?_eq_some hentry)
    have hkeys : ∀ key, key ∈ (keysAt source d.line).eraseDups.mergeSort
        (fun a b => !decide (b < a)) ↔ key ∈ keysAt source d.line := by
      intro key
      rw [List.mem_mergeSort, List.mem_eraseDups]
    simp only [covers_congr hkeys]

end Suppression

namespace Linter

lemma lintSource_of_parse (linter : Linter) {parse : Parser} (path : Path) {source : String}
    {body : List Stmt} (hparse : parse (stripBom source).1 = some body) :
    linter.lintSource parse path source =
      .ok (((walkModule linter.config
          (.ofSource path (stripBom source).1 (stripBom source).2 linter.env) body
          (linter.rules.map Rule.activate)).2.filter fun d =>
            !Suppression.covers (Suppression.keysAt (stripBom source).1 d.line) d).mergeSort
        beforeInFile) := by
  simp only [lintSource, hparse, Suppression.apply_eq_filter]

end Linter

/-- Linting gives, stably sorted, the findings of the walk that no directive on their own physical
line switches off. -/
theorem lintSource_respects_physical_lines (linter : Linter) {parse : Parser} (path : Path)
    {source : String} {body : List Stmt} (hparse : parse (Linter.stripBom source).1 = some body) :
    let text := (Linter.stripBom source).1
    let ctx := FileContext.ofSource path text (Linter.stripBom source).2 linter.env
    let reported := (walkModule linter.config ctx body (linter.rules.map Rule.activate)).2
    (∃ found, linter.lintSource parse path source = .ok found ∧
      StablySorted
        (reported.filter fun d => !Suppression.covers (Suppression.keysAt text d.line) d) found) ∧
    ∀ (message : Message) (offset : Nat) (args : List String),
      offset < Text.byteLength text.toList →
      ∃ index before line ending after,
        Text.PhysicalLine text.toList index before line ending after ∧
        Text.byteLength before ≤ offset ∧
        offset < Text.byteLength (before ++ line ++ ending) ∧
        (Text.lines text.toList)[index]? = some line ∧
        (ctx.findingAt message offset args).line = index + 1 := by
  intro text ctx reported
  refine ⟨⟨_, linter.lintSource_of_parse path hparse, stablySorted_mergeSort _⟩, ?_⟩
  intro message offset args hoffset
  obtain ⟨index, before, line, ending, after, hline, hlow, hhigh⟩ :=
    Text.PhysicalLine.exists_of_lt hoffset
  exact ⟨index, before, line, ending, after, hline, hlow, hhigh, hline.getElem?_lines,
    hline.lineAt_eq hlow hhigh⟩

/-- A directive in the second of three lines, after a character of two bytes. -/
theorem lintSource_of_mixed_line_ends :
    let source := "# \u00e9\r\nimport six  # pylint: disable=E9405\r\nimport six\n"
    let body := [Stmt.importNames ⟨6, 16⟩ [⟨"six", none⟩], .importNames ⟨43, 53⟩ [⟨"six", none⟩]]
    let parse : Parser := fun _ => some body
    let path : Path := ⟨"minion.py"⟩
    let ctx := FileContext.alone path source
    let linter : Linter := ⟨.standard, ctx.env, [ReplacedImports.rule]⟩
    let reported := (walkModule .standard ctx body [ReplacedImports.rule.activate]).2
    reported.map (fun d => (d.line, d.code)) = [(2, "E9405"), (3, "E9405")] ∧
    (reported.filter fun d => !Suppression.covers (Suppression.keysAt source d.line) d).map
      (fun d => (d.line, d.code)) = [(3, "E9405")] ∧
    ∃ found, linter.lintSource parse path source = .ok found ∧
      StablySorted
        (reported.filter fun d => !Suppression.covers (Suppression.keysAt source d.line) d) found := by
  intro source body parse path ctx linter reported
  have hstrip : Linter.stripBom source = (source, false) := by decide
  have hparse : parse (Linter.stripBom source).1 = some body := rfl
  have hlint := (lintSource_respects_physical_lines linter path hparse).1
  rw [hstrip] at hlint
  exact ⟨by decide, by decide +kernel, hlint⟩

end SaltConventions
