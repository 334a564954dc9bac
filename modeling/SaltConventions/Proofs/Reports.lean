import SaltConventions.Proofs.InlineSuppression
import SaltConventions.Proofs.PathOrder

/-!
# Reports

A finding names the file it is about, and the files of a run increase strictly. So the findings of a
report are those of its files, one file after the other, and sorting them changes nothing. Its counts
say how many findings there are of each severity.
-/

namespace SaltConventions

/-! ### Findings name their file -/

lemma file_of_mem_dispatchAll {config : Config} {ctx : FileContext} {events : List Event}
    {rules : List ActiveRule} {d : Diagnostic} (h : d ∈ (dispatchAll config ctx events rules).2) :
    d.file = ctx.path := by
  obtain ⟨active, -, event, -, s, f, -, hf⟩ := exists_finding_of_mem_dispatchAll h
  obtain ⟨-, rfl⟩ := Finding.report_eq_some_iff.mp hf
  rfl

namespace Linter

lemma of_lintFile_eq_ok {linter : Linter} {parse : Parser} {file : Path} {found : List Diagnostic}
    (h : linter.lintFile parse file = .ok found) :
    (∀ d ∈ found, d.file = file) ∧ found.Pairwise fun d e => beforeInFile d e = true := by
  unfold lintFile at h
  split at h
  next => cases h
  next source _ =>
    cases hparse : parse (stripBom source).1 with
    | none => simp [lintSource, hparse] at h
    | some body =>
      rw [lintSource_of_parse _ _ hparse] at h
      obtain rfl := Except.ok.inj h
      refine ⟨fun d hd => ?_, List.pairwise_mergeSort beforeInFile_trans beforeInFile_total _⟩
      rw [List.mem_mergeSort] at hd
      exact file_of_mem_dispatchAll (List.mem_filter.mp hd).1

end Linter

namespace Report

def findingsIn (linter : Linter) (parse : Parser) (file : Path) : List Diagnostic :=
  match linter.lintFile parse file with
  | .ok found => found
  | .error _ => []

lemma findingsIn_spec (linter : Linter) (parse : Parser) (file : Path) :
    (∀ d ∈ findingsIn linter parse file, d.file = file) ∧
      (findingsIn linter parse file).Pairwise fun d e => Linter.beforeInFile d e = true := by
  unfold findingsIn
  cases h : linter.lintFile parse file with
  | error cause => exact ⟨fun d hd => (List.not_mem_nil hd).elim, .nil⟩
  | ok found => exact Linter.of_lintFile_eq_ok h

lemma pairwise_flatMap_findingsIn (linter : Linter) (parse : Parser) {files : List Path}
    (h : files.Pairwise fun p q => p.order q = .lt) :
    (files.flatMap (findingsIn linter parse)).Pairwise fun d e => beforeInRun d e = true := by
  rw [List.pairwise_flatMap]
  constructor
  · intro file _
    obtain ⟨hfile, hsorted⟩ := findingsIn_spec linter parse file
    refine hsorted.imp_of_mem fun {d e} hd he hde => ?_
    have htie : d.file.order e.file = .eq := by
      rw [hfile d hd, hfile e he, Path.order_eq_iff]
    simp only [beforeInRun, htie, hde]
  · refine h.imp fun {p q} hpq d hd e he => ?_
    have hlt : d.file.order e.file = .lt := by
      rw [(findingsIn_spec linter parse p).1 d hd, (findingsIn_spec linter parse q).1 e he, hpq]
    simp only [beforeInRun, hlt]

lemma flatten_filterMap_toOption (linter : Linter) (parse : Parser) (files : List Path) :
    ((files.map (linter.lintFile parse)).filterMap Except.toOption).flatten =
      files.flatMap (findingsIn linter parse) := by
  induction files with
  | nil => rfl
  | cons file later ih =>
    rw [List.map_cons, List.filterMap_cons, List.flatMap_cons, ← ih, findingsIn]
    cases linter.lintFile parse file <;> rfl

/-- The findings of a report are those of the files, one file after the other. -/
theorem diagnostics_ofResults (linter : Linter) (parse : Parser) {files : List Path}
    (h : files.Pairwise fun p q => p.order q = .lt) :
    (ofResults (files.map (linter.lintFile parse))).diagnostics =
      files.flatMap (findingsIn linter parse) := by
  rw [ofResults, flatten_filterMap_toOption]
  exact List.mergeSort_of_pairwise (pairwise_flatMap_findingsIn linter parse h)

lemma mem_countSeverities_iff {found : List Diagnostic} {s : Severity} {n : Nat} :
    (s, n) ∈ countSeverities found ↔ n = found.countP (fun d => d.severity == s) ∧ n ≠ 0 := by
  have hall : s ∈ Severity.all := by cases s <;> decide
  simp only [countSeverities, List.mem_filter, List.mem_map, Prod.mk.injEq, bne_iff_ne, ne_eq]
  constructor
  · rintro ⟨⟨s', -, rfl, rfl⟩, hn⟩
    exact ⟨rfl, hn⟩
  · rintro ⟨rfl, hn⟩
    exact ⟨⟨s, hall, rfl, rfl⟩, hn⟩

lemma nodup_countSeverities (found : List Diagnostic) :
    ((countSeverities found).map (·.1)).Nodup := by
  have hkeys : (Severity.all.map fun s => (s, found.countP fun d => d.severity == s)).map (·.1) =
      Severity.all := by simp [Function.comp_def]
  have hsub := (List.filter_sublist (p := fun entry : Severity × Nat => entry.2 != 0)
    (l := Severity.all.map fun s => (s, found.countP fun d => d.severity == s))).map (·.1)
  rw [hkeys] at hsub
  exact hsub.nodup (by decide)

lemma hasFailures_iff {report : Report}
    (h : report.summary.counts = countSeverities report.diagnostics) (threshold : Severity) :
    report.hasFailures threshold = true ↔
      ∃ s n, (s, n) ∈ report.summary.counts ∧ threshold.rank ≤ s.rank := by
  rw [h, hasFailures, List.any_eq_true]
  constructor
  · rintro ⟨d, hd, hrank⟩
    refine ⟨d.severity, _, mem_countSeverities_iff.mpr ⟨rfl, ?_⟩, by simpa using hrank⟩
    exact Nat.pos_iff_ne_zero.mp (List.countP_pos_iff.mpr ⟨d, hd, by simp⟩)
  · rintro ⟨s, n, hmem, hrank⟩
    obtain ⟨rfl, hne⟩ := mem_countSeverities_iff.mp hmem
    obtain ⟨d, hd, hs⟩ := List.countP_pos_iff.mp (Nat.pos_of_ne_zero hne)
    obtain rfl := beq_iff_eq.mp hs
    exact ⟨d, hd, by simpa using hrank⟩

end Report

end SaltConventions
