import Mathlib.Data.List.Forall2
import SaltConventions.Proofs.Rearranged
import SaltConventions.Proofs.Reports
import SaltConventions.Proofs.SameView

/-!
# Reports and the order of paths

A report is put together from its files. It does not depend on the order of the given paths, on the
order in which directories are read, or on paths given more than once, but for the spelling of the
files it names: a file that is found under two spellings is checked under the one found first. The
spelling has one more effect where it is long. A path over the limit cannot be looked up, while a
shorter spelling of it can.
-/

namespace SaltConventions

/-! ### One file under two spellings -/

namespace Environment.Alike

variable {env other : Environment} (h : env.Alike other) (hw : env.tree.WellFormed)
include h hw

lemma isSibling (top : String) (file : Path) : env.isSibling top file = other.isSibling top file := by
  unfold Environment.isSibling
  simp only [h.tree.isFile hw]

/-- Spellings of a path that lead to one place and have the same modules next to them give the same
view of a text. -/
lemma sameView {p q : Path} (hpq : p.components = q.components)
    (hlocate : env.tree.locate p = env.tree.locate q)
    (hsibling : ∀ top, '/' ∉ top.toList → env.isSibling top p = env.isSibling top q)
    (source : String) (hasBom : Bool) (asked : List (String × Nat)) :
    (FileContext.ofSource p source hasBom env).SameView asked
      (.ofSource q source hasBom other) := by
  refine FileContext.sameView_ofSource ?_ ?_ ?_ ?_ source hasBom
  · rw [Path.fileName?, Path.fileName?, hpq]
  · unfold Path.relativeTo Path.startsWith
    rw [Path.isAbsolute_congr hpq, hpq, h.cwd]
  · rw [← h.tree.mode? hw, FileTree.mode?, FileTree.mode?, hlocate]
  · intro module level _
    refine classify_congr h.cwd h.library (fun module => h.resolver module p q) ?_ module level
    intro top htop
    rw [hsibling top htop]
    exact h.isSibling hw top q

end Environment.Alike

/-- Linters of one configuration on rearranged trees. -/
structure Linter.Alike (linter other : Linter) : Prop where
  config : linter.config = other.config
  rules : linter.rules = other.rules
  seesView : ∀ rule ∈ linter.rules, rule.SeesView
  env : linter.env.Alike other.env

namespace Linter

lemma ofConfig_eq_ok_iff {config : Config} {tree : FileTree} {cwd : Path} {linter : Linter} :
    ofConfig config tree cwd = .ok linter ↔
      ∃ env rules, Environment.ofConfig config tree cwd = .ok env ∧ buildRules config = .ok rules ∧
        linter = ⟨config, env, rules⟩ := by
  unfold ofConfig
  cases Environment.ofConfig config tree cwd with
  | error cause => simp
  | ok env =>
    cases buildRules config with
    | error cause => simp
    | ok rules => simp [eq_comm]

lemma tree_of_ofConfig {config : Config} {tree : FileTree} {cwd : Path} {linter : Linter}
    (h : ofConfig config tree cwd = .ok linter) : linter.env.tree = tree := by
  obtain ⟨env, rules, henv, -, rfl⟩ := ofConfig_eq_ok_iff.mp h
  obtain ⟨library, -, rfl⟩ := Environment.ofConfig_eq_ok_iff.mp henv
  rfl

theorem exists_alike {config : Config} {tree other : FileTree} {cwd : Path} {linter : Linter}
    (h : tree.Rearranged other) (hw : tree.WellFormed)
    (hlinter : ofConfig config tree cwd = .ok linter) :
    ∃ linter', ofConfig config other cwd = .ok linter' ∧ linter.Alike linter' := by
  obtain ⟨env, rules, henv, hrules, rfl⟩ := ofConfig_eq_ok_iff.mp hlinter
  obtain ⟨env', henv', halike⟩ := Environment.exists_alike h hw henv
  exact ⟨_, ofConfig_eq_ok_iff.mpr ⟨env', rules, henv', hrules, rfl⟩,
    rfl, rfl, seesView_of_buildRules hrules, halike⟩

/-- A file checked under two spellings that are looked up alike has the same findings, each about
the spelling it was checked under. -/
theorem lintFile_of_spellings {linter other : Linter} (h : linter.Alike other)
    (hw : linter.env.tree.WellFormed) {p q : Path} (hpq : p.components = q.components)
    (hlocate : linter.env.tree.locate p = linter.env.tree.locate q)
    (hsibling : ∀ top, '/' ∉ top.toList → linter.env.isSibling top p = linter.env.isSibling top q)
    (parse : Parser) :
    (other.lintFile parse q).toOption =
      (linter.lintFile parse p).toOption.map (List.map (Diagnostic.inFile q)) := by
  have hread : other.env.tree.read q = linter.env.tree.read p := by
    rw [← h.env.tree.read hw, FileTree.read, FileTree.read, hlocate]
  unfold lintFile
  rw [hread]
  cases linter.env.tree.read p with
  | error cause => rfl
  | ok source =>
    exact lintSource_of_sameView h.config h.rules h.seesView
      fun _ _ => h.env.sameView hw hpq hlocate hsibling _ _ _

end Linter

/-! ### Reports up to spelling -/

/-- The same finding about the same file, however the file is spelled. -/
def Diagnostic.Same (d e : Diagnostic) : Prop :=
  d.file.order e.file = .eq ∧ d.inFile e.file = e

namespace Report

/-- The same report, however its files are spelled. -/
def Same (report other : Report) : Prop :=
  List.Forall₂ Diagnostic.Same report.diagnostics other.diagnostics ∧
    report.summary = other.summary

lemma countSeverities_of_same {found found' : List Diagnostic}
    (h : List.Forall₂ Diagnostic.Same found found') :
    countSeverities found = countSeverities found' := by
  have hcount : ∀ s : Severity, found.countP (fun d => d.severity == s) =
      found'.countP fun d => d.severity == s := by
    intro s
    induction h with
    | nil => rfl
    | @cons d e _ _ hde _ ih =>
      have hseverity : e.severity = d.severity := by rw [← hde.2]; rfl
      rw [List.countP_cons, List.countP_cons, ih, hseverity]
  simp only [countSeverities, hcount]

lemma findingsIn_same {linter other : Linter} {parse : Parser} {p q : Path}
    (hpq : p.components = q.components)
    (h : (other.lintFile parse q).toOption =
      (linter.lintFile parse p).toOption.map (List.map (Diagnostic.inFile q))) :
    List.Forall₂ Diagnostic.Same (findingsIn linter parse p) (findingsIn other parse q) := by
  have hmap : findingsIn other parse q =
      (findingsIn linter parse p).map (Diagnostic.inFile q) := by
    unfold findingsIn
    revert h
    cases other.lintFile parse q <;> cases linter.lintFile parse p <;> simp [Except.toOption]
  rw [hmap, List.forall₂_map_right_iff, List.forall₂_same]
  intro d hd
  have hfile := (findingsIn_spec linter parse p).1 d hd
  exact ⟨by rw [hfile]; exact Path.order_eq_iff.mpr hpq, rfl⟩

lemma same_ofResults {linter other : Linter} {parse : Parser} {files files' : List Path}
    (hfiles : files.Pairwise fun p q => p.order q = .lt)
    (hfiles' : files'.Pairwise fun p q => p.order q = .lt)
    (h : List.Forall₂ (fun p q => p.components = q.components ∧
      (other.lintFile parse q).toOption =
        (linter.lintFile parse p).toOption.map (List.map (Diagnostic.inFile q))) files files') :
    Same (ofResults (files.map (linter.lintFile parse)))
      (ofResults (files'.map (other.lintFile parse))) := by
  have hfound : List.Forall₂ Diagnostic.Same
      (ofResults (files.map (linter.lintFile parse))).diagnostics
      (ofResults (files'.map (other.lintFile parse))).diagnostics := by
    rw [diagnostics_ofResults linter parse hfiles, diagnostics_ofResults other parse hfiles']
    exact List.rel_flatMap h fun p q hpq => findingsIn_same hpq.1 hpq.2
  have hfailures : (files.map (linter.lintFile parse)).countP (fun r => r.toOption.isNone) =
      (files'.map (other.lintFile parse)).countP fun r => r.toOption.isNone := by
    clear hfound hfiles hfiles'
    induction h with
    | nil => rfl
    | cons hpq _ ih =>
      rw [List.map_cons, List.map_cons, List.countP_cons, List.countP_cons, ih, hpq.2,
        Option.isNone_map]
  refine ⟨hfound, ?_⟩
  have hlength : (files.map (linter.lintFile parse)).length =
      (files'.map (other.lintFile parse)).length := by
    rw [List.length_map, List.length_map, h.length_eq]
  unfold ofResults at hfound ⊢
  rw [Summary.mk.injEq]
  exact ⟨hlength, hfailures, countSeverities_of_same hfound⟩

/-! ### Collected files up to spelling -/

lemma mem_foundFiles_congr {tree other : FileTree} (h : tree.Rearranged other)
    (hw : tree.WellFormed) {paths paths' : List Path} (hpaths : ∀ p, p ∈ paths ↔ p ∈ paths')
    {p : Path} : p ∈ foundFiles tree paths ↔ p ∈ foundFiles other paths' := by
  simp only [foundFiles, List.mem_filter, List.mem_flatMap, hpaths, h.mem_filesUnder hw]

lemma mem_map_components_collectFiles {tree : FileTree} {paths : List Path} {cs : List Component} :
    cs ∈ (collectFiles tree paths).map Path.components ↔
      ∃ p ∈ foundFiles tree paths, p.components = cs := by
  obtain ⟨-, hfound, hall⟩ := collectFiles_spec tree paths
  rw [List.mem_map]
  constructor
  · rintro ⟨p, hp, rfl⟩
    exact ⟨p, hfound p hp, rfl⟩
  · rintro ⟨p, hp, rfl⟩
    obtain ⟨q, hq, hqp⟩ := hall p hp
    exact ⟨q, hq, Path.order_eq_iff.mp hqp⟩

lemma map_components_eq {files files' : List Path}
    (hfiles : files.Pairwise fun p q => p.order q = .lt)
    (hfiles' : files'.Pairwise fun p q => p.order q = .lt)
    (h : ∀ cs, cs ∈ files.map Path.components ↔ cs ∈ files'.map Path.components) :
    files.map Path.components = files'.map Path.components := by
  have hlt : ∀ {files : List Path}, (files.Pairwise fun p q => p.order q = .lt) →
      (files.map Path.components).Pairwise fun as bs => Path.orderComponents as bs = .lt :=
    fun hfiles => List.pairwise_map.mpr hfiles
  have hnodup : ∀ {files : List Path}, (files.Pairwise fun p q => p.order q = .lt) →
      (files.map Path.components).Nodup := by
    intro files hfiles
    refine (hlt hfiles).imp ?_
    rintro as _ has rfl
    have hself : Path.orderComponents as as = .eq := Std.ReflCmp.compare_self
    rw [hself] at has
    cases has
  -- The same members without repetition, in the one order they can stand in.
  have hperm := (List.perm_ext_iff_of_nodup (hnodup hfiles) (hnodup hfiles')).mpr h
  refine hperm.eq_of_pairwise ?_ (hlt hfiles) (hlt hfiles')
  intro as bs _ _ hab hba
  have hswap : Path.orderComponents bs as = (Path.orderComponents as bs).swap :=
    Std.OrientedCmp.eq_swap
  rw [hab, hba] at hswap
  cases hswap

theorem forall₂_collectFiles {tree other : FileTree} {paths paths' : List Path}
    (h : ∀ p, p ∈ foundFiles tree paths ↔ p ∈ foundFiles other paths') :
    List.Forall₂ (fun p q => p.components = q.components ∧
        p ∈ foundFiles tree paths ∧ q ∈ foundFiles tree paths)
      (collectFiles tree paths) (collectFiles other paths') := by
  obtain ⟨hsorted, hfound, -⟩ := collectFiles_spec tree paths
  obtain ⟨hsorted', hfound', -⟩ := collectFiles_spec other paths'
  have heq : (collectFiles tree paths).map Path.components =
      (collectFiles other paths').map Path.components := by
    refine map_components_eq hsorted hsorted' fun cs => ?_
    simp only [mem_map_components_collectFiles, h]
  have hspelled : List.Forall₂ (fun p q => p.components = q.components)
      (collectFiles tree paths) (collectFiles other paths') := by
    have heq' : List.Forall₂ Eq ((collectFiles tree paths).map Path.components)
        ((collectFiles other paths').map Path.components) := by
      rw [heq]
      exact List.forall₂_refl _
    exact List.forall₂_map_right_iff.mp (List.forall₂_map_left_iff.mp heq')
  rw [List.forall₂_iff_zip] at hspelled ⊢
  refine ⟨hspelled.1, fun {p q} hpq => ?_⟩
  obtain ⟨hp, hq⟩ := List.of_mem_zip hpq
  exact ⟨hspelled.2 hpq, hfound p hp, (h q).mpr (hfound' q hq)⟩

/-- Of paths that name the same file in two ways, all leave room for the modules next to it. -/
def RoomForSpellings (found : List Path) : Prop :=
  ∀ p ∈ found, ∀ q ∈ found, p ≠ q → p.order q = .eq → FileTree.hasRoom p = true

lemma lookups_of_found {env : Environment} (hw : env.tree.WellFormed) {paths : List Path}
    (hroom : RoomForSpellings (foundFiles env.tree paths)) {p q : Path}
    (hp : p ∈ foundFiles env.tree paths) (hq : q ∈ foundFiles env.tree paths)
    (hpq : p.components = q.components) :
    env.tree.locate p = env.tree.locate q ∧
      ∀ top, '/' ∉ top.toList → env.isSibling top p = env.isSibling top q := by
  -- Only different spellings need room; a path too long to be read is too long both times.
  by_cases hsame : p = q
  · rw [hsame]
    exact ⟨rfl, fun _ _ => rfl⟩
  have hplace : ∀ r ∈ foundFiles env.tree paths, FileTree.hasRoom r = true →
      ∃ location, env.tree.locate r = .ok location := by
    intro r hr hroom
    obtain ⟨root, -, hroot⟩ := List.mem_flatMap.mp (List.mem_filter.mp hr).1
    exact FileTree.locate_of_mem_filesUnder hw hroot (FileTree.fits_of_hasRoom hroom)
  have hproom := hroom p hp q hq hsame (Path.order_eq_iff.mpr hpq)
  have hqroom := hroom q hq p hp (Ne.symm hsame) (Path.order_eq_iff.mpr hpq.symm)
  obtain ⟨here, hhere⟩ := hplace p hp hproom
  obtain ⟨there, hthere⟩ := hplace q hq hqroom
  refine ⟨?_, fun top htop => ?_⟩
  · rw [hhere, hthere, FileTree.locate_unique hpq hhere hthere]
  · exact env.isSibling_congr hpq hproom hqroom (FileTree.of_locate_eq_ok hhere).1
      (FileTree.of_locate_eq_ok hthere).1 htop

/-- Neither the order of the given paths and of the entries of directories nor a path given twice
changes a report, but for the spelling of files. -/
theorem lintPaths_same {linter other : Linter} (h : linter.Alike other)
    (hw : linter.env.tree.WellFormed) {paths paths' : List Path}
    (hpaths : ∀ p, p ∈ paths ↔ p ∈ paths')
    (hroom : RoomForSpellings (foundFiles linter.env.tree paths)) (parse : Parser) :
    Same (lintPaths linter parse paths) (lintPaths other parse paths') := by
  have hfound : ∀ p, p ∈ foundFiles linter.env.tree paths ↔
      p ∈ foundFiles other.env.tree paths' :=
    fun p => mem_foundFiles_congr h.env.tree hw hpaths
  refine same_ofResults (collectFiles_spec _ _).1 (collectFiles_spec _ _).1 ?_
  refine (forall₂_collectFiles hfound).imp ?_
  rintro p q ⟨hpq, hp, hq⟩
  obtain ⟨hlocate, hsibling⟩ := lookups_of_found hw hroom hp hq hpq
  exact ⟨hpq, Linter.lintFile_of_spellings h hw hpq hlocate hsibling parse⟩

end Report

/-- A report is put together from the findings of the collected files, and is the same on a
rearranged tree with the paths in another order, up to the spelling of files. -/
theorem lintPaths_composes {config : Config} {tree : FileTree} {cwd : Path} {linter : Linter}
    (hlinter : Linter.ofConfig config tree cwd = .ok linter) (parse : Parser) (paths : List Path) :
    let found := Report.foundFiles tree paths
    let files := Report.collectFiles tree paths
    let report := Report.lintPaths linter parse paths
    (files.Pairwise (fun p q => p.order q = .lt) ∧ (∀ p ∈ files, p ∈ found) ∧
      ∀ p ∈ found, ∃ q ∈ files, q.order p = .eq) ∧
    report.diagnostics = files.flatMap (Report.findingsIn linter parse) ∧
    report.summary.totalFiles = files.length ∧
    report.summary.parseFailures =
      files.countP (fun file => (linter.lintFile parse file).toOption.isNone) ∧
    (∀ s n, (s, n) ∈ report.summary.counts ↔
      n = report.diagnostics.countP (fun d => d.severity == s) ∧ n ≠ 0) ∧
    (report.summary.counts.map (·.1)).Nodup ∧
    (∀ threshold, report.hasFailures threshold = true ↔
      ∃ s n, (s, n) ∈ report.summary.counts ∧ threshold.rank ≤ s.rank) ∧
    ∀ other paths', tree.WellFormed → tree.Rearranged other → (∀ p, p ∈ paths ↔ p ∈ paths') →
      Report.RoomForSpellings found →
      ∃ linter', Linter.ofConfig config other cwd = .ok linter' ∧
        Report.Same report (Report.lintPaths linter' parse paths') := by
  intro found files report
  have htree := Linter.tree_of_ofConfig hlinter
  have hreport : report = Report.ofResults (files.map (linter.lintFile parse)) := by
    simp only [report, files, Report.lintPaths, htree]
  have hspec := Report.collectFiles_spec tree paths
  have hcounts : report.summary.counts = Report.countSeverities report.diagnostics := by
    rw [hreport]
    rfl
  refine ⟨hspec, ?_, ?_, ?_, ?_, ?_, Report.hasFailures_iff hcounts, ?_⟩
  · rw [hreport, Report.diagnostics_ofResults linter parse hspec.1]
  · rw [hreport, Report.ofResults, List.length_map]
  · rw [hreport, Report.ofResults, List.countP_map]
    rfl
  · intro s n
    rw [hcounts, Report.mem_countSeverities_iff]
  · rw [hcounts]
    exact Report.nodup_countSeverities _
  · intro other paths' hw hrearranged hpaths hroom
    obtain ⟨linter', hlinter', halike⟩ := Linter.exists_alike hrearranged hw hlinter
    exact ⟨linter', hlinter',
      Report.lintPaths_same halike (htree ▸ hw) hpaths (htree ▸ hroom) parse⟩

/-- A working directory with two source files, one of them in a directory. -/
def FileTree.ofTwoFiles : FileTree :=
  ⟨["project"], [(["project", "a", "m.py"], .file .empty (some 0o644)),
    (["project", "b.py"], .file .empty (some 0o600))]⟩

def Linter.ofTree (tree : FileTree) : Linter :=
  ⟨.standard, ⟨tree, ⟨"/project"⟩, .usual, .ofRoots tree [⟨"/project"⟩]⟩, standardRules⟩

lemma Linter.ofConfig_standard (tree : FileTree) :
    ofConfig .standard tree ⟨"/project"⟩ = .ok (ofTree tree) := rfl

theorem lintPaths_of_two_spellings :
    let tree := FileTree.ofTwoFiles
    let other : FileTree := ⟨tree.cwd, tree.entries.reverse⟩
    let paths : List Path := [⟨"a//"⟩, ⟨"b.py"⟩, ⟨"a"⟩]
    let paths' : List Path := [⟨"a"⟩, ⟨"a//"⟩, ⟨"a"⟩, ⟨"b.py"⟩]
    let parse : Parser := fun _ => some []
    Report.foundFiles tree paths = [⟨"a//m.py"⟩, ⟨"b.py"⟩, ⟨"a/m.py"⟩] ∧
    ∃ linter linter', Linter.ofConfig .standard tree ⟨"/project"⟩ = .ok linter ∧
      Linter.ofConfig .standard other ⟨"/project"⟩ = .ok linter' ∧
      Report.Same (Report.lintPaths linter parse paths) (Report.lintPaths linter' parse paths') := by
  intro tree other paths paths' parse
  have hfound : Report.foundFiles tree paths = [⟨"a//m.py"⟩, ⟨"b.py"⟩, ⟨"a/m.py"⟩] := by
    decide +kernel
  have hw : tree.WellFormed := ⟨by decide +kernel, by decide⟩
  have hrearranged : tree.Rearranged other := ⟨rfl, (List.reverse_perm _).symm⟩
  have hpaths : ∀ p, p ∈ paths ↔ p ∈ paths' := by
    intro p
    simp only [paths, paths', List.mem_cons, List.not_mem_nil, or_false]
    grind
  have hroom : Report.RoomForSpellings (Report.foundFiles tree paths) := by
    rw [hfound]
    unfold Report.RoomForSpellings
    decide +kernel
  have hlinter := Linter.ofConfig_standard tree
  obtain ⟨-, -, -, -, -, -, -, horder⟩ := lintPaths_composes hlinter parse paths
  obtain ⟨linter', hlinter', hsame⟩ := horder other paths' hw hrearranged hpaths hroom
  exact ⟨hfound, _, linter', hlinter, hlinter', hsame⟩

/-! ### Spellings over the limit -/

/-- A path of one name with `n` slashes behind it. -/
def Path.slashed (n : Nat) : Path :=
  ⟨String.ofList ('a' :: List.replicate n '/')⟩

namespace Path

lemma slashed_succ (n : Nat) : slashed (n + 1) = ⟨(slashed n).text ++ "/"⟩ := by
  rw [slashed, slashed, Path.mk.injEq]
  apply String.toList_injective
  simp [List.replicate_succ']

lemma components_slashed (n : Nat) : (slashed n).components = [.name "a"] := by
  induction n with
  | zero => decide
  | succ n ih =>
    have hne : (slashed n).text ≠ "" := by
      rw [ne_eq, ← components_eq_nil_iff, ih]
      simp
    rw [slashed_succ, components_slash hne, ih]

lemma utf8ByteSize_slashed (n : Nat) : (slashed n).text.utf8ByteSize = n + 1 := by
  have hslash : "/".utf8ByteSize = 1 := rfl
  induction n with
  | zero => rfl
  | succ n ih => rw [slashed_succ, String.utf8ByteSize_append, ih, hslash]

lemma text_join_slashed (n : Nat) {r : Path} (hr : r.isAbsolute = false) :
    ((slashed (n + 1)).join r).text = (slashed (n + 1)).text ++ r.text := by
  have hlast : (slashed (n + 1)).text.toList.getLast? = some '/' := by
    rw [slashed_succ]
    simp
  simp [join, hr, hlast]

lemma hasNul_slashed (n : Nat) : (slashed n).hasNul = false := by
  simp [hasNul, slashed]

lemma endsIdle_slashed (n : Nat) : (slashed (n + 1)).endsIdle = true := by
  rw [slashed_succ, endsIdle, segments_slash]
  simp [innerComponent?]

end Path

namespace FileTree

lemma filesUnder_slashed {n : Nat} (hn : n + 2 ≤ pathLimit) :
    ofTwoFiles.filesUnder (Path.slashed (n + 1)) = [(Path.slashed (n + 1)).join ⟨"m.py"⟩] := by
  have hfits : fits (Path.slashed (n + 1)) = true :=
    decide_eq_true (by rw [Path.utf8ByteSize_slashed]; exact hn)
  have hlocate : ofTwoFiles.locate (Path.slashed (n + 1)) = .ok ["project", "a"] := by
    have hshort : ofTwoFiles.locate ⟨"a/"⟩ = .ok ["project", "a"] := rfl
    rw [← hshort]
    refine ofTwoFiles.locate_congr ?_ ?_ ?_ ?_
    · rw [Path.components_slashed]; rfl
    · rw [Path.hasNul_slashed]; rfl
    · rw [Path.endsIdle_slashed]; rfl
    · rw [hfits]; rfl
  have hfile : ofTwoFiles.fileAt? ["project", "a"] = none := rfl
  have hbelow : below? ["project", "a"] ["project", "a", "m.py"] = some ["m.py"] := rfl
  have hbeside : below? ["project", "a"] ["project", "b.py"] = none := rfl
  unfold filesUnder
  rw [hlocate]
  simp only [hfile]
  simp [ofTwoFiles, hbelow, hbeside, hfits, Path.descend]

end FileTree

lemma FileTree.locate_of_not_fits (tree : FileTree) {p : Path} (h : fits p = false) :
    ∃ cause, tree.locate p = .error cause := by
  rw [locate_eq, h]
  split
  · exact ⟨_, rfl⟩
  split
  · exact ⟨_, rfl⟩
  · exact ⟨_, rfl⟩

lemma Linter.lintFile_of_not_fits {linter : Linter} {parse : Parser} {p : Path}
    (h : FileTree.fits p = false) : (linter.lintFile parse p).toOption = none := by
  obtain ⟨cause, hcause⟩ := linter.env.tree.locate_of_not_fits h
  simp [lintFile, FileTree.read, hcause, Except.toOption]

namespace Report

lemma collectFiles_of_two {tree : FileTree} {paths : List Path} {p q : Path}
    (h : foundFiles tree paths = [p, q]) (hpq : p.components = q.components) :
    collectFiles tree paths = [p] := by
  have htie : p.order q = .eq := Path.order_eq_iff.mpr hpq
  have hsort : [p, q].mergeSort (fun p q => p.order q != .gt) = [p, q] :=
    List.mergeSort_of_pairwise (by simp [htie])
  rw [collectFiles_eq, h, hsort]
  simp [dedup, dedupFrom, htie]

lemma not_same_of_unreadable {linter : Linter} {parse : Parser} {paths paths' : List Path}
    {p q : Path} (hpaths : collectFiles linter.env.tree paths = [p])
    (hpaths' : collectFiles linter.env.tree paths' = [q])
    (hp : (linter.lintFile parse p).toOption = none)
    (hq : (linter.lintFile parse q).toOption ≠ none) :
    ¬ Same (lintPaths linter parse paths) (lintPaths linter parse paths') := by
  rintro ⟨-, hsummary⟩
  have hfailures := congrArg Summary.parseFailures hsummary
  simp [lintPaths, hpaths, hpaths', ofResults, hp] at hfailures
  exact hq hfailures

end Report

/-- A file is found under a path over the limit and under a shorter spelling of it. Which one is
given first decides whether the file can be read. -/
theorem lintPaths_not_same_over_limit :
    let tree := FileTree.ofTwoFiles
    let long := Path.slashed 4091
    let parse : Parser := fun _ => some []
    ∃ linter, Linter.ofConfig .standard tree ⟨"/project"⟩ = .ok linter ∧ tree.WellFormed ∧
      [long, ⟨"a"⟩].Perm [⟨"a"⟩, long] ∧
      ¬ Report.Same (Report.lintPaths linter parse [long, ⟨"a"⟩])
        (Report.lintPaths linter parse [⟨"a"⟩, long]) := by
  intro tree long parse
  have hw : tree.WellFormed := ⟨by decide +kernel, by decide⟩
  refine ⟨.ofTree tree, Linter.ofConfig_standard tree, hw, .swap _ _ _, ?_⟩
  -- The text of `p` has 4096 characters and is not to be computed.
  obtain ⟨p, hp⟩ : ∃ p, p = long.join ⟨"m.py"⟩ := ⟨_, rfl⟩
  have hlong : tree.filesUnder long = [p] := hp ▸ FileTree.filesUnder_slashed (by decide)
  have hshort : tree.filesUnder ⟨"a"⟩ = [⟨"a/m.py"⟩] := by decide +kernel
  have hcomponents : p.components = Path.components ⟨"a/m.py"⟩ := by
    rw [hp, Path.components_join long rfl, Path.components_slashed]
    decide
  have hextension : Path.hasExtension "py" p = true := by
    unfold Path.hasExtension Path.fileName?
    rw [hcomponents]
    decide
  have hextension' : Path.hasExtension "py" ⟨"a/m.py"⟩ = true := by decide
  have hfound : Report.foundFiles tree [long, ⟨"a"⟩] = [p, ⟨"a/m.py"⟩] := by
    simp [Report.foundFiles, hlong, hshort, hextension, hextension']
  have hfound' : Report.foundFiles tree [⟨"a"⟩, long] = [⟨"a/m.py"⟩, p] := by
    simp [Report.foundFiles, hlong, hshort, hextension, hextension']
  refine Report.not_same_of_unreadable (Report.collectFiles_of_two hfound hcomponents)
    (Report.collectFiles_of_two hfound' hcomponents.symm) ?_ ?_
  · have hsize : p.text.utf8ByteSize = 4096 := by
      rw [hp, Path.text_join_slashed 4090 rfl, String.utf8ByteSize_append,
        Path.utf8ByteSize_slashed]
      rfl
    exact Linter.lintFile_of_not_fits (by simp [FileTree.fits, hsize, FileTree.pathLimit])
  · have hread : (Linter.ofTree tree).env.tree.read ⟨"a/m.py"⟩ = .ok "" := rfl
    have hparse : parse (Linter.stripBom "").1 = some [] := rfl
    unfold Linter.lintFile
    rw [hread]
    dsimp only
    rw [(Linter.ofTree tree).lintSource_of_parse ⟨"a/m.py"⟩ hparse]
    exact Option.some_ne_none _

end SaltConventions
