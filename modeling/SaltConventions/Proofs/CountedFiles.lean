import Mathlib.Data.Set.Card
import SaltConventions.Proofs.Enumeration
import SaltConventions.Proofs.WorkingDirectory

/-!
# Counted files

A run counts the paths it collects. Each of them leads to a source file that the given paths name or
hold, and each such file is led to. Files are told apart by the components of their paths, so a file
is counted again under a path that begins in another way, as `./a.py` and `a.py` do, or that goes
up. Of given paths that begin alike and do not go up, every file is counted once.
-/

namespace SaltConventions

/-! ### Beginnings and steps -/

namespace Path

lemma lead_eq_filter (p : Path) : p.lead = p.components.filter fun c => !c.isStep := by
  have hlead : p.lead.filter (fun c => !c.isStep) = p.lead :=
    List.filter_eq_self.mpr fun c hc => by simp [isStep_of_mem_lead hc]
  have hsteps : p.steps.filter (fun c => !c.isStep) = [] := by
    simpa using fun c hc => isStep_of_mem_steps hc
  rw [components_eq, List.filter_append, hlead, hsteps, List.append_nil]

lemma lead_descend {root : Path} (hroot : root.text ≠ "") {names : List String}
    (hnames : ∀ name ∈ names, FileTree.IsName name) : (root.descend names).lead = root.lead := by
  rw [lead_eq_filter, components_descend hroot hnames, List.filter_append, ← lead_eq_filter]
  simp [Component.isStep]

lemma isAbsolute_of_lead {p q : Path} (h : p.lead = q.lead) : p.isAbsolute = q.isAbsolute := by
  have hroot : ∀ r : Path, r.isAbsolute = true ↔ .root ∈ r.lead := by
    intro r
    rw [isAbsolute_iff, components_eq, List.mem_append, or_iff_left not_root_of_mem_steps]
  rw [Bool.eq_iff_iff, hroot, hroot, h]

lemma innerComponent?_of_mem_steps {p : Path} {c : Component} (h : c ∈ p.steps) :
    innerComponent? c.text = some c := by
  obtain ⟨segment, -, hsegment⟩ := List.mem_filterMap.mp h
  rw [text_of_innerComponent? hsegment, hsegment]

lemma filterMap_text_steps (p : Path) :
    (p.steps.map Component.text).filterMap innerComponent? = p.steps := by
  rw [List.filterMap_map]
  exact (List.filterMap_congr fun c hc => innerComponent?_of_mem_steps hc).trans
    List.filterMap_some

lemma fileName?_of_isName {name : String} (h : FileTree.IsName name) :
    fileName? ⟨name⟩ = some name := by
  have hsteps := steps_of_isName h
  rw [fileName?, getLast?_components (by simp [hsteps]), hsteps]
  rfl

lemma hasExtension_congr {p q : Path} (h : p.fileName? = q.fileName?) (extension : String) :
    p.hasExtension extension = q.hasExtension extension := by
  rw [hasExtension, hasExtension, h]

/-- Paths that begin alike and do not go up. -/
structure SpelledAlike (paths : List Path) : Prop where
  lead : ∀ p ∈ paths, ∀ q ∈ paths, p.lead = q.lead
  down : ∀ p ∈ paths, .up ∉ p.components

end Path

namespace FileTree

variable {tree : FileTree} {p q : Path}

namespace LeadsTo

variable {place : Location}

lemma map_name (h : tree.LeadsTo p place) (hup : .up ∉ p.components) :
    place.map Component.name = (tree.start p).map Component.name ++ p.steps := by
  have hdown : .up ∉ p.steps := by
    rw [p.steps_eq_filter]
    exact fun hmem => hup (List.mem_filter.mp hmem).1
  rw [map_name_of_follow h (by rwa [p.filterMap_text_steps]), p.filterMap_text_steps]

/-- Paths that begin alike and do not go up have the same components if they lead to the same place.
-/
theorem components_eq (hp : tree.LeadsTo p place) (hq : tree.LeadsTo q place)
    (hlead : p.lead = q.lead) (hpup : .up ∉ p.components) (hqup : .up ∉ q.components) :
    p.components = q.components := by
  have hstart : tree.start p = tree.start q := by
    rw [start, start, Path.isAbsolute_of_lead hlead]
  have hsteps : p.steps = q.steps := by
    have hsame := (hp.map_name hpup).symm.trans (hq.map_name hqup)
    rw [hstart] at hsame
    exact List.append_cancel_left hsame
  rw [Path.components_eq, Path.components_eq, hlead, hsteps]

end LeadsTo

/-! ### Source files -/

/-- A tree in which no place is a file and a directory. -/
structure Sound (tree : FileTree) : Prop extends tree.WellFormed where
  apart : ∀ {place contents mode}, (place, .file contents mode) ∈ tree.entries →
    tree.isDirectoryAt place = false

/-- A file with the extension of sources at or below a place that one of the paths names. A
directory whose path does not fit is not entered. -/
structure IsSource (tree : FileTree) (paths : List Path) (place : Location) : Prop where
  file : (tree.fileAt? place).isSome = true
  extension : ∃ name, place.getLast? = some name ∧ Path.hasExtension "py" ⟨name⟩ = true
  under : ∃ root ∈ paths, ∃ directory names, tree.locate root = .ok directory ∧
    place = directory ++ names ∧ fits (root.descend names.dropLast) = true

lemma isDirectoryAt_of_isPrefix {here there : Location} (h : tree.isDirectoryAt there = true)
    (hbefore : here <+: there) : tree.isDirectoryAt here = true := by
  unfold isDirectoryAt at h ⊢
  rw [Bool.or_eq_true, List.any_eq_true] at h ⊢
  rcases h with h | ⟨⟨place, entry⟩, hlisted, h⟩
  · exact .inl (List.isPrefixOf_iff_prefix.mpr (hbefore.trans (List.isPrefixOf_iff_prefix.mp h)))
  · refine .inr ⟨_, hlisted, ?_⟩
    cases entry with
    | directory mode =>
      exact List.isPrefixOf_iff_prefix.mpr (hbefore.trans (List.isPrefixOf_iff_prefix.mp h))
    | file contents mode =>
      rw [Bool.and_eq_true, List.isPrefixOf_iff_prefix, bne_iff_ne] at h ⊢
      refine ⟨hbefore.trans h.1, ?_⟩
      rintro rfl
      exact h.2 (hbefore.eq_of_length_le h.1.length_le)

lemma isDirectoryAt_start (tree : FileTree) (p : Path) :
    tree.isDirectoryAt (tree.start p) = true := by
  have hcwd : tree.isDirectoryAt tree.cwd = true := by simp [isDirectoryAt]
  unfold start
  split
  · exact isDirectoryAt_of_isPrefix hcwd List.nil_prefix
  · exact hcwd

lemma of_follow_step {here there : Location} {c : Component}
    (hc : Path.innerComponent? c.text = some c) (h : tree.follow here [c.text] = .ok there) :
    tree.isDirectoryAt here = true ∧
      (c = .up ∧ there = here.dropLast ∨ ∃ name, c = .name name ∧ there = here ++ [name]) := by
  unfold Path.innerComponent? at hc
  rw [follow] at h
  split at h
  next => cases h
  next hdir =>
    refine ⟨by simpa using hdir, ?_⟩
    split at h
    next hidle => simp [hidle] at hc
    next hidle =>
      rw [if_neg hidle] at hc
      split at h
      next hdots =>
        rw [if_pos hdots] at hc
        exact .inl ⟨(Option.some.inj hc).symm, (Except.ok.inj h).symm⟩
      next hdots =>
        rw [if_neg hdots] at hc
        split at h
        next => cases h
        dsimp only at h
        split at h
        next => exact .inr ⟨_, (Option.some.inj hc).symm, (Except.ok.inj h).symm⟩
        next => cases h

namespace Sound

variable (hs : tree.Sound) {place : Location} {contents : ByteArray} {mode : Option Nat}
include hs

lemma fileName?_of_leadsTo (h : tree.LeadsTo p place)
    (hfile : (place, .file contents mode) ∈ tree.entries) : p.fileName? = place.getLast? := by
  have hnot : tree.isDirectoryAt place ≠ true := by simp [hs.apart hfile]
  rcases List.eq_nil_or_concat p.steps with hnil | ⟨front, last, hsteps⟩
  · rw [LeadsTo, hnil] at h
    obtain rfl := Except.ok.inj h
    exact absurd (tree.isDirectoryAt_start p) hnot
  · rw [List.concat_eq_append] at hsteps
    have hlast := Path.innerComponent?_of_mem_steps (p := p) (c := last) (by simp [hsteps])
    rw [LeadsTo, hsteps, List.map_append, follow_append] at h
    cases hfront : tree.follow (tree.start p) (front.map Component.text) with
    | error cause => rw [hfront] at h; cases h
    | ok here =>
      rw [hfront] at h
      obtain ⟨hdir, ⟨rfl, rfl⟩ | ⟨name, rfl, rfl⟩⟩ := of_follow_step hlast h
      · exact absurd (isDirectoryAt_of_isPrefix hdir (List.dropLast_prefix here)) hnot
      · rw [Path.fileName?, Path.getLast?_components (by simp [hsteps]), hsteps]
        simp

lemma hasExtension_iff_of_leadsTo (h : tree.LeadsTo p place)
    (hfile : (place, .file contents mode) ∈ tree.entries) :
    p.hasExtension "py" = true ↔
      ∃ name, place.getLast? = some name ∧ Path.hasExtension "py" ⟨name⟩ = true := by
  have hname := hs.fileName?_of_leadsTo h hfile
  cases hlast : place.getLast? with
  | none => simp [Path.hasExtension, hname, hlast]
  | some name =>
    have hproper := hs.names _ hfile name (List.mem_of_getLast? hlast)
    rw [hlast, ← Path.fileName?_of_isName hproper] at hname
    simp [Path.hasExtension_congr hname]

lemma exists_place_of_mem_foundFiles {paths : List Path} (hp : p ∈ Report.foundFiles tree paths) :
    ∃ place, tree.LeadsTo p place ∧ tree.IsSource paths place := by
  rw [Report.foundFiles, List.mem_filter, List.mem_flatMap] at hp
  obtain ⟨⟨root, hroot, hp⟩, hextension⟩ := hp
  obtain ⟨directory, hlocate, hp⟩ := mem_filesUnder_iff.mp hp
  obtain ⟨-, htext, hleads⟩ := of_locate_eq_ok hlocate
  split at hp
  next hfile =>
    subst hp
    obtain ⟨⟨contents, mode⟩, hfound⟩ := Option.isSome_iff_exists.mp hfile
    have hlisted := (fileAt?_eq_some_iff hs.toWellFormed).mp hfound
    refine ⟨directory, hleads, hfile, (hs.hasExtension_iff_of_leadsTo hleads hlisted).mp hextension,
      p, hroot, directory, [], hlocate, (List.append_nil _).symm, fits_of_locate_eq_ok hlocate⟩
  next =>
    obtain ⟨names, contents, mode, hlisted, -, hfits, rfl⟩ := hp
    have hbelow := leadsTo_descend hs.toWellFormed hleads htext hlisted
    exact ⟨directory ++ names, hbelow, isSome_fileAt? hlisted,
      (hs.hasExtension_iff_of_leadsTo hbelow hlisted).mp hextension, root, hroot, directory, names,
      hlocate, rfl, hfits⟩

lemma exists_mem_foundFiles_of_isSource {paths : List Path} (h : tree.IsSource paths place) :
    ∃ p ∈ Report.foundFiles tree paths, tree.LeadsTo p place := by
  obtain ⟨hfile, hextension, root, hroot, directory, names, hlocate, rfl, hfits⟩ := h
  obtain ⟨⟨contents, mode⟩, hfound⟩ := Option.isSome_iff_exists.mp hfile
  have hlisted := (fileAt?_eq_some_iff hs.toWellFormed).mp hfound
  obtain ⟨-, htext, hleads⟩ := of_locate_eq_ok hlocate
  have hbelow := leadsTo_descend hs.toWellFormed hleads htext hlisted
  refine ⟨root.descend names, ?_, hbelow⟩
  rw [Report.foundFiles, List.mem_filter, List.mem_flatMap]
  refine ⟨⟨root, hroot, mem_filesUnder_iff.mpr ⟨directory, hlocate, ?_⟩⟩,
    (hs.hasExtension_iff_of_leadsTo hbelow hlisted).mpr hextension⟩
  cases names with
  | nil =>
    rw [List.append_nil] at hfile
    rw [if_pos hfile]
    rfl
  | cons name later =>
    have hnone : ¬(tree.fileAt? directory).isSome = true := by
      intro hsome
      obtain ⟨found, hfound⟩ := Option.isSome_iff_exists.mp hsome
      have hboth := hs.apart ((fileAt?_eq_some_iff hs.toWellFormed).mp hfound)
      rw [isDirectoryAt_above hlisted] at hboth
      cases hboth
    rw [if_neg hnone]
    exact ⟨_, _, _, hlisted, List.cons_ne_nil _ _, hfits, rfl⟩

end Sound

end FileTree

/-! ### Collected paths and the files they lead to -/

lemma ncard_setOf_mem {α : Type} [DecidableEq α] (xs : List α) :
    {x | x ∈ xs}.ncard ≤ xs.length ∧ (xs.length = {x | x ∈ xs}.ncard ↔ xs.Nodup) := by
  rw [← List.coe_toFinset, Set.ncard_coe_finset]
  refine ⟨xs.toFinset_card_le, eq_comm.trans ?_⟩
  exact Multiset.toFinset_card_eq_card_iff_nodup (m := (xs : Multiset α))

namespace Report

variable {tree : FileTree} {paths : List Path}

lemma exists_mem_collectFiles_of_isSource (hs : tree.Sound) {place : Location}
    (h : tree.IsSource paths place) : ∃ p ∈ collectFiles tree paths, tree.LeadsTo p place := by
  obtain ⟨-, hfound, hall⟩ := collectFiles_spec tree paths
  obtain ⟨p, hp, hplace⟩ := hs.exists_mem_foundFiles_of_isSource h
  obtain ⟨q, hq, hqp⟩ := hall p hp
  obtain ⟨there, hthere, -⟩ := hs.exists_place_of_mem_foundFiles (hfound q hq)
  exact ⟨q, hq, hthere.unique (Path.order_eq_iff.mp hqp) hplace ▸ hthere⟩

lemma nodup_map_components (tree : FileTree) (paths : List Path) :
    ((collectFiles tree paths).map Path.components).Nodup := by
  rw [List.Nodup, List.pairwise_map]
  refine (collectFiles_spec tree paths).1.imp fun {p q} hlt hsame => ?_
  rw [Path.order_eq_iff.mpr hsame] at hlt
  cases hlt

lemma length_collectFiles (tree : FileTree) (paths : List Path) :
    (collectFiles tree paths).length =
      ((foundFiles tree paths).map Path.components).toFinset.card := by
  have hsame : ((collectFiles tree paths).map Path.components).toFinset =
      ((foundFiles tree paths).map Path.components).toFinset := by
    ext cs
    rw [List.mem_toFinset, List.mem_toFinset, mem_map_components_collectFiles, List.mem_map]
  rw [← hsame, List.toFinset_card_of_nodup (nodup_map_components tree paths), List.length_map]

lemma ncard_sources (hs : tree.Sound) (paths : List Path) :
    {place | tree.IsSource paths place}.ncard ≤ (collectFiles tree paths).length ∧
      ((collectFiles tree paths).length = {place | tree.IsSource paths place}.ncard ↔
        ∀ p ∈ collectFiles tree paths, ∀ q ∈ collectFiles tree paths,
          ∀ place, tree.LeadsTo p place → tree.LeadsTo q place → p = q) := by
  have hplace : ∀ p ∈ collectFiles tree paths,
      ∃ place, tree.LeadsTo p place ∧ tree.IsSource paths place := fun p hp =>
    hs.exists_place_of_mem_foundFiles ((collectFiles_spec tree paths).2.1 p hp)
  choose! placeOf hleads hsource using hplace
  have hplaces : {place | tree.IsSource paths place} =
      {place | place ∈ (collectFiles tree paths).map placeOf} := by
    ext place
    rw [Set.mem_ofPred_eq, Set.mem_ofPred_eq, List.mem_map]
    constructor
    · intro h
      obtain ⟨p, hp, hpplace⟩ := exists_mem_collectFiles_of_isSource hs h
      exact ⟨p, hp, (hleads p hp).unique rfl hpplace⟩
    · rintro ⟨p, hp, rfl⟩
      exact hsource p hp
  obtain ⟨hle, heq⟩ := ncard_setOf_mem ((collectFiles tree paths).map placeOf)
  rw [List.length_map] at hle heq
  rw [hplaces]
  refine ⟨hle, heq.trans ?_⟩
  rw [List.nodup_map_iff_inj_on (List.Nodup.of_map _ (nodup_map_components tree paths))]
  refine forall₂_congr fun p hp => forall₂_congr fun q hq => ⟨?_, ?_⟩
  · intro hinj place hpplace hqplace
    apply hinj
    rw [(hleads p hp).unique rfl hpplace, (hleads q hq).unique rfl hqplace]
  · intro honce hsame
    exact honce _ (hleads p hp) (hsame ▸ hleads q hq)

/-- Two collected paths that lead to the same file begin differently, or one of them goes up. -/
lemma spelling_of_leadsTo {p q : Path} (hp : p ∈ collectFiles tree paths)
    (hq : q ∈ collectFiles tree paths) (hne : p ≠ q) {place : Location}
    (hpplace : tree.LeadsTo p place) (hqplace : tree.LeadsTo q place) :
    p.lead ≠ q.lead ∨ .up ∈ p.components ∨ .up ∈ q.components := by
  by_contra hnot
  simp only [not_or, not_not] at hnot
  obtain ⟨hlead, hpup, hqup⟩ := hnot
  have hsame := hpplace.components_eq hqplace hlead hpup hqup
  exact hne (List.inj_on_of_nodup_map (nodup_map_components tree paths) hp hq hsame)

lemma exists_root_of_mem_collectFiles (hs : tree.Sound) {p : Path}
    (hp : p ∈ collectFiles tree paths) :
    ∃ root ∈ paths, p.lead = root.lead ∧ (.up ∈ p.components → .up ∈ root.components) := by
  have hfound := (collectFiles_spec tree paths).2.1 p hp
  rw [foundFiles, List.mem_filter, List.mem_flatMap] at hfound
  obtain ⟨⟨root, hroot, hfound⟩, -⟩ := hfound
  obtain ⟨directory, hlocate, hfound⟩ := FileTree.mem_filesUnder_iff.mp hfound
  refine ⟨root, hroot, ?_⟩
  split at hfound
  next => exact ⟨hfound ▸ rfl, hfound ▸ id⟩
  next =>
    obtain ⟨names, contents, mode, hlisted, -, -, rfl⟩ := hfound
    have htext := (FileTree.of_locate_eq_ok hlocate).2.1
    have hnames : ∀ name ∈ names, FileTree.IsName name := fun name hname =>
      hs.names _ hlisted name (List.mem_append_right _ hname)
    refine ⟨Path.lead_descend htext hnames, fun hup => ?_⟩
    rw [Path.components_descend htext hnames] at hup
    simpa using hup

/-- Given paths that begin alike and do not go up lead to every file in one way. -/
lemma eq_of_leadsTo_of_spelledAlike (hs : tree.Sound) (h : Path.SpelledAlike paths) {p q : Path}
    (hp : p ∈ collectFiles tree paths) (hq : q ∈ collectFiles tree paths) {place : Location}
    (hpplace : tree.LeadsTo p place) (hqplace : tree.LeadsTo q place) : p = q := by
  obtain ⟨root, hroot, hlead, hup⟩ := exists_root_of_mem_collectFiles hs hp
  obtain ⟨root', hroot', hlead', hup'⟩ := exists_root_of_mem_collectFiles hs hq
  by_contra hne
  rcases spelling_of_leadsTo hp hq hne hpplace hqplace with hbegin | hmem | hmem
  · exact hbegin (hlead.trans ((h.lead root hroot root' hroot').trans hlead'.symm))
  · exact h.down root hroot (hup hmem)
  · exact h.down root' hroot' (hup' hmem)

end Report

/-- A run counts one path for each list of components that is found. There are at most as many
source files, and as many exactly if no two of these paths meet. -/
theorem lintPaths_counts_sources {config : Config} {tree : FileTree} {cwd : Path} {linter : Linter}
    (hlinter : Linter.ofConfig config tree cwd = .ok linter) (hs : tree.Sound) (parse : Parser)
    (paths : List Path) :
    let files := Report.collectFiles tree paths
    let report := Report.lintPaths linter parse paths
    let sources := {place | tree.IsSource paths place}
    report.diagnostics = files.flatMap (Report.findingsIn linter parse) ∧
    report.summary.totalFiles = files.length ∧
    files.length = ((Report.foundFiles tree paths).map Path.components).toFinset.card ∧
    (∀ p ∈ files, ∃ place, tree.LeadsTo p place ∧ tree.IsSource paths place) ∧
    (∀ place, tree.IsSource paths place → ∃ p ∈ files, tree.LeadsTo p place) ∧
    sources.ncard ≤ report.summary.totalFiles ∧
    (report.summary.totalFiles = sources.ncard ↔ ∀ p ∈ files, ∀ q ∈ files,
      ∀ place, tree.LeadsTo p place → tree.LeadsTo q place → p = q) ∧
    (∀ p ∈ files, ∀ q ∈ files, p ≠ q → ∀ place, tree.LeadsTo p place → tree.LeadsTo q place →
      p.lead ≠ q.lead ∨ .up ∈ p.components ∨ .up ∈ q.components) ∧
    (Path.SpelledAlike paths → report.summary.totalFiles = sources.ncard) := by
  intro files report sources
  have hreport : report = Report.ofResults (files.map (linter.lintFile parse)) := by
    simp only [report, files, Report.lintPaths, Linter.tree_of_ofConfig hlinter]
  obtain ⟨hsorted, hfound, -⟩ := Report.collectFiles_spec tree paths
  have htotal : report.summary.totalFiles = files.length := by
    rw [hreport, Report.ofResults, List.length_map]
  obtain ⟨hle, heq⟩ := Report.ncard_sources hs paths
  rw [htotal]
  refine ⟨?_, rfl, Report.length_collectFiles tree paths, ?_, ?_, hle, heq, ?_, ?_⟩
  · rw [hreport, Report.diagnostics_ofResults linter parse hsorted]
  · exact fun p hp => hs.exists_place_of_mem_foundFiles (hfound p hp)
  · exact fun place => Report.exists_mem_collectFiles_of_isSource hs
  · exact fun p hp q hq hne place => Report.spelling_of_leadsTo hp hq hne
  · intro halike
    exact heq.mpr fun p hp q hq place => Report.eq_of_leadsTo_of_spelledAlike hs halike hp hq

/-- A working directory with a source file, two more in directories, and a file of another kind. -/
def FileTree.ofNestedFiles : FileTree :=
  ⟨["project"], [(["project", "top.py"], .file .empty none),
    (["project", "a", "m.py"], .file .empty none),
    (["project", "a", "notes.txt"], .file .empty none),
    (["project", "a", "b", "n.py"], .file .empty none)]⟩

lemma FileTree.sound_ofNestedFiles : ofNestedFiles.Sound where
  names := by decide +kernel
  distinct := by decide
  apart := by
    intro place contents mode h
    simp only [ofNestedFiles, List.mem_cons, List.not_mem_nil, or_false, Prod.mk.injEq] at h
    rcases h with ⟨rfl, -⟩ | ⟨rfl, -⟩ | ⟨rfl, -⟩ | ⟨rfl, -⟩ <;> decide +kernel

/-- A directory, a file in it and a directory in it are given. -/
theorem lintPaths_counts_nested_sources :
    let tree := FileTree.ofNestedFiles
    let paths : List Path := [⟨"a"⟩, ⟨"a//m.py"⟩, ⟨"a/./b/"⟩]
    let report := Report.lintPaths (.ofTree tree) (fun _ => some []) paths
    Linter.ofConfig .standard tree ⟨"/project"⟩ = .ok (.ofTree tree) ∧ tree.Sound ∧
    Path.SpelledAlike paths ∧ report.summary.totalFiles = 2 ∧
    report.summary.totalFiles = {place | tree.IsSource paths place}.ncard := by
  intro tree paths report
  have halike : Path.SpelledAlike paths := ⟨by decide +kernel, by decide +kernel⟩
  obtain ⟨-, htotal, hlength, -, -, -, -, -, hcounts⟩ := lintPaths_counts_sources
    (Linter.ofConfig_standard tree) FileTree.sound_ofNestedFiles (fun _ => some []) paths
  refine ⟨Linter.ofConfig_standard tree, FileTree.sound_ofNestedFiles, halike, ?_, hcounts halike⟩
  rw [htotal, hlength]
  decide +kernel

/-- A file is counted twice if it is given by its name next to the directory it stands in. -/
theorem lintPaths_counts_file_twice :
    let tree : FileTree := ⟨["project"], [(["project", "a.py"], .file .empty none)]⟩
    let paths : List Path := [⟨"."⟩, ⟨"a.py"⟩]
    let report := Report.lintPaths (.ofTree tree) (fun _ => some []) paths
    Linter.ofConfig .standard tree ⟨"/project"⟩ = .ok (.ofTree tree) ∧
    report.summary.totalFiles = 2 ∧ {place | tree.IsSource paths place}.ncard = 1 := by
  intro tree paths report
  have hsources : {place | tree.IsSource paths place} = {["project", "a.py"]} := by
    ext place
    constructor
    · rintro ⟨hfile, -, -⟩
      by_contra hne
      simp [tree, FileTree.fileAt?, Ne.symm hne] at hfile
    · rintro rfl
      exact ⟨rfl, ⟨"a.py", rfl, by decide +kernel⟩,
        ⟨"a.py"⟩, by simp [paths], _, [], rfl, rfl, by decide +kernel⟩
  refine ⟨Linter.ofConfig_standard tree, ?_, ?_⟩
  · have htotal : report.summary.totalFiles = (Report.collectFiles tree paths).length :=
      List.length_map _
    rw [htotal, Report.length_collectFiles]
    decide +kernel
  · rw [hsources, Set.ncard_singleton]

end SaltConventions
