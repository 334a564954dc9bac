import SaltConventions.Proofs.Enumeration
import SaltConventions.Proofs.GatedImports
import SaltConventions.Proofs.WorkingDirectory

/-!
# Spellings of the checked file

A file may be checked under a relative path or under the same path written behind the working
directory. Its name, the path that is seen from the working directory, its permission bits and the
modules next to it are the same, and so are its findings. The one thing that can tell the two apart
is the limit on what can be looked up, since the longer spelling may be over it.
-/

namespace SaltConventions

/-! ### Modules that are asked about -/

lemma Occurrence.imported_of_shownBy {o : Occurrence} {e : Event} (h : o.ShownBy e) :
    e.node.imported = o.importSites.map fun site => (site.module, site.level) := by
  have hshows := h.shows
  obtain ⟨address, holders, part⟩ := o
  obtain ⟨phase, node, scope⟩ := e
  cases hshows with
  | importNames | importFrom => simp [Node.imported, Occurrence.importSites]
  | _ => rfl

lemma Event.mem_asked {event : Event} {module : String} {level : Nat}
    (h : (module, level) ∈ event.asked) :
    event.phase = .enter ∧ event.node.kind ∈ [NodeKind.importNames, .importFrom] ∧
      (module, level) ∈ event.node.imported := by
  obtain ⟨phase, node, scope⟩ := event
  cases phase with
  | leave => cases h
  | enter =>
    refine ⟨rfl, ?_, h⟩
    cases node with
    | importNames | importFrom => simp [Node.kind]
    | _ => cases h

lemma exists_site_of_asked {body : List Stmt} {module : String} {level : Nat}
    (h : (module, level) ∈ (eventsOfModule body).flatMap Event.asked) :
    ∃ site ∈ importSitesOf body, site.module = module ∧ site.level = level := by
  obtain ⟨event, hevent, hasked⟩ := List.mem_flatMap.mp h
  obtain ⟨henter, hkind, himported⟩ := Event.mem_asked hasked
  have hentered : event ∈ enteredOf [.importNames, .importFrom] (eventsOfModule body) :=
    List.mem_filter.mpr ⟨List.mem_filter.mpr ⟨hevent, by simp [henter]⟩,
      List.contains_iff_mem.mpr hkind⟩
  have hstatements := shown_statements picks_isImport (by decide) body
  obtain ⟨o, ho, hshown⟩ := exists_of_forall₂ hstatements hentered
  rw [Occurrence.imported_of_shownBy hshown] at himported
  obtain ⟨site, hsite, heq⟩ := List.mem_map.mp himported
  obtain ⟨rfl, rfl⟩ := Prod.mk.inj heq
  exact ⟨site, List.mem_flatMap.mpr ⟨o, ho, hsite⟩, rfl, rfl⟩

/-! ### Look-ups next to a file -/

namespace Environment

/-- The paths under which a top-level module is looked up next to a file. -/
def placesBeside (top : String) (file : Path) : List Path :=
  match file.parent? with
  | none => []
  | some directory =>
    [(directory.join ⟨top⟩).withExtension "py", (directory.join ⟨top⟩).join ⟨"__init__.py"⟩]

lemma isSibling_eq_any (env : Environment) (top : String) (file : Path) :
    env.isSibling top file = (placesBeside top file).any env.tree.isFile := by
  unfold isSibling placesBeside
  cases file.parent? <;> simp

/-- Whether an imported module is looked up next to the importing file: no dots stand before it, and
the standard library does not have it. -/
def isSoughtBeside (env : Environment) (site : ImportSite) : Bool :=
  site.level == 0 && isDottedName site.module && !env.library.contains (topLevel site.module)

/-- The limit does not tell two spellings of a file apart: both fit or neither does, and likewise
for every path next to the file under which a module is looked up. -/
structure FitAlike (env : Environment) (body : List Stmt) (p q : Path) : Prop where
  file : FileTree.fits q = FileTree.fits p
  beside : ∀ site ∈ importSitesOf body, env.isSoughtBeside site = true →
    (placesBeside (topLevel site.module) q).map FileTree.fits =
      (placesBeside (topLevel site.module) p).map FileTree.fits

/-- Two spellings of a file give a module the same origin, if it stands next to the file under both
or neither, or is not looked up there. -/
lemma classify_of_isSibling {env : Environment} {p q : Path} {site : ImportSite}
    (hresolver : ∀ module, env.resolver module p = env.resolver module q)
    (hsibling : env.isSoughtBeside site = true →
      env.isSibling (topLevel site.module) p = env.isSibling (topLevel site.module) q) :
    env.classify site.module site.level p = env.classify site.module site.level q := by
  unfold classify longestPlace?
  simp only [hresolver]
  by_cases hsought : env.isSoughtBeside site = true
  · rw [hsibling hsought]
  · have hsettled : 0 < site.level ∨ isDottedName site.module = false ∨
        env.library.contains (topLevel site.module) = true := by
      simp only [isSoughtBeside, Bool.and_eq_true, beq_iff_eq, Bool.not_eq_true'] at hsought
      grind
    rcases hsettled with hlevel | hdotted | hlibrary
    · rw [if_pos hlevel, if_pos hlevel]
    · simp only [hdotted, Bool.not_false, ↓reduceIte]
    · simp only [hlibrary, ↓reduceIte]

end Environment

/-! ### A file behind the working directory -/

variable {tree : FileTree} {cwd p q : Path}

lemma Environment.twins_beside (h : Path.Behind cwd p q) (hp : p.steps ≠ []) {top : String}
    (htop : '/' ∉ top.toList) :
    List.Forall₂ (Path.Twin cwd) (placesBeside top p) (placesBeside top q) := by
  obtain ⟨d, e, hd, he, hde⟩ := h.parent hp
  have habs := Path.isAbsolute_of_no_slash htop
  have hinit : Path.isAbsolute ⟨"__init__.py"⟩ = false := rfl
  have hsource : Path.isAbsolute (Path.withExtension ⟨top⟩ "py") = false := by
    rw [Path.isAbsolute_withExtension, habs]
  unfold placesBeside
  rw [hd, he]
  simp only [d.withExtension_join habs, e.withExtension_join habs]
  exact .cons (hde.twin_join hsource (by simp [Path.withExtension]))
    (.cons ((hde.join habs).twin_join hinit (by simp)) .nil)

namespace FileTree

variable (hcwd : tree.WorksIn cwd)
include hcwd

lemma isFile_of_twin (h : Path.Twin cwd p q) (hfits : fits q = fits p) :
    tree.isFile q = tree.isFile p := by
  rw [isFile, isFile, locate_of_twin hcwd h hfits]

lemma any_isFile_of_twins {ps qs : List Path} (h : List.Forall₂ (Path.Twin cwd) ps qs)
    (hfits : qs.map fits = ps.map fits) : qs.any tree.isFile = ps.any tree.isFile := by
  induction h with
  | nil => rfl
  | cons htwin _ ih =>
    obtain ⟨hfirst, hlater⟩ := List.cons.inj hfits
    rw [List.any_cons, List.any_cons, isFile_of_twin hcwd htwin hfirst, ih hlater]

end FileTree

namespace Environment

lemma isSibling_of_twin {env : Environment} (hcwd : env.tree.WorksIn cwd) (h : Path.Twin cwd p q)
    (hp : p.steps ≠ []) {body : List Stmt} (hfit : env.FitAlike body p q) {site : ImportSite}
    (hsite : site ∈ importSitesOf body) (hsought : env.isSoughtBeside site = true) :
    env.isSibling (topLevel site.module) q = env.isSibling (topLevel site.module) p := by
  have hdotted : isDottedName site.module = true := by
    simp only [isSoughtBeside, Bool.and_eq_true] at hsought
    exact hsought.1.2
  have htwins := twins_beside h.toBehind hp (no_slash_topLevel hdotted)
  rw [isSibling_eq_any, isSibling_eq_any]
  exact FileTree.any_isFile_of_twins hcwd htwins (hfit.beside site hsite hsought)

end Environment

/-- Rules see the same of a file under a path behind the working directory. -/
theorem FileContext.sameView_of_twin {env : Environment} (hcwd : env.tree.WorksIn env.cwd)
    (hresolver : ∀ module p q, env.resolver module p = env.resolver module q)
    (h : Path.Twin env.cwd p q) (hp : p.steps ≠ []) {body : List Stmt}
    (hfit : env.FitAlike body p q) (source : String) (hasBom : Bool) :
    (FileContext.ofSource p source hasBom env).SameView ((eventsOfModule body).flatMap Event.asked)
      (.ofSource q source hasBom env) := by
  have hrelative := h.relativeTo hcwd.absolute
  refine sameView_ofSource (h.fileName? hp).symm hrelative.symm ?_ ?_ source hasBom
  · rw [FileTree.mode?, FileTree.mode?, FileTree.locate_of_twin hcwd h hfit.file]
  · intro module level hasked
    obtain ⟨site, hsite, rfl, rfl⟩ := exists_site_of_asked hasked
    refine Environment.classify_of_isSibling (fun module => hresolver module p q) fun hsought => ?_
    exact (Environment.isSibling_of_twin hcwd h hp hfit hsite hsought).symm

/-- A relative path and the same path behind the working directory show rules the same file, unless
the limit tells the two spellings apart. -/
theorem lintSource_behind_cwd {config : Config} {linter : Linter}
    (hlinter : Linter.ofConfig config tree cwd = .ok linter) (hcwd : tree.WorksIn cwd)
    (hp : p.isAbsolute = false) {name : String} (hname : .name name ∈ p.components)
    {parse : Parser} {source : String}
    (hfit : ∀ body, parse (Linter.stripBom source).1 = some body →
      linter.env.FitAlike body p (cwd.join p)) :
    (linter.lintSource parse (cwd.join p) source).toOption =
        (linter.lintSource parse p source).toOption.map
          (List.map (Diagnostic.inFile (cwd.join p))) ∧
      (cwd.join p).isTestModule = p.isTestModule ∧
      (cwd.join p).isPackageInit = p.isPackageInit ∧
      (cwd.join p).relativeTo cwd = p.relativeTo cwd ∧
      ∀ body, parse (Linter.stripBom source).1 = some body →
        tree.mode? (cwd.join p) = tree.mode? p ∧
        ∀ site ∈ importSitesOf body, linter.env.isSoughtBeside site = true →
          linter.env.isSibling (topLevel site.module) (cwd.join p) =
            linter.env.isSibling (topLevel site.module) p := by
  obtain ⟨env, rules, henv, hrules, rfl⟩ := Linter.ofConfig_eq_ok_iff.mp hlinter
  obtain ⟨library, -, rfl⟩ := Environment.ofConfig_eq_ok_iff.mp henv
  have hstep : .name name ∈ p.steps := by
    rw [Path.steps_eq_filter]
    exact List.mem_filter.mpr ⟨hname, rfl⟩
  have hsteps : p.steps ≠ [] := List.ne_nil_of_mem hstep
  have hne : p.text ≠ "" := by
    intro hempty
    rw [Path.components_eq_nil_iff.mpr hempty] at hname
    cases hname
  have htwin := Path.twin_join hcwd.absolute hp hne
  refine ⟨?_, ?_, ?_, htwin.relativeTo hcwd.absolute, ?_⟩
  · have hsees := seesView_of_buildRules hrules
    refine Linter.lintSource_of_sameView rfl rfl hsees fun body hbody => ?_
    exact FileContext.sameView_of_twin hcwd (fun _ _ _ => rfl) htwin hsteps (hfit body hbody) _ _
  · simp only [Path.isTestModule, Path.nameMatches, htwin.fileName? hsteps]
  · simp only [Path.isPackageInit, Path.nameMatches, htwin.fileName? hsteps]
  · intro body hbody
    refine ⟨?_, fun site hsite hsought => ?_⟩
    · rw [FileTree.mode?, FileTree.mode?, FileTree.locate_of_twin hcwd htwin (hfit body hbody).file]
    · exact Environment.isSibling_of_twin hcwd htwin hsteps (hfit body hbody) hsite hsought

/-- A working directory with a source file that only its owner can read, and a module next to it. -/
def FileTree.ofPrivateFile : FileTree :=
  ⟨["project"], [(["project", "a", "m.py"], .file .empty (some 0o600)),
    (["project", "a", "helper.py"], .file .empty none)]⟩

lemma FileTree.worksIn_ofPrivateFile : ofPrivateFile.WorksIn ⟨"/project"⟩ := ⟨rfl, rfl⟩

/-- A comment that declares the encoding of a module. -/
def encodingLine : String := "# -*- coding: utf-8 -*-\n"

theorem lintSource_behind_project :
    let linter := Linter.ofTree .ofPrivateFile
    let parse : Parser := fun _ => some [.importNames ⟨24, 37⟩ [⟨"helper", none⟩]]
    (linter.lintSource parse ⟨"/project/a/m.py"⟩ encodingLine).toOption =
        (linter.lintSource parse ⟨"a/m.py"⟩ encodingLine).toOption.map
          (List.map (Diagnostic.inFile ⟨"/project/a/m.py"⟩)) ∧
      FileTree.ofPrivateFile.mode? ⟨"/project/a/m.py"⟩ = some 0o600 ∧
      linter.env.isSibling "helper" ⟨"/project/a/m.py"⟩ = true := by
  intro linter parse
  have hfit : ∀ body, parse (Linter.stripBom encodingLine).1 = some body →
      linter.env.FitAlike body ⟨"a/m.py"⟩ (Path.join ⟨"/project"⟩ ⟨"a/m.py"⟩) := by
    rintro body hbody
    obtain rfl := Option.some.inj hbody
    have hbeside : ∀ site ∈ importSitesOf [.importNames ⟨24, 37⟩ [⟨"helper", none⟩]],
        (Environment.placesBeside (topLevel site.module) ⟨"/project/a/m.py"⟩).map FileTree.fits =
          (Environment.placesBeside (topLevel site.module) ⟨"a/m.py"⟩).map FileTree.fits := by
      decide +kernel
    exact ⟨by decide +kernel, fun site hsite _ => hbeside site hsite⟩
  have hname : .name "m.py" ∈ Path.components ⟨"a/m.py"⟩ := by decide
  obtain ⟨hsame, -⟩ := lintSource_behind_cwd (Linter.ofConfig_standard .ofPrivateFile)
    FileTree.worksIn_ofPrivateFile rfl hname hfit
  exact ⟨hsame, by decide +kernel, by decide +kernel⟩

/-! ### Spellings on both sides of the limit -/

lemma map_length_inFile (file : Path) (reported : Option (List Diagnostic)) :
    (reported.map (List.map (Diagnostic.inFile file))).map List.length =
      reported.map List.length := by
  cases reported <;> simp

lemma Linter.length_lintSource_congr {tree other : FileTree} {p q : Path}
    (hpq : p.components = q.components) (hmode : tree.mode? p = other.mode? q) (source : String) :
    ((ofTree other).lintSource (fun _ => some []) q source).toOption.map List.length =
      ((ofTree tree).lintSource (fun _ => some []) p source).toOption.map List.length := by
  have hsees : ∀ rule ∈ (ofTree tree).rules, rule.SeesView :=
    seesView_of_buildRules buildRules_standard
  have hsame : ((ofTree other).lintSource (fun _ => some []) q source).toOption =
      ((ofTree tree).lintSource (fun _ => some []) p source).toOption.map
        (List.map (Diagnostic.inFile q)) := by
    have hconfig : (ofTree tree).config = (ofTree other).config := rfl
    refine lintSource_of_sameView hconfig rfl hsees fun body hbody => ?_
    obtain rfl := Option.some.inj hbody
    have hnone : (eventsOfModule []).flatMap Event.asked = [] := rfl
    refine FileContext.sameView_ofSource ?_ ?_ hmode (by simp [hnone]) _ _
    · rw [Path.fileName?, Path.fileName?, hpq]
    · unfold Path.relativeTo Path.startsWith
      rw [Path.isAbsolute_congr hpq, hpq]
      rfl
  rw [hsame, map_length_inFile]

/-- A path within the limit that is over it behind the working directory: the permission bits are
found to be wrong under the shorter spelling only. -/
lemma Linter.lintSource_over_limit {p : Path}
    (hcomponents : p.components = [.name "a", .name "m.py"]) (hnul : p.hasNul = false)
    (hends : p.endsIdle = false) (hsize : p.text.utf8ByteSize = 4095) :
    ((ofTree .ofPrivateFile).lintSource (fun _ => some []) p
        encodingLine).toOption.map List.length = some 1 ∧
      ((ofTree .ofPrivateFile).lintSource (fun _ => some []) (Path.join ⟨"/project"⟩ p)
        encodingLine).toOption.map List.length = some 0 := by
  have hp : p.isAbsolute = false := by
    rw [← Bool.not_eq_true, Path.isAbsolute_iff, hcomponents]
    decide
  constructor
  · have hshort : p.components = Path.components ⟨"a/m.py"⟩ := by
      rw [hcomponents]
      decide
    have hlocate : FileTree.ofPrivateFile.locate p = FileTree.ofPrivateFile.locate ⟨"a/m.py"⟩ := by
      refine FileTree.locate_congr _ hshort hnul hends ?_
      simp only [FileTree.fits, hsize]
      decide
    have hmode : FileTree.ofPrivateFile.mode? ⟨"a/m.py"⟩ = FileTree.ofPrivateFile.mode? p := by
      rw [FileTree.mode?, FileTree.mode?, hlocate]
    rw [length_lintSource_congr hshort.symm hmode]
    decide +kernel
  · have hlong : (Path.join ⟨"/project"⟩ p).components = Path.components ⟨"/project/a/m.py"⟩ := by
      rw [Path.components_join _ hp, Path.steps_eq_filter, hcomponents]
      decide
    have hfits : FileTree.fits (Path.join ⟨"/project"⟩ p) = false := by
      have hproject : "/project".utf8ByteSize = 8 ∧ "/".utf8ByteSize = 1 := by decide
      rw [FileTree.fits, Path.text_join _ hp, if_neg (by decide), String.utf8ByteSize_append,
        String.utf8ByteSize_append, hsize, hproject.1, hproject.2]
      rfl
    obtain ⟨cause, hcause⟩ := FileTree.ofPrivateFile.locate_of_not_fits hfits
    -- Permission bits that cannot be had are those of a file that does not exist.
    have hmode : FileTree.mode? ⟨["project"], []⟩ ⟨"/project/a/m.py"⟩ =
        FileTree.ofPrivateFile.mode? (Path.join ⟨"/project"⟩ p) := by
      simp only [FileTree.mode?, hcause]
      rfl
    rw [length_lintSource_congr hlong.symm hmode]
    decide +kernel

/-- Under the longest path within the limit the permission bits of a file are found to be wrong, and
behind the working directory they are not. -/
theorem lintSource_not_same_over_limit :
    let linter := Linter.ofTree .ofPrivateFile
    let parse : Parser := fun _ => some []
    ∃ p : Path, Linter.ofConfig .standard .ofPrivateFile ⟨"/project"⟩ = .ok linter ∧
      FileTree.ofPrivateFile.WorksIn ⟨"/project"⟩ ∧ p = (Path.slashed 4090).join ⟨"m.py"⟩ ∧
      p.components = [.name "a", .name "m.py"] ∧
      (linter.lintSource parse (Path.join ⟨"/project"⟩ p) encodingLine).toOption ≠
        (linter.lintSource parse p encodingLine).toOption.map
          (List.map (Diagnostic.inFile (Path.join ⟨"/project"⟩ p))) := by
  intro linter parse
  -- The text of `p` has 4095 characters and is not to be computed.
  obtain ⟨p, hp⟩ : ∃ p, p = (Path.slashed 4090).join ⟨"m.py"⟩ := ⟨_, rfl⟩
  have hsize : p.text.utf8ByteSize = 4095 := by
    rw [hp, Path.text_join_slashed 4089 rfl, String.utf8ByteSize_append, Path.utf8ByteSize_slashed]
    rfl
  have hcomponents : p.components = [.name "a", .name "m.py"] := by
    rw [hp, Path.components_join _ rfl, Path.components_slashed]
    decide
  have hnul : p.hasNul = false := by
    rw [hp, Path.hasNul_join _ rfl, Path.hasNul_slashed]
    rfl
  have hends : p.endsIdle = false := by
    rw [hp, Path.endsIdle_join _ rfl]
    rfl
  refine ⟨p, Linter.ofConfig_standard _, FileTree.worksIn_ofPrivateFile, hp, hcomponents, ?_⟩
  intro hsame
  obtain ⟨hone, hnone⟩ := Linter.lintSource_over_limit hcomponents hnul hends hsize
  have hlength := congrArg (Option.map List.length) hsame
  rw [map_length_inFile] at hlength
  exact absurd (hnone.symm.trans (hlength.trans hone)) (by decide)

end SaltConventions
