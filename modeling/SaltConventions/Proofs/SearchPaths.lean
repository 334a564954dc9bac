import SaltConventions.Proofs.Rearranged
import SaltConventions.Proofs.WorkingDirectory

/-!
# Spellings of the search paths

A search path may be written behind the name of the working directory or without it. What is found
under it is the same, as far as the longer spelling can be looked up, but a place that is found
under a relative search path is itself a relative path and does not start with the working
directory. So its modules count as those of a third party, and writing the search path in full makes
them part of the project. Nothing else depends on the spelling.
-/

namespace SaltConventions

/-! ### Places of a module under a root -/

namespace Path

lemma join_assoc (p : Path) {q r : Path} (hq : q.isAbsolute = false) (hr : r.isAbsolute = false) :
    (p.join q).join r = p.join (q.join r) := by
  have hqr : (q.join r).isAbsolute = false := (isAbsolute_join q hr).trans hq
  rw [Path.mk.injEq]
  rw [text_join _ hr, text_join p hq, text_join p hqr, text_join q hr]
  by_cases hp : p.text = "" ∨ p.text.toList.getLast? = some '/' <;> by_cases hempty : q.text = ""
  · simp [hp, hempty]
  · by_cases hslash : q.text.toList.getLast? = some '/' <;>
      simp [hp, hempty, hslash, String.append_assoc]
  · simp [hp, hempty]
  · -- The path that was joined last ends the text.
    have hlast : ('/' :: q.text.toList).getLast? = q.text.toList.getLast? := by
      obtain ⟨c, cs, hcs⟩ :=
        List.exists_cons_of_ne_nil fun hnil => hempty (String.toList_eq_nil_iff.mp hnil)
      rw [hcs, List.getLast?_cons_cons]
    by_cases hslash : q.text.toList.getLast? = some '/' <;>
      simp [hp, hempty, hlast, hslash, String.append_assoc]

end Path

lemma moduleFiles_join (cwd : Path) {base : Path} (h : base.isAbsolute = false) :
    moduleFiles (cwd.join base) = (moduleFiles base).map cwd.join := by
  have hinit : Path.isAbsolute ⟨"__init__.py"⟩ = false := rfl
  simp [moduleFiles, cwd.join_assoc h hinit, cwd.withExtension_join h]

lemma isAbsolute_of_mem_moduleFiles {base place : Path} (h : base.isAbsolute = false)
    (hplace : place ∈ moduleFiles base) : place.isAbsolute = false := by
  have hinit : Path.isAbsolute ⟨"__init__.py"⟩ = false := rfl
  simp only [moduleFiles, List.mem_cons, List.not_mem_nil, or_false] at hplace
  rcases hplace with rfl | rfl | rfl | rfl
  · rw [base.isAbsolute_join hinit, h]
  all_goals rw [base.isAbsolute_withExtension, h]

lemma ne_empty_of_mem_moduleFiles {base place : Path} (h : place ∈ moduleFiles base) :
    place.text ≠ "" := by
  have hinit : Path.isAbsolute ⟨"__init__.py"⟩ = false := rfl
  simp only [moduleFiles, List.mem_cons, List.not_mem_nil, or_false] at h
  rcases h with rfl | rfl | rfl | rfl
  · exact base.join_ne_empty hinit (by simp)
  all_goals simp [Path.withExtension]

lemma modulePath_of_isDottedName {module : String} (h : isDottedName module = true) :
    (modulePath module).isAbsolute = false ∧ (modulePath module).text ≠ "" := by
  have htop := Environment.no_slash_topLevel h
  have hfirst : Text.isIdentifier (module.toList.takeWhile (· != '.')) = true :=
    List.all_eq_true.mp h _ (List.mem_of_head? (Text.head?_pieces _ _))
  cases hm : module.toList with
  | nil =>
    rw [hm] at hfirst
    cases hfirst
  | cons c cs =>
    have hdot : c ≠ '.' := by
      rintro rfl
      rw [hm] at hfirst
      cases hfirst
    have hslash : c ≠ '/' := by
      rintro rfl
      simp [topLevel, hm] at htop
    constructor
    · simp [modulePath, hm, Path.isAbsolute, hdot, hslash]
    · rw [ne_eq, ← String.toList_eq_nil_iff]
      simp [modulePath, hm]

variable {tree : FileTree} {cwd : Path}

lemma isAbsolute_of_locateUnder? {module : String} (hm : isDottedName module = true)
    {root place : Path} (hroot : root.isAbsolute = false)
    (h : locateUnder? tree module root = some place) : place.isAbsolute = false := by
  have hbase : (root.join (modulePath module)).isAbsolute = false :=
    (root.isAbsolute_join (modulePath_of_isDottedName hm).1).trans hroot
  simp only [locateUnder?, Option.or_eq_some_iff] at h
  rcases h with hfile | ⟨-, hdirectory⟩
  · exact isAbsolute_of_mem_moduleFiles hbase (List.mem_of_find?_eq_some hfile)
  · obtain ⟨-, hplace⟩ := Option.ite_none_right_eq_some.mp hdirectory
    rw [← Option.some.inj hplace, hbase]

lemma locateUnder?_join_eq_none (hcwd : tree.WorksIn cwd) {module : String}
    (hm : isDottedName module = true) {root : Path} (hroot : root.isAbsolute = false)
    (h : locateUnder? tree module root = none) :
    locateUnder? tree module (cwd.join root) = none := by
  obtain ⟨hmodule, hne⟩ := modulePath_of_isDottedName hm
  have hbase : (root.join (modulePath module)).isAbsolute = false :=
    (root.isAbsolute_join hmodule).trans hroot
  simp only [locateUnder?, Option.or_eq_none_iff, cwd.join_assoc hroot hmodule,
    moduleFiles_join cwd hbase] at h ⊢
  obtain ⟨hfiles, hdirectory⟩ := h
  refine ⟨?_, ?_⟩
  · rw [List.find?_eq_none] at hfiles ⊢
    intro place hplace hfile
    obtain ⟨short, hshort, rfl⟩ := List.mem_map.mp hplace
    exact hfiles short hshort (FileTree.isFile_iff.mpr (FileTree.exists_locate_of_join hcwd
      (isAbsolute_of_mem_moduleFiles hbase hshort) (ne_empty_of_mem_moduleFiles hshort)
      (FileTree.isFile_iff.mp hfile)))
  · rw [ite_eq_right_iff] at hdirectory ⊢
    intro hlong
    have hshort := FileTree.exists_locate_of_join hcwd hbase (root.join_ne_empty hmodule hne)
      (FileTree.isDirectory_iff.mp hlong)
    cases hdirectory (FileTree.isDirectory_iff.mpr hshort)

/-! ### Other spellings of the roots -/

/-- A path as it stands, or a relative one written behind the working directory. -/
def Path.Respelled (cwd p q : Path) : Prop :=
  q = p ∨ p.isAbsolute = false ∧ q = cwd.join p

/-- The same is found, unless it was a relative path that was found. -/
def SameUnlessRelative (found found' : Option Path) : Prop :=
  (∀ place, found = some place → place.isAbsolute = true) → found' = found

lemma locateUnder?_respelled (hcwd : tree.WorksIn cwd) {module : String}
    (hm : isDottedName module = true) {root root' : Path} (h : Path.Respelled cwd root root') :
    SameUnlessRelative (locateUnder? tree module root) (locateUnder? tree module root') := by
  rcases h with rfl | ⟨hroot, rfl⟩
  · exact fun _ => rfl
  · intro habs
    cases hfound : locateUnder? tree module root with
    | none => exact locateUnder?_join_eq_none hcwd hm hroot hfound
    | some place =>
      have hrel := isAbsolute_of_locateUnder? hm hroot hfound
      rw [habs place hfound] at hrel
      cases hrel

/-- The first that is found is the same, if none of them finds a relative path where the other finds
something else. -/
lemma SameUnlessRelative.findSome? {α β : Type} {f : α → Option Path} {g : β → Option Path}
    {as : List α} {bs : List β}
    (h : List.Forall₂ (fun a b => SameUnlessRelative (f a) (g b)) as bs) :
    SameUnlessRelative (as.findSome? f) (bs.findSome? g) := by
  induction h with
  | nil => exact fun _ => rfl
  | @cons a b as bs hab _ ih =>
    intro habs
    cases ha : f a with
    | none =>
      have hb : g b = none := (hab (by simp [ha])).trans ha
      rw [List.findSome?_cons, ha] at habs
      rw [List.findSome?_cons, List.findSome?_cons, ha, hb]
      exact ih habs
    | some place =>
      rw [List.findSome?_cons, ha] at habs
      have hb : g b = some place := (hab (by rw [ha]; exact habs)).trans ha
      rw [List.findSome?_cons, List.findSome?_cons, ha, hb]

lemma toOption_locateModule (tree : FileTree) (roots : List Path) (module : String) :
    (locateModule tree roots module).toOption =
      if isDottedName module then roots.findSome? (locateUnder? tree module) else none := by
  unfold locateModule
  by_cases hm : isDottedName module = true
  · cases hfound : roots.findSome? (locateUnder? tree module) <;> simp [hm, Except.toOption]
  · simp [hm, Except.toOption]

lemma locateModule_respelled (hcwd : tree.WorksIn cwd) {roots roots' : List Path}
    (h : List.Forall₂ (Path.Respelled cwd) roots roots') (module : String) :
    SameUnlessRelative (locateModule tree roots module).toOption
      (locateModule tree roots' module).toOption := by
  rw [toOption_locateModule, toOption_locateModule]
  by_cases hm : isDottedName module = true
  · rw [if_pos hm, if_pos hm]
    exact .findSome? (h.imp fun _ _ => locateUnder?_respelled hcwd hm)
  · rw [if_neg hm, if_neg hm]
    exact fun _ => rfl

namespace Environment

def withRoots (env : Environment) (roots : List Path) : Environment :=
  { env with resolver := .ofRoots env.tree roots }

@[simp]
lemma library_withRoots (env : Environment) (roots : List Path) :
    (env.withRoots roots).library = env.library := rfl

@[simp]
lemma isSibling_withRoots (env : Environment) (roots : List Path) (top : String) (file : Path) :
    (env.withRoots roots).isSibling top file = env.isSibling top file := rfl

lemma longestPlace?_respelled (env : Environment) (hcwd : env.tree.WorksIn env.cwd)
    {roots roots' : List Path} (h : List.Forall₂ (Path.Respelled env.cwd) roots roots')
    (module : String) (file : Path) :
    SameUnlessRelative ((env.withRoots roots).longestPlace? module file)
      ((env.withRoots roots').longestPlace? module file) :=
  .findSome? (List.forall₂_same.mpr fun candidate _ => locateModule_respelled hcwd h candidate)

lemma startsWith_of_relative {place : Path} (hcwd : cwd.isAbsolute = true)
    (hplace : place.isAbsolute = false) : place.startsWith cwd = false := by
  rw [← Bool.not_eq_true, Path.startsWith, List.isPrefixOf_iff_prefix]
  intro hfirst
  have hroot := Path.isAbsolute_iff.mpr (hfirst.subset (Path.isAbsolute_iff.mp hcwd))
  rw [hplace] at hroot
  cases hroot

/-- The origin of a module that neither the standard library nor the directory of the file holds, by
the place where it is found. -/
def originAt (cwd : Path) (found : Option Path) : ModuleOrigin :=
  match found with
  | some place => if place.startsWith cwd then .projectLocal else .thirdParty
  | none => .thirdParty

lemma classify_of_outside {env : Environment} {module : String} {file : Path}
    (hdotted : isDottedName module = true)
    (hlibrary : env.library.contains (topLevel module) = false)
    (hsibling : env.isSibling (topLevel module) file = false) :
    env.classify module 0 file = originAt env.cwd (env.longestPlace? module file) := by
  simp only [classify, hdotted, hlibrary, hsibling, Nat.lt_irrefl, Bool.not_true,
    Bool.false_eq_true, ↓reduceIte]
  rfl

lemma classify_withRoots_cases (env : Environment) (module : String) (level : Nat) (file : Path) :
    (∃ origin, ∀ roots, (env.withRoots roots).classify module level file = origin) ∨
      ∀ roots, (env.withRoots roots).classify module level file =
        originAt env.cwd ((env.withRoots roots).longestPlace? module file) := by
  by_cases hlevel : 0 < level
  · exact .inl ⟨.projectLocal, fun _ => if_pos hlevel⟩
  by_cases hdotted : isDottedName module = true
  case neg => exact .inl ⟨.unresolved, fun _ => by simp [classify, hlevel, hdotted]⟩
  by_cases hlibrary : env.library.contains (topLevel module) = true
  · exact .inl ⟨.standardLibrary, fun _ => by simp [classify, hlevel, hdotted, hlibrary]⟩
  by_cases hsibling : env.isSibling (topLevel module) file = true
  · exact .inl ⟨.projectLocal, fun _ => by simp [classify, hlevel, hdotted, hlibrary, hsibling]⟩
  · obtain rfl := Nat.eq_zero_of_not_pos hlevel
    rw [Bool.not_eq_true] at hlibrary hsibling
    exact .inr fun _ => classify_of_outside hdotted hlibrary hsibling

/-- Other spellings of the roots change the origin of a module only from a third party to the
project, and only if it was found at a relative path. -/
theorem classify_withRoots (env : Environment) (hcwd : env.tree.WorksIn env.cwd)
    {roots roots' : List Path} (h : List.Forall₂ (Path.Respelled env.cwd) roots roots')
    (module : String) (level : Nat) (file : Path) :
    (env.withRoots roots').classify module level file =
        (env.withRoots roots).classify module level file ∨
      (env.withRoots roots).classify module level file = .thirdParty ∧
        (env.withRoots roots').classify module level file = .projectLocal ∧
        ∃ place, (env.withRoots roots).longestPlace? module file = some place ∧
          place.isAbsolute = false := by
  rcases env.classify_withRoots_cases module level file with ⟨origin, horigin⟩ | horigin
  · exact .inl ((horigin roots').trans (horigin roots).symm)
  rw [horigin, horigin]
  by_cases hfound : ∃ place, (env.withRoots roots).longestPlace? module file = some place ∧
      place.isAbsolute = false
  · obtain ⟨place, hplace, hrelative⟩ := hfound
    have hthird : originAt env.cwd (some place) = .thirdParty := by
      rw [originAt, startsWith_of_relative hcwd.absolute hrelative, if_neg Bool.false_ne_true]
    rw [hplace, hthird]
    cases horigin' : originAt env.cwd ((env.withRoots roots').longestPlace? module file) with
    | thirdParty => exact .inl rfl
    | projectLocal => exact .inr ⟨rfl, rfl, place, rfl, hrelative⟩
    | _ =>
      unfold originAt at horigin'
      grind
  · left
    rw [env.longestPlace?_respelled hcwd h module file]
    intro place hplace
    simpa using fun hrelative => hfound ⟨place, hplace, hrelative⟩

lemma classify_of_startsWith {env : Environment} {module : String} {file place : Path}
    (hdotted : isDottedName module = true)
    (hlibrary : env.library.contains (topLevel module) = false)
    (hplace : env.longestPlace? module file = some place)
    (hstarts : place.startsWith env.cwd = true) (level : Nat) :
    env.classify module level file = .projectLocal := by
  simp [classify, hdotted, hlibrary, hplace, hstarts]

end Environment

def Config.searching (config : Config) (paths : List Path) : Config :=
  { config with modules := { config.modules with searchPaths := paths } }

/-- Writing relative search paths behind the working directory changes the origin of a module only
from a third party to the project. -/
theorem classify_of_respelled_searchPaths {config : Config} {tree : FileTree} {cwd : Path}
    (hcwd : tree.WorksIn cwd) {env : Environment}
    (henv : Environment.ofConfig config tree cwd = .ok env) {paths : List Path}
    (hpaths : List.Forall₂ (Path.Respelled cwd) config.modules.searchPaths paths) :
    ∃ env', Environment.ofConfig (config.searching paths) tree cwd = .ok env' ∧
      ∀ module level file,
        (env'.classify module level file = env.classify module level file ∨
          env.classify module level file = .thirdParty ∧
            env'.classify module level file = .projectLocal ∧
            ∃ place, env.longestPlace? module file = some place ∧ place.isAbsolute = false) ∧
        ∀ place location, env.longestPlace? module file = some place →
          tree.locate place = .ok location → tree.cwd <+: location →
          place.isAbsolute = true → .up ∉ place.components → .up ∉ cwd.components →
          isDottedName module = true → env.library.contains (topLevel module) = false →
          env.classify module level file = .projectLocal ∧
            env'.classify module level file = .projectLocal := by
  obtain ⟨library, hlibrary, rfl⟩ := Environment.ofConfig_eq_ok_iff.mp henv
  refine ⟨_, Environment.ofConfig_eq_ok_iff.mpr ⟨library, hlibrary, rfl⟩, ?_⟩
  intro module level file
  let env : Environment := ⟨tree, cwd, library, .ofRoots tree (cwd :: config.modules.searchPaths)⟩
  have hroots : List.Forall₂ (Path.Respelled cwd) (cwd :: config.modules.searchPaths)
      (cwd :: paths) := .cons (.inl rfl) hpaths
  have hchange := env.classify_withRoots hcwd hroots module level file
  refine ⟨hchange, ?_⟩
  intro place location hplace hlocate hbelow habs hup hcwdup hdotted houtside
  have hstarts := FileTree.startsWith_of_locate hcwd hcwdup habs hup hlocate hbelow
  have hlocal := Environment.classify_of_startsWith hdotted houtside hplace hstarts level
  refine ⟨hlocal, ?_⟩
  rcases hchange with hsame | ⟨hthird, -, -⟩
  · exact hsame.trans hlocal
  · cases hlocal.symm.trans hthird

lemma StandardLibrary.contains_ofNames_eq_false {names : List String} {name : String}
    (h : name ∉ names ++ builtinModules) : (ofNames names).contains name = false := by
  rw [← Bool.not_eq_true, contains, List.contains_iff_mem, ofNames, List.mem_eraseDups]
  exact fun hmem => h (List.mem_filter.mp hmem).1

/-- A working directory with two directories that hold modules. -/
def FileTree.ofVendored : FileTree :=
  ⟨["project"], [(["project", "vendor", "foo.py"], .file .empty none),
    (["project", "lib", "bar", "baz.py"], .file .empty none)]⟩

lemma FileTree.worksIn_ofVendored : ofVendored.WorksIn ⟨"/project"⟩ := ⟨rfl, rfl⟩

def Environment.ofVendored (paths : List Path) : Environment :=
  ⟨.ofVendored, ⟨"/project"⟩, .usual, .ofRoots .ofVendored (⟨"/project"⟩ :: paths)⟩

lemma Environment.ofConfig_searching (paths : List Path) :
    ofConfig (Config.standard.searching paths) .ofVendored ⟨"/project"⟩ =
      .ok (ofVendored paths) := rfl

theorem classify_of_respelled_vendor :
    let config := Config.standard.searching [⟨"vendor"⟩, ⟨"/project/lib"⟩]
    let config' := Config.standard.searching [⟨"/project/vendor"⟩, ⟨"/project/lib"⟩]
    ∃ env env', Environment.ofConfig config .ofVendored ⟨"/project"⟩ = .ok env ∧
      Environment.ofConfig config' .ofVendored ⟨"/project"⟩ = .ok env' ∧
      env.classify "bar.baz" 0 ⟨"m.py"⟩ = .projectLocal ∧
      env'.classify "bar.baz" 0 ⟨"m.py"⟩ = .projectLocal := by
  intro config config'
  have henv := Environment.ofConfig_searching [⟨"vendor"⟩, ⟨"/project/lib"⟩]
  have hpaths : List.Forall₂ (Path.Respelled ⟨"/project"⟩) config.modules.searchPaths
      [⟨"/project/vendor"⟩, ⟨"/project/lib"⟩] :=
    .cons (.inr ⟨rfl, rfl⟩) (.cons (.inl rfl) .nil)
  obtain ⟨env', henv', horigin⟩ :=
    classify_of_respelled_searchPaths FileTree.worksIn_ofVendored henv hpaths
  have hplace : (Environment.ofVendored [⟨"vendor"⟩, ⟨"/project/lib"⟩]).longestPlace? "bar.baz"
      ⟨"m.py"⟩ = some ⟨"/project/lib/bar/baz.py"⟩ := by decide +kernel
  have hlibrary : StandardLibrary.usual.contains (topLevel "bar.baz") = false :=
    StandardLibrary.contains_ofNames_eq_false (by decide +kernel)
  refine ⟨_, env', henv, henv', ?_⟩
  exact (horigin "bar.baz" 0 ⟨"m.py"⟩).2 _ ["project", "lib", "bar", "baz.py"] hplace rfl
    (by decide) rfl (by decide) (by decide) (by decide +kernel) hlibrary

/-- Only under a search path that is written in full is a module part of the project. -/
theorem classify_not_same_of_relative_searchPath :
    ∃ env env', FileTree.ofVendored.WorksIn ⟨"/project"⟩ ∧
      Environment.ofConfig (Config.standard.searching [⟨"vendor"⟩]) .ofVendored ⟨"/project"⟩ =
        .ok env ∧
      Environment.ofConfig (Config.standard.searching [Path.join ⟨"/project"⟩ ⟨"vendor"⟩])
        .ofVendored ⟨"/project"⟩ = .ok env' ∧
      env.classify "foo" 0 ⟨"m.py"⟩ = .thirdParty ∧
      env'.classify "foo" 0 ⟨"m.py"⟩ = .projectLocal := by
  have hdotted : isDottedName "foo" = true := by decide +kernel
  have hlibrary : StandardLibrary.usual.contains (topLevel "foo") = false :=
    StandardLibrary.contains_ofNames_eq_false (by decide +kernel)
  have hsibling : ∀ paths,
      (Environment.ofVendored paths).isSibling (topLevel "foo") ⟨"m.py"⟩ = false := by
    intro paths
    have hroots : Environment.ofVendored paths =
        (Environment.ofVendored []).withRoots (⟨"/project"⟩ :: paths) := rfl
    rw [hroots, Environment.isSibling_withRoots]
    decide +kernel
  have horigin : ∀ paths, (Environment.ofVendored paths).classify "foo" 0 ⟨"m.py"⟩ =
      Environment.originAt ⟨"/project"⟩
        ((Environment.ofVendored paths).longestPlace? "foo" ⟨"m.py"⟩) :=
    fun paths => Environment.classify_of_outside hdotted hlibrary (hsibling paths)
  refine ⟨_, _, FileTree.worksIn_ofVendored, Environment.ofConfig_searching _,
    Environment.ofConfig_searching _, ?_, ?_⟩
  all_goals
    rw [horigin]
    decide +kernel

end SaltConventions
