import SaltConventions.Proofs.DottedNames
import SaltConventions.Proofs.SearchPaths

/-!
# Origins of modules

What a module comes from is told by rules: relative imports, texts that are no dotted names, the
standard library and the directory of the importing file come first, and of any other module the
longest leading part that can be located decides. On a file tree a part is located under the first
root that holds it in any of five forms.
-/

namespace SaltConventions

/-! ### Forms of a module under a root -/

/-- The forms in which a root can hold a module, best first. -/
inductive ModuleForm where
  | package
  | source
  | sharedObject
  | dynamicLibrary
  | directory
  deriving DecidableEq

namespace ModuleForm

def all : List ModuleForm :=
  [package, source, sharedObject, dynamicLibrary, directory]

def rank : ModuleForm → Nat
  | package => 0
  | source => 1
  | sharedObject => 2
  | dynamicLibrary => 3
  | directory => 4

/-- The path of a module in a form: below the root its components are names of directories, the last
one also that of a file. -/
def place (root : Path) (module : String) (form : ModuleForm) : Path :=
  let base := root.descend (dottedParts module)
  match form with
  | package => base.join ⟨"__init__.py"⟩
  | source => base.withExtension "py"
  | sharedObject => base.withExtension "so"
  | dynamicLibrary => base.withExtension "pyd"
  | directory => base

def isHeld (tree : FileTree) (root : Path) (module : String) (form : ModuleForm) : Bool :=
  match form with
  | directory => tree.isDirectory (form.place root module)
  | _ => tree.isFile (form.place root module)

lemma mem_all (form : ModuleForm) : form ∈ all := by
  cases form <;> decide

lemma pairwise_all : all.Pairwise fun a b => a.rank < b.rank := by
  decide

end ModuleForm

/-- All components of a dotted text are identifiers. -/
def IsNamed (module : String) : Prop :=
  ∀ part ∈ dottedParts module, Text.isIdentifier part.toList = true

lemma isDottedName_iff {module : String} : isDottedName module = true ↔ IsNamed module := by
  simp [isDottedName, IsNamed, dottedParts, Text.splitAt]

lemma IsNamed.of_strips {longer shorter last : String} (hnamed : IsNamed longer)
    (h : Strips longer shorter last) : IsNamed shorter ∧ Text.isIdentifier last.toList = true := by
  rw [IsNamed, h.dottedParts_eq, List.forall_mem_append, List.forall_mem_singleton] at hnamed
  exact hnamed

lemma IsNamed.exists_append {module : String} (h : IsNamed module) :
    ∃ front last, module.toList = front ++ last ∧ Text.isIdentifier last = true := by
  by_cases hdot : '.' ∈ module.toList
  · obtain ⟨shorter, last, hstrip⟩ := exists_strips hdot
    refine ⟨shorter.toList ++ ['.'], last.toList, ?_, (h.of_strips hstrip).2⟩
    rw [hstrip.1]
    simp
  · refine ⟨[], module.toList, rfl, h module ?_⟩
    rw [dottedParts_of_no_dot hdot]
    exact List.mem_singleton_self _

/-! ### Paths of modules -/

/-- Behind the path of a named module a slash has to be put. -/
lemma IsNamed.getLast?_modulePath {module : String} (h : IsNamed module) :
    ∃ c, (modulePath module).text.toList.getLast? = some c ∧ c ≠ '/' := by
  obtain ⟨front, last, htext, hlast⟩ := h.exists_append
  obtain ⟨init, c, rfl⟩ : ∃ init c, last = init ++ [c] := by
    rcases List.eq_nil_or_concat last with rfl | hconcat
    · cases hlast
    · simpa using hconcat
  obtain ⟨hdot, hslash⟩ :=
    Text.ne_of_mem_of_isIdentifier hlast (List.mem_append_right _ List.mem_cons_self)
  exact ⟨c, by simp [modulePath, htext, hdot], hslash⟩

lemma modulePath_of_no_dot {module : String} (h : '.' ∉ module.toList) :
    modulePath module = ⟨module⟩ := by
  have hmap : (module.toList.map fun c => if c = '.' then '/' else c) = module.toList := by
    refine (List.map_congr_left fun c hc => if_neg ?_).trans (List.map_id _)
    exact fun hdot => h (hdot ▸ hc)
  rw [modulePath, hmap, String.ofList_toList]

lemma modulePath_of_strips {longer shorter last : String} (hnamed : IsNamed longer)
    (h : Strips longer shorter last) : modulePath longer = (modulePath shorter).join ⟨last⟩ := by
  obtain ⟨hshorter, hlast⟩ := hnamed.of_strips h
  obtain ⟨c, hend, hslash⟩ := hshorter.getLast?_modulePath
  have hjoined : '/' ∉ last.toList := fun hmem => (Text.ne_of_mem_of_isIdentifier hlast hmem).2 rfl
  have hne : (modulePath shorter).text ≠ "" := by
    intro hempty
    simp [hempty] at hend
  have hno : ¬(modulePath shorter).text.toList.getLast? = some '/' := by simp [hend, hslash]
  have hdots : '.' ∉ last.toList := h.2
  rw [Path.mk.injEq, Path.text_join _ (Path.isAbsolute_of_no_slash hjoined),
    if_neg (by simp [hne, hno]), ← modulePath_of_no_dot hdots]
  rw [h.1, ← String.toList_inj]
  simp [modulePath]

lemma join_modulePath {module : String} (hnamed : IsNamed module) (root : Path) :
    root.join (modulePath module) = root.descend (dottedParts module) := by
  induction module using stripInduction with
  | single module hdot =>
    rw [modulePath_of_no_dot hdot, dottedParts_of_no_dot hdot]
    rfl
  | strip longer shorter last hstrip ih =>
    obtain ⟨hshorter, hlast⟩ := hnamed.of_strips hstrip
    have hslash : '/' ∉ last.toList := fun hmem => (Text.ne_of_mem_of_isIdentifier hlast hmem).2 rfl
    have hrelative := (modulePath_of_isDottedName (isDottedName_iff.mpr hshorter)).1
    rw [modulePath_of_strips hnamed hstrip, ← root.join_assoc hrelative
      (Path.isAbsolute_of_no_slash hslash), ih hshorter, hstrip.dottedParts_eq, Path.descend,
      Path.descend, List.foldl_append]
    rfl

/-! ### Locating a module -/

/-- The place of a module in a form, if the root holds it so. -/
def ModuleForm.heldPlace? (tree : FileTree) (root : Path) (module : String) (form : ModuleForm) :
    Option Path :=
  if form.isHeld tree root module then some (form.place root module) else none

lemma ModuleForm.findSome?_heldPlace? (tree : FileTree) (root : Path) (module : String)
    {forms : List ModuleForm} (h : .directory ∉ forms) :
    forms.findSome? (heldPlace? tree root module) =
      (forms.map (place root module)).find? tree.isFile := by
  induction forms with
  | nil => rfl
  | cons form later ih =>
    rw [List.mem_cons, not_or] at h
    have hfile : form.isHeld tree root module = tree.isFile (form.place root module) := by
      cases form with
      | directory => exact absurd rfl h.1
      | _ => rfl
    rw [List.findSome?_cons, heldPlace?, hfile, List.map_cons, List.find?_cons, ih h.2]
    cases tree.isFile (form.place root module) <;> rfl

lemma locateUnder?_eq_findSome? (tree : FileTree) {module : String} (hnamed : IsNamed module)
    (root : Path) : locateUnder? tree module root =
      ModuleForm.all.findSome? (ModuleForm.heldPlace? tree root module) := by
  have hall : ModuleForm.all =
      [.package, .source, .sharedObject, .dynamicLibrary] ++ [.directory] := rfl
  rw [hall, List.findSome?_append, ModuleForm.findSome?_heldPlace? tree root module (by decide),
    locateUnder?, join_modulePath hnamed root, List.findSome?_singleton]
  rfl

/-- A root holds a module in a form, and in no better one. -/
structure HoldsBest (tree : FileTree) (root : Path) (module : String) (form : ModuleForm) :
    Prop where
  held : form.isHeld tree root module = true
  best : ∀ better : ModuleForm, better.rank < form.rank → better.isHeld tree root module = false

lemma locateUnder?_eq_some_iff {tree : FileTree} {module : String} (hnamed : IsNamed module)
    {root place : Path} : locateUnder? tree module root = some place ↔
      ∃ form, HoldsBest tree root module form ∧ place = form.place root module := by
  rw [locateUnder?_eq_findSome? tree hnamed root,
    findSome?_eq_some_iff_of_pairwise ModuleForm.pairwise_all fun _ _ => Nat.lt_asymm]
  constructor
  · rintro ⟨form, -, hfound, hbetter⟩
    obtain ⟨hheld, hplace⟩ := Option.ite_none_right_eq_some.mp hfound
    refine ⟨form, ⟨hheld, fun better hrank => ?_⟩, (Option.some.inj hplace).symm⟩
    simpa [ModuleForm.heldPlace?] using hbetter better better.mem_all hrank
  · rintro ⟨form, ⟨hheld, hbest⟩, rfl⟩
    refine ⟨form, form.mem_all, by simp [ModuleForm.heldPlace?, hheld], fun better _ hrank => ?_⟩
    simp [ModuleForm.heldPlace?, hbest better hrank]

lemma locateUnder?_eq_none_iff {tree : FileTree} {module : String} (hnamed : IsNamed module)
    {root : Path} : locateUnder? tree module root = none ↔
      ∀ form : ModuleForm, form.isHeld tree root module = false := by
  rw [locateUnder?_eq_findSome? tree hnamed root, List.findSome?_eq_none_iff]
  constructor
  · intro h form
    simpa [ModuleForm.heldPlace?] using h form form.mem_all
  · intro h form _
    simp [ModuleForm.heldPlace?, h form]

lemma toOption_eq_none_iff {ε α : Type} {result : Except ε α} :
    result.toOption = none ↔ ∀ a, result ≠ .ok a := by
  cases result <;> simp [Except.toOption]

lemma toOption_eq_some_iff {ε α : Type} {result : Except ε α} {a : α} :
    result.toOption = some a ↔ result = .ok a := by
  cases result <;> simp [Except.toOption]

/-- A module is located at a place: under the first root that holds it, in the best form. -/
structure LocatedAt (tree : FileTree) (roots : List Path) (module : String) (place : Path) :
    Prop where
  named : IsNamed module
  first : ∃ before root after form, roots = before ++ root :: after ∧
    (∀ earlier ∈ before, ∀ form : ModuleForm, form.isHeld tree earlier module = false) ∧
    HoldsBest tree root module form ∧ place = form.place root module

lemma ofRoots_eq_ok_iff {tree : FileTree} {roots : List Path} {module : String}
    {importer place : Path} :
    Resolver.ofRoots tree roots module importer = .ok place ↔
      LocatedAt tree roots module place := by
  rw [← toOption_eq_some_iff, Resolver.ofRoots, toOption_locateModule]
  by_cases hdotted : isDottedName module = true
  · have hnamed := isDottedName_iff.mp hdotted
    rw [if_pos hdotted, List.findSome?_eq_some_iff]
    simp only [locateUnder?_eq_some_iff hnamed, locateUnder?_eq_none_iff hnamed]
    constructor
    · rintro ⟨before, root, after, hroots, ⟨form, hbest, hplace⟩, hbefore⟩
      exact ⟨hnamed, before, root, after, form, hroots, hbefore, hbest, hplace⟩
    · rintro ⟨-, before, root, after, form, hroots, hbefore, hbest, hplace⟩
      exact ⟨before, root, after, hroots, ⟨form, hbest, hplace⟩, hbefore⟩
  · rw [if_neg hdotted]
    constructor
    · nofun
    · exact fun h => absurd (isDottedName_iff.mpr h.named) hdotted

lemma exists_ofRoots_eq_ok_iff {tree : FileTree} {roots : List Path} {module : String}
    {importer : Path} : (∃ place, Resolver.ofRoots tree roots module importer = .ok place) ↔
      IsNamed module ∧ ∃ root ∈ roots, ∃ form : ModuleForm, form.isHeld tree root module = true := by
  simp only [ofRoots_eq_ok_iff]
  constructor
  · rintro ⟨place, hnamed, before, root, after, form, rfl, -, hbest, -⟩
    exact ⟨hnamed, root, by simp, form, hbest.held⟩
  · rintro ⟨hnamed, root, hroot, form, hheld⟩
    have hsome : (roots.findSome? (locateUnder? tree module)).isSome = true := by
      rw [List.findSome?_isSome_iff]
      refine ⟨root, hroot, Option.isSome_iff_ne_none.mpr fun hnone => ?_⟩
      rw [locateUnder?_eq_none_iff hnamed] at hnone
      rw [hnone form] at hheld
      cases hheld
    obtain ⟨place, hplace⟩ := Option.isSome_iff_exists.mp hsome
    have hok : Resolver.ofRoots tree roots module importer = .ok place := by
      rw [Resolver.ofRoots, locateModule, isDottedName_iff.mpr hnamed, hplace]
      rfl
    exact ⟨place, ofRoots_eq_ok_iff.mp hok⟩

lemma ModuleForm.components_prefix_place {module : String} (hnamed : IsNamed module) (root : Path)
    (form : ModuleForm) : root.components <+: (form.place root module).components := by
  have hjoin : ∀ {p r : Path}, r.isAbsolute = false → p.components <+: (p.join r).components := by
    intro p r hr
    rw [Path.components_join p hr]
    split
    next hnil => simp [hnil]
    next => exact List.prefix_append _ _
  have hrelative := (modulePath_of_isDottedName (isDottedName_iff.mpr hnamed)).1
  have hextension : ∀ extension, root.components <+:
      ((root.join (modulePath module)).withExtension extension).components := by
    intro extension
    rw [root.withExtension_join hrelative]
    exact hjoin ((Path.isAbsolute_withExtension _ _).trans hrelative)
  have hbase := hjoin (p := root) hrelative
  have hinit : Path.isAbsolute ⟨"__init__.py"⟩ = false := rfl
  simp only [ModuleForm.place, ← join_modulePath hnamed root]
  cases form with
  | package => exact hbase.trans (hjoin hinit)
  | directory => exact hbase
  | source => exact hextension "py"
  | sharedObject => exact hextension "so"
  | dynamicLibrary => exact hextension "pyd"

/-! ### The longest part that can be located -/

/-- A leading part of a module is located at a place, and no longer one is located anywhere. -/
structure LocatedLongest (env : Environment) (module : String) (file : Path) (part : String)
    (place : Path) : Prop where
  leading : dottedParts part <+: dottedParts module
  located : env.resolver part file = .ok place
  longest : ∀ longer place', dottedParts longer <+: dottedParts module →
    part.length < longer.length → env.resolver longer file ≠ .ok place'

namespace Environment

lemma longestPlace?_eq_some_iff {env : Environment} {module : String} {file place : Path} :
    env.longestPlace? module file = some place ↔
      ∃ part, LocatedLongest env module file part place := by
  rw [longestPlace?, findSome?_eq_some_iff_of_pairwise (pairwise_candidates module)
    fun _ _ => Nat.lt_asymm]
  simp only [mem_candidates, toOption_eq_some_iff, toOption_eq_none_iff]
  constructor
  · rintro ⟨part, hleading, hlocated, hlonger⟩
    exact ⟨part, hleading, hlocated, fun longer place' hlong hlength =>
      hlonger longer hlong hlength place'⟩
  · rintro ⟨part, hleading, hlocated, hlonger⟩
    exact ⟨part, hleading, hlocated, fun longer hlong hlength place' =>
      hlonger longer place' hlong hlength⟩

lemma longestPlace?_eq_none_iff {env : Environment} {module : String} {file : Path} :
    env.longestPlace? module file = none ↔ ∀ part place, dottedParts part <+: dottedParts module →
      env.resolver part file ≠ .ok place := by
  rw [longestPlace?, List.findSome?_eq_none_iff]
  simp only [mem_candidates, toOption_eq_none_iff]
  exact ⟨fun h part place hpart => h part hpart place, fun h part hpart place => h part place hpart⟩

end Environment

/-! ### Origins -/

/-- A module or package of this name is next to a file. -/
def HasSibling (tree : FileTree) (top : String) (file : Path) : Prop :=
  ∃ directory, file.parent? = some directory ∧
    (tree.isFile ((directory.join ⟨top⟩).withExtension "py") = true ∨
      tree.isFile ((directory.join ⟨top⟩).join ⟨"__init__.py"⟩) = true)

/-- A named module that neither the standard library nor the directory of the file has. -/
structure IsForeign (env : Environment) (module : String) (file : Path) : Prop where
  named : IsNamed module
  library : ∀ top, (dottedParts module).head? = some top → top ∉ env.library.names
  sibling : ∀ top, (dottedParts module).head? = some top → ¬HasSibling env.tree top file

/-- Where a module comes from that a file imports with so many leading dots. -/
inductive ComesFrom (env : Environment) (module : String) (file : Path) : Nat → ModuleOrigin → Prop
  | relative (level : Nat) : ComesFrom env module file (level + 1) .projectLocal
  | unnamed (h : ¬IsNamed module) : ComesFrom env module file 0 .unresolved
  | library (hnamed : IsNamed module) {top : String} (htop : (dottedParts module).head? = some top)
      (h : top ∈ env.library.names) : ComesFrom env module file 0 .standardLibrary
  | sibling (hnamed : IsNamed module) {top : String} (htop : (dottedParts module).head? = some top)
      (hlibrary : top ∉ env.library.names) (h : HasSibling env.tree top file) :
      ComesFrom env module file 0 .projectLocal
  | inside (hforeign : IsForeign env module file) {part : String} {place : Path}
      (hlongest : LocatedLongest env module file part place)
      (h : env.cwd.components <+: place.components) : ComesFrom env module file 0 .projectLocal
  | outside (hforeign : IsForeign env module file) {part : String} {place : Path}
      (hlongest : LocatedLongest env module file part place)
      (h : ¬env.cwd.components <+: place.components) : ComesFrom env module file 0 .thirdParty
  | nowhere (hforeign : IsForeign env module file)
      (h : ∀ part place, dottedParts part <+: dottedParts module →
        env.resolver part file ≠ .ok place) : ComesFrom env module file 0 .thirdParty

lemma head?_dottedParts (module : String) :
    (dottedParts module).head? = some (topLevel module) := by
  rw [dottedParts, Text.splitAt, List.head?_map, Text.head?_pieces]
  rfl

lemma not_named_iff {module : String} : ¬IsNamed module ↔ isDottedName module = false := by
  rw [← isDottedName_iff, Bool.not_eq_true]

namespace Environment

lemma isSibling_iff {env : Environment} {top : String} {file : Path} :
    env.isSibling top file = true ↔ HasSibling env.tree top file := by
  unfold isSibling HasSibling
  cases file.parent? with
  | none => simp
  | some directory => simp

lemma contains_library_iff {env : Environment} {top : String} :
    env.library.contains top = true ↔ top ∈ env.library.names :=
  List.contains_iff_mem

lemma isForeign_iff {env : Environment} {module : String} {file : Path} :
    IsForeign env module file ↔ isDottedName module = true ∧
      env.library.contains (topLevel module) = false ∧
      env.isSibling (topLevel module) file = false := by
  rw [isDottedName_iff, ← Bool.not_eq_true, ← Bool.not_eq_true, contains_library_iff, isSibling_iff]
  constructor
  · rintro ⟨hnamed, hlibrary, hsibling⟩
    exact ⟨hnamed, hlibrary _ (head?_dottedParts module), hsibling _ (head?_dottedParts module)⟩
  · rintro ⟨hnamed, hlibrary, hsibling⟩
    refine ⟨hnamed, fun top htop => ?_, fun top htop => ?_⟩ <;>
      rw [head?_dottedParts, Option.some.injEq] at htop <;> subst htop
    · exact hlibrary
    · exact hsibling

lemma classify_of_isForeign {env : Environment} {module : String} {file : Path}
    (h : IsForeign env module file) :
    env.classify module 0 file = originAt env.cwd (env.longestPlace? module file) := by
  obtain ⟨hdotted, hlibrary, hsibling⟩ := isForeign_iff.mp h
  exact classify_of_outside hdotted hlibrary hsibling

lemma startsWith_iff {place cwd : Path} :
    place.startsWith cwd = true ↔ cwd.components <+: place.components :=
  List.isPrefixOf_iff_prefix

lemma classify_of_comesFrom {env : Environment} {module : String} {file : Path} {level : Nat}
    {origin : ModuleOrigin} (h : ComesFrom env module file level origin) :
    env.classify module level file = origin := by
  cases h with
  | relative level => exact if_pos (Nat.succ_pos level)
  | unnamed hnamed => simp [classify, not_named_iff.mp hnamed]
  | library hnamed htop hlibrary =>
    rw [head?_dottedParts, Option.some.injEq] at htop
    subst htop
    simp [classify, isDottedName_iff.mpr hnamed, contains_library_iff.mpr hlibrary]
  | sibling hnamed htop hlibrary hsibling =>
    rw [head?_dottedParts, Option.some.injEq] at htop
    subst htop
    rw [← contains_library_iff, Bool.not_eq_true] at hlibrary
    simp [classify, isDottedName_iff.mpr hnamed, hlibrary, isSibling_iff.mpr hsibling]
  | inside hforeign hlongest hinside =>
    rw [classify_of_isForeign hforeign, longestPlace?_eq_some_iff.mpr ⟨_, hlongest⟩]
    exact if_pos (startsWith_iff.mpr hinside)
  | outside hforeign hlongest hinside =>
    rw [classify_of_isForeign hforeign, longestPlace?_eq_some_iff.mpr ⟨_, hlongest⟩]
    exact if_neg (mt startsWith_iff.mp hinside)
  | nowhere hforeign hnone =>
    rw [classify_of_isForeign hforeign, longestPlace?_eq_none_iff.mpr hnone]
    rfl

lemma exists_comesFrom (env : Environment) (module : String) (file : Path) (level : Nat) :
    ∃ origin, ComesFrom env module file level origin := by
  cases level with
  | succ level => exact ⟨_, .relative level⟩
  | zero =>
    by_cases hnamed : IsNamed module
    case neg => exact ⟨_, .unnamed hnamed⟩
    by_cases hlibrary : topLevel module ∈ env.library.names
    · exact ⟨_, .library hnamed (head?_dottedParts module) hlibrary⟩
    by_cases hsibling : HasSibling env.tree (topLevel module) file
    · exact ⟨_, .sibling hnamed (head?_dottedParts module) hlibrary hsibling⟩
    have hforeign : IsForeign env module file := by
      rw [isForeign_iff, isDottedName_iff, ← Bool.not_eq_true, ← Bool.not_eq_true,
        contains_library_iff, isSibling_iff]
      exact ⟨hnamed, hlibrary, hsibling⟩
    cases hplace : env.longestPlace? module file with
    | none => exact ⟨_, .nowhere hforeign (longestPlace?_eq_none_iff.mp hplace)⟩
    | some place =>
      obtain ⟨part, hlongest⟩ := longestPlace?_eq_some_iff.mp hplace
      by_cases hinside : env.cwd.components <+: place.components
      · exact ⟨_, .inside hforeign hlongest hinside⟩
      · exact ⟨_, .outside hforeign hlongest hinside⟩

/-- The longest leading part that can be located decides where a module comes from, unless the
level, the spelling, the standard library or the directory of the file does. -/
theorem classify_by_longest_located_part (env : Environment) (module : String) (file : Path) :
    (∀ level origin, env.classify module level file = origin ↔
      ComesFrom env module file level origin) ∧
    (∀ found, StripSearch (fun part => (env.resolver part file).toOption) module found ↔
      found = env.longestPlace? module file) ∧
    ∀ tree roots importer,
      ((∃ place, Resolver.ofRoots tree roots module importer = .ok place) ↔
        IsNamed module ∧ ∃ root ∈ roots, ∃ form : ModuleForm,
          form.isHeld tree root module = true) ∧
      ∀ place, Resolver.ofRoots tree roots module importer = .ok place →
        ∃ before root after form, roots = before ++ root :: after ∧
          (∀ earlier ∈ before, ∀ form : ModuleForm, form.isHeld tree earlier module = false) ∧
          HoldsBest tree root module form ∧ place = form.place root module ∧
          root.components <+: place.components := by
  refine ⟨fun level origin => ⟨?_, classify_of_comesFrom⟩, fun found => ?_,
    fun tree roots importer => ⟨exists_ofRoots_eq_ok_iff, fun place hplace => ?_⟩⟩
  · rintro rfl
    obtain ⟨origin, hrule⟩ := env.exists_comesFrom module file level
    rwa [classify_of_comesFrom hrule]
  · constructor
    · exact StripSearch.eq_findSome?
    · rintro rfl
      exact stripSearch_findSome? module
  · obtain ⟨hnamed, before, root, after, form, hroots, hbefore, hbest, rfl⟩ :=
      ofRoots_eq_ok_iff.mp hplace
    exact ⟨before, root, after, form, hroots, hbefore, hbest, rfl,
      form.components_prefix_place hnamed root⟩

end Environment

end SaltConventions
