import SaltConventions.Proofs.Siblings

/-!
# Rearranged trees

The order in which a tree lists its entries is the order in which directories are read. No look-up
depends on it. What is found under a root, the standard library in a directory and the linter of a
configuration are the same but for the order of what they list.
-/

namespace SaltConventions

namespace FileTree

/-- Trees with the same entries, listed in one order or another. -/
structure Rearranged (tree other : FileTree) : Prop where
  cwd : tree.cwd = other.cwd
  entries : tree.entries.Perm other.entries

lemma fileAt?_eq_some_iff {tree : FileTree} (hw : tree.WellFormed) {location : Location}
    {contents : ByteArray} {mode : Option Nat} :
    tree.fileAt? location = some (contents, mode) ↔
      (location, .file contents mode) ∈ tree.entries := by
  have hlisted : ∀ {found : ByteArray × Option Nat}, tree.fileAt? location = some found →
      (location, .file found.1 found.2) ∈ tree.entries := by
    intro found h
    obtain ⟨⟨there, entry⟩, hmem, hfound⟩ := List.exists_of_findSome?_eq_some h
    cases entry with
    | directory mode => cases hfound
    | file contents mode =>
      obtain ⟨hthere, hsome⟩ := Option.ite_none_right_eq_some.mp hfound
      rw [← Option.some.inj hsome, ← hthere]
      exact hmem
  refine ⟨hlisted, fun h => ?_⟩
  obtain ⟨found, hfound⟩ := Option.isSome_iff_exists.mp (isSome_fileAt? h)
  have hsame := List.inj_on_of_nodup_map hw.distinct (hlisted hfound) h rfl
  obtain ⟨rfl, rfl⟩ : found.1 = contents ∧ found.2 = mode := by simpa using hsame
  exact hfound

lemma entryAt?_eq_some_iff {tree : FileTree} (hw : tree.WellFormed) {location : Location}
    {entry : Entry} : tree.entryAt? location = some entry ↔ (location, entry) ∈ tree.entries := by
  have hplace : ∀ {listed : Location × Entry},
      tree.entries.find? (·.1 == location) = some listed → listed.1 = location :=
    fun hfound => by simpa using List.find?_some hfound
  rw [entryAt?, Option.map_eq_some_iff]
  constructor
  · rintro ⟨listed, hfound, rfl⟩
    rw [← hplace hfound]
    exact List.mem_of_find?_eq_some hfound
  · intro h
    have hsome : (tree.entries.find? (·.1 == location)).isSome = true :=
      List.find?_isSome.mpr ⟨_, h, by simp⟩
    obtain ⟨listed, hfound⟩ := Option.isSome_iff_exists.mp hsome
    have hsame := List.inj_on_of_nodup_map hw.distinct (List.mem_of_find?_eq_some hfound) h
      (hplace hfound)
    exact ⟨listed, hfound, congrArg Prod.snd hsame⟩

namespace Rearranged

variable {tree other : FileTree} (h : tree.Rearranged other)
include h

lemma wellFormed (hw : tree.WellFormed) : other.WellFormed where
  names listed hlisted := hw.names listed (h.entries.mem_iff.mpr hlisted)
  distinct := (h.entries.map _).nodup_iff.mp hw.distinct

variable (hw : tree.WellFormed)
include hw

lemma fileAt? (location : Location) : tree.fileAt? location = other.fileAt? location := by
  apply Option.ext
  rintro ⟨contents, mode⟩
  rw [fileAt?_eq_some_iff hw, fileAt?_eq_some_iff (h.wellFormed hw), h.entries.mem_iff]

omit hw in
lemma isDirectoryAt (location : Location) :
    tree.isDirectoryAt location = other.isDirectoryAt location := by
  unfold FileTree.isDirectoryAt
  rw [h.cwd, h.entries.any_eq]

lemma follow (here : Location) (segments : List String) :
    tree.follow here segments = other.follow here segments := by
  induction segments generalizing here with
  | nil => rfl
  | cons segment later ih =>
    rw [FileTree.follow, FileTree.follow]
    simp only [h.isDirectoryAt, h.fileAt? hw, ih]

/-- No look-up depends on the order of the entries. -/
theorem locate (p : Path) : tree.locate p = other.locate p := by
  unfold FileTree.locate
  rw [h.cwd]
  simp only [h.follow hw]

lemma isFile (p : Path) : tree.isFile p = other.isFile p := by
  unfold FileTree.isFile
  simp only [h.locate hw, h.fileAt? hw]

lemma isDirectory (p : Path) : tree.isDirectory p = other.isDirectory p := by
  unfold FileTree.isDirectory
  simp only [h.locate hw, h.fileAt? hw]

lemma entryAt? (location : Location) : tree.entryAt? location = other.entryAt? location := by
  apply Option.ext
  intro entry
  rw [entryAt?_eq_some_iff hw, entryAt?_eq_some_iff (h.wellFormed hw), h.entries.mem_iff]

lemma mode? (p : Path) : tree.mode? p = other.mode? p := by
  unfold FileTree.mode? directoryModeAt
  simp only [h.locate hw, h.fileAt? hw, h.entryAt? hw]

lemma read (p : Path) : tree.read p = other.read p := by
  unfold FileTree.read
  simp only [h.locate hw, h.fileAt? hw]

lemma mem_filesUnder {root p : Path} : p ∈ tree.filesUnder root ↔ p ∈ other.filesUnder root := by
  rw [mem_filesUnder_iff, mem_filesUnder_iff]
  simp only [h.locate hw, h.fileAt? hw, h.entries.mem_iff]

omit hw in
lemma mem_children {directory : Location} {name : String} :
    name ∈ tree.children directory ↔ name ∈ other.children directory := by
  unfold children
  simp only [List.mem_eraseDups, List.mem_filterMap, List.mem_cons, List.mem_map, h.cwd,
    h.entries.mem_iff]

end Rearranged

end FileTree

/-! ### The standard library -/

namespace StandardLibrary

lemma contains_ofNames_congr {names names' : List String} (h : ∀ name, name ∈ names ↔ name ∈ names')
    (name : String) : (ofNames names).contains name = (ofNames names').contains name := by
  rw [Bool.eq_iff_iff]
  simp only [contains, ofNames, List.contains_iff_mem, List.mem_eraseDups, List.mem_filter,
    List.mem_append, h]

variable {tree other : FileTree} (h : tree.Rearranged other) (hw : tree.WellFormed)
include h hw

lemma modulesAt_of_rearranged {path : Path} {found : List String}
    (hfound : modulesAt tree path = .ok found) :
    ∃ found', modulesAt other path = .ok found' ∧ ∀ name, name ∈ found ↔ name ∈ found' := by
  have hheld : moduleHeldBy? tree path = moduleHeldBy? other path := by
    funext name
    unfold moduleHeldBy?
    simp only [h.isDirectory hw, h.isFile hw]
  unfold modulesAt at hfound ⊢
  rw [h.locate hw, hheld] at hfound
  cases hlocate : other.locate path with
  | error cause => simp [hlocate] at hfound
  | ok directory =>
    rw [hlocate] at hfound
    obtain rfl := Except.ok.inj hfound
    refine ⟨_, rfl, fun name => ?_⟩
    simp only [List.mem_filterMap, h.mem_children]

theorem discover_of_rearranged {directory : Path} {library : StandardLibrary}
    (hlibrary : discover tree directory = .ok library) :
    ∃ library', discover other directory = .ok library' ∧
      ∀ name, library.contains name = library'.contains name := by
  unfold discover at hlibrary ⊢
  dsimp only [bind, Except.bind] at hlibrary ⊢
  rw [← h.isFile hw, ← h.isDirectory hw]
  split at hlibrary
  next => cases hlibrary
  next hanchor =>
    rw [if_neg hanchor]
    cases hfound : modulesAt tree directory with
    | error cause => simp [hfound] at hlibrary
    | ok found =>
      obtain ⟨found', hfound', hmem⟩ := modulesAt_of_rearranged h hw hfound
      simp only [hfound, hfound'] at hlibrary ⊢
      by_cases hcompiled : tree.isDirectory (directory.join ⟨"lib-dynload"⟩) = true
      · simp only [hcompiled, ↓reduceIte] at hlibrary ⊢
        cases hmore : modulesAt tree (directory.join ⟨"lib-dynload"⟩) with
        | error cause => simp [hmore] at hlibrary
        | ok more =>
          obtain ⟨more', hmore', hmem'⟩ := modulesAt_of_rearranged h hw hmore
          simp only [hmore, hmore'] at hlibrary ⊢
          obtain rfl := Except.ok.inj hlibrary
          exact ⟨_, rfl, contains_ofNames_congr (by simp [hmem, hmem'])⟩
      · simp only [hcompiled, Bool.false_eq_true, ↓reduceIte] at hlibrary ⊢
        obtain rfl := Except.ok.inj hlibrary
        exact ⟨_, rfl, contains_ofNames_congr (by simp [hmem])⟩

end StandardLibrary

/-! ### The environment -/

namespace Environment

lemma ofConfig_eq_ok_iff {config : Config} {tree : FileTree} {cwd : Path} {env : Environment} :
    ofConfig config tree cwd = .ok env ↔
      ∃ library,
        (match config.modules.stdlibDir with
          | some directory => StandardLibrary.discover tree directory
          | none => .ok .usual) = .ok library ∧
        env = ⟨tree, cwd, library, .ofRoots tree (cwd :: config.modules.searchPaths)⟩ := by
  unfold ofConfig
  dsimp only [bind, Except.bind, pure, Except.pure]
  cases config.modules.stdlibDir with
  | none => simp [eq_comm]
  | some directory =>
    dsimp only
    cases StandardLibrary.discover tree directory with
    | error cause => simp
    | ok library => simp [eq_comm]

/-- Environments of one configuration on rearranged trees answer alike. -/
structure Alike (env other : Environment) : Prop where
  tree : env.tree.Rearranged other.tree
  cwd : env.cwd = other.cwd
  library : ∀ name, env.library.contains name = other.library.contains name
  resolver : ∀ module p q, env.resolver module p = other.resolver module q

end Environment

lemma Resolver.ofRoots_of_rearranged {tree other : FileTree} (h : tree.Rearranged other)
    (hw : tree.WellFormed) (roots : List Path) : ofRoots tree roots = ofRoots other roots := by
  have hunder : locateUnder? tree = locateUnder? other := by
    funext module root
    unfold locateUnder?
    simp only [h.isDirectory hw, funext fun p => h.isFile hw p]
  funext module importer
  unfold ofRoots locateModule
  rw [hunder]

theorem Environment.exists_alike {config : Config} {tree other : FileTree} {cwd : Path}
    {env : Environment} (h : tree.Rearranged other) (hw : tree.WellFormed)
    (henv : ofConfig config tree cwd = .ok env) :
    ∃ env', ofConfig config other cwd = .ok env' ∧ env.Alike env' := by
  obtain ⟨library, hlibrary, rfl⟩ := ofConfig_eq_ok_iff.mp henv
  have hresolver := Resolver.ofRoots_of_rearranged h hw (cwd :: config.modules.searchPaths)
  have hother : ∃ library',
      (match config.modules.stdlibDir with
        | some directory => StandardLibrary.discover other directory
        | none => .ok .usual) = .ok library' ∧
      ∀ name, library.contains name = library'.contains name := by
    cases hdir : config.modules.stdlibDir with
    | none =>
      rw [hdir] at hlibrary
      obtain rfl := Except.ok.inj hlibrary
      exact ⟨_, rfl, fun _ => rfl⟩
    | some directory =>
      rw [hdir] at hlibrary
      exact StandardLibrary.discover_of_rearranged h hw hlibrary
  obtain ⟨library', hlibrary', hcontains⟩ := hother
  refine ⟨_, ofConfig_eq_ok_iff.mpr ⟨library', hlibrary', rfl⟩, h, rfl, hcontains, ?_⟩
  intro module p q
  exact congrFun (congrFun hresolver module) p

end SaltConventions
