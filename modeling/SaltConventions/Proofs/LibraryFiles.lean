import SaltConventions.Proofs.Listings

/-!
# Files of the standard library

The library in a directory is made of what is found in the directory and in the one for compiled
modules. What is found is told by the names of the entries. A compiled module is known by the last
letters of the name, so that a file counts as one also if its last extension only ends in these
letters. Nothing depends on the order of the entries.
-/

namespace SaltConventions

/-! ### Names of module files -/

namespace StandardLibrary

/-- The last extensions of compiled modules. -/
def compiledExtensions : List String :=
  ["so", "pyd"]

/-- A file of this name holds the module: its source, or a compiled form, with tags before the last
extension or without. -/
inductive IsFileOf (module : String) : String → Prop where
  | source : IsFileOf module (module ++ ".py")
  | compiled {extension : String} (h : extension ∈ compiledExtensions) :
      IsFileOf module (module ++ "." ++ extension)
  | tagged (tags : String) {extension : String} (h : extension ∈ compiledExtensions) :
      IsFileOf module (module ++ "." ++ tags ++ "." ++ extension)

/-- A name that ends in the letters of a compiled module, but with another character than the dot in
front of them. -/
inductive IsMisread (module : String) : String → Prop where
  | intro (front : String) {c : Char} (hc : c ≠ '.') {letters : String}
      (h : letters ∈ compiledExtensions) :
      IsMisread module (module ++ "." ++ front ++ String.singleton c ++ letters)

lemma dot_not_mem {module : String} (h : Text.isIdentifier module.toList = true) :
    '.' ∉ module.toList :=
  fun hmem => (Text.ne_of_mem_of_isIdentifier h hmem).1 rfl

lemma endsWith_iff {ending cs : List Char} :
    Text.endsWith ending cs = true ↔ ∃ front, cs = front ++ ending := by
  rw [Text.endsWith, Option.isSome_iff_exists]
  simp only [Text.stripPrefix?_eq_some_iff]
  constructor
  · rintro ⟨rest, hrest⟩
    exact ⟨rest.reverse, by simpa using congrArg List.reverse hrest⟩
  · rintro ⟨front, rfl⟩
    exact ⟨front.reverse, List.reverse_append⟩

lemma moduleStem?_eq_some_iff_append {fileName module : String} (hdot : '.' ∉ module.toList) :
    moduleStem? fileName = some module ↔
      ∃ rest, fileName.toList = module.toList ++ '.' :: rest ∧
        (rest = "py".toList ∨ ∃ front, ∃ extension ∈ compiledExtensions,
          rest = front ++ extension.toList) := by
  have hextension : ∀ rest : List Char,
      (rest = ['p', 'y'] ∨ Text.endsWith ['s', 'o'] rest = true ∨
        Text.endsWith ['p', 'y', 'd'] rest = true) ↔
      (rest = "py".toList ∨ ∃ front, ∃ extension ∈ compiledExtensions,
        rest = front ++ extension.toList) := by
    intro rest
    simp [endsWith_iff, compiledExtensions, exists_or]
  simp only [← hextension]
  unfold moduleStem?
  constructor
  · intro h
    have hcut := List.takeWhile_append_dropWhile (p := (· != '.')) (l := fileName.toList)
    split at h
    next => cases h
    next c rest hrest =>
      obtain ⟨hkind, hstem⟩ := Option.ite_none_right_eq_some.mp h
      have hc : c = '.' := by
        have hhead := Text.head?_dropWhile (· != '.') fileName.toList c (by rw [hrest]; rfl)
        simpa using hhead
      refine ⟨rest, ?_, hkind⟩
      rw [← hcut, hrest, hc, ← Option.some.inj hstem, String.toList_ofList]
  · rintro ⟨rest, hname, hkind⟩
    rw [hname, Text.dropWhile_append_mark hdot, Text.takeWhile_append_mark hdot]
    dsimp only
    rw [if_pos hkind, String.ofList_toList]

/-- The module of a file is read off its name, or misread. -/
lemma moduleStem?_eq_some_iff {fileName module : String} (hdot : '.' ∉ module.toList) :
    moduleStem? fileName = some module ↔ IsFileOf module fileName ∨ IsMisread module fileName := by
  rw [moduleStem?_eq_some_iff_append hdot]
  constructor
  · rintro ⟨rest, hname, rfl | ⟨front, extension, hextension, rfl⟩⟩
    · left
      have htext : fileName = module ++ ".py" := by
        rw [← String.toList_inj, hname]
        simp
      rw [htext]
      exact .source
    · rcases List.eq_nil_or_concat front with rfl | ⟨front, c, rfl⟩
      · left
        have htext : fileName = module ++ "." ++ extension := by
          rw [← String.toList_inj, hname]
          simp
        rw [htext]
        exact .compiled hextension
      · by_cases hc : c = '.'
        · left
          have htext : fileName = module ++ "." ++ String.ofList front ++ "." ++ extension := by
            rw [← String.toList_inj, hname]
            simp [hc]
          rw [htext]
          exact .tagged _ hextension
        · right
          have htext : fileName =
              module ++ "." ++ String.ofList front ++ String.singleton c ++ extension := by
            rw [← String.toList_inj, hname]
            simp
          rw [htext]
          exact .intro _ hc hextension
  · rintro (hfile | hmisread)
    · cases hfile with
      | source => exact ⟨_, by simp, .inl rfl⟩
      | compiled h => exact ⟨_, by simp, .inr ⟨[], _, h, rfl⟩⟩
      | @tagged tags extension h =>
        exact ⟨tags.toList ++ '.' :: extension.toList, by simp,
          .inr ⟨tags.toList ++ ['.'], _, h, by simp⟩⟩
    · obtain @⟨front, c, hc, letters, h⟩ := hmisread
      exact ⟨front.toList ++ c :: letters.toList, by simp,
        .inr ⟨front.toList ++ [c], _, h, by simp⟩⟩

lemma IsFileOf.exists_isSuffix {module name : String} (h : IsFileOf module name) :
    ∃ ending ∈ [".py", ".so", ".pyd"], ending.toList <:+ name.toList := by
  cases h with
  | source => exact ⟨".py", by simp, by simp⟩
  | @compiled extension h =>
    rcases List.mem_pair.mp h with rfl | rfl
    · exact ⟨".so", by simp, module.toList, by simp⟩
    · exact ⟨".pyd", by simp, module.toList, by simp⟩
  | @tagged tags extension h =>
    rcases List.mem_pair.mp h with rfl | rfl
    · exact ⟨".so", by simp, (module ++ "." ++ tags).toList, by simp⟩
    · exact ⟨".pyd", by simp, (module ++ "." ++ tags).toList, by simp⟩

lemma IsMisread.not_isFileOf {module name : String} (h : IsMisread module name) :
    ¬IsFileOf module name := by
  intro hfile
  obtain ⟨ending, hending, before, hname⟩ := hfile.exists_isSuffix
  obtain @⟨front, c, hc, letters, hletters⟩ := h
  have hreverse := congrArg List.reverse hname
  rcases List.mem_pair.mp hletters with rfl | rfl <;>
    simp only [List.mem_cons, List.not_mem_nil, or_false] at hending <;>
    rcases hending with rfl | rfl | rfl <;>
    simp [hc.symm] at hreverse

/-! ### Modules in a directory -/

open FileTree

/-- A directory holds a module in a file, or in a directory of its name with an initializer. -/
inductive Holds (tree : FileTree) (place : Location) (module : String) : Prop where
  | file {name : String} (hname : IsFileOf module name)
      (h : (tree.fileAt? (place ++ [name])).isSome = true)
  | package (h : (tree.fileAt? (place ++ [module, "__init__.py"])).isSome = true)

/-- A module is found in a directory. Misread names count, and where a path does not fit, a
directory is taken for a file and an initializer is not seen. -/
inductive IsFound (tree : FileTree) (path : Path) (place : Location) (module : String) : Prop where
  | file {name : String} (hname : IsFileOf module name ∨ IsMisread module name)
      (h : (tree.fileAt? (place ++ [name])).isSome = true ∨
        tree.isDirectoryAt (place ++ [name]) = true ∧ fits (path.join ⟨name⟩) = false)
  | package (h : (tree.fileAt? (place ++ [module, "__init__.py"])).isSome = true)
      (hfits : fits ((path.join ⟨module⟩).join ⟨"__init__.py"⟩) = true)

section

variable {tree : FileTree} (hs : tree.Sound) (hcwd : ∀ name ∈ tree.cwd, IsName name)
  {path : Path} {place : Location} (hpath : tree.locate path = .ok place) {module : String}
  (hmodule : Text.isIdentifier module.toList = true)
include hs hcwd hpath hmodule

lemma isFound_of_moduleHeldBy? {name : String} (hname : name ∈ tree.children place)
    (h : moduleHeldBy? tree path name = some module) : IsFound tree path place module := by
  have hproper := isName_of_mem_children hs.toWellFormed hcwd hname
  have hinit : IsName "__init__.py" := by decide
  unfold moduleHeldBy? at h
  dsimp only at h
  split at h
  next hdirectory =>
    obtain ⟨hfile, hsame⟩ := Option.ite_none_right_eq_some.mp h
    obtain rfl := Option.some.inj hsame
    obtain ⟨there, hthere⟩ := exists_locate_of_isDirectory hdirectory
    obtain ⟨rfl, -, -⟩ := locate_join_eq_ok hpath hproper hthere
    obtain ⟨hfits, hinitializer⟩ := (isFile_join_iff hs.toWellFormed hthere hinit).mp hfile
    rw [List.append_assoc] at hinitializer
    exact .package hinitializer hfits
  next hdirectory =>
    obtain ⟨hstem, -⟩ := Option.filter_eq_some_iff.mp h
    refine .file ((moduleStem?_eq_some_iff (dot_not_mem hmodule)).mp hstem) ?_
    refine ((mem_children_iff hs.toWellFormed).mp hname).imp_right fun hat => ⟨hat, ?_⟩
    by_contra hfits
    rw [Bool.not_eq_false] at hfits
    exact hdirectory ((isDirectory_join_iff hs hpath hproper).mpr ⟨hfits, hat⟩)

lemma exists_moduleHeldBy?_of_isFound (h : IsFound tree path place module) :
    ∃ name ∈ tree.children place, moduleHeldBy? tree path name = some module := by
  cases h with
  | @file name hname hat =>
    have hchild : name ∈ tree.children place :=
      (mem_children_iff hs.toWellFormed).mpr (hat.imp_right And.left)
    have hproper := isName_of_mem_children hs.toWellFormed hcwd hchild
    -- Only a name that is not one of a directory is taken apart.
    have hdirectory : tree.isDirectory (path.join ⟨name⟩) ≠ true := by
      rw [Ne, isDirectory_join_iff hs hpath hproper]
      rintro ⟨hfits, hdirectory⟩
      rcases hat with hfile | ⟨-, hlong⟩
      · simp [fileAt?_of_isDirectoryAt hs hdirectory] at hfile
      · simp [hfits] at hlong
    refine ⟨name, hchild, ?_⟩
    unfold moduleHeldBy?
    dsimp only
    rw [if_neg hdirectory, (moduleStem?_eq_some_iff (dot_not_mem hmodule)).mpr hname]
    simp [hmodule]
  | package hinitializer hfits =>
    have hinit : IsName "__init__.py" := by decide
    have hproper := isName_of_file hs.toWellFormed hinitializer module (by simp)
    have hbelow : (tree.fileAt? ((place ++ [module]) ++ ["__init__.py"])).isSome = true := by
      rwa [List.append_assoc]
    have hat := isDirectoryAt_of_file hs.toWellFormed hbelow
    have hshort := fits_of_fits_join (Path.isAbsolute_of_no_slash hinit.no_slash) hfits
    have hdirectory : tree.isDirectory (path.join ⟨module⟩) = true :=
      (isDirectory_join_iff hs hpath hproper).mpr ⟨hshort, hat⟩
    obtain ⟨there, hthere⟩ := exists_locate_of_isDirectory hdirectory
    obtain ⟨rfl, -, -⟩ := locate_join_eq_ok hpath hproper hthere
    refine ⟨module, (mem_children_iff hs.toWellFormed).mpr (.inr hat), ?_⟩
    unfold moduleHeldBy?
    dsimp only
    rw [if_pos hdirectory, if_pos]
    exact (isFile_join_iff hs.toWellFormed hthere hinit).mpr ⟨hfits, hbelow⟩

lemma mem_modules_iff :
    module ∈ (tree.children place).filterMap (moduleHeldBy? tree path) ↔
      IsFound tree path place module := by
  rw [List.mem_filterMap]
  constructor
  · rintro ⟨name, hname, hheld⟩
    exact isFound_of_moduleHeldBy? hs hcwd hpath hmodule hname hheld
  · exact exists_moduleHeldBy?_of_isFound hs hcwd hpath hmodule

end

section

variable {tree : FileTree} {path : Path} {place : Location} {module : String}

lemma isDirectoryAt_of_isFound (hw : tree.WellFormed) (h : IsFound tree path place module) :
    tree.isDirectoryAt place = true := by
  cases h with
  | file _ h =>
    rcases h with hfile | ⟨hdirectory, -⟩
    · exact isDirectoryAt_of_file hw hfile
    · exact isDirectoryAt_of_isPrefix hdirectory (List.prefix_append _ _)
  | package h _ => exact isDirectoryAt_of_file hw h

/-- A module is found in the directory that a path names, or in the one for compiled modules. -/
def Finds (tree : FileTree) (path : Path) (module : String) : Prop :=
  ∃ home ∈ [path, path.join ⟨"lib-dynload"⟩], ∃ place, tree.locate home = .ok place ∧
    IsFound tree home place module

lemma discover_of_no_anchor (h : tree.isFile (path.join ⟨"os.py"⟩) = false) :
    discover tree path = .error (.unreadable (path.join ⟨"os.py"⟩) .noAnchor) := by
  unfold discover
  simp [h]

lemma discover_of_empty (h : tree.isFile (path.join ⟨"os.py"⟩) = true) (hempty : path.text = "") :
    discover tree path = .error (.unreadable path .notFound) := by
  have hlocate : tree.locate path = .error .notFound := by
    rw [locate, hempty]
    rfl
  unfold discover
  simp [h, modulesAt, hlocate, bind, Except.bind]

lemma exists_discover_eq_ok (hs : tree.Sound) (hcwd : ∀ name ∈ tree.cwd, IsName name)
    (h : tree.isFile (path.join ⟨"os.py"⟩) = true) (hne : path.text ≠ "") :
    ∃ found, discover tree path = .ok (ofNames found) ∧
      ∀ name : String, Text.isIdentifier name.toList = true →
        (name ∈ found ↔ Finds tree path name) := by
  obtain ⟨place, hplace⟩ := exists_locate_of_isFile_join (by decide) hne h
  have hfound : modulesAt tree path =
      .ok ((tree.children place).filterMap (moduleHeldBy? tree path)) := by
    rw [modulesAt, hplace]
  unfold discover
  dsimp only [bind, Except.bind]
  rw [h, hfound]
  by_cases hcompiled : tree.isDirectory (path.join ⟨"lib-dynload"⟩) = true
  · obtain ⟨dynamic, hdynamic⟩ := exists_locate_of_isDirectory hcompiled
    have hmore : modulesAt tree (path.join ⟨"lib-dynload"⟩) =
        .ok ((tree.children dynamic).filterMap
          (moduleHeldBy? tree (path.join ⟨"lib-dynload"⟩))) := by
      rw [modulesAt, hdynamic]
    rw [hcompiled, hmore]
    refine ⟨_, rfl, fun name hname => ?_⟩
    rw [List.mem_append, mem_modules_iff hs hcwd hplace hname,
      mem_modules_iff hs hcwd hdynamic hname]
    simp [Finds, hplace, hdynamic]
  · rw [Bool.eq_false_iff.mpr hcompiled]
    refine ⟨_, rfl, fun name hname => ?_⟩
    -- A place where something is found is a directory, and then it would be read.
    have hnone : ¬∃ there, tree.locate (path.join ⟨"lib-dynload"⟩) = .ok there ∧
        IsFound tree (path.join ⟨"lib-dynload"⟩) there name := by
      rintro ⟨there, hthere, hfound⟩
      have hat := isDirectoryAt_of_isFound hs.toWellFormed hfound
      rw [isDirectory, hthere] at hcompiled
      simp [fileAt?_of_isDirectoryAt hs hat] at hcompiled
    rw [List.append_nil, mem_modules_iff hs hcwd hplace hname]
    simp only [Finds, List.mem_cons, List.not_mem_nil, or_false, exists_eq_or_imp, exists_eq_left,
      hnone, hplace, Except.ok.injEq, exists_eq_left']

lemma discover_eq_error_iff (hs : tree.Sound) (hcwd : ∀ name ∈ tree.cwd, IsName name)
    {cause : LintError} :
    discover tree path = .error cause ↔
      tree.isFile (path.join ⟨"os.py"⟩) = false ∧
        cause = .unreadable (path.join ⟨"os.py"⟩) .noAnchor ∨
      tree.isFile (path.join ⟨"os.py"⟩) = true ∧ path.text = "" ∧
        cause = .unreadable path .notFound := by
  cases hanchor : tree.isFile (path.join ⟨"os.py"⟩) with
  | false =>
    rw [discover_of_no_anchor hanchor, Except.error.injEq, eq_comm]
    simp
  | true =>
    by_cases hempty : path.text = ""
    · rw [discover_of_empty hanchor hempty, Except.error.injEq, eq_comm]
      simp [hempty]
    · obtain ⟨found, hfound, -⟩ := exists_discover_eq_ok hs hcwd hanchor hempty
      rw [hfound]
      simp [hempty]

lemma exists_found_of_discover (hs : tree.Sound) (hcwd : ∀ name ∈ tree.cwd, IsName name)
    {library : StandardLibrary} (h : discover tree path = .ok library) :
    ∃ found, library = ofNames found ∧
      ∀ name : String, Text.isIdentifier name.toList = true →
        (name ∈ found ↔ Finds tree path name) := by
  cases hanchor : tree.isFile (path.join ⟨"os.py"⟩) with
  | false =>
    rw [discover_of_no_anchor hanchor] at h
    cases h
  | true =>
    have hne : path.text ≠ "" := by
      intro hempty
      rw [discover_of_empty hanchor hempty] at h
      cases h
    obtain ⟨found, hfound, hmem⟩ := exists_discover_eq_ok hs hcwd hanchor hne
    exact ⟨found, Except.ok.inj (h.symm.trans hfound), hmem⟩

lemma mem_ofNames_iff {names : List String} {name : String} :
    name ∈ (ofNames names).names ↔
      name ∉ foreignModules ∧ (name ∈ builtinModules ∨ name ∈ names) := by
  simp only [ofNames, List.mem_eraseDups, List.mem_filter, List.mem_append, Bool.not_eq_true',
    List.contains_eq_mem, decide_eq_false_iff_not]
  rw [and_comm, or_comm]

/-! ### Paths with room -/

/-- Where every path to a module or its initializer fits, the modules found are those held and
those misread. -/
lemma isFound_iff_of_room (hs : tree.Sound) (hcwd : ∀ name ∈ tree.cwd, IsName name)
    (hroom : hasRoom ⟨path.text ++ "/"⟩ = true) :
    IsFound tree path place module ↔
      Holds tree place module ∨
        ∃ name, IsMisread module name ∧ (tree.fileAt? (place ++ [name])).isSome = true := by
  have hbound : path.text.utf8ByteSize + 268 ≤ 4095 := by
    have hslash : "/".utf8ByteSize = 1 := rfl
    have hroom := hasRoom_iff.mp hroom
    rw [String.utf8ByteSize_append] at hroom
    omega
  have hname : ∀ name, IsName name → (path.join ⟨name⟩).text.utf8ByteSize + 12 ≤ 4095 := by
    intro name hname
    have hjoin := path.utf8ByteSize_join_le ⟨name⟩
    have hshort : name.utf8ByteSize ≤ 255 := hname.short
    dsimp only at hjoin
    omega
  constructor
  · rintro (@⟨name, hnamed, hat⟩ | ⟨hinitializer, -⟩)
    · have hfile : (tree.fileAt? (place ++ [name])).isSome = true := by
        refine hat.resolve_right fun ⟨hdirectory, hlong⟩ => ?_
        have hchild := (mem_children_iff hs.toWellFormed).mpr (.inr hdirectory)
        have hshort := hname name (isName_of_mem_children hs.toWellFormed hcwd hchild)
        have hlimit : ¬(path.join ⟨name⟩).text.utf8ByteSize ≤ 4095 := of_decide_eq_false hlong
        omega
      rcases hnamed with hnamed | hmisread
      · exact .inl (.file hnamed hfile)
      · exact .inr ⟨name, hmisread, hfile⟩
    · exact .inl (.package hinitializer)
  · rintro ((@⟨name, hnamed, hfile⟩ | hinitializer) | ⟨name, hmisread, hfile⟩)
    · exact .file (.inl hnamed) (.inl hfile)
    · refine .package hinitializer (decide_eq_true ?_)
      have hshort := hname module (isName_of_file hs.toWellFormed hinitializer module (by simp))
      have hjoin := (path.join ⟨module⟩).utf8ByteSize_join_le ⟨"__init__.py"⟩
      have hinit : "__init__.py".utf8ByteSize = 11 := by decide
      have hlimit : pathLimit = 4095 := rfl
      dsimp only at hjoin
      omega
    · exact .file (.inr hmisread) (.inl hfile)

lemma found_iff_of_room (hs : tree.Sound) (hcwd : ∀ name ∈ tree.cwd, IsName name)
    (hroom : hasRoom (path.join ⟨"lib-dynload/"⟩) = true) (hpath : tree.locate path = .ok place) :
    Finds tree path module ↔
      ∃ there ∈ [place, place ++ ["lib-dynload"]], Holds tree there module ∨
        ∃ name, IsMisread module name ∧ (tree.fileAt? (there ++ [name])).isSome = true := by
  have hdynamic : IsName "lib-dynload" := by decide
  have hslash : (path.join ⟨"lib-dynload/"⟩).text = (path.join ⟨"lib-dynload"⟩).text ++ "/" := by
    rw [Path.text_join _ (by decide), Path.text_join _ (by decide)]
    split <;> simp [String.append_assoc]
  have hbelow : path.text.utf8ByteSize + 11 ≤ (path.join ⟨"lib-dynload"⟩).text.utf8ByteSize := by
    have hsize : "lib-dynload".utf8ByteSize = 11 := by decide
    rw [Path.text_join _ (by decide)]
    split <;> simp only [String.utf8ByteSize_append, hsize] <;> omega
  have hsize : "/".utf8ByteSize = 1 := rfl
  have hbound := hasRoom_iff.mp hroom
  rw [hslash, String.utf8ByteSize_append] at hbound
  have hhere : hasRoom ⟨path.text ++ "/"⟩ = true := by
    rw [hasRoom_iff, String.utf8ByteSize_append]
    omega
  have hfits : fits (path.join ⟨"lib-dynload"⟩) = true :=
    decide_eq_true (show _ ≤ 4095 by omega)
  replace hroom : hasRoom ⟨(path.join ⟨"lib-dynload"⟩).text ++ "/"⟩ = true := by
    rw [← hslash]
    exact hroom
  simp only [Finds, List.mem_cons, List.not_mem_nil, or_false, exists_eq_or_imp, exists_eq_left]
  refine or_congr ?_ ?_
  · simp only [hpath, Except.ok.injEq, exists_eq_left', isFound_iff_of_room hs hcwd hhere]
  · constructor
    · rintro ⟨there, hthere, hfound⟩
      obtain ⟨rfl, -, -⟩ := locate_join_eq_ok hpath hdynamic hthere
      exact (isFound_iff_of_room hs hcwd hroom).mp hfound
    · intro hheld
      have hfound := (isFound_iff_of_room hs hcwd hroom).mpr hheld
      have hat := isDirectoryAt_of_isFound hs.toWellFormed hfound
      have hdirectory := (isDirectory_join_iff hs hpath hdynamic).mpr ⟨hfits, hat⟩
      obtain ⟨there, hthere⟩ := exists_locate_of_isDirectory hdirectory
      obtain ⟨rfl, -, -⟩ := locate_join_eq_ok hpath hdynamic hthere
      exact ⟨_, hthere, hfound⟩

end

/-! ### The library of a directory -/

lemma nodup_eraseDups {α : Type} [BEq α] [LawfulBEq α] (xs : List α) : xs.eraseDups.Nodup := by
  cases xs with
  | nil => simp
  | cons x xs =>
    rw [List.eraseDups_cons, List.nodup_cons]
    exact ⟨by simp [List.mem_eraseDups], nodup_eraseDups _⟩
termination_by xs.length
decreasing_by
  rw [List.length_cons]
  exact Nat.lt_succ_of_le (List.length_filter_le _ _)

lemma perm_names_of_contains {library library' : StandardLibrary} (h : library.names.Nodup)
    (h' : library'.names.Nodup)
    (hsame : ∀ name, library.contains name = library'.contains name) :
    library.names.Perm library'.names := by
  rw [List.perm_ext_iff_of_nodup h h']
  intro name
  rw [← List.contains_iff_mem, ← List.contains_iff_mem]
  exact Bool.eq_iff_iff.mp (hsame name)

/-- A library is read from every directory with a file `os.py`. It has the built-in modules and
those found there, without those of another platform. -/
theorem discover_exact {tree : FileTree} (hs : tree.Sound)
    (hcwd : ∀ name ∈ tree.cwd, IsName name) (path : Path) :
    (∀ cause, discover tree path = .error cause ↔
      tree.isFile (path.join ⟨"os.py"⟩) = false ∧
        cause = .unreadable (path.join ⟨"os.py"⟩) .noAnchor ∨
      tree.isFile (path.join ⟨"os.py"⟩) = true ∧ path.text = "" ∧
        cause = .unreadable path .notFound) ∧
    (∀ library, discover tree path = .ok library →
      ∀ name : String, Text.isIdentifier name.toList = true →
        (library.contains name = true ↔
          name ∉ foreignModules ∧ (name ∈ builtinModules ∨ Finds tree path name)) ∧
        (hasRoom (path.join ⟨"lib-dynload/"⟩) = true →
          ∀ place, tree.locate path = .ok place →
            (library.contains name = true ↔
              name ∉ foreignModules ∧ (name ∈ builtinModules ∨
                ∃ there ∈ [place, place ++ ["lib-dynload"]], Holds tree there name ∨
                  ∃ fileName, IsMisread name fileName ∧
                    (tree.fileAt? (there ++ [fileName])).isSome = true)))) ∧
    ∀ other, tree.Rearranged other →
      (∀ cause, discover tree path = .error cause ↔ discover other path = .error cause) ∧
      ∀ library, discover tree path = .ok library →
        ∃ library', discover other path = .ok library' ∧
          library.names.Perm library'.names := by
  refine ⟨fun cause => discover_eq_error_iff hs hcwd, ?_, ?_⟩
  · intro library hlibrary name hname
    obtain ⟨found, rfl, hfound⟩ := exists_found_of_discover hs hcwd hlibrary
    have hmem : (ofNames found).contains name = true ↔
        name ∉ foreignModules ∧ (name ∈ builtinModules ∨ Finds tree path name) := by
      rw [contains, List.contains_iff_mem, mem_ofNames_iff, hfound name hname]
    refine ⟨hmem, fun hroom place hplace => ?_⟩
    rw [hmem, found_iff_of_room hs hcwd hroom hplace]
  · intro other h
    have hother := h.sound hs
    have hcwd' : ∀ name ∈ other.cwd, IsName name := h.cwd ▸ hcwd
    refine ⟨fun cause => ?_, fun library hlibrary => ?_⟩
    · rw [discover_eq_error_iff hs hcwd, discover_eq_error_iff hother hcwd',
        h.isFile hs.toWellFormed]
    · obtain ⟨library', hlibrary', hsame⟩ := discover_of_rearranged h hs.toWellFormed hlibrary
      obtain ⟨found, rfl, -⟩ := exists_found_of_discover hs hcwd hlibrary
      obtain ⟨found', rfl, -⟩ := exists_found_of_discover hother hcwd' hlibrary'
      exact ⟨_, hlibrary',
        perm_names_of_contains (nodup_eraseDups _) (nodup_eraseDups _) hsame⟩

/-- A library with a package, a compiled module, a module of another platform and a file that is
none. -/
def treeOfLibrary : FileTree :=
  ⟨["project"], [(["lib", "os.py"], .file .empty none),
    (["lib", "ntpath.py"], .file .empty none),
    (["lib", "notes.txt"], .file .empty none),
    (["lib", "json", "__init__.py"], .file .empty none),
    (["lib", "lib-dynload", "_json.cpython-311-x86_64-linux-gnu.so"], .file .empty none)]⟩

lemma sound_treeOfLibrary : treeOfLibrary.Sound where
  names := by decide +kernel
  distinct := by decide
  apart := by
    intro place contents mode h
    simp only [treeOfLibrary, List.mem_cons, List.not_mem_nil, or_false, Prod.mk.injEq] at h
    rcases h with ⟨rfl, -⟩ | ⟨rfl, -⟩ | ⟨rfl, -⟩ | ⟨rfl, -⟩ | ⟨rfl, -⟩ <;> decide +kernel

/-- The library has its package and its compiled module, but not the module of another platform. -/
theorem discover_of_treeOfLibrary :
    treeOfLibrary.Sound ∧ (∀ name ∈ treeOfLibrary.cwd, IsName name) ∧
    ∃ library, discover treeOfLibrary ⟨"/lib"⟩ = .ok library ∧
      library.contains "json" = true ∧ library.contains "_json" = true ∧
      library.contains "ntpath" = false ∧
      ∃ library', discover ⟨["project"], treeOfLibrary.entries.reverse⟩ ⟨"/lib"⟩ = .ok library' ∧
        library.names.Perm library'.names := by
  have hcwd : ∀ name ∈ treeOfLibrary.cwd, IsName name := by decide +kernel
  obtain ⟨herror, hmem, horder⟩ := discover_exact sound_treeOfLibrary hcwd ⟨"/lib"⟩
  have hroom : hasRoom (Path.join ⟨"/lib"⟩ ⟨"lib-dynload/"⟩) = true := by decide +kernel
  have hplace : treeOfLibrary.locate ⟨"/lib"⟩ = .ok ["lib"] := by rfl
  have hanchor : treeOfLibrary.isFile (Path.join ⟨"/lib"⟩ ⟨"os.py"⟩) = true := by decide +kernel
  have hpackage : Holds treeOfLibrary ["lib"] "json" := .package rfl
  have hso : "so" ∈ compiledExtensions := by decide
  have hcompiled : Holds treeOfLibrary ["lib", "lib-dynload"] "_json" :=
    .file (.tagged "cpython-311-x86_64-linux-gnu" hso) rfl
  have hreversed : treeOfLibrary.Rearranged ⟨["project"], treeOfLibrary.entries.reverse⟩ :=
    ⟨rfl, (List.reverse_perm _).symm⟩
  refine ⟨sound_treeOfLibrary, hcwd, ?_⟩
  cases hlibrary : discover treeOfLibrary ⟨"/lib"⟩ with
  | error cause => simpa [hanchor] using (herror cause).mp hlibrary
  | ok library =>
    have hheld := fun name hname => (hmem library hlibrary name hname).2 hroom _ hplace
    refine ⟨library, rfl, ?_, ?_, ?_, (horder _ hreversed).2 library hlibrary⟩
    · exact (hheld "json" (by decide)).mpr
        ⟨by decide, .inr ⟨["lib"], by simp, .inl hpackage⟩⟩
    · exact (hheld "_json" (by decide)).mpr
        ⟨by decide, .inr ⟨["lib", "lib-dynload"], by simp, .inl hcompiled⟩⟩
    · rw [← Bool.not_eq_true, hheld "ntpath" (by decide)]
      exact fun h => h.1 (by decide)

/-- A file whose extension ends like that of a compiled module counts as one. -/
theorem discover_counts_misread_name :
    let tree : FileTree :=
      ⟨[], [(["lib", "os.py"], .file .empty none), (["lib", "yaml.also"], .file .empty none)]⟩
    ∃ library, discover tree ⟨"/lib"⟩ = .ok library ∧ library.contains "yaml" = true ∧
      "yaml" ∉ builtinModules ∧ tree.locate ⟨"/lib"⟩ = .ok ["lib"] ∧
      ¬Holds tree ["lib"] "yaml" ∧ ¬Holds tree ["lib", "lib-dynload"] "yaml" := by
  intro tree
  have hfiles : ∀ {place : Location}, (tree.fileAt? place).isSome = true →
      place = ["lib", "os.py"] ∨ place = ["lib", "yaml.also"] := by
    intro place h
    by_contra hne
    rw [not_or] at hne
    simp [tree, fileAt?, Ne.symm hne.1, Ne.symm hne.2] at h
  have hso : "so" ∈ compiledExtensions := by decide
  have hletter : 'l' ≠ '.' := by decide
  have hmisread : IsMisread "yaml" "yaml.also" := .intro "a" hletter hso
  refine ⟨ofNames ["os", "yaml"], by rfl, by decide, by decide, by rfl, ?_, ?_⟩
  · rintro (@⟨name, hname, hfile⟩ | hinitializer)
    · have hstem := (moduleStem?_eq_some_iff (by decide)).mpr (.inl hname)
      rcases hfiles hfile with heq | heq <;> obtain rfl : name = _ := by simpa using heq
      · revert hstem
        decide
      · exact hmisread.not_isFileOf hname
    · simpa using hfiles hinitializer
  · rintro (@⟨name, hname, hfile⟩ | hinitializer)
    · simpa using hfiles hfile
    · simpa using hfiles hinitializer

end StandardLibrary

end SaltConventions
