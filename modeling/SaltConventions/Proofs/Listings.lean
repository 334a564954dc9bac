import SaltConventions.Proofs.CountedFiles

/-!
# Names in a directory

A name behind a path that can be looked up is that of a file or a directory if there is one of this
name in the place of the path, as long as the longer path fits. The names in a directory are those
of the files and directories there.
-/

namespace SaltConventions

lemma Path.endsIdle_of_isName {name : String} (h : FileTree.IsName name) :
    endsIdle ⟨name⟩ = false := by
  rw [endsIdle, segments_of_no_slash h.no_slash]
  simp [innerComponent?, h.ne_empty, h.ne_dot, h.ne_dots]

namespace FileTree

variable {tree : FileTree} {path : Path} {place : Location} {name : String}

lemma follow_name (hname : IsName name) :
    tree.follow place [name] =
      if !tree.isDirectoryAt place then .error .notDirectory
      else if (tree.fileAt? (place ++ [name])).isSome || tree.isDirectoryAt (place ++ [name]) then
        .ok (place ++ [name])
      else .error .notFound := by
  rw [follow]
  simp only [hname.ne_empty, hname.ne_dot, hname.ne_dots, Nat.not_lt.mpr hname.short, or_self,
    ↓reduceIte, follow]

lemma locate_join_name (hpath : tree.locate path = .ok place) (hname : IsName name)
    (hfits : fits (path.join ⟨name⟩) = true) :
    tree.locate (path.join ⟨name⟩) = tree.follow place [name] := by
  obtain ⟨hnul, -, hsteps⟩ := of_locate_eq_ok hpath
  have habs : Path.isAbsolute ⟨name⟩ = false := Path.isAbsolute_of_no_slash hname.no_slash
  have hnul' : Path.hasNul ⟨name⟩ = false := hname.no_nul
  have hne : (path.join ⟨name⟩).text ≠ "" := path.join_ne_empty habs hname.ne_empty
  have hstart : tree.start (path.join ⟨name⟩) = tree.start path := by
    rw [start, start, path.isAbsolute_join habs]
  have hfollow : tree.follow (tree.start (path.join ⟨name⟩)) (path.join ⟨name⟩).segments =
      tree.follow place [name] := by
    rw [follow_segments, hstart, Path.steps_join _ habs, Path.steps_of_isName hname,
      List.map_append, follow_append, hsteps, Path.endsIdle_join _ habs,
      Path.endsIdle_of_isName hname]
    change (tree.follow place [name]).bind Except.ok = _
    cases tree.follow place [name] <;> rfl
  rw [locate_eq, Path.hasNul_join _ habs, hnul, hnul', hfits, if_neg hne, hfollow]
  rfl

lemma locate_join_eq_ok (hpath : tree.locate path = .ok place) (hname : IsName name)
    {there : Location} (h : tree.locate (path.join ⟨name⟩) = .ok there) :
    there = place ++ [name] ∧ fits (path.join ⟨name⟩) = true ∧
      ((tree.fileAt? there).isSome = true ∨ tree.isDirectoryAt there = true) := by
  have hfits := fits_of_locate_eq_ok h
  rw [locate_join_name hpath hname hfits, follow_name hname] at h
  split at h
  next => cases h
  split at h
  next hthere =>
    obtain rfl := Except.ok.inj h
    exact ⟨rfl, hfits, by simpa using hthere⟩
  next => cases h

lemma fits_of_fits_join {p r : Path} (hr : r.isAbsolute = false) (h : fits (p.join r) = true) :
    fits p = true := by
  have hlong : (p.join r).text.utf8ByteSize ≤ pathLimit := of_decide_eq_true h
  have hle : p.text.utf8ByteSize ≤ (p.join r).text.utf8ByteSize := by
    rw [p.text_join hr]
    split <;> simp only [String.utf8ByteSize_append] <;> omega
  exact decide_eq_true (Nat.le_trans hle hlong)

/-- Where something is found behind a path, the path itself can be looked up, unless it is empty. -/
lemma exists_locate_of_isFile_join (hname : IsName name) (hne : path.text ≠ "")
    (h : tree.isFile (path.join ⟨name⟩) = true) : ∃ place, tree.locate path = .ok place := by
  have habs : Path.isAbsolute ⟨name⟩ = false := Path.isAbsolute_of_no_slash hname.no_slash
  have hstart : tree.start (path.join ⟨name⟩) = tree.start path := by
    rw [start, start, path.isAbsolute_join habs]
  obtain ⟨there, hlocate, -⟩ := isFile_iff.mp h
  obtain ⟨hnul, -, hsteps⟩ := of_locate_eq_ok hlocate
  rw [Path.hasNul_join _ habs, Bool.or_eq_false_iff] at hnul
  have hfits := fits_of_fits_join habs (fits_of_locate_eq_ok hlocate)
  rw [hstart, Path.steps_join _ habs, Path.steps_of_isName hname, List.map_append,
    follow_append] at hsteps
  cases hplace : tree.follow (tree.start path) (path.steps.map Component.text) with
  | error cause => rw [hplace] at hsteps; cases hsteps
  | ok place =>
    rw [hplace] at hsteps
    have hdirectory : tree.isDirectoryAt place = true := by
      by_contra hnot
      change tree.follow place [name] = .ok there at hsteps
      rw [Bool.not_eq_true] at hnot
      rw [follow_name hname, hnot] at hsteps
      cases hsteps
    refine ⟨place, locate_eq_ok_iff.mpr ⟨hnul.1, hne, hfits, ?_⟩⟩
    rw [follow_segments, hplace]
    simp [Except.bind, hdirectory]

lemma isDirectoryAt_of_file (hw : tree.WellFormed) {names : List String}
    (h : (tree.fileAt? (place ++ name :: names)).isSome = true) :
    tree.isDirectoryAt place = true := by
  obtain ⟨⟨contents, mode⟩, hfound⟩ := Option.isSome_iff_exists.mp h
  exact isDirectoryAt_above ((fileAt?_eq_some_iff hw).mp hfound)

lemma isName_of_file (hw : tree.WellFormed) (h : (tree.fileAt? place).isSome = true) :
    ∀ name ∈ place, IsName name := by
  obtain ⟨⟨contents, mode⟩, hfound⟩ := Option.isSome_iff_exists.mp h
  exact hw.names _ ((fileAt?_eq_some_iff hw).mp hfound)

lemma isFile_join_iff (hw : tree.WellFormed) (hpath : tree.locate path = .ok place)
    (hname : IsName name) :
    tree.isFile (path.join ⟨name⟩) = true ↔
      fits (path.join ⟨name⟩) = true ∧ (tree.fileAt? (place ++ [name])).isSome = true := by
  constructor
  · intro h
    obtain ⟨there, hlocate, hfile⟩ := isFile_iff.mp h
    obtain ⟨rfl, hfits, -⟩ := locate_join_eq_ok hpath hname hlocate
    exact ⟨hfits, hfile⟩
  · rintro ⟨hfits, hfile⟩
    have habove := isDirectoryAt_of_file hw hfile
    have hlocate : tree.locate (path.join ⟨name⟩) = .ok (place ++ [name]) := by
      rw [locate_join_name hpath hname hfits, follow_name hname, habove, hfile]
      rfl
    exact isFile_iff.mpr ⟨_, hlocate, hfile⟩

lemma exists_locate_of_isDirectory (h : tree.isDirectory path = true) :
    ∃ place, tree.locate path = .ok place :=
  (isDirectory_iff.mp h).imp fun _ h => h.1

lemma fileAt?_of_isDirectoryAt (hs : tree.Sound) (h : tree.isDirectoryAt place = true) :
    tree.fileAt? place = none := by
  by_contra hne
  obtain ⟨⟨contents, mode⟩, hfound⟩ := Option.ne_none_iff_exists'.mp hne
  rw [hs.apart ((fileAt?_eq_some_iff hs.toWellFormed).mp hfound)] at h
  cases h

lemma isDirectory_join_iff (hs : tree.Sound) (hpath : tree.locate path = .ok place)
    (hname : IsName name) :
    tree.isDirectory (path.join ⟨name⟩) = true ↔
      fits (path.join ⟨name⟩) = true ∧ tree.isDirectoryAt (place ++ [name]) = true := by
  constructor
  · intro h
    obtain ⟨there, hlocate, hnone⟩ := isDirectory_iff.mp h
    obtain ⟨rfl, hfits, hthere⟩ := locate_join_eq_ok hpath hname hlocate
    refine ⟨hfits, hthere.resolve_left fun hfile => ?_⟩
    simp [hnone] at hfile
  · rintro ⟨hfits, hdirectory⟩
    have habove := isDirectoryAt_of_isPrefix hdirectory (List.prefix_append place [name])
    have hlocate : tree.locate (path.join ⟨name⟩) = .ok (place ++ [name]) := by
      rw [locate_join_name hpath hname hfits, follow_name hname, habove, hdirectory]
      simp
    exact isDirectory_iff.mpr ⟨_, hlocate, fileAt?_of_isDirectoryAt hs hdirectory⟩

lemma Rearranged.sound {other : FileTree} (h : tree.Rearranged other) (hs : tree.Sound) :
    other.Sound where
  toWellFormed := h.wellFormed hs.toWellFormed
  apart hlisted := by
    rw [← h.isDirectoryAt]
    exact hs.apart (h.entries.mem_iff.mpr hlisted)

lemma isDirectoryAt_of_listed {mode : Option Nat} (h : (place, .directory mode) ∈ tree.entries) :
    tree.isDirectoryAt place = true := by
  rw [isDirectoryAt, Bool.or_eq_true, List.any_eq_true]
  exact .inr ⟨_, h, List.isPrefixOf_iff_prefix.mpr List.prefix_rfl⟩

lemma mem_children_iff_below :
    name ∈ tree.children place ↔
      ∃ location ∈ tree.cwd :: tree.entries.map (·.1), place ++ [name] <+: location := by
  rw [children, List.mem_eraseDups, List.mem_filterMap]
  refine exists_congr fun location => and_congr_right fun _ => ?_
  rw [Option.bind_eq_some_iff]
  simp only [below?_eq_some_iff, List.head?_eq_some_iff]
  constructor
  · rintro ⟨_, ⟨rfl, -⟩, later, rfl⟩
    exact ⟨later, by simp⟩
  · rintro ⟨later, rfl⟩
    exact ⟨name :: later, ⟨by simp, by simp⟩, later, rfl⟩

lemma mem_children_iff (hw : tree.WellFormed) :
    name ∈ tree.children place ↔
      (tree.fileAt? (place ++ [name])).isSome = true ∨
        tree.isDirectoryAt (place ++ [name]) = true := by
  rw [mem_children_iff_below]
  constructor
  · rintro ⟨location, hlocation, hprefix⟩
    rcases List.mem_cons.mp hlocation with rfl | hlisted
    · right
      simp [isDirectoryAt, List.isPrefixOf_iff_prefix.mpr hprefix]
    · obtain ⟨⟨location, entry⟩, hentry, rfl⟩ := List.mem_map.mp hlisted
      obtain ⟨later, rfl⟩ := hprefix
      cases later with
      | cons next later => exact .inr (isDirectoryAt_above hentry)
      | nil =>
        rw [List.append_nil] at hentry
        cases entry with
        | file contents mode => exact .inl (isSome_fileAt? hentry)
        | directory mode => exact .inr (isDirectoryAt_of_listed hentry)
  · rintro (hfile | hdirectory)
    · obtain ⟨⟨contents, mode⟩, hfound⟩ := Option.isSome_iff_exists.mp hfile
      have hlisted := (fileAt?_eq_some_iff hw).mp hfound
      exact ⟨_, List.mem_cons_of_mem _ (List.mem_map_of_mem hlisted), List.prefix_rfl⟩
    · rw [isDirectoryAt, Bool.or_eq_true, List.any_eq_true] at hdirectory
      rcases hdirectory with hcwd | ⟨⟨location, entry⟩, hentry, hbefore⟩
      · exact ⟨tree.cwd, List.mem_cons_self, List.isPrefixOf_iff_prefix.mp hcwd⟩
      · refine ⟨location, List.mem_cons_of_mem _ (List.mem_map_of_mem hentry), ?_⟩
        cases entry with
        | directory mode => exact List.isPrefixOf_iff_prefix.mp hbefore
        | file contents mode =>
          rw [Bool.and_eq_true] at hbefore
          exact List.isPrefixOf_iff_prefix.mp hbefore.1

lemma isName_of_mem_children (hw : tree.WellFormed) (hcwd : ∀ name ∈ tree.cwd, IsName name)
    (h : name ∈ tree.children place) : IsName name := by
  obtain ⟨location, hlocation, hprefix⟩ := mem_children_iff_below.mp h
  have hname : name ∈ location := hprefix.subset (by simp)
  rcases List.mem_cons.mp hlocation with rfl | hlisted
  · exact hcwd name hname
  · obtain ⟨listed, hentry, rfl⟩ := List.mem_map.mp hlisted
    exact hw.names listed hentry name hname

end FileTree

end SaltConventions
