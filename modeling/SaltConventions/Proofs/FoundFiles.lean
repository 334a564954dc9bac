import Mathlib.Data.List.Nodup
import Mathlib.Tactic.MkIffOfInductiveProp
import SaltConventions.Proofs.Spelling

/-!
# Found files

In a tree whose entries have proper names, a file that is found under some root can be looked up
under the path it was found with, as long as that path fits.
-/

namespace SaltConventions

namespace FileTree

/-- A text that an entry of a directory can have for a name. -/
@[mk_iff]
structure IsName (name : String) : Prop where
  ne_empty : name ≠ ""
  ne_dot : name ≠ "."
  ne_dots : name ≠ ".."
  no_slash : '/' ∉ name.toList
  no_nul : name.toList.any (·.toNat == 0) = false
  short : name.utf8ByteSize ≤ nameLimit

instance : DecidablePred IsName := fun name => decidable_of_iff _ (isName_iff name).symm

/-- A tree in which every place has one entry and all names are proper ones. -/
structure WellFormed (tree : FileTree) : Prop where
  names : ∀ listed ∈ tree.entries, ∀ name ∈ listed.1, IsName name
  distinct : (tree.entries.map (·.1)).Nodup

lemma isSome_fileAt? {tree : FileTree} {location : Location} {contents : ByteArray}
    {mode : Option Nat} (h : (location, .file contents mode) ∈ tree.entries) :
    (tree.fileAt? location).isSome = true := by
  rw [fileAt?, List.findSome?_isSome_iff]
  exact ⟨_, h, by simp⟩

lemma isDirectoryAt_above {tree : FileTree} {here : Location} {name : String} {names : List String}
    {entry : Entry} (h : (here ++ name :: names, entry) ∈ tree.entries) :
    tree.isDirectoryAt here = true := by
  have hbefore : here.isPrefixOf (here ++ name :: names) = true :=
    List.isPrefixOf_iff_prefix.mpr (List.prefix_append _ _)
  unfold isDirectoryAt
  rw [Bool.or_eq_true, List.any_eq_true]
  refine .inr ⟨_, h, ?_⟩
  cases entry with
  | directory mode => exact hbefore
  | file contents mode => simp [hbefore]

/-- A listed file is reached from every place above it by the names on the way. -/
lemma follow_names {tree : FileTree} {contents : ByteArray} {mode : Option Nat} (here : Location)
    (names : List String) (h : (here ++ names, .file contents mode) ∈ tree.entries)
    (hnames : ∀ name ∈ names, IsName name) : tree.follow here names = .ok (here ++ names) := by
  induction names generalizing here with
  | nil => rw [follow, List.append_nil]
  | cons name later ih =>
    obtain ⟨hname, hlater⟩ := List.forall_mem_cons.mp hnames
    have hnext : here ++ name :: later = (here ++ [name]) ++ later := by simp
    have hthere : ((tree.fileAt? (here ++ [name])).isSome
        || tree.isDirectoryAt (here ++ [name])) = true := by
      cases later with
      | nil => rw [isSome_fileAt? h, Bool.true_or]
      | cons next rest => rw [isDirectoryAt_above (hnext ▸ h), Bool.or_true]
    rw [follow]
    simp only [isDirectoryAt_above h, hname.ne_empty, hname.ne_dot, hname.ne_dots, hthere,
      Nat.not_lt.mpr hname.short, Bool.not_true, Bool.false_eq_true, or_self, ↓reduceIte]
    rw [ih _ (hnext ▸ h) hlater, hnext]

lemma follow_append (tree : FileTree) (here : Location) (front back : List String) :
    tree.follow here (front ++ back) =
      (tree.follow here front).bind fun there => tree.follow there back := by
  induction front generalizing here with
  | nil => rfl
  | cons segment later ih =>
    rw [List.cons_append, follow, follow]
    split
    · rfl
    split
    · exact ih here
    split
    · exact ih _
    split
    · rfl
    dsimp only
    split
    · exact ih _
    · rfl

end FileTree

/-! ### Names behind a path -/

namespace Path

lemma steps_of_isName {name : String} (h : FileTree.IsName name) :
    steps ⟨name⟩ = [.name name] := by
  rw [steps_of_no_slash h.no_slash]
  simp [innerComponent?, h.ne_empty, h.ne_dot, h.ne_dots]

lemma components_descend {root : Path} (hroot : root.text ≠ "") {names : List String}
    (hnames : ∀ name ∈ names, FileTree.IsName name) :
    (root.descend names).components = root.components ++ names.map .name := by
  induction names generalizing root with
  | nil => simp [descend]
  | cons name later ih =>
    obtain ⟨hname, hlater⟩ := List.forall_mem_cons.mp hnames
    have hjoin : (root.join ⟨name⟩).components = root.components ++ [.name name] := by
      rw [components_join root (isAbsolute_of_no_slash hname.no_slash),
        if_neg (mt components_eq_nil_iff.mp hroot), steps_of_isName hname]
    have hne : (root.join ⟨name⟩).text ≠ "" := fun h => by
      simp [components_eq_nil_iff.mpr h] at hjoin
    have hdescend : root.descend (name :: later) = (root.join ⟨name⟩).descend later := rfl
    rw [hdescend, ih hne hlater, hjoin, List.append_assoc]
    rfl

lemma hasNul_descend {root : Path} (hroot : root.hasNul = false) {names : List String}
    (hnames : ∀ name ∈ names, FileTree.IsName name) : (root.descend names).hasNul = false := by
  induction names generalizing root with
  | nil => exact hroot
  | cons name later ih =>
    obtain ⟨hname, hlater⟩ := List.forall_mem_cons.mp hnames
    have hnul : hasNul ⟨name⟩ = false := hname.no_nul
    refine ih ?_ hlater
    rw [hasNul_join root (isAbsolute_of_no_slash hname.no_slash), hroot, hnul, Bool.false_or]

lemma endsIdle_descend (root : Path) {names : List String} (hne : names ≠ [])
    (hnames : ∀ name ∈ names, FileTree.IsName name) : (root.descend names).endsIdle = false := by
  obtain ⟨front, name, rfl⟩ : ∃ front name, names = front ++ [name] :=
    ⟨_, _, (List.dropLast_append_getLast hne).symm⟩
  have hname := hnames name (by simp)
  have hdescend : root.descend (front ++ [name]) = (root.descend front).join ⟨name⟩ := by
    simp [descend]
  rw [hdescend, endsIdle_join _ (isAbsolute_of_no_slash hname.no_slash), endsIdle,
    segments_of_no_slash hname.no_slash]
  simp [innerComponent?, hname.ne_empty, hname.ne_dot, hname.ne_dots]

end Path

/-! ### Looking found files up -/

namespace FileTree

lemma below?_eq_some_iff {directory location : Location} {names : List String} :
    below? directory location = some names ↔ location = directory ++ names ∧ names ≠ [] := by
  unfold below?
  split
  next h =>
    rw [Bool.and_eq_true, List.isPrefixOf_iff_prefix, bne_iff_ne] at h
    obtain ⟨⟨rest, rfl⟩, hne⟩ := h
    simp only [List.drop_left, Option.some.injEq, List.append_cancel_left_eq]
    constructor
    · rintro rfl
      exact ⟨rfl, fun hnil => hne (by simp [hnil])⟩
    · exact fun h => h.1
  next h =>
    simp only [reduceCtorEq, false_iff]
    rintro ⟨rfl, hne⟩
    exact h (by simp [hne])

lemma mem_filesUnder_iff {tree : FileTree} {root p : Path} :
    p ∈ tree.filesUnder root ↔ ∃ directory, tree.locate root = .ok directory ∧
      if (tree.fileAt? directory).isSome then p = root
      else ∃ names contents mode, (directory ++ names, .file contents mode) ∈ tree.entries ∧
        names ≠ [] ∧ fits (root.descend names.dropLast) = true ∧ p = root.descend names := by
  unfold filesUnder
  cases tree.locate root with
  | error cause => simp
  | ok directory =>
    simp only [Except.ok.injEq, exists_eq_left']
    split
    next => simp
    next =>
      simp only [List.mem_filterMap]
      constructor
      · rintro ⟨⟨location, entry⟩, hlisted, hp⟩
        cases entry with
        | directory mode => simp at hp
        | file contents mode =>
          obtain ⟨names, hbelow, hsome⟩ := Option.bind_eq_some_iff.mp hp
          obtain ⟨rfl, hne⟩ := below?_eq_some_iff.mp hbelow
          obtain ⟨hfits, hsome⟩ := Option.ite_none_right_eq_some.mp hsome
          exact ⟨names, contents, mode, hlisted, hne, hfits, (Option.some.inj hsome).symm⟩
      · rintro ⟨names, contents, mode, hlisted, hne, hfits, rfl⟩
        refine ⟨_, hlisted, ?_⟩
        simp [below?_eq_some_iff.mpr ⟨rfl, hne⟩, hfits]

lemma leadsTo_descend {tree : FileTree} (hw : tree.WellFormed) {root : Path} {directory : Location}
    (hroot : tree.LeadsTo root directory) (htext : root.text ≠ "") {names : List String}
    {contents : ByteArray} {mode : Option Nat}
    (h : (directory ++ names, .file contents mode) ∈ tree.entries) :
    tree.LeadsTo (root.descend names) (directory ++ names) := by
  have hnames : ∀ name ∈ names, IsName name := fun name hname =>
    hw.names _ h name (List.mem_append_right _ hname)
  have hcomponents := Path.components_descend htext hnames
  have hstart : tree.start (root.descend names) = tree.start root := by
    have habs : (root.descend names).isAbsolute = root.isAbsolute := by
      rw [Bool.eq_iff_iff, Path.isAbsolute_iff, Path.isAbsolute_iff, hcomponents]
      simp
    rw [start, start, habs]
  have hall : (root.descend names).steps.map Component.text =
      root.steps.map Component.text ++ names := by
    rw [Path.steps_eq_filter, hcomponents, List.filter_append, ← Path.steps_eq_filter,
      List.map_append, List.filter_eq_self.mpr (by simp [Component.isStep])]
    simp [Function.comp_def, Component.text]
  rw [LeadsTo, hall, hstart, follow_append, hroot]
  exact follow_names directory names h hnames

lemma locate_descend {tree : FileTree} (hw : tree.WellFormed) {root : Path} {directory : Location}
    (hroot : tree.locate root = .ok directory) {names : List String} {contents : ByteArray}
    {mode : Option Nat} (h : (directory ++ names, .file contents mode) ∈ tree.entries)
    (hne : names ≠ []) (hfits : fits (root.descend names) = true) :
    tree.locate (root.descend names) = .ok (directory ++ names) := by
  obtain ⟨hnul, htext, hsteps⟩ := of_locate_eq_ok hroot
  have hnames : ∀ name ∈ names, IsName name := fun name hname =>
    hw.names _ h name (List.mem_append_right _ hname)
  have hfollow : tree.follow (tree.start (root.descend names)) (root.descend names).segments =
      .ok (directory ++ names) := by
    rw [follow_segments, Path.endsIdle_descend root hne hnames, leadsTo_descend hw hsteps htext h]
    rfl
  have hempty : (root.descend names).text ≠ "" := by
    rw [ne_eq, ← Path.components_eq_nil_iff, Path.components_descend htext hnames]
    simp [hne]
  rw [locate_eq, Path.hasNul_descend hnul hnames, hfits, hfollow]
  simp [hempty]

theorem locate_of_mem_filesUnder {tree : FileTree} (hw : tree.WellFormed) {root p : Path}
    (hp : p ∈ tree.filesUnder root) (hfits : fits p = true) :
    ∃ location, tree.locate p = .ok location := by
  obtain ⟨directory, hroot, hp⟩ := mem_filesUnder_iff.mp hp
  split at hp
  next => exact ⟨directory, hp ▸ hroot⟩
  next =>
    obtain ⟨names, contents, mode, hlisted, hne, -, rfl⟩ := hp
    exact ⟨_, locate_descend hw hroot hlisted hne hfits⟩

end FileTree

end SaltConventions
