import SaltConventions.Modules.Environment
import SaltConventions.Proofs.FoundFiles

/-!
# Modules next to a file

Whether a module stands next to a file is asked of the file tree with paths built on the parent of
the file. For two spellings of a file the answer is the same, if both leave room for a name and an
initializer in what can be looked up. Hence both have the same idea of where a module comes from.
-/

namespace SaltConventions

namespace Path

lemma utf8ByteSize_join_le (p r : Path) :
    (p.join r).text.utf8ByteSize ≤ p.text.utf8ByteSize + 1 + r.text.utf8ByteSize := by
  have hslash : "/".utf8ByteSize = 1 := rfl
  unfold join
  split
  · omega
  split
  · rw [String.utf8ByteSize_append]
    omega
  · have hsize : (p.text ++ "/" ++ r.text).utf8ByteSize =
        p.text.utf8ByteSize + 1 + r.text.utf8ByteSize := by
      rw [String.utf8ByteSize_append, String.utf8ByteSize_append, hslash]
    exact Nat.le_of_eq hsize

lemma utf8ByteSize_parent_lt {p d : Path} (h : p.parent? = some d) :
    d.text.utf8ByteSize < p.text.utf8ByteSize := by
  obtain ⟨hne, hcomponents, rest, hrest⟩ := parent?_eq_some h
  have hrest_ne : rest ≠ "" := by
    rintro rfl
    have hsame : d = p := by
      obtain ⟨text⟩ := p
      obtain ⟨front⟩ := d
      simpa using hrest.symm
    have hlength := congrArg List.length (hsame ▸ hcomponents)
    have hpos := List.length_pos_iff.mpr hne
    rw [List.length_dropLast] at hlength
    omega
  have hpos : 0 < rest.utf8ByteSize :=
    Nat.pos_of_ne_zero fun hzero => hrest_ne (String.utf8ByteSize_eq_zero_iff.mp hzero)
  rw [hrest, String.utf8ByteSize_append]
  omega

lemma hasNul_parent {p d : Path} (h : p.parent? = some d) (hp : p.hasNul = false) :
    d.hasNul = false := by
  obtain ⟨-, -, rest, hrest⟩ := parent?_eq_some h
  rw [hasNul, hrest, String.toList_append, List.any_append, Bool.or_eq_false_iff] at hp
  exact hp.1

lemma isAbsolute_withExtension (r : Path) (extension : String) :
    (r.withExtension extension).isAbsolute = r.isAbsolute := by
  unfold isAbsolute withExtension
  cases hr : r.text.toList <;> simp [hr]

lemma withExtension_join (d : Path) {r : Path} (hr : r.isAbsolute = false) (extension : String) :
    (d.join r).withExtension extension = d.join (r.withExtension extension) := by
  unfold join
  rw [isAbsolute_withExtension, hr]
  simp only [Bool.false_eq_true, ↓reduceIte]
  split <;> simp [withExtension, String.append_assoc]

end Path

namespace FileTree

lemma utf8ByteSize_le_of_follow {tree : FileTree} {here there : Location} {segments : List String}
    (h : tree.follow here segments = .ok there) :
    ∀ segment ∈ segments, segment.utf8ByteSize ≤ nameLimit := by
  induction segments generalizing here with
  | nil => simp
  | cons segment later ih =>
    rw [follow] at h
    split at h
    next => cases h
    split at h
    next hidle =>
      refine List.forall_mem_cons.mpr ⟨?_, ih h⟩
      rcases hidle with rfl | rfl <;> decide
    split at h
    next hup =>
      refine List.forall_mem_cons.mpr ⟨?_, ih h⟩
      rw [hup]
      decide
    split at h
    next => cases h
    next hshort =>
      dsimp only at h
      split at h
      next => exact List.forall_mem_cons.mpr ⟨Nat.le_of_not_lt hshort, ih h⟩
      next => cases h

lemma isFile_of_long (tree : FileTree) {p : Path} {name : String} (h : .name name ∈ p.steps)
    (hlong : nameLimit < name.utf8ByteSize) : tree.isFile p = false := by
  rw [Bool.eq_false_iff]
  intro hfile
  obtain ⟨location, hlocate, -⟩ := isFile_iff.mp hfile
  have hshort := utf8ByteSize_le_of_follow (of_locate_eq_ok hlocate).2.2 name
    (List.mem_map.mpr ⟨_, h, rfl⟩)
  omega

lemma isFile_join_congr (tree : FileTree) {d e r : Path} (hr : r.isAbsolute = false)
    (h : d.components = e.components) (hnul : d.hasNul = e.hasNul)
    (hfits : fits (d.join r) = fits (e.join r)) :
    tree.isFile (d.join r) = tree.isFile (e.join r) := by
  have hlocate : tree.locate (d.join r) = tree.locate (e.join r) := by
    refine tree.locate_congr (Path.components_join_congr h r) ?_ ?_ hfits
    · rw [Path.hasNul_join d hr, Path.hasNul_join e hr, hnul]
    · rw [Path.endsIdle_join d hr, Path.endsIdle_join e hr]
  rw [isFile, isFile, hlocate]

end FileTree

lemma Path.name_mem_steps_join (d : Path) {name : String} (hname : '/' ∉ name.toList)
    (hlong : FileTree.nameLimit < name.utf8ByteSize) : .name name ∈ (d.join ⟨name⟩).steps := by
  have hne : ∀ short, short.utf8ByteSize ≤ FileTree.nameLimit → name ≠ short := by
    rintro _ hshort rfl
    omega
  rw [steps_join d (isAbsolute_of_no_slash hname), steps_of_no_slash hname]
  simp [innerComponent?, hne "" (by decide), hne "." (by decide), hne ".." (by decide)]

namespace FileTree

lemma isFile_join_name (tree : FileTree) {d e : Path} (h : d.components = e.components)
    (hnul : d.hasNul = e.hasNul) (hd : d.text.utf8ByteSize + 1 + nameLimit ≤ pathLimit)
    (he : e.text.utf8ByteSize + 1 + nameLimit ≤ pathLimit) {name : String}
    (hname : '/' ∉ name.toList) : tree.isFile (d.join ⟨name⟩) = tree.isFile (e.join ⟨name⟩) := by
  -- A name over the limit is refused under both paths, a shorter one fits behind both.
  by_cases hlong : nameLimit < name.utf8ByteSize
  · rw [tree.isFile_of_long (d.name_mem_steps_join hname hlong) hlong,
      tree.isFile_of_long (e.name_mem_steps_join hname hlong) hlong]
  · have hfits : ∀ d : Path, d.text.utf8ByteSize + 1 + nameLimit ≤ pathLimit →
        fits (d.join ⟨name⟩) = true := by
      intro d hd
      have hsize : (d.join ⟨name⟩).text.utf8ByteSize ≤
          d.text.utf8ByteSize + 1 + name.utf8ByteSize := d.utf8ByteSize_join_le ⟨name⟩
      exact decide_eq_true (by omega)
    exact tree.isFile_join_congr (Path.isAbsolute_of_no_slash hname) h hnul
      ((hfits d hd).trans (hfits e he).symm)

lemma isFile_join_initializer (tree : FileTree) {d e : Path} (h : d.components = e.components)
    (hnul : d.hasNul = e.hasNul) (hd : d.text.utf8ByteSize + 13 + nameLimit ≤ pathLimit)
    (he : e.text.utf8ByteSize + 13 + nameLimit ≤ pathLimit) {name : String}
    (hname : '/' ∉ name.toList) :
    tree.isFile ((d.join ⟨name⟩).join ⟨"__init__.py"⟩) =
      tree.isFile ((e.join ⟨name⟩).join ⟨"__init__.py"⟩) := by
  have hinit : Path.isAbsolute ⟨"__init__.py"⟩ = false := rfl
  have habs := Path.isAbsolute_of_no_slash hname
  by_cases hlong : nameLimit < name.utf8ByteSize
  · have hfalse : ∀ d : Path, tree.isFile ((d.join ⟨name⟩).join ⟨"__init__.py"⟩) = false := by
      intro d
      refine tree.isFile_of_long ?_ hlong
      rw [Path.steps_join _ hinit]
      exact List.mem_append_left _ (d.name_mem_steps_join hname hlong)
    rw [hfalse, hfalse]
  · have hfits : ∀ d : Path, d.text.utf8ByteSize + 13 + nameLimit ≤ pathLimit →
        fits ((d.join ⟨name⟩).join ⟨"__init__.py"⟩) = true := by
      intro d hd
      have hbase : (d.join ⟨name⟩).text.utf8ByteSize ≤
          d.text.utf8ByteSize + 1 + name.utf8ByteSize := d.utf8ByteSize_join_le ⟨name⟩
      have hsize : ((d.join ⟨name⟩).join ⟨"__init__.py"⟩).text.utf8ByteSize ≤
          (d.join ⟨name⟩).text.utf8ByteSize + 1 + 11 := (d.join ⟨name⟩).utf8ByteSize_join_le _
      exact decide_eq_true (by omega)
    refine tree.isFile_join_congr hinit (Path.components_join_congr h _) ?_
      ((hfits d hd).trans (hfits e he).symm)
    rw [Path.hasNul_join d habs, Path.hasNul_join e habs, hnul]

/-- Whether a path leaves room, in what can be looked up, for the modules next to it: a name in
place of its own, and an initializer below that. -/
def hasRoom (p : Path) : Bool :=
  p.text.utf8ByteSize + nameLimit + "/__init__.py".utf8ByteSize ≤ pathLimit

lemma hasRoom_iff {p : Path} : hasRoom p = true ↔ p.text.utf8ByteSize + 267 ≤ 4095 := by
  have hinit : "/__init__.py".utf8ByteSize = 12 := by decide
  rw [hasRoom, decide_eq_true_iff, hinit]
  rfl

lemma fits_of_hasRoom {p : Path} (h : hasRoom p = true) : fits p = true := by
  have hroom := hasRoom_iff.mp h
  exact decide_eq_true (show p.text.utf8ByteSize ≤ 4095 by omega)

end FileTree

lemma Text.ne_of_mem_of_isIdentifier {cs : List Char} (h : isIdentifier cs = true) {c : Char}
    (hc : c ∈ cs) : c ≠ '.' ∧ c ≠ '/' := by
  constructor
  · rintro rfl
    exact not_mem_of_isIdentifier h (by decide) (by decide +kernel) hc
  · rintro rfl
    exact not_mem_of_isIdentifier h (by decide) (by decide +kernel) hc

namespace Environment

open FileTree

theorem isSibling_congr (env : Environment) {p q : Path} (h : p.components = q.components)
    (hp : hasRoom p = true) (hq : hasRoom q = true) (hpn : p.hasNul = false)
    (hqn : q.hasNul = false) {top : String} (htop : '/' ∉ top.toList) :
    env.isSibling top p = env.isSibling top q := by
  unfold isSibling
  cases hd : p.parent? with
  | none =>
    have he : q.parent? = none :=
      Path.parent?_eq_none_iff.mpr (h ▸ Path.parent?_eq_none_iff.mp hd)
    rw [he]
  | some d =>
    obtain ⟨e, he⟩ : ∃ e, q.parent? = some e := by
      refine Option.ne_none_iff_exists'.mp fun he => ?_
      rw [Path.parent?_eq_none_iff, ← h, ← Path.parent?_eq_none_iff, hd] at he
      cases he
    have hcomponents : d.components = e.components := by
      rw [(Path.parent?_eq_some hd).2.1, (Path.parent?_eq_some he).2.1, h]
    have hnul : d.hasNul = e.hasNul := by
      rw [Path.hasNul_parent hd hpn, Path.hasNul_parent he hqn]
    have hdp := Path.utf8ByteSize_parent_lt hd
    have heq := Path.utf8ByteSize_parent_lt he
    have hp := hasRoom_iff.mp hp
    have hq := hasRoom_iff.mp hq
    have hlimit : nameLimit = 255 ∧ pathLimit = 4095 := ⟨rfl, rfl⟩
    have hsource : env.tree.isFile ((d.join ⟨top⟩).withExtension "py") =
        env.tree.isFile ((e.join ⟨top⟩).withExtension "py") := by
      rw [d.withExtension_join (Path.isAbsolute_of_no_slash htop),
        e.withExtension_join (Path.isAbsolute_of_no_slash htop)]
      exact env.tree.isFile_join_name hcomponents hnul (by omega) (by omega)
        (by simp [htop])
    have hpackage : env.tree.isFile ((d.join ⟨top⟩).join ⟨"__init__.py"⟩) =
        env.tree.isFile ((e.join ⟨top⟩).join ⟨"__init__.py"⟩) :=
      env.tree.isFile_join_initializer hcomponents hnul (by omega) (by omega) htop
    simp only [he, hsource, hpackage]

lemma no_slash_topLevel {module : String} (h : isDottedName module = true) :
    '/' ∉ (topLevel module).toList := by
  have hpiece : Text.isIdentifier (module.toList.takeWhile (· != '.')) = true :=
    List.all_eq_true.mp h _ (List.mem_of_head? (Text.head?_pieces _ _))
  rw [topLevel, String.toList_ofList]
  exact fun hmem => (Text.ne_of_mem_of_isIdentifier hpiece hmem).2 rfl

lemma classify_congr {env env' : Environment} {p q : Path} (hcwd : env.cwd = env'.cwd)
    (hlibrary : ∀ name, env.library.contains name = env'.library.contains name)
    (hresolver : ∀ module, env.resolver module p = env'.resolver module q)
    (hsibling : ∀ top, '/' ∉ top.toList → env.isSibling top p = env'.isSibling top q)
    (module : String) (level : Nat) :
    env.classify module level p = env'.classify module level q := by
  unfold classify longestPlace?
  by_cases hdotted : isDottedName module = true
  · simp only [hlibrary, hsibling _ (no_slash_topLevel hdotted), hresolver, hcwd]
  · simp only [hdotted, Bool.not_false, ↓reduceIte]

end Environment

end SaltConventions
