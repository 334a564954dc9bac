import SaltConventions.Proofs.Siblings

/-!
# Paths behind the working directory

A relative path and the same path written behind the name of the working directory have the same
steps from there on. So they lead to the same place, have the same file name and the same parent,
and look the same from the working directory. The longer one may be over the limit of what can be
looked up while the shorter one is not.
-/

namespace SaltConventions

/-! ### Steps behind other steps -/

namespace Text

lemma any_pieces {cut test : Char → Bool} (h : ∀ c, cut c = true → test c = false)
    (cs : List Char) : (pieces cut cs).any (fun piece => piece.any test) = cs.any test := by
  induction cs with
  | nil => rfl
  | cons c cs ih =>
    obtain ⟨piece, later, hpieces⟩ := List.exists_cons_of_ne_nil (pieces_ne_nil cut cs)
    rw [pieces_cons, List.any_cons, ← ih, hpieces]
    by_cases hc : cut c = true
    · simp [hc, h c hc]
    · simp [hc, Bool.or_assoc]

end Text

namespace Path

lemma hasNul_eq_any_steps (p : Path) :
    p.hasNul = p.steps.any fun c => c.text.toList.any (·.toNat == 0) := by
  have hsegments : p.hasNul = p.segments.any fun segment => segment.toList.any (·.toNat == 0) := by
    have hcut : ∀ c : Char, (c == '/') = true → (c.toNat == 0) = false := by
      intro c hc
      obtain rfl := eq_of_beq hc
      rfl
    rw [hasNul, ← Text.any_pieces hcut, segments, Text.splitAt, List.any_map]
    simp [Function.comp_def]
  rw [hsegments, steps]
  induction p.segments with
  | nil => rfl
  | cons segment later ih =>
    rw [List.any_cons, ih]
    cases hc : innerComponent? segment with
    | none =>
      have hidle : segment.toList.any (·.toNat == 0) = false := by
        rcases innerComponent?_eq_none_iff.mp hc with rfl | rfl <;> rfl
      rw [hidle, List.filterMap_cons_none hc, Bool.false_or]
    | some c =>
      rw [List.filterMap_cons_some hc, List.any_cons, text_of_innerComponent? hc]

lemma not_root_of_mem_steps {p : Path} : .root ∉ p.steps :=
  fun h => absurd (isStep_of_mem_steps h) Bool.false_ne_true

lemma components_of_absolute {p : Path} (h : p.isAbsolute = true) :
    p.components = .root :: p.steps := by
  rw [components_eq, lead, if_pos h]
  rfl

lemma isAbsolute_join (p : Path) {r : Path} (hr : r.isAbsolute = false) :
    (p.join r).isAbsolute = p.isAbsolute := by
  have hroot : .root ∉ r.components := by
    rw [← isAbsolute_iff, hr]
    exact Bool.false_ne_true
  rw [Bool.eq_iff_iff, isAbsolute_iff, isAbsolute_iff, components_join p hr]
  split
  next hnil => simp [hnil, hroot]
  next => simp [not_root_of_mem_steps]

lemma getLast?_components {p : Path} (hp : p.steps ≠ []) :
    p.components.getLast? = p.steps.getLast? := by
  rw [components_eq, List.getLast?_append_of_ne_nil _ hp]

lemma exists_parent {p : Path} (hp : p.steps ≠ []) :
    ∃ d, p.parent? = some d ∧ d.isAbsolute = p.isAbsolute ∧ d.steps = p.steps.dropLast := by
  have hsome : ∃ d, p.parent? = some d := by
    refine Option.ne_none_iff_exists'.mp fun hnone => ?_
    rcases parent?_eq_none_iff.mp hnone with hnil | hroot
    · simp [components_eq, hp] at hnil
    · rw [getLast?_components hp] at hroot
      exact not_root_of_mem_steps (List.mem_of_getLast? hroot)
  obtain ⟨d, hd⟩ := hsome
  have hsub : p.steps.dropLast ⊆ p.steps := List.dropLast_subset p.steps
  have hcomponents : d.components = p.lead ++ p.steps.dropLast := by
    rw [(parent?_eq_some hd).2.1, components_eq, List.dropLast_append_of_ne_nil hp]
  refine ⟨d, hd, ?_, ?_⟩
  · have hroot : .root ∉ p.steps.dropLast := fun h => not_root_of_mem_steps (hsub h)
    rw [Bool.eq_iff_iff, isAbsolute_iff, isAbsolute_iff, hcomponents, components_eq]
    simp [hroot, not_root_of_mem_steps]
  · have hlead : p.lead.filter Component.isStep = [] := by
      simpa using fun c hc => isStep_of_mem_lead hc
    have hsteps : p.steps.dropLast.filter Component.isStep = p.steps.dropLast :=
      List.filter_eq_self.mpr fun c hc => isStep_of_mem_steps (hsub hc)
    rw [d.steps_eq_filter, hcomponents, List.filter_append, hlead, hsteps, List.nil_append]

/-- `q` takes the steps of a relative path `p` behind those of `cwd`. -/
structure Behind (cwd p q : Path) : Prop where
  relative : p.isAbsolute = false
  absolute : q.isAbsolute = true
  steps : q.steps = cwd.steps ++ p.steps

lemma behind_join {cwd p : Path} (hcwd : cwd.isAbsolute = true) (hp : p.isAbsolute = false) :
    Behind cwd p (cwd.join p) :=
  ⟨hp, (isAbsolute_join cwd hp).trans hcwd, steps_join cwd hp⟩

namespace Behind

variable {cwd p q : Path}

lemma join (h : Behind cwd p q) {r : Path} (hr : r.isAbsolute = false) :
    Behind cwd (p.join r) (q.join r) where
  relative := (isAbsolute_join p hr).trans h.relative
  absolute := (isAbsolute_join q hr).trans h.absolute
  steps := by rw [steps_join p hr, steps_join q hr, h.steps, List.append_assoc]

lemma hasNul (h : Behind cwd p q) (hcwd : cwd.hasNul = false) : q.hasNul = p.hasNul := by
  rw [hasNul_eq_any_steps] at hcwd
  rw [hasNul_eq_any_steps, hasNul_eq_any_steps, h.steps, List.any_append, hcwd, Bool.false_or]

lemma steps_ne_nil (h : Behind cwd p q) (hp : p.steps ≠ []) : q.steps ≠ [] := by
  rw [h.steps]
  simp [hp]

lemma fileName? (h : Behind cwd p q) (hp : p.steps ≠ []) : q.fileName? = p.fileName? := by
  rw [Path.fileName?, Path.fileName?, getLast?_components hp,
    getLast?_components (h.steps_ne_nil hp), h.steps, List.getLast?_append_of_ne_nil _ hp]

lemma parent (h : Behind cwd p q) (hp : p.steps ≠ []) :
    ∃ d e, p.parent? = some d ∧ q.parent? = some e ∧ Behind cwd d e := by
  obtain ⟨d, hd, hdabs, hdsteps⟩ := exists_parent hp
  obtain ⟨e, he, heabs, hesteps⟩ := exists_parent (h.steps_ne_nil hp)
  refine ⟨d, e, hd, he, hdabs.trans h.relative, heabs.trans h.absolute, ?_⟩
  rw [hesteps, hdsteps, h.steps, List.dropLast_append_of_ne_nil hp]

lemma relativeTo (h : Behind cwd p q) (hcwd : cwd.isAbsolute = true) :
    q.relativeTo cwd = p.relativeTo cwd := by
  have hkept : p.steps.filter (· != .here) = p.steps := by
    refine List.filter_eq_self.mpr fun c hc => bne_iff_ne.mpr ?_
    rintro rfl
    exact absurd (isStep_of_mem_steps hc) Bool.false_ne_true
  have hp : p.components.filter (· != .here) = p.steps := by
    rw [components_eq, List.filter_append, hkept, lead, if_neg (by simp [h.relative])]
    split <;> rfl
  have hq : q.components = cwd.components ++ p.steps := by
    rw [components_of_absolute h.absolute, components_of_absolute hcwd, h.steps, List.cons_append]
  unfold Path.relativeTo startsWith
  rw [hq, h.absolute, h.relative]
  simp [hp, hkept]

end Behind

end Path

/-! ### Looking up behind the working directory -/

namespace Path

lemma text_join (p : Path) {r : Path} (hr : r.isAbsolute = false) :
    (p.join r).text =
      if p.text = "" ∨ p.text.toList.getLast? = some '/' then p.text ++ r.text
      else p.text ++ "/" ++ r.text := by
  unfold join
  rw [if_neg (by simp [hr])]
  split <;> rfl

lemma utf8ByteSize_le_join (p : Path) {r : Path} (hr : r.isAbsolute = false) :
    r.text.utf8ByteSize ≤ (p.join r).text.utf8ByteSize := by
  rcases join_cases p hr with ⟨-, hjoin⟩ | ⟨front, hjoin, -⟩
  · exact Nat.le_of_eq (by rw [hjoin])
  · rw [hjoin, String.utf8ByteSize_append]
    exact Nat.le_add_left _ _

lemma join_ne_empty (p : Path) {r : Path} (hr : r.isAbsolute = false) (hne : r.text ≠ "") :
    (p.join r).text ≠ "" := by
  intro hempty
  have hle := utf8ByteSize_le_join p hr
  rw [hempty] at hle
  exact hne (String.utf8ByteSize_eq_zero_iff.mp (Nat.le_zero.mp hle))

/-- A path that can be looked up, and the same path behind the working directory, with the same
end. -/
structure Twin (cwd p q : Path) : Prop extends Behind cwd p q where
  ne_empty : p.text ≠ ""
  ends : q.endsIdle = p.endsIdle

lemma twin_join {cwd p : Path} (hcwd : cwd.isAbsolute = true) (hp : p.isAbsolute = false)
    (hne : p.text ≠ "") : Twin cwd p (cwd.join p) where
  toBehind := behind_join hcwd hp
  ne_empty := hne
  ends := endsIdle_join cwd hp

lemma Behind.twin_join {cwd p q : Path} (h : Behind cwd p q) {r : Path}
    (hr : r.isAbsolute = false) (hne : r.text ≠ "") : Twin cwd (p.join r) (q.join r) where
  toBehind := h.join hr
  ne_empty := p.join_ne_empty hr hne
  ends := by rw [endsIdle_join p hr, endsIdle_join q hr]

end Path

namespace FileTree

open SaltConventions.Path (Twin)

/-- The path is an absolute one and names the working directory. -/
structure WorksIn (tree : FileTree) (cwd : Path) : Prop where
  absolute : cwd.isAbsolute = true
  place : tree.locate cwd = .ok tree.cwd

variable {tree : FileTree} {cwd : Path}

/-- A path behind the working directory leads to where the relative path leads, if both fit or
neither does. -/
theorem locate_of_twin (hcwd : tree.WorksIn cwd) {p q : Path} (h : Twin cwd p q)
    (hfits : fits q = fits p) : tree.locate q = tree.locate p := by
  obtain ⟨hnul, -, hplace⟩ := of_locate_eq_ok hcwd.place
  have hq : q.text ≠ "" := by
    intro hempty
    have habs := h.absolute
    simp [Path.isAbsolute, hempty] at habs
  have hstart : tree.start q = tree.start cwd := by
    rw [start, start, if_pos h.absolute, if_pos hcwd.absolute]
  have hstart' : tree.start p = tree.cwd := by simp [start, h.relative]
  have hfollow : tree.follow (tree.start q) q.segments = tree.follow (tree.start p) p.segments := by
    rw [follow_segments, follow_segments, h.ends, hstart, hstart', h.steps, List.map_append,
      follow_append, hplace]
    rfl
  rw [locate_eq, locate_eq, h.hasNul hnul, hfits, hfollow, if_neg h.ne_empty, if_neg hq]

theorem locate_of_locate_join (hcwd : tree.WorksIn cwd) {p : Path} (hp : p.isAbsolute = false)
    (hne : p.text ≠ "") {location : Location} (h : tree.locate (cwd.join p) = .ok location) :
    tree.locate p = .ok location := by
  have hlong := fits_of_locate_eq_ok h
  have hshort : fits p = true :=
    decide_eq_true (Nat.le_trans (cwd.utf8ByteSize_le_join hp) (of_decide_eq_true hlong))
  rw [← h]
  exact (locate_of_twin hcwd (Path.twin_join hcwd.absolute hp hne) (hlong.trans hshort.symm)).symm

lemma exists_locate_of_join (hcwd : tree.WorksIn cwd) {p : Path} (hp : p.isAbsolute = false)
    (hne : p.text ≠ "") {good : Location → Prop}
    (h : ∃ location, tree.locate (cwd.join p) = .ok location ∧ good location) :
    ∃ location, tree.locate p = .ok location ∧ good location :=
  h.imp fun _ h => ⟨locate_of_locate_join hcwd hp hne h.1, h.2⟩

open SaltConventions.Path (innerComponent?) in
/-- Segments that do not go up lead down by the names they stand for. -/
lemma map_name_of_follow {here there : Location} {segments : List String}
    (h : tree.follow here segments = .ok there) (hup : .up ∉ segments.filterMap innerComponent?) :
    there.map Component.name = here.map Component.name ++ segments.filterMap innerComponent? := by
  induction segments generalizing here with
  | nil =>
    obtain rfl := Except.ok.inj h
    simp
  | cons segment later ih =>
    rw [follow] at h
    split at h
    next => cases h
    split at h
    next hidle =>
      rw [List.filterMap_cons_none (Path.innerComponent?_eq_none_iff.mpr hidle)] at hup ⊢
      exact ih h hup
    next hidle =>
      split at h
      next hdots => simp [innerComponent?, hdots] at hup
      next hdots =>
        have hname : innerComponent? segment = some (.name segment) := by
          simp [innerComponent?, hidle, hdots]
        rw [List.filterMap_cons_some hname] at hup ⊢
        split at h
        next => cases h
        dsimp only at h
        split at h
        next =>
          rw [ih h fun hlater => hup (List.mem_cons_of_mem _ hlater)]
          simp
        next => cases h

lemma components_of_locate {p : Path} (habs : p.isAbsolute = true) (hup : .up ∉ p.components)
    {location : Location} (h : tree.locate p = .ok location) :
    p.components = .root :: location.map Component.name := by
  have hstart : tree.start p = [] := by rw [start, if_pos habs]
  obtain ⟨-, -, -, hfollow⟩ := locate_eq_ok_iff.mp h
  rw [Path.components_of_absolute habs] at hup ⊢
  rw [hstart] at hfollow
  rw [map_name_of_follow hfollow fun hmem => hup (List.mem_cons_of_mem _ hmem)]
  rfl

/-- A path to a place in the working directory starts with the working directory, if both are
written in full. -/
theorem startsWith_of_locate (hcwd : tree.WorksIn cwd) (hcwdup : .up ∉ cwd.components) {p : Path}
    (habs : p.isAbsolute = true) (hup : .up ∉ p.components) {location : Location}
    (h : tree.locate p = .ok location) (hbelow : tree.cwd <+: location) :
    p.startsWith cwd = true := by
  rw [Path.startsWith, List.isPrefixOf_iff_prefix, components_of_locate habs hup h,
    components_of_locate hcwd.absolute hcwdup hcwd.place]
  exact (List.prefix_cons_inj _).mpr (hbelow.map _)

end FileTree

end SaltConventions
