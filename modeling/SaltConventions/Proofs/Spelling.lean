import Mathlib.Tactic.ByContra
import Mathlib.Tactic.Lemma
import SaltConventions.FileTree

/-!
# Spellings of a path

The components of a path are what its beginning counts for, the root or a leading dot, followed by
the steps that its segments stand for. Joining adds steps, and the parent is a beginning of the text
without the last one. Looking a path up in a file tree follows the steps alone: two spellings of the
same components lead to the same place, if they lead anywhere.
-/

namespace SaltConventions

/-- Whether a component is a step from one place to another. -/
def Component.isStep : Component → Bool
  | root | here => false
  | up | name _ => true

namespace Path

/-! ### Segments and components -/

def steps (p : Path) : List Component :=
  p.segments.filterMap innerComponent?

/-- What the beginning of a path counts for by itself. -/
def lead (p : Path) : List Component :=
  if p.isAbsolute then [.root]
  else if p.segments.head? = some "." then [.here]
  else []

lemma segments_ne_nil (p : Path) : p.segments ≠ [] := by
  simp [segments, Text.splitAt, Text.pieces_ne_nil]

lemma segments_append_slash (front back : String) :
    segments ⟨front ++ "/" ++ back⟩ = segments ⟨front⟩ ++ segments ⟨back⟩ :=
  Text.splitAt_append rfl front back

lemma segments_of_no_slash {text : String} (h : '/' ∉ text.toList) : segments ⟨text⟩ = [text] :=
  Text.splitAt_of_not_mem h

lemma isAbsolute_of_no_slash {text : String} (h : '/' ∉ text.toList) : isAbsolute ⟨text⟩ = false :=
  beq_eq_false_iff_ne.mpr fun hhead => h (List.mem_of_head? hhead)

lemma head?_segments_eq_empty_iff {p : Path} :
    p.segments.head? = some "" ↔ p.text = "" ∨ p.isAbsolute = true := by
  unfold segments Text.splitAt isAbsolute
  cases hp : p.text.toList with
  | nil =>
    have htext : p.text = "" := String.toList_eq_nil_iff.mp hp
    simp [htext, Text.pieces]
  | cons c cs =>
    have htext : p.text ≠ "" := fun h => by simp [h] at hp
    obtain ⟨piece, later, hpieces⟩ :=
      List.exists_cons_of_ne_nil (Text.pieces_ne_nil (· == '/') cs)
    rw [Text.pieces_cons, hpieces]
    by_cases hc : c = '/' <;> simp [hc, htext]

lemma steps_of_no_slash {text : String} (h : '/' ∉ text.toList) :
    steps ⟨text⟩ = (innerComponent? text).toList := by
  rw [steps, segments_of_no_slash h]
  cases hc : innerComponent? text <;> simp [hc]

theorem components_eq (p : Path) : p.components = p.lead ++ p.steps := by
  obtain ⟨first, later, hp⟩ := List.exists_cons_of_ne_nil p.segments_ne_nil
  have hhead : p.segments.head? = some first := by rw [hp]; rfl
  unfold components lead steps
  rw [hhead, hp]
  by_cases habs : p.isAbsolute = true
  · obtain rfl : first = "" := by
      simpa [head?_segments_eq_empty_iff.mpr (.inr habs), eq_comm] using hhead
    simp [habs, innerComponent?]
  · by_cases hdot : first = "."
    · simp [habs, hdot, innerComponent?]
    · cases hc : innerComponent? first <;> simp [habs, hdot, hc]

lemma components_eq_nil_iff {p : Path} : p.components = [] ↔ p.text = "" := by
  constructor
  · intro h
    by_contra htext
    obtain ⟨hlead, hsteps⟩ := List.append_eq_nil_iff.mp (p.components_eq ▸ h)
    have habs : p.isAbsolute ≠ true := fun habs => by simp [lead, habs] at hlead
    obtain ⟨first, later, hp⟩ := List.exists_cons_of_ne_nil p.segments_ne_nil
    have hfirst : first ≠ "" := by
      rintro rfl
      exact (head?_segments_eq_empty_iff.mp (by rw [hp]; rfl)).elim htext habs
    have hdot : first ≠ "." := by
      rintro rfl
      simp [lead, habs, hp] at hlead
    have hstep : innerComponent? first = none :=
      List.filterMap_eq_nil_iff.mp hsteps first (by rw [hp]; exact List.mem_cons_self)
    by_cases hup : first = ".." <;> simp [innerComponent?, hfirst, hdot, hup] at hstep
  · intro h
    obtain ⟨text⟩ := p
    obtain rfl : text = "" := h
    rfl

lemma isStep_of_mem_steps {p : Path} {c : Component} (h : c ∈ p.steps) : c.isStep = true := by
  obtain ⟨segment, -, hc⟩ := List.mem_filterMap.mp h
  unfold innerComponent? at hc
  split at hc
  · cases hc
  · split at hc <;> cases hc <;> rfl

lemma isStep_of_mem_lead {p : Path} {c : Component} (h : c ∈ p.lead) : c.isStep = false := by
  unfold lead at h
  split at h
  · rw [List.mem_singleton.mp h]; rfl
  · split at h
    · rw [List.mem_singleton.mp h]; rfl
    · cases h

lemma steps_eq_filter (p : Path) : p.steps = p.components.filter Component.isStep := by
  have hlead : p.lead.filter Component.isStep = [] := by
    simpa using fun c hc => isStep_of_mem_lead hc
  have hsteps : p.steps.filter Component.isStep = p.steps :=
    List.filter_eq_self.mpr fun c hc => isStep_of_mem_steps hc
  rw [components_eq, List.filter_append, hlead, hsteps, List.nil_append]

lemma isAbsolute_iff {p : Path} : p.isAbsolute = true ↔ .root ∈ p.components := by
  rw [components_eq, List.mem_append]
  constructor
  · intro h
    simp [lead, h]
  · rintro (h | h)
    · by_contra habs
      unfold lead at h
      split at h <;> simp_all
    · exact absurd (isStep_of_mem_steps h) Bool.false_ne_true

lemma isAbsolute_congr {p q : Path} (h : p.components = q.components) :
    p.isAbsolute = q.isAbsolute := by
  rw [Bool.eq_iff_iff, isAbsolute_iff, isAbsolute_iff, h]

/-! ### Joining -/

lemma segments_slash (front : String) : segments ⟨front ++ "/"⟩ = segments ⟨front⟩ ++ [""] := by
  have hslash : front ++ "/" = front ++ "/" ++ "" := by simp
  rw [hslash, segments_append_slash]
  rfl

lemma head?_segments_append (front : String) (rest : List String) :
    (segments ⟨front⟩ ++ rest).head? = (segments ⟨front⟩).head? := by
  obtain ⟨first, later, hfront⟩ := List.exists_cons_of_ne_nil (segments_ne_nil ⟨front⟩)
  rw [hfront]
  rfl

lemma components_append_slash (front back : String) :
    components ⟨front ++ "/" ++ back⟩ = components ⟨front ++ "/"⟩ ++ steps ⟨back⟩ := by
  have habs : isAbsolute ⟨front ++ "/" ++ back⟩ = isAbsolute ⟨front ++ "/"⟩ := by
    simp [isAbsolute]
  have hlead : lead ⟨front ++ "/" ++ back⟩ = lead ⟨front ++ "/"⟩ := by
    simp only [lead, habs, segments_append_slash, segments_slash, head?_segments_append]
  have hempty : innerComponent? "" = none := rfl
  have hsteps : steps ⟨front ++ "/" ++ back⟩ = steps ⟨front ++ "/"⟩ ++ steps ⟨back⟩ := by
    simp [steps, segments_append_slash, segments_slash, hempty]
  rw [components_eq, components_eq, hlead, hsteps, List.append_assoc]

lemma components_slash {front : String} (h : front ≠ "") :
    components ⟨front ++ "/"⟩ = components ⟨front⟩ := by
  have habs : isAbsolute ⟨front ++ "/"⟩ = isAbsolute ⟨front⟩ := by
    obtain ⟨c, cs, hfront⟩ := List.exists_cons_of_ne_nil fun hnil => h (String.toList_eq_nil_iff.mp hnil)
    simp [isAbsolute, hfront]
  have hempty : innerComponent? "" = none := rfl
  have hsteps : steps ⟨front ++ "/"⟩ = steps ⟨front⟩ := by simp [steps, segments_slash, hempty]
  rw [components_eq, components_eq, hsteps]
  simp only [lead, habs, segments_slash, head?_segments_append]

lemma join_cases (p : Path) {r : Path} (hr : r.isAbsolute = false) :
    (p.text = "" ∧ p.join r = r) ∨
      ∃ front, p.join r = ⟨front ++ "/" ++ r.text⟩ ∧
        (p.text = front ++ "/" ∨ (p.text = front ∧ front ≠ "")) := by
  obtain ⟨text⟩ := p
  by_cases hempty : text = ""
  · left
    simp [join, hr, hempty]
  · right
    by_cases hslash : text.toList.getLast? = some '/'
    · obtain ⟨cs, hcs⟩ := List.getLast?_eq_some_iff.mp hslash
      have htext : text = String.ofList cs ++ "/" := by
        apply String.toList_injective
        simp [hcs]
      exact ⟨String.ofList cs, by simp [join, hr, hslash, ← htext], .inl htext⟩
    · exact ⟨text, by simp [join, hr, hslash, hempty], .inr ⟨rfl, hempty⟩⟩

theorem components_join (p : Path) {r : Path} (hr : r.isAbsolute = false) :
    (p.join r).components =
      if p.components = [] then r.components else p.components ++ r.steps := by
  rcases join_cases p hr with ⟨hempty, hjoin⟩ | ⟨front, hjoin, hp⟩
  · rw [hjoin, if_pos (components_eq_nil_iff.mpr hempty)]
  · have hfront : p.components = components ⟨front ++ "/"⟩ := by
      obtain ⟨text⟩ := p
      rcases hp with rfl | ⟨rfl, hne⟩
      · rfl
      · exact (components_slash hne).symm
    have hne : p.components ≠ [] := by
      rw [hfront]
      simp [components_eq_nil_iff]
    rw [hjoin, if_neg hne, components_append_slash, hfront]

lemma steps_join (p : Path) {r : Path} (hr : r.isAbsolute = false) :
    (p.join r).steps = p.steps ++ r.steps := by
  have hsteps : r.steps.filter Component.isStep = r.steps :=
    List.filter_eq_self.mpr fun c hc => isStep_of_mem_steps hc
  rw [steps_eq_filter, components_join p hr, steps_eq_filter p]
  split
  next hnil => rw [hnil, List.filter_nil, List.nil_append, ← steps_eq_filter]
  next => rw [List.filter_append, hsteps]

lemma components_join_congr {p q : Path} (h : p.components = q.components) (r : Path) :
    (p.join r).components = (q.join r).components := by
  by_cases hr : r.isAbsolute = true
  · simp [join, hr]
  · rw [components_join p (by simpa using hr), components_join q (by simpa using hr), h]

lemma getLast?_segments_join (p : Path) {r : Path} (hr : r.isAbsolute = false) :
    (p.join r).segments.getLast? = r.segments.getLast? := by
  rcases join_cases p hr with ⟨-, hjoin⟩ | ⟨front, hjoin, -⟩
  · rw [hjoin]
  · obtain ⟨last, hlast⟩ := Option.ne_none_iff_exists'.mp
      (mt List.getLast?_eq_none_iff.mp r.segments_ne_nil)
    rw [hjoin, segments_append_slash, List.getLast?_append, hlast, Option.some_or]

/-! ### The parent -/

lemma slash_cases (text : String) :
    '/' ∉ text.toList ∨ ∃ front back, text = front ++ "/" ++ back ∧ '/' ∉ back.toList := by
  by_cases h : '/' ∈ text.toList
  · right
    obtain ⟨back, front, htext, hback⟩ :=
      List.eq_append_cons_of_mem (List.mem_reverse.mpr h)
    refine ⟨String.ofList front.reverse, String.ofList back.reverse, ?_, by simpa using hback⟩
    apply String.toList_injective
    simpa using congrArg List.reverse htext
  · exact .inl h

lemma dropLast_components_of_no_slash {text : String} (h : '/' ∉ text.toList) :
    (components ⟨text⟩).dropLast = [] := by
  rw [components_eq, steps_of_no_slash h, lead, isAbsolute_of_no_slash h, segments_of_no_slash h]
  by_cases hdot : text = "."
  · simp [hdot, innerComponent?]
  · cases hc : innerComponent? text <;> simp [hdot]

lemma beginning_append (front rest : String) {n : Nat} (hn : n ≤ front.length) :
    beginning ⟨front ++ rest⟩ n = beginning ⟨front⟩ n := by
  rw [← String.length_toList] at hn
  rw [beginning, String.toList_append, List.take_append_of_le_length hn]
  rfl

lemma beginning_length (text : String) : beginning ⟨text⟩ text.length = ⟨text⟩ := by
  rw [beginning, ← String.length_toList, List.take_length, String.ofList_toList]

/-- Unless a path ends at the root, a beginning of its text has all its components but the last. -/
lemma exists_beginning (text : String) (hroot : (components ⟨text⟩).getLast? ≠ some .root) :
    ∃ n ≤ text.length, (beginning ⟨text⟩ n).components = (components ⟨text⟩).dropLast := by
  induction hn : text.length using Nat.strongRecOn generalizing text with
  | ind k ih =>
  rcases slash_cases text with h | ⟨front, back, rfl, hback⟩
  · exact ⟨0, Nat.zero_le _, by rw [dropLast_components_of_no_slash h]; rfl⟩
  -- Behind the last slash there is one component or none.
  · have hone : "/".length = 1 := rfl
    rw [String.length_append, String.length_append, hone] at hn
    rw [components_append_slash, steps_of_no_slash hback] at hroot ⊢
    cases hc : innerComponent? back with
    | some c =>
      refine ⟨(front ++ "/").length, by rw [String.length_append, hone]; omega, ?_⟩
      rw [beginning_append _ _ (Nat.le_refl _), beginning_length, Option.toList_some,
        List.dropLast_concat]
    | none =>
      rw [hc, Option.toList_none, List.append_nil] at hroot
      rw [Option.toList_none, List.append_nil]
      have hfront : front ≠ "" := by
        rintro rfl
        exact hroot rfl
      rw [components_slash hfront] at hroot ⊢
      obtain ⟨n, hle, hcomponents⟩ := ih front.length (by omega) front hroot rfl
      refine ⟨n, by omega, ?_⟩
      rw [String.append_assoc, beginning_append _ _ hle, hcomponents]

lemma parent?_eq_some {p d : Path} (h : p.parent? = some d) :
    p.components ≠ [] ∧ d.components = p.components.dropLast ∧
      ∃ rest, p.text = d.text ++ rest := by
  unfold parent? at h
  split at h
  next => cases h
  next => cases h
  next last _ hlast =>
    have hfound := List.find?_some h
    obtain ⟨n, -, rfl⟩ := List.mem_map.mp (List.mem_of_find?_eq_some h)
    refine ⟨fun hnil => by simp [hnil] at hlast, beq_iff_eq.mp hfound,
      String.ofList (p.text.toList.drop n), ?_⟩
    apply String.toList_injective
    simp [beginning]

lemma parent?_eq_none_iff {p : Path} :
    p.parent? = none ↔ p.components = [] ∨ p.components.getLast? = some .root := by
  obtain ⟨text⟩ := p
  unfold parent?
  split
  next hlast => simp [List.getLast?_eq_none_iff.mp hlast]
  next hlast => simp [hlast]
  next last hroot hlast =>
    have hne : components ⟨text⟩ ≠ [] := fun hnil => by simp [hnil] at hlast
    have hlast_ne : (components ⟨text⟩).getLast? ≠ some .root := by simpa [hlast] using hroot
    obtain ⟨n, hn, hcomponents⟩ := exists_beginning text hlast_ne
    simp only [hne, hlast_ne, or_self, iff_false, List.find?_eq_none, List.mem_map, List.mem_range]
    intro hall
    exact hall _ ⟨n, by omega, rfl⟩ (beq_iff_eq.mpr hcomponents)

/-! ### Looking up -/

/-- Whether a path ends in a segment that stands for nothing, such as the empty one behind a slash at
the end. What it names has to be a directory. -/
def endsIdle (p : Path) : Bool :=
  p.segments.getLast?.any fun segment => (innerComponent? segment).isNone

/-- Whether a path has a character that no name can have. -/
def hasNul (p : Path) : Bool :=
  p.text.toList.any (·.toNat == 0)

lemma hasNul_join (p : Path) {r : Path} (hr : r.isAbsolute = false) :
    (p.join r).hasNul = (p.hasNul || r.hasNul) := by
  have hslash : "/".toList.any (·.toNat == 0) = false := rfl
  unfold hasNul
  rcases join_cases p hr with ⟨hempty, hjoin⟩ | ⟨front, hjoin, hp⟩
  · simp [hjoin, hempty]
  · rcases hp with hp | ⟨hp, -⟩ <;>
      simp only [hjoin, hp, String.toList_append, List.any_append, hslash, Bool.or_false]

lemma endsIdle_join (p : Path) {r : Path} (hr : r.isAbsolute = false) :
    (p.join r).endsIdle = r.endsIdle := by
  rw [endsIdle, getLast?_segments_join p hr, endsIdle]

lemma innerComponent?_eq_none_iff {segment : String} :
    innerComponent? segment = none ↔ segment = "" ∨ segment = "." := by
  unfold innerComponent?
  split
  next h => simpa using h
  next h => split <;> simpa using h

lemma text_of_innerComponent? {segment : String} {c : Component}
    (h : innerComponent? segment = some c) : c.text = segment := by
  unfold innerComponent? at h
  split at h
  · cases h
  · split at h
    next hup => cases h; exact hup.symm
    next => cases h; rfl

end Path

namespace FileTree

open SaltConventions.Path (innerComponent?)

lemma follow_cons_of_not_directory {tree : FileTree} {here : Location}
    (h : tree.isDirectoryAt here ≠ true) (segment : String) (later : List String) :
    tree.follow here (segment :: later) = .error .notDirectory := by
  rw [follow]
  simp [h]

lemma follow_cons_of_idle {tree : FileTree} {here : Location} {segment : String}
    (h : tree.isDirectoryAt here = true) (hidle : innerComponent? segment = none)
    (later : List String) : tree.follow here (segment :: later) = tree.follow here later := by
  rw [follow]
  simp [h, Path.innerComponent?_eq_none_iff.mp hidle]

/-- Following segments is following their steps, and checking for a directory at the end if the last
segment is none. -/
theorem follow_eq (tree : FileTree) (here : Location) (segments : List String) :
    tree.follow here segments =
      (tree.follow here ((segments.filterMap innerComponent?).map Component.text)).bind fun there =>
        if segments.getLast?.any (fun segment => (innerComponent? segment).isNone)
            && !tree.isDirectoryAt there then .error .notDirectory
        else .ok there := by
  induction segments generalizing here with
  | nil => rfl
  | cons segment later ih =>
    by_cases hdir : tree.isDirectoryAt here = true
    · cases hc : innerComponent? segment with
      | none =>
        -- An idle segment is left out, unless it is the last one: then it asks for a directory.
        rw [follow_cons_of_idle hdir hc, ih, List.filterMap_cons_none hc]
        cases later with
        | nil => simp [follow, Except.bind, hdir]
        | cons next rest => rw [List.getLast?_cons_cons]
      | some c =>
        have hidle : ¬(segment = "" ∨ segment = ".") := fun h =>
          by simp [Path.innerComponent?_eq_none_iff.mpr h] at hc
        have htext : (((segment :: later).filterMap innerComponent?).map Component.text) =
            segment :: (later.filterMap innerComponent?).map Component.text := by
          rw [List.filterMap_cons_some hc, List.map_cons, Path.text_of_innerComponent? hc]
        have hlast : (segment :: later).getLast?.any (fun s => (innerComponent? s).isNone) =
            later.getLast?.any fun s => (innerComponent? s).isNone := by
          cases later with
          | nil => simp [hc]
          | cons next rest => rw [List.getLast?_cons_cons]
        rw [htext, hlast, follow, follow]
        simp only [hdir, Bool.not_true, Bool.false_eq_true, ↓reduceIte, hidle]
        split
        · exact ih _
        · split
          · rfl
          · split
            · exact ih _
            · rfl
    -- Nothing leads on from a place that is no directory. If no step is left, the check at the end
    -- says the same.
    · rw [follow_cons_of_not_directory hdir]
      cases hsteps : ((segment :: later).filterMap innerComponent?).map Component.text with
      | cons next rest => rw [follow_cons_of_not_directory hdir]; rfl
      | nil =>
        obtain ⟨last, hlast⟩ := Option.ne_none_iff_exists'.mp
          (mt List.getLast?_eq_none_iff.mp (List.cons_ne_nil segment later))
        have hidle : innerComponent? last = none :=
          List.filterMap_eq_nil_iff.mp (List.map_eq_nil_iff.mp hsteps) last
            (List.mem_of_getLast? hlast)
        simp [hlast, hidle, follow, Except.bind, hdir]

lemma follow_segments (tree : FileTree) (here : Location) (p : Path) :
    tree.follow here p.segments =
      (tree.follow here (p.steps.map Component.text)).bind fun there =>
        if p.endsIdle && !tree.isDirectoryAt there then .error .notDirectory else .ok there :=
  tree.follow_eq here p.segments

def start (tree : FileTree) (p : Path) : Location :=
  if p.isAbsolute then [] else tree.cwd

lemma locate_eq (tree : FileTree) (p : Path) :
    tree.locate p =
      if p.hasNul then .error .badName
      else if p.text = "" then .error .notFound
      else if !fits p then .error .nameTooLong
      else tree.follow (tree.start p) p.segments := rfl

lemma locate_eq_ok_iff {tree : FileTree} {p : Path} {location : Location} :
    tree.locate p = .ok location ↔
      p.hasNul = false ∧ p.text ≠ "" ∧ fits p = true ∧
        tree.follow (tree.start p) p.segments = .ok location := by
  rw [locate_eq]
  cases p.hasNul with
  | true => simp
  | false =>
    by_cases hempty : p.text = ""
    · simp [hempty]
    · cases fits p <;> simp [hempty]

lemma fits_of_locate_eq_ok {tree : FileTree} {p : Path} {location : Location}
    (h : tree.locate p = .ok location) : fits p = true :=
  (locate_eq_ok_iff.mp h).2.2.1

/-- What can be said of a path that names a place: its steps lead there. -/
lemma of_locate_eq_ok {tree : FileTree} {p : Path} {location : Location}
    (h : tree.locate p = .ok location) :
    p.hasNul = false ∧ p.text ≠ "" ∧
      tree.follow (tree.start p) (p.steps.map Component.text) = .ok location := by
  obtain ⟨hnul, hempty, -, hfollow⟩ := locate_eq_ok_iff.mp h
  refine ⟨hnul, hempty, ?_⟩
  rw [follow_segments] at hfollow
  revert hfollow
  cases tree.follow (tree.start p) (p.steps.map Component.text) with
  | error cause => exact fun hfollow => nomatch hfollow
  | ok there =>
    intro hfollow
    simp only [Except.bind] at hfollow
    split at hfollow
    · cases hfollow
    · exact hfollow

lemma isFile_iff {tree : FileTree} {p : Path} :
    tree.isFile p = true ↔
      ∃ location, tree.locate p = .ok location ∧ (tree.fileAt? location).isSome = true := by
  unfold isFile
  cases tree.locate p <;> simp

lemma isDirectory_iff {tree : FileTree} {p : Path} :
    tree.isDirectory p = true ↔
      ∃ location, tree.locate p = .ok location ∧ tree.fileAt? location = none := by
  unfold isDirectory
  cases tree.locate p <;> simp

lemma start_eq_of_components (tree : FileTree) {p q : Path} (h : p.components = q.components) :
    tree.start p = tree.start q := by
  rw [start, start, Path.isAbsolute_congr h]

/-- The steps of a path lead to a place, even if the path is too long to be looked up. -/
def LeadsTo (tree : FileTree) (p : Path) (place : Location) : Prop :=
  tree.follow (tree.start p) (p.steps.map Component.text) = .ok place

lemma LeadsTo.unique {tree : FileTree} {p q : Path} {here there : Location}
    (h : p.components = q.components) (hp : tree.LeadsTo p here) (hq : tree.LeadsTo q there) :
    here = there := by
  rw [LeadsTo, tree.start_eq_of_components h, p.steps_eq_filter, h, ← q.steps_eq_filter, hq] at hp
  exact (Except.ok.inj hp).symm

theorem locate_unique {tree : FileTree} {p q : Path} {here there : Location}
    (h : p.components = q.components) (hp : tree.locate p = .ok here)
    (hq : tree.locate q = .ok there) : here = there :=
  LeadsTo.unique h (of_locate_eq_ok hp).2.2 (of_locate_eq_ok hq).2.2

/-- Two spellings of a path are looked up alike if they are alike in the characters that no name can
have, in their end, and in whether they fit. -/
theorem locate_congr (tree : FileTree) {p q : Path} (h : p.components = q.components)
    (hnul : p.hasNul = q.hasNul) (hends : p.endsIdle = q.endsIdle) (hfits : fits p = fits q) :
    tree.locate p = tree.locate q := by
  have hempty : p.text = "" ↔ q.text = "" := by
    rw [← Path.components_eq_nil_iff, ← Path.components_eq_nil_iff, h]
  have hsteps : p.steps = q.steps := by rw [p.steps_eq_filter, h, ← q.steps_eq_filter]
  have hfollow : tree.follow (tree.start p) p.segments = tree.follow (tree.start q) q.segments := by
    rw [follow_segments, follow_segments, tree.start_eq_of_components h, hsteps, hends]
  rw [locate_eq, locate_eq, hnul, hfits, hfollow]
  simp only [hempty]

end FileTree

end SaltConventions
