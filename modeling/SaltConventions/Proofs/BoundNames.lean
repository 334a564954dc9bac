import Mathlib.Tactic.ByContra
import Mathlib.Tactic.Lemma
import SaltConventions.Bindings

/-!
# What bound names stand for

Names are bound one after the other and the first binding of a name stays. A dotted name stands for
the module that its longest bound prefix is bound to, with the rest of the name behind it; it stands
for nothing if no prefix is bound. Prefixes end in front of a dot or at the end.
-/

namespace SaltConventions

/-- In a list that is sorted by a strict order, a search stops at the first element of this order with
a result. -/
lemma findSome?_eq_some_iff_of_pairwise {α β : Type} {before : α → α → Prop} {xs : List α}
    (hsorted : xs.Pairwise before) (hstrict : ∀ a b, before a b → ¬before b a) {f : α → Option β}
    {b : β} : xs.findSome? f = some b ↔
      ∃ a ∈ xs, f a = some b ∧ ∀ earlier ∈ xs, before earlier a → f earlier = none := by
  rw [List.findSome?_eq_some_iff]
  constructor
  · rintro ⟨front, a, back, rfl, hfound, hfront⟩
    refine ⟨a, by simp, hfound, fun earlier hmem hearlier => ?_⟩
    rw [List.pairwise_append] at hsorted
    rcases List.mem_append.mp hmem with hmem | hmem
    · exact hfront earlier hmem
    · rcases List.mem_cons.mp hmem with rfl | hback
      · exact absurd hearlier (hstrict _ _ hearlier)
      · exact absurd hearlier (hstrict _ _ ((List.pairwise_cons.mp hsorted.2.1).1 _ hback))
  · rintro ⟨a, hmem, hfound, hearlier⟩
    obtain ⟨front, back, rfl⟩ := List.append_of_mem hmem
    refine ⟨front, a, back, rfl, hfound, fun earlier hfront => ?_⟩
    exact hearlier earlier (List.mem_append_left _ hfront)
      ((List.pairwise_append.mp hsorted).2.2 _ hfront _ List.mem_cons_self)

/-! ### Dotted prefixes -/

/-- A dotted name is cut into a prefix and a rest, in front of a dot or at the end. -/
def DottedCut (dotted name rest : String) : Prop :=
  dotted = name ++ rest ∧ (rest = "" ∨ ∃ tail, rest = "." ++ tail)

lemma DottedCut.append {dotted name rest more : String} (h : DottedCut dotted name rest)
    (hmore : more = "" ∨ ∃ tail, more = "." ++ tail) : DottedCut (dotted ++ more) name (rest ++ more) := by
  obtain ⟨rfl, hrest⟩ := h
  refine ⟨String.append_assoc, ?_⟩
  rcases hrest with rfl | ⟨tail, rfl⟩
  · rwa [String.empty_append]
  · exact .inr ⟨tail ++ more, String.append_assoc⟩

namespace Text

lemma mem_dotCuts {cs a b : List Char} :
    (a, b) ∈ dotCuts cs ↔ cs = a ++ b ∧ (b = [] ∨ ∃ tail, b = '.' :: tail) := by
  induction cs generalizing a with
  | nil =>
    simp only [dotCuts, List.mem_singleton, Prod.mk.injEq]
    constructor
    · rintro ⟨rfl, rfl⟩
      exact ⟨rfl, .inl rfl⟩
    · rintro ⟨h, -⟩
      exact List.append_eq_nil_iff.mp h.symm
  | cons c cs ih =>
    have hlonger : (a, b) ∈ (dotCuts cs).map (fun cut => (c :: cut.1, cut.2)) ↔
        ∃ a', a = c :: a' ∧ cs = a' ++ b ∧ (b = [] ∨ ∃ tail, b = '.' :: tail) := by
      simp only [List.mem_map, Prod.exists, Prod.mk.injEq]
      constructor
      · rintro ⟨a', b', hm, rfl, rfl⟩
        exact ⟨a', rfl, ih.mp hm⟩
      · rintro ⟨a', rfl, hcut⟩
        exact ⟨a', b, ih.mpr hcut, rfl, rfl⟩
    have hcuts : (a, b) ∈ dotCuts (c :: cs) ↔
        (c = '.' ∧ a = [] ∧ b = c :: cs) ∨ (a, b) ∈ (dotCuts cs).map fun cut => (c :: cut.1, cut.2) := by
      rw [dotCuts]
      by_cases hc : c = '.' <;> simp [hc]
    rw [hcuts, hlonger]
    cases a with
    | nil => grind
    | cons d a' => grind

lemma pairwise_dotCuts (cs : List Char) :
    (dotCuts cs).Pairwise fun a b => a.1.length < b.1.length := by
  induction cs with
  | nil => exact List.pairwise_singleton _ _
  | cons c cs ih =>
    have hlonger : ((dotCuts cs).map fun cut => (c :: cut.1, cut.2)).Pairwise
        fun a b => a.1.length < b.1.length := by
      rw [List.pairwise_map]
      exact ih.imp fun h => Nat.succ_lt_succ h
    unfold dotCuts
    by_cases hc : c = '.'
    · rw [if_pos hc, List.pairwise_cons]
      refine ⟨?_, hlonger⟩
      intro cut hcut
      obtain ⟨shorter, -, rfl⟩ := List.mem_map.mp hcut
      exact Nat.succ_pos _
    · rw [if_neg hc]
      exact hlonger

lemma getLast?_dotCuts (cs : List Char) : (dotCuts cs).getLast? = some (cs, []) := by
  induction cs with
  | nil => rfl
  | cons c cs ih =>
    have hlonger : ((dotCuts cs).map fun cut => (c :: cut.1, cut.2)).getLast? =
        some (c :: cs, []) := by
      rw [List.getLast?_map, ih, Option.map_some]
    rw [dotCuts]
    split
    · rw [List.getLast?_cons, hlonger, Option.getD_some]
    · exact hlonger

end Text

lemma mem_dotCuts_toList {dotted name rest : String} :
    (name.toList, rest.toList) ∈ Text.dotCuts dotted.toList ↔ DottedCut dotted name rest := by
  have htail : (∃ tail, rest.toList = '.' :: tail) ↔ ∃ tail, rest = "." ++ tail := by
    constructor
    · rintro ⟨tail, h⟩
      exact ⟨String.ofList tail, String.toList_inj.mp (by simpa using h)⟩
    · rintro ⟨tail, rfl⟩
      exact ⟨tail.toList, by simp⟩
  rw [Text.mem_dotCuts, DottedCut, htail, ← String.toList_append, String.toList_inj,
    String.toList_eq_nil_iff]

lemma isWithin_iff {module root : String} :
    isWithin module root = true ↔ ∃ rest, DottedCut module root rest := by
  have hstrip : ∀ rest : List Char, Text.stripPrefix? root.toList module.toList = some rest ↔
      module = root ++ String.ofList rest := by
    intro rest
    rw [Text.stripPrefix?_eq_some_iff, ← String.toList_inj]
    simp
  unfold isWithin DottedCut
  constructor
  · intro h
    split at h
    · rename_i heq
      exact ⟨_, (hstrip _).mp heq, .inl rfl⟩
    · rename_i c tail heq
      obtain rfl : c = '.' := by simpa using h
      exact ⟨_, (hstrip _).mp heq, .inr ⟨String.ofList tail, String.toList_inj.mp (by simp)⟩⟩
    · cases h
  · rintro ⟨rest, hmodule, hrest⟩
    have heq := (hstrip rest.toList).mpr (by rw [String.ofList_toList, hmodule])
    rw [heq]
    rcases hrest with rfl | ⟨tail, rfl⟩
    · rfl
    · simp

/-! ### Bindings made one after the other -/

namespace Bindings

/-- Binds names one after the other. -/
def bindAll (b : Bindings) (pairs : List (String × String)) : Bindings :=
  pairs.foldl (fun b pair => b.bind pair.1 pair.2) b

lemma bindAll_append (b : Bindings) (xs ys : List (String × String)) :
    b.bindAll (xs ++ ys) = (b.bindAll xs).bindAll ys :=
  List.foldl_append ..

lemma get?_bind (b : Bindings) (name target key : String) :
    (b.bind name target).get? key = (b.get? key).or (if name == key then some target else none) := by
  unfold bind
  split
  · rename_i hbound
    by_cases hk : name == key
    · obtain rfl := beq_iff_eq.mp hk
      obtain ⟨found, hfound⟩ := Option.isSome_iff_exists.mp hbound
      rw [hfound, Option.some_or]
    · rw [if_neg hk, Option.or_none]
  · simp only [get?, List.find?_append, Option.map_or]
    congr 1
    by_cases hk : name == key <;> simp_all

lemma get?_bindAll (b : Bindings) (pairs : List (String × String)) (key : String) :
    (b.bindAll pairs).get? key = (b.get? key).or ((pairs.find? (·.1 == key)).map (·.2)) := by
  induction pairs generalizing b with
  | nil => simp [bindAll]
  | cons pair later ih =>
    have hnext : b.bindAll (pair :: later) = (b.bind pair.1 pair.2).bindAll later := rfl
    rw [hnext, ih, get?_bind, Option.or_assoc, List.find?_cons]
    congr 1
    by_cases hk : pair.1 == key <;> simp [hk]

lemma bindImport_eq_bindAll (b : Bindings) (keep : String → Bool) (names : List Alias) :
    b.bindImport keep names =
      b.bindAll ((names.filter fun a => keep a.name).map fun a => (a.bound, a.name)) := by
  rw [bindImport, bindAll, List.foldl_map]

lemma bindFrom_eq_bindAll (b : Bindings) (module : String) (names : List Alias) :
    b.bindFrom module names = b.bindAll ((names.filter (·.name != "*")).map
      fun a => (a.bound, memberPath module a.name)) := by
  rw [bindFrom, bindAll, List.foldl_map]

lemma get?_empty_bindAll (pairs : List (String × String)) (key : String) :
    (empty.bindAll pairs).get? key = (pairs.find? (·.1 == key)).map (·.2) := by
  rw [get?_bindAll]
  rfl

end Bindings

/-- The first of some pairs that has a name gives it this target. -/
def FirstBinding (pairs : List (String × String)) (name target : String) : Prop :=
  ∃ before after, pairs = before ++ (name, target) :: after ∧ ∀ pair ∈ before, pair.1 ≠ name

lemma Bindings.get?_eq_some_iff {pairs : List (String × String)} {name target : String} :
    (empty.bindAll pairs).get? name = some target ↔ FirstBinding pairs name target := by
  rw [get?_empty_bindAll, Option.map_eq_some_iff]
  constructor
  · rintro ⟨⟨found, _⟩, hfind, rfl⟩
    obtain ⟨hname, before, after, hpairs, hbefore⟩ := List.find?_eq_some_iff_append.mp hfind
    obtain rfl : found = name := beq_iff_eq.mp hname
    exact ⟨before, after, hpairs, fun pair hp => by simpa using hbefore pair hp⟩
  · rintro ⟨before, after, hpairs, hbefore⟩
    refine ⟨(name, target), List.find?_eq_some_iff_append.mpr ⟨by simp, before, after, hpairs, ?_⟩, rfl⟩
    intro pair hp
    simpa using hbefore pair hp

lemma Bindings.get?_eq_none_iff {pairs : List (String × String)} {name : String} :
    (empty.bindAll pairs).get? name = none ↔ ∀ target, (name, target) ∉ pairs := by
  rw [get?_empty_bindAll, Option.map_eq_none_iff, List.find?_eq_none]
  constructor
  · intro h target hm
    exact h _ hm (by simp)
  · rintro h ⟨found, target⟩ hm heq
    obtain rfl : found = name := beq_iff_eq.mp heq
    exact h target hm

/-! ### Longest bound prefixes -/

/-- Some prefix of a dotted name is bound. -/
def HasBoundPrefix (pairs : List (String × String)) (dotted : String) : Prop :=
  ∃ name rest target, DottedCut dotted name rest ∧ (name, target) ∈ pairs

/-- A dotted name stands for a module: for what its longest bound prefix is bound to first, with the
rest of the name behind it. -/
def StandsFor (pairs : List (String × String)) (dotted module : String) : Prop :=
  ∃ name rest target, DottedCut dotted name rest ∧ FirstBinding pairs name target ∧
    (∀ other rest' target', DottedCut dotted other rest' → (other, target') ∈ pairs →
      other.length ≤ name.length) ∧
    module = target ++ rest

lemma FirstBinding.mem {pairs : List (String × String)} {name target : String}
    (h : FirstBinding pairs name target) : (name, target) ∈ pairs := by
  obtain ⟨before, after, rfl, -⟩ := h
  simp

lemma StandsFor.hasBoundPrefix {pairs : List (String × String)} {dotted module : String}
    (h : StandsFor pairs dotted module) : HasBoundPrefix pairs dotted := by
  obtain ⟨name, rest, target, hcut, hfirst, -⟩ := h
  exact ⟨name, rest, target, hcut, hfirst.mem⟩

namespace Bindings

lemma qualify?_eq_none_iff {pairs : List (String × String)} {dotted : String} :
    (empty.bindAll pairs).qualify? dotted = none ↔ ¬HasBoundPrefix pairs dotted := by
  rw [qualify?, List.findSome?_eq_none_iff]
  constructor
  · rintro h ⟨name, rest, target, hcut, hm⟩
    have hnone := h _ (List.mem_reverse.mpr (mem_dotCuts_toList.mpr hcut))
    rw [Option.map_eq_none_iff, String.ofList_toList, get?_eq_none_iff] at hnone
    exact hnone target hm
  · rintro h ⟨name, rest⟩ hm
    rw [Option.map_eq_none_iff, get?_eq_none_iff]
    intro target hbound
    refine h ⟨String.ofList name, String.ofList rest, target, mem_dotCuts_toList.mp ?_, hbound⟩
    simpa using hm

lemma qualify?_eq_some_iff {pairs : List (String × String)} {dotted module : String} :
    (empty.bindAll pairs).qualify? dotted = some module ↔ StandsFor pairs dotted module := by
  have hsorted : (Text.dotCuts dotted.toList).reverse.Pairwise
      fun a b => b.1.length < a.1.length :=
    List.pairwise_reverse.mpr (Text.pairwise_dotCuts _)
  rw [qualify?, findSome?_eq_some_iff_of_pairwise hsorted fun _ _ => Nat.lt_asymm]
  simp only [List.mem_reverse, Option.map_eq_some_iff, Option.map_eq_none_iff, get?_eq_some_iff,
    get?_eq_none_iff]
  constructor
  · rintro ⟨⟨name, rest⟩, hcut, ⟨target, hfirst, rfl⟩, hlonger⟩
    refine ⟨String.ofList name, String.ofList rest, target,
      mem_dotCuts_toList.mp (by simpa using hcut), hfirst, ?_, rfl⟩
    intro other rest' target' hother hm
    by_contra hlength
    rw [String.length_ofList, ← String.length_toList] at hlength
    -- Longer prefixes were tried before and are not bound.
    exact hlonger _ (mem_dotCuts_toList.mpr hother) (Nat.lt_of_not_le hlength) target'
      (by simpa using hm)
  · rintro ⟨name, rest, target, hcut, hfirst, hlongest, rfl⟩
    refine ⟨_, mem_dotCuts_toList.mpr hcut, ⟨target, by simpa using hfirst, by simp⟩, ?_⟩
    rintro ⟨other, rest'⟩ hother hlonger target' hm
    have hle := hlongest (String.ofList other) (String.ofList rest') target'
      (mem_dotCuts_toList.mp (by simpa using hother)) hm
    rw [String.length_ofList, ← String.length_toList] at hle
    exact absurd hle (Nat.not_le_of_lt hlonger)

/-- A chain of names that is bound as a whole stands for the same with its prefixes looked at. -/
theorem qualify?_of_resolve? {b : Bindings} {e : Expr} {module : String}
    (h : b.resolve? e = some module) : e.dotted?.bind b.qualify? = some module := by
  obtain ⟨dotted, hdotted, hbound⟩ := Option.bind_eq_some_iff.mp h
  obtain ⟨shorter, hcuts⟩ := List.getLast?_eq_some_iff.mp (Text.getLast?_dotCuts dotted.toList)
  rw [hdotted, Option.bind_some, qualify?, hcuts, List.reverse_append, List.reverse_singleton,
    List.singleton_append, List.findSome?_cons_of_isSome]
  all_goals simp [hbound]

end Bindings

end SaltConventions
