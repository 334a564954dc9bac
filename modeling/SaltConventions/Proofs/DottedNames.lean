import Mathlib.Data.List.Infix
import SaltConventions.Modules.Environment
import SaltConventions.Proofs.BoundNames
import SaltConventions.Proofs.ImportAdvice

/-!
# Stripping dotted names

A dotted name is shortened by its last component, as long as it has a dot. The parts of a name that
are tried one after the other are the ones that arise like this; they are the leading components of
the name, longest first, so a search that stops at the first hit stops at the longest one.
-/

namespace SaltConventions

/-- A dotted text is a shorter one with a last component behind it. -/
def Strips (longer shorter last : String) : Prop :=
  longer = shorter ++ "." ++ last ∧ '.' ∉ last.toList

lemma exists_strips {text : String} (h : '.' ∈ text.toList) :
    ∃ shorter last, Strips text shorter last := by
  obtain ⟨back, front, hreverse, hback⟩ :=
    List.eq_append_cons_of_mem (List.mem_reverse.mpr h)
  have htext := congrArg List.reverse hreverse
  rw [List.reverse_reverse] at htext
  refine ⟨String.ofList front.reverse, String.ofList back.reverse, String.toList_inj.mp ?_, ?_⟩
  · simp [htext]
  · simpa using hback

lemma Strips.length_lt {longer shorter last : String} (h : Strips longer shorter last) :
    shorter.length < longer.length := by
  obtain ⟨rfl, -⟩ := h
  simp only [String.length_append]
  have hdot : ".".length = 1 := rfl
  omega

/-- Every text is reached from a single component by putting components behind it. -/
theorem stripInduction {motive : String → Prop}
    (single : ∀ text, '.' ∉ text.toList → motive text)
    (strip : ∀ longer shorter last, Strips longer shorter last → motive shorter → motive longer)
    (text : String) : motive text := by
  induction hn : text.length using Nat.strong_induction_on generalizing text with
  | _ n ih =>
    subst hn
    by_cases hdot : '.' ∈ text.toList
    · obtain ⟨shorter, last, h⟩ := exists_strips hdot
      exact strip text shorter last h (ih shorter.length h.length_lt shorter rfl)
    · exact single text hdot

/-! ### Components -/

lemma dottedParts_of_no_dot {text : String} (h : '.' ∉ text.toList) :
    dottedParts text = [text] :=
  Text.splitAt_of_not_mem h

lemma Strips.dottedParts_eq {longer shorter last : String} (h : Strips longer shorter last) :
    dottedParts longer = dottedParts shorter ++ [last] := by
  obtain ⟨rfl, hlast⟩ := h
  rw [← dottedParts_of_no_dot hlast]
  exact Text.splitAt_append rfl shorter last

/-! ### The parts that are tried -/

lemma Text.dotCuts_of_no_dot {cs : List Char} (h : '.' ∉ cs) : dotCuts cs = [(cs, [])] := by
  induction cs with
  | nil => rfl
  | cons c cs ih =>
    have hc : c ≠ '.' := fun hc => h (hc ▸ List.mem_cons_self)
    rw [dotCuts, if_neg hc, ih fun hmem => h (List.mem_cons_of_mem _ hmem)]
    rfl

lemma Text.map_dotCuts_append {ys : List Char} (h : '.' ∉ ys) (xs : List Char) :
    (dotCuts (xs ++ '.' :: ys)).map Prod.fst = (dotCuts xs).map Prod.fst ++ [xs ++ '.' :: ys] := by
  induction xs with
  | nil => simp [dotCuts, dotCuts_of_no_dot h]
  | cons x xs ih =>
    have hcons : ∀ cs, (dotCuts (x :: cs)).map Prod.fst =
        (if x = '.' then [[]] else []) ++ ((dotCuts cs).map Prod.fst).map (x :: ·) := by
      intro cs
      rw [dotCuts]
      by_cases hx : x = '.' <;> simp [hx]
    rw [List.cons_append, hcons, ih, hcons, List.map_append, List.append_assoc]
    rfl

namespace Environment

lemma candidates_of_no_dot {text : String} (h : '.' ∉ text.toList) : candidates text = [text] := by
  rw [candidates, Text.dotCuts_of_no_dot h]
  simp

lemma candidates_of_strips {longer shorter last : String} (h : Strips longer shorter last) :
    candidates longer = longer :: candidates shorter := by
  obtain ⟨rfl, hlast⟩ := h
  have hcut : (shorter ++ "." ++ last).toList = shorter.toList ++ '.' :: last.toList := by simp
  have hmap : ∀ text : String, candidates text =
      (((Text.dotCuts text.toList).map Prod.fst).map String.ofList).reverse := by
    intro text
    rw [candidates, List.map_map]
    rfl
  rw [hmap, hmap, hcut, Text.map_dotCuts_append hlast, ← hcut]
  simp [String.append_assoc]

lemma mem_candidates {part module : String} :
    part ∈ candidates module ↔ dottedParts part <+: dottedParts module := by
  rw [← isWithin_iff_dottedParts, isWithin_iff, candidates, List.mem_reverse, List.mem_map]
  constructor
  · rintro ⟨⟨name, rest⟩, hcut, rfl⟩
    exact ⟨String.ofList rest, mem_dotCuts_toList.mp (by simpa using hcut)⟩
  · rintro ⟨rest, hcut⟩
    exact ⟨_, mem_dotCuts_toList.mpr hcut, String.ofList_toList⟩

lemma pairwise_candidates (module : String) :
    (candidates module).Pairwise fun a b => b.length < a.length := by
  rw [candidates, List.pairwise_reverse, List.pairwise_map]
  refine (Text.pairwise_dotCuts _).imp fun h => ?_
  simpa using h

end Environment

/-! ### Searching -/

section Search

variable {α : Type} (find : String → Option α)

/-- A search strips a text until something is found or no dot is left. -/
inductive StripSearch : String → Option α → Prop
  | found {text : String} {a : α} (h : find text = some a) : StripSearch text (some a)
  | shorter {text shorter last : String} {found : Option α} (h : find text = none)
      (hstrip : Strips text shorter last) (hlater : StripSearch shorter found) :
      StripSearch text found
  | exhausted {text : String} (h : find text = none) (hdot : '.' ∉ text.toList) :
      StripSearch text none

variable {find}

/-- The search ends, and what it ends with is found by trying the parts one after the other. -/
theorem stripSearch_findSome? (text : String) :
    StripSearch find text ((Environment.candidates text).findSome? find) := by
  induction text using stripInduction with
  | single text hdot =>
    rw [Environment.candidates_of_no_dot hdot]
    cases h : find text with
    | none => simpa [h] using StripSearch.exhausted h hdot
    | some a => simpa [h] using StripSearch.found h
  | strip longer shorter last hstrip ih =>
    rw [Environment.candidates_of_strips hstrip]
    cases h : find longer with
    | none => simpa [h] using StripSearch.shorter h hstrip ih
    | some a => simpa [h] using StripSearch.found h

theorem StripSearch.eq_findSome? {text : String} {found : Option α}
    (h : StripSearch find text found) :
    found = (Environment.candidates text).findSome? find := by
  induction h with
  | @found text a h =>
    by_cases hdot : '.' ∈ text.toList
    · obtain ⟨shorter, last, hstrip⟩ := exists_strips hdot
      simp [Environment.candidates_of_strips hstrip, h]
    · simp [Environment.candidates_of_no_dot hdot, h]
  | shorter h hstrip _ ih => simp [Environment.candidates_of_strips hstrip, h, ih]
  | exhausted h hdot => simp [Environment.candidates_of_no_dot hdot, h]

end Search

end SaltConventions
