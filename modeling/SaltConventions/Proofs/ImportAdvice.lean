import Mathlib.Data.List.Infix
import SaltConventions.Proofs.BoundNames
import SaltConventions.Proofs.Wording

/-!
# Advice on replaced imports

A module is replaced if the components of a listed root are the first ones of its own, and no module
falls under two roots. The table for `from X import Y` has a row for every name; which message the
first fitting row has is told here without regard to the order of the rows, and its advice with both
placeholders filled one after the other is the advice with both filled at once.
-/

namespace SaltConventions

/-! ### Components of a dotted name -/

namespace Text

lemma pieces_isPrefix_iff {mark : Char} {xs ys : List Char} :
    pieces (· == mark) xs <+: pieces (· == mark) ys ↔ ys = xs ∨ ∃ rest, ys = xs ++ mark :: rest := by
  constructor
  · intro h
    induction xs generalizing ys with
    | nil =>
      have hhead : (pieces (· == mark) ys).head? = some [] := by
        obtain ⟨later, hlater⟩ := h
        rw [← hlater]
        rfl
      rw [head?_pieces] at hhead
      cases ys with
      | nil => exact .inl rfl
      | cons y later =>
        have hy : y = mark := by
          by_contra hne
          simp [hne] at hhead
        exact .inr ⟨later, by rw [hy]; rfl⟩
    | cons x xs ih =>
      obtain ⟨piece, more, hpiece⟩ := List.exists_cons_of_ne_nil (pieces_ne_nil (· == mark) xs)
      cases ys with
      | nil =>
        have hnil : pieces (· == mark) [] = [[]] := rfl
        rw [pieces_cons, hpiece, hnil] at h
        by_cases hx : x = mark <;> simp [hx] at h
      | cons y ys =>
        obtain ⟨other, others, hother⟩ := List.exists_cons_of_ne_nil (pieces_ne_nil (· == mark) ys)
        have hboth : x = y ∧ pieces (· == mark) xs <+: pieces (· == mark) ys := by
          rw [pieces_cons, pieces_cons, hpiece, hother] at h
          rw [hpiece, hother]
          by_cases hx : x = mark <;> by_cases hy : y = mark <;> simp_all [List.cons_prefix_cons]
        obtain ⟨rfl, hrest⟩ := hboth
        rcases ih hrest with rfl | ⟨rest, rfl⟩
        · exact .inl rfl
        · exact .inr ⟨rest, rfl⟩
  · rintro (rfl | ⟨rest, rfl⟩)
    · exact List.prefix_rfl
    · rw [pieces_append_cut xs (by simp)]
      exact List.prefix_append _ _

end Text

def dottedParts (dotted : String) : List String :=
  Text.splitAt '.' dotted

/-- A module is a root or one of its submodules if it starts with the components of the root. -/
theorem isWithin_iff_dottedParts {module root : String} :
    isWithin module root = true ↔ dottedParts root <+: dottedParts module := by
  have hparts : dottedParts root <+: dottedParts module ↔
      module = root ∨ ∃ rest : List Char, module.toList = root.toList ++ '.' :: rest := by
    unfold dottedParts Text.splitAt
    rw [List.prefix_map_iff_of_injective fun _ _ => String.ofList_injective, Text.pieces_isPrefix_iff,
      String.toList_inj]
  rw [isWithin_iff, hparts]
  constructor
  · rintro ⟨rest, rfl, rfl | ⟨tail, rfl⟩⟩
    · exact .inl String.append_empty
    · exact .inr ⟨tail.toList, by simp⟩
  · rintro (rfl | ⟨rest, hrest⟩)
    · exact ⟨"", String.append_empty.symm, .inl rfl⟩
    · refine ⟨"." ++ String.ofList rest, ?_, .inr ⟨_, rfl⟩⟩
      apply String.toList_injective
      simpa using hrest

namespace ReplacedImports

/-! ### Replaced roots -/

/-- A module falls under a replaced root. -/
def Replaced (module : String) : Prop :=
  ∃ root ∈ replacedRoots, dottedParts root <+: dottedParts module

instance : DecidablePred Replaced := fun module =>
  inferInstanceAs (Decidable (∃ root ∈ replacedRoots, dottedParts root <+: dottedParts module))

/-- No root has the components of another one in front. -/
lemma eq_of_dottedParts_prefix {module root other : String} (hroot : root ∈ replacedRoots)
    (hother : other ∈ replacedRoots) (h : dottedParts root <+: dottedParts module)
    (h' : dottedParts other <+: dottedParts module) : root = other := by
  have hapart : ∀ root ∈ replacedRoots, ∀ other ∈ replacedRoots,
      (dottedParts root).head? = (dottedParts other).head? → root = other := by
    decide +kernel
  have hhead : ∀ root ∈ replacedRoots, dottedParts root <+: dottedParts module →
      (dottedParts root).head? = (dottedParts module).head? := by
    intro root _ hprefix
    have hne : dottedParts root ≠ [] := by
      simp [dottedParts, Text.splitAt, Text.pieces_ne_nil]
    obtain ⟨later, hlater⟩ := hprefix
    rw [← hlater, List.head?_append_of_ne_nil _ hne]
  exact hapart root hroot other hother ((hhead root hroot h).trans (hhead other hother h').symm)

/-- The root of a module is the one listed root that the module falls under. -/
theorem rootOf?_eq_some_iff {module root : String} :
    rootOf? module = some root ↔ root ∈ replacedRoots ∧ dottedParts root <+: dottedParts module := by
  have hmem : ∀ other, other ∈ replacedRoots.filter (isWithin module) ↔
      other ∈ replacedRoots ∧ dottedParts other <+: dottedParts module := by
    intro other
    rw [List.mem_filter, isWithin_iff_dottedParts]
  have hnodup : (replacedRoots.filter (isWithin module)).Nodup :=
    List.Pairwise.filter _ (by decide)
  rw [rootOf?, ← hmem]
  generalize replacedRoots.filter (isWithin module) = under at hmem hnodup
  match under, hnodup with
  | [], _ => simp [longest?]
  | [other], _ => simp [longest?, eq_comm]
  | first :: second :: later, hnodup =>
    obtain ⟨hfirst, hprefix⟩ := (hmem first).mp (by simp)
    obtain ⟨hsecond, hprefix'⟩ := (hmem second).mp (by simp)
    have hsame := eq_of_dottedParts_prefix hfirst hsecond hprefix hprefix'
    simp [hsame] at hnodup

lemma isSome_rootOf?_iff {module : String} : (rootOf? module).isSome = true ↔ Replaced module := by
  rw [Option.isSome_iff_exists]
  exact exists_congr fun root => rootOf?_eq_some_iff

/-! ### The rows for special modules and for names -/

/-- Modules with a row of their own. -/
def specialModules : List String :=
  ["salttesting.helpers", "salttesting.mock", "mock", "salttesting.parser", "salttesting.case",
    "salttesting.unit", "salttesting.mixins", "six", "distutils.version"]

/-- A module for which a name counts only in one row. -/
def Special (module : String) : Prop :=
  module ∈ specialModules ∨ dottedParts "unittest" <+: dottedParts module ∨
    dottedParts "unittest2" <+: dottedParts module

instance : DecidablePred Special := fun module =>
  inferInstanceAs (Decidable (module ∈ specialModules ∨
    dottedParts "unittest" <+: dottedParts module ∨ dottedParts "unittest2" <+: dottedParts module))

/-- Names that moved to one place from wherever they were imported. -/
def movedSymbols : List String :=
  unitSymbols ++ mixinSymbols ++ caseSymbols

/-- The rows that are about special modules. -/
def specialRows : List FromRow :=
  fromRows.take 12

/-- The rows that are about names, and the one for what is left. -/
def nameRows : List FromRow :=
  fromRows.drop 12

lemma special_of_fits {row : FromRow} (hrow : row ∈ specialRows) {module root : String}
    (h : row.module.fits module root = true) : Special module := by
  simp only [specialRows, fromRows, List.take, List.mem_cons, List.not_mem_nil, or_false] at hrow
  rcases hrow with rfl | rfl | rfl | rfl | rfl | rfl | rfl | rfl | rfl | rfl | rfl | rfl
  case inr.inr.inl =>
    have hmock : ∀ m ∈ mockModules, Special m := by decide +kernel
    exact hmock module (List.contains_iff_mem.mp h)
  all_goals
    simp_all [ModulePattern.fits, Special, specialModules, isWithin_iff_dottedParts]

lemma map_find?_cons {α β : Type} (p : α → Bool) (f : α → β) (a : α) (later : List α) :
    ((a :: later).find? p).map f = if p a then some (f a) else (later.find? p).map f := by
  cases h : p a <;> simp [h]

/-- The first row that is about a name of a module. -/
def rowFor? (module root name : String) : Option FromRow :=
  fromRows.find? fun row => row.module.fits module root && row.name.fits name

/-- For a special module the name counts in one case only. -/
lemma message_of_special {module : String} (h : Special module) (root name : String) :
    (rowFor? module root name).map FromRow.message = some (
      if module = "salttesting.helpers" ∧ name = "ensure_in_syspath" then searchPathUpdate
      else if module = "mock" then replacedExternalModule
      else replacedModule) := by
  have hbeside : ∀ m ∈ specialModules,
      isWithin m "unittest" = false ∧ isWithin m "unittest2" = false := by decide +kernel
  unfold rowFor?
  by_cases hlisted : module ∈ specialModules
  · obtain ⟨hunittest, hunittest2⟩ := hbeside module hlisted
    simp only [specialModules, List.mem_cons, List.not_mem_nil, or_false] at hlisted
    rcases hlisted with rfl | rfl | rfl | rfl | rfl | rfl | rfl | rfl | rfl
    · by_cases hname : name = "ensure_in_syspath" <;>
        simp [fromRows, ModulePattern.fits, NamePattern.fits, hname]
    all_goals
      simp [fromRows, ModulePattern.fits, NamePattern.fits, mockModules, hunittest, hunittest2]
  · have hwithin : isWithin module "unittest" = true ∨ isWithin module "unittest2" = true := by
      rw [isWithin_iff_dottedParts, isWithin_iff_dottedParts]
      exact h.resolve_left hlisted
    simp only [specialModules, List.mem_cons, List.not_mem_nil, or_false, not_or] at hlisted
    by_cases hmock : module ∈ mockModules
    · simp [fromRows, ModulePattern.fits, NamePattern.fits, hlisted, hmock]
    -- The two rows for submodules differ in nothing but the module.
    · cases hunittest : isWithin module "unittest" <;> rw [hunittest] at hwithin <;>
        simp_all [fromRows, ModulePattern.fits, NamePattern.fits]

lemma message_of_not_special {module : String} (h : ¬Special module) (root name : String) :
    (rowFor? module root name).map FromRow.message = some (
      if name = "run_tests" then testExecution
      else if root ∈ testRoots ∧ name ∉ movedSymbols then replacedImport
      else replacedModule) := by
  have hspecial : specialRows.find? (fun row =>
      row.module.fits module root && row.name.fits name) = none := by
    rw [List.find?_eq_none]
    intro row hrow hfits
    exact h (special_of_fits hrow (Bool.and_eq_true_iff.mp hfits).1)
  have hrows : fromRows = specialRows ++ nameRows := (List.take_append_drop 12 fromRows).symm
  have hrun : "run_tests" ∉ movedSymbols := by decide
  rw [rowFor?, hrows, List.find?_append, hspecial, Option.none_or]
  simp only [nameRows, fromRows, List.drop, map_find?_cons, ModulePattern.fits, NamePattern.fits,
    Bool.true_and, Bool.and_true, List.contains_iff_mem, beq_iff_eq, Bool.and_eq_true, if_true,
    movedSymbols, List.mem_append] at hrun ⊢
  grind

end ReplacedImports

/-! ### Placeholders -/

namespace Text

/-- A piece of a template: text to be kept, or a placeholder with a key between braces. -/
inductive Chunk where
  | plain (text : List Char)
  | slot (key : List Char)
  deriving DecidableEq

def Braceless (cs : List Char) : Prop :=
  '{' ∉ cs ∧ '}' ∉ cs

instance : DecidablePred Braceless := fun cs => inferInstanceAs (Decidable ('{' ∉ cs ∧ '}' ∉ cs))

namespace Chunk

def written : Chunk → List Char
  | plain text => text
  | slot key => '{' :: (key ++ ['}'])

/-- What a chunk stands for if every placeholder is filled. -/
def filled (value : List Char → List Char) : Chunk → List Char
  | plain text => text
  | slot key => value key

def fill (key fresh : List Char) : Chunk → Chunk
  | plain text => plain text
  | slot other => if other = key then plain fresh else slot other

/-- A chunk with one of the given keys, or with text that has no braces. -/
def Over (keys : List (List Char)) : Chunk → Prop
  | plain text => Braceless text
  | slot key => key ∈ keys

instance (keys : List (List Char)) : DecidablePred (Over keys)
  | plain text => inferInstanceAs (Decidable (Braceless text))
  | slot key => inferInstanceAs (Decidable (key ∈ keys))

lemma Over.fill {keys : List (List Char)} {chunk : Chunk} (h : chunk.Over keys) (key : List Char)
    {fresh : List Char} (hfresh : Braceless fresh) : (chunk.fill key fresh).Over keys := by
  cases chunk with
  | plain text => exact h
  | slot other =>
    rw [Chunk.fill]
    split
    · exact hfresh
    · exact h

lemma Over.braceless_filled {keys : List (List Char)} {chunk : Chunk} (h : chunk.Over keys)
    {value : List Char → List Char} (hvalue : ∀ key ∈ keys, Braceless (value key)) :
    Braceless (chunk.filled value) := by
  cases chunk with
  | plain text => exact h
  | slot key => exact hvalue key h

end Chunk

lemma braceless_flatMap {α : Type} {f : α → List Char} {as : List α}
    (h : ∀ a ∈ as, Braceless (f a)) : Braceless (as.flatMap f) := by
  unfold Braceless
  simp only [List.mem_flatMap, not_exists, not_and]
  exact ⟨fun a ha => (h a ha).1, fun a ha => (h a ha).2⟩

lemma replaceFrom_append_of_not_mem {c : Char} (pattern fresh : List Char) {cs : List Char}
    (h : c ∉ cs) (rest : List Char) :
    replaceFrom (c :: pattern) fresh 0 (cs ++ rest) =
      cs ++ replaceFrom (c :: pattern) fresh 0 rest := by
  induction cs with
  | nil => rfl
  | cons d later ih =>
    have hne : c ≠ d := fun heq => h (by simp [heq])
    have hlater : c ∉ later := fun hmem => h (List.mem_cons_of_mem d hmem)
    rw [List.cons_append, replaceFrom, stripPrefix?, if_neg hne, ih hlater]
    rfl

lemma replaceFrom_skip (pattern fresh cs rest : List Char) :
    replaceFrom pattern fresh cs.length (cs ++ rest) = replaceFrom pattern fresh 0 rest := by
  induction cs with
  | nil => rfl
  | cons c later ih => rw [List.length_cons, List.cons_append, replaceFrom, ih]

lemma replaceFrom_append_self (c : Char) (pattern fresh rest : List Char) :
    replaceFrom (c :: pattern) fresh 0 (c :: (pattern ++ rest)) =
      fresh ++ replaceFrom (c :: pattern) fresh 0 rest := by
  have hstrip : stripPrefix? (c :: pattern) (c :: (pattern ++ rest)) = some rest :=
    stripPrefix?_eq_some_iff.mpr rfl
  rw [replaceFrom, hstrip]
  simp only [Option.isSome_some, if_true, List.length_cons, Nat.add_sub_cancel]
  rw [replaceFrom_skip]

lemma replaceFrom_slot_of_ne {key other : List Char} (hkey : Braceless key) (hother : Braceless other)
    (hne : other ≠ key) (fresh rest : List Char) :
    replaceFrom ('{' :: (key ++ ['}'])) fresh 0 ('{' :: (other ++ ['}']) ++ rest) =
      '{' :: (other ++ ['}']) ++ replaceFrom ('{' :: (key ++ ['}'])) fresh 0 rest := by
  have hstrip : stripPrefix? ('{' :: (key ++ ['}'])) ('{' :: (other ++ ['}'] ++ rest)) = none := by
    by_contra hsome
    obtain ⟨tail, htail⟩ := Option.ne_none_iff_exists'.mp hsome
    have hsame : other ++ '}' :: rest = key ++ '}' :: tail := by
      simpa using stripPrefix?_eq_some_iff.mp htail
    have hkeys := congrArg (List.takeWhile (· != '}')) hsame
    rw [takeWhile_append_mark hother.2, takeWhile_append_mark hkey.2] at hkeys
    exact hne hkeys
  have hopen : '{' ∉ other ++ ['}'] := by
    simp [hother.1]
  rw [List.cons_append, replaceFrom, hstrip, replaceFrom_append_of_not_mem _ _ hopen]
  rfl

theorem replaceFrom_written {keys : List (List Char)} (hkeys : ∀ key ∈ keys, Braceless key)
    {key : List Char} (hkey : key ∈ keys) (fresh : List Char) {chunks : List Chunk}
    (h : ∀ chunk ∈ chunks, chunk.Over keys) :
    replaceFrom ('{' :: (key ++ ['}'])) fresh 0 (chunks.flatMap Chunk.written) =
      (chunks.map (Chunk.fill key fresh)).flatMap Chunk.written := by
  induction chunks with
  | nil => rfl
  | cons chunk later ih =>
    obtain ⟨hchunk, hlater⟩ := List.forall_mem_cons.mp h
    rw [List.flatMap_cons, List.map_cons, List.flatMap_cons, ← ih hlater]
    cases chunk with
    | plain text => exact replaceFrom_append_of_not_mem _ fresh hchunk.1 _
    | slot other =>
      by_cases heq : other = key
      · simp only [Chunk.fill, heq, if_true, Chunk.written, List.cons_append]
        exact replaceFrom_append_self '{' (key ++ ['}']) fresh _
      · simp only [Chunk.fill, if_neg heq]
        exact replaceFrom_slot_of_ne (hkeys key hkey) (hkeys other hchunk) heq fresh _

lemma toList_replace_slot {keys : List (List Char)} (hkeys : ∀ key ∈ keys, Braceless key)
    {key : List Char} (hkey : key ∈ keys) {pattern text : String} {chunks : List Chunk}
    (hpattern : pattern.toList = '{' :: (key ++ ['}']))
    (htext : text.toList = chunks.flatMap Chunk.written) (h : ∀ chunk ∈ chunks, chunk.Over keys)
    (fresh : String) :
    (replace pattern fresh text).toList =
      (chunks.map (Chunk.fill key fresh.toList)).flatMap Chunk.written := by
  rw [replace, String.toList_ofList, hpattern, htext, replaceFrom_written hkeys hkey _ h]

/-- The chunks of a template: what is before the first brace is plain, and so is what follows the
closing brace of a placeholder. -/
def chunks (cs : List Char) : List Chunk :=
  match pieces (· == '{') cs with
  | [] => []
  | first :: later =>
    .plain first :: later.flatMap fun piece =>
      [.slot (piece.takeWhile (· != '}')), .plain ((piece.dropWhile (· != '}')).drop 1)]

end Text

namespace ReplacedImports

open Text (Braceless Chunk)

/-- The keys that the advice of a row can have. -/
def adviceKeys : List (List Char) :=
  ["name".toList, "module".toList]

/-- The advice of a row is written in these chunks. -/
def FromRow.AdviceIn (row : FromRow) (chunks : List Chunk) : Prop :=
  row.advice.toList = chunks.flatMap Chunk.written ∧ ∀ chunk ∈ chunks, chunk.Over adviceKeys

lemma exists_chunks {row : FromRow} (hrow : row ∈ fromRows) : ∃ chunks, row.AdviceIn chunks := by
  -- The literals are taken as lists of characters, since decoding their bytes takes long.
  have hall : ∃ cs : List Char, row.advice = String.ofList cs ∧
      cs = (Text.chunks cs).flatMap Chunk.written ∧
      ∀ chunk ∈ Text.chunks cs, chunk.Over adviceKeys := by
    simp only [fromRows, List.mem_cons, List.not_mem_nil, or_false] at hrow
    rcases hrow with rfl | rfl | rfl | rfl | rfl | rfl | rfl | rfl | rfl | rfl | rfl | rfl | rfl |
      rfl | rfl | rfl | rfl | rfl | rfl
    case inr.inr.inr.inr.inr.inr.inr.inr.inr.inr.inr.inr.inr.inr.inr.inr.inr.inr =>
      exact ⟨_, String.ofList_append.symm, by decide⟩
    all_goals exact ⟨_, rfl, by decide⟩
  obtain ⟨cs, hadvice, hwritten, hover⟩ := hall
  exact ⟨Text.chunks cs, by rw [hadvice, String.toList_ofList, ← hwritten], hover⟩

/-- The advice of a row for a name: its placeholders stand for the name as it is written and for the
module. -/
def adviceValue (module : String) (a : Alias) (key : List Char) : List Char :=
  if key = "name".toList then (shown a).toList else module.toList

/-- Filling the placeholders one after the other fills both at once, since nothing that is put in can
be taken for a placeholder. -/
theorem replace_replace_eq {row : FromRow} {chunks : List Chunk} (h : row.AdviceIn chunks)
    (module : String) {a : Alias} (hshown : Braceless (shown a).toList) :
    (Text.replace "{module}" module (Text.replace "{name}" (shown a) row.advice)).toList =
      chunks.flatMap (Chunk.filled (adviceValue module a)) := by
  obtain ⟨hadvice, hchunks⟩ := h
  have hkeys : ∀ key ∈ adviceKeys, Braceless key := by decide
  have hfilled : ∀ chunk ∈ chunks.map (Chunk.fill "name".toList (shown a).toList),
      chunk.Over adviceKeys := by
    intro chunk hchunk
    obtain ⟨before, hbefore, rfl⟩ := List.mem_map.mp hchunk
    exact (hchunks before hbefore).fill _ hshown
  have hname : "name".toList ∈ adviceKeys ∧ "{name}".toList = '{' :: ("name".toList ++ ['}']) := by
    decide
  have hmodule : "module".toList ∈ adviceKeys ∧
      "{module}".toList = '{' :: ("module".toList ++ ['}']) := by
    decide
  have hfirst := Text.toList_replace_slot hkeys hname.1 hname.2 hadvice hchunks (shown a)
  rw [Text.toList_replace_slot hkeys hmodule.1 hmodule.2 hfirst hfilled module, List.map_map,
    List.flatMap_map]
  refine List.flatMap_congr fun chunk hchunk => ?_
  have hover := hchunks chunk hchunk
  cases chunk with
  | plain text => rfl
  | slot key =>
    have hkey : key = "name".toList ∨ key = "module".toList := by
      simpa [Chunk.Over, adviceKeys] using hover
    rcases hkey with rfl | rfl <;> simp [Chunk.fill, Chunk.written, Chunk.filled, adviceValue]

lemma braceless_shown {a : Alias} (hname : Braceless a.name.toList)
    (halias : ∀ asName, a.asName = some asName → Braceless asName.toList) :
    Braceless (shown a).toList := by
  obtain ⟨name, asName⟩ := a
  cases asName with
  | none => exact hname
  | some asName =>
    have hlast := halias asName rfl
    simp_all [shown, Braceless]

/-! ### The decision -/

/-- What decides the code for a name of a module that falls under a root. -/
structure Decided (module root name code : String) : Prop where
  searchPath : code = "E9407" ↔ module = "salttesting.helpers" ∧ name = "ensure_in_syspath"
  external : code = "E9403" ↔ module = "mock"
  execution : code = "E9406" ↔ ¬Special module ∧ name = "run_tests"
  underTests : code = "E9404" ↔
    ¬Special module ∧ root ∈ testRoots ∧ name ≠ "run_tests" ∧ name ∉ movedSymbols
  otherwise : code = "E9402" ↔
    ¬(module = "salttesting.helpers" ∧ name = "ensure_in_syspath") ∧ module ≠ "mock" ∧
      ¬(¬Special module ∧ name = "run_tests") ∧
      ¬(¬Special module ∧ root ∈ testRoots ∧ name ≠ "run_tests" ∧ name ∉ movedSymbols)

theorem exists_row (module root name : String) :
    ∃ row, rowFor? module root name = some row ∧ Decided module root name row.message.code := by
  have hhelpers : Special "salttesting.helpers" := .inl (by decide)
  have hmock : Special "mock" := .inl (by decide)
  by_cases hspecial : Special module
  · obtain ⟨row, hrow, hmessage⟩ :=
      Option.map_eq_some_iff.mp (message_of_special hspecial root name)
    refine ⟨row, hrow, ?_⟩
    rw [hmessage]
    by_cases hfirst : module = "salttesting.helpers" ∧ name = "ensure_in_syspath"
    · rw [if_pos hfirst]
      constructor <;> simp_all [searchPathUpdate]
    · rw [if_neg hfirst]
      by_cases hext : module = "mock"
      · rw [if_pos hext]
        constructor <;> simp_all [replacedExternalModule]
      · rw [if_neg hext]
        constructor <;> simp_all [replacedModule]
  · obtain ⟨row, hrow, hmessage⟩ :=
      Option.map_eq_some_iff.mp (message_of_not_special hspecial root name)
    have hnot : module ≠ "salttesting.helpers" ∧ module ≠ "mock" := by
      constructor <;> rintro rfl <;> contradiction
    refine ⟨row, hrow, ?_⟩
    rw [hmessage]
    by_cases hrun : name = "run_tests"
    · rw [if_pos hrun]
      constructor <;> simp_all [testExecution]
    · rw [if_neg hrun]
      by_cases hroot : root ∈ testRoots ∧ name ∉ movedSymbols
      · rw [if_pos hroot]
        constructor <;> simp_all [replacedImport]
      · rw [if_neg hroot]
        constructor <;> simp_all [replacedModule]

/-- The arguments that a code takes. -/
def codeArgs (code module suggestion : String) : List String :=
  if code = "E9407" then [] else if code = "E9406" then [suggestion] else [module, suggestion]

lemma advice_of_mem {message : Message} (h : message ∈ messages) (module suggestion : String) :
    Advice.of message module suggestion = ⟨message, codeArgs message.code module suggestion⟩ := by
  simp only [messages, List.mem_cons, List.not_mem_nil, or_false] at h
  unfold Advice.of
  rcases h with rfl | rfl | rfl | rfl | rfl | rfl
  case inr.inr.inr.inr.inr => rw [Message.arity_eq_append rfl]; rfl
  all_goals rw [Message.arity_eq rfl]; rfl

/-- A row is about a name of a module that falls under the given root. -/
def FromRow.Fits (row : FromRow) (module root name : String) : Prop :=
  row.module.fits module root = true ∧ row.name.fits name = true

/-- The advice that a row gives for a name. -/
def FromRow.suggestion (row : FromRow) (module : String) (a : Alias) : String :=
  Text.replace "{module}" module (Text.replace "{name}" (shown a) row.advice)

lemma adviceForFrom_of_row {module root : String} (hroot : rootOf? module = some root) {a : Alias}
    {row : FromRow} (hrow : rowFor? module root a.name = some row) :
    adviceForFrom module [a] =
      [⟨row.message, codeArgs row.message.code module (row.suggestion module a)⟩] := by
  have hmessage := message_of_mem_fromRows (List.mem_of_find?_eq_some hrow)
  have hname : adviceForName? module root a =
      some (.of row.message module (row.suggestion module a)) :=
    Option.map_eq_some_iff.mpr ⟨row, hrow, rfl⟩
  rw [adviceForFrom, hroot, ← advice_of_mem hmessage]
  simp [hname]

/-- The advice for a name from a replaced module is that of the first row that fits. The order of
the rows does not decide its code. -/
theorem adviceForFrom_decided {module : String} (h : Replaced module) (a : Alias) :
    ∃ root ∈ replacedRoots, dottedParts root <+: dottedParts module ∧
    ∃ row before after, fromRows = before ++ row :: after ∧ row.Fits module root a.name ∧
      (∀ earlier ∈ before, ¬earlier.Fits module root a.name) ∧
      Decided module root a.name row.message.code ∧
    ∃ suggestion,
      adviceForFrom module [a] = [⟨row.message, codeArgs row.message.code module suggestion⟩] ∧
      (Braceless module.toList → Braceless a.name.toList →
        (∀ asName, a.asName = some asName → Braceless asName.toList) →
        ∃ chunks, row.AdviceIn chunks ∧
          suggestion.toList = chunks.flatMap (Chunk.filled (adviceValue module a)) ∧
          Braceless suggestion.toList) := by
  obtain ⟨root, hroot, hprefix⟩ := h
  obtain ⟨row, hrow, hdecided⟩ := exists_row module root a.name
  obtain ⟨hfits, before, after, hrows, hbefore⟩ := List.find?_eq_some_iff_append.mp hrow
  have hadvice := adviceForFrom_of_row (rootOf?_eq_some_iff.mpr ⟨hroot, hprefix⟩) hrow
  refine ⟨root, hroot, hprefix, row, before, after, hrows, Bool.and_eq_true_iff.mp hfits, ?_,
    hdecided, row.suggestion module a, hadvice, ?_⟩
  · intro earlier hearlier hfit
    have hnot := hbefore earlier hearlier
    rw [hfit.1, hfit.2] at hnot
    cases hnot
  · intro hmodule hname halias
    obtain ⟨chunks, hchunks⟩ := exists_chunks (List.mem_of_find?_eq_some hrow)
    have hshown := braceless_shown hname halias
    have hvalue : ∀ key ∈ adviceKeys, Braceless (adviceValue module a key) := by
      intro key _
      unfold adviceValue
      split
      · exact hshown
      · exact hmodule
    refine ⟨chunks, hchunks, replace_replace_eq hchunks module hshown, ?_⟩
    rw [FromRow.suggestion, replace_replace_eq hchunks module hshown]
    exact Text.braceless_flatMap fun chunk hchunk => (hchunks.2 chunk hchunk).braceless_filled hvalue

theorem adviceForFrom_decided_of_aliased_helper :
    let module := "unit.modules"
    let a : Alias := ⟨"helper", some "h"⟩
    Replaced module ∧
    adviceForFrom module [a] = [⟨replacedImport,
      [module, "Please use 'from tests.unit.modules import helper as h'"]⟩] ∧
    ∃ (root : String) (row : FromRow) (suggestion : String) (chunks : List Chunk),
      Decided module root a.name row.message.code ∧
      adviceForFrom module [a] = [⟨row.message, codeArgs row.message.code module suggestion⟩] ∧
      row.AdviceIn chunks ∧
      suggestion.toList = chunks.flatMap (Chunk.filled (adviceValue module a)) ∧
      Braceless suggestion.toList := by
  intro module a
  have hreplaced : Replaced module := by decide +kernel
  obtain ⟨root, -, -, row, -, -, -, -, -, hdecided, suggestion, hadvice, hfilled⟩ :=
    adviceForFrom_decided hreplaced a
  obtain ⟨chunks, hchunks, hsuggestion, hbraces⟩ := hfilled (by decide) (by decide) (by
    rintro asName ⟨⟩
    decide)
  exact ⟨hreplaced, by decide +kernel, root, row, suggestion, chunks, hdecided, hadvice, hchunks,
    hsuggestion, hbraces⟩

end ReplacedImports

end SaltConventions
