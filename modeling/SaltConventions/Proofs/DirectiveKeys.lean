import Mathlib.Data.List.TakeWhile
import SaltConventions.Proofs.InlineSuppression

/-!
# The keys of a directive

A directive lists its keys with commas between them, and its text is cut at commas and at blanks
alike. So blanks after a comma do no harm, but nothing marks the end of the list either: each word
that follows on the line is recorded with the listed keys, up to the first word that starts with
`#`. The listed keys are recorded exactly if none of them starts so and the words after them bring
no new key.
-/

namespace SaltConventions

namespace Suppression

/-! ### Words -/

def isBreak (c : Char) : Bool :=
  c == ',' || Text.isBlank c

def IsWord (text : List Char) : Prop :=
  text ≠ [] ∧ ∀ c ∈ text, isBreak c = false

instance : DecidablePred IsWord := fun text =>
  decidable_of_iff (text ≠ [] ∧ (text.all fun c => !isBreak c) = true) (by simp [IsWord])

def words (text : List Char) : List String :=
  ((Text.pieces isBreak text).filter (!·.isEmpty)).map String.ofList

/-- The word opens a comment. -/
def opensComment (word : String) : Bool :=
  word.toList.head? == some '#'

lemma isBreak_of_isBlank {c : Char} (h : Text.isBlank c = true) : isBreak c = true := by
  simp [isBreak, h]

@[simp] lemma words_nil : words [] = [] := rfl

lemma words_append_break (before : List Char) {c : Char} (hc : isBreak c = true)
    (after : List Char) : words (before ++ c :: after) = words before ++ words after := by
  simp only [words, Text.pieces_append_cut before hc, List.filter_append, List.map_append]

lemma words_cons_break {c : Char} (hc : isBreak c = true) (text : List Char) :
    words (c :: text) = words text := by
  simpa using words_append_break [] hc text

lemma words_append_of_breaks {gap : List Char} (h : ∀ c ∈ gap, isBreak c = true)
    (text : List Char) : words (gap ++ text) = words text := by
  induction gap with
  | nil => rfl
  | cons c gap ih =>
    rw [List.cons_append, words_cons_break (h c (by simp)), ih fun d hd => h d (by simp [hd])]

lemma IsWord.words_eq {word : String} (h : IsWord word.toList) : words word.toList = [word] := by
  simp [words, Text.pieces_of_no_cut h.2, h.1]

lemma words_append_of_break_or_end (text : List Char) {rest : List Char}
    (h : ∀ c ∈ rest.head?, isBreak c = true) : words (text ++ rest) = words text ++ words rest := by
  cases rest with
  | nil => simp
  | cons c rest =>
    have hc : isBreak c = true := h c rfl
    rw [words_append_break text hc, words_cons_break hc]

lemma keysOf_eq (text : List Char) :
    keysOf text = (words text).takeWhile fun word => !opensComment word := by
  have hbefore : (fun piece : List Char => piece.head? != some '#') = fun piece =>
      !(!piece.isEmpty) || ((fun word => !opensComment word) ∘ String.ofList) piece := by
    funext piece
    cases piece <;> simp [opensComment, bne]
  rw [words, List.takeWhile_map, List.takeWhile_filter, ← hbefore]
  rfl

/-! ### Lists of keys -/

/-- The text lists the keys: there is a comma between two of them, and blanks may follow it. -/
inductive KeyList : List String → List Char → Prop
  | last {key : String} (hkey : IsWord key.toList) : KeyList [key] key.toList
  | more {key : String} {keys : List String} {gap rest : List Char} (hkey : IsWord key.toList)
      (hgap : ∀ c ∈ gap, Text.isBlank c = true) (hrest : KeyList keys rest) :
      KeyList (key :: keys) (key.toList ++ ',' :: (gap ++ rest))

lemma KeyList.words_eq {keys : List String} {listed : List Char} (h : KeyList keys listed) :
    words listed = keys := by
  induction h with
  | last hkey => exact hkey.words_eq
  | more hkey hgap hrest ih =>
    rw [words_append_break _ rfl, hkey.words_eq,
      words_append_of_breaks fun c hc => isBreak_of_isBlank (hgap c hc), ih]
    rfl

/-- The comment of the line is a directive that lists the keys, with free text after them that a
blank sets off. -/
structure IsDirective (line : List Char) (keys : List String) (free : List Char) : Prop where
  comment : ∃ code listed, KeyList keys listed ∧
    splitComment .code line = some (code, "# pylint: disable=".toList ++ (listed ++ free))
  blank : ∀ c ∈ free.head?, Text.isBlank c = true

/-- The keys that a directive brings about: the listed ones and the words of the free text, up to
the first that opens a comment. -/
def keysTaken (keys : List String) (free : List Char) : List String :=
  (keys ++ words free).takeWhile fun word => !opensComment word

lemma directive?_opening (text : List Char) :
    directive? ("# pylint: disable=".toList ++ text) = some text := by
  rfl

lemma IsDirective.keysOfLine_eq {line : List Char} {keys : List String} {free : List Char}
    (h : IsDirective line keys free) : keysOfLine line = keysTaken keys free := by
  obtain ⟨code, listed, hlisted, hcut⟩ := h.comment
  have hwords : words (listed ++ free) = keys ++ words free := by
    rw [words_append_of_break_or_end listed fun c hc => isBreak_of_isBlank (h.blank c hc),
      hlisted.words_eq]
  simp only [keysOfLine, hcut, Option.bind_some, directive?_opening, keysOf_eq, hwords, keysTaken]

/-- What is taken are just the listed keys if and only if none of them opens a comment and the words
after them bring no other. -/
lemma keysTaken_same_iff {keys : List String} {free : List Char} :
    (∀ key, key ∈ keysTaken keys free ↔ key ∈ keys) ↔
      (∀ key ∈ keys, opensComment key = false) ∧
      ∀ word ∈ (words free).takeWhile (fun word => !opensComment word), word ∈ keys := by
  have happend (h : ∀ key ∈ keys, opensComment key = false) : keysTaken keys free =
      keys ++ (words free).takeWhile fun word => !opensComment word :=
    List.takeWhile_append_of_pos fun key hkey => by simp [h key hkey]
  constructor
  · intro hsame
    have hopen : ∀ key ∈ keys, opensComment key = false := fun key hkey => by
      simpa using List.mem_takeWhile_imp ((hsame key).mpr hkey)
    refine ⟨hopen, fun word hword => (hsame word).mp ?_⟩
    rw [happend hopen]
    exact List.mem_append_right keys hword
  · rintro ⟨hopen, hwords⟩ key
    rw [happend hopen, List.mem_append]
    exact ⟨fun h => h.elim id (hwords key), .inl⟩

/-! ### What is recorded -/

/-- The table of all directives has the key for the line with the number. -/
def Records (source : String) (number : Nat) (key : String) : Prop :=
  ∃ recorded, (number, recorded) ∈ all source ∧ key ∈ recorded

lemma records_iff {source : String} {number : Nat} {key : String} :
    Records source number key ↔ key ∈ keysAt source number := by
  constructor
  · rintro ⟨recorded, hmem, hkey⟩
    obtain ⟨-, rfl⟩ := mem_all.mp hmem
    rwa [List.mem_mergeSort, List.mem_eraseDups] at hkey
  · intro hkey
    refine ⟨_, mem_all.mpr ⟨List.ne_nil_of_mem hkey, rfl⟩, ?_⟩
    rwa [List.mem_mergeSort, List.mem_eraseDups]

/-- A directive records the listed keys and the words of the free text behind them, up to the first
of all that opens a comment. -/
theorem directive_records_words {source : String} {index : Nat} {line : List Char}
    {keys : List String} {free : List Char}
    (hline : (Text.lines source.toList)[index]? = some line)
    (hdirective : IsDirective line keys free) :
    (∀ key, Records source (index + 1) key ↔ key ∈ keysTaken keys free) ∧
    ((∀ key, Records source (index + 1) key ↔ key ∈ keys) ↔
      (∀ key ∈ keys, opensComment key = false) ∧
      ∀ word ∈ (words free).takeWhile (fun word => !opensComment word), word ∈ keys) ∧
    ∀ found : List Diagnostic,
      (apply source found).filter (fun d => d.line == index + 1) =
        found.filter fun d => d.line == index + 1 && !covers (keysTaken keys free) d := by
  have hkeys : keysAt source (index + 1) = keysTaken keys free := by
    rw [keysAt_succ hline, hdirective.keysOfLine_eq]
  refine ⟨fun key => by rw [records_iff, hkeys], ?_, ?_⟩
  · rw [← keysTaken_same_iff, ← hkeys]
    simp only [records_iff]
  · intro found
    rw [apply_eq_filter, List.filter_filter]
    apply List.filter_congr
    intro d _
    by_cases hd : d.line = index + 1
    · rw [hd, hkeys]
    · simp only [beq_eq_false_iff_ne.mpr hd, Bool.false_and]

/-- A list of two keys, a word after it, and a comment that ends the keys. -/
theorem directive_records_words_before_comment :
    let source := "x = 1\nimport six  # pylint: disable=W8410,  E9404 vendored  # all\n"
    let line := "import six  # pylint: disable=W8410,  E9404 vendored  # all".toList
    let keys := ["W8410", "E9404"]
    let taken := ["W8410", "E9404", "vendored"]
    (Text.lines source.toList)[1]? = some line ∧
    IsDirective line keys " vendored  # all".toList ∧
    (∀ key, Records source 2 key ↔ key ∈ taken) ∧
    ¬ (∀ key, Records source 2 key ↔ key ∈ keys) ∧
    ∀ found : List Diagnostic,
      (apply source found).filter (fun d => d.line == 2) =
        found.filter fun d => d.line == 2 && !covers taken d := by
  intro source line keys taken
  have hline : (Text.lines source.toList)[1]? = some line := by decide
  have hlisted : KeyList keys ("W8410".toList ++ ',' :: ("  ".toList ++ "E9404".toList)) :=
    .more (by decide) (List.all_eq_true.mp (by decide)) (.last (by decide))
  have hdirective : IsDirective line keys " vendored  # all".toList :=
    ⟨⟨"import six  ".toList, _, hlisted, by decide⟩, (Option.all_eq_true _ _).mp (by decide)⟩
  have htaken : keysTaken keys " vendored  # all".toList = taken := by decide
  obtain ⟨hrecorded, hexact, hleft⟩ := directive_records_words hline hdirective
  rw [htaken] at hrecorded hleft
  refine ⟨hline, hdirective, hrecorded, ?_, hleft⟩
  rw [hexact]
  decide

/-- The word `all` of the free text switches off a finding that no listed key names. -/
theorem following_all_switches_off :
    let source := "import six  # pylint: disable=W8410 all\n"
    let line := "import six  # pylint: disable=W8410 all".toList
    let keys := ["W8410"]
    let body := [Stmt.importNames ⟨0, 10⟩ [⟨"six", none⟩]]
    let reported := (walkModule .standard (FileContext.alone ⟨"minion.py"⟩ source) body
      [ReplacedImports.rule.activate]).2
    (Text.lines source.toList)[0]? = some line ∧
    IsDirective line keys " all".toList ∧
    Records source 1 "all" ∧ "all" ∉ keys ∧
    reported.map (fun d => (d.line, d.code, covers keys d)) = [(1, "E9405", false)] ∧
    apply source reported = [] := by
  intro source line keys body reported
  have hdirective : IsDirective line keys " all".toList :=
    ⟨⟨"import six  ".toList, "W8410".toList, .last (by decide), by decide⟩,
      (Option.all_eq_true _ _).mp (by decide)⟩
  refine ⟨by decide, hdirective, records_iff.mpr (by decide +kernel), by decide, by decide +kernel,
    ?_⟩
  rw [apply_eq_filter]
  decide +kernel

end Suppression

end SaltConventions
