import Mathlib.Data.List.Basic
import SaltConventions.Rules.StringFormatting

/-!
# Format strings

The texts that `str.format` accepts: literal characters, doubled braces that stand for single ones,
and replacement fields with a name, a conversion and a format specification. A specification holds
fields of its own, but the specifications of these do not.

The search for slots without an index looks at characters, not at fields. Which pieces of a format
string it finds is told by `slotted_iff`: the fields it looks for, unless they have a specification,
but also doubled braces next to each other.
-/

namespace SaltConventions.FormatString

/-! ### The grammar -/

/-- A piece of the name of a field: a character, or the index of an element with its brackets. -/
inductive NamePiece where
  | char (c : Char)
  | index (text : List Char)

/-- A conversion of the value of a field. -/
inductive Conversion where
  | str
  | repr
  | ascii

/-- A piece of a format string: a literal character, a brace that is written twice, or a field. -/
inductive Piece (Spec : Type) where
  | char (c : Char)
  | openBrace
  | closeBrace
  | field (name : List NamePiece) (conversion : Option Conversion) (spec : Option Spec)

def NamePiece.write : NamePiece → List Char
  | char c => [c]
  | index text => '[' :: text ++ [']']

def Conversion.letter : Conversion → Char
  | str => 's'
  | repr => 'r'
  | ascii => 'a'

def writeConversion : Option Conversion → List Char
  | none => []
  | some conversion => ['!', conversion.letter]

def writeSpec {Spec : Type} (write : Spec → List Char) : Option Spec → List Char
  | none => []
  | some spec => ':' :: write spec

def Piece.write {Spec : Type} (spec : Spec → List Char) : Piece Spec → List Char
  | char c => [c]
  | openBrace => ['{', '{']
  | closeBrace => ['}', '}']
  | field name conversion format =>
    '{' :: (name.flatMap NamePiece.write ++ (writeConversion conversion ++
      (writeSpec spec format ++ ['}'])))

def writeAll {Spec : Type} (spec : Spec → List Char) (pieces : List (Piece Spec)) : List Char :=
  pieces.flatMap (Piece.write spec)

/-- A character of a name stands for itself, and an index ends with the first bracket. -/
def NamePiece.Valid : NamePiece → Prop
  | char c => c ∉ ['{', '}', '[', '!', ':']
  | index text => ']' ∉ text

/-- No brace in a text is closed before it is opened, and all are closed in the end. -/
structure Balanced (text : List Char) : Prop where
  opened : ∀ before after, text = before ++ after → before.count '}' ≤ before.count '{'
  closed : text.count '{' = text.count '}'

/-- Braces are written twice or belong to a field, and the specifications of fields are valid. -/
def Piece.Valid {Spec : Type} (valid : Spec → Prop) : Piece Spec → Prop
  | char c => c ∉ ['{', '}']
  | openBrace => True
  | closeBrace => True
  | field name _ spec => (∀ piece ∈ name, piece.Valid) ∧ ∀ s ∈ spec, valid s

/-- A format string: its fields may have specifications with fields, whose specifications have none.
-/
abbrev Pieces : Type := List (Piece (List (Piece (List Char))))

def text : Pieces → List Char :=
  writeAll (writeAll id)

/-- A plain specification holds no braces. -/
def Plain (spec : List Char) : Prop :=
  '{' ∉ spec ∧ '}' ∉ spec

/-- A specification with fields: it is read up to the brace that closes the field around it. -/
structure Nested (spec : List (Piece (List Char))) : Prop where
  valid : ∀ piece ∈ spec, piece.Valid Plain
  balanced : Balanced (writeAll id spec)

/-- The format strings that `str.format` accepts, as far as braces decide it. -/
def Valid (pieces : Pieces) : Prop :=
  ∀ piece ∈ pieces, piece.Valid Nested

/-! ### Slots in a text -/

open StringFormatting (hasUnindexedSlot)

/-- Whether what follows an opening brace makes it a slot: a closing brace, or `!` and one word
character before it. -/
def closesSlot : List Char → Bool
  | '}' :: _ => true
  | '!' :: c :: '}' :: _ => Text.isWord c
  | _ => false

lemma closesSlot_iff {cs : List Char} :
    closesSlot cs = true ↔
      (∃ rest, cs = '}' :: rest) ∨ ∃ c rest, cs = '!' :: c :: '}' :: rest ∧ Text.isWord c := by
  unfold closesSlot
  split
  · simp
  · simp
  · rename_i hclose hflag
    simp only [Bool.false_eq_true, false_iff, not_or, not_exists, not_and]
    exact ⟨fun _ h => hclose _ h, fun _ _ h => absurd h (hflag _ _)⟩

/-- A text with a slot: a brace opens it and what follows closes it. -/
def HasSlot (cs : List Char) : Prop :=
  ∃ before after, cs = before ++ '{' :: after ∧ closesSlot after = true

lemma hasUnindexedSlot_of_ne {c : Char} (h : c ≠ '{') (cs : List Char) :
    hasUnindexedSlot (c :: cs) = hasUnindexedSlot cs := by
  rw [hasUnindexedSlot] <;> simp [h]

lemma hasUnindexedSlot_brace (cs : List Char) :
    hasUnindexedSlot ('{' :: cs) = (closesSlot cs || hasUnindexedSlot cs) := by
  rw [SaltConventions.StringFormatting.hasUnindexedSlot.eq_def ('{' :: cs)]
  split
  · rename_i h
    cases h
  · rename_i tail h
    obtain rfl := (List.cons_eq_cons.mp h).2
    rfl
  · rename_i c rest h
    obtain rfl := (List.cons_eq_cons.mp h).2
    rfl
  · rename_i c rest hclose hflag h
    obtain ⟨rfl, rfl⟩ := List.cons_eq_cons.mp h
    have hnone : closesSlot cs = false := by
      unfold closesSlot
      split
      · exact absurd rfl (hclose _ rfl)
      · exact absurd rfl (hflag _ _ rfl)
      · rfl
    rw [hnone, Bool.false_or]

lemma hasUnindexedSlot_iff {cs : List Char} : hasUnindexedSlot cs = true ↔ HasSlot cs := by
  unfold HasSlot
  induction cs with
  | nil => simp [hasUnindexedSlot]
  | cons c rest ih =>
    have hcons : (∃ before after, c :: rest = before ++ '{' :: after ∧ closesSlot after = true) ↔
        (c = '{' ∧ closesSlot rest = true) ∨
          ∃ before after, rest = before ++ '{' :: after ∧ closesSlot after = true := by
      constructor
      · rintro ⟨before, after, h, hclose⟩
        cases before with
        | nil =>
          obtain ⟨rfl, rfl⟩ := List.cons_eq_cons.mp h
          exact .inl ⟨rfl, hclose⟩
        | cons d before =>
          obtain ⟨-, rfl⟩ := List.cons_eq_cons.mp h
          exact .inr ⟨before, after, rfl, hclose⟩
      · rintro (⟨rfl, hclose⟩ | ⟨before, after, rfl, hclose⟩)
        · exact ⟨[], rest, rfl, hclose⟩
        · exact ⟨c :: before, after, rfl, hclose⟩
    rw [hcons, ← ih]
    by_cases hc : c = '{'
    · subst hc
      rw [hasUnindexedSlot_brace, Bool.or_eq_true]
      simp
    · rw [hasUnindexedSlot_of_ne hc]
      simp [hc]

/-- If no slot reaches over the end of a text, then what follows the text can be searched by itself.
-/
lemma hasUnindexedSlot_append {xs ys : List Char}
    (h : ∀ before after, xs = before ++ '{' :: after →
      closesSlot (after ++ ys) = closesSlot after) :
    hasUnindexedSlot (xs ++ ys) = (hasUnindexedSlot xs || hasUnindexedSlot ys) := by
  induction xs with
  | nil => rfl
  | cons c rest ih =>
    have hrest := ih fun before after hsplit => h (c :: before) after (by rw [hsplit]; rfl)
    rw [List.cons_append]
    by_cases hc : c = '{'
    · subst hc
      rw [hasUnindexedSlot_brace, hasUnindexedSlot_brace, hrest, h [] rest rfl, Bool.or_assoc]
    · rw [hasUnindexedSlot_of_ne hc, hasUnindexedSlot_of_ne hc, hrest]

lemma closesSlot_bracket (after ys : List Char) :
    closesSlot (after ++ ']' :: ys) = closesSlot after := by
  have hbracket : Text.isWord ']' = false := by decide +kernel
  rw [Bool.eq_iff_iff, closesSlot_iff, closesSlot_iff]
  match after with
  | [] | [_] | [_, _] | _ :: _ :: _ :: _ => simp [hbracket]

/-- A closing brace after a text closes nothing that is opened in it, unless only a slot without an
index fits in between. -/
lemma closesSlot_brace {after : List Char} (ys : List Char) (hnil : after ≠ [])
    (hflag : ∀ c, c ≠ '}' → after ≠ ['!', c]) :
    closesSlot (after ++ '}' :: ys) = closesSlot after := by
  have hbrace : Text.isWord '}' = false := by decide +kernel
  rw [Bool.eq_iff_iff, closesSlot_iff, closesSlot_iff]
  match after with
  | [] => exact absurd rfl hnil
  | [_] => simp [hbrace]
  | [c, d] =>
    by_cases hd : d = '}'
    · simp [hd, hbrace]
    · have hc : c ≠ '!' := by
        rintro rfl
        exact hflag d hd rfl
      simp [hc]
  | _ :: _ :: _ :: _ => simp

lemma Balanced.count_lt {before after : List Char} (h : Balanced (before ++ '{' :: after)) :
    after.count '{' < after.count '}' := by
  have hbefore := h.opened before ('{' :: after) rfl
  have hclosed := h.closed
  rw [List.count_append, List.count_append, List.count_cons_self,
    List.count_cons_of_ne (by decide)] at hclosed
  omega

lemma Balanced.hasUnindexedSlot_append {text : List Char} (h : Balanced text) (ys : List Char) :
    hasUnindexedSlot (text ++ '}' :: ys) = (hasUnindexedSlot text || hasUnindexedSlot ys) := by
  rw [FormatString.hasUnindexedSlot_append, hasUnindexedSlot_of_ne (by decide)]
  rintro before after rfl
  have hcount := h.count_lt
  refine closesSlot_brace ys ?_ ?_
  · rintro rfl
    simp at hcount
  · rintro c hc rfl
    simp [List.count_cons, hc] at hcount

/-! ### Slots in the pieces of a format string -/

/-- The search finds a slot in an index of a name. -/
def NamePiece.Slotted : NamePiece → Prop
  | char _ => False
  | index text => HasSlot text

/-- Whether what follows two opening braces makes them look like a slot: two closing braces, or `!` and
one word character before these. -/
def ClosesSlot {Spec : Type} (pieces : List (Piece Spec)) : Prop :=
  (∃ later, pieces = .closeBrace :: later) ∨
    ∃ c later, pieces = .char '!' :: .char c :: .closeBrace :: later ∧ Text.isWord c

/-- Where the search finds a slot in a format string, if it finds one in the specifications for
which `slotted` holds. -/
inductive Slotted {Spec : Type} (slotted : Spec → Prop) : List (Piece Spec) → Prop where
  | unnamed (conversion : Option Conversion) (later : List (Piece Spec)) :
      Slotted slotted (.field [] conversion none :: later)
  | index {name : List NamePiece} {piece : NamePiece} (mem : piece ∈ name) (h : piece.Slotted)
      (conversion : Option Conversion) (spec : Option Spec) (later : List (Piece Spec)) :
      Slotted slotted (.field name conversion spec :: later)
  | spec {spec : Spec} (h : slotted spec) (name : List NamePiece)
      (conversion : Option Conversion) (later : List (Piece Spec)) :
      Slotted slotted (.field name conversion (some spec) :: later)
  | braces {later : List (Piece Spec)} (h : ClosesSlot later) :
      Slotted slotted (.openBrace :: later)
  | later (piece : Piece Spec) {later : List (Piece Spec)} (h : Slotted slotted later) :
      Slotted slotted (piece :: later)

lemma hasUnindexedSlot_name {name : List NamePiece} (h : ∀ piece ∈ name, piece.Valid)
    (ys : List Char) :
    hasUnindexedSlot (name.flatMap NamePiece.write ++ ys) = true ↔
      (∃ piece ∈ name, piece.Slotted) ∨ hasUnindexedSlot ys = true := by
  induction name with
  | nil => simp
  | cons piece later ih =>
    have hlater := ih fun p hp => h p (List.mem_cons_of_mem _ hp)
    have hpiece := h piece List.mem_cons_self
    rw [List.flatMap_cons, List.append_assoc, List.exists_mem_cons_iff, or_assoc, ← hlater]
    cases piece with
    | char c =>
      have hc : c ≠ '{' := fun hc => hpiece (hc ▸ List.mem_cons_self)
      simp [NamePiece.write, NamePiece.Slotted, hasUnindexedSlot_of_ne hc]
    | index text =>
      have hbracket : ∀ rest, hasUnindexedSlot ('[' :: text ++ ']' :: rest) = true ↔
          HasSlot text ∨ hasUnindexedSlot rest = true := by
        intro rest
        rw [List.cons_append, hasUnindexedSlot_of_ne (by decide),
          hasUnindexedSlot_append fun _ after _ => closesSlot_bracket after rest,
          hasUnindexedSlot_of_ne (by decide), Bool.or_eq_true, hasUnindexedSlot_iff]
      have hwrite : (NamePiece.index text).write ++ (later.flatMap NamePiece.write ++ ys) =
          '[' :: text ++ ']' :: (later.flatMap NamePiece.write ++ ys) := by
        simp [NamePiece.write]
      rw [hwrite, hbracket]
      rfl

lemma hasUnindexedSlot_conversion (conversion : Option Conversion) (ys : List Char) :
    hasUnindexedSlot (writeConversion conversion ++ ys) = hasUnindexedSlot ys := by
  cases conversion with
  | none => rfl
  | some conversion =>
    have hletter : conversion.letter ≠ '{' := by cases conversion <;> decide
    simp only [writeConversion, List.cons_append, List.nil_append]
    rw [hasUnindexedSlot_of_ne (by decide), hasUnindexedSlot_of_ne hletter]

lemma closesSlot_field {Spec : Type} {write : Spec → List Char} {name : List NamePiece}
    (h : ∀ piece ∈ name, piece.Valid) (conversion : Option Conversion) (spec : Option Spec)
    (ys : List Char) :
    closesSlot (name.flatMap NamePiece.write ++ (writeConversion conversion ++
      (writeSpec write spec ++ '}' :: ys))) = true ↔ name = [] ∧ spec = none := by
  have hletter : ∀ conversion : Conversion, Text.isWord conversion.letter = true := by
    intro conversion
    cases conversion <;> decide +kernel
  rw [closesSlot_iff]
  cases name with
  | nil =>
    cases conversion <;> cases spec <;> simp [writeConversion, writeSpec, hletter]
  | cons piece later =>
    have hpiece := h piece List.mem_cons_self
    cases piece with
    | char c =>
      have hc : c ≠ '}' ∧ c ≠ '!' := by
        constructor <;> rintro rfl <;> exact hpiece (by simp)
      simp [NamePiece.write, hc]
    | index text => simp [NamePiece.write]

lemma writeAll_cons {Spec : Type} (write : Spec → List Char) (piece : Piece Spec)
    (later : List (Piece Spec)) :
    writeAll write (piece :: later) = piece.write write ++ writeAll write later :=
  List.flatMap_cons

lemma writeAll_eq_brace {Spec : Type} {write : Spec → List Char} {valid : Spec → Prop}
    {pieces : List (Piece Spec)} (h : ∀ piece ∈ pieces, piece.Valid valid) :
    (∃ rest, writeAll write pieces = '}' :: rest) ↔ ∃ later, pieces = .closeBrace :: later := by
  cases pieces with
  | nil => simp [writeAll]
  | cons piece later =>
    have hpiece := h piece List.mem_cons_self
    cases piece with
    | char c =>
      have hc : c ≠ '}' := by
        rintro rfl
        exact hpiece (by simp)
      simp [writeAll_cons, Piece.write, hc]
    | openBrace | closeBrace | field => simp [writeAll_cons, Piece.write]

lemma closesSlot_writeAll {Spec : Type} {write : Spec → List Char} {valid : Spec → Prop}
    {pieces : List (Piece Spec)} (h : ∀ piece ∈ pieces, piece.Valid valid) :
    closesSlot (writeAll write pieces) = true ↔ ClosesSlot pieces := by
  have hopen : Text.isWord '{' = false := by decide +kernel
  have hclose : Text.isWord '}' = false := by decide +kernel
  rw [closesSlot_iff, writeAll_eq_brace h]
  refine or_congr_right ?_
  constructor
  · rintro ⟨c, rest, hwrite, hc⟩
    cases pieces with
    | nil => simp [writeAll] at hwrite
    | cons first later =>
      have hlater : ∀ piece ∈ later, piece.Valid valid := fun p hp => h p (List.mem_cons_of_mem _ hp)
      rw [writeAll_cons] at hwrite
      cases first <;> simp only [Piece.write, List.cons_append, List.nil_append, List.cons.injEq,
        Char.reduceEq, false_and] at hwrite
      obtain ⟨rfl, hwrite⟩ := hwrite
      cases later with
      | nil => simp [writeAll] at hwrite
      | cons second last =>
        rw [writeAll_cons] at hwrite
        cases second <;> simp only [Piece.write, List.cons_append, List.nil_append,
          List.cons.injEq] at hwrite
        case char d =>
          obtain ⟨rfl, hwrite⟩ := hwrite
          obtain ⟨end_, rfl⟩ := (writeAll_eq_brace fun p hp =>
            hlater p (List.mem_cons_of_mem _ hp)).mp ⟨rest, hwrite⟩
          exact ⟨_, _, rfl, hc⟩
        all_goals
          obtain ⟨rfl, -⟩ := hwrite
          simp [hopen, hclose] at hc
  · rintro ⟨c, later, rfl, hc⟩
    exact ⟨c, '}' :: writeAll write later, by simp [writeAll_cons, Piece.write], hc⟩

section

variable {Spec : Type} {write : Spec → List Char} {valid slotted : Spec → Prop}
  (hbalanced : ∀ spec, valid spec → Balanced (write spec))
  (hslotted : ∀ spec, valid spec → (hasUnindexedSlot (write spec) = true ↔ slotted spec))

include hbalanced hslotted

lemma hasUnindexedSlot_spec {spec : Option Spec} (h : ∀ s ∈ spec, valid s) (ys : List Char) :
    hasUnindexedSlot (writeSpec write spec ++ '}' :: ys) = true ↔
      (∃ s ∈ spec, slotted s) ∨ hasUnindexedSlot ys = true := by
  cases spec with
  | none => simp [writeSpec, hasUnindexedSlot_of_ne]
  | some spec =>
    have hspec := h spec rfl
    rw [writeSpec, List.cons_append, hasUnindexedSlot_of_ne (by decide),
      (hbalanced spec hspec).hasUnindexedSlot_append, Bool.or_eq_true, hslotted spec hspec]
    simp

lemma hasUnindexedSlot_field {name : List NamePiece} {conversion : Option Conversion}
    {spec : Option Spec} (h : (Piece.field name conversion spec).Valid valid) (ys : List Char) :
    hasUnindexedSlot ((Piece.field name conversion spec).write write ++ ys) = true ↔
      (name = [] ∧ spec = none) ∨ (∃ piece ∈ name, piece.Slotted) ∨ (∃ s ∈ spec, slotted s) ∨
        hasUnindexedSlot ys = true := by
  have hwrite : (Piece.field name conversion spec).write write ++ ys =
      '{' :: (name.flatMap NamePiece.write ++ (writeConversion conversion ++
        (writeSpec write spec ++ '}' :: ys))) := by
    simp [Piece.write]
  rw [hwrite, hasUnindexedSlot_brace, Bool.or_eq_true, closesSlot_field h.1, hasUnindexedSlot_name h.1,
    hasUnindexedSlot_conversion, hasUnindexedSlot_spec hbalanced hslotted h.2]

theorem hasUnindexedSlot_writeAll {pieces : List (Piece Spec)}
    (h : ∀ piece ∈ pieces, piece.Valid valid) :
    hasUnindexedSlot (writeAll write pieces) = true ↔ Slotted slotted pieces := by
  induction pieces with
  | nil =>
    constructor
    · nofun
    · nofun
  | cons piece later ih =>
    have hlater : ∀ piece ∈ later, piece.Valid valid := fun p hp => h p (List.mem_cons_of_mem _ hp)
    have hpiece := h piece List.mem_cons_self
    replace ih := ih hlater
    rw [writeAll_cons]
    cases piece with
    | char c =>
      have hc : c ≠ '{' := fun hc => hpiece (hc ▸ List.mem_cons_self)
      rw [Piece.write, List.singleton_append, hasUnindexedSlot_of_ne hc, ih]
      exact ⟨.later _, fun | .later _ h => h⟩
    | closeBrace =>
      rw [Piece.write, List.cons_append, List.singleton_append, hasUnindexedSlot_of_ne (by decide),
        hasUnindexedSlot_of_ne (by decide), ih]
      exact ⟨.later _, fun | .later _ h => h⟩
    | openBrace =>
      have hfirst : closesSlot ('{' :: writeAll write later) = false := rfl
      rw [Piece.write, List.cons_append, List.singleton_append, hasUnindexedSlot_brace, hfirst,
        Bool.false_or, hasUnindexedSlot_brace, Bool.or_eq_true, closesSlot_writeAll hlater, ih]
      constructor
      · rintro (hbraces | hrest)
        · exact .braces hbraces
        · exact .later _ hrest
      · rintro (_ | _ | _ | hbraces | ⟨_, hrest⟩)
        · exact .inl hbraces
        · exact .inr hrest
    | field name conversion spec =>
      rw [hasUnindexedSlot_field hbalanced hslotted hpiece, ih]
      constructor
      · rintro (⟨rfl, rfl⟩ | ⟨piece, hmem, hindex⟩ | ⟨s, rfl, hspec⟩ | hrest)
        · exact .unnamed conversion later
        · exact .index hmem hindex conversion spec later
        · exact .spec hspec name conversion later
        · exact .later _ hrest
      · rintro (_ | ⟨hmem, hindex⟩ | hspec | _ | ⟨_, hrest⟩)
        · exact .inl ⟨rfl, rfl⟩
        · exact .inr (.inl ⟨_, hmem, hindex⟩)
        · exact .inr (.inr (.inl ⟨_, rfl, hspec⟩))
        · exact .inr (.inr (.inr hrest))

end

/-! ### Format strings -/

lemma Plain.balanced {spec : List Char} (h : Plain spec) : Balanced spec where
  opened before after hsplit := by
    have hclosing : '}' ∉ before := fun hmem => h.2 (hsplit ▸ List.mem_append_left _ hmem)
    rw [List.count_eq_zero_of_not_mem hclosing]
    exact Nat.zero_le _
  closed := by
    rw [List.count_eq_zero_of_not_mem h.1, List.count_eq_zero_of_not_mem h.2]

lemma Plain.not_hasUnindexedSlot {spec : List Char} (h : Plain spec) :
    hasUnindexedSlot spec ≠ true := by
  rw [Ne, hasUnindexedSlot_iff]
  rintro ⟨before, after, rfl, -⟩
  exact h.1 (by simp)

/-- The search finds a slot in a format string exactly at such a field, index, specification or pair
of doubled braces. -/
theorem slotted_iff {pieces : Pieces} (h : Valid pieces) :
    HasSlot (text pieces) ↔ Slotted (Slotted fun _ => False) pieces := by
  have hplain : ∀ spec, Plain spec → (hasUnindexedSlot (id spec) = true ↔ False) :=
    fun _ hspec => iff_false_intro hspec.not_hasUnindexedSlot
  have hnested : ∀ spec, Nested spec →
      (hasUnindexedSlot (writeAll id spec) = true ↔ Slotted (fun _ => False) spec) :=
    fun _ hspec => hasUnindexedSlot_writeAll (fun _ => Plain.balanced) hplain hspec.valid
  rw [← hasUnindexedSlot_iff]
  exact hasUnindexedSlot_writeAll (fun _ => Nested.balanced) hnested h

/-! ### Fields without a name -/

/-- Some field has no name, or a specification for which `unnamed` holds. -/
def Unnamed {Spec : Type} (unnamed : Spec → Prop) (pieces : List (Piece Spec)) : Prop :=
  ∃ name conversion spec, .field name conversion spec ∈ pieces ∧
    (name = [] ∨ ∃ s ∈ spec, unnamed s)

/-- Pieces that the search reads as they are meant: doubled braces do not look like a slot, nor do
indices hold one, and fields without a name have no specification. -/
structure Regular {Spec : Type} (regular : Spec → Prop) (pieces : List (Piece Spec)) : Prop where
  braces : ∀ before after, pieces = before ++ .openBrace :: after → ¬ClosesSlot after
  fields : ∀ name conversion spec, .field name conversion spec ∈ pieces →
    (name = [] → spec = none) ∧ (∀ piece ∈ name, ¬piece.Slotted) ∧ ∀ s ∈ spec, regular s

section

variable {Spec : Type} {slotted unnamed regular : Spec → Prop}

lemma Regular.later {piece : Piece Spec} {later : List (Piece Spec)}
    (h : Regular regular (piece :: later)) : Regular regular later where
  braces before after hsplit := h.braces (piece :: before) after (by rw [hsplit]; rfl)
  fields name conversion spec hmem :=
    h.fields name conversion spec (List.mem_cons_of_mem _ hmem)

lemma Slotted.of_mem {piece : Piece Spec} {pieces : List (Piece Spec)} (hmem : piece ∈ pieces)
    (h : ∀ later, Slotted slotted (piece :: later)) : Slotted slotted pieces := by
  induction pieces with
  | nil => cases hmem
  | cons first later ih =>
    rcases List.mem_cons.mp hmem with rfl | hlater
    · exact h later
    · exact .later _ (ih hlater)

lemma Regular.slotted_iff_unnamed {pieces : List (Piece Spec)} (h : Regular regular pieces)
    (hspec : ∀ spec, regular spec → (slotted spec ↔ unnamed spec)) :
    Slotted slotted pieces ↔ Unnamed unnamed pieces := by
  constructor
  · intro hslotted
    induction hslotted with
    | unnamed conversion later =>
      exact ⟨[], conversion, none, List.mem_cons_self, .inl rfl⟩
    | index hmem hindex conversion spec later =>
      exact absurd hindex ((h.fields _ _ _ List.mem_cons_self).2.1 _ hmem)
    | @spec spec hslot name conversion later =>
      have hregular := (h.fields _ _ _ List.mem_cons_self).2.2 spec rfl
      exact ⟨name, conversion, some spec, List.mem_cons_self,
        .inr ⟨spec, rfl, (hspec spec hregular).mp hslot⟩⟩
    | braces hbraces => exact absurd hbraces (h.braces [] _ rfl)
    | later piece _ ih =>
      obtain ⟨name, conversion, spec, hmem, hfield⟩ := ih h.later
      exact ⟨name, conversion, spec, List.mem_cons_of_mem _ hmem, hfield⟩
  · rintro ⟨name, conversion, spec, hmem, hfield⟩
    obtain ⟨hnone, -, hregular⟩ := h.fields name conversion spec hmem
    refine Slotted.of_mem hmem fun later => ?_
    rcases hfield with rfl | ⟨s, rfl, hunnamed⟩
    · rw [hnone rfl]
      exact .unnamed conversion later
    · exact .spec ((hspec s (hregular s rfl)).mpr hunnamed) name conversion later

end

theorem hasSlot_iff_unnamed {pieces : Pieces} (h : Valid pieces)
    (hregular : Regular (Regular fun _ => True) pieces) :
    HasSlot (text pieces) ↔ Unnamed (Unnamed fun _ => False) pieces := by
  rw [slotted_iff h]
  exact hregular.slotted_iff_unnamed fun _ hspec => hspec.slotted_iff_unnamed fun _ _ => Iff.rfl

end SaltConventions.FormatString
