import Mathlib.Data.List.Basic
import SaltConventions.Permission
import SaltConventions.Proofs.BoundNames
import SaltConventions.Rules.StringFormatting
import SaltConventions.Toml.Scalar

/-!
# String literals

The literals that are one constant: pieces in quotes next to each other, with blanks, joined lines and
comments between them. In a piece that is not raw a backslash starts an escape, and the value of the
literal has the escapes resolved.

A null byte is looked for as a backslash and a zero in what is written. Where these stand in a literal
is told by `marksNull_iff`: at an octal escape that starts with a zero, which is a null byte if all its
digits are zeros, but also at a zero behind an escaped backslash, in a raw piece and in a comment.
-/

namespace SaltConventions

lemma Text.pair_infix_append {a b : Char} {xs ys : List Char} :
    [a, b] <:+: xs ++ ys ↔
      [a, b] <:+: xs ∨ [a, b] <:+: ys ∨ xs.getLast? = some a ∧ ys.head? = some b := by
  rw [List.infix_append_iff]
  constructor
  · rintro (h | h | ⟨front, back, hsplit, hfront, hback⟩)
    · exact .inl h
    · exact .inr (.inl h)
    -- The pair is cut into an end of `xs` and a start of `ys`, in one of three ways.
    · match front, hsplit with
      | [], hsplit => exact .inr (.inl (hsplit ▸ hback.isInfix))
      | [_], hsplit =>
        obtain ⟨rfl, rfl⟩ := List.cons_eq_cons.mp hsplit
        obtain ⟨before, rfl⟩ := hfront
        obtain ⟨after, rfl⟩ := hback
        exact .inr (.inr (by simp))
      | _ :: _ :: more, hsplit =>
        simp only [List.cons_append, List.cons.injEq, List.nil_eq_append_iff] at hsplit
        obtain ⟨rfl, rfl, rfl, rfl⟩ := hsplit
        exact .inl hfront.isInfix
  · rintro (h | h | ⟨ha, hb⟩)
    · exact .inl h
    · exact .inr (.inl h)
    · obtain ⟨before, rfl⟩ := List.getLast?_eq_some_iff.mp ha
      obtain ⟨after, rfl⟩ := List.head?_eq_some_iff.mp hb
      exact .inr (.inr ⟨[a], [b], rfl, List.suffix_append .., after, rfl⟩)

lemma Text.occursIn_iff {pattern cs : List Char} :
    occursIn pattern cs = true ↔ pattern <:+: cs := by
  induction cs with
  | nil =>
    rw [occursIn, after?, List.infix_nil]
    split <;> simp_all
  | cons c cs ih =>
    have hstarts : pattern <+: c :: cs ↔ ∃ rest, stripPrefix? pattern (c :: cs) = some rest := by
      simp only [stripPrefix?_eq_some_iff, List.prefix_iff_exists_eq_append]
    rw [List.infix_cons_iff, hstarts, ← ih, occursIn, occursIn, after?]
    cases stripPrefix? pattern (c :: cs) <;> simp

namespace StringLiteral

/-! ### The grammar -/

/-- A piece of what stands between quotes: a character for itself, or a backslash with what it
escapes. -/
inductive Item where
  | char (c : Char)
  | octal (digits : List Char)
  | hex (letter : Char) (digits : List Char)
  | named (name : List Char) (c : Char)
  | escape (c : Char)

def Item.write : Item → List Char
  | char c => [c]
  | octal digits => '\\' :: digits
  | hex letter digits => '\\' :: letter :: digits
  | named name _ => '\\' :: 'N' :: '{' :: (name ++ ['}'])
  | escape c => ['\\', c]

/-- What a backslash and a character stand for that is no digit and starts no code. -/
def unescape : Char → List Char
  | '\n' => []
  | 'a' => ['\x07']
  | 'b' => ['\x08']
  | 't' => ['\t']
  | 'n' => ['\n']
  | 'v' => ['\x0b']
  | 'f' => ['\x0c']
  | 'r' => ['\r']
  | '\\' => ['\\']
  | '\'' => ['\'']
  | '"' => ['"']
  | c => ['\\', c]

/-- What an item stands for. A code that is no character stands for the replacement character. -/
def Item.read : Item → List Char
  | char c => [c]
  | octal digits => [Char.ofNat (Toml.numberOf 8 digits)]
  | hex _ digits => [(Toml.charOfHex? digits).getD '\uFFFD']
  | named _ c => [c]
  | escape c => unescape c

def writeAll (items : List Item) : List Char :=
  items.flatMap Item.write

def isOctal (c : Char) : Bool :=
  (Permission.octalDigit? c).isSome

def isHex (c : Char) : Bool :=
  (Text.hexValue? c).isSome

def isNamePart (c : Char) : Bool :=
  c.isAlphanum || c == ' ' || c == '-'

/-- Digits are octal or hexadecimal, as many as the escape takes, and no character that starts an
escape of another form stands behind a backslash. -/
def Item.Valid : Item → Prop
  | char c => c ≠ '\\'
  | octal digits => digits ≠ [] ∧ digits.length ≤ 3 ∧ digits.all isOctal = true
  | hex letter digits => (letter, digits.length) ∈ [('x', 2), ('u', 4), ('U', 8)] ∧
      digits.all isHex = true ∧ Toml.numberOf 16 digits < 0x110000
  | named name _ => name.all isNamePart = true
  | escape c => isOctal c = false ∧ c ∉ ['x', 'u', 'U', 'N']

instance : DecidablePred Item.Valid
  | .char _ => inferInstanceAs (Decidable (_ ≠ _))
  | .octal _ => inferInstanceAs (Decidable (_ ∧ _ ∧ _))
  | .hex _ _ => inferInstanceAs (Decidable (_ ∧ _ ∧ _))
  | .named _ _ => inferInstanceAs (Decidable (_ = _))
  | .escape _ => inferInstanceAs (Decidable (_ ∧ _))

/-- An octal escape takes all octal digits, up to three. -/
def Item.EndsBefore (later : List Item) : Item → Prop
  | octal digits => digits.length = 3 ∨ (writeAll later).head?.any isOctal = false
  | _ => True

instance (later : List Item) : DecidablePred (Item.EndsBefore later)
  | .octal _ => inferInstanceAs (Decidable (_ ∨ _))
  | .char _ | .hex _ _ | .named _ _ | .escape _ => isTrue trivial

/-- The literal is not over in front of some characters: its quote does not stand there, and a newline
only if the quotes are triple. -/
def GoesOn (quote cs : List Char) : Prop :=
  ¬quote <+: cs ++ quote ∧ (cs.head? = some '\n' → quote.length = 3)

instance (quote cs : List Char) : Decidable (GoesOn quote cs) :=
  inferInstanceAs (Decidable (_ ∧ _))

/-- Items that are read one after another up to the quote behind them. -/
def Closed (quote : List Char) : List Item → Prop
  | [] => True
  | item :: later => item.Valid ∧ item.EndsBefore later ∧ GoesOn quote (writeAll (item :: later)) ∧
      Closed quote later

instance Closed.decidable (quote : List Char) : (items : List Item) → Decidable (Closed quote items)
  | [] => isTrue trivial
  | _ :: later =>
    have := Closed.decidable quote later
    inferInstanceAs (Decidable (_ ∧ _ ∧ _ ∧ _))

/-- The inside of a raw piece up to the quote behind it: a backslash takes the next character along. -/
inductive RawClosed (quote : List Char) : List Char → Prop where
  | nil : RawClosed quote []
  | plain {c : Char} {body : List Char} (hc : c ≠ '\\') (on : GoesOn quote (c :: body))
      (h : RawClosed quote body) : RawClosed quote (c :: body)
  | escape (c : Char) {body : List Char} (h : RawClosed quote body) :
      RawClosed quote ('\\' :: c :: body)

/-- A piece of a literal: characters in quotes, with or without escapes, and what may stand between
these. -/
inductive Piece where
  | cooked (mark quote : List Char) (items : List Item)
  | raw (mark : Char) (quote body : List Char)
  | blank (c : Char)
  | joint
  | comment (body : List Char)

def Piece.write : Piece → List Char
  | cooked mark quote items => mark ++ quote ++ writeAll items ++ quote
  | raw mark quote body => mark :: quote ++ body ++ quote
  | blank c => [c]
  | joint => ['\\', '\n']
  | comment body => '#' :: body ++ ['\n']

def Piece.read : Piece → List Char
  | cooked _ _ items => items.flatMap Item.read
  | raw _ _ body => body
  | _ => []

def quotes : List (List Char) :=
  ["'".toList, "\"".toList, "'''".toList, "\"\"\"".toList]

/-- A piece is closed by the first quote that can close it. -/
def Piece.Valid : Piece → Prop
  | cooked mark quote items => mark ∈ [[], ['u'], ['U']] ∧ quote ∈ quotes ∧ Closed quote items
  | raw mark quote body => mark ∈ ['r', 'R'] ∧ quote ∈ quotes ∧ RawClosed quote body
  | blank c => c ∈ [' ', '\t', '\x0c', '\n']
  | joint => True
  | comment body => '\n' ∉ body

/-- Two quotes with a third one behind them would open triple quotes. -/
def Piece.EndsBefore : Piece → Piece → Prop
  | cooked _ quote [], next | raw _ quote [], next => quote.length = 1 → ¬quote <+: next.write
  | _, _ => True

def text (pieces : List Piece) : List Char :=
  pieces.flatMap Piece.write

def value (pieces : List Piece) : List Char :=
  pieces.flatMap Piece.read

/-- The pieces of a literal. -/
structure Valid (pieces : List Piece) : Prop where
  each : ∀ piece ∈ pieces, piece.Valid
  apart : pieces.IsChain Piece.EndsBefore

/-- A source text as it is read: every line end is a newline. -/
def unify : List Char → List Char
  | [] => []
  | '\r' :: '\n' :: cs => '\n' :: unify cs
  | '\r' :: cs => '\n' :: unify cs
  | c :: cs => c :: unify cs

/-- What the parser makes of a source text between two offsets: the value of the literal that is
written there. -/
structure ReadFrom (source : String) (span : Span) (value : String) (pieces : List Piece) : Prop where
  valid : Valid pieces
  written : ∃ written, Text.slice? source span.start span.stop = some written ∧
    unify written.toList = text pieces
  value_eq : value.toList = StringLiteral.value pieces

/-! ### A backslash and a zero -/

/-- A text in which the rule sees a null byte. -/
def MarksNull (cs : List Char) : Prop :=
  ['\\', '0'] <:+: cs

def NullEscape (pieces : List Piece) : Prop :=
  ∃ mark quote items digits, .cooked mark quote items ∈ pieces ∧ .octal digits ∈ items ∧
    ∀ d ∈ digits, d = '0'

/-- A backslash and a zero that are no null byte: the escape goes on with other digits, the backslash
is escaped, or they stand where there are no escapes. -/
inductive Misleading (pieces : List Piece) : Prop where
  | digits {mark quote : List Char} {items : List Item} {digits : List Char}
      (piece : .cooked mark quote items ∈ pieces) (octal : .octal ('0' :: digits) ∈ items)
      (other : ∃ d ∈ digits, d ≠ '0') : Misleading pieces
  | backslash {mark quote : List Char} {items : List Item}
      (piece : .cooked mark quote items ∈ pieces) (zero : [.escape '\\', .char '0'] <:+: items) :
      Misleading pieces
  | raw {mark : Char} {quote body : List Char} (piece : .raw mark quote body ∈ pieces)
      (zero : MarksNull body) : Misleading pieces
  | comment {body : List Char} (piece : .comment body ∈ pieces) (zero : MarksNull body) :
      Misleading pieces

lemma marksNull_append {xs ys : List Char} :
    MarksNull (xs ++ ys) ↔
      MarksNull xs ∨ MarksNull ys ∨ xs.getLast? = some '\\' ∧ ys.head? = some '0' :=
  Text.pair_infix_append

lemma marksNull_cons_iff {c : Char} {cs : List Char} :
    MarksNull (c :: cs) ↔ c = '\\' ∧ cs.head? = some '0' ∨ MarksNull cs := by
  have hhead : ['0'] <+: cs ↔ cs.head? = some '0' := by
    cases cs <;> simp [eq_comm]
  rw [MarksNull, List.infix_cons_iff, List.cons_prefix_cons, hhead, eq_comm]
  rfl

lemma marksNull_unify (cs : List Char) : MarksNull (unify cs) ↔ MarksNull cs := by
  have hzero : ∀ cs, (unify cs).head? = some '0' ↔ cs.head? = some '0' := by
    intro cs
    fun_cases unify cs <;> simp
  fun_induction unify cs <;> simp [marksNull_cons_iff, *]

lemma not_marksNull {cs : List Char} (h : '\\' ∉ cs) : ¬MarksNull cs :=
  fun hmarks => h (List.IsInfix.subset hmarks List.mem_cons_self)

lemma marksNull_backslash {cs : List Char} (h : '\\' ∉ cs) :
    MarksNull ('\\' :: cs) ↔ cs.head? = some '0' := by
  simp [marksNull_cons_iff, not_marksNull h]

lemma marksNull_framed {front back : List Char} (hfront : '\\' ∉ front) (hback : '\\' ∉ back)
    (hzero : back.head? ≠ some '0') (cs : List Char) :
    MarksNull (front ++ cs ++ back) ↔ MarksNull cs := by
  have hlast : front.getLast? ≠ some '\\' := fun h => hfront (List.mem_of_getLast? h)
  simp [marksNull_append, not_marksNull hfront, not_marksNull hback, hlast, hzero]

/-! ### Items -/

@[simp] lemma writeAll_cons (item : Item) (later : List Item) :
    writeAll (item :: later) = item.write ++ writeAll later := List.flatMap_cons

lemma Item.Valid.cases {item : Item} (h : item.Valid) :
    (∃ c, item = .char c ∧ c ≠ '\\') ∨ item = .escape '\\' ∨
      item ≠ .escape '\\' ∧ ∃ cs, item.write = '\\' :: cs ∧ cs ≠ [] ∧ '\\' ∉ cs ∧
        (cs.head? = some '0' ↔ ∃ later, item = .octal ('0' :: later)) := by
  cases item with
  | char c => exact .inl ⟨c, rfl, h⟩
  | octal digits =>
    obtain ⟨hne, -, hdigits⟩ := h
    refine .inr (.inr ⟨nofun, digits, rfl, hne, fun hmem => ?_, ?_⟩)
    · exact absurd (List.all_eq_true.mp hdigits _ hmem) (by decide)
    · simp [List.head?_eq_some_iff]
  | hex letter digits =>
    obtain ⟨hletter, hdigits, -⟩ := h
    have hother : letter ≠ '\\' ∧ letter ≠ '0' := by
      simp only [List.mem_cons, Prod.mk.injEq, List.not_mem_nil, or_false] at hletter
      rcases hletter with ⟨rfl, -⟩ | ⟨rfl, -⟩ | ⟨rfl, -⟩ <;> decide
    refine .inr (.inr ⟨nofun, letter :: digits, rfl, nofun, fun hback => ?_, ?_⟩)
    · rcases List.mem_cons.mp hback with hback | hback
      · exact hother.1 hback.symm
      · exact absurd (List.all_eq_true.mp hdigits _ hback) (by decide)
    · simp [hother.2]
  | named name c =>
    refine .inr (.inr ⟨nofun, 'N' :: '{' :: (name ++ ['}']), rfl, nofun, fun hback => ?_, ?_⟩)
    · have hname : '\\' ∈ name := by simpa using hback
      exact absurd (List.all_eq_true.mp h _ hname) (by decide)
    · simp
  | escape c =>
    by_cases hc : c = '\\'
    · exact .inr (.inl (congrArg _ hc))
    · have hzero : c ≠ '0' := by
        rintro rfl
        exact absurd h.1 (by decide)
      exact .inr (.inr ⟨by simpa using hc, [c], rfl, nofun, by simpa using Ne.symm hc, by simp [hzero]⟩)

lemma Item.Valid.getLast?_write {item : Item} (h : item.Valid) :
    item.write.getLast? = some '\\' ↔ item = .escape '\\' := by
  obtain ⟨c, rfl, hc⟩ | rfl | ⟨hother, cs, hwrite, hne, hcs, -⟩ := h.cases
  · simpa [write] using hc
  · simp [write]
  · refine iff_of_false (fun hlast => ?_) hother
    rw [hwrite, List.getLast?_cons_of_ne_nil hne] at hlast
    exact hcs (List.mem_of_getLast? hlast)

lemma Item.Valid.marksNull_write {item : Item} (h : item.Valid) :
    MarksNull item.write ↔ ∃ later, item = .octal ('0' :: later) := by
  obtain ⟨c, rfl, hc⟩ | rfl | ⟨-, cs, hwrite, -, hcs, hzero⟩ := h.cases
  · simp [write, marksNull_cons_iff, not_marksNull]
  · simp [write, marksNull_cons_iff, not_marksNull]
  · rw [hwrite, marksNull_backslash hcs, hzero]

lemma head?_writeAll (items : List Item) :
    (writeAll items).head? = some '0' ↔ items.head? = some (.char '0') := by
  cases items with
  | nil => simp [writeAll]
  | cons item later => cases item <;> simp [Item.write]

/-- Among items, a backslash and a zero stand in an octal escape or at a zero behind an escaped
backslash. -/
lemma marksNull_writeAll {items : List Item} (h : ∀ item ∈ items, item.Valid) :
    MarksNull (writeAll items) ↔
      (∃ later, .octal ('0' :: later) ∈ items) ∨ [.escape '\\', .char '0'] <:+: items := by
  induction items with
  | nil => simp [MarksNull, writeAll]
  | cons item later ih =>
    have hitem := h item List.mem_cons_self
    have hmark := hitem.marksNull_write
    have hlater := ih fun i hi => h i (List.mem_cons_of_mem _ hi)
    have hoctal : (∃ digits, .octal ('0' :: digits) ∈ item :: later) ↔
        (∃ digits, item = .octal ('0' :: digits)) ∨ ∃ digits, .octal ('0' :: digits) ∈ later := by
      simp only [List.mem_cons, exists_or, eq_comm]
    -- Where two items meet, only an escaped backslash can be the backslash.
    have hpair : [.escape '\\', .char '0'] <:+: item :: later ↔
        item = .escape '\\' ∧ later.head? = some (.char '0') ∨
          [.escape '\\', .char '0'] <:+: later := by
      have hhead : [.char '0'] <+: later ↔ later.head? = some (.char '0') := by
        cases later <;> simp [eq_comm]
      rw [List.infix_cons_iff, List.cons_prefix_cons, hhead, eq_comm]
    rw [hoctal, hpair, ← hmark, writeAll_cons, marksNull_append, hitem.getLast?_write,
      head?_writeAll, hlater]
    simp only [or_assoc, or_comm, or_left_comm]

/-! ### Pieces -/

lemma Closed.valid {quote : List Char} {items : List Item} (h : Closed quote items) :
    ∀ item ∈ items, item.Valid := by
  induction items with
  | nil => nofun
  | cons item later ih =>
    obtain ⟨hitem, -, -, hlater⟩ := h
    exact List.forall_mem_cons.mpr ⟨hitem, ih hlater⟩

/-- The part of a piece where a backslash and a zero may stand. -/
def Piece.body : Piece → List Char
  | cooked _ _ items => writeAll items
  | raw _ _ body | comment body => body
  | blank _ | joint => []

lemma Piece.Valid.framed {piece : Piece} (h : piece.Valid) :
    piece = .joint ∨ ∃ front back, piece.write = front ++ piece.body ++ back ∧
      ('\\' ∉ front ∧ '0' ∉ front ∧ front ≠ []) ∧ '\\' ∉ back ∧ '0' ∉ back := by
  have hquotes : ∀ quote ∈ quotes, '\\' ∉ quote ∧ '0' ∉ quote ∧ quote ≠ [] := by decide
  have hframe : ∀ {mark quote : List Char}, '\\' ∉ mark ∧ '0' ∉ mark → quote ∈ quotes →
      ('\\' ∉ mark ++ quote ∧ '0' ∉ mark ++ quote ∧ mark ++ quote ≠ []) ∧
        '\\' ∉ quote ∧ '0' ∉ quote := by
    intro mark quote hmark hquote
    obtain ⟨hback, hzero, hne⟩ := hquotes quote hquote
    simp [hmark, hback, hzero, hne]
  cases piece with
  | cooked mark quote items =>
    have hmarks : ∀ mark ∈ [[], ['u'], ['U']], '\\' ∉ mark ∧ '0' ∉ mark := by decide
    exact .inr ⟨mark ++ quote, quote, rfl, hframe (hmarks mark h.1) h.2.1⟩
  | raw mark quote body =>
    obtain ⟨hmark, hquote, -⟩ := h
    have hplain : '\\' ∉ [mark] ∧ '0' ∉ [mark] := by
      simp only [List.mem_cons, List.not_mem_nil, or_false] at hmark
      rcases hmark with rfl | rfl <;> decide
    exact .inr ⟨[mark] ++ quote, quote, rfl, hframe hplain hquote⟩
  | blank c =>
    have hblank : '\\' ∉ [c] ∧ '0' ∉ [c] ∧ [c] ≠ [] := by
      simp only [Valid, List.mem_cons, List.not_mem_nil, or_false] at h
      rcases h with rfl | rfl | rfl | rfl <;> decide
    exact .inr ⟨[c], [], rfl, hblank, List.not_mem_nil, List.not_mem_nil⟩
  | joint => exact .inl rfl
  | comment body => exact .inr ⟨['#'], ['\n'], rfl, by decide⟩

lemma Piece.Valid.marksNull_write {piece : Piece} (h : piece.Valid) :
    MarksNull piece.write ↔ MarksNull piece.body := by
  obtain rfl | ⟨front, back, hwrite, ⟨hfront, -⟩, hback, hzero⟩ := h.framed
  · simp [write, body, marksNull_cons_iff, not_marksNull]
  · rw [hwrite]
    exact marksNull_framed hfront hback (fun hhead => hzero (List.mem_of_head? hhead)) piece.body

lemma head?_text {pieces : List Piece} (h : ∀ piece ∈ pieces, piece.Valid) :
    (text pieces).head? ≠ some '0' := by
  cases pieces with
  | nil => nofun
  | cons piece later =>
    obtain rfl | ⟨front, back, hwrite, ⟨-, hzero, hne⟩, -⟩ := (h piece List.mem_cons_self).framed
    · simp [text, Piece.write]
    · obtain ⟨c, cs, rfl⟩ := List.exists_cons_of_ne_nil hne
      have hc : c ≠ '0' := fun hc => hzero (hc ▸ List.mem_cons_self)
      simpa [text, hwrite] using hc

lemma marksNull_text {pieces : List Piece} (h : ∀ piece ∈ pieces, piece.Valid) :
    MarksNull (text pieces) ↔ ∃ piece ∈ pieces, MarksNull piece.body := by
  induction pieces with
  | nil => simp [text, not_marksNull]
  | cons piece later ih =>
    have hpiece := (h piece List.mem_cons_self).marksNull_write
    have hlater := fun p hp => h p (List.mem_cons_of_mem _ hp)
    have htext : text (piece :: later) = piece.write ++ text later := List.flatMap_cons
    -- No piece starts with a zero, so nothing is found where two pieces meet.
    rw [htext, marksNull_append, hpiece, ih hlater]
    simp [head?_text hlater]

/-- A backslash and a zero stand in a literal exactly at a null byte in octal and where they mislead. -/
theorem marksNull_iff {pieces : List Piece} (h : ∀ piece ∈ pieces, piece.Valid) :
    MarksNull (text pieces) ↔ NullEscape pieces ∨ Misleading pieces := by
  have hitems : ∀ {mark quote items}, .cooked mark quote items ∈ pieces →
      (MarksNull (writeAll items) ↔ (∃ digits, .octal ('0' :: digits) ∈ items) ∨
        [.escape '\\', .char '0'] <:+: items) := fun hp => marksNull_writeAll (h _ hp).2.2.valid
  rw [marksNull_text h]
  constructor
  · rintro ⟨piece, hp, hmarks⟩
    cases piece with
    | cooked mark quote items =>
      rcases (hitems hp).mp hmarks with ⟨digits, hoctal⟩ | hzero
      · by_cases hall : ∀ d ∈ digits, d = '0'
        · exact .inl ⟨mark, quote, items, _, hp, hoctal, List.forall_mem_cons.mpr ⟨rfl, hall⟩⟩
        · exact .inr (.digits hp hoctal (by simpa using hall))
      · exact .inr (.backslash hp hzero)
    | raw mark quote body => exact .inr (.raw hp hmarks)
    | blank c => exact absurd hmarks (not_marksNull List.not_mem_nil)
    | joint => exact absurd hmarks (not_marksNull List.not_mem_nil)
    | comment body => exact .inr (.comment hp hmarks)
  · rintro (⟨mark, quote, items, digits, hp, hoctal, hall⟩ | hmisleading)
    · obtain ⟨hne, -⟩ : Item.Valid (.octal digits) := (h _ hp).2.2.valid _ hoctal
      obtain ⟨d, later, rfl⟩ := List.exists_cons_of_ne_nil hne
      obtain rfl := hall d List.mem_cons_self
      exact ⟨_, hp, (hitems hp).mpr (.inl ⟨later, hoctal⟩)⟩
    · cases hmisleading with
      | digits hp hoctal _ => exact ⟨_, hp, (hitems hp).mpr (.inl ⟨_, hoctal⟩)⟩
      | backslash hp hzero => exact ⟨_, hp, (hitems hp).mpr (.inr hzero)⟩
      | raw hp hzero => exact ⟨_, hp, hzero⟩
      | comment hp hzero => exact ⟨_, hp, hzero⟩

lemma NullEscape.mem_value {pieces : List Piece} (h : NullEscape pieces) :
    '\x00' ∈ value pieces := by
  obtain ⟨mark, quote, items, digits, hp, hoctal, hall⟩ := h
  have hnumber : Toml.numberOf 8 digits = 0 := by
    rw [List.eq_replicate_of_mem hall, Toml.numberOf]
    generalize digits.length = n
    induction n with
    | zero => rfl
    | succ n ih => exact ih
  have hread : '\x00' ∈ Item.read (.octal digits) := by
    rw [Item.read, hnumber]
    decide
  exact List.mem_flatMap.mpr ⟨_, hp, List.mem_flatMap.mpr ⟨_, hoctal, hread⟩⟩

end StringLiteral

end SaltConventions
