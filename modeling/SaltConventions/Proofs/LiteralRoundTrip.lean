import Mathlib.Logic.Function.Basic
import Mathlib.Tactic.Lemma
import SaltConventions.Text.Literal

/-!
# Reading quoted literals back

A quoted literal is one quote, a body and the same quote. Inside the body the quote stands only
behind a backslash that belongs to it, so the literal ends where it was meant to end, and the body
decodes to the text that was quoted. No two texts have the same literal.
-/

namespace SaltConventions.Text.Literal

/-! ### Escapes -/

/-- The characters with an escape of their own, and the letters that stand for them. -/
def shortEscapes : List (Char × Char) :=
  [('\\', '\\'), ('\n', 'n'), ('\t', 't'), ('\r', 'r')]

/-- How one character is written inside a literal. -/
inductive Writes (quote : Char) : Char → List Char → Prop where
  | short {c letter : Char} (h : (c, letter) ∈ shortEscapes) : Writes quote c ['\\', letter]
  | null : Writes quote '\x00' ['\\', 'x', '0', '0']
  | quoted : Writes quote quote ['\\', quote]
  | plain {c : Char} (hq : c ≠ quote) (hc : c ∉ ['\\', '\n', '\t', '\r', '\x00']) :
      Writes quote c [c]

lemma writes_escapeChar (quote c : Char) : Writes quote c (escapeChar quote c) := by
  unfold escapeChar
  split
  · subst c
    exact .short (by decide)
  split
  · subst c
    exact .short (by decide)
  split
  · subst c
    exact .short (by decide)
  split
  · subst c
    exact .short (by decide)
  split
  · rename_i hnull
    obtain rfl : c = '\x00' := Char.toNat_inj.mp hnull
    exact .null
  split
  · subst c
    exact .quoted
  · rename_i hbackslash hnewline htab hreturn hnull hquote
    have hzero : c ≠ '\x00' := fun h => hnull (h ▸ rfl)
    exact .plain hquote (by simp [hbackslash, hnewline, htab, hreturn, hzero])

lemma quoteFor_cases (cs : List Char) : quoteFor cs = '\'' ∨ quoteFor cs = '"' := by
  unfold quoteFor
  split
  · exact .inr rfl
  · exact .inl rfl

/-- The characters that no literal holds as they are. -/
def unprintable : List Char :=
  ['\n', '\r', '\t', '\x00']

lemma Writes.not_unprintable {quote c d : Char} {written : List Char} (h : Writes quote c written)
    (hq : quote ∉ unprintable) (hd : d ∈ written) : d ∉ unprintable := by
  cases h with
  | short h =>
    simp only [shortEscapes, List.mem_cons, Prod.mk.injEq, List.not_mem_nil, or_false] at h
    rcases h with ⟨-, rfl⟩ | ⟨-, rfl⟩ | ⟨-, rfl⟩ | ⟨-, rfl⟩
    all_goals
      simp only [List.mem_cons, List.not_mem_nil, or_false] at hd
      rcases hd with rfl | rfl <;> decide
  | null =>
    simp only [List.mem_cons, List.not_mem_nil, or_false] at hd
    rcases hd with rfl | rfl | rfl | rfl <;> decide
  | quoted =>
    simp only [List.mem_cons, List.not_mem_nil, or_false] at hd
    rcases hd with rfl | rfl
    · decide
    · exact hq
  | plain _ hc =>
    obtain rfl := List.mem_singleton.mp hd
    simp only [unprintable, List.mem_cons, List.not_mem_nil, or_false, not_or] at hc ⊢
    exact ⟨hc.2.1, hc.2.2.2.1, hc.2.2.1, hc.2.2.2.2⟩

/-! ### Where a literal ends -/

/-- A backslash that is not escaped itself stands in front of a position. -/
def EscapedAt (cs : List Char) : Nat → Prop
  | 0 => False
  | i + 1 => cs[i]? = some '\\' ∧ ¬EscapedAt cs i

lemma escapedAt_append_of_le {xs : List Char} (ys : List Char) {i : Nat} (h : i ≤ xs.length) :
    EscapedAt (xs ++ ys) i ↔ EscapedAt xs i := by
  induction i with
  | zero => exact Iff.rfl
  | succ i ih =>
    simp only [EscapedAt, ih (by omega), List.getElem?_append_left (Nat.lt_of_succ_le h)]

/-- Text whose end is not escaped does not matter for what comes after it. -/
lemma escapedAt_append_add {xs : List Char} (h : ¬EscapedAt xs xs.length) (ys : List Char)
    (i : Nat) : EscapedAt (xs ++ ys) (xs.length + i) ↔ EscapedAt ys i := by
  induction i with
  | zero => simpa [EscapedAt, escapedAt_append_of_le] using h
  | succ i ih =>
    have hchar : (xs ++ ys)[xs.length + i]? = ys[i]? := by
      rw [List.getElem?_append_right (Nat.le_add_right _ _), Nat.add_sub_cancel_left]
    change (xs ++ ys)[xs.length + i]? = some '\\' ∧ ¬EscapedAt (xs ++ ys) (xs.length + i) ↔ _
    rw [hchar, ih]
    rfl

/-- Every quote in a text is escaped, and what comes after the text is not. -/
structure Closed (quote : Char) (cs : List Char) : Prop where
  escaped : ∀ i, cs[i]? = some quote → EscapedAt cs i
  whole : ¬EscapedAt cs cs.length

lemma Closed.nil (quote : Char) : Closed quote [] := ⟨by simp, id⟩

lemma Closed.append {quote : Char} {xs ys : List Char} (hx : Closed quote xs)
    (hy : Closed quote ys) : Closed quote (xs ++ ys) := by
  constructor
  · intro i hi
    by_cases hlt : i < xs.length
    · rw [List.getElem?_append_left hlt] at hi
      exact (escapedAt_append_of_le ys (Nat.le_of_lt hlt)).mpr (hx.escaped i hi)
    · obtain ⟨j, rfl⟩ := Nat.exists_eq_add_of_le (Nat.le_of_not_lt hlt)
      rw [List.getElem?_append_right (Nat.le_add_right _ _), Nat.add_sub_cancel_left] at hi
      exact (escapedAt_append_add hx.whole ys j).mpr (hy.escaped j hi)
  · rw [List.length_append, escapedAt_append_add hx.whole]
    exact hy.whole

lemma Closed.flatMap {quote : Char} {cs : List Char} {f : Char → List Char}
    (h : ∀ c, Closed quote (f c)) : Closed quote (cs.flatMap f) := by
  induction cs with
  | nil => exact .nil quote
  | cons c cs ih =>
    rw [List.flatMap_cons]
    exact (h c).append ih

lemma Closed.char {quote c : Char} (hq : c ≠ quote) (hb : c ≠ '\\') : Closed quote [c] := by
  constructor
  · intro i hi
    cases i with
    | zero => exact absurd (Option.some.inj hi) hq
    | succ i => simp at hi
  · simp [EscapedAt, hb]

lemma Closed.escape {quote : Char} (hq : '\\' ≠ quote) (c : Char) : Closed quote ['\\', c] := by
  have hescaped : EscapedAt ['\\', c] 1 := ⟨rfl, id⟩
  constructor
  · intro i hi
    match i with
    | 0 => exact absurd (Option.some.inj hi) hq
    | 1 => exact hescaped
    | i + 2 => simp at hi
  · exact fun h => h.2 hescaped

lemma Writes.closed {quote c : Char} {written : List Char} (h : Writes quote c written)
    (hb : '\\' ≠ quote) (hzero : '0' ≠ quote) : Closed quote written := by
  cases h with
  | short h => exact .escape hb _
  -- Of the escape in four characters only the first two belong to the backslash.
  | null =>
    have hdigit : Closed quote ['0'] := .char hzero (by decide)
    exact (Closed.escape hb 'x').append (hdigit.append hdigit)
  | quoted => exact .escape hb quote
  | plain hq hc => exact .char hq fun h => hc (by simp [h])

/-! ### Decoding -/

/-- The text that the body of a literal stands for. Each backslash has to begin an escape. -/
def decode? : List Char → Option (List Char)
  | [] => some []
  | '\\' :: '\\' :: rest => (decode? rest).map ('\\' :: ·)
  | '\\' :: 'n' :: rest => (decode? rest).map ('\n' :: ·)
  | '\\' :: 't' :: rest => (decode? rest).map ('\t' :: ·)
  | '\\' :: 'r' :: rest => (decode? rest).map ('\r' :: ·)
  | '\\' :: 'x' :: '0' :: '0' :: rest => (decode? rest).map ('\x00' :: ·)
  | '\\' :: '\'' :: rest => (decode? rest).map ('\'' :: ·)
  | '\\' :: '"' :: rest => (decode? rest).map ('"' :: ·)
  | c :: rest => if c = '\\' then none else (decode? rest).map (c :: ·)

lemma decode?_of_ne {c : Char} (h : c ≠ '\\') (rest : List Char) :
    decode? (c :: rest) = (decode? rest).map (c :: ·) := by
  rw [decode?.eq_def]
  split <;> simp_all

lemma Writes.decode?_append {quote c : Char} {written : List Char} (h : Writes quote c written)
    (hq : quote = '\'' ∨ quote = '"') (rest : List Char) :
    decode? (written ++ rest) = (decode? rest).map (c :: ·) := by
  cases h with
  | short h =>
    simp only [shortEscapes, List.mem_cons, Prod.mk.injEq, List.not_mem_nil, or_false] at h
    rcases h with ⟨rfl, rfl⟩ | ⟨rfl, rfl⟩ | ⟨rfl, rfl⟩ | ⟨rfl, rfl⟩ <;> rfl
  | null => rfl
  | quoted => rcases hq with rfl | rfl <;> rfl
  | plain _ hc => exact decode?_of_ne (fun h => hc (by simp [h])) rest

theorem decode?_flatMap_escapeChar {quote : Char} (hq : quote = '\'' ∨ quote = '"')
    (cs : List Char) : decode? (cs.flatMap (escapeChar quote)) = some cs := by
  induction cs with
  | nil => rfl
  | cons c cs ih =>
    rw [List.flatMap_cons, (writes_escapeChar quote c).decode?_append hq, ih, Option.map_some]

/-! ### Whole literals -/

/-- A literal with this body and quote stands for a text. -/
structure StandsFor (quote : Char) (body cs : List Char) : Prop where
  delimits : quote = '\'' ∨ quote = '"'
  printable : ∀ c ∈ body, c ∉ unprintable
  closed : Closed quote body
  decoded : decode? body = some cs

theorem encode_standsFor (cs : List Char) :
    ∃ quote body, encode cs = quote :: body ++ [quote] ∧ StandsFor quote body cs := by
  have hq := quoteFor_cases cs
  have hb : '\\' ≠ quoteFor cs := by rcases hq with h | h <;> rw [h] <;> decide
  have hzero : '0' ≠ quoteFor cs := by rcases hq with h | h <;> rw [h] <;> decide
  have hprintable : quoteFor cs ∉ unprintable := by rcases hq with h | h <;> rw [h] <;> decide
  refine ⟨quoteFor cs, cs.flatMap (escapeChar (quoteFor cs)), rfl, hq, ?_, ?_,
    decode?_flatMap_escapeChar hq cs⟩
  · intro d hd
    obtain ⟨c, -, hd⟩ := List.mem_flatMap.mp hd
    exact (writes_escapeChar _ c).not_unprintable hprintable hd
  · exact Closed.flatMap fun c => (writes_escapeChar _ c).closed hb hzero

/-- The literal of a string is a printable body between two equal quotes that decodes to the string.
-/
theorem ofString_reads_back :
    (∀ s : String, ∃ quote body, (ofString s).toList = quote :: body ++ [quote] ∧
      (quote = '\'' ∨ quote = '"') ∧
      (∀ c ∈ body, c ≠ '\n' ∧ c ≠ '\r' ∧ c ≠ '\t' ∧ c ≠ '\x00') ∧
      (∀ i, body[i]? = some quote → EscapedAt body i) ∧ ¬EscapedAt body body.length ∧
      decode? body = some s.toList) ∧
    Function.Injective ofString := by
  have hliteral : ∀ s : String, (ofString s).toList = encode s.toList := fun s =>
    String.toList_ofList
  constructor
  · intro s
    obtain ⟨quote, body, hencode, hbody⟩ := encode_standsFor s.toList
    refine ⟨quote, body, (hliteral s).trans hencode, hbody.delimits, ?_, hbody.closed.escaped,
      hbody.closed.whole, hbody.decoded⟩
    intro c hc
    simpa [unprintable] using hbody.printable c hc
  · intro s t h
    obtain ⟨quote, body, hs, hbody⟩ := encode_standsFor s.toList
    obtain ⟨quote', body', ht, hbody'⟩ := encode_standsFor t.toList
    have hboth : quote :: (body ++ [quote]) = quote' :: (body' ++ [quote']) := by
      rw [← List.cons_append, ← List.cons_append, ← hs, ← ht, ← hliteral, ← hliteral, h]
    obtain ⟨rfl, htail⟩ := List.cons.inj hboth
    obtain rfl := List.append_cancel_right htail
    have hsame : s.toList = t.toList := Option.some.inj (hbody.decoded.symm.trans hbody'.decoded)
    exact String.toList_inj.mp hsame

end SaltConventions.Text.Literal
