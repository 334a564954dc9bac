import Mathlib.Tactic.IntervalCases
import SaltConventions.Permission
import SaltConventions.Proofs.BoundNames

/-!
# Modes in octal

A mode in octal, however it is spelt, is read as the number it stands for as long as the number has
32 bits, and refused with its text otherwise. A dash makes a range of two modes, and a second dash is
an error. What is shown for a single mode reads back as that mode.
-/

namespace SaltConventions

namespace Text

/-! ### Pieces and prefixes -/

lemma length_pieces (cut : Char → Bool) (cs : List Char) :
    (pieces cut cs).length = cs.countP cut + 1 := by
  induction cs with
  | nil => rfl
  | cons c cs ih =>
    obtain ⟨piece, later, hp⟩ := List.exists_cons_of_ne_nil (pieces_ne_nil cut cs)
    rw [pieces_cons, List.countP_cons]
    rw [hp] at ih ⊢
    split
    · simpa using ih
    · simpa using ih

lemma stripPrefix?_eq_none_of_not_mem {pattern cs : List Char} {c : Char} (hc : c ∈ pattern)
    (h : c ∉ cs) : stripPrefix? pattern cs = none := by
  rw [Option.eq_none_iff_forall_ne_some]
  intro rest hrest
  rw [stripPrefix?_eq_some_iff] at hrest
  exact h (hrest ▸ List.mem_append_left rest hc)

end Text

namespace Permission

/-! ### Octal digits -/

lemma octalDigit?_digitChar {d : Nat} (h : d < 8) : octalDigit? d.digitChar = some d := by
  interval_cases d <;> rfl

lemma octalFrom_append (value : Nat) (xs ys : List Char) :
    octalFrom value (xs ++ ys) = (octalFrom value xs).bind (octalFrom · ys) := by
  induction xs generalizing value with
  | nil => rfl
  | cons x xs ih =>
    rw [List.cons_append, octalFrom, octalFrom]
    cases octalDigit? x with
    | none => rfl
    | some digit => exact ih _

lemma toDigits_more {n d : Nat} (hn : 0 < n) (hd : d < 8) :
    Nat.toDigits 8 (8 * n + d) = Nat.toDigits 8 n ++ [d.digitChar] := by
  rw [← Nat.toDigits_append_toDigits (by decide) hn hd, Nat.toDigits_of_lt_base hd]

theorem octalFrom_toDigits (n : Nat) : octalFrom 0 (Nat.toDigits 8 n) = some n := by
  induction n using Nat.base_induction 8 (by decide) with
  | single d hd =>
    rw [Nat.toDigits_of_lt_base hd, octalFrom, octalDigit?_digitChar hd]
    exact congrArg some (Nat.zero_add d)
  | digit n d hd hn ih =>
    rw [toDigits_more hn hd, octalFrom_append, ih, Option.bind_some, octalFrom,
      octalDigit?_digitChar hd]
    rfl

lemma exists_toDigits_eq_cons {n : Nat} (h : n ≠ 0) :
    ∃ c cs, Nat.toDigits 8 n = c :: cs ∧ c ≠ '0' := by
  induction n using Nat.base_induction 8 (by decide) with
  | single d hd => exact ⟨d.digitChar, [], Nat.toDigits_of_lt_base hd, by simpa using h⟩
  | digit n d hd hn ih =>
    obtain ⟨c, cs, hcs, hc⟩ := ih (Nat.ne_of_gt hn)
    exact ⟨c, cs ++ [d.digitChar], by rw [toDigits_more hn hd, hcs, List.cons_append], hc⟩

lemma dropWhile_zeros (zeros n : Nat) :
    (List.replicate zeros '0' ++ Nat.toDigits 8 n).dropWhile (· == '0') =
      if n = 0 then [] else Nat.toDigits 8 n := by
  have hzeros : ∀ c ∈ List.replicate zeros '0', (c == '0') = true := by
    intro c hc
    simp [List.eq_of_mem_replicate hc]
  rw [List.dropWhile_append_of_pos hzeros]
  split
  · subst n
    rfl
  · rename_i hn
    obtain ⟨c, cs, hcs, hc⟩ := exists_toDigits_eq_cons hn
    rw [hcs]
    exact List.dropWhile_cons_of_neg (by simpa using hc)

/-! ### Spellings -/

lemma mem_toDigits {n : Nat} {c : Char} (h : c ∈ Nat.toDigits 8 n) : c ∈ "01234567".toList := by
  induction n using Nat.base_induction 8 (by decide) with
  | single d hd =>
    rw [Nat.toDigits_of_lt_base hd, List.mem_singleton] at h
    subst c
    interval_cases d <;> decide
  | digit n d hd hn ih =>
    rw [toDigits_more hn hd, List.mem_append, List.mem_singleton] at h
    rcases h with h | rfl
    · exact ih h
    · interval_cases d <;> decide

/-- How a mode is spelt around its octal digits: zeros in front of them, in front of these maybe
`0o`, quotes around all that, and blanks around the quotes. -/
structure Spelling where
  before : List Char
  opening : List Char
  marked : Bool
  zeros : Nat
  closing : List Char
  after : List Char
  before_blank : ∀ c ∈ before, Text.isBlank c = true
  opening_quotes : ∀ c ∈ opening, c = '\'' ∨ c = '"'
  closing_quotes : ∀ c ∈ closing, c = '\'' ∨ c = '"'
  after_blank : ∀ c ∈ after, Text.isBlank c = true

namespace Spelling

def bare (s : Spelling) (n : Nat) : List Char :=
  (if s.marked then ['0', 'o'] else []) ++ (List.replicate s.zeros '0' ++ Nat.toDigits 8 n)

def inner (s : Spelling) (n : Nat) : List Char :=
  s.opening ++ s.bare n ++ s.closing

def write (s : Spelling) (n : Nat) : String :=
  String.ofList (s.before ++ s.inner n ++ s.after)

/-- The spelling with any text in place of the digits of a number. -/
def around (s : Spelling) (core : List Char) : String :=
  String.ofList (s.before ++
    (s.opening ++ ((if s.marked then ['0', 'o'] else []) ++ (List.replicate s.zeros '0' ++ core))
      ++ s.closing) ++ s.after)

lemma write_eq_around (s : Spelling) (n : Nat) : s.write n = s.around (Nat.toDigits 8 n) := rfl

lemma mem_around {s : Spelling} {core : List Char} {c : Char} (h : c ∈ (s.around core).toList) :
    Text.isBlank c = true ∨ c ∈ "'\"o0".toList ∨ c ∈ core := by
  have hquote : ∀ {cs : List Char}, (∀ c ∈ cs, c = '\'' ∨ c = '"') → c ∈ cs → c ∈ "'\"o0".toList := by
    intro cs hcs hc
    rcases hcs c hc with rfl | rfl <;> decide
  simp only [around, String.toList_ofList, List.mem_append] at h
  rcases h with (h | (h | h | h | h) | h) | h
  · exact .inl (s.before_blank c h)
  · exact .inr (.inl (hquote s.opening_quotes h))
  · split at h
    · exact .inr (.inl (by revert h; simp; grind))
    · cases h
  · exact .inr (.inl (List.eq_of_mem_replicate h ▸ by decide))
  · exact .inr (.inr h)
  · exact .inr (.inl (hquote s.closing_quotes h))
  · exact .inl (s.after_blank c h)

/-- What stands between the quotes around `core`. -/
def unquoted (s : Spelling) (core : List Char) : List Char :=
  (if s.marked then ['0', 'o'] else []) ++ (List.replicate s.zeros '0' ++ core)

section Around

variable (s : Spelling) {core : List Char} (h : ∀ c ∈ core, c ∈ "+01234567".toList)

include h

lemma mem_zeros_append {c : Char} (hc : c ∈ List.replicate s.zeros '0' ++ core) :
    c ∈ "+01234567".toList := by
  rcases List.mem_append.mp hc with hzero | hcore
  · exact List.eq_of_mem_replicate hzero ▸ by decide
  · exact h c hcore

lemma mem_unquoted {c : Char} (hc : c ∈ s.unquoted core) : c ∈ "o+01234567".toList := by
  rcases List.mem_append.mp hc with hmark | hdigits
  · split at hmark
    · simp only [List.mem_cons, List.not_mem_nil, or_false] at hmark
      rcases hmark with rfl | rfl <;> decide
    · cases hmark
  · exact List.mem_cons_of_mem _ (s.mem_zeros_append h hdigits)

lemma trim_blanks_around :
    Text.trim Text.isBlank (s.around core).toList = s.opening ++ s.unquoted core ++ s.closing := by
  have hblank : ∀ c ∈ s.opening ++ s.unquoted core ++ s.closing, Text.isBlank c = false := by
    have hnone : "'\"o+01234567".toList.any Text.isBlank = false := by decide
    intro c hc
    refine Bool.eq_false_iff.mpr (List.any_eq_false.mp hnone c ?_)
    simp only [List.mem_append] at hc
    rcases hc with (hc | hc) | hc
    · rcases s.opening_quotes c hc with rfl | rfl <;> decide
    · exact List.mem_cons_of_mem _ (List.mem_cons_of_mem _ (s.mem_unquoted h hc))
    · rcases s.closing_quotes c hc with rfl | rfl <;> decide
  rw [around, String.toList_ofList]
  exact Text.trim_append s.before_blank (fun c hc => hblank c (List.mem_of_mem_head? hc))
    (fun c hc => hblank c (List.mem_of_mem_getLast? hc)) s.after_blank

lemma trim_quotes_unquoted :
    Text.trim (fun c => c == '"' || c == '\'') (s.opening ++ s.unquoted core ++ s.closing) =
      s.unquoted core := by
  have hquotes : ∀ {cs : List Char}, (∀ c ∈ cs, c = '\'' ∨ c = '"') →
      ∀ c ∈ cs, (c == '"' || c == '\'') = true := by
    intro cs hcs c hc
    rcases hcs c hc with rfl | rfl <;> rfl
  have hunquoted : ∀ c ∈ s.unquoted core, (c == '"' || c == '\'') = false := by
    have hnone : "o+01234567".toList.any (fun c => c == '"' || c == '\'') = false := by decide
    exact fun c hc => Bool.eq_false_iff.mpr (List.any_eq_false.mp hnone c (s.mem_unquoted h hc))
  exact Text.trim_append (hquotes s.opening_quotes)
    (fun c hc => hunquoted c (List.mem_of_mem_head? hc))
    (fun c hc => hunquoted c (List.mem_of_mem_getLast? hc)) (hquotes s.closing_quotes)

lemma stripMark_unquoted :
    (Text.stripPrefix? ['0', 'o'] (s.unquoted core)).getD (s.unquoted core) =
      List.replicate s.zeros '0' ++ core := by
  unfold unquoted
  by_cases hm : s.marked
  · simp only [hm, if_true]
    rfl
  · have hletter : 'o' ∉ List.replicate s.zeros '0' ++ core :=
      fun ho => absurd (s.mem_zeros_append h ho) (by decide)
    simp only [hm, if_false, Bool.false_eq_true, List.nil_append]
    rw [Text.stripPrefix?_eq_none_of_not_mem (by decide) hletter]
    rfl

/-- Whatever is around them, the digits, maybe with a plus sign, are what is left of a spelling,
without the zeros in front. -/
lemma modeDigits_around :
    modeDigits (s.around core).toList =
      (List.replicate s.zeros '0' ++ core).dropWhile (· == '0') := by
  simp only [modeDigits, s.trim_blanks_around h, s.trim_quotes_unquoted h, s.stripMark_unquoted h]

end Around

lemma modeDigits_write (s : Spelling) (n : Nat) :
    modeDigits (s.write n).toList = if n = 0 then [] else Nat.toDigits 8 n := by
  rw [write_eq_around, s.modeDigits_around fun c hc => List.mem_cons_of_mem _ (mem_toDigits hc),
    dropWhile_zeros]

end Spelling

/-! ### Reading modes -/

lemma octalWord?_toDigits (n : Nat) :
    octalWord? (Nat.toDigits 8 n) = if n < 2 ^ 32 then some n else none := by
  have hplus : '+' ∉ Nat.toDigits 8 n := fun h => absurd (mem_toDigits h) (by decide)
  rw [octalWord?, Text.stripPrefix?_eq_none_of_not_mem List.mem_cons_self hplus,
    Option.getD_none, octalValue?, if_neg (by simp [Nat.toDigits_ne_nil]), octalFrom_toDigits]
  exact if_congr decide_eq_true_iff rfl rfl

theorem parseMode_write (s : Spelling) (n : Nat) :
    parseMode (s.write n) =
      if n < 2 ^ 32 then .ok n else .error (.permissionMode (s.write n)) := by
  by_cases hn : n = 0
  · subst n
    simp [parseMode, s.modeDigits_write]
  · have hdigits : (Nat.toDigits 8 n).isEmpty = false := by simp [Nat.toDigits_ne_nil]
    simp only [parseMode, s.modeDigits_write, if_neg hn, hdigits, octalWord?_toDigits,
      Bool.false_eq_true, if_false]
    by_cases hlimit : n < 2 ^ 32
    · simp only [if_pos hlimit]
    · simp only [if_neg hlimit]

lemma parseMode_eq_or (mode : String) :
    (∃ n, parseMode mode = .ok n) ∨ parseMode mode = .error (.permissionMode mode) := by
  simp only [parseMode]
  split
  · exact .inl ⟨0, rfl⟩
  · split
    · exact .inl ⟨_, rfl⟩
    · exact .inr rfl

lemma Spelling.no_dash_around (s : Spelling) {core : List Char} (h : '-' ∉ core) :
    '-' ∉ (s.around core).toList := by
  intro hdash
  rcases mem_around hdash with hblank | hframe | hcore
  · exact absurd hblank (by decide)
  · exact absurd hframe (by decide)
  · exact h hcore

lemma Spelling.no_dash (s : Spelling) (n : Nat) : '-' ∉ (s.write n).toList :=
  s.no_dash_around fun h => absurd (mem_toDigits h) (by decide)

theorem parse_write (s : Spelling) (n : Nat) :
    parse (s.write n) =
      if n < 2 ^ 32 then .ok (exact n) else .error (.permissionMode (s.write n)) := by
  simp only [parse, Text.splitAt_of_not_mem (s.no_dash n), parseMode_write]
  split <;> rfl

theorem parse_write_dash_write (s t : Spelling) (low high : Nat) :
    parse (s.write low ++ "-" ++ t.write high) =
      if low < 2 ^ 32 then
        if high < 2 ^ 32 then .ok (range low high) else .error (.permissionMode (t.write high))
      else .error (.permissionMode (s.write low)) := by
  have hsplit : Text.splitAt '-' (s.write low ++ "-" ++ t.write high) =
      [s.write low, t.write high] :=
    Text.splitAt_joined rfl (s.no_dash low) (t.no_dash high)
  simp only [parse, hsplit, parseMode_write]
  split
  · split <;> rfl
  · rfl

/-- One mode and two modes fail with the text of a mode, if they fail. -/
theorem parse_eq_range_error_iff (text : String) :
    parse text = .error (.permissionRange text) ↔ 2 ≤ text.toList.count '-' := by
  have hlength : (Text.splitAt '-' text).length = text.toList.count '-' + 1 := by
    rw [Text.splitAt, List.length_map, Text.length_pieces]
    rfl
  have hmany : 2 ≤ text.toList.count '-' ↔ 2 < (Text.splitAt '-' text).length := by omega
  have hne : Text.splitAt '-' text ≠ [] := List.ne_nil_of_length_pos (by omega)
  rw [hmany, parse]
  generalize Text.splitAt '-' text = parts at hne
  rcases parts with _ | ⟨low, _ | ⟨high, _ | ⟨next, later⟩⟩⟩
  · exact absurd rfl hne
  · refine iff_of_false ?_ (by simp)
    obtain ⟨n, hmode⟩ | hmode := parseMode_eq_or low <;> simp [hmode, Except.map]
  · refine iff_of_false ?_ (by simp)
    obtain ⟨m, hlow⟩ | hlow := parseMode_eq_or low
    · obtain ⟨n, hhigh⟩ | hhigh := parseMode_eq_or high <;>
        simp [hlow, hhigh, bind, Except.bind, pure, Except.pure]
    · simp [hlow, bind, Except.bind]
  · exact iff_of_true rfl (by simp)

def Spelling.shown : Spelling where
  before := []
  opening := []
  marked := true
  zeros := 0
  closing := []
  after := []
  before_blank := nofun
  opening_quotes := nofun
  closing_quotes := nofun
  after_blank := nofun

lemma display_exact (n : Nat) : display (exact n) = Spelling.shown.write n := by
  apply String.toList_injective
  simp [display, showMode, Spelling.write, Spelling.inner, Spelling.bare, Spelling.shown]

lemma accepts_range_iff (low high mode : Nat) :
    (range low high).accepts mode = true ↔ low ≤ mode ∧ mode ≤ high := by
  simp [accepts]

/-- However a number is spelt in octal, it is read as the mode it is, and two of them with a dash
between as a range. -/
theorem modes_read_exactly :
    (∀ (s : Spelling) (n : Nat),
      parse (s.write n) =
        if n < 2 ^ 32 then .ok (exact n) else .error (.permissionMode (s.write n))) ∧
    (∀ (s t : Spelling) (low high : Nat),
      parse (s.write low ++ "-" ++ t.write high) =
        if low < 2 ^ 32 then
          if high < 2 ^ 32 then .ok (range low high) else .error (.permissionMode (t.write high))
        else .error (.permissionMode (s.write low))) ∧
    (∀ text : String,
      parse text = .error (.permissionRange text) ↔ 2 ≤ text.toList.count '-') ∧
    (∀ n : Nat,
      parse (display (exact n)) =
        if n < 2 ^ 32 then .ok (exact n)
        else .error (.permissionMode (display (exact n)))) ∧
    ∀ low high mode : Nat,
      (range low high).accepts mode = true ↔ low ≤ mode ∧ mode ≤ high := by
  refine ⟨parse_write, parse_write_dash_write, parse_eq_range_error_iff, fun n => ?_,
    accepts_range_iff⟩
  rw [display_exact]
  exact parse_write Spelling.shown n

example : parse " '0o0644'-0755\n" = .ok (range 420 493) := by decide

end Permission

end SaltConventions
