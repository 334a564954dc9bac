import Mathlib.Data.List.Basic
import Mathlib.Tactic.IntervalCases
import Mathlib.Tactic.Lemma
import SaltConventions.Text.Substitution

/-!
# The grammar of substitution slots

The scan of a format string for the `%` operator accepts the texts of a grammar: ordinary
characters, `%%` and conversions behind each other. Both sides meet in the notion of a completed
piece, a text that leads from a state of the scan back to ordinary text and not before its end.
No completed piece is a proper beginning of another one, so a text has one way to be cut.

The parts of a conversion are not unique: a zero between flags and width can belong to either.
-/

namespace SaltConventions.Text.Substitution

/-! ### The grammar -/

/-- A key: from a parenthesis to the one that balances it. -/
structure IsKey (text : List Char) : Prop where
  opens : text.head? = some '('
  balanced : text.count ')' = text.count '('
  open_before : ∀ before after, text = before ++ after → before ≠ [] → after ≠ [] →
    before.count ')' < before.count '('

/-- The parts of a conversion, behind its percent sign. -/
structure Conversion where
  key : Option (List Char)
  flags : List Char
  width : List Char
  precision : Option (List Char)
  length : List Char
  type : Char

def writePrecision : Option (List Char) → List Char
  | none => []
  | some digits => '.' :: digits

namespace Conversion

/-- Which characters the parts of a conversion are made of. -/
structure Valid (parts : Conversion) : Prop where
  key : ∀ text ∈ parts.key, IsKey text
  flags : ∀ c ∈ parts.flags, c ∈ "#0- +".toList
  width : ∀ c ∈ parts.width, c ∈ "0123456789*".toList
  precision : ∀ text ∈ parts.precision, ∀ c ∈ text, c ∈ "0123456789*".toList
  length : ∀ c ∈ parts.length, c ∈ "hlL".toList
  type : parts.type ∈ "diouxXeEfFgGcrsa".toList

def write (parts : Conversion) : List Char :=
  '%' :: (parts.key.getD [] ++ (parts.flags ++ (parts.width ++
    (writePrecision parts.precision ++ (parts.length ++ [parts.type])))))

end Conversion

/-- A piece of a format string: an ordinary character, `%%`, or a conversion as it is written. -/
inductive Piece where
  | char (c : Char)
  | escape
  | conversion (written : List Char)

namespace Piece

def write : Piece → List Char
  | char c => [c]
  | escape => ['%', '%']
  | conversion written => written

/-- Any character but the percent sign is an ordinary one, and a conversion is made of its parts. -/
def Valid : Piece → Prop
  | char c => c ≠ '%'
  | escape => True
  | conversion written => ∃ parts : Conversion, parts.Valid ∧ parts.write = written

def isConversion : Piece → Bool
  | conversion _ => true
  | _ => false

end Piece

/-- A text is a format string with these pieces. -/
structure Cut (text : List Char) (pieces : List Piece) : Prop where
  valid : ∀ piece ∈ pieces, piece.Valid
  write : pieces.flatMap Piece.write = text

/-! ### Characters -/

lemma isFlag_iff {c : Char} : isFlag c = true ↔ c ∈ "#0- +".toList :=
  List.contains_iff_mem

lemma isLength_iff {c : Char} : isLength c = true ↔ c ∈ "hlL".toList :=
  List.contains_iff_mem

lemma isType_iff {c : Char} : isType c = true ↔ c ∈ "diouxXeEfFgGcrsa".toList :=
  List.contains_iff_mem

lemma isWidth_iff {c : Char} : isWidth c = true ↔ c ∈ "0123456789*".toList := by
  constructor
  · intro h
    rcases Bool.or_eq_true_iff.mp h with hdigit | hstar
    · obtain ⟨hlow, hhigh⟩ : 48 ≤ c.toNat ∧ c.toNat ≤ 57 := by
        simpa [Char.isDigit, UInt32.le_iff_toNat_le] using hdigit
      have hc : c = Char.ofNat c.toNat := c.ofNat_toNat.symm
      generalize c.toNat = code at hc hlow hhigh
      subst hc
      interval_cases code <;> decide
    · rw [beq_iff_eq.mp hstar]
      decide
  · intro h
    simp only [String.reduceToList, List.mem_cons, List.not_mem_nil, or_false] at h
    rcases h with rfl | rfl | rfl | rfl | rfl | rfl | rfl | rfl | rfl | rfl | rfl <;> rfl

lemma step_length_of_isWidth {c : Char} (h : isWidth c = true) : step .length c = none := by
  rw [isWidth_iff] at h
  simp only [String.reduceToList, List.mem_cons, List.not_mem_nil, or_false] at h
  rcases h with rfl | rfl | rfl | rfl | rfl | rfl | rfl | rfl | rfl | rfl | rfl <;> rfl

lemma step_width_of_isFlag {c : Char} (h : isFlag c = true) {next : State}
    (hstep : step .width c = some next) : next = .width := by
  rw [isFlag_iff] at h
  simp only [String.reduceToList, List.mem_cons, List.not_mem_nil, or_false] at h
  rcases h with rfl | rfl | rfl | rfl | rfl <;>
    simpa [step, isWidth, finish, isLength, isType] using hstep.symm

/-! ### Completed pieces -/

/-- A text completes a piece whose beginning has led to a state: it leads back to ordinary text, and
no proper beginning of it does. -/
inductive Completes : State → List Char → Prop
  | last {s : State} {c : Char} (h : step s c = some .text) : Completes s [c]
  | more {s next : State} {c : Char} {cs : List Char} (h : step s c = some next)
      (hinside : next ≠ .text) (hcs : Completes next cs) : Completes s (c :: cs)

lemma not_completes_nil {s : State} : ¬Completes s [] :=
  nofun

lemma completes_cons_iff {s : State} {c : Char} {cs : List Char} :
    Completes s (c :: cs) ↔ (step s c = some .text ∧ cs = []) ∨
      ∃ next, step s c = some next ∧ next ≠ .text ∧ Completes next cs := by
  constructor
  · intro h
    cases h with
    | last h => exact .inl ⟨h, rfl⟩
    | more h hinside hcs => exact .inr ⟨_, h, hinside, hcs⟩
  · rintro (⟨h, rfl⟩ | ⟨next, h, hinside, hcs⟩)
    · exact .last h
    · exact .more h hinside hcs

lemma completes_cons_of_text {s : State} {c : Char} (h : step s c = some .text) {cs : List Char} :
    Completes s (c :: cs) ↔ cs = [] := by
  rw [completes_cons_iff, h]
  simp

lemma completes_cons_of_step {s next : State} {c : Char} (h : step s c = some next)
    (hinside : next ≠ .text) {cs : List Char} : Completes s (c :: cs) ↔ Completes next cs := by
  rw [completes_cons_iff, h]
  simp [hinside]

lemma not_completes_of_step {s : State} {c : Char} (h : step s c = none) {cs : List Char} :
    ¬Completes s (c :: cs) := by
  rw [completes_cons_iff, h]
  simp

lemma completes_congr {s s' : State} {c : Char} (h : step s c = step s' c) {cs : List Char} :
    Completes s (c :: cs) ↔ Completes s' (c :: cs) := by
  rw [completes_cons_iff, completes_cons_iff, h]

/-- Of two texts that go on alike, one cannot complete a piece before the other does. -/
lemma Completes.eq_of_append_eq {s : State} {xs ys : List Char} (hx : Completes s xs)
    (hy : Completes s ys) {xs' ys' : List Char} (h : xs ++ xs' = ys ++ ys') : xs = ys := by
  induction hx generalizing ys with
  | @last s c hstep =>
    cases ys with
    | nil => exact absurd hy not_completes_nil
    | cons d ys =>
      obtain ⟨rfl, -⟩ := List.cons_eq_cons.mp h
      rw [(completes_cons_of_text hstep).mp hy]
  | @more s next c cs hstep hinside _ ih =>
    cases ys with
    | nil => exact absurd hy not_completes_nil
    | cons d ys =>
      obtain ⟨rfl, htail⟩ := List.cons_eq_cons.mp h
      rw [ih ((completes_cons_of_step hstep hinside).mp hy) htail]

/-- From a state that keeps to itself on some characters, any number of them is read first. A tail
that begins with one of them has to be a tail without it. -/
lemma completes_loop_iff {s : State} {loops : Char → Bool} {Tail : List Char → Prop}
    (hinside : s ≠ .text) (hloop : ∀ c, loops c = true → step s c = some s)
    (hleave : ∀ c cs, loops c = false → (Completes s (c :: cs) ↔ Tail (c :: cs)))
    (hnil : ¬Tail []) (hskip : ∀ c cs, loops c = true → Tail (c :: cs) → Tail cs)
    {text : List Char} :
    Completes s text ↔
      ∃ xs tail, text = xs ++ tail ∧ (∀ x ∈ xs, loops x = true) ∧ Tail tail := by
  induction text with
  | nil => simp [not_completes_nil, hnil]
  | cons c cs ih =>
    by_cases hc : loops c = true
    · rw [completes_cons_of_step (hloop c hc) hinside, ih]
      constructor
      · rintro ⟨xs, tail, rfl, hxs, htail⟩
        exact ⟨c :: xs, tail, rfl, List.forall_mem_cons.mpr ⟨hc, hxs⟩, htail⟩
      · rintro ⟨xs, tail, htext, hxs, htail⟩
        cases xs with
        | nil =>
          rw [List.nil_append] at htext
          exact ⟨[], cs, rfl, by simp, hskip c cs hc (htext ▸ htail)⟩
        | cons x xs =>
          obtain ⟨-, rfl⟩ := List.cons_eq_cons.mp htext
          exact ⟨xs, tail, rfl, (List.forall_mem_cons.mp hxs).2, htail⟩
    · rw [Bool.not_eq_true] at hc
      rw [hleave c cs hc]
      constructor
      · exact fun htail => ⟨[], c :: cs, rfl, by simp, htail⟩
      · rintro ⟨xs, tail, htext, hxs, htail⟩
        cases xs with
        | nil =>
          rw [List.nil_append] at htext
          exact htext ▸ htail
        | cons x xs =>
          obtain ⟨rfl, -⟩ := List.cons_eq_cons.mp htext
          rw [hxs c List.mem_cons_self] at hc
          cases hc

/-! ### The parts of a conversion -/

lemma completes_length_iff {text : List Char} :
    Completes .length text ↔ ∃ xs tail, text = xs ++ tail ∧ (∀ x ∈ xs, isLength x = true) ∧
      ∃ c, tail = [c] ∧ isType c = true := by
  have hboth : ∀ c, isLength c = true → isType c = false := by
    intro c hc
    rw [isLength_iff] at hc
    simp only [String.reduceToList, List.mem_cons, List.not_mem_nil, or_false] at hc
    rcases hc with rfl | rfl | rfl <;> rfl
  refine completes_loop_iff (by decide) (fun c hc => by simp [step, finish, hc]) ?_ (by simp) ?_
  · intro c cs hc
    by_cases htype : isType c = true
    · rw [completes_cons_of_text (by simp [step, finish, hc, htype])]
      simp [htype]
    · have hstep : step .length c = none := by simp [step, finish, hc, htype]
      simp [not_completes_of_step hstep, htype]
  · rintro c cs hc ⟨d, hd, htype⟩
    obtain ⟨rfl, -⟩ := List.cons_eq_cons.mp hd
    rw [hboth c hc] at htype
    cases htype

lemma completes_precision_iff {text : List Char} :
    Completes .precision text ↔ ∃ xs tail, text = xs ++ tail ∧ (∀ x ∈ xs, isWidth x = true) ∧
      Completes .length tail := by
  refine completes_loop_iff (by decide) (fun c hc => by simp [step, hc]) ?_ not_completes_nil ?_
  · intro c cs hc
    exact completes_congr (by simp [step, hc])
  · intro c cs hc htail
    exact absurd htail (not_completes_of_step (step_length_of_isWidth hc))

/-- What can follow the width of a conversion. -/
def CompletesWidth (text : List Char) : Prop :=
  ∃ precision tail, text = writePrecision precision ++ tail ∧
    (∀ digits ∈ precision, ∀ c ∈ digits, isWidth c = true) ∧ Completes .length tail

lemma completesWidth_iff {c : Char} {cs : List Char} :
    CompletesWidth (c :: cs) ↔
      Completes .length (c :: cs) ∨ c = '.' ∧ Completes .precision cs := by
  constructor
  · rintro ⟨precision, tail, htext, hprecision, htail⟩
    cases precision with
    | none =>
      rw [writePrecision, List.nil_append] at htext
      exact .inl (htext ▸ htail)
    | some digits =>
      obtain ⟨rfl, rfl⟩ := List.cons_eq_cons.mp htext
      have hdigits := hprecision digits rfl
      exact .inr ⟨rfl, completes_precision_iff.mpr ⟨digits, tail, rfl, hdigits, htail⟩⟩
  · rintro (htail | ⟨rfl, hprecision⟩)
    · exact ⟨none, c :: cs, rfl, by simp, htail⟩
    · obtain ⟨digits, tail, rfl, hdigits, htail⟩ := completes_precision_iff.mp hprecision
      exact ⟨some digits, tail, rfl, by simpa using hdigits, htail⟩

lemma completes_width_iff {text : List Char} :
    Completes .width text ↔ ∃ xs tail, text = xs ++ tail ∧ (∀ x ∈ xs, isWidth x = true) ∧
      CompletesWidth tail := by
  refine completes_loop_iff (by decide) (fun c hc => by simp [step, hc]) ?_ ?_ ?_
  · intro c cs hc
    rw [completesWidth_iff]
    by_cases hdot : c = '.'
    · subst hdot
      have hnone : ¬Completes .length ('.' :: cs) := not_completes_of_step rfl
      rw [completes_cons_of_step rfl (by decide)]
      simp [hnone]
    · have hstep : step .width c = step .length c := by simp [step, hc, hdot]
      rw [completes_congr hstep]
      simp [hdot]
  · rintro ⟨precision, tail, htext, -, htail⟩
    obtain ⟨-, rfl⟩ := List.append_eq_nil_iff.mp htext.symm
    exact not_completes_nil htail
  · intro c cs hc htail
    rcases completesWidth_iff.mp htail with htail | ⟨rfl, -⟩
    · exact absurd htail (not_completes_of_step (step_length_of_isWidth hc))
    · cases hc

lemma completes_flags_iff {text : List Char} :
    Completes .flags text ↔ ∃ xs tail, text = xs ++ tail ∧ (∀ x ∈ xs, isFlag x = true) ∧
      Completes .width tail := by
  refine completes_loop_iff (by decide) (fun c hc => by simp [step, hc]) ?_ not_completes_nil ?_
  · intro c cs hc
    exact completes_congr (by simp [step, hc])
  · -- A zero that is a flag to the scan may be written as the first digit of the width.
    intro c cs hc htail
    rcases completes_cons_iff.mp htail with ⟨hstep, -⟩ | ⟨next, hstep, -, hcs⟩
    · cases step_width_of_isFlag hc hstep
    · rwa [step_width_of_isFlag hc hstep] at hcs

/-! ### Keys -/

/-- A text closes so many open parentheses, the last of them with its last character. -/
structure Balances (depth : Nat) (text : List Char) : Prop where
  closed : text.count ')' = text.count '(' + depth
  open_before : ∀ before after, text = before ++ after → after ≠ [] →
    before.count ')' < before.count '(' + depth

lemma balances_zero_iff {text : List Char} : Balances 0 text ↔ text = [] := by
  constructor
  · intro h
    by_contra hne
    simpa using h.open_before [] text rfl hne
  · rintro rfl
    refine ⟨rfl, fun before after h hne => ?_⟩
    exact absurd (List.append_eq_nil_iff.mp h.symm).2 hne

lemma not_balances_nil {depth : Nat} : ¬Balances (depth + 1) [] := by
  intro h
  simpa using h.closed

lemma balances_cons_iff {depth left : Nat} {c : Char} {cs : List Char}
    (h : left + [c].count ')' = depth + 1 + [c].count '(') :
    Balances (depth + 1) (c :: cs) ↔ Balances left cs := by
  have hcount : ∀ d, (c :: cs).count d = [c].count d + cs.count d := by
    intro d
    rw [← List.singleton_append, List.count_append]
  constructor
  · intro hb
    constructor
    · have hclosed := hb.closed
      rw [hcount, hcount] at hclosed
      omega
    · rintro before after rfl hne
      have hbefore := hb.open_before (c :: before) after rfl hne
      rw [← List.singleton_append, List.count_append, List.count_append] at hbefore
      omega
  · intro hb
    constructor
    · have hclosed := hb.closed
      rw [hcount, hcount]
      omega
    · intro before after htext hne
      cases before with
      | nil => simp
      | cons d before =>
        obtain ⟨rfl, rfl⟩ := List.cons_eq_cons.mp htext
        have hbefore := hb.open_before before after rfl hne
        rw [← List.singleton_append, List.count_append, List.count_append]
        omega

lemma completes_key_iff {depth : Nat} {text : List Char} :
    Completes (.key depth) text ↔ ∃ key tail, text = key ++ tail ∧ Balances (depth + 1) key ∧
      Completes .flags tail := by
  induction text generalizing depth with
  | nil => simp [not_completes_nil]
  | cons c cs ih =>
    -- The key goes on behind its first character.
    have hrest : ∀ left, left + [c].count ')' = depth + 1 + [c].count '(' →
        ((∃ key tail, c :: cs = key ++ tail ∧ Balances (depth + 1) key ∧ Completes .flags tail) ↔
          ∃ key tail, cs = key ++ tail ∧ Balances left key ∧ Completes .flags tail) := by
      intro left hleft
      constructor
      · rintro ⟨key, tail, htext, hkey, htail⟩
        cases key with
        | nil => exact absurd hkey not_balances_nil
        | cons d key =>
          obtain ⟨rfl, rfl⟩ := List.cons_eq_cons.mp htext
          exact ⟨key, tail, rfl, (balances_cons_iff hleft).mp hkey, htail⟩
      · rintro ⟨key, tail, rfl, hkey, htail⟩
        exact ⟨c :: key, tail, rfl, (balances_cons_iff hleft).mpr hkey, htail⟩
    by_cases hopen : c = '('
    · subst hopen
      rw [completes_cons_of_step rfl (State.noConfusion ·), ih, hrest (depth + 2) (by simp)]
    · by_cases hclose : c = ')'
      · subst hclose
        cases depth with
        | zero =>
          rw [completes_cons_of_step rfl (State.noConfusion ·), hrest 0 (by simp)]
          simp [balances_zero_iff]
        | succ depth =>
          rw [completes_cons_of_step rfl (State.noConfusion ·), ih, hrest (depth + 1) (by simp)]
      · have hstep : step (.key depth) c = some (.key depth) := by simp [step, hopen, hclose]
        rw [completes_cons_of_step hstep (State.noConfusion ·), ih,
          hrest (depth + 1) (by simp [hopen, hclose])]

lemma isKey_cons_iff {c : Char} {cs : List Char} :
    IsKey (c :: cs) ↔ c = '(' ∧ Balances 1 cs := by
  constructor
  · intro h
    obtain rfl : c = '(' := by simpa using h.opens
    refine ⟨rfl, ?_, ?_⟩
    · simpa using h.balanced
    · rintro before after rfl hne
      simpa using h.open_before ('(' :: before) after rfl (by simp) hne
  · rintro ⟨rfl, hb⟩
    refine ⟨rfl, ?_, ?_⟩
    · simpa using hb.closed
    · intro before after htext hbefore hne
      cases before with
      | nil => exact absurd rfl hbefore
      | cons d before =>
        obtain ⟨rfl, rfl⟩ := List.cons_eq_cons.mp htext
        simpa using hb.open_before before after rfl hne

/-! ### Conversions and escapes -/

lemma completes_flags_iff_parts {text : List Char} :
    Completes .flags text ↔ ∃ parts : Conversion, parts.Valid ∧ parts.key = none ∧
      parts.write = '%' :: text := by
  rw [completes_flags_iff]
  constructor
  · rintro ⟨flags, tail, rfl, hflags, htail⟩
    obtain ⟨width, tail, rfl, hwidth, htail⟩ := completes_width_iff.mp htail
    obtain ⟨precision, tail, rfl, hprecision, htail⟩ := htail
    obtain ⟨length, tail, rfl, hlength, type, rfl, htype⟩ := completes_length_iff.mp htail
    refine ⟨⟨none, flags, width, precision, length, type⟩, ?_, rfl, rfl⟩
    exact {
      key := nofun
      flags := fun c hc => isFlag_iff.mp (hflags c hc)
      width := fun c hc => isWidth_iff.mp (hwidth c hc)
      precision := fun digits hd c hc => isWidth_iff.mp (hprecision digits hd c hc)
      length := fun c hc => isLength_iff.mp (hlength c hc)
      type := isType_iff.mp htype }
  · rintro ⟨⟨key, flags, width, precision, length, type⟩, hvalid, rfl, hwrite⟩
    obtain ⟨-, rfl⟩ := List.cons_eq_cons.mp hwrite
    have hlength := completes_length_iff.mpr ⟨length, [type], rfl,
      fun c hc => isLength_iff.mpr (hvalid.length c hc), type, rfl, isType_iff.mpr hvalid.type⟩
    have hwidth := completes_width_iff.mpr ⟨width, _, rfl,
      fun c hc => isWidth_iff.mpr (hvalid.width c hc), precision, _, rfl,
      fun digits hd c hc => isWidth_iff.mpr (hvalid.precision digits hd c hc), hlength⟩
    exact ⟨flags, _, rfl, fun c hc => isFlag_iff.mpr (hvalid.flags c hc), hwidth⟩

lemma valid_conversion_iff {text : List Char} :
    (Piece.conversion ('%' :: text)).Valid ↔ Completes .flags text ∨
      ∃ key tail, text = key ++ tail ∧ IsKey key ∧ Completes .flags tail := by
  constructor
  · rintro ⟨parts, hvalid, hwrite⟩
    obtain ⟨-, rfl⟩ := List.cons_eq_cons.mp hwrite
    have htail := completes_flags_iff_parts.mpr
      ⟨{ parts with key := none }, { hvalid with key := nofun }, rfl, rfl⟩
    cases hkey : parts.key with
    | none => exact .inl htail
    | some key => exact .inr ⟨key, _, rfl, hvalid.key key hkey, htail⟩
  · rintro (htail | ⟨key, tail, rfl, hkey, htail⟩)
    · obtain ⟨parts, hvalid, -, hwrite⟩ := completes_flags_iff_parts.mp htail
      exact ⟨parts, hvalid, hwrite⟩
    · obtain ⟨parts, hvalid, hnone, hwrite⟩ := completes_flags_iff_parts.mp htail
      refine ⟨{ parts with key := some key }, { hvalid with key := by simpa using hkey }, ?_⟩
      rw [Conversion.write, hnone] at hwrite
      rw [← (List.cons_eq_cons.mp hwrite).2]
      rfl

lemma not_valid_conversion_escape {cs : List Char} :
    ¬(Piece.conversion ('%' :: '%' :: cs)).Valid := by
  rw [valid_conversion_iff]
  rintro (htail | ⟨key, tail, htext, hkey, -⟩)
  · exact not_completes_of_step rfl htail
  · cases key with
    | nil => simpa using hkey.opens
    | cons d key =>
      obtain ⟨rfl, -⟩ := List.cons_eq_cons.mp htext
      simpa using hkey.opens

lemma completes_percent_iff {text : List Char} :
    Completes .percent text ↔ text = ['%'] ∨ (Piece.conversion ('%' :: text)).Valid := by
  cases text with
  | nil => simp [not_completes_nil, valid_conversion_iff]
  | cons c cs =>
    by_cases hpercent : c = '%'
    · subst hpercent
      rw [completes_cons_of_text rfl]
      simp [not_valid_conversion_escape]
    have hkey : (∃ key tail, c :: cs = key ++ tail ∧ IsKey key ∧ Completes .flags tail) ↔
        c = '(' ∧ Completes (.key 0) cs := by
      rw [completes_key_iff]
      constructor
      · rintro ⟨key, tail, htext, hkey, htail⟩
        cases key with
        | nil => simpa using hkey.opens
        | cons d key =>
          obtain ⟨rfl, rfl⟩ := List.cons_eq_cons.mp htext
          obtain ⟨hopen, hb⟩ := isKey_cons_iff.mp hkey
          exact ⟨hopen, key, tail, rfl, hb, htail⟩
      · rintro ⟨rfl, key, tail, rfl, hb, htail⟩
        exact ⟨'(' :: key, tail, rfl, isKey_cons_iff.mpr ⟨rfl, hb⟩, htail⟩
    rw [valid_conversion_iff, hkey]
    by_cases hopen : c = '('
    · subst hopen
      have hnone : ¬Completes .flags ('(' :: cs) := not_completes_of_step rfl
      rw [completes_cons_of_step rfl (State.noConfusion ·)]
      simp [hnone]
    · have hstep : step .percent c = step .flags c := by simp [step, hpercent, hopen]
      rw [completes_congr hstep]
      simp [hpercent, hopen]

/-! ### Scanning a piece -/

/-- Behind the percent sign there is no way back to it but through ordinary text. -/
lemma ne_percent_of_step {s next : State} (hs : s ≠ .text) {c : Char}
    (h : step s c = some next) : next ≠ .percent := by
  rintro rfl
  cases s with
  | key depth => cases depth <;> grind [step, finish]
  | _ => grind [step, finish]

lemma scan_of_completes {s : State} (hs : s ≠ .text) {xs : List Char} (h : Completes s xs)
    (hescape : s = .percent → xs ≠ ['%']) (found : Bool) (rest : List Char) :
    scan s found (xs ++ rest) = scan .text true rest := by
  induction h generalizing found with
  | @last s c hstep =>
    have hends : endsConversion s c .text = true := by
      have hchar : s = .percent → c ≠ '%' := fun hp hc => hescape hp (hc ▸ rfl)
      simp only [endsConversion]
      grind
    simp [scan, hstep, hends]
  | @more s next c cs hstep hinside _ ih =>
    have hends : endsConversion s c next = false := by simp [endsConversion, hinside]
    have hlater := ih hinside (fun hp => absurd hp (ne_percent_of_step hs hstep)) found
    simpa [scan, hstep, hends] using hlater

lemma scan_piece {piece : Piece} (h : piece.Valid) (found : Bool) (rest : List Char) :
    scan .text found (piece.write ++ rest) = scan .text (found || piece.isConversion) rest := by
  cases piece with
  | char c =>
    have hstep : step .text c = some .text := congrArg some (if_neg h)
    simp [Piece.write, Piece.isConversion, scan, hstep, endsConversion]
  | escape => simp [Piece.write, Piece.isConversion, scan, step, endsConversion]
  | conversion written =>
    obtain ⟨parts, -, hwrite⟩ := id h
    obtain ⟨text, rfl⟩ : ∃ text, written = '%' :: text := ⟨_, hwrite.symm⟩
    have hescape : text ≠ ['%'] := by
      rintro rfl
      exact not_valid_conversion_escape h
    have hscan := scan_of_completes (by decide) (completes_percent_iff.mpr (.inr h))
      (fun _ => hescape) found rest
    simpa [Piece.write, Piece.isConversion, scan, step, endsConversion] using hscan

lemma scan_pieces {text : List Char} {pieces : List Piece} (h : Cut text pieces) (found : Bool) :
    scan .text found text = some (found || pieces.any Piece.isConversion) := by
  obtain ⟨hvalid, rfl⟩ := h
  induction pieces generalizing found with
  | nil => simp [scan]
  | cons piece later ih =>
    obtain ⟨hpiece, hlater⟩ := List.forall_mem_cons.mp hvalid
    rw [List.flatMap_cons, scan_piece hpiece, ih _ hlater, List.any_cons, Bool.or_assoc]

/-! ### Pieces of an accepted text -/

lemma exists_completes_of_scan {s : State} (hs : s ≠ .text) {found : Bool} {text : List Char}
    (h : (scan s found text).isSome = true) : ∃ xs rest found', text = xs ++ rest ∧
      Completes s xs ∧ (scan .text found' rest).isSome = true := by
  induction text generalizing s found with
  | nil => simp [scan, hs] at h
  | cons c cs ih =>
    rw [scan] at h
    cases hstep : step s c with
    | none => simp [hstep] at h
    | some next =>
      rw [hstep] at h
      by_cases hnext : next = .text
      · subst hnext
        exact ⟨[c], cs, _, rfl, .last hstep, h⟩
      · obtain ⟨xs, rest, found', rfl, hxs, hrest⟩ := ih hnext h
        exact ⟨c :: xs, rest, found', rfl, .more hstep hnext hxs, hrest⟩

lemma exists_piece_of_scan {found : Bool} {c : Char} {cs : List Char}
    (h : (scan .text found (c :: cs)).isSome = true) :
    ∃ (piece : Piece) (rest : List Char) (found' : Bool), c :: cs = piece.write ++ rest ∧
      piece.Valid ∧ rest.length < (c :: cs).length ∧
      (scan .text found' rest).isSome = true := by
  by_cases hpercent : c = '%'
  · subst hpercent
    have hscan : scan .text found ('%' :: cs) = scan .percent found cs := by
      simp [scan, step, endsConversion]
    rw [hscan] at h
    obtain ⟨xs, rest, found', rfl, hxs, hrest⟩ := exists_completes_of_scan (by decide) h
    have hlength : rest.length < ('%' :: (xs ++ rest)).length := by
      simp only [List.length_cons, List.length_append]
      omega
    rcases completes_percent_iff.mp hxs with rfl | hvalid
    · exact ⟨.escape, rest, found', rfl, trivial, hlength, hrest⟩
    · exact ⟨.conversion ('%' :: xs), rest, found', rfl, hvalid, hlength, hrest⟩
  · have hscan : scan .text found (c :: cs) = scan .text found cs := by
      simp [scan, step, hpercent, endsConversion]
    rw [hscan] at h
    exact ⟨.char c, cs, found, rfl, hpercent, by simp, h⟩

lemma exists_cut_of_scan {found : Bool} {text : List Char}
    (h : (scan .text found text).isSome = true) : ∃ pieces, Cut text pieces := by
  induction hn : text.length using Nat.strong_induction_on generalizing text found with
  | _ n ih =>
    subst hn
    cases text with
    | nil => exact ⟨[], by simp, rfl⟩
    | cons c cs =>
      obtain ⟨piece, rest, found', htext, hvalid, hlength, hrest⟩ := exists_piece_of_scan h
      obtain ⟨later, hlater, hwrite⟩ := ih rest.length hlength hrest rfl
      refine ⟨piece :: later, List.forall_mem_cons.mpr ⟨hvalid, hlater⟩, ?_⟩
      rw [List.flatMap_cons, hwrite, htext]

/-! ### One way to cut a text -/

lemma Piece.Valid.completes {piece : Piece} (h : piece.Valid) : Completes .text piece.write := by
  cases piece with
  | char c => exact .last (congrArg some (if_neg h))
  | escape => exact .more rfl (State.noConfusion ·) (.last rfl)
  | conversion written =>
    obtain ⟨parts, -, hwrite⟩ := id h
    obtain ⟨text, rfl⟩ : ∃ text, written = '%' :: text := ⟨_, hwrite.symm⟩
    exact .more rfl (State.noConfusion ·) (completes_percent_iff.mpr (.inr h))

lemma Piece.Valid.eq_of_write_eq {p q : Piece} (hp : p.Valid) (hq : q.Valid)
    (h : p.write = q.write) : p = q := by
  have hconversion : ∀ {r : Piece} {written : List Char}, r.Valid → (conversion written).Valid →
      r.write = written → r = conversion written := by
    intro r written hr hvalid hwritten
    obtain ⟨parts, -, hwrite⟩ := id hvalid
    cases r with
    | char c => exact absurd (List.cons_eq_cons.mp (hwritten.trans hwrite.symm)).1 hr
    | escape =>
      rw [← hwritten] at hvalid
      exact absurd hvalid not_valid_conversion_escape
    | conversion _ => exact congrArg conversion hwritten
  cases p with
  | char c =>
    cases q with
    | char d => exact congrArg char (List.cons_eq_cons.mp h).1
    | escape => simp [write] at h
    | conversion written => exact hconversion hp hq h
  | escape =>
    cases q with
    | char d => simp [write] at h
    | escape => rfl
    | conversion written => exact hconversion hp hq h
  | conversion written => exact (hconversion hq hp h.symm).symm

lemma Cut.unique {text : List Char} {pieces others : List Piece} (h : Cut text pieces)
    (h' : Cut text others) : pieces = others := by
  induction pieces generalizing text others with
  | nil =>
    cases others with
    | nil => rfl
    | cons other later =>
      have hempty := List.append_eq_nil_iff.mp (h'.write.trans h.write.symm)
      have hcompletes := (List.forall_mem_cons.mp h'.valid).1.completes
      rw [hempty.1] at hcompletes
      exact absurd hcompletes not_completes_nil
  | cons piece later ih =>
    obtain ⟨hpiece, hlater⟩ := List.forall_mem_cons.mp h.valid
    cases others with
    | nil =>
      have hempty := List.append_eq_nil_iff.mp (h.write.trans h'.write.symm)
      have hcompletes := hpiece.completes
      rw [hempty.1] at hcompletes
      exact absurd hcompletes not_completes_nil
    | cons other later' =>
      obtain ⟨hother, hlater'⟩ := List.forall_mem_cons.mp h'.valid
      have htext : piece.write ++ later.flatMap Piece.write =
          other.write ++ later'.flatMap Piece.write := h.write.trans h'.write.symm
      obtain rfl := hpiece.eq_of_write_eq hother
        (hpiece.completes.eq_of_append_eq hother.completes htext)
      rw [ih ⟨hlater, List.append_cancel_left htext⟩ ⟨hlater', rfl⟩]

/-- The scan accepts exactly the format strings. Each of them is cut into pieces in one way, and the
answer is whether one of the pieces is a conversion. -/
theorem hasSlots_decides_format (text : String) :
    (hasSlots text = none ↔ ¬∃ pieces, Cut text.toList pieces) ∧
    ∀ found, hasSlots text = some found ↔ ∃ pieces, Cut text.toList pieces ∧
      (∀ others, Cut text.toList others → others = pieces) ∧
      (found = true ↔ ∃ written, Piece.conversion written ∈ pieces) := by
  have haccepts : ∀ pieces, Cut text.toList pieces →
      hasSlots text = some (pieces.any Piece.isConversion) := by
    intro pieces hcut
    rw [hasSlots, scan_pieces hcut, Bool.false_or]
  have hany : ∀ pieces : List Piece, pieces.any Piece.isConversion = true ↔
      ∃ written, Piece.conversion written ∈ pieces := by
    intro pieces
    rw [List.any_eq_true]
    constructor
    · rintro ⟨piece, hmem, hpiece⟩
      cases piece with
      | conversion written => exact ⟨written, hmem⟩
      | _ => cases hpiece
    · exact fun ⟨written, hmem⟩ => ⟨_, hmem, rfl⟩
  have hrejects : ∀ {found}, hasSlots text = some found → ∃ pieces, Cut text.toList pieces :=
    fun h => exists_cut_of_scan (Option.isSome_of_eq_some h)
  constructor
  · constructor
    · rintro hnone ⟨pieces, hcut⟩
      rw [haccepts pieces hcut] at hnone
      cases hnone
    · intro hcut
      cases h : hasSlots text with
      | none => rfl
      | some found => exact absurd (hrejects h) hcut
  · intro found
    constructor
    · intro h
      obtain ⟨pieces, hcut⟩ := hrejects h
      refine ⟨pieces, hcut, fun others hothers => hothers.unique hcut, ?_⟩
      rw [haccepts pieces hcut] at h
      rw [← hany, Option.some.inj h]
    · rintro ⟨pieces, hcut, -, hfound⟩
      rw [haccepts pieces hcut, Option.some.injEq, Bool.eq_iff_iff, hfound, hany]

end SaltConventions.Text.Substitution
