import Mathlib.Data.List.TakeWhile
import SaltConventions.Linter
import SaltConventions.Proofs.OctalModes

/-!
# Which permissions are accepted

A mode is a run of octal digits between blanks and quotes, maybe with `0o` in front of it, and the
permission setting is one mode or two with a dash between them. Nothing else ought to be accepted,
but two more kinds of text are taken for a mode: digits behind a plus sign, and a text without any
digits, which counts as 0. A setting with a part of no such kind, or with a mode of more than 32 bits
or a second dash, is refused, and with it the rules and the linter of the configuration.
-/

namespace SaltConventions

namespace Permission

/-! ### Digits and their value -/

def IsOctal (c : Char) : Prop :=
  '0' ≤ c ∧ c ≤ '7'

instance : DecidablePred IsOctal := fun c => inferInstanceAs (Decidable ('0' ≤ c ∧ c ≤ '7'))

lemma isOctal_iff {c : Char} : IsOctal c ↔ c ∈ "01234567".toList := by
  constructor
  · rintro ⟨hlow, hhigh⟩
    have hcode : c = Char.ofNat c.toNat := c.ofNat_toNat.symm
    have hle : 48 ≤ c.toNat ∧ c.toNat ≤ 55 := ⟨hlow, hhigh⟩
    generalize c.toNat = code at hcode hle
    obtain ⟨hlow, hhigh⟩ := hle
    interval_cases code <;> rw [hcode] <;> decide
  · intro h
    have hall : ("01234567".toList.all fun c => decide (IsOctal c)) = true := by decide
    exact of_decide_eq_true (List.all_eq_true.mp hall c h)

lemma octalFrom_eq_some_iff {value n : Nat} {digits : List Char} :
    octalFrom value digits = some n ↔
      (∀ c ∈ digits, IsOctal c) ∧ n = Nat.ofDigitChars 8 digits value := by
  induction digits generalizing value with
  | nil => simp [octalFrom, eq_comm]
  | cons c cs ih =>
    have hdigit : octalDigit? c = if IsOctal c then some (c.toNat - '0'.toNat) else none := rfl
    rw [octalFrom, hdigit, List.forall_mem_cons, Nat.ofDigitChars_cons]
    by_cases hc : IsOctal c
    · simp [hc, ih]
    · simp [hc]

lemma octalValue?_eq_some_iff {n : Nat} {digits : List Char} :
    octalValue? digits = some n ↔
      digits ≠ [] ∧ (∀ c ∈ digits, IsOctal c) ∧ n = Nat.ofDigitChars 8 digits 0 := by
  rw [octalValue?]
  cases digits with
  | nil => simp
  | cons c cs => simp [octalFrom_eq_some_iff]

lemma ofDigitChars_dropWhile_zeros (digits : List Char) :
    Nat.ofDigitChars 8 (digits.dropWhile (· == '0')) 0 = Nat.ofDigitChars 8 digits 0 := by
  induction digits with
  | nil => rfl
  | cons c cs ih =>
    by_cases hc : c = '0'
    · subst c
      rw [List.dropWhile_cons_of_pos rfl, ih, Nat.ofDigitChars_cons]
      rfl
    · rw [List.dropWhile_cons_of_neg (by simpa using hc)]

lemma ofDigitChars_zeros (count : Nat) :
    Nat.ofDigitChars 8 (List.replicate count '0') 0 = 0 := by
  rw [← ofDigitChars_dropWhile_zeros, List.dropWhile_replicate]
  rfl

lemma octalWord?_eq_some_iff {n : Nat} {cs : List Char} :
    octalWord? cs = some n ↔ n < 2 ^ 32 ∧ ∃ digits, (cs = digits ∨ cs = '+' :: digits) ∧
      digits ≠ [] ∧ (∀ c ∈ digits, IsOctal c) ∧ n = Nat.ofDigitChars 8 digits 0 := by
  have hword : ∀ digits, (octalValue? digits).filter (· < modeLimit) = some n ↔
      n < 2 ^ 32 ∧ digits ≠ [] ∧ (∀ c ∈ digits, IsOctal c) ∧ n = Nat.ofDigitChars 8 digits 0 := by
    intro digits
    rw [Option.filter_eq_some_iff, octalValue?_eq_some_iff, decide_eq_true_iff, and_comm]
    rfl
  rw [octalWord?]
  cases hplus : Text.stripPrefix? ['+'] cs with
  | none =>
    rw [Option.getD_none, hword]
    constructor
    · rintro ⟨hlimit, hdigits⟩
      exact ⟨hlimit, cs, .inl rfl, hdigits⟩
    · rintro ⟨hlimit, digits, rfl | rfl, hdigits⟩
      · exact ⟨hlimit, hdigits⟩
      · cases hplus
  | some rest =>
    obtain rfl : cs = '+' :: rest := Text.stripPrefix?_eq_some_iff.mp hplus
    rw [Option.getD_some, hword]
    constructor
    · rintro ⟨hlimit, hdigits⟩
      exact ⟨hlimit, rest, .inr rfl, hdigits⟩
    · rintro ⟨hlimit, digits, rfl | h, hdigits⟩
      · exact absurd (hdigits.2.1 '+' List.mem_cons_self) (by decide)
      · obtain rfl := (List.cons_eq_cons.mp h).2
        exact ⟨hlimit, hdigits⟩

/-! ### Texts of modes -/

/-- The text is a mode: blanks and quotes around octal digits, maybe with `0o` in front of them. -/
def IsMode (text : String) (n : Nat) : Prop :=
  ∃ (s : Spelling) (digits : List Char), text = s.around digits ∧
    digits ≠ [] ∧ (∀ c ∈ digits, IsOctal c) ∧ n = Nat.ofDigitChars 8 digits 0

/-- The text is no mode and yet taken for one. -/
inductive TakenForMode : String → Nat → Prop
  | signed (s : Spelling) {digits : List Char} (hne : digits ≠ [])
      (hoctal : ∀ c ∈ digits, IsOctal c) :
      TakenForMode (s.around ('+' :: digits)) (Nat.ofDigitChars 8 digits 0)
  | empty (s : Spelling) (hzeros : s.zeros = 0) : TakenForMode (s.around []) 0

/-- The text is read as a mode, rightly or not. -/
def ReadsAs (text : String) (n : Nat) : Prop :=
  (IsMode text n ∨ TakenForMode text n) ∧ n < 2 ^ 32

/-- Zeros are digits as well. -/
def Spelling.unpadded (s : Spelling) : Spelling :=
  { s with zeros := 0 }

lemma Spelling.around_unpadded (s : Spelling) (core : List Char) :
    s.unpadded.around (List.replicate s.zeros '0' ++ core) = s.around core := rfl

lemma exists_around (text : String) : ∃ s : Spelling, text = s.around (modeDigits text.toList) := by
  let isQuote : Char → Bool := fun c => c == '"' || c == '\''
  let inner := Text.trim Text.isBlank text.toList
  let bare := Text.trim isQuote inner
  let digits := (Text.stripPrefix? ['0', 'o'] bare).getD bare
  let zeros := digits.takeWhile (· == '0')
  obtain ⟨before, after, htext, hbefore, hafter⟩ := Text.exists_trim Text.isBlank text.toList
  obtain ⟨opening, closing, hinner, hopening, hclosing⟩ := Text.exists_trim isQuote inner
  have hquotes : ∀ {cs : List Char}, (∀ c ∈ cs, isQuote c = true) → ∀ c ∈ cs, c = '\'' ∨ c = '"' := by
    intro cs hcs c hc
    simpa [isQuote, or_comm] using hcs c hc
  have hzeros : zeros = List.replicate zeros.length '0' :=
    List.eq_replicate_iff.mpr ⟨rfl, fun c hc => by simpa using List.mem_takeWhile_imp hc⟩
  have hbare : bare =
      (if (Text.stripPrefix? ['0', 'o'] bare).isSome then ['0', 'o'] else []) ++ digits := by
    cases hmark : Text.stripPrefix? ['0', 'o'] bare with
    | none => simp [digits, hmark]
    | some rest => simpa [digits, hmark] using Text.stripPrefix?_eq_some_iff.mp hmark
  have hdigits : digits = List.replicate zeros.length '0' ++ modeDigits text.toList := by
    rw [← hzeros]
    exact List.takeWhile_append_dropWhile.symm
  refine ⟨⟨before, opening, (Text.stripPrefix? ['0', 'o'] bare).isSome, zeros.length, closing, after,
    hbefore, hquotes hopening, hquotes hclosing, hafter⟩, ?_⟩
  apply String.toList_injective
  rw [Spelling.around, String.toList_ofList]
  simp only
  rw [← hdigits, ← hbare]
  exact htext.trans (by rw [← hinner])

lemma parseMode_eq_ok_iff_modeDigits {text : String} {n : Nat} :
    parseMode text = .ok n ↔ (modeDigits text.toList = [] ∧ n = 0) ∨
      modeDigits text.toList ≠ [] ∧ octalWord? (modeDigits text.toList) = some n := by
  rw [parseMode]
  cases hdigits : modeDigits text.toList with
  | nil => simp [eq_comm]
  | cons c cs => cases octalWord? (c :: cs) <;> simp

lemma IsMode.parseMode_eq {text : String} {n : Nat} (h : IsMode text n) (hlimit : n < 2 ^ 32) :
    parseMode text = .ok n := by
  obtain ⟨s, digits, rfl, hne, hoctal, rfl⟩ := h
  let padded := List.replicate s.zeros '0' ++ digits
  have hpadded : ∀ c ∈ padded, IsOctal c := by
    intro c hc
    rcases List.mem_append.mp hc with hzero | hdigit
    · exact List.eq_of_mem_replicate hzero ▸ by decide
    · exact hoctal c hdigit
  have hvalue : Nat.ofDigitChars 8 (padded.dropWhile (· == '0')) 0 =
      Nat.ofDigitChars 8 digits 0 := by
    rw [ofDigitChars_dropWhile_zeros, Nat.ofDigitChars_append, ofDigitChars_zeros]
  rw [parseMode_eq_ok_iff_modeDigits,
    s.modeDigits_around fun c hc => List.mem_cons_of_mem _ (isOctal_iff.mp (hoctal c hc))]
  by_cases hrest : padded.dropWhile (· == '0') = []
  · refine .inl ⟨hrest, ?_⟩
    rw [← hvalue, hrest]
    rfl
  · refine .inr ⟨hrest, octalWord?_eq_some_iff.mpr ⟨hlimit, _, .inl rfl, hrest, ?_, hvalue.symm⟩⟩
    exact fun c hc => hpadded c ((List.dropWhile_sublist _).subset hc)

lemma TakenForMode.parseMode_eq {text : String} {n : Nat} (h : TakenForMode text n)
    (hlimit : n < 2 ^ 32) : parseMode text = .ok n := by
  rw [parseMode_eq_ok_iff_modeDigits]
  cases h with
  | @signed s digits hne hoctal =>
    have hcore : ∀ c ∈ '+' :: digits, c ∈ "+01234567".toList := by
      intro c hc
      rcases List.mem_cons.mp hc with rfl | hc
      · decide
      · exact List.mem_cons_of_mem _ (isOctal_iff.mp (hoctal c hc))
    have hzeros : ∀ c ∈ List.replicate s.zeros '0', (c == '0') = true := fun c hc => by
      simp [List.eq_of_mem_replicate hc]
    have hdigits : modeDigits (s.around ('+' :: digits)).toList = '+' :: digits := by
      rw [s.modeDigits_around hcore, List.dropWhile_append_of_pos hzeros]
      rfl
    rw [hdigits]
    exact .inr ⟨by simp, octalWord?_eq_some_iff.mpr ⟨hlimit, _, .inr rfl, hne, hoctal, rfl⟩⟩
  | empty s hzeros =>
    rw [s.modeDigits_around (by simp), hzeros]
    exact .inl ⟨rfl, rfl⟩

theorem parseMode_eq_ok_iff {text : String} {n : Nat} :
    parseMode text = .ok n ↔ ReadsAs text n := by
  constructor
  · rw [parseMode_eq_ok_iff_modeDigits]
    obtain ⟨s, htext⟩ := exists_around text
    rintro (⟨hnone, rfl⟩ | ⟨-, hword⟩)
    · rw [hnone] at htext
      refine ⟨?_, by decide⟩
      by_cases hzeros : s.zeros = 0
      · exact .inr (htext ▸ .empty s hzeros)
      · -- With zeros alone there are digits, if only these.
        refine .inl ⟨s.unpadded, List.replicate s.zeros '0', ?_, ?_, ?_, (ofDigitChars_zeros _).symm⟩
        · rw [htext, ← s.around_unpadded, List.append_nil]
        · simpa using hzeros
        · exact fun c hc => List.eq_of_mem_replicate hc ▸ by decide
    · obtain ⟨hlimit, digits, hcs | hcs, hne, hoctal, rfl⟩ := octalWord?_eq_some_iff.mp hword
      · exact ⟨.inl ⟨s, digits, hcs ▸ htext, hne, hoctal, rfl⟩, hlimit⟩
      · exact ⟨.inr ((htext.trans (congrArg _ hcs)) ▸ .signed s hne hoctal), hlimit⟩
  · rintro ⟨h | h, hlimit⟩
    · exact h.parseMode_eq hlimit
    · exact h.parseMode_eq hlimit

/-! ### Settings -/

/-- The text is one mode or two with a dash between them, where `reads` says what a mode is. -/
inductive Setting (reads : String → Nat → Prop) : String → Permission → Prop
  | one {text : String} {n : Nat} (h : reads text n) : Setting reads text (exact n)
  | two {low high : String} {m n : Nat} (hlow : reads low m) (hhigh : reads high n) :
      Setting reads (low ++ "-" ++ high) (range m n)

lemma no_dash_of_readsAs {text : String} {n : Nat} (h : ReadsAs text n) : '-' ∉ text.toList := by
  have hoctal : ∀ {digits : List Char}, (∀ c ∈ digits, IsOctal c) → '-' ∉ digits :=
    fun hdigits hdash => absurd (hdigits _ hdash) (by decide)
  obtain ⟨⟨s, digits, rfl, -, hdigits, -⟩ | h, -⟩ := h
  · exact s.no_dash_around (hoctal hdigits)
  · cases h with
    | signed s _ hdigits => exact s.no_dash_around (by simpa using hoctal hdigits)
    | empty s => exact s.no_dash_around (by simp)

lemma Setting.of_mem_splitAt {reads : String → Nat → Prop}
    (hdash : ∀ text n, reads text n → '-' ∉ text.toList) {text : String} {p : Permission}
    (h : Setting reads text p) : ∀ part ∈ Text.splitAt '-' text, ∃ n, reads part n := by
  cases h with
  | one h =>
    rw [Text.splitAt_of_not_mem (hdash _ _ h)]
    exact List.forall_mem_singleton.mpr ⟨_, h⟩
  | two hlow hhigh =>
    rw [Text.splitAt_joined rfl (hdash _ _ hlow) (hdash _ _ hhigh)]
    exact List.forall_mem_cons.mpr ⟨⟨_, hlow⟩, List.forall_mem_singleton.mpr ⟨_, hhigh⟩⟩

lemma parse_of_setting {text : String} {p : Permission} (h : Setting ReadsAs text p) :
    parse text = .ok p := by
  cases h with
  | one h =>
    rw [parse, Text.splitAt_of_not_mem (no_dash_of_readsAs h)]
    simp only [parseMode_eq_ok_iff.mpr h]
    rfl
  | two hlow hhigh =>
    rw [parse, Text.splitAt_joined rfl (no_dash_of_readsAs hlow) (no_dash_of_readsAs hhigh)]
    simp only [parseMode_eq_ok_iff.mpr hlow, parseMode_eq_ok_iff.mpr hhigh]
    rfl

lemma no_dash_or_joined (text : String) :
    '-' ∉ text.toList ∨ ∃ first rest : String, '-' ∉ first.toList ∧ text = first ++ "-" ++ rest := by
  by_cases hdash : '-' ∈ text.toList
  · obtain ⟨first, rest, htext, hfirst⟩ := List.eq_append_cons_of_mem hdash
    refine .inr ⟨String.ofList first, String.ofList rest, by simpa using hfirst, ?_⟩
    apply String.toList_injective
    simpa using htext
  · exact .inl hdash

lemma setting_of_parse {text : String} {p : Permission} (h : parse text = .ok p) :
    Setting ReadsAs text p := by
  rcases no_dash_or_joined text with hdash | ⟨low, rest, hlow, rfl⟩
  · rw [parse, Text.splitAt_of_not_mem hdash] at h
    cases hmode : parseMode text with
    | error cause => simp [hmode, Except.map] at h
    | ok n =>
      obtain rfl : exact n = p := by simpa [hmode, Except.map] using h
      exact .one (parseMode_eq_ok_iff.mp hmode)
  · rcases no_dash_or_joined rest with hhigh | ⟨second, third, -, rfl⟩
    · rw [parse, Text.splitAt_joined rfl hlow hhigh] at h
      cases hm : parseMode low with
      | error cause => simp [hm, bind, Except.bind] at h
      | ok m =>
        cases hn : parseMode rest with
        | error cause => simp [hm, hn, bind, Except.bind] at h
        | ok n =>
          obtain rfl : range m n = p := by
            simpa [hm, hn, bind, Except.bind, pure, Except.pure] using h
          exact .two (parseMode_eq_ok_iff.mp hm) (parseMode_eq_ok_iff.mp hn)
    · have hmany := (parse_eq_range_error_iff (low ++ "-" ++ (second ++ "-" ++ third))).mpr (by
        simp only [String.toList_append, List.count_append]
        have hone : "-".toList.count '-' = 1 := rfl
        omega)
      rw [hmany] at h
      cases h

theorem parse_eq_ok_iff {text : String} {p : Permission} :
    parse text = .ok p ↔ Setting ReadsAs text p :=
  ⟨setting_of_parse, parse_of_setting⟩

lemma cause_of_parse {text : String} {cause : ConfigError} (h : parse text = .error cause) :
    cause = .permissionRange text ∨ ∃ part ∈ Text.splitAt '-' text, cause = .permissionMode part := by
  rw [parse] at h
  generalize Text.splitAt '-' text = parts at h
  rcases parts with _ | ⟨low, _ | ⟨high, _ | ⟨next, later⟩⟩⟩
  · exact .inl (Except.error.inj h).symm
  · obtain ⟨n, hmode⟩ | hmode := parseMode_eq_or low
    · simp [hmode, Except.map] at h
    · exact .inr ⟨low, by simp, by simpa [hmode, Except.map, eq_comm] using h⟩
  · obtain ⟨m, hlow⟩ | hlow := parseMode_eq_or low
    · obtain ⟨n, hhigh⟩ | hhigh := parseMode_eq_or high
      · simp [hlow, hhigh, bind, Except.bind, pure, Except.pure] at h
      · exact .inr ⟨high, by simp, by simpa [hlow, hhigh, bind, Except.bind, eq_comm] using h⟩
    · exact .inr ⟨low, by simp, by simpa [hlow, bind, Except.bind, eq_comm] using h⟩
  · exact .inl (Except.error.inj h).symm

lemma buildRules_of_parse {config : Config} {cause : ConfigError}
    (h : parse config.permissions.default = .error cause) : buildRules config = .error cause := by
  simp [buildRules, FileMode.readSettings, h, bind, Except.bind]

/-- A setting is accepted if it is one part or two parts that are read as modes, and is otherwise
refused with its text or the text of a part. -/
theorem setting_accepted_exactly (text : String) :
    (∀ p, parse text = .ok p ↔ Setting ReadsAs text p) ∧
    ((∀ part ∈ Text.splitAt '-' text, ∀ n, ¬TakenForMode part n) →
      ∀ p, parse text = .ok p ↔ Setting (fun part n => IsMode part n ∧ n < 2 ^ 32) text p) ∧
    ((∀ p, ¬Setting ReadsAs text p) → ∃ cause, parse text = .error cause ∧
      (cause = .permissionRange text ∨
        ∃ part ∈ Text.splitAt '-' text, cause = .permissionMode part) ∧
      ∀ (config : Config) (tree : FileTree) (cwd : Path), config.permissions.default = text →
        buildRules config = .error cause ∧
        Linter.ofConfig config tree cwd =
          (Environment.ofConfig config tree cwd).bind fun _ => .error (.config cause)) := by
  refine ⟨fun p => parse_eq_ok_iff, fun hnone p => ?_, fun hrefused => ?_⟩
  · rw [parse_eq_ok_iff]
    constructor
    · intro h
      cases h with
      | one h =>
        rw [Text.splitAt_of_not_mem (no_dash_of_readsAs h)] at hnone
        exact .one ⟨h.1.resolve_right (hnone _ (by simp) _), h.2⟩
      | two hlow hhigh =>
        rw [Text.splitAt_joined rfl (no_dash_of_readsAs hlow) (no_dash_of_readsAs hhigh)] at hnone
        exact .two ⟨hlow.1.resolve_right (hnone _ (by simp) _), hlow.2⟩
          ⟨hhigh.1.resolve_right (hnone _ (by simp) _), hhigh.2⟩
    · rintro (⟨h, hlimit⟩ | ⟨⟨hlow, hm⟩, ⟨hhigh, hn⟩⟩)
      · exact .one ⟨.inl h, hlimit⟩
      · exact .two ⟨.inl hlow, hm⟩ ⟨.inl hhigh, hn⟩
  · cases hparse : parse text with
    | ok p => exact absurd (parse_eq_ok_iff.mp hparse) (hrefused p)
    | error cause =>
      refine ⟨cause, rfl, cause_of_parse hparse, ?_⟩
      rintro config tree cwd rfl
      have hrules := buildRules_of_parse hparse
      refine ⟨hrules, ?_⟩
      rw [Linter.ofConfig, hrules]
      cases Environment.ofConfig config tree cwd <;> rfl

lemma IsMode.exists_digit {text : String} {n : Nat} (h : IsMode text n) :
    ∃ c ∈ text.toList, IsOctal c := by
  obtain ⟨s, digits, rfl, hne, hoctal, -⟩ := h
  obtain ⟨c, hc⟩ := List.exists_mem_of_ne_nil digits hne
  exact ⟨c, by simp [Spelling.around, hc], hoctal c hc⟩

lemma IsMode.no_plus {text : String} {n : Nat} (h : IsMode text n) : '+' ∉ text.toList := by
  obtain ⟨s, digits, rfl, -, hoctal, -⟩ := h
  intro hplus
  rcases Spelling.mem_around hplus with hblank | hframe | hdigit
  · exact absurd hblank (by decide)
  · exact absurd hframe (by decide)
  · exact absurd (hoctal _ hdigit) (by decide)

lemma TakenForMode.plus_or_frame {text : String} {n : Nat} (h : TakenForMode text n) :
    '+' ∈ text.toList ∨ ∀ c ∈ text.toList, Text.isBlank c = true ∨ c ∈ "'\"o0".toList := by
  cases h with
  | signed s => exact .inl (by simp [Spelling.around])
  | empty s =>
    refine .inr fun c hc => ?_
    rcases Spelling.mem_around hc with hblank | hframe | hnone
    · exact .inl hblank
    · exact .inr hframe
    · cases hnone

/-- A range in which one end has a prefix and quotes, and the text of a mode that has none of its
digits. -/
theorem setting_accepted_of_quoted_range :
    let text := " '0o0644'-0755"
    (∀ part ∈ Text.splitAt '-' text, ∀ n, ¬TakenForMode part n) ∧
    Setting (fun part n => IsMode part n ∧ n < 2 ^ 32) text (range 0o644 0o755) ∧
    (∀ p, ¬Setting ReadsAs "0648" p) ∧ parse "0648" = .error (.permissionMode "0648") ∧
    ∃ cause, parse "0648" = .error cause ∧
      Linter.ofConfig { Config.standard with permissions := ⟨"0648", []⟩ } ⟨[], []⟩ ⟨"/"⟩ =
        .error (.config cause) := by
  intro text
  have hnone : ∀ part ∈ Text.splitAt '-' text, ∀ n, ¬TakenForMode part n := by
    intro part hpart n h
    have hparts : ∀ part ∈ Text.splitAt '-' text, '+' ∉ part.toList ∧
        (part.toList.any fun c => !(Text.isBlank c || "'\"o0".toList.contains c)) = true := by decide
    obtain ⟨hplus, hany⟩ := hparts part hpart
    obtain ⟨c, hc, hframe⟩ := List.any_eq_true.mp hany
    rw [Bool.not_eq_true', Bool.or_eq_false_iff, List.contains_eq_mem, decide_eq_false_iff_not] at hframe
    refine h.plus_or_frame.elim hplus fun hall => ?_
    rcases hall c hc with hblank | hmem
    · rw [hframe.1] at hblank
      cases hblank
    · exact hframe.2 hmem
  have hrefused : ∀ p, ¬Setting ReadsAs "0648" p := by
    intro p h
    have hparse : parse "0648" = .error (.permissionMode "0648") := by decide
    rw [parse_of_setting h] at hparse
    cases hparse
  obtain ⟨cause, hcause, -, hlinter⟩ := (setting_accepted_exactly "0648").2.2 hrefused
  refine ⟨hnone, ((setting_accepted_exactly text).2.1 hnone _).mp (by decide), hrefused, by decide,
    cause, hcause, (hlinter _ _ _ rfl).2⟩

/-- An empty setting, a mode with a sign and an empty end of a range are accepted, though they are no
modes. -/
theorem empty_and_signed_accepted :
    (parse "" = .ok (exact 0) ∧ ∀ p, ¬Setting IsMode "" p) ∧
    (parse "+644" = .ok (exact 0o644) ∧ ∀ p, ¬Setting IsMode "+644" p) ∧
    (parse "0644-" = .ok (range 0o644 0) ∧ ∀ p, ¬Setting IsMode "0644-" p) := by
  have hdash : ∀ text n, IsMode text n → '-' ∉ text.toList := by
    rintro text n ⟨s, digits, rfl, -, hoctal, -⟩
    exact s.no_dash_around fun h => absurd (hoctal _ h) (by decide)
  have hempty : ∀ {text p}, "" ∈ Text.splitAt '-' text → ¬Setting IsMode text p := by
    intro text p hmem h
    obtain ⟨n, hmode⟩ := h.of_mem_splitAt hdash "" hmem
    obtain ⟨c, hc, -⟩ := hmode.exists_digit
    cases hc
  refine ⟨⟨by decide, fun p => hempty (by decide)⟩, ⟨by decide, fun p h => ?_⟩,
    ⟨by decide, fun p => hempty (by decide)⟩⟩
  obtain ⟨n, hmode⟩ := h.of_mem_splitAt hdash "+644" (by decide)
  exact hmode.no_plus (by decide)

end Permission

end SaltConventions
