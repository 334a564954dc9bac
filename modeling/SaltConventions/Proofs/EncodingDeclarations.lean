import Mathlib.Tactic.Lemma
import SaltConventions.Proofs.PhysicalLines
import SaltConventions.Rules.SourceEncoding

/-!
# Declared encodings

A declaration is `coding`, a colon or an equals sign, blanks and a name that goes on as far as
possible. A line declares the name of its leftmost declaration, after whatever looks like the start
of one and has no name. The messages about a source follow from what its first two physical lines
declare, and no other line has a say.
-/

namespace SaltConventions

namespace Text

lemma inRanges_eq_false {own other : List (Nat × Nat)}
    (h : ∀ r ∈ own, ∀ s ∈ other, r.2 < s.1 ∨ s.2 < r.1) {c : Char} (hc : inRanges own c = true) :
    inRanges other c = false := by
  obtain ⟨r, hr, hown⟩ := List.any_eq_true.mp hc
  rw [Bool.and_eq_true, decide_eq_true_eq, decide_eq_true_eq] at hown
  rw [inRanges, List.any_eq_false]
  intro s hs hother
  rw [Bool.and_eq_true, decide_eq_true_eq, decide_eq_true_eq] at hother
  rcases h r hr s hs with hapart | hapart <;> omega

lemma takeWhile_append {keep : Char → Bool} {front back : List Char}
    (hfront : ∀ c ∈ front, keep c = true) (hback : ∀ c ∈ back.head?, keep c = false) :
    (front ++ back).takeWhile keep = front := by
  rw [List.takeWhile_append_of_pos hfront]
  cases back with
  | nil => simp
  | cons c back => rw [List.takeWhile_cons_of_neg (by simp [hback c rfl]), List.append_nil]

end Text

namespace SourceEncoding

/-! ### Names -/

/-- The ASCII characters of a name. -/
def nameRanges : List (Nat × Nat) :=
  [(0x2D, 0x2E), (0x30, 0x39), (0x41, 0x5A), (0x5F, 0x5F), (0x61, 0x7A)]

lemma isNameChar_eq (c : Char) :
    isNameChar c = (Text.inRanges nameRanges c || Text.inRanges Text.wordRanges c) := by
  have hchar : ∀ d : Char, c = d ↔ c.toNat = d.toNat := fun d => Char.toNat_inj.symm
  have hupper : c.isUpper = true ↔ 0x41 ≤ c.toNat ∧ c.toNat ≤ 0x5A := decide_eq_true_iff
  have hlower : c.isLower = true ↔ 0x61 ≤ c.toNat ∧ c.toNat ≤ 0x7A :=
    (Bool.and_eq_true_iff).trans (and_congr decide_eq_true_iff decide_eq_true_iff)
  have hdigit : c.isDigit = true ↔ 0x30 ≤ c.toNat ∧ c.toNat ≤ 0x39 :=
    (Bool.and_eq_true_iff).trans (and_congr decide_eq_true_iff decide_eq_true_iff)
  have halnum : c.isAlphanum = ((c.isUpper || c.isLower) || c.isDigit) := rfl
  have hascii : (c == '-' || c == '.' || c.isAlphanum || c == '_') = Text.inRanges nameRanges c := by
    rw [halnum, Bool.eq_iff_iff]
    simp [Text.inRanges, nameRanges, hupper, hlower, hdigit, hchar]
    omega
  rw [← hascii, isNameChar, Text.isWord]
  simp only [Bool.or_assoc]

lemma not_isNameChar_of_isBlank {c : Char} (h : Text.isBlank c = true) : isNameChar c = false := by
  rw [isNameChar_eq, Bool.or_eq_false_iff]
  exact ⟨Text.inRanges_eq_false (by decide) h, Text.inRanges_eq_false (by decide +kernel) h⟩

/-! ### Lines -/

/-- The text starts with a declaration of the name. -/
def DeclaredHere (cs name : List Char) : Prop :=
  ∃ mark gap after, cs = "coding".toList ++ mark :: (gap ++ name ++ after) ∧
    (mark = ':' ∨ mark = '=') ∧ (∀ c ∈ gap, Text.isBlank c = true) ∧
    name ≠ [] ∧ (∀ c ∈ name, isNameChar c = true) ∧ ∀ c ∈ after.head?, isNameChar c = false

lemma declaredHere?_eq_some_iff {cs name : List Char} :
    declaredHere? cs = some name ↔ DeclaredHere cs name := by
  constructor
  · intro h
    rw [declaredHere?] at h
    split at h
    next mark rest hrest =>
      obtain rfl := Text.stripPrefix?_eq_some_iff.mp hrest
      split at h
      next hmark =>
        simp only at h
        split at h
        · cases h
        next hne =>
          obtain rfl := Option.some.inj h
          refine ⟨mark, rest.takeWhile Text.isBlank,
            (rest.dropWhile Text.isBlank).dropWhile isNameChar, ?_, hmark,
            List.all_eq_true.mp List.all_takeWhile, hne, List.all_eq_true.mp List.all_takeWhile,
            Text.head?_dropWhile _ _⟩
          rw [List.append_assoc, List.takeWhile_append_dropWhile, List.takeWhile_append_dropWhile]
      · cases h
    · cases h
  · rintro ⟨mark, gap, after, rfl, hmark, hgap, hne, hname, hafter⟩
    have hstart : ∀ c ∈ (name ++ after).head?, Text.isBlank c = false := by
      intro c hc
      obtain ⟨first, later, rfl⟩ := List.exists_cons_of_ne_nil hne
      obtain rfl : first = c := Option.some.inj hc
      refine Bool.eq_false_iff.mpr fun hblank => ?_
      have hno := not_isNameChar_of_isBlank hblank
      exact Bool.eq_false_iff.mp hno (hname first List.mem_cons_self)
    have hgone : (gap ++ name ++ after).dropWhile Text.isBlank = name ++ after := by
      rw [List.append_assoc, List.dropWhile_append_of_pos hgap, Text.dropWhile_of_head hstart]
    rw [declaredHere?, Text.stripPrefix?_eq_some_iff.mpr rfl]
    simp only
    rw [if_pos hmark, hgone, Text.takeWhile_append hname hafter, if_neg hne]

lemma declaredHere?_eq_none_iff {cs : List Char} :
    declaredHere? cs = none ↔ ∀ name, ¬DeclaredHere cs name := by
  simp only [Option.eq_none_iff_forall_ne_some, ne_eq, declaredHere?_eq_some_iff]

/-- The line declares the name: none of its declarations is further to the left. -/
def Declares (line name : List Char) : Prop :=
  ∃ before cs, line = before ++ cs ∧ DeclaredHere cs name ∧
    ∀ front back other, line = front ++ back → DeclaredHere back other →
      before.length ≤ front.length

lemma declares_of_declaredHere {line name : List Char} (h : DeclaredHere line name) :
    Declares line name :=
  ⟨[], line, rfl, h, fun _ _ _ _ _ => Nat.zero_le _⟩

lemma Declares.eq_of_declaredHere {line name other : List Char} (h : Declares line name)
    (hhere : DeclaredHere line other) : name = other := by
  obtain ⟨before, cs, rfl, hname, hleft⟩ := h
  obtain rfl := List.length_eq_zero_iff.mp (Nat.le_zero.mp (hleft [] _ other rfl hhere))
  exact Option.some.inj ((declaredHere?_eq_some_iff.mpr hname).symm.trans
    (declaredHere?_eq_some_iff.mpr hhere))

lemma declares_cons_iff {c : Char} {line name : List Char}
    (hnone : ∀ other, ¬DeclaredHere (c :: line) other) :
    Declares (c :: line) name ↔ Declares line name := by
  constructor
  · rintro ⟨before, cs, hline, hname, hleft⟩
    cases before with
    | nil => exact absurd (hline ▸ hname) (hnone name)
    | cons d before =>
      obtain ⟨rfl, rfl⟩ := List.cons_eq_cons.mp hline
      refine ⟨before, cs, rfl, hname, fun front back other hcut hother => ?_⟩
      exact Nat.le_of_succ_le_succ
        (hleft (c :: front) back other (by rw [hcut, List.cons_append]) hother)
  · rintro ⟨before, cs, rfl, hname, hleft⟩
    refine ⟨c :: before, cs, rfl, hname, fun front back other hcut hother => ?_⟩
    cases front with
    | nil => exact absurd (hcut ▸ hother) (hnone other)
    | cons d front =>
      exact Nat.succ_le_succ (hleft front back other (List.cons_eq_cons.mp hcut).2 hother)

theorem declared?_eq_some_iff {line name : List Char} :
    declared? line = some name ↔ Declares line name := by
  induction line with
  | nil =>
    refine ⟨nofun, ?_⟩
    rintro ⟨before, cs, hline, ⟨mark, gap, after, rfl, -⟩, -⟩
    simp at hline
  | cons c line ih =>
    rw [declared?]
    cases hhere : declaredHere? (c :: line) with
    | some other =>
      have hother := declaredHere?_eq_some_iff.mp hhere
      constructor
      · intro h
        obtain rfl := Option.some.inj h
        exact declares_of_declaredHere hother
      · exact fun h => congrArg some (h.eq_of_declaredHere hother).symm
    | none =>
      rw [declares_cons_iff (declaredHere?_eq_none_iff.mp hhere)]
      exact ih

/-! ### Sources -/

/-- The physical line with this index declares the name. -/
def LineDeclares (source : String) (index : Nat) (name : List Char) : Prop :=
  ∃ before line ending after,
    Text.PhysicalLine source.toList index before line ending after ∧ Declares line name

/-- One of the first two lines declares the encoding, in whatever case. -/
def Declared (source encoding : String) : Prop :=
  ∃ index < 2, ∃ name, LineDeclares source index name ∧
    encoding = Text.toLower (String.ofList name)

lemma lineDeclares_iff {source : String} {index : Nat} {name : List Char} :
    LineDeclares source index name ↔
      ((Text.lines source.toList)[index]?).bind declared? = some name := by
  simp only [Option.bind_eq_some_iff, Text.PhysicalLine.getElem?_lines_iff, declared?_eq_some_iff]
  constructor
  · rintro ⟨before, line, ending, after, hline, hname⟩
    exact ⟨line, ⟨before, ending, after, hline⟩, hname⟩
  · rintro ⟨line, ⟨before, ending, after, hline⟩, hname⟩
    exact ⟨before, line, ending, after, hline, hname⟩

lemma filterMap_take_two {α β : Type} (f : α → Option β) (xs : List α) :
    (xs.take 2).filterMap f = (xs[0]?.bind f).toList ++ (xs[1]?.bind f).toList := by
  match xs with
  | [] => rfl
  | [x] => cases hx : f x <;> simp [hx]
  | x :: y :: later => cases hx : f x <;> cases hy : f y <;> simp [hx, hy]

lemma mem_declaredEncodings {source encoding : String} :
    encoding ∈ declaredEncodings source ↔ Declared source encoding := by
  rw [declaredEncodings, filterMap_take_two]
  simp only [Declared, lineDeclares_iff, List.mem_map, List.mem_append, Option.mem_toList]
  constructor
  · rintro ⟨name, hname | hname, rfl⟩
    · exact ⟨0, by decide, name, hname, rfl⟩
    · exact ⟨1, by decide, name, hname, rfl⟩
  · rintro ⟨index, hindex, name, hname, rfl⟩
    obtain rfl | rfl : index = 0 ∨ index = 1 := by omega
    · exact ⟨name, .inl hname, rfl⟩
    · exact ⟨name, .inr hname, rfl⟩

lemma isEmpty_declaredEncodings {source : String} :
    (declaredEncodings source).isEmpty = true ↔ ¬∃ encoding, Declared source encoding := by
  rw [List.isEmpty_iff, List.eq_nil_iff_forall_not_mem, not_exists]
  simp only [mem_declaredEncodings]

lemma one_lt_length_declaredEncodings {source : String} :
    1 < (declaredEncodings source).length ↔
      (∃ name, LineDeclares source 0 name) ∧ ∃ name, LineDeclares source 1 name := by
  rw [declaredEncodings, List.length_map, filterMap_take_two, List.length_append]
  simp only [lineDeclares_iff, ← Option.isSome_iff_exists]
  cases (Text.lines source.toList)[0]?.bind declared? <;>
    cases (Text.lines source.toList)[1]?.bind declared? <;> simp

lemma checkSource_append_lines (first second rest : String) (hasBom : Bool) :
    checkSource (first ++ "\n" ++ second ++ "\n" ++ rest) hasBom =
      checkSource (first ++ "\n" ++ second ++ "\n") hasBom := by
  let front := first ++ "\n" ++ second ++ "\n"
  have hends : Text.EndsLine front.toList := by
    refine .inr ?_
    rw [String.toList_append]
    exact List.getLast?_concat
  have hlength : 2 ≤ (Text.lines front.toList).length := by
    rw [Text.length_lines hends]
    simp only [front, String.toList_append, List.count_append]
    have hmark : "\n".toList.count '\n' = 1 := by decide
    omega
  have hencodings : declaredEncodings (front ++ rest) = declaredEncodings front := by
    rw [declaredEncodings, String.toList_append, Text.lines_append hends,
      List.take_append_of_le_length hlength, declaredEncodings]
  have hfront : front ≠ "" := by
    intro hempty
    simp [front] at hempty
  have hall : front ++ rest ≠ "" := fun hempty =>
    hfront (String.append_eq_empty_iff.mp hempty).1
  simp only [checkSource]
  rw [hencodings, if_neg hall, if_neg hfront]

open Classical in
/-- What a source is told follows from what its first two lines declare and from its byte order
mark. -/
theorem checkSource_exact :
    (∀ (source : String) (hasBom : Bool), checkSource source hasBom =
      (if (∃ name, LineDeclares source 0 name) ∧ ∃ name, LineDeclares source 1 name then
        [multipleEncodings] else []) ++
      (if hasBom = true ∧ (∃ encoding, Declared source encoding) ∧ ¬Declared source "utf-8" then
        [encodingMismatch] else []) ++
      (if source = "" then [noEncodingEmpty]
        else if ¬∃ encoding, Declared source encoding then [noEncoding]
        else if ¬Declared source "utf-8" then [wrongEncoding] else [])) ∧
    [multipleEncodings, encodingMismatch, noEncoding, wrongEncoding, noEncodingEmpty].map (·.code) =
      ["W9901", "W9902", "W9903", "W9904", "W9905"] ∧
    ∀ (first second rest : String) (hasBom : Bool),
      checkSource (first ++ "\n" ++ second ++ "\n" ++ rest) hasBom =
        checkSource (first ++ "\n" ++ second ++ "\n") hasBom := by
  refine ⟨fun source hasBom => ?_, rfl, checkSource_append_lines⟩
  have hrequired : (declaredEncodings source).contains requiredEncoding = true ↔
      Declared source "utf-8" := by
    rw [List.contains_iff_mem, mem_declaredEncodings, requiredEncoding]
  rw [checkSource]
  simp only [one_lt_length_declaredEncodings]
  by_cases hany : ∃ encoding, Declared source encoding
  · have hlisted : (declaredEncodings source).isEmpty = false :=
      Bool.eq_false_iff.mpr fun hempty => isEmpty_declaredEncodings.mp hempty hany
    have hsource : source ≠ "" := by
      rintro rfl
      exact absurd hlisted (by decide)
    rw [hlisted]
    by_cases hutf : Declared source "utf-8"
    · rw [hrequired.mpr hutf]
      simp [hutf, hany, hsource]
    · rw [Bool.eq_false_iff.mpr fun h => hutf (hrequired.mp h)]
      simp [hutf, hany, hsource]
  · rw [isEmpty_declaredEncodings.mpr hany]
    simp only [hany, not_false_eq_true, if_true]
    by_cases hsource : source = ""
    · rw [if_pos hsource, if_pos hsource]
      simp
    · rw [if_neg hsource, if_neg hsource]
      simp

example : checkSource "# coding=?coding:\tUTF_8 coding: utf-8\r\n#encoding=\u00A0É.1-b\n" true =
    [multipleEncodings, encodingMismatch, wrongEncoding] := by decide +kernel

end SourceEncoding

end SaltConventions
