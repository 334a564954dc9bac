import Mathlib.Tactic.Lemma
import SaltConventions.Config
import SaltConventions.Diagnostic

/-!
# JSON forms

A finding is read back from its JSON form, as long as its line number is one that can be read. The
JSON form of settings tells them: settings with the same form have the same values, and lists of
functions that mean the same.
-/

namespace SaltConventions

namespace Json

lemma nat?_ofNat (n : Nat) : (ofNat n).nat? = some n := by
  have hdigits : (Nat.toDigits 10 n).all Char.isDigit = true :=
    List.all_eq_true.mpr fun _ hc => Nat.isDigit_of_mem_toDigits (by decide) (by decide) hc
  have hvalue : (Nat.toDigits 10 n).foldl (fun m d => 10 * m + (d.toNat - '0'.toNat)) 0 = n := by
    rw [← Nat.ofDigitChars_eq_foldl, Nat.ofDigitChars_ten_toDigits]
  have hne : (Nat.toDigits 10 n).isEmpty = false := by simp [Nat.toDigits_ne_nil]
  rw [ofNat, nat?, String.toList_ofList, digitsValue?, hne, hdigits, hvalue]
  rfl

lemma strings_inj {a b : List String} : strings a = strings b ↔ a = b := by
  simp only [strings, array.injEq]
  exact List.map_inj_right fun _ _ h => string.inj h

lemma ofOption_inj {a b : Option String} : ofOption a = ofOption b ↔ a = b := by
  cases a <;> cases b <;> simp [ofOption]

lemma mapM_text? (texts : List String) : (texts.map string).mapM text? = some texts := by
  induction texts with
  | nil => rfl
  | cons text later ih =>
    rw [List.map_cons, List.mapM_cons, ih]
    rfl

end Json

lemma Severity.ofName?_name (s : Severity) : Severity.ofName? s.name = some s := by
  cases s <;> decide

lemma Severity.name_inj {s t : Severity} : s.name = t.name ↔ s = t := by
  cases s <;> cases t <;> decide

theorem Diagnostic.ofJson?_toJson (d : Diagnostic) (h : d.line ≤ maxLine) :
    ofJson? d.toJson = some d := by
  have hvalues : memberValues? d.toJson = some
      [.string d.code, .string d.symbol, .string d.rule, .string d.severity.name,
        .string d.file.text, .ofNat d.line, .string d.message, .strings d.args] := by
    simp [memberValues?, memberNames, toJson, Json.get?]
  have hline : lineOfJson? (.ofNat d.line) = some d.line := by
    simp [lineOfJson?, Json.nat?_ofNat, h]
  have hseverity : severityOfJson? (.string d.severity.name) = some d.severity :=
    d.severity.ofName?_name
  have hargs : (Json.strings d.args).items? = some (d.args.map .string) := rfl
  simp only [ofJson?, hvalues, hline, hseverity, hargs, Json.mapM_text?, Json.text?,
    Option.bind_eq_bind, Option.bind_some]
  rfl

lemma FunctionList.toMap_eq_of_toJson {a b : FunctionList} (h : a.toJson = b.toJson) :
    a.toMap = b.toMap := by
  have hentry : ∀ pair pair' : String × String,
      (pair.1, Json.string pair.2) = (pair'.1, Json.string pair'.2) → pair = pair' := by
    rintro ⟨_, _⟩ ⟨_, _⟩ hpair
    simpa using hpair
  cases a with
  | inline text =>
    cases b with
    | inline text' => rw [Json.string.inj h]
    | table pairs => cases h
  | table pairs =>
    cases b with
    | inline text => cases h
    | table pairs' => exact (List.map_inj_right hentry).mp (Json.object.inj h)

/-- Settings with the same JSON form have the same values, but for the way in which functions are
listed. -/
theorem Config.eq_of_toJson {a b : Config} (h : a.toJson = b.toJson) :
    a.functions.toMap = b.functions.toMap ∧ a = { b with functions := a.functions } := by
  have hpath : ∀ p q : Path, p.text = q.text → p = q := by
    rintro ⟨_⟩ ⟨_⟩ rfl
    rfl
  obtain ⟨failOn, disable, allowed, functions, ⟨default, ignored⟩, ⟨braces, check, substitution⟩,
    ⟨stdlib, search⟩⟩ := a
  simp only [toJson, Json.object.injEq, List.cons.injEq, Prod.mk.injEq, Json.string.injEq,
    Json.bool.injEq, Json.strings_inj, Json.ofOption_inj, Severity.name_inj, true_and, and_true] at h
  obtain ⟨rfl, rfl, rfl, hfunctions, ⟨rfl, rfl⟩, ⟨rfl, rfl, rfl⟩, hstdlib, hsearch⟩ := h
  obtain rfl := Option.map_inj_right hpath |>.mp hstdlib
  obtain rfl := (List.map_inj_right hpath).mp hsearch
  exact ⟨FunctionList.toMap_eq_of_toJson hfunctions, rfl⟩

end SaltConventions
