import SaltConventions.Proofs.StringFindings
import SaltConventions.Proofs.StringLiterals

/-!
# Null bytes in unicode literals

A unicode literal is reported if a backslash and a zero stand in it as it is written. Where they are a
null byte in octal the value of the literal holds one. But they also stand where there is none: at a
zero behind an escaped backslash, at the start of a longer octal escape, in raw pieces and in comments
between pieces.
-/

namespace SaltConventions

open StringLiteral (Item MarksNull NullEscape Misleading ReadFrom)

/-- A unicode literal: its range and its value. -/
inductive Part.IsUnicodeLiteral : Part → Span → String → Prop where
  | constant {span : Span} {value kind : String} (hkind : kind = "u" ∨ kind = "U") :
      IsUnicodeLiteral (.expr (.constant span (.str value) (some kind))) span value

/-- The range and the value of a unicode literal. -/
def Part.unicodeLiteral? : Part → Option (Span × String)
  | expr (.constant span (.str value) (some kind)) =>
    if kind = "u" ∨ kind = "U" then some (span, value) else none
  | _ => none

lemma Part.unicodeLiteral?_eq_some_iff {p : Part} {span : Span} {value : String} :
    p.unicodeLiteral? = some (span, value) ↔ p.IsUnicodeLiteral span value := by
  constructor
  · intro h
    unfold unicodeLiteral? at h
    split at h
    · split at h
      · rename_i hkind
        obtain ⟨rfl, rfl⟩ := Prod.mk.inj (Option.some.inj h)
        exact .constant hkind
      · cases h
    · cases h
  · rintro ⟨hkind⟩
    simp [unicodeLiteral?, hkind]

/-- What is written in a range holds a backslash and a zero next to each other. -/
def WritesNull (source : String) (span : Span) : Prop :=
  ∃ written, Text.slice? source span.start span.stop = some written ∧ MarksNull written.toList

/-- What is reported about an occurrence: one diagnostic if it is a unicode literal in which a
backslash and a zero are written, and nothing otherwise. -/
inductive NullReport (ctx : FileContext) (o : Occurrence) : List Diagnostic → Prop where
  | one {span : Span} {value : String} {d : Diagnostic}
      (literal : o.part.IsUnicodeLiteral span value) (marked : WritesNull ctx.source span)
      (hcode : d.code = "E1400") (hrule : d.rule = "string") (hfile : d.file = ctx.path)
      (hline : d.line = ctx.lines.lineAt span.start) (hargs : d.args = []) : NullReport ctx o [d]
  | none (h : ∀ span value, o.part.IsUnicodeLiteral span value → ¬WritesNull ctx.source span) :
      NullReport ctx o []

namespace StringFormatting

/-- Whether the search finds a backslash and a zero in what is written in a range. -/
def findsNull (source : String) (span : Span) : Bool :=
  (Text.slice? source span.start span.stop).any fun written =>
    Text.occursIn ['\\', '0'] written.toList

lemma findsNull_iff {source : String} {span : Span} :
    findsNull source span = true ↔ WritesNull source span := by
  simp only [findsNull, WritesNull, MarksNull, Option.any_eq_true, Text.occursIn_iff]

def nullsAt (ctx : FileContext) (p : Part) : List Finding :=
  match p.unicodeLiteral? with
  | some (span, _) =>
    if findsNull ctx.source span then [ctx.findingAt nullByte span.start []] else []
  | none => []

lemma nullsAt_constant (ctx : FileContext) (span : Span) (value : Constant) (kind : Option String) :
    nullsAt ctx (.expr (.constant span value kind)) = checkConstant ctx span value kind := by
  cases value <;> try rfl
  rename_i text
  cases kind with
  | none => rfl
  | some kind =>
    cases hslice : Text.slice? ctx.source span.start span.stop with
    | none =>
      have hfinds : findsNull ctx.source span = false := by rw [findsNull, hslice]; rfl
      by_cases hkind : kind = "u" ∨ kind = "U" <;>
        simp [nullsAt, Part.unicodeLiteral?, checkConstant, hkind, hslice, hfinds]
    | some written =>
      have hfinds : findsNull ctx.source span = Text.occursIn ['\\', '0'] written.toList := by
        rw [findsNull, hslice, Option.any_some]
      by_cases hkind : kind = "u" ∨ kind = "U" <;>
        simp [nullsAt, Part.unicodeLiteral?, checkConstant, hkind, hslice, hfinds]

lemma filter_checkPart_nulls (settings : StringSettings) (ctx : FileContext) (loggerCalls : Nat)
    (p : Part) :
    (checkPart settings ctx loggerCalls p).filter (fun f => ["E1400"].contains f.message.code) =
      nullsAt ctx p := by
  have hquotes : ∀ {found : List Finding}, (∀ f ∈ found, Quotes ctx f) →
      found.filter (fun f => ["E1400"].contains f.message.code) = [] := by
    intro found h
    rw [List.filter_eq_nil_iff]
    intro f hf
    obtain ⟨message, hm, start, text, rfl⟩ := h f hf
    have hcodes : ∀ message ∈ messages.dropLast, ¬["E1400"].contains message.code = true := by
      decide
    exact hcodes message hm
  cases p with
  | module body => rfl
  | stmt st => rfl
  | expr e =>
    cases e <;> try rfl
    case call span func args keywords => exact hquotes fun f hf => quotes_of_mem_checkCall hf
    case binOp span left op right => exact hquotes fun f hf => quotes_of_mem_checkBinOp hf
    case constant span value kind =>
      rw [checkPart, ← nullsAt_constant, List.filter_eq_self, nullsAt]
      intro f hf
      split at hf
      · split at hf
        · obtain rfl := List.mem_singleton.mp hf
          rfl
        · cases hf
      · cases hf

lemma nullReport_nullsAt (ctx : FileContext) (o : Occurrence) :
    NullReport ctx o ((nullsAt ctx o.part).map (Finding.diagnostic ctx.path "string")) := by
  unfold nullsAt
  split
  · rename_i span value hliteral
    split
    · rename_i hfinds
      exact .one (Part.unicodeLiteral?_eq_some_iff.mp hliteral) (findsNull_iff.mp hfinds) rfl rfl
        rfl rfl rfl
    · rename_i hfinds
      refine .none fun span' value' h hwrites => hfinds ?_
      rw [← Part.unicodeLiteral?_eq_some_iff, hliteral] at h
      obtain ⟨rfl, -⟩ := Prod.mk.inj (Option.some.inj h)
      exact findsNull_iff.mpr hwrites
  · rename_i hliteral
    refine .none fun span value h => ?_
    rw [← Part.unicodeLiteral?_eq_some_iff, hliteral] at h
    cases h

end StringFormatting

lemma StringLiteral.readFrom_quoted {source value : String} {span : Span} {items : List Item}
    (hclosed : Closed ['\''] items)
    (hslice : Text.slice? source span.start span.stop =
      some (String.ofList (text [.cooked ['u'] ['\''] items])))
    (hunify : unify (text [.cooked ['u'] ['\''] items]) = text [.cooked ['u'] ['\''] items])
    (hvalue : value = String.ofList (items.flatMap Item.read)) :
    ReadFrom source span value [.cooked ['u'] ['\''] items] where
  valid :=
    { each := fun piece hpiece => by
        obtain rfl := List.mem_singleton.mp hpiece
        exact ⟨by decide, by decide, hclosed⟩
      apart := .singleton _ }
  written := ⟨_, hslice, by rw [String.toList_ofList, hunify]⟩
  value_eq := by
    rw [hvalue, String.toList_ofList]
    exact (List.append_nil _).symm

/-- The unicode literals in which a backslash and a zero are written are reported: those with a null
byte in octal, and those that mislead. -/
theorem nullBytes_reported_exactly {config : Config} {rules : List Rule}
    (hrules : buildRules config = .ok rules) (hoff : config.disable = []) (path : Path)
    (source : String) (hasBom : Bool) (env : Environment) (body : List Stmt) :
    let ctx := FileContext.ofSource path source hasBom env
    (∃ visited : List Occurrence, VisitedInOrder body visited ∧
      ∃ reports : List (List Diagnostic), List.Forall₂ (NullReport ctx) visited reports ∧
        reportedWith ["E1400"] (walkModule config ctx body (rules.map Rule.activate)).2 =
          reports.flatten) ∧
    ∀ (span : Span) (value : String) (pieces : List StringLiteral.Piece),
      ReadFrom source span value pieces →
      (WritesNull source span ↔ NullEscape pieces ∨ Misleading pieces) ∧
      (NullEscape pieces → '\x00' ∈ value.toList) := by
  intro ctx
  refine ⟨?_, fun span value pieces h => ⟨?_, fun hnull => ?_⟩⟩
  · let visited := ((Part.module body).steps [] []).filterMap Step.entered?
    let reports := visited.map fun o =>
      (StringFormatting.nullsAt ctx o.part).map (Finding.diagnostic path "string")
    refine ⟨visited, (stepsThrough body).entered, reports, ?_, ?_⟩
    · rw [List.forall₂_map_right_iff, List.forall₂_same]
      exact fun o _ => StringFormatting.nullReport_nullsAt ctx o
    · have hdeclared : DeclaredOnlyBy "string" ["E1400"] := by decide +kernel
      rw [← List.flatMap_def]
      exact StringFormatting.reportedWith_visited hrules hoff hdeclared path source hasBom env body
        (StringFormatting.filter_checkPart_nulls config.strings ctx)
  · obtain ⟨written, hslice, htext⟩ := h.written
    rw [← StringLiteral.marksNull_iff h.valid.each, ← htext, StringLiteral.marksNull_unify]
    simp [WritesNull, hslice]
  · rw [h.value_eq]
    exact hnull.mem_value

def unicodeLiteral (span : Span) (value : String) : List Stmt :=
  [.expr span (.constant span (.str value) (some "u"))]

theorem nullBytes_reported_of_octal_null :
    let pieces := [StringLiteral.Piece.cooked ['u'] ['\''] [.char 'a', .octal ['0'], .char 'b']]
    let span : Span := ⟨0, 7⟩
    let source := "u'a\\0b'\n"
    let ctx := FileContext.alone ⟨"minion.py"⟩ source
    let body := unicodeLiteral span "a\x00b"
    let reported := reportedWith ["E1400"]
      (walkModule .standard ctx body (standardRules.map Rule.activate)).2
    buildRules .standard = .ok standardRules ∧ Config.standard.disable = [] ∧
    (∃ visited : List Occurrence, VisitedInOrder body visited ∧
      ∃ reports : List (List Diagnostic), List.Forall₂ (NullReport ctx) visited reports ∧
        reported = reports.flatten) ∧
    ReadFrom source span "a\x00b" pieces ∧
    (WritesNull source span ↔ NullEscape pieces ∨ Misleading pieces) ∧
    reported.map Diagnostic.line = [1] := by
  intro pieces span source ctx body reported
  have hclosed : StringLiteral.Closed ['\''] [.char 'a', .octal ['0'], .char 'b'] := by decide
  have hread : ReadFrom source span "a\x00b" pieces :=
    StringLiteral.readFrom_quoted hclosed (by decide +kernel) (by decide +kernel) (by decide +kernel)
  obtain ⟨hreports, hwrites⟩ :=
    nullBytes_reported_exactly buildRules_standard rfl ⟨"minion.py"⟩ source _ _ body
  exact ⟨buildRules_standard, rfl, hreports, hread, (hwrites span _ pieces hread).1,
    by decide +kernel⟩

/-- Two literals are reported whose values hold no null byte: in one the backslash is escaped, in the
other the escape goes on. -/
theorem zero_taken_for_null :
    let reported := fun written value =>
      (reportedWith ["E1400"] (walkModule .standard (.alone ⟨"minion.py"⟩ written)
        (unicodeLiteral ⟨0, 6⟩ value) (standardRules.map Rule.activate)).2).map Diagnostic.line
    (ReadFrom "u'\\\\0'\n" ⟨0, 6⟩ "\\0" [.cooked ['u'] ['\''] [.escape '\\', .char '0']] ∧
      '\x00' ∉ "\\0".toList ∧ reported "u'\\\\0'\n" "\\0" = [1]) ∧
    ReadFrom "u'\\01'\n" ⟨0, 6⟩ "\x01" [.cooked ['u'] ['\''] [.octal ['0', '1']]] ∧
      '\x00' ∉ "\x01".toList ∧ reported "u'\\01'\n" "\x01" = [1] := by
  intro reported
  refine ⟨⟨?_, by decide, by decide +kernel⟩, ?_, by decide, by decide +kernel⟩
  · have hclosed : StringLiteral.Closed ['\''] [.escape '\\', .char '0'] := by decide
    exact StringLiteral.readFrom_quoted hclosed (by decide +kernel) (by decide +kernel)
      (by decide +kernel)
  · have hclosed : StringLiteral.Closed ['\''] [.octal ['0', '1']] := by decide
    exact StringLiteral.readFrom_quoted hclosed (by decide +kernel) (by decide +kernel)
      (by decide +kernel)

end SaltConventions
