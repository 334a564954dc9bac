import SaltConventions.Proofs.FormatStrings
import SaltConventions.Proofs.StringFindings

/-!
# Slots without an index

A call of `format` on a literal is reported if the search finds a slot in the literal. What the
search finds are the fields without a name, as long as these have no specification and no doubled
braces or indices look like a slot. Outside of that it finds too much and too little: the text `{{}}`
has no field at all and is reported, `{:d}` has one without a name and is not.
-/

namespace SaltConventions

open FormatString (HasSlot Valid Regular Unnamed Slotted Pieces)

/-- What is reported about an occurrence: one diagnostic, with the literal, if it is a call of
`format` on a literal that holds a slot, and nothing otherwise. -/
inductive SlotReport (settings : StringSettings) (ctx : FileContext) (o : Occurrence) :
    List Diagnostic → Prop where
  | one {span : Span} {value : Expr} {text : String} {d : Diagnostic}
      (call : o.part.IsFormatCall span value) (literal : value.stringValue? = some text)
      (slot : HasSlot text.toList)
      (hcode : d.code = if settings.bracesAreErrors then "E1320" else "W1320")
      (hrule : d.rule = "string") (hfile : d.file = ctx.path)
      (hline : d.line = ctx.lines.lineAt span.start) (hargs : d.args = [text]) :
      SlotReport settings ctx o [d]
  | none (h : ∀ span value text, o.part.IsFormatCall span value →
      value.stringValue? = some text → ¬HasSlot text.toList) : SlotReport settings ctx o []

namespace StringFormatting

def slotsAt (settings : StringSettings) (ctx : FileContext) (o : Occurrence) : List Finding :=
  match o.part.formatCall? with
  | some (span, value) =>
    match value.stringValue? with
    | some text =>
      if hasUnindexedSlot text.toList then
        [ctx.findingAt (unindexed settings) span.start [text]]
      else []
    | none => []
  | none => []

lemma filter_findingsAt_slots (settings : StringSettings) (ctx : FileContext) (loggerCalls : Nat)
    (o : Occurrence) :
    (findingsAt settings ctx loggerCalls o).filter
      (fun f => ["W1320", "E1320"].contains f.message.code) = slotsAt settings ctx o := by
  have hslot : ["W1320", "E1320"].contains (unindexed settings).code = true := by
    rw [unindexed_code]
    split <;> rfl
  have hlogging : formatInLogging.code ∉ ["W1320", "E1320"] := by decide
  have hflag : reprFlag.code ∉ ["W1320", "E1320"] := by decide
  unfold findingsAt slotsAt
  cases o.part.formatCall? with
  | none => rfl
  | some called =>
    obtain ⟨span, value⟩ := called
    have hinside := filter_ite_of_code (f := inLogging ctx span) hlogging (0 < loggerCalls)
    simp only [List.filter_append, hinside, List.nil_append, checkLiteral]
    cases value.stringValue? with
    | none => rfl
    | some text =>
      have hrepr := filter_ite_of_code (f := ctx.findingAt reprFlag span.start [text]) hflag
        (hasReprFlag text)
      simp only [checkFormat, List.filter_append, hrepr, List.nil_append]
      split
      · exact List.filter_cons_of_pos hslot
      · rfl

lemma slotReport_slotsAt (settings : StringSettings) (ctx : FileContext) (o : Occurrence) :
    SlotReport settings ctx o
      ((slotsAt settings ctx o).map (Finding.diagnostic ctx.path "string")) := by
  unfold slotsAt
  split
  · rename_i span value hcall
    have hsame : ∀ {span' value'}, o.part.IsFormatCall span' value' → value' = value := by
      intro span' value' h
      rw [Part.formatCall?_eq_some_iff.mpr h] at hcall
      exact (Prod.mk.inj (Option.some.inj hcall)).2
    split
    · rename_i text hliteral
      split
      · rename_i hslot
        exact .one (Part.formatCall?_eq_some_iff.mp hcall) hliteral
          (FormatString.hasUnindexedSlot_iff.mp hslot) (unindexed_code settings) rfl rfl rfl rfl
      · rename_i hslot
        refine .none fun span' value' text' h hliteral' hslot' => hslot ?_
        rw [hsame h, hliteral] at hliteral'
        obtain rfl := Option.some.inj hliteral'
        exact FormatString.hasUnindexedSlot_iff.mpr hslot'
    · rename_i hliteral
      refine .none fun span' value' text' h hliteral' => ?_
      rw [hsame h, hliteral] at hliteral'
      cases hliteral'
  · rename_i hcall
    refine .none fun span value text h => ?_
    rw [Part.formatCall?_eq_some_iff.mpr h] at hcall
    cases hcall

end StringFormatting

/-- The calls of `format` on a literal with a slot are reported in the order in which a walk enters
them. `Slotted` lists where the search finds a slot. -/
theorem unindexedSlots_reported_exactly {config : Config} {rules : List Rule}
    (hrules : buildRules config = .ok rules) (hoff : config.disable = []) (path : Path)
    (source : String) (hasBom : Bool) (env : Environment) (body : List Stmt) :
    let ctx := FileContext.ofSource path source hasBom env
    (∃ visited : List Occurrence, VisitedInOrder body visited ∧
      ∃ reports : List (List Diagnostic),
        List.Forall₂ (SlotReport config.strings ctx) visited reports ∧
        reportedWith ["W1320", "E1320"]
          (walkModule config ctx body (rules.map Rule.activate)).2 = reports.flatten) ∧
    ∀ pieces : Pieces, Valid pieces →
      (HasSlot (FormatString.text pieces) ↔ Slotted (Slotted fun _ => False) pieces) ∧
      (Regular (Regular fun _ => True) pieces →
        (HasSlot (FormatString.text pieces) ↔ Unnamed (Unnamed fun _ => False) pieces)) := by
  intro ctx
  refine ⟨?_, fun pieces h => ⟨FormatString.slotted_iff h, FormatString.hasSlot_iff_unnamed h⟩⟩
  let steps := (Part.module body).steps [] []
  let visited := steps.filterMap Step.entered?
  let reports := visited.map fun o =>
    (StringFormatting.slotsAt config.strings ctx o).map (Finding.diagnostic ctx.path "string")
  refine ⟨visited, (stepsThrough body).entered, reports, ?_, ?_⟩
  · rw [List.forall₂_map_right_iff, List.forall₂_same]
    exact fun o _ => StringFormatting.slotReport_slotsAt config.strings ctx o
  · have hcodes : ["W1320", "E1320"] ⊆ StringFormatting.callCodes := by decide
    refine (StringFormatting.reportedWith_callCodes hrules hoff hcodes path source hasBom env
      body).trans ?_
    simp only [StringFormatting.filter_findingsAt_slots]
    -- What was passed before a step does not matter any more.
    have hsteps : steps = (withEarlier steps).map Prod.snd := (map_snd_withEarlier steps).symm
    rw [← List.flatMap_def, show visited = steps.filterMap Step.entered? from rfl,
      List.filterMap_eq_flatMap_toList, List.flatMap_assoc, hsteps, List.flatMap_map]
    rfl

/-- A call of `format` on a literal of four characters. -/
def formatted (text : String) : List Stmt :=
  [.expr ⟨0, 16⟩ (.call ⟨0, 16⟩
    (.attribute ⟨0, 13⟩ (.constant ⟨0, 6⟩ (.str text) none) "format") [.name ⟨14, 15⟩ "x"] [])]

theorem unindexedSlots_reported_of_formatted :
    let pieces : Pieces := [.char 'a', .char ' ', .field [] none none]
    let ctx := FileContext.alone ⟨"minion.py"⟩ "'a \x7b\x7d'.format(x)\n"
    let body := formatted "a \x7b\x7d"
    let reported := reportedWith ["W1320", "E1320"]
      (walkModule .standard ctx body (standardRules.map Rule.activate)).2
    buildRules .standard = .ok standardRules ∧ Config.standard.disable = [] ∧
    Valid pieces ∧ Regular (Regular fun _ => True) pieces ∧
    (∃ visited : List Occurrence, VisitedInOrder body visited ∧
      ∃ reports : List (List Diagnostic),
        List.Forall₂ (SlotReport Config.standard.strings ctx) visited reports ∧
        reported = reports.flatten) ∧
    (HasSlot (FormatString.text pieces) ↔ Unnamed (Unnamed fun _ => False) pieces) ∧
    reported.map Diagnostic.args = [[String.ofList (FormatString.text pieces)]] := by
  intro pieces ctx body reported
  have hvalid : Valid pieces := by
    intro piece hmem
    simp only [pieces, List.mem_cons, List.not_mem_nil, or_false] at hmem
    rcases hmem with rfl | rfl | rfl <;> simp [FormatString.Piece.Valid]
  have hregular : Regular (Regular fun _ => True) pieces := by
    refine ⟨fun before after hsplit => ?_, fun name conversion spec hmem => ?_⟩
    · have hmem : FormatString.Piece.openBrace ∈ pieces := hsplit ▸ by simp
      simp [pieces] at hmem
    · simp only [pieces, List.mem_cons, reduceCtorEq, false_or, List.not_mem_nil, or_false,
        FormatString.Piece.field.injEq] at hmem
      obtain ⟨rfl, rfl, rfl⟩ := hmem
      simp
  obtain ⟨hreports, hslots⟩ :=
    unindexedSlots_reported_exactly buildRules_standard rfl ⟨"minion.py"⟩ _ _ _ body
  exact ⟨buildRules_standard, rfl, hvalid, hregular, hreports, (hslots pieces hvalid).2 hregular,
    by decide +kernel⟩

/-- Doubled braces are reported though there is no field, and a field without a name is not reported
if it has a specification. -/
theorem slots_misread :
    let braces : Pieces := [.openBrace, .closeBrace]
    let number : Pieces := [.field [] none (some [.char 'd'])]
    let reported := fun text =>
      (reportedWith ["W1320", "E1320"] (walkModule .standard
        (.alone ⟨"minion.py"⟩ ("'" ++ text ++ "'.format(x)\n")) (formatted text)
        (standardRules.map Rule.activate)).2).map Diagnostic.args
    (Valid braces ∧ ¬Unnamed (Unnamed fun _ => False) braces ∧
      reported (String.ofList (FormatString.text braces)) = [["\x7b\x7b\x7d\x7d"]]) ∧
    Valid number ∧ Unnamed (Unnamed fun _ => False) number ∧
      FormatString.text number = "\x7b:d\x7d".toList ∧
      reported (String.ofList (FormatString.text number)) = [] := by
  intro braces number reported
  refine ⟨⟨?_, ?_, by decide +kernel⟩, ?_, ?_, by decide +kernel, by decide +kernel⟩
  · intro piece hmem
    simp only [braces, List.mem_cons, List.not_mem_nil, or_false] at hmem
    rcases hmem with rfl | rfl <;> exact trivial
  · rintro ⟨name, conversion, spec, hmem, -⟩
    simp [braces] at hmem
  · intro piece hmem
    obtain rfl := List.mem_singleton.mp hmem
    refine ⟨fun _ h => absurd h List.not_mem_nil, ?_⟩
    intro spec hspec
    obtain rfl := Option.some.inj hspec
    have hplain : FormatString.Plain (FormatString.writeAll id [.char 'd']) := by
      constructor <;> decide
    exact ⟨by simp [FormatString.Piece.Valid], hplain.balanced⟩
  · exact ⟨[], none, _, List.mem_singleton_self _, .inl rfl⟩

end SaltConventions
