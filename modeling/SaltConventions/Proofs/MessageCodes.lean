import SaltConventions.Proofs.RuleDiagnostics
import SaltConventions.Proofs.Wording

/-!
# What is reported with a code

A rule reports nothing but messages that it declares. So diagnostics with codes that one rule alone
declares are diagnostics of that rule, whatever the other rules do.
-/

namespace SaltConventions

/-- The diagnostics with one of some codes. -/
def reportedWith (codes : List String) (found : List Diagnostic) : List Diagnostic :=
  found.filter fun d => codes.contains d.code

/-- The messages with one of some codes are all declared by the rule of a name. -/
def DeclaredOnlyBy (name : String) (codes : List String) : Prop :=
  ∀ row ∈ catalog, ∀ m ∈ row.2, m.code ∈ codes → row.1 = name

instance (name : String) (codes : List String) : Decidable (DeclaredOnlyBy name codes) :=
  inferInstanceAs (Decidable (∀ row ∈ catalog, ∀ m ∈ row.2, m.code ∈ codes → row.1 = name))

lemma mem_catalog_of_mem_buildRules {config : Config} {rules : List Rule}
    (hrules : buildRules config = .ok rules) {rule : Rule} (hr : rule ∈ rules) :
    (rule.name, rule.messages) ∈ catalog := by
  obtain ⟨expected, ignored, -, rfl⟩ := buildRules_eq_ok_iff.mp hrules
  have hcatalog : catalog =
      (rulesWith config expected ignored).map fun rule => (rule.name, rule.messages) := by
    rw [catalog, buildRules_standard]
    rfl
  rw [hcatalog]
  exact List.mem_map_of_mem hr

/-- Diagnostics with codes that one rule alone declares are those that this rule reports. -/
theorem reportedWith_walkModule {config : Config} {rules : List Rule}
    (hrules : buildRules config = .ok rules) {rule : Rule} (hr : rule ∈ rules) {codes : List String}
    (hcodes : DeclaredOnlyBy rule.name codes) (path : Path) (source : String) (hasBom : Bool)
    (env : Environment) (body : List Stmt) :
    let ctx := FileContext.ofSource path source hasBom env
    reportedWith codes (walkModule config ctx body (rules.map Rule.activate)).2 =
      reportedWith codes ((rule.watcher.run ctx (eventsOfModule body) rule.initial).2.filterMap
        (Finding.report config path rule.name)) := by
  intro ctx
  let walk := walkModule config ctx body (rules.map Rule.activate)
  have hname : ∀ d ∈ walk.2, d.code ∈ codes → d.rule = rule.name := by
    intro d hd hcode
    obtain ⟨active, hactive, event, -, s, f, hf, hreport⟩ := exists_finding_of_mem_dispatchAll hd
    obtain ⟨-, rfl⟩ := Finding.report_eq_some_iff.mp hreport
    obtain ⟨other, hother, rfl⟩ := List.mem_map.mp hactive
    have hfits := Rule.fits_of_mem_observe (keepsToMessages_of_buildRules hrules hother)
      (quietOnLeave_of_buildRules hrules hother)
      (FileContext.numbered_ofSource path source hasBom env) hf
    exact hcodes _ (mem_catalog_of_mem_buildRules hrules hother) _ hfits.declared hcode
  have hunder : reportedWith codes walk.2 = reportedWith codes (reportedUnder rule.name walk.2) := by
    rw [reportedWith, reportedWith, reportedUnder, List.filter_filter]
    refine List.filter_congr fun d hd => ?_
    rw [Bool.eq_self_and, List.contains_iff_mem, beq_iff_eq]
    exact hname d hd
  exact hunder.trans (congrArg _ (reportedUnder_walkModule hrules hr ctx body))

lemma reportedWith_map_diagnostic (codes : List String) (file : Path) (rule : String)
    (found : List Finding) :
    reportedWith codes (found.map (Finding.diagnostic file rule)) =
      (found.filter fun f => codes.contains f.message.code).map (Finding.diagnostic file rule) := by
  rw [reportedWith, List.filter_map]
  rfl

lemma filterMap_report_of_message {config : Config} {file : Path} {rule : String}
    {message : Message} {found : List Finding} (h : ∀ f ∈ found, f.message = message) :
    found.filterMap (Finding.report config file rule) =
      if [message.code, message.symbol, rule].any config.isDisabled then []
      else found.map (Finding.diagnostic file rule) := by
  have hreport : ∀ f ∈ found, f.report config file rule =
      if [message.code, message.symbol, rule].any config.isDisabled then none
      else some (f.diagnostic file rule) := by
    rintro ⟨m, line, args⟩ hf
    obtain rfl : m = message := h _ hf
    simp only [Finding.report, List.any_cons, List.any_nil, Bool.or_false, Bool.or_assoc]
    rfl
  rw [List.filterMap_congr hreport]
  split
  · exact List.filterMap_none found
  · exact congrFun List.filterMap_eq_map found

end SaltConventions
