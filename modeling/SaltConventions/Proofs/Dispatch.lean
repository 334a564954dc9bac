import Mathlib.Tactic.Lemma
import SaltConventions.RuleSet

/-!
# Rules do not see each other

All rules are shown the same events, and each answers them from its own state. So the rules after a
walk are the rules after their own runs, and leaving out some rules leaves out their diagnostics and
nothing else. A recording rule shows what a rule gets to see among any others.
-/

namespace SaltConventions

universe u

/-! ### Runs event by event -/

lemma foldl_collect {σ : Type u} {α β : Type} (step : α → σ → σ × List β) (as : List α) (s : σ)
    (found : List β) :
    as.foldl (fun done a => ((step a done.1).1, done.2 ++ (step a done.1).2)) (s, found) =
      ((as.foldl (fun done a => ((step a done.1).1, done.2 ++ (step a done.1).2)) (s, [])).1,
        found ++
          (as.foldl (fun done a => ((step a done.1).1, done.2 ++ (step a done.1).2)) (s, [])).2) := by
  induction as generalizing s found with
  | nil => simp
  | cons a later ih =>
    rw [List.foldl_cons, List.foldl_cons, ih, ih (step a s).1 ([] ++ _)]
    simp

lemma Watcher.run_cons {σ : Type} (w : Watcher σ) (ctx : FileContext) (event : Event)
    (events : List Event) (state : σ) :
    w.run ctx (event :: events) state =
      ((w.run ctx events (w.observe ctx event state).1).1,
        (w.observe ctx event state).2 ++ (w.run ctx events (w.observe ctx event state).1).2) :=
  foldl_collect (w.observe ctx) events _ _

lemma dispatchAll_cons (config : Config) (ctx : FileContext) (event : Event) (events : List Event)
    (rules : List ActiveRule) :
    dispatchAll config ctx (event :: events) rules =
      ((dispatchAll config ctx events (dispatch config ctx event rules).1).1,
        (dispatch config ctx event rules).2 ++
          (dispatchAll config ctx events (dispatch config ctx event rules).1).2) :=
  foldl_collect (dispatch config ctx) events _ _

/-- A rule after some events that were shown to it. -/
def ActiveRule.after (ctx : FileContext) (events : List Event) (active : ActiveRule) : ActiveRule :=
  ⟨active.rule, (active.rule.watcher.run ctx events active.state).1⟩

theorem dispatchAll_fst (config : Config) (ctx : FileContext) (events : List Event)
    (rules : List ActiveRule) :
    (dispatchAll config ctx events rules).1 = rules.map (ActiveRule.after ctx events) := by
  induction events generalizing rules with
  | nil => exact (List.map_id rules).symm
  | cons event later ih =>
    rw [dispatchAll_cons, ih]
    simp only [dispatch, List.map_map]
    apply List.map_congr_left
    intro active _
    simp only [Function.comp_apply, ActiveRule.after, ActiveRule.observe, Watcher.run_cons]

/-! ### Leaving out rules -/

/-- The diagnostic of a finding that a rule has about a file. -/
def Finding.diagnostic (file : Path) (rule : String) (f : Finding) : Diagnostic where
  code := f.message.code
  symbol := f.message.symbol
  rule := rule
  severity := f.message.severity
  file := file
  line := f.line
  message := f.message.render f.args
  args := f.args

lemma Finding.report_eq_some_iff {config : Config} {file : Path} {rule : String} {f : Finding}
    {d : Diagnostic} :
    f.report config file rule = some d ↔
      (config.isDisabled f.message.code = false ∧ config.isDisabled f.message.symbol = false ∧
        config.isDisabled rule = false) ∧ f.diagnostic file rule = d := by
  unfold Finding.report
  split
  · grind
  · rw [Option.some.injEq]
    grind [Finding.diagnostic]

lemma Finding.rule_of_report {config : Config} {file : Path} {rule : String} {f : Finding}
    {d : Diagnostic} (h : f.report config file rule = some d) : d.rule = rule := by
  obtain ⟨-, rfl⟩ := report_eq_some_iff.mp h
  rfl

lemma ActiveRule.rule_of_mem_observe {config : Config} {ctx : FileContext} {event : Event}
    {active : ActiveRule} {d : Diagnostic} (h : d ∈ (active.observe config ctx event).2) :
    d.rule = active.rule.name := by
  obtain ⟨f, -, hf⟩ := List.mem_filterMap.mp h
  exact Finding.rule_of_report hf

/-- Every diagnostic of a walk goes back to one finding of one rule about one event. -/
theorem exists_finding_of_mem_dispatchAll {config : Config} {ctx : FileContext}
    {events : List Event} {rules : List ActiveRule} {d : Diagnostic}
    (h : d ∈ (dispatchAll config ctx events rules).2) :
    ∃ active ∈ rules, ∃ event ∈ events, ∃ s : active.rule.State,
      ∃ f ∈ (active.rule.watcher.observe ctx event s).2,
        f.report config ctx.path active.rule.name = some d := by
  induction events generalizing rules with
  | nil => cases h
  | cons event later ih =>
    rw [dispatchAll_cons] at h
    rcases List.mem_append.mp h with h | h
    · obtain ⟨result, hresult, hd⟩ := List.mem_flatMap.mp h
      obtain ⟨active, hactive, rfl⟩ := List.mem_map.mp hresult
      obtain ⟨f, hf, hreport⟩ := List.mem_filterMap.mp hd
      exact ⟨active, hactive, event, by simp, active.state, f, hf, hreport⟩
    · obtain ⟨active, hactive, e, he, s, found⟩ := ih h
      -- After one event the rules are the same, only their states are not.
      obtain ⟨result, hresult, rfl⟩ := List.mem_map.mp hactive
      obtain ⟨before, hbefore, rfl⟩ := List.mem_map.mp hresult
      exact ⟨before, hbefore, e, by simp [he], s, found⟩

lemma ActiveRule.filter_observe (config : Config) (ctx : FileContext) (event : Event)
    (active : ActiveRule) (keep : String → Bool) :
    (active.observe config ctx event).2.filter (fun d => keep d.rule) =
      if keep active.rule.name then (active.observe config ctx event).2 else [] := by
  split
  · rename_i hk
    rw [List.filter_eq_self]
    intro d hd
    rw [rule_of_mem_observe hd, hk]
  · rename_i hk
    rw [List.filter_eq_nil_iff]
    intro d hd
    rw [rule_of_mem_observe hd]
    exact hk

lemma dispatch_cons (config : Config) (ctx : FileContext) (event : Event) (active : ActiveRule)
    (later : List ActiveRule) :
    dispatch config ctx event (active :: later) =
      ((active.observe config ctx event).1 :: (dispatch config ctx event later).1,
        (active.observe config ctx event).2 ++ (dispatch config ctx event later).2) := rfl

lemma dispatch_append (config : Config) (ctx : FileContext) (event : Event)
    (xs ys : List ActiveRule) :
    dispatch config ctx event (xs ++ ys) =
      ((dispatch config ctx event xs).1 ++ (dispatch config ctx event ys).1,
        (dispatch config ctx event xs).2 ++ (dispatch config ctx event ys).2) := by
  simp only [dispatch, List.map_append, List.flatMap_append]

lemma dispatch_of_observe_eq {config : Config} {a b : FileContext} {event other : Event}
    {rules : List ActiveRule}
    (h : ∀ active ∈ rules, active.observe config a event = active.observe config b other) :
    dispatch config a event rules = dispatch config b other rules := by
  have hresults : rules.map (ActiveRule.observe config a event) =
      rules.map (ActiveRule.observe config b other) := List.map_congr_left h
  simp only [dispatch, hresults]

lemma forall_mem_dispatch {P : Rule → Prop} {rules : List ActiveRule}
    (h : ∀ active ∈ rules, P active.rule) (config : Config) (ctx : FileContext) (event : Event) :
    ∀ active ∈ (dispatch config ctx event rules).1, P active.rule := by
  intro active hactive
  obtain ⟨result, hresult, rfl⟩ := List.mem_map.mp hactive
  obtain ⟨before, hbefore, rfl⟩ := List.mem_map.mp hresult
  exact h before hbefore

lemma dispatch_filter (config : Config) (ctx : FileContext) (event : Event)
    (rules : List ActiveRule) (keep : String → Bool) :
    dispatch config ctx event (rules.filter fun a => keep a.rule.name) =
      ((dispatch config ctx event rules).1.filter fun a => keep a.rule.name,
        (dispatch config ctx event rules).2.filter fun d => keep d.rule) := by
  induction rules with
  | nil => rfl
  | cons active later ih =>
    have hn : (active.observe config ctx event).1.rule.name = active.rule.name := rfl
    simp only [List.filter_cons, dispatch_cons, List.filter_append, hn,
      active.filter_observe config ctx event keep]
    by_cases hk : keep active.rule.name
    · rw [if_pos hk, if_pos hk, if_pos hk, dispatch_cons, ih]
    · rw [if_neg hk, if_neg hk, if_neg hk, ih, List.nil_append]

theorem dispatchAll_filter (config : Config) (ctx : FileContext) (events : List Event)
    (rules : List ActiveRule) (keep : String → Bool) :
    (dispatchAll config ctx events (rules.filter fun a => keep a.rule.name)).2 =
      (dispatchAll config ctx events rules).2.filter fun d => keep d.rule := by
  induction events generalizing rules with
  | nil => rfl
  | cons event later ih =>
    rw [dispatchAll_cons, dispatchAll_cons, dispatch_filter, ih, List.filter_append]

lemma filter_key_of_sublist {α : Type u} {xs ys : List α} {key : α → String} (h : xs.Sublist ys)
    (hd : (ys.map key).Nodup) : ys.filter (fun y => (xs.map key).contains (key y)) = xs := by
  induction h with
  | slnil => rfl
  | @cons xs ys y hs ih =>
    have hy := List.nodup_cons.mp hd
    have hx : key y ∉ xs.map key := fun hm => hy.1 ((hs.map key).subset hm)
    rw [List.filter_cons_of_neg (by simpa using hx), ih hy.2]
  | @cons_cons xs ys y hs ih =>
    have hy := List.nodup_cons.mp hd
    have hne : ∀ z ∈ ys, ((y :: xs).map key).contains (key z) = (xs.map key).contains (key z) := by
      intro z hz
      have hzy : key z ≠ key y := fun he => hy.1 (he ▸ List.mem_map_of_mem hz)
      simp [hzy]
    rw [List.filter_cons_of_pos (by simp), List.filter_congr hne, ih hy.2]

lemma map_name_rulesWith (config : Config) (expected : Permission) (ignored : List Glob) :
    (rulesWith config expected ignored).map Rule.name =
      ["blacklisted-imports", "blacklisted-unmocked-patching", "3rd-party-imports",
        "resource-leakage", "moved-test-case-class", "blacklisted-functions", "dunder-del",
        "virt-checker", "string", "fileperms", "pep263"] := rfl

/-- Only the settings of the permission check have to be read. -/
lemma buildRules_eq_ok_iff {config : Config} {rules : List Rule} :
    buildRules config = .ok rules ↔ ∃ expected ignored,
      FileMode.readSettings config.permissions = .ok (expected, ignored) ∧
        rules = rulesWith config expected ignored := by
  unfold buildRules
  cases FileMode.readSettings config.permissions with
  | error cause => simp
  | ok settings =>
    obtain ⟨expected, ignored⟩ := settings
    constructor
    · intro h
      exact ⟨expected, ignored, rfl, (Except.ok.inj h).symm⟩
    · rintro ⟨_, _, ⟨⟩, rfl⟩
      rfl

lemma nodup_names_of_buildRules {config : Config} {rules : List Rule}
    (h : buildRules config = .ok rules) : (rules.map Rule.name).Nodup := by
  obtain ⟨expected, ignored, -, rfl⟩ := buildRules_eq_ok_iff.mp h
  rw [map_name_rulesWith]
  decide

lemma cases_of_mem_buildRules {config : Config} {rules : List Rule}
    (h : buildRules config = .ok rules) {rule : Rule} (hr : rule ∈ rules) :
    rule = ReplacedImports.rule ∨ rule = PatchedModules.rule ∨
      rule = UngatedImports.rule config.allowedModules ∨ rule = OpenFiles.rule ∨
      rule = MovedTestCases.rule ∨ rule = ReplacedFunctions.rule config.functions.toMap ∨
      rule = Finalizers.rule ∨ rule = VirtualLogging.rule ∨
      rule = StringFormatting.rule config.strings ∨
      (∃ expected ignored, rule = FileMode.rule expected ignored) ∨ rule = SourceEncoding.rule := by
  obtain ⟨expected, ignored, -, rfl⟩ := buildRules_eq_ok_iff.mp h
  simp only [rulesWith, List.mem_cons, List.not_mem_nil, or_false] at hr
  have hmode : rule = FileMode.rule expected ignored →
      ∃ expected ignored, rule = FileMode.rule expected ignored := fun h => ⟨expected, ignored, h⟩
  grind

/-- Nothing is found when a node is left. -/
def Rule.QuietOnLeave (rule : Rule) : Prop :=
  ∀ (ctx : FileContext) (node : Node) (scope : Scope) (s : rule.State),
    (rule.watcher.step ctx ⟨.leave, node, scope⟩ s).2 = []

lemma quietOnLeave_of_buildRules {config : Config} {rules : List Rule}
    (h : buildRules config = .ok rules) {rule : Rule} (hr : rule ∈ rules) : rule.QuietOnLeave := by
  rcases cases_of_mem_buildRules h hr with
    rfl | rfl | rfl | rfl | rfl | rfl | rfl | rfl | rfl | ⟨expected, ignored, rfl⟩ | rfl
  all_goals exact fun _ _ _ _ => rfl

/-! ### Recording rules -/

/-- A rule that reports nothing and keeps the events it sees, the last one first. -/
def Rule.recorder (kinds : List NodeKind) : Rule where
  name := "recorder"
  messages := []
  State := List Event
  initial := []
  watcher := .recorder kinds

lemma Watcher.run_recorder (kinds : List NodeKind) (ctx : FileContext) (events seen : List Event) :
    ((Watcher.recorder kinds).run ctx events seen).1 =
      (events.filter fun e => kinds.contains e.node.kind).reverse ++ seen := by
  induction events generalizing seen with
  | nil => rfl
  | cons event later ih =>
    rw [Watcher.run_cons, ih]
    by_cases hk : kinds.contains event.node.kind
    · have hobs : (Watcher.recorder kinds).observe ctx event seen = (event :: seen, []) := if_pos hk
      rw [hobs, List.filter_cons, if_pos hk, List.reverse_cons, List.append_assoc]
      rfl
    · have hobs : (Watcher.recorder kinds).observe ctx event seen = (seen, []) := if_neg hk
      rw [hobs, List.filter_cons, if_neg hk]

/-- Among any other rules, a recorder of some kinds is shown the events of these kinds. -/
theorem recorder_after_walkModule (config : Config) (ctx : FileContext) (body : List Stmt)
    (kinds : List NodeKind) (before after : List ActiveRule) :
    (walkModule config ctx body
        (before ++ (Rule.recorder kinds).activate :: after)).1[before.length]? =
      some ⟨Rule.recorder kinds,
        ((eventsOfModule body).filter fun e => kinds.contains e.node.kind).reverse⟩ := by
  have hrun := Watcher.run_recorder kinds ctx (eventsOfModule body) []
  rw [List.append_nil] at hrun
  rw [walkModule, dispatchAll_fst, List.map_append, List.map_cons,
    List.getElem?_append_right (by simp)]
  simp only [List.length_map, Nat.sub_self, List.getElem?_cons_zero]
  rw [← hrun]
  rfl

/-! ### A module that logs too early -/

def standardRules : List Rule :=
  rulesWith .standard (.exact 0o644) []

lemma buildRules_standard : buildRules .standard = .ok standardRules := rfl

/-- A file in an empty directory. -/
def FileContext.alone (path : Path) (source : String) : FileContext :=
  let tree : FileTree := ⟨[], []⟩
  .ofSource path source false ⟨tree, ⟨""⟩, .usual, .ofRoots tree []⟩

/-- A module whose `__virtual__` calls `audit.info`, with some imports before it. -/
def auditingVirtual (imports : List Stmt) : List Stmt :=
  imports ++ [.functionDef ⟨24, 60⟩ false "__virtual__" []
    [.expr ⟨47, 59⟩
      (.call ⟨47, 59⟩ (.attribute ⟨47, 57⟩ (.name ⟨47, 52⟩ "audit") "info") [] [])] []]

def auditImport : Stmt :=
  .importNames ⟨0, 23⟩ [⟨"logging", some "audit"⟩]

/-- Rules do not interfere: leaving out rules of a configuration leaves out their diagnostics and
nothing else, and a recorder sees the same events of its kinds among any other rules. -/
theorem walkModule_of_sublist {config : Config} {rules chosen : List Rule}
    (hrules : buildRules config = .ok rules) (hchosen : chosen.Sublist rules) (ctx : FileContext)
    (body : List Stmt) :
    (walkModule config ctx body (chosen.map Rule.activate)).2 =
      (walkModule config ctx body (rules.map Rule.activate)).2.filter
        (fun d => (chosen.map Rule.name).contains d.rule) ∧
    ∀ (kinds : List NodeKind) (before after : List ActiveRule),
      (walkModule config ctx body
          (before ++ (Rule.recorder kinds).activate :: after)).1[before.length]? =
        some ⟨Rule.recorder kinds,
          ((eventsOfModule body).filter fun e => kinds.contains e.node.kind).reverse⟩ := by
  have hnames := nodup_names_of_buildRules hrules
  have hactive : chosen.map Rule.activate =
      (rules.map Rule.activate).filter fun a => (chosen.map Rule.name).contains a.rule.name := by
    rw [List.filter_map]
    exact congrArg (List.map Rule.activate) (filter_key_of_sublist hchosen hnames).symm
  refine ⟨?_, recorder_after_walkModule config ctx body⟩
  rw [hactive]
  exact dispatchAll_filter config ctx (eventsOfModule body) (rules.map Rule.activate) _

theorem walkModule_of_virtual_rule :
    let chosen := standardRules.filter fun rule => rule.name == "virt-checker"
    let ctx := FileContext.alone ⟨"grains.py"⟩
      "import logging as audit\ndef __virtual__():\n    audit.info()\n"
    let walk := fun rules => (walkModule .standard ctx (auditingVirtual [auditImport])
      (rules.map Rule.activate)).2
    buildRules .standard = .ok standardRules ∧ chosen.Sublist standardRules ∧
    (walk chosen).map Diagnostic.code = ["E1401"] ∧
    walk chosen = (walk standardRules).filter
      fun d => (chosen.map Rule.name).contains d.rule :=
  ⟨buildRules_standard, List.filter_sublist, by decide,
    (walkModule_of_sublist buildRules_standard List.filter_sublist _ _).1⟩

end SaltConventions
