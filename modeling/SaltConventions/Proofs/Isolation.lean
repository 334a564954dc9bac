import Mathlib.Data.List.Forall2
import SaltConventions.Proofs.Dispatch
import SaltConventions.Proofs.Walk

/-!
# Files do not influence each other

Rules that are walked over one file after another carry their states along. Entering a module puts
every rule into a state that does not depend on the states before, except for a rule that finds
nothing in any state. So each file gets the diagnostics that it gets from rules at the start.
-/

namespace SaltConventions

/-- Entering a module has the same effect in all states. -/
def Rule.Resets (rule : Rule) : Prop :=
  ∀ (ctx : FileContext) (body : List Stmt) (scope : Scope) (s t : rule.State),
    rule.watcher.observe ctx ⟨.enter, .module body, scope⟩ s =
      rule.watcher.observe ctx ⟨.enter, .module body, scope⟩ t

/-- Nothing is found in any state. -/
def Rule.Silent (rule : Rule) : Prop :=
  ∀ (ctx : FileContext) (event : Event) (s : rule.State), (rule.watcher.observe ctx event s).2 = []

/-! ### What the rules do when a module is entered -/

lemma Rule.resets_of_stateless (rule : Rule) (h : rule.State = Unit) : rule.Resets := by
  intro ctx body scope s t
  have hsame : s = t := by
    have hunit : Subsingleton rule.State := by rw [h]; infer_instance
    exact hunit.elim s t
  rw [hsame]

lemma PatchedModules.resets : PatchedModules.rule.Resets := fun _ _ _ _ _ => rfl

lemma VirtualLogging.resets : VirtualLogging.rule.Resets := fun _ _ _ _ _ => rfl

lemma StringFormatting.resets (settings : StringSettings) : (StringFormatting.rule settings).Resets :=
  fun _ _ _ _ _ => rfl

lemma ReplacedFunctions.resets {listed : NameMap} (h : listed.isEmpty = false) :
    (ReplacedFunctions.rule listed).Resets := by
  have henter : ∀ ctx body imports,
      ReplacedFunctions.enter listed ctx (.module body) imports = (.empty, []) := by
    intro ctx body imports
    simp [ReplacedFunctions.enter, h]
  intro ctx body scope s t
  exact (henter ctx body s).trans (henter ctx body t).symm

/-- Without listed functions the imports of earlier files stay, but nothing is found. -/
lemma ReplacedFunctions.silent {listed : NameMap} (h : listed.isEmpty = true) :
    (ReplacedFunctions.rule listed).Silent := by
  have henter : ∀ ctx node imports,
      ReplacedFunctions.enter listed ctx node imports = (imports, []) := fun _ _ _ => if_pos h
  intro ctx event s
  unfold Watcher.observe
  split
  · cases hp : event.phase with
    | enter => simp [ReplacedFunctions.rule, hp, henter]
    | leave => simp [ReplacedFunctions.rule, hp]
  · rfl

lemma resets_or_silent_of_buildRules {config : Config} {rules : List Rule}
    (h : buildRules config = .ok rules) : ∀ rule ∈ rules, rule.Resets ∨ rule.Silent := by
  intro rule hr
  rcases cases_of_mem_buildRules h hr with
    rfl | rfl | rfl | rfl | rfl | rfl | rfl | rfl | rfl | ⟨expected, ignored, rfl⟩ | rfl
  · exact .inl (Rule.resets_of_stateless _ rfl)
  · exact .inl PatchedModules.resets
  · exact .inl (Rule.resets_of_stateless _ rfl)
  · exact .inl (Rule.resets_of_stateless _ rfl)
  · exact .inl (Rule.resets_of_stateless _ rfl)
  · cases hl : config.functions.toMap.isEmpty with
    | false => exact .inl (ReplacedFunctions.resets hl)
    | true => exact .inr (ReplacedFunctions.silent hl)
  · exact .inl (Rule.resets_of_stateless _ rfl)
  · exact .inl VirtualLogging.resets
  · exact .inl (StringFormatting.resets _)
  · exact .inl (Rule.resets_of_stateless _ rfl)
  · exact .inl (Rule.resets_of_stateless _ rfl)

/-! ### Rules in different states -/

/-- The same rule in the same state, or in any two states if it finds nothing. -/
def ActiveRule.Alike (a b : ActiveRule) : Prop :=
  a = b ∨ a.rule = b.rule ∧ a.rule.Silent

lemma ActiveRule.Alike.observe {a b : ActiveRule} (h : a.Alike b) (config : Config)
    (ctx : FileContext) (event : Event) :
    (a.observe config ctx event).1.Alike (b.observe config ctx event).1 ∧
      (a.observe config ctx event).2 = (b.observe config ctx event).2 := by
  rcases h with rfl | ⟨hr, hs⟩
  · exact ⟨.inl rfl, rfl⟩
  · obtain ⟨rule, s⟩ := a
    obtain ⟨_, t⟩ := b
    obtain rfl : rule = _ := hr
    refine ⟨.inr ⟨rfl, hs⟩, ?_⟩
    simp [ActiveRule.observe, hs ctx event s, hs ctx event t]

lemma ActiveRule.alike_of_module {a b : ActiveRule} (hr : a.rule = b.rule)
    (hm : a.rule.Resets ∨ a.rule.Silent) (config : Config) (ctx : FileContext) (body : List Stmt)
    (scope : Scope) :
    (a.observe config ctx ⟨.enter, .module body, scope⟩).1.Alike
        (b.observe config ctx ⟨.enter, .module body, scope⟩).1 ∧
      (a.observe config ctx ⟨.enter, .module body, scope⟩).2 =
        (b.observe config ctx ⟨.enter, .module body, scope⟩).2 := by
  rcases hm with hm | hm
  · obtain ⟨rule, s⟩ := a
    obtain ⟨_, t⟩ := b
    obtain rfl : rule = _ := hr
    simp only [ActiveRule.observe, hm ctx body scope s t]
    exact ⟨.inl rfl, trivial⟩
  · exact ActiveRule.Alike.observe (.inr ⟨hr, hm⟩) config ctx _

lemma dispatch_congr {R S : ActiveRule → ActiveRule → Prop} {config : Config} {ctx : FileContext}
    {event : Event} (hstep : ∀ a b, R a b →
      S (a.observe config ctx event).1 (b.observe config ctx event).1 ∧
        (a.observe config ctx event).2 = (b.observe config ctx event).2)
    {as bs : List ActiveRule} (h : List.Forall₂ R as bs) :
    List.Forall₂ S (dispatch config ctx event as).1 (dispatch config ctx event bs).1 ∧
      (dispatch config ctx event as).2 = (dispatch config ctx event bs).2 := by
  induction h with
  | nil => exact ⟨.nil, rfl⟩
  | cons hab _ ih =>
    obtain ⟨hs, hd⟩ := hstep _ _ hab
    simp only [dispatch_cons, hd, ih.2]
    exact ⟨.cons hs ih.1, trivial⟩

theorem dispatchAll_of_alike (config : Config) (ctx : FileContext) (events : List Event)
    {as bs : List ActiveRule} (h : List.Forall₂ ActiveRule.Alike as bs) :
    (dispatchAll config ctx events as).2 = (dispatchAll config ctx events bs).2 := by
  induction events generalizing as bs with
  | nil => rfl
  | cons event later ih =>
    obtain ⟨hs, hd⟩ := dispatch_congr (fun a b hab => hab.observe config ctx event) h
    rw [dispatchAll_cons, dispatchAll_cons, hd, ih hs]

/-- What a walk reports does not depend on the states that the rules have at its start. -/
theorem walkModule_of_same_rules {config : Config} {ctx : FileContext} {body : List Stmt}
    {as bs : List ActiveRule} (hr : as.map ActiveRule.rule = bs.map ActiveRule.rule)
    (hm : ∀ a ∈ as, a.rule.Resets ∨ a.rule.Silent) :
    (walkModule config ctx body as).2 = (walkModule config ctx body bs).2 := by
  have heq : List.Forall₂ (fun a b => a.rule = b.rule) as bs := by
    have hf : List.Forall₂ (· = ·) (as.map ActiveRule.rule) (bs.map ActiveRule.rule) := by
      rw [hr, List.forall₂_eq_eq_eq]
    exact List.forall₂_map_right_iff.mp (List.forall₂_map_left_iff.mp hf)
  have hab := (List.forall₂_and_left as bs).mpr ⟨hm, heq⟩
  obtain ⟨hs, hd⟩ := dispatch_congr
    (fun a b h => ActiveRule.alike_of_module h.2 h.1 config ctx body ScopeTracker.empty.scope) hab
  rw [walkModule, walkModule, eventsOfModule_eq, List.cons_append, dispatchAll_cons,
    dispatchAll_cons, hd, dispatchAll_of_alike config ctx _ hs]

/-! ### Files one after another -/

/-- Walks files one after another, carrying the rules along: the diagnostics of each file. -/
def walkFiles (config : Config) : List (FileContext × List Stmt) → List ActiveRule →
    List (List Diagnostic)
  | [], _ => []
  | (ctx, body) :: later, rules =>
    let (next, reported) := walkModule config ctx body rules
    reported :: walkFiles config later next

lemma walkFiles_cons (config : Config) (file : FileContext × List Stmt)
    (later : List (FileContext × List Stmt)) (rules : List ActiveRule) :
    walkFiles config (file :: later) rules =
      (walkModule config file.1 file.2 rules).2 ::
        walkFiles config later (walkModule config file.1 file.2 rules).1 := rfl

lemma map_rule_walkModule (config : Config) (ctx : FileContext) (body : List Stmt)
    (rules : List ActiveRule) :
    (walkModule config ctx body rules).1.map ActiveRule.rule = rules.map ActiveRule.rule := by
  rw [walkModule, dispatchAll_fst, List.map_map]
  rfl

/-- The states that rules have at the start of a row of files do not matter, if entering a module
resets them. -/
theorem walkFiles_of_resets {config : Config} {rules : List Rule}
    (hm : ∀ rule ∈ rules, rule.Resets ∨ rule.Silent) (files : List (FileContext × List Stmt))
    {active : List ActiveRule} (ha : active.map ActiveRule.rule = rules) :
    walkFiles config files active =
      files.map fun file => (walkModule config file.1 file.2 (rules.map Rule.activate)).2 := by
  induction files generalizing active with
  | nil => rfl
  | cons file later ih =>
    have hstart : active.map ActiveRule.rule = (rules.map Rule.activate).map ActiveRule.rule := by
      rw [ha, List.map_map]
      exact (List.map_id rules).symm
    have hactive : ∀ a ∈ active, a.rule.Resets ∨ a.rule.Silent :=
      fun a h => hm a.rule (ha ▸ List.mem_map_of_mem h)
    rw [walkFiles_cons, List.map_cons, ih ((map_rule_walkModule _ _ _ _).trans ha),
      walkModule_of_same_rules hstart hactive]

/-- Rules of a configuration that are walked over files one after another report for each file what
they report for it at the start. -/
theorem walkFiles_eq_map_walkModule {config : Config} {rules chosen : List Rule}
    (hrules : buildRules config = .ok rules) (hchosen : chosen.Sublist rules)
    (files : List (FileContext × List Stmt)) :
    walkFiles config files (chosen.map Rule.activate) =
      files.map fun file => (walkModule config file.1 file.2 (chosen.map Rule.activate)).2 := by
  have hm : ∀ rule ∈ chosen, rule.Resets ∨ rule.Silent :=
    fun rule h => resets_or_silent_of_buildRules hrules rule (hchosen.subset h)
  apply walkFiles_of_resets hm files
  rw [List.map_map]
  exact List.map_id chosen

theorem walkFiles_of_two_modules :
    let files := [(FileContext.alone ⟨"grains.py"⟩
        "import logging as audit\ndef __virtual__():\n    audit.info()\n",
      auditingVirtual [auditImport]),
      (FileContext.alone ⟨"pillar.py"⟩
        "#######################\ndef __virtual__():\n    audit.info()\n", auditingVirtual [])]
    let chosen := standardRules.filter fun rule => rule.name == "virt-checker"
    buildRules .standard = .ok standardRules ∧ chosen.Sublist standardRules ∧
    (walkFiles .standard files (chosen.map Rule.activate)).map List.length = [1, 0] ∧
    walkFiles .standard files (chosen.map Rule.activate) =
      files.map fun file => (walkModule .standard file.1 file.2 (chosen.map Rule.activate)).2 :=
  ⟨buildRules_standard, List.filter_sublist, by decide,
    walkFiles_eq_map_walkModule buildRules_standard List.filter_sublist _⟩

end SaltConventions
