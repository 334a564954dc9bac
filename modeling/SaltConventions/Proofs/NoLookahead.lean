import SaltConventions.Proofs.Dispatch
import SaltConventions.Proofs.Parts
import SaltConventions.Proofs.Walk

/-!
# Nothing is decided in hindsight

What is reported about the first statements of a module does not depend on the statements after
them. Rules learn of a module that it begins and that it ends: when it begins they do not look at
its statements, and when it ends they find nothing. In between they see the statements one after the
other, so the diagnostics of a module begin with those of its first statements.
-/

namespace SaltConventions

/-- Entering a module has the same effect whatever its statements are. -/
def Rule.IgnoresBody (rule : Rule) : Prop :=
  ∀ (ctx : FileContext) (earlier all : List Stmt) (scope : Scope) (s : rule.State),
    rule.watcher.step ctx ⟨.enter, .module earlier, scope⟩ s =
      rule.watcher.step ctx ⟨.enter, .module all, scope⟩ s

lemma ignoresBody_of_buildRules {config : Config} {rules : List Rule}
    (h : buildRules config = .ok rules) {rule : Rule} (hr : rule ∈ rules) : rule.IgnoresBody := by
  rcases cases_of_mem_buildRules h hr with
    rfl | rfl | rfl | rfl | rfl | rfl | rfl | rfl | rfl | ⟨expected, ignored, rfl⟩ | rfl
  all_goals exact fun _ _ _ _ _ => rfl

/-! ### The beginning and the end of a module -/

lemma dispatchAll_append (config : Config) (ctx : FileContext) (xs ys : List Event)
    (active : List ActiveRule) :
    dispatchAll config ctx (xs ++ ys) active =
      ((dispatchAll config ctx ys (dispatchAll config ctx xs active).1).1,
        (dispatchAll config ctx xs active).2 ++
          (dispatchAll config ctx ys (dispatchAll config ctx xs active).1).2) := by
  induction xs generalizing active with
  | nil => rfl
  | cons event later ih =>
    rw [List.cons_append, dispatchAll_cons, dispatchAll_cons, ih, List.append_assoc]

lemma dispatch_enter_module {config : Config} {ctx : FileContext} {active : List ActiveRule}
    (h : ∀ a ∈ active, a.rule.IgnoresBody) (earlier all : List Stmt) (scope : Scope) :
    dispatch config ctx ⟨.enter, .module earlier, scope⟩ active =
      dispatch config ctx ⟨.enter, .module all, scope⟩ active := by
  refine dispatch_of_observe_eq fun a ha => ?_
  unfold ActiveRule.observe Watcher.observe
  rw [h a ha ctx earlier all scope]
  rfl

lemma dispatch_leave_snd (config : Config) (ctx : FileContext) {active : List ActiveRule}
    (h : ∀ a ∈ active, a.rule.QuietOnLeave) (node : Node) (scope : Scope) :
    (dispatch config ctx ⟨.leave, node, scope⟩ active).2 = [] := by
  simp only [dispatch, List.flatMap_eq_nil_iff, List.mem_map]
  rintro result ⟨a, ha, rfl⟩
  simp only [ActiveRule.observe, Watcher.observe]
  split
  · rw [h a ha ctx node scope a.state]
    rfl
  · rfl

lemma forall_mem_dispatchAll {P : Rule → Prop} {active : List ActiveRule}
    (h : ∀ a ∈ active, P a.rule) (config : Config) (ctx : FileContext) (events : List Event) :
    ∀ a ∈ (dispatchAll config ctx events active).1, P a.rule := by
  rw [dispatchAll_fst]
  intro a ha
  obtain ⟨before, hbefore, rfl⟩ := List.mem_map.mp ha
  exact h before hbefore

/-- The events of a module before its end. -/
def eventsBeforeEnd (body : List Stmt) : List Event :=
  ⟨.enter, .module body, ScopeTracker.empty.scope⟩ :: (walkAll .empty (visitsOfBody false body)).1

lemma walkModule_snd {config : Config} {ctx : FileContext} {body : List Stmt}
    {active : List ActiveRule} (h : ∀ a ∈ active, a.rule.QuietOnLeave) :
    (walkModule config ctx body active).2 =
      (dispatchAll config ctx (eventsBeforeEnd body) active).2 := by
  have hquiet := forall_mem_dispatchAll h config ctx (eventsBeforeEnd body)
  have hleave := dispatch_leave_snd config ctx hquiet (.module body) ScopeTracker.empty.scope
  have hend : eventsOfModule body =
      eventsBeforeEnd body ++ [⟨.leave, .module body, ScopeTracker.empty.scope⟩] :=
    eventsOfModule_eq body
  rw [walkModule, hend, dispatchAll_append, dispatchAll_cons, hleave]
  exact List.append_nil _

/-! ### Statements one after the other -/

/-- The diagnostics of more statements are those of the first ones and those that the rules, as the
first ones leave them, report about the others. -/
theorem walkModule_append_snd {config : Config} {ctx : FileContext} {active : List ActiveRule}
    (hbody : ∀ a ∈ active, a.rule.IgnoresBody) (hquiet : ∀ a ∈ active, a.rule.QuietOnLeave)
    (earlier later : List Stmt) :
    (walkModule config ctx (earlier ++ later) active).2 =
      (walkModule config ctx earlier active).2 ++
        (dispatchAll config ctx (walkAll .empty (visitsOfBody false later)).1
          (dispatchAll config ctx (eventsBeforeEnd earlier) active).1).2 := by
  have hvisits : (walkAll .empty (visitsOfBody false (earlier ++ later))).1 =
      (walkAll .empty (visitsOfBody false earlier)).1 ++
        (walkAll .empty (visitsOfBody false later)).1 := by
    simp only [visitsOfBody_eq, List.flatMap_append, walkAll_append_fst]
  rw [walkModule_snd hquiet, walkModule_snd hquiet, eventsBeforeEnd, hvisits, dispatchAll_cons,
    dispatch_enter_module hbody (earlier ++ later) earlier, dispatchAll_append, ← List.append_assoc,
    eventsBeforeEnd, dispatchAll_cons]

/-- No look-ahead: the diagnostics of the first statements of a module come first among those of the
whole module, as they are and in the same order. -/
theorem walkModule_isPrefix_append {config : Config} {rules : List Rule}
    (hrules : buildRules config = .ok rules) {active : List ActiveRule}
    (hactive : ∀ a ∈ active, a.rule ∈ rules) (ctx : FileContext) (earlier later : List Stmt) :
    (walkModule config ctx earlier active).2 <+:
      (walkModule config ctx (earlier ++ later) active).2 := by
  have hbody : ∀ a ∈ active, a.rule.IgnoresBody :=
    fun a ha => ignoresBody_of_buildRules hrules (hactive a ha)
  have hquiet : ∀ a ∈ active, a.rule.QuietOnLeave :=
    fun a ha => quietOnLeave_of_buildRules hrules (hactive a ha)
  exact ⟨_, (walkModule_append_snd hbody hquiet earlier later).symm⟩

theorem walkModule_isPrefix_of_late_import :
    let ctx := FileContext.alone ⟨"grains.py"⟩
      "#######################\ndef __virtual__():\n    audit.info()\n"
    -- The first `__virtual__` stands before the import that makes `audit` a logger.
    let earlier := auditingVirtual [] ++ auditingVirtual [auditImport]
    let later := auditingVirtual []
    let active := [VirtualLogging.rule.activate]
    let walk := fun body => (walkModule .standard ctx body active).2
    buildRules .standard = .ok standardRules ∧ (∀ a ∈ active, a.rule ∈ standardRules) ∧
    (walk earlier).map Diagnostic.code = ["E1401"] ∧
    (walk (earlier ++ later)).map Diagnostic.code = ["E1401", "E1401"] ∧
    walk earlier <+: walk (earlier ++ later) := by
  intro ctx earlier later active walk
  have hactive : ∀ a ∈ active, a.rule ∈ standardRules :=
    List.forall_mem_singleton.mpr (by simp [standardRules, rulesWith, Rule.activate])
  exact ⟨buildRules_standard, hactive, by decide, by decide,
    walkModule_isPrefix_append buildRules_standard hactive ctx earlier later⟩

end SaltConventions
