import Mathlib.Data.List.Basic
import SaltConventions.Proofs.Dispatch
import SaltConventions.Proofs.InlineSuppression

/-!
# What a rule sees of its file

A rule sees the source of a file, whether its name is that of a test or of an initializer, its path
from the working directory, its permission bits and where modules come from. Files that agree in all
this give the same findings, whatever path they are checked under; the diagnostics differ in the
file they name.
-/

namespace SaltConventions

/-- The modules that a node imports, each with the number of dots before it. -/
def Node.imported : Node → List (String × Nat)
  | .importNames _ names => names.map fun a => (a.name, 0)
  | .importFrom _ name _ level => [(name.getD "", level)]
  | _ => []

/-- The modules that rules ask about when they are shown an event. -/
def Event.asked (event : Event) : List (String × Nat) :=
  match event.phase with
  | .enter => event.node.imported
  | .leave => []

/-- Contexts that agree in all that a rule can see, if it asks only about some modules. -/
structure FileContext.SameView (asked : List (String × Nat)) (a b : FileContext) : Prop where
  source : a.source = b.source
  hasBom : a.hasBom = b.hasBom
  lines : a.lines = b.lines
  isTestModule : a.path.isTestModule = b.path.isTestModule
  isPackageInit : a.path.isPackageInit = b.path.isPackageInit
  relative : a.path.relativeTo a.env.cwd = b.path.relativeTo b.env.cwd
  mode : a.env.tree.mode? a.path = b.env.tree.mode? b.path
  origin : ∀ module level, (module, level) ∈ asked →
    a.env.classify module level a.path = b.env.classify module level b.path

namespace FileContext.SameView

variable {asked : List (String × Nat)} {a b : FileContext}

lemma of_subset (h : a.SameView asked b) {fewer : List (String × Nat)} (hsub : fewer ⊆ asked) :
    a.SameView fewer b :=
  { h with origin := fun module level hmem => h.origin module level (hsub hmem) }

lemma findingAt (h : a.SameView asked b) : a.findingAt = b.findingAt := by
  funext message offset args
  rw [FileContext.findingAt, FileContext.findingAt, h.lines]

end FileContext.SameView

lemma FileContext.sameView_ofSource {asked : List (String × Nat)} {env other : Environment}
    {p q : Path} (hname : p.fileName? = q.fileName?)
    (hrelative : p.relativeTo env.cwd = q.relativeTo other.cwd)
    (hmode : env.tree.mode? p = other.tree.mode? q)
    (horigin : ∀ module level, (module, level) ∈ asked →
      env.classify module level p = other.classify module level q)
    (source : String) (hasBom : Bool) :
    (FileContext.ofSource p source hasBom env).SameView asked
      (.ofSource q source hasBom other) where
  source := rfl
  hasBom := rfl
  lines := rfl
  isTestModule := by
    simp only [FileContext.ofSource, Path.isTestModule, Path.nameMatches, hname]
  isPackageInit := by
    simp only [FileContext.ofSource, Path.isPackageInit, Path.nameMatches, hname]
  relative := hrelative
  mode := hmode
  origin := horigin

/-- A rule that does the same in contexts of the same view. -/
def Rule.SeesView (rule : Rule) : Prop :=
  ∀ (a b : FileContext) (event : Event), a.SameView event.asked b →
    rule.watcher.step a event = rule.watcher.step b event

lemma Watcher.step_onEnter_congr {interests : List NodeKind}
    {check : FileContext → Scope → Node → List Finding} {a b : FileContext} {event : Event}
    (h : event.phase = .enter → check a event.scope event.node = check b event.scope event.node) :
    (onEnter interests check).step a event = (onEnter interests check).step b event := by
  obtain ⟨phase, node, scope⟩ := event
  cases phase with
  | enter => simp only [onEnter, h rfl]
  | leave => rfl

lemma ReplacedImports.seesView : ReplacedImports.rule.SeesView := by
  intro a b event h
  refine Watcher.step_onEnter_congr fun _ => ?_
  unfold check
  rw [h.isPackageInit, h.isTestModule, h.findingAt]

lemma UngatedImports.seesView (allowed : List String) : (UngatedImports.rule allowed).SeesView := by
  intro a b event h
  refine Watcher.step_onEnter_congr fun henter => ?_
  have hmodule : ∀ module level, (module, level) ∈ event.node.imported → ∀ start,
      checkModule allowed a event.scope start level module =
        checkModule allowed b event.scope start level module := by
    intro module level hmem start
    have hasked : (module, level) ∈ event.asked := by
      rw [Event.asked, henter]
      exact hmem
    simp only [checkModule, h.origin module level hasked, h.findingAt]
  cases hnode : event.node with
  | importNames start names =>
    rw [hnode] at hmodule
    exact List.flatMap_congr fun a ha => hmodule a.name 0 (List.mem_map_of_mem ha) start
  | importFrom start module names level =>
    rw [hnode] at hmodule
    exact hmodule _ level (List.mem_singleton_self _) start
  | _ => rfl

lemma OpenFiles.seesView : OpenFiles.rule.SeesView := by
  intro a b event h
  refine Watcher.step_onEnter_congr fun _ => ?_
  simp only [check, h.findingAt]

lemma MovedTestCases.seesView : MovedTestCases.rule.SeesView := by
  intro a b event h
  have hbase : checkBase a = checkBase b := by
    funext start base
    cases base <;> simp only [checkBase, h.findingAt]
  refine Watcher.step_onEnter_congr fun _ => ?_
  simp only [check, hbase, h.isTestModule, h.findingAt]

lemma Finalizers.seesView : Finalizers.rule.SeesView := by
  intro a b event h
  refine Watcher.step_onEnter_congr fun _ => ?_
  simp only [check, h.findingAt]

lemma FileMode.seesView (expected : Permission) (ignored : List Glob) :
    (FileMode.rule expected ignored).SeesView := by
  intro a b event h
  refine Watcher.step_onEnter_congr fun _ => ?_
  simp only [check, h.relative, h.mode]

lemma SourceEncoding.seesView : SourceEncoding.rule.SeesView := by
  intro a b event h
  refine Watcher.step_onEnter_congr fun _ => ?_
  simp only [check, h.source, h.hasBom]

lemma PatchedModules.checkTargets_congr {a b : FileContext} (h : a.findingAt = b.findingAt)
    (imports : Bindings) (targets : List Expr) :
    checkTargets a imports targets = checkTargets b imports targets := by
  refine checkTargets.induct imports
    (fun target => checkTarget a imports target = checkTarget b imports target)
    (fun targets => checkTargets a imports targets = checkTargets b imports targets)
    ?_ ?_ ?_ ?_ ?_ ?_ ?_ rfl ?_ targets
  case refine_6 =>
    intro span items ih
    rw [checkTarget, checkTarget, ih]
  case refine_7 =>
    intro target hsubscript hattribute htuple
    rw [checkTarget.eq_4 _ _ _ hsubscript hattribute htuple,
      checkTarget.eq_4 _ _ _ hsubscript hattribute htuple]
  case refine_8 =>
    intro target later htarget hlater
    rw [checkTargets, checkTargets, htarget, hlater]
  all_goals
    intros
    simp only [checkTarget, h]

lemma PatchedModules.seesView : PatchedModules.rule.SeesView := by
  intro a b event h
  funext (imports : Bindings)
  simp only [rule, enter, h.isTestModule, checkTargets_congr h.findingAt]

lemma ReplacedFunctions.seesView (listed : NameMap) : (ReplacedFunctions.rule listed).SeesView := by
  intro a b event h
  funext imports
  simp only [rule, enter, checkCall, h.findingAt]

lemma VirtualLogging.seesView : VirtualLogging.rule.SeesView := by
  intro a b event h
  have hstmt : checkStmt a = checkStmt b := by
    funext loggers s
    simp only [checkStmt, h.findingAt]
  funext loggers
  simp only [rule, enter, hstmt]

lemma StringFormatting.seesView (settings : StringSettings) :
    (StringFormatting.rule settings).SeesView := by
  intro a b event h
  funext state
  simp only [rule, enter, checkCall, checkBinOp, checkConstant, checkFormat, h.source, h.findingAt]

lemma seesView_of_buildRules {config : Config} {rules : List Rule}
    (h : buildRules config = .ok rules) : ∀ rule ∈ rules, rule.SeesView := by
  intro rule hr
  rcases cases_of_mem_buildRules h hr with
    rfl | rfl | rfl | rfl | rfl | rfl | rfl | rfl | rfl | ⟨expected, ignored, rfl⟩ | rfl
  · exact ReplacedImports.seesView
  · exact PatchedModules.seesView
  · exact UngatedImports.seesView _
  · exact OpenFiles.seesView
  · exact MovedTestCases.seesView
  · exact ReplacedFunctions.seesView _
  · exact Finalizers.seesView
  · exact VirtualLogging.seesView
  · exact StringFormatting.seesView _
  · exact FileMode.seesView _ _
  · exact SourceEncoding.seesView

/-! ### Walking under another path -/

/-- The same diagnostic about another file. -/
def Diagnostic.inFile (file : Path) (d : Diagnostic) : Diagnostic :=
  { d with file }

lemma Finding.report_inFile (config : Config) (file other : Path) (rule : String) (f : Finding) :
    f.report config other rule = (f.report config file rule).map (Diagnostic.inFile other) := by
  unfold Finding.report
  split <;> rfl

lemma ActiveRule.observe_of_sameView {a b : FileContext} {event : Event}
    (h : a.SameView event.asked b) (config : Config) {active : ActiveRule}
    (hs : active.rule.SeesView) :
    active.observe config b event =
      ((active.observe config a event).1,
        (active.observe config a event).2.map (Diagnostic.inFile b.path)) := by
  have hreport : Finding.report config b.path active.rule.name = fun f =>
      (f.report config a.path active.rule.name).map (Diagnostic.inFile b.path) := by
    funext f
    exact f.report_inFile config a.path b.path active.rule.name
  simp only [ActiveRule.observe, Watcher.observe, hs a b event h, hreport, List.map_filterMap]

lemma dispatch_of_sameView {a b : FileContext} {event : Event} (h : a.SameView event.asked b)
    (config : Config) {rules : List ActiveRule} (hs : ∀ active ∈ rules, active.rule.SeesView) :
    dispatch config b event rules =
      ((dispatch config a event rules).1,
        (dispatch config a event rules).2.map (Diagnostic.inFile b.path)) := by
  induction rules with
  | nil => rfl
  | cons active later ih =>
    obtain ⟨hactive, hlater⟩ := List.forall_mem_cons.mp hs
    rw [dispatch_cons, dispatch_cons, ih hlater, active.observe_of_sameView h config hactive,
      List.map_append]

/-- Walks of files with the same view report the same, each about its own file. -/
theorem dispatchAll_of_sameView {a b : FileContext} {events : List Event}
    (h : a.SameView (events.flatMap Event.asked) b) (config : Config) {rules : List ActiveRule}
    (hs : ∀ active ∈ rules, active.rule.SeesView) :
    (dispatchAll config b events rules).2 =
      (dispatchAll config a events rules).2.map (Diagnostic.inFile b.path) := by
  induction events generalizing rules with
  | nil => rfl
  | cons event later ih =>
    have hevent := h.of_subset (List.subset_append_left event.asked (later.flatMap Event.asked))
    have hlater := h.of_subset (List.subset_append_right event.asked (later.flatMap Event.asked))
    rw [dispatchAll_cons, dispatchAll_cons, dispatch_of_sameView hevent config hs,
      ih hlater (forall_mem_dispatch hs config a event), List.map_append]

namespace Linter

lemma beforeInFile_inFile (file : Path) (d e : Diagnostic) :
    beforeInFile (d.inFile file) (e.inFile file) = beforeInFile d e := rfl

/-- Checking a text under two paths that give the same view finds the same, each about its own
file. -/
theorem lintSource_of_sameView {linter other : Linter} {p q : Path} {source : String}
    (hconfig : linter.config = other.config) (hrules : linter.rules = other.rules)
    (hs : ∀ rule ∈ linter.rules, rule.SeesView)
    {parse : Parser}
    (h : ∀ body, parse (stripBom source).1 = some body →
      (FileContext.ofSource p (stripBom source).1 (stripBom source).2 linter.env).SameView
        ((eventsOfModule body).flatMap Event.asked)
        (.ofSource q (stripBom source).1 (stripBom source).2 other.env)) :
    (other.lintSource parse q source).toOption =
      (linter.lintSource parse p source).toOption.map (List.map (Diagnostic.inFile q)) := by
  cases hparse : parse (stripBom source).1 with
  | none => simp only [lintSource, hparse, Except.toOption, Option.map_none]
  | some body =>
    have hactive : ∀ active ∈ linter.rules.map Rule.activate, active.rule.SeesView := by
      intro active hactive
      obtain ⟨rule, hrule, rfl⟩ := List.mem_map.mp hactive
      exact hs rule hrule
    have hwalk := dispatchAll_of_sameView (h body hparse) linter.config hactive
    rw [lintSource_of_parse _ _ hparse, lintSource_of_parse _ _ hparse, ← hconfig, ← hrules,
      walkModule, walkModule, hwalk, List.filter_map]
    simp only [Except.toOption, Option.map_some]
    congr 1
    rw [List.map_mergeSort]
    · rfl
    · intro d _ e _
      exact (beforeInFile_inFile q d e).symm

end Linter

end SaltConventions
