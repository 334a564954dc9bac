import SaltConventions.Proofs.Wording

/-!
# Relative imports

The codes that start with `E94` ask to import a name from another place. A relative import stays
inside its package, so the table of replaced imports is not asked about it. The rule for moved test
cases reads the text of the module and not the dots before it: in a test module it takes an import
from `.tests.integration` for one from `tests.integration`. No other relative import is asked to
move.
-/

namespace SaltConventions

/-! ### What is reported at each event -/

/-- The events of a walk, each with what is reported at it. -/
def reportsAt (config : Config) (ctx : FileContext) :
    List Event → List ActiveRule → List (Event × List Diagnostic)
  | [], _ => []
  | event :: later, rules =>
    let (next, reported) := dispatch config ctx event rules
    (event, reported) :: reportsAt config ctx later next

lemma map_fst_reportsAt (config : Config) (ctx : FileContext) (events : List Event)
    (rules : List ActiveRule) : (reportsAt config ctx events rules).map Prod.fst = events := by
  induction events generalizing rules with
  | nil => rfl
  | cons event later ih => rw [reportsAt, List.map_cons, ih]

lemma flatMap_snd_reportsAt (config : Config) (ctx : FileContext) (events : List Event)
    (rules : List ActiveRule) :
    (reportsAt config ctx events rules).flatMap Prod.snd =
      (dispatchAll config ctx events rules).2 := by
  induction events generalizing rules with
  | nil => rfl
  | cons event later ih => rw [reportsAt, List.flatMap_cons, ih, dispatchAll_cons]

lemma exists_finding_of_mem_reportsAt {config : Config} {ctx : FileContext} {events : List Event}
    {rules : List ActiveRule} {event : Event} {found : List Diagnostic}
    (h : (event, found) ∈ reportsAt config ctx events rules) {d : Diagnostic} (hd : d ∈ found) :
    ∃ active ∈ rules, ∃ s : active.rule.State,
      ∃ f ∈ (active.rule.watcher.observe ctx event s).2,
        f.report config ctx.path active.rule.name = some d := by
  induction events generalizing rules with
  | nil => cases h
  | cons first later ih =>
    rw [reportsAt] at h
    rcases List.mem_cons.mp h with h | h
    · obtain ⟨rfl, rfl⟩ := Prod.mk.inj h
      obtain ⟨active, hactive, hd⟩ := List.mem_flatMap.mp hd
      obtain ⟨before, hbefore, rfl⟩ := List.mem_map.mp hactive
      obtain ⟨f, hf, hreport⟩ := List.mem_filterMap.mp hd
      exact ⟨before, hbefore, before.state, f, hf, hreport⟩
    · obtain ⟨active, hactive, s, f, hf, hreport⟩ := ih h
      -- Between two events the rules change their states and nothing else.
      obtain ⟨result, hresult, rfl⟩ := List.mem_map.mp hactive
      obtain ⟨before, hbefore, rfl⟩ := List.mem_map.mp hresult
      exact ⟨before, hbefore, s, f, hf, hreport⟩

/-! ### Codes that ask for another import -/

/-- Whether a code asks to import a name from another place. -/
def asksToMove (code : String) : Bool :=
  "E94".toList.isPrefixOf code.toList

/-- Only two rules have messages that ask for another import. -/
lemma eq_of_asksToMove {config : Config} {rules : List Rule} (h : buildRules config = .ok rules)
    {rule : Rule} (hr : rule ∈ rules) {m : Message} (hm : m ∈ rule.messages)
    (hcode : asksToMove m.code = true) :
    rule = ReplacedImports.rule ∨ rule = MovedTestCases.rule := by
  have hother : ∀ messages : List Message, (∀ m ∈ messages, asksToMove m.code = false) →
      m ∉ messages := by
    intro messages hmessages hm
    rw [hmessages m hm] at hcode
    cases hcode
  rcases cases_of_mem_buildRules h hr with
    rfl | rfl | rfl | rfl | rfl | rfl | rfl | rfl | rfl | ⟨expected, ignored, rfl⟩ | rfl
  · exact .inl rfl
  · exact absurd hm (hother PatchedModules.messages (by decide))
  · exact absurd hm (hother UngatedImports.messages (by decide))
  · exact absurd hm (hother OpenFiles.rule.messages (by decide))
  · exact .inr rfl
  · exact absurd hm (hother [ReplacedFunctions.replacedFunction] (by decide))
  · exact absurd hm (hother Finalizers.rule.messages (by decide))
  · exact absurd hm (hother VirtualLogging.rule.messages (by decide))
  · exact absurd hm (hother StringFormatting.messages (by decide))
  · exact absurd hm (hother [FileMode.wrongMode] (by decide))
  · exact absurd hm (hother SourceEncoding.messages (by decide))

/-! ### What the two rules find about a relative import -/

lemma Watcher.mem_of_mem_observe_onEnter {kinds : List NodeKind}
    {check : FileContext → Scope → Node → List Finding} {ctx : FileContext} {event : Event}
    {s : Unit} {f : Finding} (h : f ∈ ((onEnter kinds check).observe ctx event s).2) :
    f ∈ check ctx event.scope event.node := by
  unfold observe at h
  split at h
  · obtain ⟨phase, node, scope⟩ := event
    cases phase with
    | enter => exact h
    | leave => cases h
  · cases h

lemma ReplacedImports.check_relative (ctx : FileContext) (scope : Scope) (start : Nat)
    (module : Option String) (names : List Alias) {level : Nat} (h : 0 < level) :
    check ctx scope (.importFrom start module names level) = [] := by
  cases level with
  | zero => exact absurd h (Nat.lt_irrefl 0)
  | succ n =>
    unfold check
    split
    · rfl
    · cases module <;> rfl

/-- A diagnostic takes an import for one of a moved test case: in a test module, and for a class that
moved from below `tests.integration`. -/
structure TakenForMoved (path : Path) (module : Option String) (names : List Alias)
    (d : Diagnostic) : Prop where
  code : d.code = "E9490"
  isTestModule : path.isTestModule = true
  place : ∃ text, module = some text ∧ isWithin text "tests.integration" = true
  moved : ∃ a ∈ names, a.name ∈ MovedTestCases.caseClasses ∧
    d.args = [MovedTestCases.importAdvice a]

lemma MovedTestCases.takenForMoved {ctx : FileContext} {scope : Scope} {start : Nat}
    {module : Option String} {names : List Alias} {level : Nat} {f : Finding}
    (hf : f ∈ check ctx scope (.importFrom start module names level)) (file : Path)
    (rule : String) : TakenForMoved ctx.path module names (f.diagnostic file rule) := by
  cases module with
  | none => cases hf
  | some text =>
    rw [check] at hf
    split at hf
    next h =>
      obtain ⟨htest, hwithin⟩ := Bool.and_eq_true_iff.mp h
      obtain ⟨a, ha, rfl⟩ := List.mem_map.mp hf
      obtain ⟨ha, hclass⟩ := List.mem_filter.mp ha
      exact ⟨rfl, htest, ⟨text, rfl, hwithin⟩, a, ha, List.contains_iff_mem.mp hclass, rfl⟩
    next => cases hf

/-- At a relative import nothing asks to import from another place, but for a test case class from
`tests.integration` in a test module. -/
theorem relativeImports_not_moved {config : Config} {rules : List Rule}
    (hrules : buildRules config = .ok rules) (path : Path) (source : String) (hasBom : Bool)
    (env : Environment) (body : List Stmt) :
    let ctx := FileContext.ofSource path source hasBom env
    let reports := reportsAt config ctx (eventsOfModule body) (rules.map Rule.activate)
    reports.map Prod.fst = eventsOfModule body ∧
    reports.flatMap Prod.snd = (walkModule config ctx body (rules.map Rule.activate)).2 ∧
    ∀ event found start module names level, (event, found) ∈ reports →
      event.node = .importFrom start module names level → 0 < level →
      ∀ d ∈ found, asksToMove d.code = true → TakenForMoved path module names d := by
  intro ctx reports
  refine ⟨map_fst_reportsAt _ _ _ _, flatMap_snd_reportsAt _ _ _ _, ?_⟩
  intro event found start module names level hreports hnode hlevel d hd hmove
  obtain ⟨active, hactive, s, f, hf, hreport⟩ := exists_finding_of_mem_reportsAt hreports hd
  obtain ⟨-, rfl⟩ := Finding.report_eq_some_iff.mp hreport
  obtain ⟨rule, hrule, rfl⟩ := List.mem_map.mp hactive
  have hfits := Rule.fits_of_mem_observe (keepsToMessages_of_buildRules hrules hrule)
    (quietOnLeave_of_buildRules hrules hrule)
    (FileContext.numbered_ofSource path source hasBom env) hf
  rcases eq_of_asksToMove hrules hrule hfits.declared hmove with rfl | rfl
  · have hcheck := Watcher.mem_of_mem_observe_onEnter hf
    rw [hnode, ReplacedImports.check_relative _ _ _ _ _ hlevel] at hcheck
    cases hcheck
  · have hcheck := Watcher.mem_of_mem_observe_onEnter hf
    rw [hnode] at hcheck
    exact MovedTestCases.takenForMoved hcheck _ _

/-- Relative imports of names that would have to move if they were absolute. -/
def dottedImports : List Stmt :=
  [.importFrom ⟨0, 25⟩ (some "unit") [⟨"helpers", none⟩] 1,
    .importFrom ⟨26, 44⟩ none [⟨"mock", none⟩] 1,
    .importFrom ⟨45, 106⟩ (some "tests.integration.shell")
      [⟨"ShellCase", some "Case"⟩, ⟨"run_tests", none⟩] 2]

theorem relativeImports_not_moved_of_dottedImports :
    let ctx := FileContext.alone ⟨"tests/test_shell.py"⟩
      "from .unit import helpers\nfrom . import mock\n"
    let reports := reportsAt .standard ctx (eventsOfModule dottedImports)
      (standardRules.map Rule.activate)
    buildRules .standard = .ok standardRules ∧
    reports.map (fun r => (r.2.filter fun d => asksToMove d.code).map Diagnostic.args) =
      [[], [], [], [], [],
        [["Please use 'from tests.support.case import ShellCase as Case'"]], [], []] ∧
    ∀ event found start module names level, (event, found) ∈ reports →
      event.node = .importFrom start module names level → 0 < level →
      ∀ d ∈ found, asksToMove d.code = true →
        TakenForMoved ⟨"tests/test_shell.py"⟩ module names d := by
  intro ctx reports
  obtain ⟨-, -, hmoved⟩ := relativeImports_not_moved buildRules_standard ⟨"tests/test_shell.py"⟩ _
    false _ dottedImports
  exact ⟨buildRules_standard, by decide +kernel, hmoved⟩

theorem relativeImport_taken_for_moved :
    let ctx := FileContext.alone ⟨"test_minion.py"⟩ "from .tests.integration import ModuleCase\n"
    let body := [Stmt.importFrom ⟨0, 41⟩ (some "tests.integration") [⟨"ModuleCase", none⟩] 1]
    ∃ r ∈ reportsAt .standard ctx (eventsOfModule body) (standardRules.map Rule.activate),
      r.1.node = .importFrom 0 (some "tests.integration") [⟨"ModuleCase", none⟩] 1 ∧
      ∃ d ∈ r.2, d.code = "E9490" ∧ asksToMove d.code = true := by
  intro ctx body
  refine ⟨_, List.mem_cons_of_mem _ List.mem_cons_self, rfl, ?_⟩
  decide +kernel

end SaltConventions
