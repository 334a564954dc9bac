import SaltConventions.Proofs.ImportAdvice
import SaltConventions.Proofs.RuleDiagnostics

/-!
# Names imported from replaced modules

The rule for replaced imports reports each name that is imported from a replaced module, once and in
the order of the source, and nothing else. A package initializer may import anything, and its name
is never that of a test module.
-/

namespace SaltConventions

/-! ### File names -/

lemma Glob.head?_of_accepts {c : Char} {later : List Glob.Token} {text : String}
    (h : Glob.accepts ⟨.literal c :: later⟩ text = true) : text.toList.head? = some c := by
  simp only [Glob.accepts, Glob.matchRests, Glob.afterToken] at h
  cases htext : text.toList with
  | nil => simp [htext, Glob.afterChar] at h
  | cons d rest =>
    rw [htext] at h
    cases hrests : Glob.matchRests later (d :: rest) with
    | nil => simp [hrests, Glob.afterChar] at h
    | cons here after =>
      have hdc : d = c := by
        by_contra hne
        simp [hrests, Glob.afterChar, Glob.Token.admits, hne] at h
      rw [hdc]
      rfl

/-- Initializers start with another character than test modules. -/
lemma Path.not_isTestModule_of_isPackageInit {p : Path} (h : p.isPackageInit = true) :
    p.isTestModule = false := by
  obtain ⟨initLater, hinit⟩ : ∃ later, Glob.parse? "__init__.py*" = some ⟨.literal '_' :: later⟩ :=
    ⟨_, rfl⟩
  obtain ⟨testLater, htest⟩ : ∃ later, Glob.parse? "test_*.py*" = some ⟨.literal 't' :: later⟩ :=
    ⟨_, rfl⟩
  rw [isPackageInit, nameMatches, hinit] at h
  have hfirst := Glob.head?_of_accepts h
  rw [isTestModule, nameMatches, htest, Bool.eq_false_iff]
  intro hboth
  rw [Glob.head?_of_accepts hboth] at hfirst
  cases hfirst

namespace ReplacedImports

/-! ### Advice for several names -/

theorem adviceForFrom_eq_flatMap (module : String) (names : List Alias) :
    adviceForFrom module names = names.flatMap fun a => adviceForFrom module [a] := by
  unfold adviceForFrom
  cases rootOf? module with
  | none => simp
  | some root =>
    dsimp only
    induction names with
    | nil => rfl
    | cons a later ih =>
      rw [List.flatMap_cons, ← ih, ← List.filterMap_append]
      rfl

lemma adviceForFrom_of_not_replaced {module : String} (h : ¬Replaced module) (names : List Alias) :
    adviceForFrom module names = [] := by
  have hroot : rootOf? module = none := by
    rw [← Option.not_isSome_iff_eq_none, isSome_rootOf?_iff]
    exact h
  simp [adviceForFrom, hroot]

lemma exists_adviceForFrom {module : String} (h : Replaced module) (a : Alias) :
    ∃ advice, adviceForFrom module [a] = [advice] := by
  obtain ⟨root, hroot⟩ := Option.isSome_iff_exists.mp (isSome_rootOf?_iff.mpr h)
  obtain ⟨row, hrow, -⟩ := exists_row module root a.name
  exact ⟨_, adviceForFrom_of_row hroot hrow⟩

theorem forall₂_adviceForFrom {module : String} (h : Replaced module) (names : List Alias) :
    List.Forall₂ (fun a advice => adviceForFrom module [a] = [advice]) names
      (adviceForFrom module names) := by
  rw [adviceForFrom_eq_flatMap]
  induction names with
  | nil => exact .nil
  | cons a later ih =>
    obtain ⟨advice, hadvice⟩ := exists_adviceForFrom h a
    rw [List.flatMap_cons, hadvice]
    exact .cons hadvice ih

lemma isSome_adviceForImport?_iff {module : String} :
    (adviceForImport? module).isSome = true ↔ Replaced module := by
  rw [← isSome_rootOf?_iff, adviceForImport?]
  cases rootOf? module with
  | none => simp
  | some root =>
    -- The last row is about every root.
    have hlast : (importRows.find? fun row => row.root.all (· == root)).isSome = true := by
      rw [List.find?_isSome]
      exact ⟨_, List.mem_of_getLast? rfl, rfl⟩
    simp [hlast]

end ReplacedImports

/-! ### Imported names and what is found about them -/

/-- A name that a statement imports: where the statement starts, the module, and the name if it is
imported from the module and not the module as a whole. -/
structure ImportedName where
  start : Nat
  module : String
  member : Option Alias

/-- The names that a statement imports: those of `import a, b`, and those of `from a import b, c`
without dots before the module. -/
def Part.importedNames : Part → List ImportedName
  | stmt (.importNames span names) => names.map fun a => ⟨span.start, a.name, none⟩
  | stmt (.importFrom span (some base) names 0) =>
    names.map fun a => ⟨span.start, base, some a⟩
  | _ => []

def Node.importedNames : Node → List ImportedName
  | importNames start names => names.map fun a => ⟨start, a.name, none⟩
  | importFrom start (some base) names 0 => names.map fun a => ⟨start, base, some a⟩
  | _ => []

lemma Part.importedNames_of_node? {p : Part} {inClass : Bool} {node : Node}
    (h : p.node? inClass = some node) : node.importedNames = p.importedNames := by
  cases node?_eq_some_iff.mp h with
  | importFrom span base names level => cases base <;> cases level <;> rfl
  | _ => rfl

namespace ImportedName

open ReplacedImports (Advice Replaced adviceForFrom adviceForImport?)

def advice? (name : ImportedName) : Option Advice :=
  match name.member with
  | none => adviceForImport? name.module
  | some a => (adviceForFrom name.module [a]).head?

lemma isSome_advice?_iff {name : ImportedName} :
    name.advice?.isSome = true ↔ Replaced name.module := by
  obtain ⟨start, module, member⟩ := name
  cases member with
  | none => exact ReplacedImports.isSome_adviceForImport?_iff
  | some a =>
    by_cases h : Replaced module
    · obtain ⟨advice, hadvice⟩ := ReplacedImports.exists_adviceForFrom h a
      simp [advice?, hadvice, h]
    · simp [advice?, ReplacedImports.adviceForFrom_of_not_replaced h, h]

def finding? (ctx : FileContext) (name : ImportedName) : Option Finding :=
  name.advice?.map fun advice => ctx.findingAt advice.message name.start advice.args

/-- A diagnostic reports an imported name: with the advice for it, at the line of the statement. -/
structure ReportedBy (ctx : FileContext) (name : ImportedName) (d : Diagnostic) : Prop where
  advice : ∃ advice, name.advice? = some advice ∧ d.code = advice.message.code ∧
    d.args = advice.args
  rule : d.rule = "blacklisted-imports"
  file : d.file = ctx.path
  line : d.line = ctx.lines.lineAt name.start

lemma reportedBy_diagnostic {ctx : FileContext} {name : ImportedName} {f : Finding}
    (h : name.finding? ctx = some f) :
    name.ReportedBy ctx (f.diagnostic ctx.path "blacklisted-imports") := by
  obtain ⟨advice, hadvice, rfl⟩ := Option.map_eq_some_iff.mp h
  exact ⟨⟨advice, hadvice, rfl, rfl⟩, rfl, rfl, rfl⟩

end ImportedName

namespace ReplacedImports

lemma map_adviceForFrom (ctx : FileContext) (start : Nat) (module : String) (names : List Alias) :
    (adviceForFrom module names).map
        (fun advice => ctx.findingAt advice.message start advice.args) =
      names.filterMap fun a => ImportedName.finding? ctx ⟨start, module, some a⟩ := by
  rw [adviceForFrom_eq_flatMap, List.map_flatMap, List.filterMap_eq_flatMap_toList]
  congr 1
  funext a
  by_cases h : Replaced module
  · obtain ⟨advice, hadvice⟩ := exists_adviceForFrom h a
    simp [ImportedName.finding?, ImportedName.advice?, hadvice]
  · simp [ImportedName.finding?, ImportedName.advice?, adviceForFrom_of_not_replaced h]

lemma check_eq_filterMap {ctx : FileContext} (hpath : ctx.path.isPackageInit = false)
    (scope : Scope) (node : Node) :
    check ctx scope node = node.importedNames.filterMap (ImportedName.finding? ctx) := by
  unfold check
  rw [hpath, Bool.false_and, if_neg Bool.false_ne_true]
  cases node
  case importNames start names =>
    simp only [Node.importedNames, List.filterMap_map, List.map_filterMap]
    rfl
  case importFrom start base names level =>
    cases base with
    | none => rfl
    | some module =>
      cases level with
      | zero =>
        simp only [Node.importedNames, map_adviceForFrom, List.filterMap_map]
        rfl
      | succ dots => rfl
  all_goals rfl

lemma check_of_isPackageInit {ctx : FileContext} (hpath : ctx.path.isPackageInit = true)
    (scope : Scope) (node : Node) : check ctx scope node = [] := by
  have hexempt : (ctx.path.isPackageInit && !ctx.path.isTestModule) = true := by
    rw [hpath, Path.not_isTestModule_of_isPackageInit hpath]
    rfl
  unfold check
  rw [if_pos hexempt]

end ReplacedImports

/-! ### What a walk reports -/

def importedNamesOf (body : List Stmt) : List ImportedName :=
  ((Part.module body).statements Stmt.isImport).flatMap fun o => o.part.importedNames

lemma run_replacedImports {ctx : FileContext} (hpath : ctx.path.isPackageInit = false)
    (body : List Stmt) :
    (ReplacedImports.rule.watcher.run ctx (eventsOfModule body) ReplacedImports.rule.initial).2 =
      (importedNamesOf body).filterMap (ImportedName.finding? ctx) := by
  have hcheck : ∀ (o : Occurrence) (e : Event), o.ShownBy e →
      ReplacedImports.check ctx e.scope e.node =
        o.part.importedNames.filterMap (ImportedName.finding? ctx) := by
    intro o e h
    rw [ReplacedImports.check_eq_filterMap hpath, Part.importedNames_of_node? h.1]
  have hshown := shown_statements picks_isImport (by decide) body
  rw [importedNamesOf, List.filterMap_flatMap]
  exact (Watcher.run_onEnter _ _ _ _).trans
    (flatMap_eq_of_forall₂ hshown fun o e h => (hcheck o e h).symm).symm

theorem reportedUnder_replacedImports {config : Config} {rules : List Rule}
    (hrules : buildRules config = .ok rules) (hoff : config.disable = []) (ctx : FileContext)
    (body : List Stmt) :
    reportedUnder "blacklisted-imports" (walkModule config ctx body (rules.map Rule.activate)).2 =
      if ctx.path.isPackageInit then []
      else ((importedNamesOf body).filterMap (ImportedName.finding? ctx)).map
        (Finding.diagnostic ctx.path "blacklisted-imports") := by
  have hr : ReplacedImports.rule ∈ rules := by
    obtain ⟨expected, ignored, -, rfl⟩ := buildRules_eq_ok_iff.mp hrules
    simp [rulesWith]
  have hreported := reportedUnder_walkModule hrules hr ctx body
  rw [filterMap_report hoff] at hreported
  refine hreported.trans ?_
  by_cases hpath : ctx.path.isPackageInit = true
  · have hnone : (ReplacedImports.rule.watcher.run ctx (eventsOfModule body)
        ReplacedImports.rule.initial).2 = [] := by
      refine (Watcher.run_onEnter _ _ _ _).trans (List.flatMap_eq_nil_iff.mpr ?_)
      intro e _
      exact ReplacedImports.check_of_isPackageInit hpath e.scope e.node
    rw [if_pos hpath, hnone]
    rfl
  · rw [if_neg hpath, run_replacedImports (by simpa using hpath)]
    rfl

open ReplacedImports in
/-- Outside package initializers each imported name of a replaced module is reported in the order of
the source, with the advice for this name. -/
theorem replacedImports_reported_exactly {config : Config} {rules : List Rule}
    (hrules : buildRules config = .ok rules) (hoff : config.disable = []) (ctx : FileContext)
    (body : List Stmt) :
    let reported := reportedUnder "blacklisted-imports"
      (walkModule config ctx body (rules.map Rule.activate)).2
    (∀ p : Path, p.isPackageInit = true → p.isTestModule = false) ∧
    (ctx.path.isPackageInit = true → reported = []) ∧
    (ctx.path.isPackageInit = false → ∃ imports : List Occurrence,
      (Part.module body).StatementsInOrder Stmt.isImport imports ∧
      List.Forall₂ (ImportedName.ReportedBy ctx)
        ((imports.flatMap fun o => o.part.importedNames).filter fun name => Replaced name.module)
        reported) ∧
    (∀ module root, rootOf? module = some root ↔
      root ∈ replacedRoots ∧ dottedParts root <+: dottedParts module) ∧
    (∀ module names,
      adviceForFrom module names = names.flatMap fun a => adviceForFrom module [a]) ∧
    (∀ module names, (adviceForFrom module names).length =
      if Replaced module then names.length else 0) := by
  intro reported
  have hreported : reported = _ := reportedUnder_replacedImports hrules hoff ctx body
  refine ⟨fun _ => Path.not_isTestModule_of_isPackageInit, ?_, ?_, ?_, adviceForFrom_eq_flatMap, ?_⟩
  · intro hpath
    rw [hreported, if_pos hpath]
  · intro hpath
    refine ⟨(Part.module body).statements Stmt.isImport,
      (Part.module body).statementsInOrder picks_isImport, ?_⟩
    rw [hreported, hpath, if_neg Bool.false_ne_true, List.forall₂_map_right_iff]
    have hkept : (fun name : ImportedName => decide (Replaced name.module)) =
        fun name => (name.finding? ctx).isSome := by
      funext name
      rw [ImportedName.finding?, Option.isSome_map, Bool.eq_iff_iff, decide_eq_true_iff,
        ImportedName.isSome_advice?_iff]
    rw [hkept]
    exact (forall₂_filterMap (ImportedName.finding? ctx) (importedNamesOf body)).imp
      fun _ _ => ImportedName.reportedBy_diagnostic
  · exact fun module root => rootOf?_eq_some_iff
  · intro module names
    split
    case isTrue h => exact (forall₂_adviceForFrom h names).length_eq.symm
    case isFalse h => rw [adviceForFrom_of_not_replaced h, List.length_nil]

/-- Imports of replaced modules, whole and by names, next to a module whose name only starts like a
replaced one and to a module of the package itself. -/
def replacedAndKept : List Stmt :=
  [.importNames ⟨0, 25⟩ [⟨"six.moves", none⟩, ⟨"sixteen", none⟩, ⟨"unittest", none⟩],
    .functionDef ⟨26, 90⟩ false "setUp" []
      [.importFrom ⟨45, 90⟩ (some "mock") [⟨"patch", none⟩, ⟨"call", some "c"⟩] 0] [],
    .importFrom ⟨91, 115⟩ (some "units") [⟨"TestCase", none⟩] 0,
    .importFrom ⟨116, 140⟩ (some "mock") [⟨"patch", none⟩] 1,
    .importFrom ⟨141, 190⟩ (some "integration.modules") [⟨"run_tests", none⟩, ⟨"helper", none⟩] 0]

open ReplacedImports in
theorem replacedImports_reported_of_replacedAndKept :
    let tree : FileTree := ⟨[], []⟩
    let ctx := FileContext.ofSource ⟨"minion.py"⟩ "" false ⟨tree, ⟨""⟩, ⟨[]⟩, .ofRoots tree []⟩
    let reported := reportedUnder "blacklisted-imports"
      (walkModule .standard ctx replacedAndKept (standardRules.map Rule.activate)).2
    buildRules .standard = .ok standardRules ∧ Config.standard.disable = [] ∧
    ctx.path.isPackageInit = false ∧
    (∃ imports : List Occurrence,
      (Part.module replacedAndKept).StatementsInOrder Stmt.isImport imports ∧
      List.Forall₂ (ImportedName.ReportedBy ctx)
        ((imports.flatMap fun o => o.part.importedNames).filter fun name => Replaced name.module)
        reported) ∧
    reported.map Diagnostic.code = ["E9405", "E9404", "E9403", "E9403", "E9406", "E9404"] := by
  intro tree ctx reported
  have hpath : ctx.path.isPackageInit = false := by decide +kernel
  obtain ⟨-, -, hreported, -⟩ :=
    replacedImports_reported_exactly buildRules_standard rfl ctx replacedAndKept
  exact ⟨buildRules_standard, rfl, hpath, hreported hpath, by decide +kernel⟩

/-- Names of a module that is not replaced get no advice. -/
theorem adviceForFrom_shorter_than_names :
    ¬∀ (module : String) (names : List Alias),
      (ReplacedImports.adviceForFrom module names).length = names.length := by
  intro h
  have hpath := h "os" [⟨"path", none⟩]
  rw [ReplacedImports.adviceForFrom_of_not_replaced (by decide +kernel)] at hpath
  cases hpath

end SaltConventions
