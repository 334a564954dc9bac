import SaltConventions.Proofs.RuleDiagnostics

/-!
# Imports outside a gate

The third-party imports of a module that are reported, told from the syntax tree: for each import
statement, wherever it stands, which `try`, `if` and function bodies hold it decides whether and how
it is reported.
-/

namespace SaltConventions

/-! ### Imported modules and where they are imported -/

/-- A module that is imported: what holds the statement, where the statement starts, the module, and
the number of dots before it. -/
structure ImportSite where
  holders : List (Part × Role)
  start : Nat
  module : String
  level : Nat

/-- The modules that a statement imports: one for each name of `import a, b`, one for
`from a import b, c`. -/
def Occurrence.importSites (o : Occurrence) : List ImportSite :=
  match o.part with
  | .stmt (.importNames span names) => names.map fun a => ⟨o.holders, span.start, a.name, 0⟩
  | .stmt (.importFrom span module _ level) => [⟨o.holders, span.start, module.getD "", level⟩]
  | _ => []

namespace ImportSite

/-- A third-party module that is not allowed, imported outside every `try` with a handler. -/
structure Ungated (allowed : List String) (ctx : FileContext) (site : ImportSite) : Prop where
  thirdParty : ctx.env.classify site.module site.level ctx.path = .thirdParty
  noTry : ¬Enclosed site.holders .tryExcept
  notAllowed : topLevel site.module ∉ allowed

lemma ungated_iff {allowed : List String} {ctx : FileContext} {site : ImportSite} :
    site.Ungated allowed ctx ↔ ctx.env.classify site.module site.level ctx.path = .thirdParty ∧
      ¬Enclosed site.holders .tryExcept ∧ topLevel site.module ∉ allowed :=
  ⟨fun h => ⟨h.1, h.2, h.3⟩, fun h => ⟨h.1, h.2.1, h.2.2⟩⟩

instance (allowed : List String) (ctx : FileContext) :
    DecidablePred (Ungated allowed ctx) :=
  fun _ => decidable_of_iff _ ungated_iff.symm

/-- Imported inside an `if` or a function body. -/
def Local (site : ImportSite) : Prop :=
  Enclosed site.holders .ifElse ∨ Enclosed site.holders .function

instance : DecidablePred Local :=
  fun site => inferInstanceAs
    (Decidable (Enclosed site.holders .ifElse ∨ Enclosed site.holders .function))

/-- What is found about an imported module that is not gated. -/
def finding (ctx : FileContext) (site : ImportSite) : Finding :=
  ctx.findingAt (if site.Local then UngatedImports.localNotGated else UngatedImports.notGated)
    site.start [site.module]

/-- A diagnostic reports an imported module. -/
structure ReportedBy (ctx : FileContext) (site : ImportSite) (d : Diagnostic) : Prop where
  code : d.code = if site.Local then "C8410" else "W8410"
  rule : d.rule = "3rd-party-imports"
  file : d.file = ctx.path
  line : d.line = ctx.lines.lineAt site.start
  args : d.args = [site.module]

lemma reportedBy_diagnostic (ctx : FileContext) (site : ImportSite) :
    site.ReportedBy ctx ((site.finding ctx).diagnostic ctx.path "3rd-party-imports") where
  code := by
    simp only [finding, FileContext.findingAt, Finding.diagnostic]
    split <;> rfl
  rule := rfl
  file := rfl
  line := rfl
  args := rfl

lemma ungated_append {allowed more : List String} {ctx : FileContext} {site : ImportSite} :
    site.Ungated (allowed ++ more) ctx ↔
      site.Ungated allowed ctx ∧ topLevel site.module ∉ more := by
  simp only [ungated_iff, List.mem_append, not_or, and_assoc]

end ImportSite

/-! ### What the rule finds -/

namespace UngatedImports

lemma checkModule_eq {allowed : List String} {ctx : FileContext} {scope : Scope} (site : ImportSite)
    (hscope : ∀ c, scope.inside c = true ↔ Enclosed site.holders c) :
    checkModule allowed ctx scope site.start site.level site.module =
      if site.Ungated allowed ctx then [site.finding ctx] else [] := by
  have htry : scope.insideTry = true ↔ Enclosed site.holders .tryExcept := hscope .tryExcept
  have hlocal : (scope.insideIf || scope.insideFunction) = true ↔ site.Local := by
    rw [Bool.or_eq_true]
    exact or_congr (hscope .ifElse) (hscope .function)
  have hverdict : (ctx.env.classify site.module site.level ctx.path != .thirdParty ||
      scope.insideTry || allowed.contains (topLevel site.module)) = true ↔
        ¬site.Ungated allowed ctx := by
    simp only [ImportSite.ungated_iff, ← htry, Bool.or_eq_true, bne_iff_ne, List.contains_iff_mem]
    tauto
  unfold checkModule verdict
  by_cases hu : site.Ungated allowed ctx
  · rw [if_neg (fun h => hverdict.mp h hu), if_pos hu]
    by_cases hl : site.Local
    · simp only [if_pos (hlocal.mpr hl), ImportSite.finding, if_pos hl]
    · simp only [if_neg (fun h => hl (hlocal.mp h)), ImportSite.finding, if_neg hl]
  · rw [if_pos (hverdict.mpr hu), if_neg hu]

lemma flatMap_ite_singleton {α β : Type} (xs : List α) (p : α → Prop) [DecidablePred p]
    (f : α → β) :
    (xs.flatMap fun x => if p x then [f x] else []) = (xs.filter p).map f := by
  induction xs with
  | nil => rfl
  | cons x later ih =>
    rw [List.flatMap_cons, ih, List.filter_cons]
    by_cases hx : p x <;> simp [hx]

lemma check_eq {allowed : List String} {ctx : FileContext} {o : Occurrence} {e : Event}
    (h : o.ShownBy e) :
    check allowed ctx e.scope e.node =
      (o.importSites.filter (ImportSite.Ungated allowed ctx)).map (ImportSite.finding ctx) := by
  have hshows := h.shows
  have hscope := h.2
  obtain ⟨address, holders, part⟩ := o
  obtain ⟨phase, node, scope⟩ := e
  have hmodule : ∀ start level module, checkModule allowed ctx scope start level module =
      if ImportSite.Ungated allowed ctx ⟨holders, start, module, level⟩
      then [ImportSite.finding ctx ⟨holders, start, module, level⟩] else [] := by
    intro start level module
    exact checkModule_eq ⟨holders, start, module, level⟩ hscope
  rw [← flatMap_ite_singleton]
  cases hshows with
  | importNames | importFrom =>
    simp [check, Occurrence.importSites, hmodule, List.flatMap_map]
  | _ => rfl

end UngatedImports

def importSitesOf (body : List Stmt) : List ImportSite :=
  ((Part.module body).statements Stmt.isImport).flatMap Occurrence.importSites

theorem reportedUnder_ungated {config : Config} {rules : List Rule}
    (hrules : buildRules config = .ok rules) (hoff : config.disable = []) (ctx : FileContext)
    (body : List Stmt) :
    reportedUnder "3rd-party-imports" (walkModule config ctx body (rules.map Rule.activate)).2 =
      ((importSitesOf body).filter (ImportSite.Ungated config.allowedModules ctx)).map
        fun site => (site.finding ctx).diagnostic ctx.path "3rd-party-imports" := by
  have hr : UngatedImports.rule config.allowedModules ∈ rules := by
    obtain ⟨expected, ignored, -, rfl⟩ := buildRules_eq_ok_iff.mp hrules
    simp [rulesWith]
  have hfound : ((UngatedImports.rule config.allowedModules).watcher.run ctx (eventsOfModule body)
      (UngatedImports.rule config.allowedModules).initial).2 =
        ((importSitesOf body).filter (ImportSite.Ungated config.allowedModules ctx)).map
          (ImportSite.finding ctx) := by
    have hshown := shown_statements picks_isImport (by decide) body
    rw [importSitesOf, List.filter_flatMap, List.map_flatMap]
    exact (Watcher.run_onEnter _ _ _ _).trans
      (flatMap_eq_of_forall₂ hshown fun _ _ h => (UngatedImports.check_eq h).symm).symm
  have hreported := reportedUnder_walkModule hrules hr ctx body
  rw [hfound, filterMap_report hoff, List.map_map] at hreported
  exact hreported

def Config.allowing (config : Config) (more : List String) : Config :=
  { config with allowedModules := config.allowedModules ++ more }

lemma reportedUnder_allowing {config : Config} {rules : List Rule}
    (hrules : buildRules config = .ok rules) (hoff : config.disable = []) (ctx : FileContext)
    (body : List Stmt) (more : List String) :
    ∃ wider, buildRules (config.allowing more) = .ok wider ∧
      reportedUnder "3rd-party-imports"
          (walkModule (config.allowing more) ctx body (wider.map Rule.activate)).2 =
        (reportedUnder "3rd-party-imports"
          (walkModule config ctx body (rules.map Rule.activate)).2).filter
            fun d => d.args.all fun module => !more.contains (topLevel module) := by
  obtain ⟨expected, ignored, hread, -⟩ := buildRules_eq_ok_iff.mp hrules
  have hwider : buildRules (config.allowing more) =
      .ok (rulesWith (config.allowing more) expected ignored) :=
    buildRules_eq_ok_iff.mpr ⟨expected, ignored, hread, rfl⟩
  refine ⟨_, hwider, ?_⟩
  rw [reportedUnder_ungated hrules hoff, reportedUnder_ungated hwider hoff, List.filter_map,
    List.filter_filter]
  congr 1
  apply List.filter_congr
  intro site _
  simp [Config.allowing, ImportSite.ungated_append, ImportSite.finding, FileContext.findingAt,
    Finding.diagnostic, and_comm]

/-- The third-party imports that no `try` with a handler encloses and whose package is not allowed
are reported in the order of the source, and nothing else. -/
theorem ungatedImports_reported_exactly {config : Config} {rules : List Rule}
    (hrules : buildRules config = .ok rules) (hoff : config.disable = []) (ctx : FileContext)
    (body : List Stmt) :
    (∃ imports : List Occurrence,
      (Part.module body).StatementsInOrder Stmt.isImport imports ∧
      List.Forall₂ (ImportSite.ReportedBy ctx)
        ((imports.flatMap Occurrence.importSites).filter
          (ImportSite.Ungated config.allowedModules ctx))
        (reportedUnder "3rd-party-imports"
          (walkModule config ctx body (rules.map Rule.activate)).2)) ∧
    ∀ more : List String, ∃ wider, buildRules (config.allowing more) = .ok wider ∧
      reportedUnder "3rd-party-imports"
          (walkModule (config.allowing more) ctx body (wider.map Rule.activate)).2 =
        (reportedUnder "3rd-party-imports"
          (walkModule config ctx body (rules.map Rule.activate)).2).filter
            fun d => d.args.all fun module => !more.contains (topLevel module) := by
  refine ⟨⟨(Part.module body).statements Stmt.isImport, ?_, ?_⟩,
    reportedUnder_allowing hrules hoff ctx body⟩
  · exact (Part.module body).statementsInOrder picks_isImport
  · rw [reportedUnder_ungated hrules hoff, List.forall₂_map_right_iff]
    exact List.forall₂_same.mpr fun site _ => site.reportedBy_diagnostic ctx

/-- Third-party imports: at the top, gated with a fallback in the handler, in a `try` without a
handler, in a function, and in a class behind a condition. -/
def gatedAndUngated : List Stmt :=
  [.importNames ⟨0, 16⟩ [⟨"os", none⟩, ⟨"zmq", none⟩, ⟨"yaml", none⟩],
    .tryExcept ⟨17, 70⟩ false
      [.importNames ⟨26, 40⟩ [⟨"msgpack", none⟩]]
      [.mk (some (.name ⟨48, 59⟩ "ImportError")) none [.importFrom ⟨62, 70⟩ (some "simplejson") [] 0]]
      [] [],
    .tryExcept ⟨71, 110⟩ false [.importNames ⟨80, 93⟩ [⟨"jinja2", none⟩]] [] [] [.pass ⟨105, 110⟩],
    .functionDef ⟨111, 150⟩ false "fetch" []
      [.importFrom ⟨124, 150⟩ (some "requests.api") [⟨"get", none⟩] 0] [],
    .classDef ⟨151, 200⟩ "Minion" [] []
      [.ifElse ⟨165, 200⟩ (.name ⟨168, 172⟩ "FAST") [.importNames ⟨180, 200⟩ [⟨"tornado.gen", none⟩]]
        []]
      []]

theorem ungatedImports_reported_of_gatedAndUngated :
    let config := Config.standard.allowing ["zmq"]
    let rules := rulesWith config (.exact 0o644) []
    let tree : FileTree := ⟨[], []⟩
    let ctx := FileContext.ofSource ⟨"minion.py"⟩ "" false
      ⟨tree, ⟨""⟩, ⟨["os", "sys"]⟩, .ofRoots tree []⟩
    let reported := reportedUnder "3rd-party-imports"
      (walkModule config ctx gatedAndUngated (rules.map Rule.activate)).2
    buildRules config = .ok rules ∧ config.disable = [] ∧
    ∃ imports : List Occurrence,
      (Part.module gatedAndUngated).StatementsInOrder Stmt.isImport imports ∧
      List.Forall₂ (ImportSite.ReportedBy ctx)
        ((imports.flatMap Occurrence.importSites).filter
          (ImportSite.Ungated config.allowedModules ctx)) reported ∧
      reported.map (fun d => (d.code, d.args)) =
        [("W8410", ["yaml"]), ("W8410", ["jinja2"]), ("C8410", ["requests.api"]),
          ("C8410", ["tornado.gen"])] := by
  intro config rules tree ctx reported
  have hread : FileMode.readSettings Config.standard.permissions = .ok (.exact 0o644, []) := by
    decide
  have hrules : buildRules config = .ok rules := buildRules_eq_ok_iff.mpr ⟨_, _, hread, rfl⟩
  obtain ⟨⟨imports, horder, hreported⟩, -⟩ :=
    ungatedImports_reported_exactly hrules rfl ctx gatedAndUngated
  exact ⟨hrules, rfl, imports, horder, hreported, by decide +kernel⟩

end SaltConventions
