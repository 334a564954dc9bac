import SaltConventions.Proofs.BoundNames
import SaltConventions.Proofs.History
import SaltConventions.Proofs.Isolation
import SaltConventions.Proofs.OpenCalls
import SaltConventions.Proofs.PatchedTargets

/-!
# Calls of replaced functions

Which calls of a module are reported because the configuration lists what they call. A call is named
through the imports that were entered before it: the longest bound prefix of the dotted text is
replaced by what it was bound to first.
-/

namespace SaltConventions

/-! ### Full names -/

/-- The names that an import binds, with what they stand for. A star binds nothing, and neither does
a relative import. -/
def Occurrence.importBindings (o : Occurrence) : List (String × String) :=
  match o.part with
  | .stmt (.importNames _ names) => names.map fun a => (a.bound, a.name)
  | .stmt (.importFrom _ (some module) names 0) =>
    (names.filter (·.name != "*")).map fun a => (a.bound, Bindings.memberPath module a.name)
  | _ => []

/-- The full name of a dotted text when some names are bound: what it stands for, or the text itself
if no prefix of it is bound. -/
inductive FullName (pairs : List (String × String)) (dotted : String) : String → Prop where
  | bound {full : String} (h : StandsFor pairs dotted full) : FullName pairs dotted full
  | unbound (h : ¬HasBoundPrefix pairs dotted) : FullName pairs dotted dotted

/-- What is reported about an occurrence: one diagnostic, if it is a call of a chain of names whose
full name is listed, and nothing otherwise. -/
inductive CallReport (listed : NameMap) (ctx : FileContext) (earlier : List Occurrence)
    (o : Occurrence) : List Diagnostic → Prop where
  | one {span : Span} {func : Expr} {dotted full replacement : String} {d : Diagnostic}
      (call : o.part.call? = some (span, func)) (chain : func.dotted? = some dotted)
      (name : FullName (earlier.flatMap Occurrence.importBindings) dotted full)
      (isListed : listed.get? full = some replacement) (hcode : d.code = "E9601")
      (hrule : d.rule = "blacklisted-functions") (hfile : d.file = ctx.path)
      (hline : d.line = ctx.lines.lineAt span.start) (hargs : d.args = [full, replacement]) :
      CallReport listed ctx earlier o [d]
  | none (unlisted : ∀ span func dotted full, o.part.call? = some (span, func) →
      func.dotted? = some dotted →
      FullName (earlier.flatMap Occurrence.importBindings) dotted full →
      listed.get? full = none) : CallReport listed ctx earlier o []

namespace ReplacedFunctions

lemma fullName_eq_iff {pairs : List (String × String)} {dotted full : String} :
    fullName (Bindings.empty.bindAll pairs) dotted = full ↔ FullName pairs dotted full := by
  rw [fullName]
  cases h : (Bindings.empty.bindAll pairs).qualify? dotted with
  | none =>
    have hunbound := Bindings.qualify?_eq_none_iff.mp h
    constructor
    · rintro rfl
      exact .unbound hunbound
    · rintro (hfull | _)
      · exact absurd hfull.hasBoundPrefix hunbound
      · rfl
  | some target =>
    have hbound := Bindings.qualify?_eq_some_iff.mp h
    constructor
    · rintro rfl
      exact .bound hbound
    · rintro (hfull | hunbound)
      · exact Option.some.inj (h.symm.trans (Bindings.qualify?_eq_some_iff.mpr hfull))
      · exact absurd hbound.hasBoundPrefix hunbound

/-- What is found about an occurrence when some names are bound. -/
def findingsAt (listed : NameMap) (ctx : FileContext) (imports : Bindings) (o : Occurrence) :
    List Finding :=
  match o.part.call? with
  | some (span, func) => checkCall listed ctx imports span.start func
  | none => []

lemma callReport_findingsAt (listed : NameMap) (ctx : FileContext) (earlier : List Occurrence)
    (o : Occurrence) :
    CallReport listed ctx earlier o
      ((findingsAt listed ctx
        (Bindings.empty.bindAll (earlier.flatMap Occurrence.importBindings)) o).map
          (Finding.diagnostic ctx.path "blacklisted-functions")) := by
  unfold findingsAt
  split
  · rename_i span func hcall
    rw [checkCall]
    cases hdotted : func.dotted? with
    | none =>
      refine .none fun span' func' dotted full hcall' hdotted' _ => ?_
      obtain ⟨-, rfl⟩ := Prod.mk.inj (Option.some.inj (hcall.symm.trans hcall'))
      rw [hdotted] at hdotted'
      cases hdotted'
    | some dotted =>
      have hname : FullName (earlier.flatMap Occurrence.importBindings) dotted
          (fullName (Bindings.empty.bindAll (earlier.flatMap Occurrence.importBindings)) dotted) :=
        fullName_eq_iff.mp rfl
      dsimp only
      split
      · rename_i replacement hlisted
        exact .one hcall hdotted hname hlisted rfl rfl rfl rfl rfl
      · rename_i hunlisted
        refine .none fun span' func' dotted' full hcall' hdotted' hfull => ?_
        obtain ⟨-, rfl⟩ := Prod.mk.inj (Option.some.inj (hcall.symm.trans hcall'))
        obtain rfl := Option.some.inj (hdotted.symm.trans hdotted')
        rwa [← fullName_eq_iff.mpr hfull]
  · rename_i hcall
    refine .none fun span func dotted full hcall' => ?_
    rw [hcall] at hcall'
    cases hcall'

/-! ### A walk -/

def watcher (listed : NameMap) : Watcher Bindings :=
  (rule listed).watcher

lemma learnsBy {listed : NameMap} (hl : listed.isEmpty = false) (ctx : FileContext) :
    (watcher listed).LearnsBy ctx .empty
      (fun imports o => imports.bindAll o.importBindings) (findingsAt listed ctx) where
  start body scope s := by
    have henter : enter listed ctx (.module body) s = (.empty, []) := by simp [enter, hl]
    exact henter
  leave node scope s := by
    unfold Watcher.observe
    split <;> rfl
  enter o node scope s hshown hkind := by
    have hshows := hshown.shows
    obtain ⟨address, holders, part⟩ := o
    have henter : ∀ node, (watcher listed).interests.contains node.kind →
        (watcher listed).observe ctx ⟨.enter, node, scope⟩ s = enter listed ctx node s :=
      fun node h => if_pos h
    cases hshows with
    | module body => exact absurd rfl hkind
    | importNames span names =>
      rw [henter _ rfl]
      simp [enter, hl, Bindings.bindImport_eq_bindAll, Occurrence.importBindings, findingsAt,
        Part.call?]
    | importFrom span base names level =>
      rw [henter _ rfl]
      rcases base with _ | module <;> rcases level with _ | level <;>
        simp [enter, hl, Bindings.bindFrom_eq_bindAll, Occurrence.importBindings, findingsAt, Part.call?,
          Bindings.bindAll]
    | call span func args keywords =>
      rw [henter _ rfl]
      simp [enter, hl, Occurrence.importBindings, findingsAt, Part.call?, Bindings.bindAll]
    | _ => rfl
  root body := ⟨rfl, rfl⟩

lemma foldl_bindAll (imports : Bindings) (earlier : List Occurrence) :
    earlier.foldl (fun imports o => imports.bindAll o.importBindings) imports =
      imports.bindAll (earlier.flatMap Occurrence.importBindings) := by
  induction earlier generalizing imports with
  | nil => rfl
  | cons o later ih =>
    rw [List.foldl_cons, ih, List.flatMap_cons, Bindings.bindAll_append]

lemma findingsAt_nil (ctx : FileContext) (imports : Bindings) (o : Occurrence) :
    findingsAt [] ctx imports o = [] := by
  unfold findingsAt checkCall
  split
  · split <;> rfl
  · rfl

theorem run_eventsOfModule (listed : NameMap) (ctx : FileContext) (body : List Stmt) :
    ((watcher listed).run ctx (eventsOfModule body) .empty).2 =
      (withEarlier (Part.module body).itinerary).flatMap fun y => findingsAt listed ctx
        (Bindings.empty.bindAll (y.1.flatMap Occurrence.importBindings)) y.2 := by
  cases hl : listed.isEmpty with
  | true =>
    have hfound : ((watcher listed).run ctx (eventsOfModule body) .empty).2 = [] :=
      Watcher.run_snd_eq_nil (silent hl ctx) _ _
    obtain rfl := List.isEmpty_iff.mp hl
    rw [hfound, List.flatMap_eq_nil_iff.mpr fun _ _ => findingsAt_nil ctx _ _]
  | false => simp only [(learnsBy hl ctx).run_eventsOfModule, foldl_bindAll]

lemma mem_rules {config : Config} {rules : List Rule} (hrules : buildRules config = .ok rules) :
    rule config.functions.toMap ∈ rules := by
  obtain ⟨expected, ignored, -, rfl⟩ := buildRules_eq_ok_iff.mp hrules
  simp [rulesWith]

end ReplacedFunctions

/-- The calls whose full name is listed are reported with the replacement, where the full name is
taken among the names that earlier imports bind. -/
theorem replacedCalls_reported_exactly {config : Config} {rules : List Rule}
    (hrules : buildRules config = .ok rules) (hoff : config.disable = []) (ctx : FileContext)
    (body : List Stmt) :
    ∃ visited : List Occurrence, VisitedInOrder body visited ∧
      ∃ reports : List (List Diagnostic),
        List.Forall₂ (fun y found => CallReport config.functions.toMap ctx y.1 y.2 found)
          (withEarlier visited) reports ∧
        reportedUnder "blacklisted-functions"
          (walkModule config ctx body (rules.map Rule.activate)).2 = reports.flatten := by
  have hrun := ReplacedFunctions.run_eventsOfModule config.functions.toMap ctx body
  have hreported :=
    (reportedUnder_walkModule hrules (ReplacedFunctions.mem_rules hrules) ctx body).trans
      ((filterMap_report hoff _ _ _).trans (congrArg _ hrun))
  rw [List.map_flatMap] at hreported
  refine ⟨_, visitedInOrder body, _, ?_, hreported.trans List.flatMap_def⟩
  rw [List.forall₂_map_right_iff, List.forall₂_same]
  exact fun y _ => ReplacedFunctions.callReport_findingsAt _ ctx y.1 y.2

/-- Calls under other names: `os` stands for another module than the prefix `os.path`, `op` is bound
twice, and `loads` is imported from the package of the file. -/
def renamedCalls : List Stmt :=
  [.importNames ⟨0, 27⟩ [⟨"shim", some "os"⟩, ⟨"os.path", none⟩],
    .importFrom ⟨28, 65⟩ (some "salt.utils") [⟨"fopen", some "op"⟩, ⟨"*", none⟩] 0,
    .importFrom ⟨66, 93⟩ (some "codecs") [⟨"open", some "op"⟩] 0,
    .importFrom ⟨94, 113⟩ none [⟨"loads", none⟩] 1,
    .expr ⟨114, 145⟩ (.call ⟨114, 145⟩
      (.attribute ⟨114, 126⟩ (.attribute ⟨114, 121⟩ (.name ⟨114, 116⟩ "os") "path") "join")
      [.call ⟨127, 131⟩ (.name ⟨127, 129⟩ "op") [] [],
        .call ⟨133, 144⟩ (.attribute ⟨133, 142⟩ (.name ⟨133, 135⟩ "os") "getcwd") [] []]
      []),
    .expr ⟨146, 153⟩ (.call ⟨146, 153⟩ (.name ⟨146, 151⟩ "loads") [] [])]

theorem replacedCalls_reported_of_renamedCalls :
    let listed := FunctionList.table
      [("os.path.join", "path.join"), ("os.getcwd", "path.cwd"), ("salt.utils.fopen", "files.fopen"),
        ("codecs.open", "files.fopen"), ("loads", "json.loads")]
    let config := { Config.standard with functions := listed }
    let rules := rulesWith config (.exact 0o644) []
    let ctx := FileContext.alone ⟨"minion.py"⟩ ""
    let reported := reportedUnder "blacklisted-functions"
      (walkModule config ctx renamedCalls (rules.map Rule.activate)).2
    buildRules config = .ok rules ∧ config.disable = [] ∧
    (∃ visited : List Occurrence, VisitedInOrder renamedCalls visited ∧
      ∃ reports : List (List Diagnostic),
        List.Forall₂ (fun y found => CallReport config.functions.toMap ctx y.1 y.2 found)
          (withEarlier visited) reports ∧ reported = reports.flatten) ∧
    reported.map Diagnostic.args =
      [["os.path.join", "path.join"], ["salt.utils.fopen", "files.fopen"],
        ["loads", "json.loads"]] := by
  intro listed config rules ctx reported
  have hread : FileMode.readSettings Config.standard.permissions = .ok (.exact 0o644, []) := by
    decide
  have hrules : buildRules config = .ok rules := buildRules_eq_ok_iff.mpr ⟨_, _, hread, rfl⟩
  have hargs : reported.map Diagnostic.args = [["os.path.join", "path.join"],
      ["salt.utils.fopen", "files.fopen"], ["loads", "json.loads"]] := by
    rw [show reported = _ from reportedUnder_walkModule hrules (ReplacedFunctions.mem_rules hrules) ctx
      renamedCalls]
    decide +kernel
  exact ⟨hrules, rfl, replacedCalls_reported_exactly hrules rfl ctx renamedCalls, hargs⟩

end SaltConventions
