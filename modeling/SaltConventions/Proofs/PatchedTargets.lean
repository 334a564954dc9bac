import Mathlib.Data.List.Lex
import SaltConventions.Proofs.BoundNames
import SaltConventions.Proofs.RuleDiagnostics
import SaltConventions.Proofs.TargetLeaves

/-!
# Patched modules

Which assignments of a test module are reported because they set something on a module of the
tracked package, told from the syntax tree: the leaves of the targets of each assignment, and the
names that the imports before it bind. The rule fills a table while it walks; at an assignment the
table holds what the imports at smaller addresses bind, the first binding of each name.
-/

namespace SaltConventions

/-! ### What imports bind and assignments set -/

/-- The names that an absolute import from the tracked package binds, with the modules that they
stand for. A star binds nothing. -/
def Occurrence.trackedBindings (o : Occurrence) : List (String × String) :=
  match o.part with
  | .stmt (.importNames _ names) =>
    (names.filter fun a => isWithin a.name "salt").map fun a => (a.bound, a.name)
  | .stmt (.importFrom _ (some module) names 0) =>
    if isWithin module "salt" then
      (names.filter (·.name != "*")).map fun a => (a.bound, module ++ "." ++ a.name)
    else []
  | _ => []

/-- The names bound by those of some imports that come before an occurrence. -/
def boundBefore (imports : List Occurrence) (o : Occurrence) : List (String × String) :=
  (imports.filter fun i => i.address < o.address).flatMap Occurrence.trackedBindings

def Occurrence.targetLeaves (o : Occurrence) : List Expr :=
  match o.part with
  | .stmt (.assign _ targets _) => leavesOf targets
  | _ => []

/-- A target sets an attribute of a base, or a key of a loader name of it: the code for it, where it
starts, the base and the attribute. -/
inductive Patches : Expr → String → Nat → Expr → String → Prop where
  | loaderName {span : Span} {base : Expr} {attr : String} (h : attr ∈ PatchedModules.loaderNames) :
      Patches (.attribute span base attr) "E9501" span.start base attr
  | otherName {span : Span} {base : Expr} {attr : String} (h : attr ∉ PatchedModules.loaderNames) :
      Patches (.attribute span base attr) "E9502" span.start base attr
  | loaderKey {span inner : Span} {base index : Expr} {attr : String}
      (h : attr ∈ PatchedModules.loaderNames) :
      Patches (.subscript span (.attribute inner base attr) index) "E9503" span.start base attr

/-- What is reported about a leaf when some names are bound: one diagnostic, if it patches a base
some prefix of which is bound, and nothing otherwise. -/
inductive LeafReport (ctx : FileContext) (pairs : List (String × String)) (leaf : Expr) :
    List Diagnostic → Prop where
  | one {code attr dotted module : String} {start : Nat} {base : Expr} {d : Diagnostic}
      (patches : Patches leaf code start base attr) (chain : base.dotted? = some dotted)
      (bound : HasBoundPrefix pairs dotted) (tracked : StandsFor pairs dotted module)
      (hcode : d.code = code)
      (hrule : d.rule = "blacklisted-unmocked-patching") (hfile : d.file = ctx.path)
      (hline : d.line = ctx.lines.lineAt start) (hargs : d.args = [attr, module]) :
      LeafReport ctx pairs leaf [d]
  | none (untracked : ∀ code start base attr dotted, Patches leaf code start base attr →
      base.dotted? = some dotted → ¬HasBoundPrefix pairs dotted) : LeafReport ctx pairs leaf []

/-! ### One leaf -/

namespace PatchedModules

lemma moduleOf?_eq_some_iff {pairs : List (String × String)} {base : Expr} {module : String} :
    moduleOf? (Bindings.empty.bindAll pairs) base = some module ↔
      ∃ dotted, base.dotted? = some dotted ∧ StandsFor pairs dotted module := by
  simp only [moduleOf?, Option.bind_eq_some_iff, Bindings.qualify?_eq_some_iff]

lemma moduleOf?_eq_none_iff {pairs : List (String × String)} {base : Expr} :
    moduleOf? (Bindings.empty.bindAll pairs) base = none ↔
      ∀ dotted, base.dotted? = some dotted → ¬HasBoundPrefix pairs dotted := by
  simp only [moduleOf?, Option.bind_eq_none_iff, Bindings.qualify?_eq_none_iff]

lemma leafReport_of_patches {ctx : FileContext} {pairs : List (String × String)} {leaf base : Expr}
    {attr : String} {start : Nat} {message : Message}
    (hp : Patches leaf message.code start base attr)
    (hunique : ∀ code start' base' attr', Patches leaf code start' base' attr' → base' = base) :
    LeafReport ctx pairs leaf
      ((match moduleOf? (Bindings.empty.bindAll pairs) base with
        | some module => [ctx.findingAt message start [attr, module]]
        | none => []).map (Finding.diagnostic ctx.path "blacklisted-unmocked-patching")) := by
  cases hmodule : moduleOf? (Bindings.empty.bindAll pairs) base with
  | some module =>
    obtain ⟨dotted, hdotted, hstands⟩ := moduleOf?_eq_some_iff.mp hmodule
    exact .one hp hdotted hstands.hasBoundPrefix hstands rfl rfl rfl rfl rfl
  | none =>
    refine .none fun code start' base' attr' dotted hother hdotted => ?_
    obtain rfl := hunique _ _ _ _ hother
    exact moduleOf?_eq_none_iff.mp hmodule dotted hdotted

lemma leafReport_checkTarget (ctx : FileContext) (pairs : List (String × String)) {leaf : Expr}
    (hl : ¬leaf.IsTuple) :
    LeafReport ctx pairs leaf ((checkTarget ctx (Bindings.empty.bindAll pairs) leaf).map
      (Finding.diagnostic ctx.path "blacklisted-unmocked-patching")) := by
  rw [checkTarget.eq_def]
  split
  · rename_i span inner base attr index
    by_cases ha : attr ∈ loaderNames
    · rw [if_pos (List.contains_iff_mem.mpr ha)]
      refine leafReport_of_patches (.loaderKey ha) ?_
      rintro _ _ _ _ ⟨⟩
      rfl
    · rw [if_neg (fun h => ha (List.contains_iff_mem.mp h))]
      refine .none ?_
      rintro _ _ _ _ _ ⟨⟩
      contradiction
  · rename_i span base attr
    by_cases ha : attr ∈ loaderNames
    · simp only [if_pos (List.contains_iff_mem.mpr ha)]
      refine leafReport_of_patches (.loaderName ha) ?_
      rintro _ _ _ _ ⟨⟩ <;> rfl
    · simp only [if_neg (fun h => ha (List.contains_iff_mem.mp h))]
      refine leafReport_of_patches (.otherName ha) ?_
      rintro _ _ _ _ ⟨⟩ <;> rfl
  · exact absurd ⟨_, _, rfl⟩ hl
  · rename_i hsubscript hattribute _
    refine .none ?_
    intro code start base attr dotted hp
    cases hp with
    | loaderName | otherName => exact absurd rfl (hattribute _ _ _)
    | loaderKey => exact absurd rfl (hsubscript _ _ _ _ _)

/-! ### One event -/

def watcher : Watcher Bindings :=
  rule.watcher

/-- What an event does when the statement of an occurrence is entered: names are bound, and the
leaves are looked up among those bound already. -/
def Steps (ctx : FileContext) (o : Occurrence) (e : Event) : Prop :=
  ∀ imports : Bindings, watcher.observe ctx e imports =
    (imports.bindAll o.trackedBindings, o.targetLeaves.flatMap (checkTarget ctx imports))

lemma observe_enter {ctx : FileContext} {node : Node} {scope : Scope}
    (h : watcher.interests.contains node.kind) (imports : Bindings) :
    watcher.observe ctx ⟨.enter, node, scope⟩ imports = enter ctx node imports :=
  if_pos h

lemma bindFrom_eq (imports : Bindings) {module : String} (hm : module ≠ "") (names : List Alias) :
    imports.bindFrom module names =
      imports.bindAll
        ((names.filter (·.name != "*")).map fun a => (a.bound, module ++ "." ++ a.name)) := by
  rw [Bindings.bindFrom_eq_bindAll]
  simp only [Bindings.memberPath, if_neg hm]

lemma enter_importFrom {ctx : FileContext} (htest : ctx.path.isTestModule = true) (start : Nat)
    {module : String} (names : List Alias) (imports : Bindings) :
    enter ctx (.importFrom start (some module) names 0) imports =
      (imports.bindAll (if isWithin module "salt" then
        (names.filter (·.name != "*")).map fun a => (a.bound, module ++ "." ++ a.name) else []),
        []) := by
  by_cases hw : isWithin module "salt"
  · -- A module without a name would bind its members by their own names.
    have hm : module ≠ "" := by
      rintro rfl
      exact absurd hw (by decide)
    rw [if_pos hw, ← bindFrom_eq imports hm]
    simp [enter, htest, trackedPackage, hw]
  · rw [if_neg hw]
    simp [enter, trackedPackage, hw, Bindings.bindAll]

lemma steps_of_shownBy {ctx : FileContext} (htest : ctx.path.isTestModule = true) {o : Occurrence}
    {e : Event} (henter : e.phase = .enter) (h : o.ShownBy e)
    (hkind : [NodeKind.importNames, .importFrom, .assign].contains e.node.kind) : Steps ctx o e := by
  intro imports
  have hshows := h.shows
  obtain ⟨address, holders, part⟩ := o
  obtain ⟨phase, node, scope⟩ := e
  obtain rfl : phase = .enter := henter
  cases hshows with
  | assign span targets value =>
    rw [observe_enter rfl, enter, if_pos htest, checkTargets_eq_flatMap]
    rfl
  | importNames span names =>
    rw [observe_enter rfl, enter, if_pos htest, Bindings.bindImport_eq_bindAll]
    rfl
  | importFrom span base names level =>
    cases base with
    | none => rfl
    | some module =>
      cases level with
      | zero =>
        rw [observe_enter rfl, enter_importFrom htest]
        rfl
      | succ level => rfl
  | _ => simp [Node.kind] at hkind

/-! ### A whole walk -/

lemma filter_address_lt {before later : List Occurrence} {o : Occurrence}
    (h : ((before ++ o :: later).map Occurrence.address).Pairwise (· < ·)) :
    (before ++ o :: later).filter (fun i => i.address < o.address) = before := by
  rw [List.map_append, List.map_cons, List.pairwise_append, List.pairwise_cons] at h
  obtain ⟨-, ⟨hlater, -⟩, hbefore⟩ := h
  have hself : before.filter (fun i => i.address < o.address) = before := by
    rw [List.filter_eq_self]
    intro i hi
    exact decide_eq_true (hbefore _ (List.mem_map_of_mem hi) _ List.mem_cons_self)
  have hnone : (o :: later).filter (fun i => i.address < o.address) = [] := by
    rw [List.filter_eq_nil_iff]
    intro i hi
    rw [decide_eq_true_eq]
    rcases List.mem_cons.mp hi with rfl | hi
    · exact lt_irrefl _
    · exact lt_asymm (hlater _ (List.mem_map_of_mem hi))
  rw [List.filter_append, hself, hnone, List.append_nil]

/-- At each occurrence the table holds what the occurrences before it bind. -/
lemma run_of_steps {ctx : FileContext} {os : List Occurrence} {es : List Event}
    (h : List.Forall₂ (Steps ctx) os es) (done : List Occurrence)
    (hsorted : ((done ++ os).map Occurrence.address).Pairwise (· < ·)) :
    (watcher.run ctx es
      (Bindings.empty.bindAll (done.flatMap Occurrence.trackedBindings))).2 =
      os.flatMap fun o => o.targetLeaves.flatMap
        (checkTarget ctx (Bindings.empty.bindAll (boundBefore (done ++ os) o))) := by
  -- `done` is what has been walked past; its bindings are what the table holds.
  induction h generalizing done with
  | nil => rfl
  | @cons o e os es hstep _ ih =>
    have hnext := ih (done ++ [o]) (by simpa using hsorted)
    have hbefore : boundBefore (done ++ o :: os) o = done.flatMap Occurrence.trackedBindings := by
      rw [boundBefore, filter_address_lt hsorted]
    simp only [List.flatMap_append, List.flatMap_singleton, List.append_assoc,
      List.singleton_append, Bindings.bindAll_append] at hnext
    rw [Watcher.run_cons, hstep, List.flatMap_cons, hbefore, hnext]

lemma flatMap_filter {α β : Type} {f : α → List β} {keep : α → Bool} {xs : List α}
    (h : ∀ x ∈ xs, keep x = false → f x = []) : (xs.filter keep).flatMap f = xs.flatMap f := by
  induction xs with
  | nil => rfl
  | cons x later ih =>
    have hlater := ih fun y hy => h y (List.mem_cons_of_mem _ hy)
    rw [List.flatMap_cons, ← hlater]
    by_cases hk : keep x
    · rw [List.filter_cons_of_pos hk, List.flatMap_cons]
    · rw [List.filter_cons_of_neg hk, h x List.mem_cons_self (by simpa using hk), List.nil_append]

/-- The kinds of statements that the rule asks for. -/
def trackedKinds : List NodeKind :=
  [.importNames, .importFrom, .assign]

lemma observe_of_not_tracked {ctx : FileContext} {e : Event} (hmodule : e.node.kind ≠ .module)
    (h : (e.phase == .enter && trackedKinds.contains e.node.kind) = false) (imports : Bindings) :
    watcher.observe ctx e imports = (imports, []) := by
  obtain ⟨phase, node, scope⟩ := e
  unfold Watcher.observe
  split
  · rename_i hinterest
    cases phase with
    | enter =>
      simp only [BEq.rfl, Bool.true_and] at h
      cases node <;> simp_all [watcher, rule, trackedKinds, Node.kind]
    | leave => cases node <;> simp_all [watcher, rule, leave, Node.kind]
  · rfl

lemma run_eq_run_enteredOf (ctx : FileContext) (body : List Stmt) :
    (watcher.run ctx (eventsOfModule body) .empty).2 =
      (watcher.run ctx (enteredOf trackedKinds (eventsOfModule body)) .empty).2 := by
  have hidle : ∀ e ∈ (walkAll .empty (visitsOfBody false body)).1,
      (e.phase == .enter && trackedKinds.contains e.node.kind) = false →
        ∀ imports, watcher.observe ctx e imports = (imports, []) :=
    fun e he hk => observe_of_not_tracked (kind_of_mem_walkAll_body he) hk
  have hentered : enteredOf trackedKinds (eventsOfModule body) =
      (walkAll .empty (visitsOfBody false body)).1.filter
        fun e => e.phase == .enter && trackedKinds.contains e.node.kind := by
    rw [eventsOfModule_eq, enteredOf, entered, List.filter_filter]
    simp [trackedKinds, Node.kind, Bool.and_comm]
  rw [hentered, ← Watcher.run_filter hidle, eventsOfModule_eq, List.cons_append, Watcher.run_cons,
    Watcher.run_append]
  exact List.append_nil _

def isTracked (s : Stmt) : Bool :=
  s.isImport || s.isAssign

lemma picks_isTracked : Picks isTracked trackedKinds := by
  intro s
  cases s <;> rfl

lemma targetLeaves_of_not_isAssign {o : Occurrence} (h : o.part.stmt?.any Stmt.isAssign = false) :
    o.targetLeaves = [] := by
  unfold Occurrence.targetLeaves
  split
  · simp_all [Part.stmt?, Stmt.isAssign]
  · rfl

lemma trackedBindings_of_not_isImport {o : Occurrence}
    (h : o.part.stmt?.any Stmt.isImport = false) : o.trackedBindings = [] := by
  unfold Occurrence.trackedBindings
  split <;> simp_all [Part.stmt?, Stmt.isImport]

/-- In a test module each leaf of each assignment is looked up among the names that the imports
before the assignment bind. -/
theorem run_eventsOfModule {ctx : FileContext} (htest : ctx.path.isTestModule = true)
    (body : List Stmt) :
    (watcher.run ctx (eventsOfModule body) .empty).2 =
      ((Part.module body).statements Stmt.isAssign).flatMap fun o => o.targetLeaves.flatMap
        (checkTarget ctx (Bindings.empty.bindAll
          (boundBefore ((Part.module body).statements Stmt.isImport) o))) := by
  have hshown := shown_statements picks_isTracked (by decide) body
  have hentered : ∀ e ∈ enteredOf trackedKinds (eventsOfModule body),
      e.phase = .enter ∧ trackedKinds.contains e.node.kind := by
    intro e he
    obtain ⟨he, hk⟩ := List.mem_filter.mp he
    exact ⟨beq_iff_eq.mp (List.mem_filter.mp he).2, hk⟩
  have hsteps : List.Forall₂ (Steps ctx) ((Part.module body).statements isTracked)
      (enteredOf trackedKinds (eventsOfModule body)) := by
    have hboth := (List.forall₂_and_left _ _).mpr ⟨hentered, hshown.flip⟩
    exact hboth.flip.imp fun o e h => steps_of_shownBy htest h.1.1 h.2 h.1.2
  have hrun : (watcher.run ctx (enteredOf trackedKinds (eventsOfModule body)) .empty).2 =
      ((Part.module body).statements isTracked).flatMap fun o => o.targetLeaves.flatMap
        (checkTarget ctx (Bindings.empty.bindAll
          (boundBefore ((Part.module body).statements isTracked) o))) :=
    run_of_steps hsteps [] ((Part.module body).pairwise_statements isTracked)
  -- An assignment binds nothing, so only the imports count.
  have hbound : ∀ o, boundBefore ((Part.module body).statements isTracked) o =
      boundBefore ((Part.module body).statements Stmt.isImport) o := by
    intro o
    have himport : ∀ s, Stmt.isImport s → isTracked s := fun s hs => by simp [isTracked, hs]
    rw [← (Part.module body).filter_statements himport, boundBefore, boundBefore, List.filter_comm]
    exact (flatMap_filter fun i _ => trackedBindings_of_not_isImport).symm
  have hassign : ∀ s, Stmt.isAssign s → isTracked s := fun s hs => by simp [isTracked, hs]
  rw [run_eq_run_enteredOf, ← (Part.module body).filter_statements hassign, flatMap_filter]
  · simpa only [hbound] using hrun
  · intro o _ ho
    rw [targetLeaves_of_not_isAssign ho, List.flatMap_nil]

lemma observe_of_not_test {ctx : FileContext} (htest : ctx.path.isTestModule = false) (e : Event)
    (imports : Bindings) : (watcher.observe ctx e imports).2 = [] := by
  have henter : ∀ node, (enter ctx node imports).2 = [] := by
    intro node
    unfold enter
    split <;> simp_all
  obtain ⟨phase, node, scope⟩ := e
  unfold Watcher.observe
  split
  · cases phase with
    | enter => exact henter node
    | leave => rfl
  · rfl

end PatchedModules

/-! ### The tracked package -/

lemma dottedCut_of_mem_boundBefore {imports : List Occurrence} {o : Occurrence}
    {name target : String} (h : (name, target) ∈ boundBefore imports o) :
    ∃ rest, DottedCut target "salt" rest := by
  obtain ⟨i, -, hi⟩ := List.mem_flatMap.mp h
  unfold Occurrence.trackedBindings at hi
  split at hi
  · obtain ⟨a, ha, hpair⟩ := List.mem_map.mp hi
    obtain ⟨-, rfl⟩ := Prod.mk.inj hpair
    exact isWithin_iff.mp (List.mem_filter.mp ha).2
  · split at hi
    · rename_i hwithin
      obtain ⟨a, -, hpair⟩ := List.mem_map.mp hi
      obtain ⟨-, rfl⟩ := Prod.mk.inj hpair
      obtain ⟨rest, hrest⟩ := isWithin_iff.mp hwithin
      rw [String.append_assoc]
      exact ⟨_, hrest.append (.inr ⟨a.name, rfl⟩)⟩
    · cases hi
  · cases hi

lemma StandsFor.within {imports : List Occurrence} {o : Occurrence} {dotted module : String}
    (h : StandsFor (boundBefore imports o) dotted module) :
    module = "salt" ∨ ∃ rest, module = "salt." ++ rest := by
  obtain ⟨name, rest, target, hcut, hfirst, -, rfl⟩ := h
  obtain ⟨more, hmore⟩ := dottedCut_of_mem_boundBefore hfirst.mem
  obtain ⟨heq, hrest⟩ := hmore.append hcut.2
  rcases hrest with hempty | ⟨tail, htail⟩
  · left
    rw [heq, hempty, String.append_empty]
  · right
    exact ⟨tail, by rw [heq, htail, ← String.append_assoc]; rfl⟩

/-! ### What is reported -/

lemma reportedUnder_patched {config : Config} {rules : List Rule}
    (hrules : buildRules config = .ok rules) (hoff : config.disable = []) (ctx : FileContext)
    (body : List Stmt) :
    reportedUnder "blacklisted-unmocked-patching"
        (walkModule config ctx body (rules.map Rule.activate)).2 =
      (PatchedModules.watcher.run ctx (eventsOfModule body) .empty).2.map
        (Finding.diagnostic ctx.path "blacklisted-unmocked-patching") := by
  have hr : PatchedModules.rule ∈ rules := by
    obtain ⟨expected, ignored, -, rfl⟩ := buildRules_eq_ok_iff.mp hrules
    simp [rulesWith]
  have hreported := reportedUnder_walkModule hrules hr ctx body
  rw [filterMap_report hoff] at hreported
  exact hreported

/-- The leaves of assignments, each with its assignment. -/
def leafSites (assigns : List Occurrence) : List (Occurrence × Expr) :=
  assigns.flatMap fun o => o.targetLeaves.map fun leaf => (o, leaf)

lemma not_isTuple_of_mem_targetLeaves {o : Occurrence} {leaf : Expr} (h : leaf ∈ o.targetLeaves) :
    ¬leaf.IsTuple := by
  unfold Occurrence.targetLeaves at h
  split at h
  · exact not_isTuple_of_mem_leavesOf h
  · cases h

lemma forall₂_leafReports {config : Config} {rules : List Rule}
    (hrules : buildRules config = .ok rules) (hoff : config.disable = []) {ctx : FileContext}
    (htest : ctx.path.isTestModule = true) (body : List Stmt) :
    ∃ reports : List (List Diagnostic),
      List.Forall₂ (fun site found => LeafReport ctx
          (boundBefore ((Part.module body).statements Stmt.isImport) site.1) site.2 found)
        (leafSites ((Part.module body).statements Stmt.isAssign)) reports ∧
      reportedUnder "blacklisted-unmocked-patching"
        (walkModule config ctx body (rules.map Rule.activate)).2 = reports.flatten := by
  refine ⟨(leafSites ((Part.module body).statements Stmt.isAssign)).map fun site =>
    (PatchedModules.checkTarget ctx (Bindings.empty.bindAll
      (boundBefore ((Part.module body).statements Stmt.isImport) site.1)) site.2).map
        (Finding.diagnostic ctx.path "blacklisted-unmocked-patching"), ?_, ?_⟩
  · rw [List.forall₂_map_right_iff, List.forall₂_same]
    rintro ⟨o, leaf⟩ hsite
    obtain ⟨o', -, hleaf⟩ := List.mem_flatMap.mp hsite
    obtain ⟨_, hmem, heq⟩ := List.mem_map.mp hleaf
    obtain ⟨rfl, rfl⟩ := Prod.mk.inj heq
    exact PatchedModules.leafReport_checkTarget ctx _ (not_isTuple_of_mem_targetLeaves hmem)
  · rw [reportedUnder_patched hrules hoff, PatchedModules.run_eventsOfModule htest, leafSites,
      ← List.flatMap_def, List.flatMap_assoc, List.map_flatMap]
    simp only [List.flatMap_map, List.map_flatMap]

lemma LeafReport.args_of_mem {ctx : FileContext} {imports : List Occurrence} {o : Occurrence}
    {leaf : Expr} {found : List Diagnostic} (h : LeafReport ctx (boundBefore imports o) leaf found)
    {d : Diagnostic} (hd : d ∈ found) :
    ∃ attr module, d.args = [attr, module] ∧ (module = "salt" ∨ ∃ rest, module = "salt." ++ rest) := by
  cases h with
  | one _ _ _ tracked _ _ _ _ hargs =>
    obtain rfl := List.mem_singleton.mp hd
    exact ⟨_, _, hargs, tracked.within⟩
  | none => cases hd

/-- In a test module each leaf of each assignment is reported that sets an attribute or a loader key
of a base that earlier imports bind, and nothing else. -/
theorem patchedModules_reported_exactly {config : Config} {rules : List Rule}
    (hrules : buildRules config = .ok rules) (hoff : config.disable = []) (ctx : FileContext)
    (body : List Stmt) :
    (ctx.path.isTestModule = false →
      reportedUnder "blacklisted-unmocked-patching"
        (walkModule config ctx body (rules.map Rule.activate)).2 = []) ∧
    (ctx.path.isTestModule = true → ∃ assigns imports : List Occurrence,
      (Part.module body).StatementsInOrder Stmt.isAssign assigns ∧
      (Part.module body).StatementsInOrder Stmt.isImport imports ∧
      ∃ reports : List (List Diagnostic),
        List.Forall₂ (fun site found => LeafReport ctx (boundBefore imports site.1) site.2 found)
          (leafSites assigns) reports ∧
        reportedUnder "blacklisted-unmocked-patching"
          (walkModule config ctx body (rules.map Rule.activate)).2 = reports.flatten) ∧
    ∀ d ∈ reportedUnder "blacklisted-unmocked-patching"
        (walkModule config ctx body (rules.map Rule.activate)).2,
      ∃ attr module, d.args = [attr, module] ∧
        (module = "salt" ∨ ∃ rest, module = "salt." ++ rest) := by
  have hother : ctx.path.isTestModule = false →
      reportedUnder "blacklisted-unmocked-patching"
        (walkModule config ctx body (rules.map Rule.activate)).2 = [] := by
    intro htest
    rw [reportedUnder_patched hrules hoff,
      Watcher.run_snd_eq_nil (PatchedModules.observe_of_not_test htest), List.map_nil]
  refine ⟨hother, ?_, ?_⟩
  · intro htest
    exact ⟨(Part.module body).statements Stmt.isAssign, (Part.module body).statements Stmt.isImport,
      (Part.module body).statementsInOrder picks_isAssign,
      (Part.module body).statementsInOrder picks_isImport,
      forall₂_leafReports hrules hoff htest body⟩
  · intro d hd
    cases htest : ctx.path.isTestModule with
    | false =>
      rw [hother htest] at hd
      cases hd
    | true =>
      obtain ⟨reports, hreports, heq⟩ := forall₂_leafReports hrules hoff htest body
      rw [heq] at hd
      obtain ⟨found, hfound, hd⟩ := List.mem_flatten.mp hd
      obtain ⟨site, -, hsite⟩ := exists_of_forall₂ hreports hfound
      exact hsite.args_of_mem hd

/-- A test that sets attributes of modules: through an alias, in nested tuples, through a longer
dotted name than was imported, and on names that nothing binds. -/
def patchingTest : List Stmt :=
  let name (id : String) : Expr := .name ⟨0, 0⟩ id
  let dot (base : Expr) (attr : String) : Expr := .attribute ⟨0, 0⟩ base attr
  let value := name "mocked"
  [.importNames ⟨0, 1⟩ [⟨"salt.modules.cmdmod", some "cmd"⟩, ⟨"os", none⟩],
    .importFrom ⟨2, 3⟩ (some "salt.states") [⟨"pkg", none⟩, ⟨"*", none⟩] 0,
    .importNames ⟨4, 5⟩ [⟨"salt.utils", none⟩, ⟨"salt.fake", some "cmd"⟩],
    .assign ⟨6, 7⟩
      [.tuple ⟨6, 6⟩ [dot (name "cmd") "__salt__",
        .tuple ⟨6, 6⟩ [dot (name "os") "environ", dot (name "pkg") "latest"]]] value,
    .assign ⟨8, 9⟩
      [.subscript ⟨8, 8⟩ (dot (dot (dot (name "salt") "utils") "files") "__opts__") (name "key"),
        .subscript ⟨8, 8⟩ (dot (name "cmd") "cache") (name "key"), dot (name "salt") "loader"]
      value]

theorem patchedModules_reported_of_patchingTest :
    let ctx := FileContext.alone ⟨"tests/test_cmd.py"⟩ ""
    let reported := reportedUnder "blacklisted-unmocked-patching"
      (walkModule .standard ctx patchingTest (standardRules.map Rule.activate)).2
    buildRules .standard = .ok standardRules ∧ Config.standard.disable = [] ∧
    ctx.path.isTestModule = true ∧
    reported.map (fun d => (d.code, d.args)) =
      [("E9501", ["__salt__", "salt.modules.cmdmod"]), ("E9502", ["latest", "salt.states.pkg"]),
        ("E9503", ["__opts__", "salt.utils.files"])] ∧
    ∃ assigns imports : List Occurrence,
      (Part.module patchingTest).StatementsInOrder Stmt.isAssign assigns ∧
      (Part.module patchingTest).StatementsInOrder Stmt.isImport imports ∧
      ∃ reports : List (List Diagnostic),
        List.Forall₂ (fun site found => LeafReport ctx (boundBefore imports site.1) site.2 found)
          (leafSites assigns) reports ∧ reported = reports.flatten := by
  intro ctx reported
  have htest : ctx.path.isTestModule = true := by decide +kernel
  have hexact := (patchedModules_reported_exactly buildRules_standard rfl ctx patchingTest).2.1 htest
  have hfound : reported.map (fun d => (d.code, d.args)) =
      [("E9501", ["__salt__", "salt.modules.cmdmod"]), ("E9502", ["latest", "salt.states.pkg"]),
        ("E9503", ["__opts__", "salt.utils.files"])] := by
    simp only [reported, reportedUnder_patched buildRules_standard rfl]
    decide +kernel
  exact ⟨buildRules_standard, rfl, htest, hfound, hexact⟩

end SaltConventions
