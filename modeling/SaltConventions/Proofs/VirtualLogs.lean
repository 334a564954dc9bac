import SaltConventions.Proofs.KnownLoggers
import SaltConventions.Proofs.MessageCodes

/-!
# Logging in `__virtual__`

Which definitions of `__virtual__` are looked at, and what is reported about them. A definition
inside another function is left alone. One inside a class is left alone only if it stands directly
in the body of the class: behind an `if` or another compound statement it is taken for the
`__virtual__` of the module.
-/

namespace SaltConventions

def Part.isFunction : Part → Bool
  | stmt (.functionDef _ _ _ _ _ _) => true
  | _ => false

/-- A definition of `__virtual__`, with its body, that stands in no function and not directly in the
body of a class. -/
structure Occurrence.IsVirtual (o : Occurrence) (body : List Stmt) : Prop where
  definition : ∃ span isAsync params decorators,
    o.part = .stmt (.functionDef span isAsync "__virtual__" params body decorators)
  noFunction : ∀ holder ∈ o.holders, ¬holder.1.isFunction
  notInClass : ∀ holder ∈ o.holders.getLast?, ¬holder.1.isClass

/-- What is reported about a statement after some occurrences: one diagnostic, at the line of the
call, if the expression that it holds directly is a logger call. -/
inductive LogReport (ctx : FileContext) (earlier : List Occurrence) (s : Stmt) :
    List Diagnostic → Prop where
  | one {span : Span} {func : Expr} {args : List Expr} {keywords : List Keyword} {d : Diagnostic}
      (direct : VirtualLogging.directExpr? s = some (.call span func args keywords))
      (logger : IsLoggerMethod earlier func) (hcode : d.code = "E1401")
      (hrule : d.rule = "virt-checker") (hfile : d.file = ctx.path)
      (hline : d.line = ctx.lines.lineAt span.start) (hargs : d.args = []) :
      LogReport ctx earlier s [d]
  | none (noLogger : ∀ span func args keywords,
      VirtualLogging.directExpr? s = some (.call span func args keywords) →
      ¬IsLoggerMethod earlier func) : LogReport ctx earlier s []

/-- What is reported about an occurrence after some others: the logger calls in its body, if it is a
definition of `__virtual__` that is looked at, and nothing otherwise. -/
inductive VirtualReport (ctx : FileContext) (earlier : List Occurrence) (o : Occurrence) :
    List Diagnostic → Prop where
  | looked {body : List Stmt} {reports : List (List Diagnostic)} (isVirtual : o.IsVirtual body)
      (statements : List.Forall₂ (LogReport ctx earlier) body reports) :
      VirtualReport ctx earlier o reports.flatten
  | skipped (notVirtual : ∀ body, ¬o.IsVirtual body) : VirtualReport ctx earlier o []

/-! ### Holders of statements -/

lemma role_of_mem_blockParts {body : List Stmt} {c : Role × Part} (h : c ∈ blockParts body) :
    c.1 = .block := by
  obtain ⟨s, -, rfl⟩ := mem_blockParts.mp h
  rfl

lemma Part.block_or_expr_of_mem_inside {p : Part} {c : Role × Part} (h : c ∈ p.inside) :
    c.1 = .block ∨ ∃ e, c.2 = .expr e := by
  have hh : ∀ hs : List Handler, c ∈ hs.flatMap Handler.parts →
      c.1 = .block ∨ ∃ e, c.2 = .expr e := by
    intro hs hc
    obtain ⟨⟨type, name, body⟩, -, hc⟩ := List.mem_flatMap.mp hc
    exact (List.mem_append.mp hc).symm.imp role_of_mem_blockParts eq_expr_of_mem_exprParts
  have hm : ∀ cs : List MatchCase, c ∈ cs.flatMap MatchCase.parts →
      c.1 = .block ∨ ∃ e, c.2 = .expr e := by
    intro cs hc
    obtain ⟨⟨guard, body⟩, -, hc⟩ := List.mem_flatMap.mp hc
    exact (List.mem_append.mp hc).symm.imp role_of_mem_blockParts eq_expr_of_mem_exprParts
  cases p with
  | module body => exact .inl (role_of_mem_blockParts h)
  | expr e => exact .inr (eq_expr_of_mem_exprParts h)
  | stmt s =>
    cases s <;> simp only [inside, Stmt.inside, List.mem_append, List.not_mem_nil] at h <;>
      grind [eq_expr_of_mem_exprParts, role_of_mem_blockParts]

lemma Part.Holds.role_of_statement {p : Part} {o : Occurrence} (h : p.Holds o) {s : Stmt}
    (hs : o.part = .stmt s) : ∀ holder ∈ o.holders, holder.2 = .block := by
  induction h with
  | self p => simp [Occurrence.root]
  | @child p c role i q hc hq ih =>
    have hc := List.mem_of_getElem? hc
    have hexpr : ¬∃ e, c = .expr e := by
      rintro ⟨e, rfl⟩
      obtain ⟨f, hf⟩ := hq.eq_expr
      exact absurd (hf.symm.trans hs) (by simp)
    have hblock : role = .block := by
      rcases List.mem_append.mp hc with ha | hi
      · exact absurd (eq_expr_of_mem_ahead ha) hexpr
      · exact (block_or_expr_of_mem_inside hi).resolve_right hexpr
    exact List.forall_mem_cons.mpr ⟨hblock, ih hs⟩

lemma Part.opens_eq_function_iff {p : Part} :
    p.opens = some .function ↔ p.isFunction = true := by
  fun_cases opens p <;> simp_all [isFunction]

lemma Part.Holds.enclosed_function_iff {p : Part} {o : Occurrence} (h : p.Holds o) {s : Stmt}
    (hs : o.part = .stmt s) :
    Enclosed o.holders .function ↔ ∃ holder ∈ o.holders, holder.1.isFunction := by
  refine exists_congr fun holder => and_congr_right fun hmem => ?_
  rw [Part.encloses_iff, and_iff_left fun _ => h.role_of_statement hs holder hmem,
    Part.opens_eq_function_iff]

lemma Part.Holds.inClassBody_iff {p : Part} {o : Occurrence} (h : p.Holds o) {s : Stmt}
    (hs : o.part = .stmt s) :
    inClassBody o.holders = true ↔ ∃ holder ∈ o.holders.getLast?, holder.1.isClass := by
  unfold inClassBody
  split
  · rename_i q role hlast
    obtain rfl : role = .block := h.role_of_statement hs _ (List.mem_of_getLast? hlast)
    simp [hlast]
  · rename_i hlast
    simp [hlast]

namespace VirtualLogging

/-! ### What the rule finds about an occurrence -/

/-- What is found about an occurrence when some loggers are known. -/
def findingsAt (ctx : FileContext) (loggers : LoggerNames) (o : Occurrence) : List Finding :=
  match o.part with
  | .stmt (.functionDef _ _ name _ body _) =>
    if name = "__virtual__" ∧ inClassBody o.holders = false ∧ ¬Enclosed o.holders .function then
      body.filterMap (checkStmt ctx loggers)
    else []
  | _ => []

lemma message_of_mem_findingsAt {ctx : FileContext} {loggers : LoggerNames} {o : Occurrence}
    {f : Finding} (h : f ∈ findingsAt ctx loggers o) : f.message = logInVirtual := by
  unfold findingsAt at h
  split at h
  · split at h
    · obtain ⟨s, -, hs⟩ := List.mem_filterMap.mp h
      unfold checkStmt at hs
      split at hs
      · split at hs
        · obtain rfl := Option.some.inj hs
          rfl
        · cases hs
      · cases hs
    · cases h
  · cases h

lemma logReport_checkStmt (ctx : FileContext) (earlier : List Occurrence) (s : Stmt) :
    LogReport ctx earlier s
      ((checkStmt ctx (.known earlier) s).toList.map
        (Finding.diagnostic ctx.path "virt-checker")) := by
  unfold checkStmt
  split
  · rename_i span func args keywords hdirect
    split
    · rename_i hlogger
      exact .one hdirect (LoggerNames.isLoggerCall_known_iff.mp hlogger) rfl rfl rfl rfl rfl
    · rename_i hlogger
      refine .none fun span' func' args' keywords' hdirect' hmethod => hlogger ?_
      obtain ⟨-, rfl, -, -⟩ := Expr.call.inj (Option.some.inj (hdirect.symm.trans hdirect'))
      exact LoggerNames.isLoggerCall_known_iff.mpr hmethod
  · rename_i hdirect
    exact .none fun span func args keywords h => absurd h (hdirect span func args keywords)

lemma virtualReport_findingsAt (ctx : FileContext) (earlier : List Occurrence) {p : Part}
    {o : Occurrence} (ho : p.Holds o) :
    VirtualReport ctx earlier o
      ((findingsAt ctx (.known earlier) o).map (Finding.diagnostic ctx.path "virt-checker")) := by
  unfold findingsAt
  split
  · rename_i span isAsync name params body decorators hpart
    have hfunction := ho.enclosed_function_iff hpart
    have hclass := ho.inClassBody_iff hpart
    split
    · rename_i hvirtual
      obtain ⟨rfl, hnotInClass, hnoFunction⟩ := hvirtual
      have hreports : List.Forall₂ (LogReport ctx earlier) body
          (body.map fun s => (checkStmt ctx (.known earlier) s).toList.map
            (Finding.diagnostic ctx.path "virt-checker")) := by
        rw [List.forall₂_map_right_iff, List.forall₂_same]
        exact fun s _ => logReport_checkStmt ctx earlier s
      rw [List.filterMap_eq_flatMap_toList, List.map_flatMap, List.flatMap_def]
      refine .looked ⟨⟨span, isAsync, params, decorators, hpart⟩, ?_, ?_⟩ hreports
      · intro holder hmem hholder
        exact hnoFunction (hfunction.mpr ⟨holder, hmem, hholder⟩)
      · intro holder hmem hholder
        rw [hclass.mpr ⟨holder, hmem, hholder⟩] at hnotInClass
        cases hnotInClass
    · rename_i hother
      refine .skipped fun body' hvirtual => hother ?_
      obtain ⟨⟨span', isAsync', params', decorators', hpart'⟩, hnoFunction, hnotInClass⟩ := hvirtual
      have hname : name = "__virtual__" := by
        rw [hpart] at hpart'
        injection hpart' with hpart'
        injection hpart'
      refine ⟨hname, ?_, ?_⟩
      · by_contra h
        obtain ⟨holder, hmem, hholder⟩ := hclass.mp (by simpa using h)
        exact hnotInClass holder hmem hholder
      · intro h
        obtain ⟨holder, hmem, hholder⟩ := hfunction.mp h
        exact hnoFunction holder hmem hholder
  · rename_i hpart
    refine .skipped fun body hvirtual => ?_
    obtain ⟨span, isAsync, params, decorators, h⟩ := hvirtual.definition
    exact hpart _ _ _ _ _ _ h

/-! ### A walk -/

def watcher : Watcher LoggerNames :=
  rule.watcher

lemma isVirtual_iff {holders : List (Part × Role)} {scope : Scope} {function : FunctionNode}
    (hscope : ∀ c, scope.inside c = true ↔ Enclosed holders c)
    (hclass : function.inClass = inClassBody holders) :
    isVirtual scope function = true ↔
      function.name = "__virtual__" ∧ inClassBody holders = false ∧ ¬Enclosed holders .function := by
  have hinside : scope.insideFunction = true ↔ Enclosed holders .function := hscope .function
  rw [← hinside, ← hclass]
  simp [isVirtual, and_assoc]

lemma learnsBy (ctx : FileContext) :
    watcher.LearnsBy ctx .conventional LoggerNames.learn (findingsAt ctx) where
  start body scope s := rfl
  leave node scope s := by
    unfold Watcher.observe
    split <;> rfl
  enter o node scope s hshown hkind := by
    have hshows := hshown.shows
    have hscope := hshown.2
    obtain ⟨address, holders, part⟩ := o
    cases hshows with
    | module body => exact absurd rfl hkind
    | functionDef span isAsync name params body decorators =>
      let function : FunctionNode :=
        ⟨span.start, name, body, decorators, isAsync, inClassBody holders⟩
      have henter : watcher.observe ctx ⟨.enter, .functionDef function, scope⟩ s =
          if isVirtual scope function then (s, body.filterMap (checkStmt ctx s)) else (s, []) := rfl
      have hvirtual := @isVirtual_iff holders scope function hscope rfl
      rw [henter]
      by_cases h : isVirtual scope function
      · rw [if_pos h]
        exact congrArg (Prod.mk s) (if_pos (hvirtual.mp h)).symm
      · rw [if_neg h]
        exact congrArg (Prod.mk s) (if_neg (hvirtual.not.mp h)).symm
    | _ => rfl
  root body := ⟨rfl, rfl⟩

theorem run_eventsOfModule (ctx : FileContext) (body : List Stmt) :
    (watcher.run ctx (eventsOfModule body) .conventional).2 =
      (withEarlier (Part.module body).itinerary).flatMap
        fun y => findingsAt ctx (.known y.1) y.2 :=
  (learnsBy ctx).run_eventsOfModule body .conventional

theorem reportedWith_eq_run {config : Config} {rules : List Rule} (hrules : buildRules config = .ok rules)
    (path : Path) (source : String) (hasBom : Bool) (env : Environment) (body : List Stmt) :
    let ctx := FileContext.ofSource path source hasBom env
    reportedWith ["E1401"] (walkModule config ctx body (rules.map Rule.activate)).2 =
      reportedWith ["E1401"] ((watcher.run ctx (eventsOfModule body) .conventional).2.filterMap
        (Finding.report config path "virt-checker")) := by
  have hr : rule ∈ rules := by
    obtain ⟨expected, ignored, -, rfl⟩ := buildRules_eq_ok_iff.mp hrules
    simp [rulesWith]
  have honly : DeclaredOnlyBy rule.name ["E1401"] := by decide
  exact reportedWith_walkModule hrules hr honly path source hasBom env body

end VirtualLogging

/-- The logger calls are reported that stand directly in a `__virtual__` which no function holds and
which is not directly in the body of a class. -/
theorem virtualLogs_reported_exactly {config : Config} {rules : List Rule}
    (hrules : buildRules config = .ok rules) (path : Path) (source : String) (hasBom : Bool)
    (env : Environment) (body : List Stmt) :
    let ctx := FileContext.ofSource path source hasBom env
    ∃ visited : List Occurrence, VisitedInOrder body visited ∧
      ∃ reports : List (List Diagnostic),
        List.Forall₂ (fun y found => VirtualReport ctx y.1 y.2 found) (withEarlier visited)
          reports ∧
        reportedWith ["E1401"] (walkModule config ctx body (rules.map Rule.activate)).2 =
          if ["E1401", "log-in-virtual", "virt-checker"].any config.isDisabled then []
          else reports.flatten := by
  intro ctx
  let visited := (Part.module body).itinerary
  let found := (withEarlier visited).flatMap fun y => VirtualLogging.findingsAt ctx (.known y.1) y.2
  have hmessage : ∀ f ∈ found, f.message = VirtualLogging.logInVirtual := by
    intro f hf
    obtain ⟨y, -, hf⟩ := List.mem_flatMap.mp hf
    exact VirtualLogging.message_of_mem_findingsAt hf
  have hreport : (VirtualLogging.watcher.run ctx (eventsOfModule body) .conventional).2.filterMap
      (Finding.report config path "virt-checker") =
        if ["E1401", "log-in-virtual", "virt-checker"].any config.isDisabled then []
        else found.map (Finding.diagnostic ctx.path "virt-checker") := by
    rw [VirtualLogging.run_eventsOfModule]
    exact filterMap_report_of_message hmessage
  let reports := (withEarlier visited).map fun y =>
    (VirtualLogging.findingsAt ctx (.known y.1) y.2).map (Finding.diagnostic ctx.path "virt-checker")
  have hreports : found.map (Finding.diagnostic ctx.path "virt-checker") = reports.flatten := by
    rw [List.map_flatMap, List.flatMap_def]
  refine ⟨visited, visitedInOrder body, reports, ?_, ?_⟩
  · rw [List.forall₂_map_right_iff, List.forall₂_same]
    rintro ⟨earlier, o⟩ hy
    obtain ⟨after, hsplit⟩ := mem_withEarlier.mp hy
    have ho : o ∈ (Part.module body).itinerary := by
      rw [show (Part.module body).itinerary = _ from hsplit]
      simp
    exact VirtualLogging.virtualReport_findingsAt ctx earlier (Part.mem_itinerary.mp ho).1
  · have hcode : found.filter (fun f => ["E1401"].contains f.message.code) = found := by
      rw [List.filter_eq_self]
      intro f hf
      rw [hmessage f hf]
      rfl
    rw [VirtualLogging.reportedWith_eq_run hrules, hreport, ← hreports]
    split
    · rfl
    · rw [reportedWith_map_diagnostic, hcode]

/-- Definitions of `__virtual__` that log: behind an `if` of the module, in the body of a class, and
in a function. -/
def loggingVirtuals : List Stmt :=
  let logInfo := fun logger start => Expr.call ⟨start, start + 10⟩
    (.attribute ⟨start, start + 8⟩ (.name ⟨start, start + 3⟩ logger) "info") [] []
  [.importNames ⟨0, 21⟩ [⟨"logging", some "lgr"⟩],
    .ifElse ⟨22, 98⟩ (.name ⟨25, 29⟩ "FAST")
      [.functionDef ⟨35, 98⟩ false "__virtual__" []
        [.expr ⟨62, 72⟩ (logInfo "lgr" 62), .ret ⟨81, 98⟩ (some (logInfo "log" 88))] []] [],
    .classDef ⟨99, 154⟩ "Minion" [] []
      [.functionDef ⟨117, 154⟩ false "__virtual__" [] [.expr ⟨144, 154⟩ (logInfo "log" 144)] []] [],
    .functionDef ⟨155, 208⟩ false "load" []
      [.functionDef ⟨171, 208⟩ false "__virtual__" [] [.expr ⟨198, 208⟩ (logInfo "log" 198)] []] []]

theorem virtualLogs_reported_of_loggingVirtuals :
    let ctx := FileContext.alone ⟨"minion.py"⟩ ""
    let reported := reportedWith ["E1401"]
      (walkModule .standard ctx loggingVirtuals (standardRules.map Rule.activate)).2
    buildRules .standard = .ok standardRules ∧
    (∃ visited : List Occurrence, VisitedInOrder loggingVirtuals visited ∧
      ∃ reports : List (List Diagnostic),
        List.Forall₂ (fun y found => VirtualReport ctx y.1 y.2 found) (withEarlier visited)
          reports ∧
        reported = if ["E1401", "log-in-virtual", "virt-checker"].any Config.standard.isDisabled
          then [] else reports.flatten) ∧
    reported.length = 2 := by
  intro ctx reported
  have hlength : reported.length = 2 := by
    rw [show reported = _ from VirtualLogging.reportedWith_eq_run buildRules_standard ..]
    decide +kernel
  exact ⟨buildRules_standard,
    virtualLogs_reported_exactly buildRules_standard _ _ _ _ loggingVirtuals, hlength⟩

/-- A definition of `__virtual__` in a class is reported if it stands behind an `if` there, though no
definition of the module stands outside the class. -/
theorem virtualLog_in_class_reported :
    let body := [Stmt.classDef ⟨0, 76⟩ "Minion" [] []
      [.ifElse ⟨18, 76⟩ (.name ⟨21, 25⟩ "FAST")
        [.functionDef ⟨35, 76⟩ false "__virtual__" []
          [.expr ⟨66, 76⟩ (.call ⟨66, 76⟩ (.attribute ⟨66, 74⟩ (.name ⟨66, 69⟩ "log") "info") [] [])]
          []] []] []]
    let ctx := FileContext.alone ⟨"minion.py"⟩
      "class Minion:\n    if FAST:\n        def __virtual__():\n            log.info()\n"
    (∀ o, (Part.module body).Holds o → o.part.isFunction →
      ∃ holder ∈ o.holders, holder.1.isClass) ∧
    (reportedWith ["E1401"]
      (walkModule .standard ctx body (standardRules.map Rule.activate)).2).map Diagnostic.line =
        [4] := by
  intro body ctx
  refine ⟨?_, by decide +kernel⟩
  intro o ho hfunction
  cases ho with
  | self => cases hfunction
  | child hc hin =>
    -- The class is all that the module holds.
    obtain ⟨rfl, rfl⟩ := Prod.mk.inj (List.mem_singleton.mp (List.mem_of_getElem? hc))
    cases hin with
    | self => cases hfunction
    | child hc hin => exact ⟨_, List.mem_cons_of_mem _ List.mem_cons_self, rfl⟩

end SaltConventions
