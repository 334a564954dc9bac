import SaltConventions.Proofs.RuleDiagnostics

/-!
# Calls that open a file

Which calls of a module are reported because a file may stay open, told from the syntax tree: every
call of `open` and every call of a method `fopen` outside a `with`, wherever an expression can stand.
The one place that a walk does not come to is the default of a lambda.
-/

namespace SaltConventions

/-! ### Calls and where they stand -/

def Part.call? : Part → Option (Span × Expr)
  | expr (.call span func _ _) => some (span, func)
  | _ => none

def Node.call? : Node → Option (Span × Expr)
  | call span func => some (span, func)
  | _ => none

lemma Node.isSome_call? (node : Node) : node.call?.isSome = [NodeKind.call].contains node.kind := by
  cases node <;> rfl

lemma Part.call?_of_node? {p : Part} {inClass : Bool} {node : Node}
    (h : p.node? inClass = some node) : node.call? = p.call? := by
  cases node?_eq_some_iff.mp h <;> rfl

namespace Occurrence

/-- A call of the builtin `open`. -/
def IsOpenCall (o : Occurrence) : Prop :=
  ∃ span name, o.part.call? = some (span, .name name "open")

def IsFopenCall (o : Occurrence) : Prop :=
  ∃ span inner base, o.part.call? = some (span, .attribute inner base "fopen")

/-- Standing in the default of a parameter of a lambda. -/
def InLambdaDefault (o : Occurrence) : Prop :=
  ∃ h ∈ o.holders, h.1.isLambda ∧ h.2 = .default

lemma visited_iff {o : Occurrence} : o.Visited ↔ o.part.isNode = true ∧ ¬o.InLambdaDefault := by
  rw [Visited, InLambdaDefault]
  refine and_congr_right fun _ => ?_
  constructor
  · rintro h ⟨holder, hmem, hlambda, hdefault⟩
    exact h holder hmem hlambda hdefault
  · intro h holder hmem hlambda hdefault
    exact h ⟨holder, hmem, hlambda, hdefault⟩

/-- A diagnostic reports a call: on the line where the call starts, for `open` with the advice for
inside or outside a `with`. -/
structure LeakReportedBy (ctx : FileContext) (o : Occurrence) (d : Diagnostic) : Prop where
  code : d.code = "W8470"
  rule : d.rule = "resource-leakage"
  file : d.file = ctx.path
  line : ∃ span func, o.part.call? = some (span, func) ∧ d.line = ctx.lines.lineAt span.start
  openAdvice : o.IsOpenCall → d.args =
    [if Enclosed o.holders .withBlock then OpenFiles.openInsideWith else OpenFiles.openOutsideWith]
  fopenAdvice : o.IsFopenCall → d.args = [OpenFiles.fopenOutsideWith]

/-! ### What the rule finds about a call -/

/-- What is found about an occurrence. -/
def leak? (ctx : FileContext) (o : Occurrence) : Option Finding :=
  o.part.call?.bind fun (span, func) =>
    (OpenFiles.advice? (decide (Enclosed o.holders .withBlock)) func).map fun advice =>
      ctx.findingAt OpenFiles.leakage span.start [advice]

lemma isSome_leak?_iff {ctx : FileContext} {o : Occurrence} :
    (o.leak? ctx).isSome = true ↔
      o.IsOpenCall ∨ o.IsFopenCall ∧ ¬Enclosed o.holders .withBlock := by
  unfold leak? IsOpenCall IsFopenCall
  cases o.part.call? with
  | none => simp
  | some called =>
    obtain ⟨span, func⟩ := called
    cases func <;> simp [OpenFiles.advice?]

lemma leakReportedBy {ctx : FileContext} {o : Occurrence} {f : Finding} (h : o.leak? ctx = some f) :
    o.LeakReportedBy ctx (f.diagnostic ctx.path "resource-leakage") := by
  obtain ⟨⟨span, func⟩, hcall, h⟩ := Option.bind_eq_some_iff.mp h
  obtain ⟨advice, hadvice, rfl⟩ := Option.map_eq_some_iff.mp h
  refine ⟨rfl, rfl, rfl, ⟨span, func, hcall, rfl⟩, ?_, ?_⟩
  · rintro ⟨span', name, hopen⟩
    obtain ⟨rfl, rfl⟩ := Prod.mk.inj (Option.some.inj (hcall.symm.trans hopen))
    simp only [OpenFiles.advice?, beq_self_eq_true, if_true, Option.some.injEq] at hadvice
    simp [Finding.diagnostic, FileContext.findingAt, ← hadvice]
  · rintro ⟨span', inner, base, hfopen⟩
    obtain ⟨rfl, rfl⟩ := Prod.mk.inj (Option.some.inj (hcall.symm.trans hfopen))
    simp only [OpenFiles.advice?] at hadvice
    split at hadvice
    · obtain rfl := Option.some.inj hadvice
      rfl
    · cases hadvice

end Occurrence

lemma OpenFiles.check_eq_toList (ctx : FileContext) (scope : Scope) (node : Node) :
    check ctx scope node =
      (node.call?.bind fun (span, func) => (advice? scope.insideWith func).map fun advice =>
        ctx.findingAt leakage span.start [advice]).toList := by
  cases node
  case call span func =>
    simp only [check, Node.call?, Option.bind_some]
    cases advice? scope.insideWith func <;> rfl
  all_goals rfl

lemma OpenFiles.check_eq {ctx : FileContext} {o : Occurrence} {e : Event} (h : o.ShownBy e) :
    check ctx e.scope e.node = (o.leak? ctx).toList := by
  have hwith : e.scope.insideWith = decide (Enclosed o.holders .withBlock) := by
    rw [Bool.eq_iff_iff, decide_eq_true_iff]
    exact h.2 .withBlock
  rw [check_eq_toList, Part.call?_of_node? h.1, hwith, Occurrence.leak?]

/-! ### What a walk reports -/

def callsOf (body : List Stmt) : List Occurrence :=
  (Part.module body).itinerary.filter fun o => o.part.call?.isSome

lemma shown_calls (body : List Stmt) :
    List.Forall₂ Occurrence.ShownBy (callsOf body) (enteredOf [.call] (eventsOfModule body)) := by
  refine List.rel_filter ?_ (shown_itinerary_module body)
  intro o e hoe
  have hcall : o.part.call?.isSome = [NodeKind.call].contains e.node.kind := by
    rw [← Part.call?_of_node? hoe.1, e.node.isSome_call?]
  exact Bool.eq_iff_iff.mp hcall

lemma mem_callsOf {body : List Stmt} {o : Occurrence} :
    o ∈ callsOf body ↔
      (Part.module body).Holds o ∧ ¬o.InLambdaDefault ∧ o.part.call?.isSome = true := by
  rw [callsOf, List.mem_filter, Part.mem_itinerary, Occurrence.visited_iff]
  constructor
  · rintro ⟨⟨hholds, -, hdefault⟩, hcall⟩
    exact ⟨hholds, hdefault, hcall⟩
  · rintro ⟨hholds, hdefault, hcall⟩
    refine ⟨⟨hholds, ?_, hdefault⟩, hcall⟩
    unfold Part.call? at hcall
    split at hcall
    next hpart => rw [hpart]; rfl
    next => cases hcall

theorem reportedUnder_leaks {config : Config} {rules : List Rule}
    (hrules : buildRules config = .ok rules) (hoff : config.disable = []) (ctx : FileContext)
    (body : List Stmt) :
    reportedUnder "resource-leakage" (walkModule config ctx body (rules.map Rule.activate)).2 =
      ((callsOf body).filterMap (Occurrence.leak? ctx)).map
        (Finding.diagnostic ctx.path "resource-leakage") := by
  have hr : OpenFiles.rule ∈ rules := by
    obtain ⟨expected, ignored, -, rfl⟩ := buildRules_eq_ok_iff.mp hrules
    simp [rulesWith]
  have hfound : (OpenFiles.rule.watcher.run ctx (eventsOfModule body) OpenFiles.rule.initial).2 =
      (callsOf body).filterMap (Occurrence.leak? ctx) := by
    rw [List.filterMap_eq_flatMap_toList]
    exact (Watcher.run_onEnter _ _ _ _).trans
      (flatMap_eq_of_forall₂ (shown_calls body) fun _ _ h => (OpenFiles.check_eq h).symm).symm
  have hreported := reportedUnder_walkModule hrules hr ctx body
  rw [hfound, filterMap_report hoff] at hreported
  exact hreported

/-- Every call of `open` outside the default of a lambda is reported, and so is every call of a
method `fopen` outside every `with`, and nothing else. -/
theorem openCalls_reported_exactly {config : Config} {rules : List Rule}
    (hrules : buildRules config = .ok rules) (hoff : config.disable = []) (ctx : FileContext)
    (body : List Stmt) :
    ∃ calls : List Occurrence,
      (∀ o, o ∈ calls ↔ (Part.module body).Holds o ∧ ¬o.InLambdaDefault ∧
        (o.IsOpenCall ∨ o.IsFopenCall ∧ ¬Enclosed o.holders .withBlock)) ∧
      (calls.map Occurrence.address).Nodup ∧
      List.Forall₂ (Occurrence.LeakReportedBy ctx) calls
        (reportedUnder "resource-leakage"
          (walkModule config ctx body (rules.map Rule.activate)).2) := by
  refine ⟨(callsOf body).filter fun o => (o.leak? ctx).isSome, ?_, ?_, ?_⟩
  · intro o
    have hcall : (o.leak? ctx).isSome = true → o.part.call?.isSome = true :=
      Option.isSome_of_isSome_bind
    rw [List.mem_filter, mem_callsOf, ← @Occurrence.isSome_leak?_iff ctx o]
    constructor
    · rintro ⟨⟨hholds, hdefault, -⟩, hleak⟩
      exact ⟨hholds, hdefault, hleak⟩
    · rintro ⟨hholds, hdefault, hleak⟩
      exact ⟨⟨hholds, hdefault, hcall hleak⟩, hleak⟩
  · have hsub : ((callsOf body).filter fun o => (o.leak? ctx).isSome).Sublist
        (Part.module body).itinerary := List.filter_sublist.trans List.filter_sublist
    exact (Part.module body).nodup_itinerary.sublist (hsub.map _)
  · rw [reportedUnder_leaks hrules hoff, List.forall₂_map_right_iff]
    exact (forall₂_filterMap (Occurrence.leak? ctx) (callsOf body)).imp
      fun _ _ => Occurrence.leakReportedBy

/-- A call of `open` on one name, starting at an offset. -/
def openCall (start : Nat) : Expr :=
  .call ⟨start, start + 7⟩ (.name ⟨start, start + 4⟩ "open") [.name ⟨start + 5, start + 6⟩ "p"] []

/-- Calls of `open` in a decorator, a default, an f-string, a comprehension, a guard and an
asynchronous `with`, and one of `fopen` next to the last. -/
def scatteredOpenCalls : List Stmt :=
  [.functionDef ⟨9, 60⟩ false "load" [.mk "a" none, .mk "b" (some (openCall 20))]
      [.ret ⟨30, 60⟩ (some (.joinedStr ⟨37, 60⟩ [.formattedValue ⟨39, 48⟩ (openCall 40) none]))]
      [openCall 1],
    .expr ⟨61, 95⟩ (.listComp ⟨61, 95⟩ (.name ⟨62, 63⟩ "x")
      [.mk (.name ⟨68, 69⟩ "x") (.name ⟨73, 75⟩ "xs") [openCall 80]]),
    .matchCases ⟨96, 140⟩ (.name ⟨102, 103⟩ "x") [.mk (some (openCall 120)) [.pass ⟨130, 134⟩]],
    .withBlock ⟨141, 200⟩ true [⟨openCall 152, none⟩]
      [.expr ⟨170, 185⟩ (.call ⟨170, 185⟩ (.attribute ⟨170, 178⟩ (.name ⟨170, 172⟩ "sf") "fopen")
        [openCall 177] [])]]

theorem openCalls_reported_of_scatteredOpenCalls :
    let ctx := FileContext.alone ⟨"minion.py"⟩ ""
    let reported := reportedUnder "resource-leakage"
      (walkModule .standard ctx scatteredOpenCalls (standardRules.map Rule.activate)).2
    buildRules .standard = .ok standardRules ∧ Config.standard.disable = [] ∧
    ∃ calls : List Occurrence,
      (∀ o, o ∈ calls ↔ (Part.module scatteredOpenCalls).Holds o ∧ ¬o.InLambdaDefault ∧
        (o.IsOpenCall ∨ o.IsFopenCall ∧ ¬Enclosed o.holders .withBlock)) ∧
      List.Forall₂ (Occurrence.LeakReportedBy ctx) calls reported ∧
      reported.map Diagnostic.args = List.replicate 5 [OpenFiles.openOutsideWith] ++
        List.replicate 2 [OpenFiles.openInsideWith] := by
  intro ctx reported
  obtain ⟨calls, hcalls, -, hreported⟩ :=
    openCalls_reported_exactly buildRules_standard rfl ctx scatteredOpenCalls
  exact ⟨buildRules_standard, rfl, calls, hcalls, hreported, by decide +kernel⟩

/-- A call of `open` in the default of a lambda is not reported. -/
theorem openCall_in_lambda_default_unreported :
    let ctx := FileContext.alone ⟨"minion.py"⟩ "f = lambda h=open(p): h\n"
    let body := [Stmt.assign ⟨0, 23⟩ [.name ⟨0, 1⟩ "f"]
      (.lambda ⟨4, 23⟩ [.mk "h" (some (openCall 13))] (.name ⟨22, 23⟩ "h"))]
    (∃ o, (Part.module body).Holds o ∧ o.IsOpenCall) ∧
    reportedUnder "resource-leakage"
      (walkModule .standard ctx body (standardRules.map Rule.activate)).2 = [] := by
  intro ctx body
  -- The assignment is the first statement, the lambda its second part, the default the first there.
  refine ⟨⟨_, .child (i := 0) rfl (.child (i := 1) rfl (.child (i := 0) rfl (.self _))), ?_⟩, ?_⟩
  · exact ⟨_, _, rfl⟩
  · decide +kernel

end SaltConventions
