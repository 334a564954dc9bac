import SaltConventions.Proofs.KnownLoggers
import SaltConventions.Proofs.StringFindings

/-!
# Formatting inside logger calls

The rule for strings counts the logger calls around a node. Whether a call is one is asked twice, when
it is entered and when it is left, and the loggers known may grow in between. That they do not grow
inside of an expression is why the count is right at every step of a walk.
-/

namespace SaltConventions

/-! ### Logger calls -/

/-- A part is a call of a method of a logger, by what some occurrences bind. -/
def Part.IsLoggerCall (earlier : List Occurrence) (p : Part) : Prop :=
  ∃ span func, p.call? = some (span, func) ∧ IsLoggerMethod earlier func

namespace LoggerNames

/-- Whether a part is a call of one of the loggers. -/
def callsOne (loggers : LoggerNames) (p : Part) : Bool :=
  p.call?.any fun called => loggers.isLoggerCall called.2

/-- How many of the parts that hold something are calls of the loggers. -/
def countCalls (loggers : LoggerNames) (holders : List (Part × Role)) : Nat :=
  holders.countP fun holder => loggers.callsOne holder.1

lemma callsOne_known_iff {earlier : List Occurrence} {p : Part} :
    (known earlier).callsOne p = true ↔ p.IsLoggerCall earlier := by
  rw [callsOne, Option.any_eq_true, Part.IsLoggerCall]
  constructor
  · rintro ⟨⟨span, func⟩, hcall, hlogger⟩
    exact ⟨span, func, hcall, isLoggerCall_known_iff.mp hlogger⟩
  · rintro ⟨span, func, hcall, hlogger⟩
    exact ⟨(span, func), hcall, isLoggerCall_known_iff.mpr hlogger⟩

end LoggerNames

instance (earlier : List Occurrence) (p : Part) : Decidable (p.IsLoggerCall earlier) :=
  decidable_of_iff _ LoggerNames.callsOne_known_iff

namespace StringFormatting

/-- The count is the number of logger calls around the place, and one more when a logger call is
about to be left. At a statement it is 0. -/
structure Counted (step : Step) (s : State) : Prop where
  count : s.loggerCalls = s.loggers.countCalls step.place.holders +
    if step.moment = .leave ∧ s.loggers.callsOne step.place.part then 1 else 0
  boundary : ∀ st, step.place.part = .stmt st → s.loggerCalls = 0

section

variable {settings : StringSettings} {ctx : FileContext} {address : List Nat}
  {holders : List (Part × Role)}

lemma pass_enter_expr (e : Expr) (s : State) :
    (watcher settings).pass ctx s ⟨.enter, ⟨address, holders, .expr e⟩⟩ =
      if s.loggers.callsOne (.expr e) then { s with loggerCalls := s.loggerCalls + 1 } else s := by
  cases e <;> try rfl
  case call span func args keywords =>
    have hobserve : (watcher settings).pass ctx s
        ⟨.enter, ⟨address, holders, .expr (.call span func args keywords)⟩⟩ =
        (enter settings ctx (.call span func) s).1 := rfl
    have hcalls : s.loggers.callsOne (.expr (.call span func args keywords)) =
        s.loggers.isLoggerCall func := rfl
    rw [hobserve, hcalls, enter]
    split <;> rfl

lemma pass_leave_expr (e : Expr) (s : State) :
    (watcher settings).pass ctx s ⟨.leave, ⟨address, holders, .expr e⟩⟩ =
      if s.loggers.callsOne (.expr e) then { s with loggerCalls := s.loggerCalls - 1 } else s := by
  cases e <;> rfl

lemma loggerCalls_pass_enter_stmt (st : Stmt) (s : State) :
    ((watcher settings).pass ctx s ⟨.enter, ⟨address, holders, .stmt st⟩⟩).loggerCalls =
      s.loggerCalls := by
  cases st <;> rfl

lemma pass_leave_stmt (st : Stmt) (s : State) :
    (watcher settings).pass ctx s ⟨.leave, ⟨address, holders, .stmt st⟩⟩ = s := by
  cases st <;> rfl

/-! ### What one part keeps -/

lemma countCalls_append_singleton (loggers : LoggerNames) (holders : List (Part × Role)) (p : Part)
    (role : Role) : loggers.countCalls (holders ++ [(p, role)]) =
      loggers.countCalls holders + if loggers.callsOne p then 1 else 0 := by
  rw [LoggerNames.countCalls, List.countP_append, List.countP_singleton]
  rfl

/-- Walking over an expression keeps the state, and the count is right all along. -/
lemma passesThrough_expr (e : Expr) {s : State}
    (hs : s.loggerCalls = s.loggers.countCalls holders) :
    PassesThrough ((watcher settings).pass ctx) Counted (· = s)
      ((Part.expr e).steps address holders) s := by
  generalize hp : Part.expr e = p
  induction p using Part.induct generalizing e address holders s with
  | step p ih =>
    subst hp
    -- The state inside of a logger call counts it.
    let within : State := if s.loggers.callsOne (.expr e) then
      { s with loggerCalls := s.loggerCalls + 1 } else s
    have hloggers : within.loggers = s.loggers := by
      simp only [within]
      split <;> rfl
    have hwithin : within.loggerCalls =
        s.loggerCalls + if s.loggers.callsOne (.expr e) then 1 else 0 := by
      simp only [within]
      split <;> rfl
    have hnode : ¬(Part.expr e).isNode → within = s := by
      intro hn
      have hcalls : s.loggers.callsOne (.expr e) = false := by
        cases e <;> first | rfl | exact absurd rfl hn
      simp [within, hcalls]
    refine Part.passesThrough_steps (· = s) (· = within) (· = s) (· = s) ?_ ?_ ?_ ?_ ?_ ?_ rfl
    · rintro t rfl
      exact ⟨⟨by simpa using hs, nofun⟩, rfl⟩
    · intro hl c hc
      exfalso
      cases e <;> first | cases hc | cases hl
    · rintro t rfl
      split
      · exact ⟨⟨by simpa using hs, nofun⟩, pass_enter_expr e t⟩
      · rename_i hn
        exact (hnode hn).symm
    · rintro ⟨role, c⟩ hc address t rfl
      obtain ⟨f, rfl⟩ := eq_expr_of_mem_exprParts hc
      refine ih _ (List.mem_append_right _ hc) f ?_ rfl
      rw [hwithin, hs, countCalls_append_singleton, hloggers]
    · rintro t rfl
      split
      · refine ⟨⟨?_, nofun⟩, ?_⟩
        · simp [hwithin, hs, hloggers]
        · rw [pass_leave_expr, hloggers]
          simp only [within]
          split <;> rfl
      · rename_i hn
        exact hnode hn
    · rintro t rfl
      exact ⟨⟨by simpa using hs, nofun⟩, rfl⟩

/-- No logger call is open. -/
def Idle (s : State) : Prop :=
  s.loggerCalls = 0

def OutsideCalls (holders : List (Part × Role)) : Prop :=
  ∀ holder ∈ holders, holder.1.call? = none

lemma OutsideCalls.append {p : Part} {role : Role} (h : OutsideCalls holders) (hp : p.call? = none) :
    OutsideCalls (holders ++ [(p, role)]) := by
  intro holder hmem
  rcases List.mem_append.mp hmem with hmem | hmem
  · exact h holder hmem
  · obtain rfl := List.mem_singleton.mp hmem
    exact hp

lemma OutsideCalls.countCalls_eq_zero (h : OutsideCalls holders) (loggers : LoggerNames) :
    loggers.countCalls holders = 0 := by
  rw [LoggerNames.countCalls, List.countP_eq_zero]
  intro holder hmem
  simp [LoggerNames.callsOne, h holder hmem]

lemma OutsideCalls.counted (h : OutsideCalls holders) {p : Part} (hp : p.call? = none)
    {moment : Moment} {s : State} (hs : Idle s) :
    Counted ⟨moment, ⟨address, holders, p⟩⟩ s where
  count := by
    rw [h.countCalls_eq_zero, hs]
    simp [LoggerNames.callsOne, hp]
  boundary _ _ := hs

lemma OutsideCalls.passesThrough_expr (h : OutsideCalls holders) (e : Expr) {s : State}
    (hs : Idle s) : PassesThrough ((watcher settings).pass ctx) Counted Idle
      ((Part.expr e).steps address holders) s := by
  have hcount : s.loggerCalls = s.loggers.countCalls holders := by
    rw [hs, h.countCalls_eq_zero]
  exact (StringFormatting.passesThrough_expr e hcount).imp fun t ht => ht ▸ hs

lemma OutsideCalls.passesThrough_stmt (h : OutsideCalls holders) (st : Stmt) {s : State}
    (hs : Idle s) : PassesThrough ((watcher settings).pass ctx) Counted Idle
      ((Part.stmt st).steps address holders) s := by
  generalize hp : Part.stmt st = p
  induction p using Part.induct generalizing st address holders s with
  | step p ih =>
    subst hp
    have hchild : ∀ c ∈ (Part.stmt st).children, ∀ address s, Idle s →
        PassesThrough ((watcher settings).pass ctx) Counted Idle
          (c.2.steps address (holders ++ [(Part.stmt st, c.1)])) s := by
      rintro ⟨role, c⟩ hc address s hs
      have hinner : OutsideCalls (holders ++ [(Part.stmt st, role)]) := h.append rfl
      rcases Part.eq_stmt_or_expr_of_mem_children hc with ⟨inner, rfl⟩ | ⟨e, rfl⟩
      · exact ih _ hc hinner inner hs rfl
      · exact hinner.passesThrough_expr e hs
    refine Part.passesThrough_steps Idle Idle Idle Idle ?_ ?_ ?_ ?_ ?_ ?_ hs
    · exact fun t ht => ⟨h.counted rfl ht, ht⟩
    · exact fun _ c hc => hchild c (List.mem_append_left _ hc)
    · intro t ht
      split
      · exact ⟨h.counted rfl ht, (loggerCalls_pass_enter_stmt st t).trans ht⟩
      · exact ht
    · exact fun c hc => hchild c (List.mem_append_right _ hc)
    · intro t ht
      split
      · refine ⟨h.counted rfl ht, ?_⟩
        rwa [pass_leave_stmt]
      · exact ht
    · exact fun t ht => ⟨h.counted rfl ht, ht⟩

theorem passesThrough_module (body : List Stmt) :
    PassesThrough ((watcher settings).pass ctx) Counted Idle ((Part.module body).steps [] [])
      .initial := by
  have hnone : OutsideCalls [] := fun _ h => absurd h List.not_mem_nil
  refine Part.passesThrough_steps Idle Idle Idle Idle ?_ ?_ ?_ ?_ ?_ ?_ rfl
  · exact fun t ht => ⟨hnone.counted rfl ht, ht⟩
  · exact fun _ c hc => absurd hc List.not_mem_nil
  · exact fun t ht => ⟨hnone.counted rfl ht, rfl⟩
  · rintro ⟨role, c⟩ hc address s hs
    obtain ⟨st, rfl⟩ := eq_stmt_of_mem_blockParts hc
    exact (hnone.append rfl).passesThrough_stmt st hs
  · exact fun t ht => ⟨hnone.counted rfl ht, ht⟩
  · exact fun t ht => ⟨hnone.counted rfl ht, ht⟩

end

/-! ### The loggers known at a step -/

/-- The loggers known after an occurrence is entered; a module starts afresh. -/
def relearn (loggers : LoggerNames) (o : Occurrence) : LoggerNames :=
  match o.part with
  | .module _ => .conventional
  | _ => loggers.learn o

lemma loggers_pass (settings : StringSettings) (ctx : FileContext) (s : State) (step : Step) :
    ((watcher settings).pass ctx s step).loggers =
      match step.entered? with
      | some o => relearn s.loggers o
      | none => s.loggers := by
  obtain ⟨moment, ⟨address, holders, p⟩⟩ := step
  cases moment with
  | reach | done => rfl
  | enter =>
    cases p with
    | module body => rfl
    | stmt st => cases st <;> rfl
    | expr e =>
      rw [pass_enter_expr]
      split <;> rfl
  | leave =>
    cases p with
    | module body => rfl
    | stmt st => rw [pass_leave_stmt]; rfl
    | expr e =>
      rw [pass_leave_expr]
      split <;> rfl

lemma loggers_foldl_pass (settings : StringSettings) (ctx : FileContext) (steps : List Step)
    (s : State) :
    (steps.foldl ((watcher settings).pass ctx) s).loggers =
      (steps.filterMap Step.entered?).foldl relearn s.loggers := by
  induction steps generalizing s with
  | nil => rfl
  | cons step later ih =>
    rw [List.foldl_cons, ih, loggers_pass, List.filterMap_cons]
    cases step.entered? <;> rfl

lemma ne_module_of_holds {p : Part} {o : Occurrence} (h : p.Holds o)
    (hp : ∀ body, p ≠ .module body) : ∀ body, o.part ≠ .module body := by
  induction h with
  | self => exact hp
  | child hc _ ih =>
    refine ih ?_
    rintro body rfl
    rcases Part.eq_stmt_or_expr_of_mem_children (List.mem_of_getElem? hc) with ⟨_, h⟩ | ⟨_, h⟩ <;>
      cases h

lemma foldl_relearn {body : List Stmt} {earlier later : List Occurrence}
    (h : (Part.module body).itinerary = earlier ++ later) :
    earlier.foldl relearn .conventional = .known earlier := by
  rw [itinerary_module] at h
  cases earlier with
  | nil => rfl
  | cons o earlier =>
    obtain ⟨rfl, hinner⟩ := List.cons_eq_cons.mp h
    have hrest : earlier.foldl relearn .conventional =
        earlier.foldl LoggerNames.learn .conventional := by
      refine List.foldl_ext _ _ _ fun loggers o ho => ?_
      have hmem : o ∈ (Part.module body).itineraryOf 0 (blockParts body) := by
        rw [hinner]
        exact List.mem_append_left _ ho
      obtain ⟨i, role, c, q, hc, hq, rfl⟩ := Part.mem_itineraryOf.mp hmem
      obtain ⟨st, rfl⟩ := eq_stmt_of_mem_blockParts (List.fst_mem_of_mem_zipIdx hc)
      have hpart := ne_module_of_holds (Part.mem_itinerary.mp hq).1 nofun
      unfold relearn
      split
      · rename_i body' hbody
        exact absurd hbody (hpart body')
      · rfl
    exact hrest

end StringFormatting

/-- What the rule knows before a step: the loggers bound before it, and how many logger calls hold
its place, one more when a logger call is about to be left. -/
structure LoggerCallsCounted (earlier : List Occurrence) (step : Step)
    (s : StringFormatting.State) : Prop where
  loggers : ∀ name, name ∈ s.loggers.names ↔ IsLoggerName earlier name
  count : s.loggerCalls = step.place.holders.countP (fun holder => holder.1.IsLoggerCall earlier) +
    if step.moment = .leave ∧ step.place.part.IsLoggerCall earlier then 1 else 0
  boundary : ∀ st, step.place.part = .stmt st → s.loggerCalls = 0
  open_of_leave : step.moment = .leave → step.place.part.IsLoggerCall earlier → 0 < s.loggerCalls

lemma LoggerCallsCounted.open_iff {earlier : List Occurrence} {step : Step}
    {s : StringFormatting.State} (h : LoggerCallsCounted earlier step s) {o : Occurrence}
    (ho : step.entered? = some o) :
    0 < s.loggerCalls ↔ ∃ holder ∈ o.holders, holder.1.IsLoggerCall earlier := by
  obtain ⟨moment, place⟩ := step
  cases moment <;> cases ho
  rw [h.count, if_neg (by simp), Nat.add_zero, List.countP_pos_iff]
  simp

namespace StringFormatting

theorem loggerCallsCounted (settings : StringSettings) (ctx : FileContext) (body : List Stmt)
    {y : List Step × Step} (hy : y ∈ withEarlier ((Part.module body).steps [] [])) :
    LoggerCallsCounted (y.1.filterMap Step.entered?) y.2
      (y.1.foldl ((watcher settings).pass ctx) .initial) := by
  have hcounted : Counted y.2 (y.1.foldl ((watcher settings).pass ctx) .initial) :=
    (passesThrough_module body).of_mem_withEarlier hy
  obtain ⟨after, hsplit⟩ := mem_withEarlier.mp hy
  have hitinerary : (Part.module body).itinerary =
      y.1.filterMap Step.entered? ++ (y.2 :: after).filterMap Step.entered? := by
    have hentered := Part.entered_steps [] [] (Part.module body)
    rw [hsplit, List.filterMap_append] at hentered
    exact (List.map_id _).symm.trans hentered.symm
  have hknown : (y.1.foldl ((watcher settings).pass ctx) .initial).loggers =
      .known (y.1.filterMap Step.entered?) :=
    (loggers_foldl_pass settings ctx y.1 .initial).trans (foldl_relearn hitinerary)
  have hcount := hcounted.count
  have hsame : ∀ p : Part, LoggerNames.callsOne (.known (y.1.filterMap Step.entered?)) p =
      decide (p.IsLoggerCall (y.1.filterMap Step.entered?)) := by
    intro p
    rw [Bool.eq_iff_iff, decide_eq_true_iff, LoggerNames.callsOne_known_iff]
  simp only [LoggerNames.countCalls, hknown, hsame, decide_eq_true_eq] at hcount
  refine ⟨?_, hcount, hcounted.boundary, ?_⟩
  · intro name
    rw [hknown, LoggerNames.mem_names_known]
  · intro hleave hcall
    rw [hcount, if_pos ⟨hleave, hcall⟩]
    omega

/-! ### What is reported inside logger calls -/

/-- What is found about a call of `format` inside a logger call, by what was entered before. -/
def loggedFormat (ctx : FileContext) (earlier : List Occurrence) (o : Occurrence) : List Finding :=
  match o.part.formatCall? with
  | some (span, _) =>
    if ∃ holder ∈ o.holders, holder.1.IsLoggerCall earlier then [inLogging ctx span] else []
  | none => []

lemma filter_checkLiteral (settings : StringSettings) (ctx : FileContext) (span : Span)
    (value : Expr) :
    (checkLiteral settings ctx span value).filter (fun f => ["E1323"].contains f.message.code) =
      [] := by
  have hflag : reprFlag.code ∉ ["E1323"] := by decide
  have hslot : (unindexed settings).code ∉ ["E1323"] := by
    rw [unindexed_code]
    split <;> decide
  unfold checkLiteral
  split
  · rename_i text hliteral
    have hrepr := filter_ite_of_code (f := ctx.findingAt reprFlag span.start [text]) hflag
      (hasReprFlag text)
    have hbraces := filter_ite_of_code
      (f := ctx.findingAt (unindexed settings) span.start [text]) hslot
      (hasUnindexedSlot text.toList)
    rw [checkFormat, List.filter_append, hrepr]
    exact hbraces
  · rfl

lemma filter_findingsAt {settings : StringSettings} {ctx : FileContext} {loggerCalls : Nat}
    {earlier : List Occurrence} {o : Occurrence}
    (h : 0 < loggerCalls ↔ ∃ holder ∈ o.holders, holder.1.IsLoggerCall earlier) :
    (findingsAt settings ctx loggerCalls o).filter (fun f => ["E1323"].contains f.message.code) =
      loggedFormat ctx earlier o := by
  unfold findingsAt loggedFormat
  cases o.part.formatCall? with
  | none => rfl
  | some called =>
    simp only [List.filter_append, filter_checkLiteral, List.append_nil, h]
    split <;> rfl

end StringFormatting

/-- What is reported about an occurrence: one diagnostic, if it is a call of a method `format` that
a logger call holds, and nothing otherwise. -/
inductive LoggedFormatReport (ctx : FileContext) (earlier : List Occurrence) (o : Occurrence) :
    List Diagnostic → Prop where
  | one {span : Span} {value : Expr} {d : Diagnostic} (call : o.part.IsFormatCall span value)
      (logger : ∃ holder ∈ o.holders, holder.1.IsLoggerCall earlier) (hcode : d.code = "E1323")
      (hrule : d.rule = "string") (hfile : d.file = ctx.path)
      (hline : d.line = ctx.lines.lineAt span.start)
      (hargs : d.args = [(Text.slice? ctx.source span.start span.stop).getD ""]) :
      LoggedFormatReport ctx earlier o [d]
  | none (h : ∀ span value, o.part.IsFormatCall span value →
      ¬∃ holder ∈ o.holders, holder.1.IsLoggerCall earlier) : LoggedFormatReport ctx earlier o []

lemma StringFormatting.loggedFormatReport (ctx : FileContext) (earlier : List Occurrence)
    (o : Occurrence) :
    LoggedFormatReport ctx earlier o
      ((loggedFormat ctx earlier o).map (Finding.diagnostic ctx.path "string")) := by
  unfold loggedFormat
  split
  · rename_i span value hcall
    split
    · rename_i hlogger
      exact .one (Part.formatCall?_eq_some_iff.mp hcall) hlogger rfl rfl rfl rfl rfl
    · rename_i hunlogged
      exact .none fun _ _ _ => hunlogged
  · rename_i hcall
    refine .none fun span value h => ?_
    rw [Part.formatCall?_eq_some_iff.mpr h] at hcall
    cases hcall

/-- The calls of a method `format` that a logger call holds are reported in the order in which a
walk enters them; the count of open logger calls is right throughout. -/
theorem loggedFormats_reported_exactly {config : Config} {rules : List Rule}
    (hrules : buildRules config = .ok rules) (hoff : config.disable = []) (path : Path)
    (source : String) (hasBom : Bool) (env : Environment) (body : List Stmt) :
    let ctx := FileContext.ofSource path source hasBom env
    ∃ steps : List Step, StepsThrough body steps ∧
      (∃ reports : List (List Diagnostic),
        List.Forall₂ (fun y found => LoggedFormatReport ctx y.1 y.2 found)
          (withEarlier (steps.filterMap Step.entered?)) reports ∧
        reportedWith ["E1323"] (walkModule config ctx body (rules.map Rule.activate)).2 =
          reports.flatten) ∧
      ∀ y ∈ withEarlier steps, LoggerCallsCounted (y.1.filterMap Step.entered?) y.2
        ((StringFormatting.watcher config.strings).run ctx (y.1.filterMap Step.event?) .initial).1 := by
  intro ctx
  let steps := (Part.module body).steps [] []
  let reports := (withEarlier (steps.filterMap Step.entered?)).map fun y =>
    (StringFormatting.loggedFormat ctx y.1 y.2).map (Finding.diagnostic ctx.path "string")
  refine ⟨steps, stepsThrough body, ⟨reports, ?_, ?_⟩, ?_⟩
  · rw [List.forall₂_map_right_iff, List.forall₂_same]
    exact fun y _ => StringFormatting.loggedFormatReport ctx y.1 y.2
  · have hcodes : ["E1323"] ⊆ StringFormatting.callCodes := by decide
    refine (StringFormatting.reportedWith_callCodes hrules hoff hcodes path source hasBom env
      body).trans ?_
    rw [← List.flatMap_def, withEarlier_filterMap, List.filterMap_eq_flatMap_toList,
      List.flatMap_assoc]
    refine List.flatMap_congr fun y hy => ?_
    have hcounted := StringFormatting.loggerCallsCounted config.strings ctx body hy
    cases hentered : y.2.entered? with
    | none => rfl
    | some o =>
      have hopen := hcounted.open_iff hentered
      rw [Option.toList_some, List.flatMap_singleton, StringFormatting.filter_findingsAt hopen]
      exact (List.flatMap_singleton ..).symm
  · intro y hy
    rw [(StringFormatting.watcher config.strings).run_steps]
    exact StringFormatting.loggerCallsCounted config.strings ctx body hy

/-- Calls of `format` deep inside a logger call, in a lambda inside another, and outside of any. -/
def formatsAndLogs : List Stmt :=
  let format := fun start text => Expr.call ⟨start, start + 13⟩
    (.attribute ⟨start, start + 10⟩ (.constant ⟨start, start + 3⟩ (.str text) none) "format")
    [.name ⟨start + 11, start + 12⟩ "x"] []
  [.importNames ⟨0, 21⟩ [⟨"logging", some "lgr"⟩],
    .assign ⟨22, 45⟩ [.name ⟨22, 27⟩ "audit"]
      (.call ⟨30, 45⟩ (.attribute ⟨30, 43⟩ (.name ⟨30, 33⟩ "lgr") "getLogger") [] []),
    .expr ⟨46, 74⟩ (.call ⟨46, 74⟩ (.attribute ⟨46, 56⟩ (.name ⟨46, 51⟩ "audit") "info")
      [.call ⟨57, 73⟩ (.name ⟨57, 58⟩ "f") [format 59 "s"] []] []),
    .expr ⟨75, 106⟩ (.call ⟨75, 106⟩ (.attribute ⟨75, 83⟩ (.name ⟨75, 78⟩ "log") "info")
      [.lambda ⟨84, 105⟩ [] (format 92 "t")] []),
    .expr ⟨107, 127⟩ (.call ⟨107, 127⟩ (.name ⟨107, 112⟩ "print") [format 113 "u"] [])]

theorem loggedFormats_reported_of_formatsAndLogs :
    let source := "import logging as lgr\naudit = lgr.getLogger()\naudit.info(f('s'.format(x)))\n" ++
      "log.info(lambda: 't'.format(x))\nprint('u'.format(x))\n"
    let ctx := FileContext.alone ⟨"minion.py"⟩ source
    let reported := reportedWith ["E1323"]
      (walkModule .standard ctx formatsAndLogs (standardRules.map Rule.activate)).2
    buildRules .standard = .ok standardRules ∧ Config.standard.disable = [] ∧
    (∃ steps : List Step, StepsThrough formatsAndLogs steps ∧
      (∃ reports : List (List Diagnostic),
        List.Forall₂ (fun y found => LoggedFormatReport ctx y.1 y.2 found)
          (withEarlier (steps.filterMap Step.entered?)) reports ∧ reported = reports.flatten) ∧
      ∀ y ∈ withEarlier steps, LoggerCallsCounted (y.1.filterMap Step.entered?) y.2
        ((StringFormatting.watcher Config.standard.strings).run ctx (y.1.filterMap Step.event?)
          .initial).1) ∧
    reported.map (fun d => (d.line, d.args)) =
      [(3, ["'s'.format(x)"]), (4, ["'t'.format(x)"])] := by
  intro source ctx reported
  have hreported : reported.map (fun d => (d.line, d.args)) =
      [(3, ["'s'.format(x)"]), (4, ["'t'.format(x)"])] := by
    have hcodes : ["E1323"] ⊆ StringFormatting.callCodes := by decide
    rw [show reported = _ from StringFormatting.reportedWith_eq_run buildRules_standard hcodes ..]
    decide +kernel
  exact ⟨buildRules_standard, rfl,
    loggedFormats_reported_exactly buildRules_standard rfl _ _ _ _ formatsAndLogs, hreported⟩

end SaltConventions
