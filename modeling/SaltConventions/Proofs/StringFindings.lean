import SaltConventions.Proofs.MessageCodes
import SaltConventions.Proofs.OpenCalls
import SaltConventions.Proofs.Steps

/-!
# What is found about strings

The rule for strings has messages for calls, for binary operations and for literals, and only what it
finds about calls depends on the count of logger calls that it has come to. The messages can be told
by their codes, so the diagnostics with some codes are what the rule finds with them about what is
entered. With the codes for calls, that is what it finds about the calls of `format`.
-/

namespace SaltConventions

/-- A call of a method `format`: its range and what the method is called on. -/
inductive Part.IsFormatCall : Part → Span → Expr → Prop where
  | call {span funcSpan : Span} {value : Expr} {args : List Expr} {keywords : List Keyword} :
      IsFormatCall (.expr (.call span (.attribute funcSpan value "format") args keywords)) span value

/-- The range of a call of a method `format`, and what the method is called on. -/
def Part.formatCall? : Part → Option (Span × Expr)
  | expr (.call span (.attribute _ value attr) _ _) =>
    if attr = "format" then some (span, value) else none
  | _ => none

lemma Part.formatCall?_eq_some_iff {p : Part} {span : Span} {value : Expr} :
    p.formatCall? = some (span, value) ↔ p.IsFormatCall span value := by
  constructor
  · intro h
    unfold formatCall? at h
    split at h
    · split at h
      · rename_i hattr
        obtain ⟨rfl, rfl⟩ := Prod.mk.inj (Option.some.inj h)
        subst hattr
        exact .call
      · cases h
    · cases h
  · rintro ⟨⟩
    simp [formatCall?]

namespace StringFormatting

def watcher (settings : StringSettings) : Watcher State :=
  (rule settings).watcher

/-- The codes of messages about calls alone. -/
def callCodes : List String :=
  ["W1320", "E1320", "E1323"]

lemma declaredOnlyBy_string {codes : List String} (h : codes ⊆ callCodes) :
    DeclaredOnlyBy "string" codes := by
  have hcall : DeclaredOnlyBy "string" callCodes := by decide +kernel
  exact fun row hrow m hm hcode => hcall row hrow m hm (h hcode)

lemma code_of_mem_checkBinOp {settings : StringSettings} {ctx : FileContext} {start : Nat}
    {left : Expr} {op : BinaryOperator} {f : Finding}
    (h : f ∈ checkBinOp settings ctx start left op) : f.message.code ∉ callCodes := by
  have hsubstitution : ∀ error : Bool,
      (if error then substitutionError else substitutionWarning).code ∉ callCodes := by decide
  unfold checkBinOp at h
  split at h
  · cases h
  · split at h
    · cases h
    · split at h
      · cases h
      · simp only [List.mem_append, List.mem_ite_nil_right, List.mem_singleton] at h
        rcases h with ⟨-, rfl⟩ | ⟨-, rfl⟩
        · exact hsubstitution _
        · exact show reprFlag.code ∉ callCodes by decide

lemma code_of_mem_checkConstant {ctx : FileContext} {span : Span} {value : Constant}
    {kind : Option String} {f : Finding} (h : f ∈ checkConstant ctx span value kind) :
    f.message.code ∉ callCodes := by
  unfold checkConstant at h
  split at h
  · split at h
    · split at h
      · split at h
        · obtain rfl := List.mem_singleton.mp h
          exact show nullByte.code ∉ callCodes by decide
        · cases h
      · cases h
    · cases h
  · cases h

/-- What is found about a call of `format` inside a logger call. -/
def inLogging (ctx : FileContext) (span : Span) : Finding :=
  ctx.findingAt formatInLogging span.start [(Text.slice? ctx.source span.start span.stop).getD ""]

def unindexed (settings : StringSettings) : Message :=
  if settings.bracesAreErrors then unindexedError else unindexedWarning

lemma unindexed_code (settings : StringSettings) :
    (unindexed settings).code = if settings.bracesAreErrors then "E1320" else "W1320" := by
  unfold unindexed
  split <;> rfl

def checkLiteral (settings : StringSettings) (ctx : FileContext) (span : Span) (value : Expr) :
    List Finding :=
  match value.stringValue? with
  | some text => checkFormat settings ctx span.start text
  | none => []

/-- What is found about an occurrence when some logger calls are open. -/
def findingsAt (settings : StringSettings) (ctx : FileContext) (loggerCalls : Nat)
    (o : Occurrence) : List Finding :=
  match o.part.formatCall? with
  | some (span, value) =>
    (if 0 < loggerCalls then [inLogging ctx span] else []) ++ checkLiteral settings ctx span value
  | none => []

lemma findingsAt_call (settings : StringSettings) (ctx : FileContext) (loggerCalls : Nat)
    (address : List Nat) (holders : List (Part × Role)) (span : Span) (func : Expr)
    (args : List Expr) (keywords : List Keyword) :
    findingsAt settings ctx loggerCalls ⟨address, holders, .expr (.call span func args keywords)⟩ =
      checkCall settings ctx loggerCalls span func := by
  cases func <;> try rfl
  rename_i funcSpan value attr
  by_cases hattr : attr = "format"
  · subst hattr
    rfl
  · simp [findingsAt, Part.formatCall?, checkCall, hattr]

lemma filter_eq_nil_of_not_mem {codes : List String} (hcodes : codes ⊆ callCodes)
    {found : List Finding} (h : ∀ f ∈ found, f.message.code ∉ callCodes) :
    found.filter (fun f => codes.contains f.message.code) = [] := by
  rw [List.filter_eq_nil_iff]
  intro f hf hcode
  exact h f hf (hcodes (List.contains_iff_mem.mp hcode))

lemma filter_ite_of_code {codes : List String} {f : Finding} (h : f.message.code ∉ codes)
    (c : Prop) [Decidable c] :
    (if c then [f] else []).filter (fun f => codes.contains f.message.code) = [] := by
  split
  · exact List.filter_cons_of_neg (by simpa using h)
  · rfl

/-- What is found about a part that is entered when some logger calls are open. -/
def checkPart (settings : StringSettings) (ctx : FileContext) (loggerCalls : Nat) :
    Part → List Finding
  | .expr (.call span func _ _) => checkCall settings ctx loggerCalls span func
  | .expr (.binOp span left op _) => checkBinOp settings ctx span.start left op
  | .expr (.constant span value kind) => checkConstant ctx span value kind
  | _ => []

lemma foundAt_eq (settings : StringSettings) (ctx : FileContext) (s : State) (step : Step) :
    (watcher settings).foundAt ctx s step =
      step.entered?.toList.flatMap fun o => checkPart settings ctx s.loggerCalls o.part := by
  obtain ⟨moment, ⟨address, holders, p⟩⟩ := step
  cases moment with
  | reach | done => rfl
  | enter =>
    cases p with
    | module body => rfl
    | stmt st => cases st <;> rfl
    | expr e =>
      cases e <;> try rfl
      case call span func args keywords =>
        have henter : (watcher settings).foundAt ctx s
            ⟨.enter, ⟨address, holders, .expr (.call span func args keywords)⟩⟩ =
            (enter settings ctx (.call span func) s).2 := rfl
        have hcheck : (enter settings ctx (.call span func) s).2 =
            checkCall settings ctx s.loggerCalls span func := by
          rw [enter]
          split <;> rfl
        rw [henter, hcheck]
        exact (List.append_nil _).symm
      all_goals exact (List.append_nil _).symm
  | leave =>
    cases p with
    | module body => rfl
    | stmt st => cases st <;> rfl
    | expr e => cases e <;> rfl

lemma filter_checkPart {codes : List String} (hcodes : codes ⊆ callCodes)
    (settings : StringSettings) (ctx : FileContext) (loggerCalls : Nat) (o : Occurrence) :
    (checkPart settings ctx loggerCalls o.part).filter
        (fun f => codes.contains f.message.code) =
      (findingsAt settings ctx loggerCalls o).filter fun f => codes.contains f.message.code := by
  obtain ⟨address, holders, p⟩ := o
  cases p with
  | module body => rfl
  | stmt st => rfl
  | expr e =>
    cases e <;> try rfl
    case call span func args keywords => rw [findingsAt_call, checkPart]
    case binOp span left op right =>
      exact filter_eq_nil_of_not_mem hcodes fun f hf => code_of_mem_checkBinOp hf
    case constant span value kind =>
      exact filter_eq_nil_of_not_mem hcodes fun f hf => code_of_mem_checkConstant hf

section

variable {config : Config} {rules : List Rule} {codes : List String}

lemma reportedWith_run (hrules : buildRules config = .ok rules)
    (hdeclared : DeclaredOnlyBy "string" codes) (path : Path) (source : String) (hasBom : Bool)
    (env : Environment) (body : List Stmt) :
    let ctx := FileContext.ofSource path source hasBom env
    reportedWith codes (walkModule config ctx body (rules.map Rule.activate)).2 =
      reportedWith codes (((watcher config.strings).run ctx (eventsOfModule body)
        .initial).2.filterMap (Finding.report config path "string")) := by
  have hr : rule config.strings ∈ rules := by
    obtain ⟨expected, ignored, -, rfl⟩ := buildRules_eq_ok_iff.mp hrules
    simp [rulesWith]
  exact reportedWith_walkModule hrules hr hdeclared path source hasBom env body

/-- With nothing switched off, the diagnostics with codes that this rule alone declares are what it
finds with them about what is entered, in order. -/
theorem reportedWith_checkPart (hrules : buildRules config = .ok rules) (hoff : config.disable = [])
    (hdeclared : DeclaredOnlyBy "string" codes) (path : Path) (source : String) (hasBom : Bool)
    (env : Environment) (body : List Stmt) :
    let ctx := FileContext.ofSource path source hasBom env
    reportedWith codes (walkModule config ctx body (rules.map Rule.activate)).2 =
      (withEarlier ((Part.module body).steps [] [])).flatMap fun y =>
        y.2.entered?.toList.flatMap fun o =>
          ((checkPart config.strings ctx
            (y.1.foldl ((watcher config.strings).pass ctx) .initial).loggerCalls o.part).filter
              fun f => codes.contains f.message.code).map (Finding.diagnostic path "string") := by
  intro ctx
  have hrun := (watcher config.strings).run_steps ctx ((Part.module body).steps [] []) .initial
  rw [(stepsThrough body).events] at hrun
  rw [reportedWith_run hrules hdeclared, filterMap_report hoff, reportedWith_map_diagnostic, hrun,
    List.filter_flatMap, List.map_flatMap]
  simp only [foundAt_eq, List.filter_flatMap, List.map_flatMap]

/-- What does not depend on the logger calls that are open is reported for every occurrence that is
visited. -/
theorem reportedWith_visited (hrules : buildRules config = .ok rules) (hoff : config.disable = [])
    (hdeclared : DeclaredOnlyBy "string" codes) (path : Path) (source : String) (hasBom : Bool)
    (env : Environment) (body : List Stmt) {found : Part → List Finding}
    (h : ∀ loggerCalls p,
      (checkPart config.strings (FileContext.ofSource path source hasBom env) loggerCalls p).filter
        (fun f => codes.contains f.message.code) = found p) :
    let ctx := FileContext.ofSource path source hasBom env
    reportedWith codes (walkModule config ctx body (rules.map Rule.activate)).2 =
      (((Part.module body).steps [] []).filterMap Step.entered?).flatMap fun o =>
        (found o.part).map (Finding.diagnostic path "string") := by
  intro ctx
  refine (reportedWith_checkPart hrules hoff hdeclared path source hasBom env body).trans ?_
  have hsteps : (Part.module body).steps [] [] =
      (withEarlier ((Part.module body).steps [] [])).map Prod.snd := (map_snd_withEarlier _).symm
  rw [List.filterMap_eq_flatMap_toList, List.flatMap_assoc]
  nth_rewrite 2 [hsteps]
  rw [List.flatMap_map]
  simp only [h]

/-- The messages about calls are those that this rule reports by itself. -/
theorem reportedWith_eq_run (hrules : buildRules config = .ok rules) (hcodes : codes ⊆ callCodes)
    (path : Path) (source : String) (hasBom : Bool) (env : Environment) (body : List Stmt) :
    let ctx := FileContext.ofSource path source hasBom env
    reportedWith codes (walkModule config ctx body (rules.map Rule.activate)).2 =
      reportedWith codes (((watcher config.strings).run ctx (eventsOfModule body)
        .initial).2.filterMap (Finding.report config path "string")) :=
  reportedWith_run hrules (declaredOnlyBy_string hcodes) path source hasBom env body

theorem reportedWith_callCodes (hrules : buildRules config = .ok rules) (hoff : config.disable = [])
    (hcodes : codes ⊆ callCodes) (path : Path) (source : String) (hasBom : Bool)
    (env : Environment) (body : List Stmt) :
    let ctx := FileContext.ofSource path source hasBom env
    reportedWith codes (walkModule config ctx body (rules.map Rule.activate)).2 =
      (withEarlier ((Part.module body).steps [] [])).flatMap fun y =>
        y.2.entered?.toList.flatMap fun o =>
          ((findingsAt config.strings ctx
            (y.1.foldl ((watcher config.strings).pass ctx) .initial).loggerCalls o).filter
              fun f => codes.contains f.message.code).map (Finding.diagnostic path "string") := by
  refine (reportedWith_checkPart hrules hoff (declaredOnlyBy_string hcodes) path source hasBom env
    body).trans ?_
  simp only [filter_checkPart hcodes]

end

end StringFormatting

end SaltConventions
