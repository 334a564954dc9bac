import Mathlib.Tactic.Lemma
import SaltConventions.Visit

/-!
# Parts of a module

The statements and expressions of a module as one tree, whatever they are called: every part has a
list of parts that it holds, each in a role. `Part.ahead` are the parts that belong to the
surroundings of a definition, `Part.inside` all others. The table of parts says what a part holds,
not what is visited in it; `Part.visits_eq` connects the two.
-/

namespace SaltConventions

/-- A part of a module: the module itself, a statement or an expression. -/
inductive Part where
  | module (body : List Stmt)
  | stmt (s : Stmt)
  | expr (e : Expr)

/-- How a part stands in the part that holds it; an operand is an expression that is neither a
decorator nor the default of a parameter. -/
inductive Role where
  | decorator
  | default
  | block
  | operand
  deriving DecidableEq

def Parameter.exprs : Parameter → List Expr
  | .mk _ default => default.toList

def Keyword.exprs : Keyword → List Expr
  | .mk _ value => [value]

def DictItem.exprs : DictItem → List Expr
  | .mk key value => key.toList ++ [value]

def Clause.exprs : Clause → List Expr
  | .mk target iter conditions => target :: iter :: conditions

def WithItem.exprs (item : WithItem) : List Expr :=
  item.context :: item.vars.toList

def exprParts (role : Role) (es : List Expr) : List (Role × Part) :=
  es.map fun e => (role, .expr e)

def blockParts (body : List Stmt) : List (Role × Part) :=
  body.map fun s => (.block, .stmt s)

def Handler.parts : Handler → List (Role × Part)
  | .mk type _ body => exprParts .operand type.toList ++ blockParts body

def MatchCase.parts : MatchCase → List (Role × Part)
  | .mk guard body => exprParts .operand guard.toList ++ blockParts body

def Expr.operands : Expr → List Expr
  | .boolOp _ values => values
  | .namedExpr _ target value => [target, value]
  | .binOp _ left _ right => [left, right]
  | .unaryOp _ operand => [operand]
  | .lambda _ _ body => [body]
  | .ifExp _ test body orelse => [test, body, orelse]
  | .dict _ items => items.flatMap DictItem.exprs
  | .set _ items => items
  | .listComp _ element clauses => element :: clauses.flatMap Clause.exprs
  | .setComp _ element clauses => element :: clauses.flatMap Clause.exprs
  | .dictComp _ key value clauses => key :: value :: clauses.flatMap Clause.exprs
  | .generator _ element clauses => element :: clauses.flatMap Clause.exprs
  | .await _ value => [value]
  | .yield _ value => value.toList
  | .yieldFrom _ value => [value]
  | .compare _ left comparators => left :: comparators
  | .call _ func args keywords => func :: args ++ keywords.flatMap Keyword.exprs
  | .formattedValue _ value format => value :: format.toList
  | .joinedStr _ values => values
  | .constant _ _ _ => []
  | .attribute _ value _ => [value]
  | .subscript _ value index => [value, index]
  | .starred _ value => [value]
  | .name _ _ => []
  | .list _ items => items
  | .tuple _ items => items
  | .slice _ lower upper step => lower.toList ++ upper.toList ++ step.toList

def Stmt.inside : Stmt → List (Role × Part)
  | .functionDef _ _ _ _ body _ => blockParts body
  | .classDef _ _ bases keywords body _ =>
    exprParts .operand (bases ++ keywords.flatMap Keyword.exprs) ++ blockParts body
  | .ret _ value => exprParts .operand value.toList
  | .delete _ targets => exprParts .operand targets
  | .assign _ targets value => exprParts .operand (targets ++ [value])
  | .typeAlias _ => []
  | .augAssign _ target value => exprParts .operand [target, value]
  | .annAssign _ target value => exprParts .operand (target :: value.toList)
  | .forLoop _ _ target iter body orelse =>
    exprParts .operand [target, iter] ++ blockParts body ++ blockParts orelse
  | .whileLoop _ test body orelse => exprParts .operand [test] ++ blockParts body ++ blockParts orelse
  | .ifElse _ test body orelse => exprParts .operand [test] ++ blockParts body ++ blockParts orelse
  | .withBlock _ _ items body => exprParts .operand (items.flatMap WithItem.exprs) ++ blockParts body
  | .matchCases _ subject cases => exprParts .operand [subject] ++ cases.flatMap MatchCase.parts
  | .raise _ exc cause => exprParts .operand (exc.toList ++ cause.toList)
  | .tryExcept _ _ body handlers orelse finalbody =>
    blockParts body ++ handlers.flatMap Handler.parts ++ blockParts orelse ++ blockParts finalbody
  | .assert _ test msg => exprParts .operand (test :: msg.toList)
  | .importNames _ _ => []
  | .importFrom _ _ _ _ => []
  | .scopeNames _ _ => []
  | .expr _ value => exprParts .operand [value]
  | .pass _ => []
  | .jump _ => []

namespace Part

/-- The parts of a definition that belong to its surroundings. -/
def ahead : Part → List (Role × Part)
  | stmt (.functionDef _ _ _ params _ decorators) =>
    exprParts .decorator decorators ++ exprParts .default (params.flatMap Parameter.exprs)
  | stmt (.classDef _ _ _ _ _ decorators) => exprParts .decorator decorators
  | expr (.lambda _ params _) => exprParts .default (params.flatMap Parameter.exprs)
  | _ => []

/-- The parts that stand inside a part. -/
def inside : Part → List (Role × Part)
  | module body => blockParts body
  | stmt s => s.inside
  | expr e => exprParts .operand e.operands

def children (p : Part) : List (Role × Part) :=
  p.ahead ++ p.inside

def isLambda : Part → Bool
  | expr (.lambda _ _ _) => true
  | _ => false

def isClass : Part → Bool
  | stmt (.classDef _ _ _ _ _ _) => true
  | _ => false

/-- The node that rules see when a part is visited; `inClass` tells whether the part stands directly
in a class body. -/
def node? (inClass : Bool) : Part → Option Node
  | module body => some (.module body)
  | stmt (.functionDef span isAsync name _ body decorators) =>
    some (.functionDef ⟨span.start, name, body, decorators, isAsync, inClass⟩)
  | stmt (.classDef span name bases _ _ _) => some (.classDef span.start name bases)
  | stmt (.assign span targets value) => some (.assign span.start targets value)
  | stmt (.ifElse span test _ _) => some (.ifElse span.start test)
  | stmt (.withBlock span _ items body) => some (.withBlock span.start items body)
  | stmt (.tryExcept span _ body handlers orelse finalbody) =>
    some (.tryExcept span.start body handlers orelse finalbody)
  | stmt (.importNames span names) => some (.importNames span.start names)
  | stmt (.importFrom span base names level) => some (.importFrom span.start base names level)
  | expr (.call span func _ _) => some (.call span func)
  | expr (.binOp span left op _) => some (.binOp span left op)
  | expr (.constant span value kind) => some (.constant span value kind)
  | _ => none

/-- The construct that the inside of a part stands in. -/
def opens : Part → Option Construct
  | stmt (.functionDef _ _ _ _ _ _) => some .function
  | stmt (.ifElse _ _ _ _) => some .ifElse
  | stmt (.withBlock _ _ _ _) => some .withBlock
  | stmt (.tryExcept _ _ _ handlers _ _) => if handlers.isEmpty then none else some .tryExcept
  | _ => none

def visits (inClass : Bool) : Part → List Visit
  | module body => [visitOfModule body]
  | stmt s => s.visits inClass
  | expr e => e.visits

/-- What is visited in a part that another part holds. -/
def childVisits (p : Part) (child : Role × Part) : List Visit :=
  child.2.visits (p.isClass && child.1 == .block)

end Part

/-! ### Visits of lists of parts -/

lemma visitsOfExprs_eq (es : List Expr) : visitsOfExprs es = es.flatMap Expr.visits := by
  induction es with
  | nil => rfl
  | cons e later ih => rw [visitsOfExprs, ih, List.flatMap_cons]

lemma visitsOfOption_eq (value : Option Expr) :
    visitsOfOption value = value.toList.flatMap Expr.visits := by
  cases value with
  | none => rfl
  | some e => simp [visitsOfOption]

lemma visitsOfKeywords_eq (keywords : List Keyword) :
    visitsOfKeywords keywords = (keywords.flatMap Keyword.exprs).flatMap Expr.visits := by
  induction keywords with
  | nil => rfl
  | cons keyword later ih =>
    cases keyword with
    | mk name value => simp [visitsOfKeywords, Keyword.exprs, ih]

lemma visitsOfItems_eq (items : List DictItem) :
    visitsOfItems items = (items.flatMap DictItem.exprs).flatMap Expr.visits := by
  induction items with
  | nil => rfl
  | cons item later ih =>
    cases item with
    | mk key value => simp [visitsOfItems, DictItem.exprs, visitsOfOption_eq, ih]

lemma visitsOfClauses_eq (clauses : List Clause) :
    visitsOfClauses clauses = (clauses.flatMap Clause.exprs).flatMap Expr.visits := by
  induction clauses with
  | nil => rfl
  | cons clause later ih =>
    cases clause with
    | mk target iter conditions => simp [visitsOfClauses, Clause.exprs, visitsOfExprs_eq, ih]

lemma visitsOfDefaults_eq (params : List Parameter) :
    visitsOfDefaults params = (params.flatMap Parameter.exprs).flatMap Expr.visits := by
  rw [visitsOfDefaults, List.flatMap_assoc]
  congr 1
  funext param
  cases param with
  | mk name default => exact visitsOfOption_eq default

lemma visitsOfContexts_eq (items : List WithItem) :
    visitsOfContexts items = (items.flatMap WithItem.exprs).flatMap Expr.visits := by
  rw [visitsOfContexts, List.flatMap_assoc]
  congr 1
  funext item
  simp [WithItem.exprs, visitsOfOption_eq]

lemma visitsOfBody_eq (inClass : Bool) (body : List Stmt) :
    visitsOfBody inClass body = body.flatMap (Stmt.visits inClass) := by
  induction body with
  | nil => rfl
  | cons s later ih => rw [visitsOfBody, ih, List.flatMap_cons]

lemma flatMap_childVisits_exprParts (p : Part) (role : Role) (es : List Expr) :
    (exprParts role es).flatMap p.childVisits = es.flatMap Expr.visits := by
  simp [exprParts, Part.childVisits, Part.visits, List.flatMap_map]

lemma flatMap_childVisits_blockParts (p : Part) (body : List Stmt) :
    (blockParts body).flatMap p.childVisits = visitsOfBody p.isClass body := by
  simp [blockParts, Part.childVisits, Part.visits, List.flatMap_map, visitsOfBody_eq]

lemma flatMap_childVisits_handlers (p : Part) (hp : p.isClass = false) (handlers : List Handler) :
    (handlers.flatMap Handler.parts).flatMap p.childVisits = visitsOfHandlers handlers := by
  induction handlers with
  | nil => rfl
  | cons handler later ih =>
    cases handler with
    | mk type name body =>
      rw [List.flatMap_cons, List.flatMap_append, ih, Handler.parts, List.flatMap_append,
        flatMap_childVisits_exprParts, flatMap_childVisits_blockParts, hp, visitsOfHandlers,
        visitsOfOption_eq]

lemma flatMap_childVisits_cases (p : Part) (hp : p.isClass = false) (cases : List MatchCase) :
    (cases.flatMap MatchCase.parts).flatMap p.childVisits = visitsOfCases cases := by
  induction cases with
  | nil => rfl
  | cons case later ih =>
    cases case with
    | mk guard body =>
      rw [List.flatMap_cons, List.flatMap_append, ih, MatchCase.parts, List.flatMap_append,
        flatMap_childVisits_exprParts, flatMap_childVisits_blockParts, hp, visitsOfCases,
        visitsOfOption_eq]

/-- The visits of a part: what belongs to its surroundings, and then its node, if rules see it,
around what is visited inside. The defaults of a lambda are never visited. -/
theorem Part.visits_eq (inClass : Bool) (p : Part) :
    p.visits inClass =
      (if p.isLambda then [] else p.ahead.flatMap p.childVisits) ++
        match p.node? inClass with
        | some node => [.mk node p.opens (p.inside.flatMap p.childVisits)]
        | none => p.inside.flatMap p.childVisits := by
  cases p with
  | module body =>
    simp [visits, visitOfModule, isLambda, ahead, node?, opens, inside,
      flatMap_childVisits_blockParts, isClass]
  | stmt s =>
    cases s
    case matchCases span subject cases =>
      simp [visits, isLambda, ahead, node?, inside, Stmt.inside, Stmt.visits,
        flatMap_childVisits_exprParts,
        flatMap_childVisits_cases (.stmt (.matchCases span subject cases)) rfl]
    case tryExcept span isStar body handlers orelse finalbody =>
      simp [visits, isLambda, ahead, node?, opens, inside, Stmt.inside, Stmt.visits, isClass,
        flatMap_childVisits_blockParts,
        flatMap_childVisits_handlers
          (.stmt (.tryExcept span isStar body handlers orelse finalbody)) rfl]
    all_goals
      simp [visits, isLambda, ahead, node?, opens, inside, Stmt.inside, Stmt.visits, isClass,
        flatMap_childVisits_exprParts, flatMap_childVisits_blockParts, visitsOfExprs_eq,
        visitsOfOption_eq, visitsOfKeywords_eq, visitsOfDefaults_eq, visitsOfContexts_eq]
  | expr e =>
    cases e <;>
      simp [visits, isLambda, ahead, node?, opens, inside, Expr.operands, Expr.visits,
        flatMap_childVisits_exprParts, visitsOfExprs_eq, visitsOfOption_eq, visitsOfKeywords_eq,
        visitsOfItems_eq, visitsOfClauses_eq]

/-! ### What rules see of a part -/

/-- What rules see of a part: one constructor for each kind of node. -/
inductive Part.Shows (inClass : Bool) : Part → Node → Prop where
  | module (body : List Stmt) : Shows inClass (.module body) (.module body)
  | functionDef (span : Span) (isAsync : Bool) (name : String) (params : List Parameter)
      (body : List Stmt) (decorators : List Expr) :
      Shows inClass (.stmt (.functionDef span isAsync name params body decorators))
        (.functionDef ⟨span.start, name, body, decorators, isAsync, inClass⟩)
  | classDef (span : Span) (name : String) (bases : List Expr) (keywords : List Keyword)
      (body : List Stmt) (decorators : List Expr) :
      Shows inClass (.stmt (.classDef span name bases keywords body decorators))
        (.classDef span.start name bases)
  | assign (span : Span) (targets : List Expr) (value : Expr) :
      Shows inClass (.stmt (.assign span targets value)) (.assign span.start targets value)
  | ifElse (span : Span) (test : Expr) (body orelse : List Stmt) :
      Shows inClass (.stmt (.ifElse span test body orelse)) (.ifElse span.start test)
  | withBlock (span : Span) (isAsync : Bool) (items : List WithItem) (body : List Stmt) :
      Shows inClass (.stmt (.withBlock span isAsync items body)) (.withBlock span.start items body)
  | tryExcept (span : Span) (isStar : Bool) (body : List Stmt) (handlers : List Handler)
      (orelse finalbody : List Stmt) :
      Shows inClass (.stmt (.tryExcept span isStar body handlers orelse finalbody))
        (.tryExcept span.start body handlers orelse finalbody)
  | importNames (span : Span) (names : List Alias) :
      Shows inClass (.stmt (.importNames span names)) (.importNames span.start names)
  | importFrom (span : Span) (base : Option String) (names : List Alias) (level : Nat) :
      Shows inClass (.stmt (.importFrom span base names level))
        (.importFrom span.start base names level)
  | call (span : Span) (func : Expr) (args : List Expr) (keywords : List Keyword) :
      Shows inClass (.expr (.call span func args keywords)) (.call span func)
  | binOp (span : Span) (left : Expr) (op : BinaryOperator) (right : Expr) :
      Shows inClass (.expr (.binOp span left op right)) (.binOp span left op)
  | constant (span : Span) (value : Constant) (kind : Option String) :
      Shows inClass (.expr (.constant span value kind)) (.constant span value kind)

lemma Part.node?_eq_some_iff {p : Part} {inClass : Bool} {node : Node} :
    p.node? inClass = some node ↔ p.Shows inClass node := by
  constructor
  · intro h
    cases p with
    | module body =>
      cases h
      exact .module body
    | stmt s => cases s <;> cases h <;> constructor
    | expr e => cases e <;> cases h <;> constructor
  · rintro ⟨⟩ <;> rfl

lemma Part.eq_lambda_of_isLambda {p : Part} (h : p.isLambda) :
    ∃ span params body, p = .expr (.lambda span params body) := by
  cases p with
  | expr e =>
    cases e with
    | lambda span params body => exact ⟨span, params, body, rfl⟩
    | _ => cases h
  | _ => cases h

/-! ### Parts are smaller than what holds them -/

lemma sizeOf_lt_of_mem_toList {α : Type} [SizeOf α] {a : α} {o : Option α} (h : a ∈ o.toList) :
    sizeOf a < sizeOf o := by
  cases o with
  | none => simp at h
  | some b =>
    obtain rfl : a = b := by simpa using h
    simp

lemma lt_sizeOf_of_mem_flatMap {α β : Type} [SizeOf α] {f : α → List β} {b : β} {n : Nat}
    (hf : ∀ a, b ∈ f a → n < sizeOf a) {as : List α} (h : b ∈ as.flatMap f) : n < sizeOf as := by
  obtain ⟨a, ha, hb⟩ := List.mem_flatMap.mp h
  exact Nat.lt_trans (hf a hb) (List.sizeOf_lt_of_mem ha)

lemma Parameter.sizeOf_lt_of_mem_exprs {e : Expr} {param : Parameter} (h : e ∈ param.exprs) :
    sizeOf e < sizeOf param := by
  cases param with
  | mk name default =>
    have hdefault : sizeOf e < sizeOf default := sizeOf_lt_of_mem_toList h
    simp only [Parameter.mk.sizeOf_spec]
    omega

lemma Keyword.sizeOf_lt_of_mem_exprs {e : Expr} {keyword : Keyword} (h : e ∈ keyword.exprs) :
    sizeOf e < sizeOf keyword := by
  cases keyword with
  | mk name value =>
    obtain rfl : e = value := by simpa [Keyword.exprs] using h
    simp only [Keyword.mk.sizeOf_spec]
    omega

lemma DictItem.sizeOf_lt_of_mem_exprs {e : Expr} {item : DictItem} (h : e ∈ item.exprs) :
    sizeOf e < sizeOf item := by
  cases item with
  | mk key value =>
    simp only [DictItem.mk.sizeOf_spec]
    rcases List.mem_append.mp h with hk | hv
    · have hkey : sizeOf e < sizeOf key := sizeOf_lt_of_mem_toList hk
      omega
    · obtain rfl : e = value := by simpa using hv
      omega

lemma Clause.sizeOf_lt_of_mem_exprs {e : Expr} {clause : Clause} (h : e ∈ clause.exprs) :
    sizeOf e < sizeOf clause := by
  cases clause with
  | mk target iter conditions =>
    simp only [Clause.mk.sizeOf_spec]
    simp only [Clause.exprs, List.mem_cons] at h
    rcases h with rfl | rfl | hc
    · omega
    · omega
    · have hcondition : sizeOf e < sizeOf conditions := List.sizeOf_lt_of_mem hc
      omega

lemma WithItem.sizeOf_lt_of_mem_exprs {e : Expr} {item : WithItem} (h : e ∈ item.exprs) :
    sizeOf e < sizeOf item := by
  cases item with
  | mk context vars =>
    simp only [WithItem.mk.sizeOf_spec]
    rcases List.mem_cons.mp h with rfl | hv
    · omega
    · have hvars : sizeOf e < sizeOf vars := sizeOf_lt_of_mem_toList hv
      omega

lemma Expr.sizeOf_lt_of_mem_operands {e f : Expr} (h : e ∈ f.operands) : sizeOf e < sizeOf f := by
  have he : ∀ es : List Expr, e ∈ es → sizeOf e < sizeOf es := fun _ => List.sizeOf_lt_of_mem
  have ho : ∀ o : Option Expr, e ∈ o.toList → sizeOf e < sizeOf o := fun _ => sizeOf_lt_of_mem_toList
  have hk : ∀ ks : List Keyword, e ∈ ks.flatMap Keyword.exprs → sizeOf e < sizeOf ks :=
    fun _ => lt_sizeOf_of_mem_flatMap fun _ => Keyword.sizeOf_lt_of_mem_exprs
  have hd : ∀ ds : List DictItem, e ∈ ds.flatMap DictItem.exprs → sizeOf e < sizeOf ds :=
    fun _ => lt_sizeOf_of_mem_flatMap fun _ => DictItem.sizeOf_lt_of_mem_exprs
  have hc : ∀ cs : List Clause, e ∈ cs.flatMap Clause.exprs → sizeOf e < sizeOf cs :=
    fun _ => lt_sizeOf_of_mem_flatMap fun _ => Clause.sizeOf_lt_of_mem_exprs
  cases f <;>
    simp only [Expr.operands, List.mem_cons, List.mem_append, List.cons_append, List.not_mem_nil,
      or_false] at h <;>
    grind

lemma mem_exprParts {role : Role} {es : List Expr} {c : Role × Part} :
    c ∈ exprParts role es ↔ ∃ e ∈ es, c = (role, .expr e) := by
  simp [exprParts, eq_comm]

lemma mem_blockParts {body : List Stmt} {c : Role × Part} :
    c ∈ blockParts body ↔ ∃ s ∈ body, c = (.block, .stmt s) := by
  simp [blockParts, eq_comm]

lemma sizeOf_le_of_mem_exprParts {role : Role} {es : List Expr} {c : Role × Part} {n : Nat}
    (hn : ∀ e ∈ es, sizeOf e < n) (h : c ∈ exprParts role es) : sizeOf c.2 ≤ n := by
  obtain ⟨e, he, rfl⟩ := mem_exprParts.mp h
  have he : sizeOf e < n := hn e he
  simp only [Part.expr.sizeOf_spec]
  omega

lemma sizeOf_le_of_mem_blockParts {body : List Stmt} {c : Role × Part}
    (h : c ∈ blockParts body) : sizeOf c.2 ≤ sizeOf body := by
  obtain ⟨s, hs, rfl⟩ := mem_blockParts.mp h
  have hlt : sizeOf s < sizeOf body := List.sizeOf_lt_of_mem hs
  simp only [Part.stmt.sizeOf_spec]
  omega

lemma Handler.sizeOf_lt_of_mem_parts {c : Role × Part} {handler : Handler}
    (h : c ∈ handler.parts) : sizeOf c.2 < sizeOf handler := by
  cases handler with
  | mk type name body =>
    simp only [Handler.mk.sizeOf_spec]
    rcases List.mem_append.mp h with ht | hb
    · have htype : sizeOf c.2 ≤ sizeOf type :=
        sizeOf_le_of_mem_exprParts (fun _ => sizeOf_lt_of_mem_toList) ht
      omega
    · have hbody : sizeOf c.2 ≤ sizeOf body := sizeOf_le_of_mem_blockParts hb
      omega

lemma MatchCase.sizeOf_lt_of_mem_parts {c : Role × Part} {case : MatchCase}
    (h : c ∈ case.parts) : sizeOf c.2 < sizeOf case := by
  cases case with
  | mk guard body =>
    simp only [MatchCase.mk.sizeOf_spec]
    rcases List.mem_append.mp h with hg | hb
    · have hguard : sizeOf c.2 ≤ sizeOf guard :=
        sizeOf_le_of_mem_exprParts (fun _ => sizeOf_lt_of_mem_toList) hg
      omega
    · have hbody : sizeOf c.2 ≤ sizeOf body := sizeOf_le_of_mem_blockParts hb
      omega

lemma Stmt.sizeOf_le_of_mem_inside {c : Role × Part} {s : Stmt} (h : c ∈ s.inside) :
    sizeOf c.2 ≤ sizeOf s := by
  have he : ∀ (e : Expr) (es : List Expr), e ∈ es → sizeOf e < sizeOf es :=
    fun _ _ => List.sizeOf_lt_of_mem
  have ho : ∀ (e : Expr) (o : Option Expr), e ∈ o.toList → sizeOf e < sizeOf o :=
    fun _ _ => sizeOf_lt_of_mem_toList
  have hk : ∀ (e : Expr) (ks : List Keyword), e ∈ ks.flatMap Keyword.exprs → sizeOf e < sizeOf ks :=
    fun _ _ => lt_sizeOf_of_mem_flatMap fun _ => Keyword.sizeOf_lt_of_mem_exprs
  have hw : ∀ (e : Expr) (ws : List WithItem), e ∈ ws.flatMap WithItem.exprs → sizeOf e < sizeOf ws :=
    fun _ _ => lt_sizeOf_of_mem_flatMap fun _ => WithItem.sizeOf_lt_of_mem_exprs
  have hb : ∀ body : List Stmt, c ∈ blockParts body → sizeOf c.2 ≤ sizeOf body :=
    fun _ => sizeOf_le_of_mem_blockParts
  have hh : ∀ hs : List Handler, c ∈ hs.flatMap Handler.parts → sizeOf c.2 < sizeOf hs :=
    fun _ => lt_sizeOf_of_mem_flatMap fun _ => Handler.sizeOf_lt_of_mem_parts
  have hm : ∀ ms : List MatchCase, c ∈ ms.flatMap MatchCase.parts → sizeOf c.2 < sizeOf ms :=
    fun _ => lt_sizeOf_of_mem_flatMap fun _ => MatchCase.sizeOf_lt_of_mem_parts
  cases s <;>
    simp only [Stmt.inside, List.mem_append, mem_exprParts, List.mem_cons, List.not_mem_nil,
      or_false] at h <;>
    grind

lemma sizeOf_le_of_mem_defaults {c : Role × Part} {params : List Parameter}
    (h : c ∈ exprParts .default (params.flatMap Parameter.exprs)) : sizeOf c.2 ≤ sizeOf params :=
  sizeOf_le_of_mem_exprParts
    (fun _ => lt_sizeOf_of_mem_flatMap fun _ => Parameter.sizeOf_lt_of_mem_exprs) h

lemma sizeOf_le_of_mem_decorators {c : Role × Part} {decorators : List Expr}
    (h : c ∈ exprParts .decorator decorators) : sizeOf c.2 ≤ sizeOf decorators :=
  sizeOf_le_of_mem_exprParts (fun _ => List.sizeOf_lt_of_mem) h

lemma Part.sizeOf_lt_of_mem_ahead {c : Role × Part} {p : Part} (h : c ∈ p.ahead) :
    sizeOf c.2 < sizeOf p := by
  cases p with
  | module body => cases h
  | stmt s =>
    cases s with
    | functionDef span isAsync name params body decorators =>
      simp only [Part.stmt.sizeOf_spec, Stmt.functionDef.sizeOf_spec]
      rcases List.mem_append.mp h with hdecorator | hdefault
      · have hle : sizeOf c.2 ≤ sizeOf decorators := sizeOf_le_of_mem_decorators hdecorator
        omega
      · have hle : sizeOf c.2 ≤ sizeOf params := sizeOf_le_of_mem_defaults hdefault
        omega
    | classDef span name bases keywords body decorators =>
      have hle : sizeOf c.2 ≤ sizeOf decorators := sizeOf_le_of_mem_decorators h
      simp only [Part.stmt.sizeOf_spec, Stmt.classDef.sizeOf_spec]
      omega
    | _ => cases h
  | expr e =>
    cases e with
    | lambda span params body =>
      have hle : sizeOf c.2 ≤ sizeOf params := sizeOf_le_of_mem_defaults h
      simp only [Part.expr.sizeOf_spec, Expr.lambda.sizeOf_spec]
      omega
    | _ => cases h

lemma Part.sizeOf_lt_of_mem_inside {c : Role × Part} {p : Part} (h : c ∈ p.inside) :
    sizeOf c.2 < sizeOf p := by
  cases p with
  | module body =>
    have hle : sizeOf c.2 ≤ sizeOf body := sizeOf_le_of_mem_blockParts h
    simp only [Part.module.sizeOf_spec]
    omega
  | stmt s =>
    have hle : sizeOf c.2 ≤ sizeOf s := Stmt.sizeOf_le_of_mem_inside h
    simp only [Part.stmt.sizeOf_spec]
    omega
  | expr e =>
    have hle : sizeOf c.2 ≤ sizeOf e :=
      sizeOf_le_of_mem_exprParts (fun _ => Expr.sizeOf_lt_of_mem_operands) h
    simp only [Part.expr.sizeOf_spec]
    omega

theorem Part.sizeOf_lt_of_mem_children {c : Role × Part} {p : Part} (h : c ∈ p.children) :
    sizeOf c.2 < sizeOf p := by
  rcases List.mem_append.mp h with ha | hi
  · exact sizeOf_lt_of_mem_ahead ha
  · exact sizeOf_lt_of_mem_inside hi

/-- Induction over parts: a property that a part has whenever all parts in it have it. -/
theorem Part.induct {P : Part → Prop} (step : ∀ p, (∀ c ∈ p.children, P c.2) → P p) (p : Part) :
    P p := by
  induction hn : sizeOf p using Nat.strongRecOn generalizing p with
  | ind n ih =>
    subst hn
    exact step p fun c hc => ih (sizeOf c.2) (Part.sizeOf_lt_of_mem_children hc) c.2 rfl

end SaltConventions
