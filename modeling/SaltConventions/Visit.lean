import SaltConventions.Scope
import SaltConventions.SyntaxTree

/-!
# What a walk visits

The nodes that rules can see form a forest inside the syntax tree: `Visit` is one such node with the
nodes visited inside it, in order, and the construct that its inside stands in. Decorators and
parameter defaults belong to the surroundings of a definition and are visited before it. The
defaults of a lambda are not visited.
-/

namespace SaltConventions

/-- The kinds of nodes that rules can ask for. -/
inductive NodeKind where
  | module
  | importNames
  | importFrom
  | assign
  | functionDef
  | classDef
  | ifElse
  | tryExcept
  | withBlock
  | call
  | binOp
  | constant
  deriving DecidableEq, Repr, Inhabited

def NodeKind.all : List NodeKind :=
  [.module, .importNames, .importFrom, .assign, .functionDef, .classDef, .ifElse, .tryExcept,
    .withBlock, .call, .binOp, .constant]

/-- A function definition as rules see it; `inClass` holds directly in a class body. -/
structure FunctionNode where
  start : Nat
  name : String
  body : List Stmt
  decorators : List Expr
  isAsync : Bool
  inClass : Bool

/-- A syntax node as rules see it. -/
inductive Node where
  | module (body : List Stmt)
  | importNames (start : Nat) (names : List Alias)
  | importFrom (start : Nat) (module : Option String) (names : List Alias) (level : Nat)
  | assign (start : Nat) (targets : List Expr) (value : Expr)
  | functionDef (function : FunctionNode)
  | classDef (start : Nat) (name : String) (bases : List Expr)
  | ifElse (start : Nat) (test : Expr)
  | tryExcept (start : Nat) (body : List Stmt) (handlers : List Handler)
      (orelse finalbody : List Stmt)
  | withBlock (start : Nat) (items : List WithItem) (body : List Stmt)
  | call (span : Span) (func : Expr)
  | binOp (span : Span) (left : Expr) (op : BinaryOperator)
  | constant (span : Span) (value : Constant) (kind : Option String)

namespace Node

def kind : Node → NodeKind
  | module .. => .module
  | importNames .. => .importNames
  | importFrom .. => .importFrom
  | assign .. => .assign
  | functionDef .. => .functionDef
  | classDef .. => .classDef
  | ifElse .. => .ifElse
  | tryExcept .. => .tryExcept
  | withBlock .. => .withBlock
  | call .. => .call
  | binOp .. => .binOp
  | constant .. => .constant

def start : Node → Nat
  | module _ => 0
  | importNames start _ => start
  | importFrom start _ _ _ => start
  | assign start _ _ => start
  | functionDef function => function.start
  | classDef start _ _ => start
  | ifElse start _ => start
  | tryExcept start _ _ _ _ => start
  | withBlock start _ _ => start
  | call span _ => span.start
  | binOp span _ _ => span.start
  | constant span _ _ => span.start

end Node

/-- A visited node, the construct its inside stands in, and what is visited inside it. -/
inductive Visit where
  | mk (node : Node) (opens : Option Construct) (inside : List Visit)

mutual

/-- What is visited in an expression. -/
def Expr.visits : Expr → List Visit
  | .boolOp _ values => visitsOfExprs values
  | .namedExpr _ target value => target.visits ++ value.visits
  | .binOp span left op right => [.mk (.binOp span left op) none (left.visits ++ right.visits)]
  | .unaryOp _ operand => operand.visits
  | .lambda _ _ body => body.visits
  | .ifExp _ test body orelse => test.visits ++ body.visits ++ orelse.visits
  | .dict _ items => visitsOfItems items
  | .set _ items => visitsOfExprs items
  | .listComp _ element clauses => element.visits ++ visitsOfClauses clauses
  | .setComp _ element clauses => element.visits ++ visitsOfClauses clauses
  | .dictComp _ key value clauses => key.visits ++ value.visits ++ visitsOfClauses clauses
  | .generator _ element clauses => element.visits ++ visitsOfClauses clauses
  | .await _ value => value.visits
  | .yield _ value => visitsOfOption value
  | .yieldFrom _ value => value.visits
  | .compare _ left comparators => left.visits ++ visitsOfExprs comparators
  | .call span func args keywords =>
    [.mk (.call span func) none (func.visits ++ visitsOfExprs args ++ visitsOfKeywords keywords)]
  | .formattedValue _ value format => value.visits ++ visitsOfOption format
  | .joinedStr _ values => visitsOfExprs values
  | .constant span value kind => [.mk (.constant span value kind) none []]
  | .attribute _ value _ => value.visits
  | .subscript _ value index => value.visits ++ index.visits
  | .starred _ value => value.visits
  | .name _ _ => []
  | .list _ items => visitsOfExprs items
  | .tuple _ items => visitsOfExprs items
  | .slice _ lower upper step =>
    visitsOfOption lower ++ visitsOfOption upper ++ visitsOfOption step

def visitsOfExprs : List Expr → List Visit
  | [] => []
  | e :: later => e.visits ++ visitsOfExprs later

def visitsOfOption : Option Expr → List Visit
  | none => []
  | some e => e.visits

def visitsOfKeywords : List Keyword → List Visit
  | [] => []
  | .mk _ value :: later => value.visits ++ visitsOfKeywords later

/-- What is visited in the entries of a dictionary display: each key before its value. -/
def visitsOfItems : List DictItem → List Visit
  | [] => []
  | .mk key value :: later => visitsOfOption key ++ value.visits ++ visitsOfItems later

def visitsOfClauses : List Clause → List Visit
  | [] => []
  | .mk target iter conditions :: later =>
    target.visits ++ iter.visits ++ visitsOfExprs conditions ++ visitsOfClauses later

end

def visitsOfDefaults (params : List Parameter) : List Visit :=
  params.flatMap fun
    | .mk _ default => visitsOfOption default

def visitsOfContexts (items : List WithItem) : List Visit :=
  items.flatMap fun item => item.context.visits ++ visitsOfOption item.vars

mutual

/-- What is visited in a statement; `inClass` tells whether it stands directly in a class body. -/
def Stmt.visits (inClass : Bool) : Stmt → List Visit
  | .functionDef span isAsync name params body decorators =>
    visitsOfExprs decorators ++ visitsOfDefaults params
      ++ [.mk (.functionDef ⟨span.start, name, body, decorators, isAsync, inClass⟩)
          (some .function) (visitsOfBody false body)]
  | .classDef span name bases keywords body decorators =>
    visitsOfExprs decorators
      ++ [.mk (.classDef span.start name bases) none
          (visitsOfExprs bases ++ visitsOfKeywords keywords ++ visitsOfBody true body)]
  | .ret _ value => visitsOfOption value
  | .delete _ targets => visitsOfExprs targets
  | .assign span targets value =>
    [.mk (.assign span.start targets value) none (visitsOfExprs targets ++ value.visits)]
  | .typeAlias _ => []
  | .augAssign _ target value => target.visits ++ value.visits
  | .annAssign _ target value => target.visits ++ visitsOfOption value
  | .forLoop _ _ target iter body orelse =>
    target.visits ++ iter.visits ++ visitsOfBody false body ++ visitsOfBody false orelse
  | .whileLoop _ test body orelse =>
    test.visits ++ visitsOfBody false body ++ visitsOfBody false orelse
  | .ifElse span test body orelse =>
    [.mk (.ifElse span.start test) (some .ifElse)
      (test.visits ++ visitsOfBody false body ++ visitsOfBody false orelse)]
  | .withBlock span _ items body =>
    [.mk (.withBlock span.start items body) (some .withBlock)
      (visitsOfContexts items ++ visitsOfBody false body)]
  | .matchCases _ subject cases => subject.visits ++ visitsOfCases cases
  | .raise _ exc cause => visitsOfOption exc ++ visitsOfOption cause
  | .tryExcept span _ body handlers orelse finalbody =>
    [.mk (.tryExcept span.start body handlers orelse finalbody)
      (if handlers.isEmpty then none else some .tryExcept)
      (visitsOfBody false body ++ visitsOfHandlers handlers ++ visitsOfBody false orelse
        ++ visitsOfBody false finalbody)]
  | .assert _ test msg => test.visits ++ visitsOfOption msg
  | .importNames span names => [.mk (.importNames span.start names) none []]
  | .importFrom span module names level =>
    [.mk (.importFrom span.start module names level) none []]
  | .scopeNames _ _ => []
  | .expr _ value => value.visits
  | .pass _ => []
  | .jump _ => []

def visitsOfBody (inClass : Bool) : List Stmt → List Visit
  | [] => []
  | s :: later => s.visits inClass ++ visitsOfBody inClass later

/-- What is visited in exception handlers: the type of each before its body. -/
def visitsOfHandlers : List Handler → List Visit
  | [] => []
  | .mk type _ body :: later =>
    visitsOfOption type ++ visitsOfBody false body ++ visitsOfHandlers later

/-- What is visited in match cases: the guard of each before its body. -/
def visitsOfCases : List MatchCase → List Visit
  | [] => []
  | .mk guard body :: later =>
    visitsOfOption guard ++ visitsOfBody false body ++ visitsOfCases later

end

/-- What is visited in a module: the module itself, around everything else. -/
def visitOfModule (body : List Stmt) : Visit :=
  .mk (.module body) none (visitsOfBody false body)

end SaltConventions
