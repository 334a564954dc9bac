import SaltConventions.Loggers
import SaltConventions.Rule

/-!
# Logging while modules are loaded

The function `__virtual__` of a module runs while the module is being loaded and must not log.
-/

namespace SaltConventions.VirtualLogging

def logInVirtual : Message where
  code := "E1401"
  symbol := "log-in-virtual"
  template := "Log statement detected inside __virtual__ function. Remove it."
  description := "Loader processes __virtual__ so logging not in scope"

/-- The expression that a statement holds directly, outside nested blocks. -/
def directExpr? : Stmt → Option Expr
  | .expr _ value => some value
  | .ret _ value => value
  | .assign _ _ value => some value
  | .augAssign _ _ value => some value
  | .annAssign _ _ value => value
  | .ifElse _ test _ _ => some test
  | .whileLoop _ test _ _ => some test
  | _ => none

def checkStmt (ctx : FileContext) (loggers : LoggerNames) (s : Stmt) : Option Finding :=
  match directExpr? s with
  | some (.call span func _ _) =>
    if loggers.isLoggerCall func then some (ctx.findingAt logInVirtual span.start []) else none
  | _ => none

/-- Whether a function is the `__virtual__` of a module: not directly in a class and not inside
another function. -/
def isVirtual (scope : Scope) (function : FunctionNode) : Bool :=
  function.name == "__virtual__" && !function.inClass && !scope.insideFunction

/-- What entering a node does to the loggers known so far, and what is found about it. -/
def enter (ctx : FileContext) (scope : Scope) (node : Node) (loggers : LoggerNames) :
    LoggerNames × List Finding :=
  match node with
  | .module _ => (.conventional, [])
  | .importNames _ names => (loggers.observeImport names, [])
  | .assign _ targets value => (loggers.observeAssign targets value, [])
  | .functionDef function =>
    if isVirtual scope function then
      (loggers, function.body.filterMap (checkStmt ctx loggers))
    else (loggers, [])
  | _ => (loggers, [])

def rule : Rule where
  name := "virt-checker"
  messages := [logInVirtual]
  State := LoggerNames
  initial := .conventional
  watcher :=
    { interests := [.module, .importNames, .assign, .functionDef]
      step := fun ctx event loggers =>
        match event.phase with
        | .enter => enter ctx event.scope event.node loggers
        | .leave => (loggers, []) }

end SaltConventions.VirtualLogging
